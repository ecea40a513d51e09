import StatementTables.Decimal.Layout

/-! # Structured data values

The values of the JSON data format.  A number keeps whether it was written as an integer or with
a fraction or exponent; the fields of an object are kept in the order of their names, each name
once.  `Fields` is the list of fields with `get?`, `insert` and `merge`. -/

namespace StatementTables

/-- A number: an integer, or a finite double. -/
inductive JsonNumber where
  | int (value : Int)
  | float (value : Float)

inductive Json where
  | null
  | bool (value : Bool)
  | number (value : JsonNumber)
  | string (content : String)
  | array (items : List Json)
  | object (fields : List (String × Json))

instance : Inhabited Json := ⟨.null⟩

/-- The text of a number: the digits of an integer, or the shortest text of a double. -/
def JsonNumber.text : JsonNumber → String
  | int n => .ofList (Decimal.intDigits n)
  | float x => Decimal.write .data x

/-- Named values in ascending order of their names, each name once. -/
abbrev Fields := List (String × Json)

namespace Fields

/-- The value of a field. -/
def get? (fields : Fields) (name : String) : Option Json :=
  fields.lookup name

/-- The fields with one of them set, in its place by name. -/
def insert (fields : Fields) (name : String) (value : Json) : Fields :=
  match fields with
  | [] => [(name, value)]
  | (n, v) :: rest =>
    if name < n then (name, value) :: (n, v) :: rest
    else if name = n then (name, value) :: rest
    else (n, v) :: insert rest name value

/-- All fields of the second list set in the first, from the front. -/
def merge (fields others : Fields) : Fields :=
  others.foldl (fun acc f => acc.insert f.1 f.2) fields

/-- The fields in order, where the last of several values for one name counts. -/
def ofList (fields : List (String × Json)) : Fields :=
  merge [] fields

end Fields

namespace Json

/-- An object with the given fields. -/
def ofFields (fields : List (String × Json)) : Json :=
  object (Fields.ofList fields)

def int (n : Int) : Json := number (.int n)

def nat (n : Nat) : Json := number (.int n)

def strings (texts : List String) : Json := array (texts.map string)

/-- A value or `null`. -/
def orNull {α : Type} (f : α → Json) : Option α → Json
  | some a => f a
  | none => null

end Json

/-! ### Fields by name -/

@[simp] theorem Fields.get?_insert_self (fields : Fields) (name : String) (value : Json) :
    Fields.get? (fields.insert name value) name = some value := by
  induction fields with
  | nil => simp [Fields.insert, Fields.get?]
  | cons f rest ih =>
    obtain ⟨n, v⟩ := f
    simp only [Fields.insert]
    split
    · simp [Fields.get?]
    · split
      · simp [Fields.get?]
      · rename_i _ hne
        simp only [Fields.get?, List.lookup_cons]
        rw [beq_eq_false_iff_ne.2 hne]
        exact ih

theorem Fields.get?_insert_of_ne {name other : String} (h : other ≠ name) (fields : Fields)
    (value : Json) : Fields.get? (fields.insert name value) other = Fields.get? fields other := by
  induction fields with
  | nil => simp [Fields.insert, Fields.get?, List.lookup_cons, beq_eq_false_iff_ne.2 h]
  | cons f rest ih =>
    obtain ⟨n, v⟩ := f
    simp only [Fields.insert]
    split
    · simp [Fields.get?, List.lookup_cons, beq_eq_false_iff_ne.2 h]
    · split
      · rename_i heq
        subst heq
        simp [Fields.get?, List.lookup_cons, beq_eq_false_iff_ne.2 h]
      · simp only [Fields.get?, List.lookup_cons] at ih ⊢
        split <;> simp_all

end StatementTables
