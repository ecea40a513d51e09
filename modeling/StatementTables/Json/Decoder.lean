import StatementTables.Json.Raw

/-! # Typed reading

A `Decoder` reads a value of some type from a raw value, or refuses it.  Records are read from an
object, whose unknown fields are passed over whatever they hold, or from an array that gives the
leading fields in the order of their declaration; a known field given twice is refused.  The first
argument of a decoder is the depth of nesting that is still allowed. -/

namespace StatementTables.Json

/-- Reads a raw value found where `depth` levels of nesting are left. -/
abbrev Decoder (α : Type) := (depth : Nat) → Raw → Option α

namespace Decoder

/-- Any value. -/
def value : Decoder Json := fun depth raw => raw.value? depth

def string : Decoder String
  | _, .string s => s
  | _, _ => none

def bool : Decoder Bool
  | _, .bool b => some b
  | _, _ => none

/-- An integer between two bounds. -/
def integer (low high : Int) : Decoder Int
  | _, .number (some (.int n)) => if low ≤ n ∧ n ≤ high then some n else none
  | _, _ => none

/-- A signed integer of 64 bits. -/
def int64 : Decoder Int := integer (-9223372036854775808) 9223372036854775807

/-- A natural number of at most `bits` bits. -/
def natural (bits : Nat) : Decoder Nat := fun depth raw =>
  (integer 0 (Nat.pow 2 bits - 1 : Nat) depth raw).map Int.toNat

/-- `null` for nothing, or what another decoder reads. -/
def nullable {α : Type} (decoder : Decoder α) : Decoder (Option α)
  | _, .null => some none
  | depth, raw => (decoder depth raw).map some

/-- An array whose items another decoder reads. -/
def list {α : Type} (decoder : Decoder α) : Decoder (List α)
  | depth, .array items => if depth ≤ 1 then none else items.mapM (decoder (depth - 1))
  | _, _ => none

/-- One of some words, or an object with `null` under one of them. -/
def oneOf {α : Type} (words : List (String × α)) : Decoder α
  | _, .string (some word) => words.lookup word
  | depth, .object [(some word, .null)] => if depth ≤ 1 then none else words.lookup word
  | _, _ => none

/-- An object with any fields. -/
def fields : Decoder Fields := fun depth raw =>
  match raw.value? depth with
  | some (.object fs) => some fs
  | _ => none

end Decoder

/-! ### Records -/

/-- The raw values of a record's fields, in the order of declaration, and the depth they have. -/
structure Record where
  depth : Nat
  slots : List (String × Raw)
  /-- Whether the fields were given by their names. -/
  named : Bool

/-- The fields of an object that have one of the names; none when one of them occurs twice or a
name is no text. -/
def knownFields? (names : List String) :
    List (Option String × Raw) → Option (List (String × Raw))
  | [] => some []
  | (name?, raw) :: rest => do
    let name ← name?
    let known ← knownFields? names rest
    if !names.contains name then return known
    else if (known.lookup name).isSome then none
    else return (name, raw) :: known

/-- The fields of a record with the given names. -/
def Record.read? (names : List String) (depth : Nat) (raw : Raw) : Option Record :=
  if depth ≤ 1 then none
  else match raw with
    | .object fields => (knownFields? names fields).map fun slots => ⟨depth - 1, slots, true⟩
    | .array items =>
      if names.length < items.length then none else some ⟨depth - 1, names.zip items, false⟩
    | _ => none

namespace Record

variable {α : Type}

/-- A field that has to be there. -/
def required (r : Record) (name : String) (decoder : Decoder α) : Option α :=
  (r.slots.lookup name).bind (decoder r.depth)

/-- A field that may be `null`, and be left out where the fields have names. -/
def nullable (r : Record) (name : String) (decoder : Decoder α) : Option (Option α) :=
  match r.slots.lookup name with
  | some raw => Decoder.nullable decoder r.depth raw
  | none => if r.named then some none else none

/-- A field with a value for when it is left out. -/
def defaulted (r : Record) (name : String) (decoder : Decoder α) (default : α) : Option α :=
  match r.slots.lookup name with
  | some raw => decoder r.depth raw
  | none => some default

/-- A field that may be left out or be `null`. -/
def optional (r : Record) (name : String) (decoder : Decoder α) : Option (Option α) :=
  r.defaulted name (.nullable decoder) none

end Record

end StatementTables.Json
