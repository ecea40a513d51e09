import Mathlib.Data.List.Basic
import StatementTables.Pattern.Basic

/-! # What patterns describe

A pattern is followed through a text along all of its choices at once, with a flag for every place
of the text.  That is a matter of one place and another: `Spans p a b` says that `p` describes what
is between the places `a` and `b`, by the parts of the pattern and without any sets.  The flags that
are reached are those of the places that a described part ends at (`follows_reach`), so a pattern is
found in a text exactly if it describes a part of it (`foundIn_iff`). -/

namespace StatementTables.Pattern

/-! ### Places -/

/-- A place in a text: what comes before it, nearest first, and what comes after it. -/
structure Place where
  before : List Char
  after : List Char

/-- The text around a place. -/
def Place.text (a : Place) : List Char := a.before.reverse ++ a.after

/-- A relation gone along `n` times. -/
def Repeats (R : Place → Place → Prop) : Nat → Place → Place → Prop
  | 0, a, b => a = b
  | n + 1, a, c => ∃ b, R a b ∧ Repeats R n b c

mutual

/-- A pattern describes what is between two places of a text.  A greatest count below the least
leaves the least. -/
def Spans : Pattern → Place → Place → Prop
  | .empty, a, b => a = b
  | .char set, a, b =>
    ∃ c cs, a.after = c :: cs ∧ set.contains c.toNat = true ∧ b = ⟨c :: a.before, cs⟩
  | .condition c, a, b => a = b ∧ c.holds a.before.head? a.after.head? = true
  | .group inner, a, b => Spans inner a b
  | .repeated inner min max, a, b =>
    ∃ n, min ≤ n ∧ (∀ m, max = some m → n ≤ m ∨ n ≤ min) ∧ Repeats (Spans inner) n a b
  | .sequence parts, a, b => SpansAll parts a b
  | .choice branches, a, b => SpansAny branches a b

def SpansAll : List Pattern → Place → Place → Prop
  | [], a, b => a = b
  | part :: parts, a, c => ∃ b, Spans part a b ∧ SpansAll parts b c

def SpansAny : List Pattern → Place → Place → Prop
  | [], _, _ => False
  | branch :: branches, a, b => Spans branch a b ∨ SpansAny branches a b

end

theorem repeats_add {R : Place → Place → Prop} {m n : Nat} {a c : Place} :
    Repeats R (m + n) a c ↔ ∃ b, Repeats R m a b ∧ Repeats R n b c := by
  induction m generalizing a with
  | zero => simp [Repeats]
  | succ m ih =>
      rw [Nat.add_right_comm, Repeats]
      simp only [ih]
      constructor
      · rintro ⟨a', ha, b, hb, hc⟩
        exact ⟨b, ⟨a', ha, hb⟩, hc⟩
      · rintro ⟨b, ⟨a', ha, hb⟩, hc⟩
        exact ⟨a', ha, b, hb, hc⟩

/-! ### Flags -/

/-- The flag of a place is set. -/
def Has (places : Places) (a : Place) : Prop := places[a.before.length]? = some true

variable {text : List Char} {a b : Place} {p q : Places}

theorem Place.length_before_lt (h : a.text = text) : a.before.length < text.length + 1 := by
  rw [← h, Place.text, List.length_append, List.length_reverse]
  omega

theorem has_iff_getElem (h : a.before.length < p.length) :
    Has p a ↔ p[a.before.length] = true := by
  rw [Has, List.getElem?_eq_getElem h, Option.some_inj]

theorem has_either (ha : a.before.length < p.length) (h : p.length = q.length) :
    Has (either p q) a ↔ Has p a ∨ Has q a := by
  have hboth : a.before.length < (either p q).length := by
    rw [either, List.length_zipWith, ← h, Nat.min_self]
    exact ha
  rw [has_iff_getElem hboth, has_iff_getElem ha, has_iff_getElem (h ▸ ha)]
  simp [either]

theorem has_both : Has (both p q) a ↔ Has p a ∧ Has q a := by
  unfold Has both
  rw [List.getElem?_zipWith]
  cases p[a.before.length]? <;> cases q[a.before.length]? <;> simp

theorem getElem?_conditionPlaces (condition : Condition) (front : Option Char)
    (cs after : List Char) :
    (conditionPlaces condition front (cs ++ after))[cs.length]? =
      some (condition.holds (cs.getLast?.or front) after.head?) := by
  induction cs generalizing front with
  | nil => cases after <;> rfl
  | cons c cs ih =>
      rw [List.cons_append, conditionPlaces, List.length_cons, List.getElem?_cons_succ, ih,
        List.getLast?_cons]
      cases cs.getLast? <;> rfl

theorem length_conditionPlaces (condition : Condition) (front : Option Char) (cs : List Char) :
    (conditionPlaces condition front cs).length = cs.length + 1 := by
  induction cs generalizing front with
  | nil => rfl
  | cons c cs ih => rw [conditionPlaces, List.length_cons, ih, List.length_cons]

theorem has_conditionPlaces (condition : Condition) (h : a.text = text) :
    Has (conditionPlaces condition none text) a ↔
      condition.holds a.before.head? a.after.head? = true := by
  have hflag := getElem?_conditionPlaces condition none a.before.reverse a.after
  rw [List.length_reverse, List.getLast?_reverse, Option.or_none] at hflag
  rw [Has, ← h, Place.text, hflag, Option.some_inj]

/-! ### Steps -/

/-- A step from flags to flags goes along a relation of the places of a text. -/
structure Follows (text : List Char) (step : Places → Places) (R : Place → Place → Prop) :
    Prop where
  text_eq {a b : Place} : R a b → b.text = a.text
  length_eq {places : Places} : places.length = text.length + 1 →
    (step places).length = text.length + 1
  has_iff {places : Places} {b : Place} : places.length = text.length + 1 → b.text = text →
    (Has (step places) b ↔ ∃ a, a.text = text ∧ Has places a ∧ R a b)

namespace Follows

variable {step next : Places → Places} {R S : Place → Place → Prop} {places : Places}

theorem congr (h : Follows text step R) (hRS : ∀ a b, R a b ↔ S a b) : Follows text step S where
  text_eq hab := h.text_eq ((hRS _ _).mpr hab)
  length_eq := h.length_eq
  has_iff hlength hb := by
    rw [h.has_iff hlength hb]
    simp only [hRS]

protected theorem id (text : List Char) : Follows text (fun places => places) Eq where
  text_eq h := h ▸ rfl
  length_eq h := h
  has_iff {places b} _ hb := by
    constructor
    · intro h
      exact ⟨b, hb, h, rfl⟩
    · rintro ⟨a, -, h, rfl⟩
      exact h

theorem never (text : List Char) :
    Follows text (fun places => places.map fun _ => false) fun _ _ => False where
  text_eq h := h.elim
  length_eq h := (List.length_map _).trans h
  has_iff _ _ := by
    simp only [Has, List.getElem?_map, Option.map_eq_some_iff, and_false, exists_false,
      Bool.false_eq_true]

theorem comp (h : Follows text step R) (hnext : Follows text next S) :
    Follows text (fun places => next (step places)) fun a c => ∃ b, R a b ∧ S b c where
  text_eq := by
    rintro a c ⟨b, hab, hbc⟩
    exact (hnext.text_eq hbc).trans (h.text_eq hab)
  length_eq hlength := hnext.length_eq (h.length_eq hlength)
  has_iff {places c} hlength hc := by
    rw [hnext.has_iff (h.length_eq hlength) hc]
    constructor
    · rintro ⟨b, hb, hplace, hbc⟩
      obtain ⟨a, ha, hplace, hab⟩ := (h.has_iff hlength hb).mp hplace
      exact ⟨a, ha, hplace, b, hab, hbc⟩
    · rintro ⟨a, ha, hplace, b, hab, hbc⟩
      have hb : b.text = text := (h.text_eq hab).trans ha
      exact ⟨b, hb, (h.has_iff hlength hb).mpr ⟨a, ha, hplace, hab⟩, hbc⟩

theorem either (h : Follows text step R) (hnext : Follows text next S) :
    Follows text (fun places => Pattern.either (step places) (next places))
      fun a b => R a b ∨ S a b where
  text_eq hab := hab.elim h.text_eq hnext.text_eq
  length_eq hlength := by
    rw [Pattern.either, List.length_zipWith, h.length_eq hlength, hnext.length_eq hlength,
      Nat.min_self]
  has_iff {places b} hlength hb := by
    have hsame : (step places).length = (next places).length :=
      (h.length_eq hlength).trans (hnext.length_eq hlength).symm
    have hin : b.before.length < (step places).length := by
      rw [h.length_eq hlength]
      exact Place.length_before_lt hb
    rw [has_either hin hsame, h.has_iff hlength hb, hnext.has_iff hlength hb]
    simp only [and_or_left, exists_or]

theorem times (h : Follows text step R) (n : Nat) :
    Follows text (Pattern.times step n) (Repeats R n) := by
  induction n with
  | zero => exact .id text
  | succ n ih => exact h.comp ih

theorem atMost (h : Follows text step R) (n : Nat) :
    Follows text (Pattern.atMost step n) fun a b => ∃ k ≤ n, Repeats R k a b := by
  induction n with
  | zero =>
      refine (Follows.id text).congr fun a b => ?_
      simp [Repeats]
  | succ n ih =>
      refine ((Follows.id text).either (h.comp ih)).congr fun a c => ?_
      constructor
      · rintro (rfl | ⟨b, hab, k, hk, hbc⟩)
        · exact ⟨0, n.succ.zero_le, rfl⟩
        · exact ⟨k + 1, Nat.succ_le_succ hk, b, hab, hbc⟩
      · rintro ⟨k, hk, hac⟩
        cases k with
        | zero => exact .inl hac
        | succ k =>
            obtain ⟨b, hab, hbc⟩ := hac
            exact .inr ⟨b, hab, k, Nat.le_of_succ_le_succ hk, hbc⟩

/-! ### Any number of repetitions -/

/-- Each flag that is set anew is one less to set. -/
theorem count_either_lt (hlength : p.length = q.length) (h : Pattern.either p q ≠ p) :
    (Pattern.either p q).count false < p.count false := by
  induction p generalizing q with
  | nil => exact absurd rfl h
  | cons x xs ih =>
      cases q with
      | nil => cases hlength
      | cons y ys =>
          replace h : (x || y) :: Pattern.either xs ys ≠ x :: xs := h
          show ((x || y) :: Pattern.either xs ys).count false < _
          by_cases htail : Pattern.either xs ys = xs
          · -- then the flag in front is the new one
            rw [htail] at h ⊢
            cases x with
            | true => exact absurd rfl h
            | false =>
                cases y with
                | false => exact absurd rfl h
                | true => simp
          · have hlt : (Pattern.either xs ys).count false < xs.count false :=
              ih (Nat.succ.inj hlength) htail
            cases x <;> cases y <;> simp <;> omega

/-- Flags that a step sets no more are all that can be reached. -/
theorem has_of_repeats (h : Follows text step R) (hlength : places.length = text.length + 1)
    (hstable : Pattern.either places (step places) = places) {n : Nat} (ha : a.text = text)
    (hplace : Has places a) (hab : Repeats R n a b) : Has places b := by
  induction n generalizing a with
  | zero => exact hab ▸ hplace
  | succ n ih =>
      obtain ⟨a', haa', hab⟩ := hab
      have ha' : a'.text = text := (h.text_eq haa').trans ha
      refine ih ha' ?_ hab
      rw [← hstable, has_either (hlength ▸ Place.length_before_lt ha')
        (hlength.trans (h.length_eq hlength).symm)]
      exact .inr ((h.has_iff hlength ha').mpr ⟨a, ha, hplace, haa'⟩)

theorem text_eq_of_repeats (h : Follows text step R) {n : Nat} (hab : Repeats R n a b) :
    b.text = a.text := by
  induction n generalizing a with
  | zero => exact hab ▸ rfl
  | succ n ih =>
      obtain ⟨a', haa', hab⟩ := hab
      exact (ih hab).trans (h.text_eq haa')

/-- As many rounds as there are flags to set are enough. -/
theorem has_closure_iff (h : Follows text step R) {rounds : Nat} (hb : b.text = text)
    (hlength : places.length = text.length + 1) (hrounds : places.count false ≤ rounds) :
    Has (Pattern.closure step rounds places) b ↔
      ∃ a, a.text = text ∧ Has places a ∧ ∃ n, Repeats R n a b := by
  induction rounds generalizing places with
  | zero =>
      have hin : b.before.length < places.length := hlength ▸ Place.length_before_lt hb
      have hfull : Has places b := by
        have hnone : false ∉ places := List.count_eq_zero.mp (Nat.le_zero.mp hrounds)
        rw [has_iff_getElem hin, ← Bool.not_eq_false]
        exact fun hfalse => hnone (hfalse ▸ List.getElem_mem hin)
      exact ⟨fun _ => ⟨b, hb, hfull, 0, rfl⟩, fun _ => hfull⟩
  | succ rounds ih =>
      have hsame : places.length = (step places).length :=
        hlength.trans (h.length_eq hlength).symm
      rw [Pattern.closure]
      split
      · rename_i hstable
        constructor
        · intro hplace
          exact ⟨b, hb, hplace, 0, rfl⟩
        · rintro ⟨a, ha, hplace, n, hab⟩
          exact h.has_of_repeats hlength (eq_of_beq hstable) ha hplace hab
      · rename_i hgrows
        have hnext := (Follows.id text).either h
        have hfewer := count_either_lt hsame (by simpa using hgrows)
        rw [ih (hnext.length_eq hlength) (Nat.le_of_lt_succ (Nat.lt_of_lt_of_le hfewer hrounds))]
        constructor
        · rintro ⟨a, ha, hplace, n, hab⟩
          obtain ⟨a', ha', hplace', rfl | haa'⟩ := (hnext.has_iff hlength ha).mp hplace
          · exact ⟨a', ha', hplace', n, hab⟩
          · exact ⟨a', ha', hplace', n + 1, a, haa', hab⟩
        · rintro ⟨a, ha, hplace, n, hab⟩
          exact ⟨a, ha, (hnext.has_iff hlength ha).mpr ⟨a, ha, hplace, .inl rfl⟩, n, hab⟩

theorem length_closure (h : Follows text step R) {rounds : Nat}
    (hlength : places.length = text.length + 1) :
    (Pattern.closure step rounds places).length = text.length + 1 := by
  induction rounds generalizing places with
  | zero => exact hlength
  | succ rounds ih =>
      rw [Pattern.closure]
      split
      · exact hlength
      · exact ih (((Follows.id text).either h).length_eq hlength)

theorem closure (h : Follows text step R) :
    Follows text (Pattern.closure step (text.length + 1)) fun a b => ∃ n, Repeats R n a b where
  text_eq := by
    rintro a b ⟨n, hab⟩
    exact h.text_eq_of_repeats hab
  length_eq := h.length_closure
  has_iff hlength hb := h.has_closure_iff hb hlength (hlength ▸ List.count_le_length)

end Follows

/-! ### Patterns -/

theorem follows_afterChar (text : List Char) (set : CharSet) :
    Follows text (afterChar set text) (Spans (.char set)) where
  text_eq := by
    rintro a b ⟨c, cs, ha, -, rfl⟩
    simp [Place.text, ha]
  length_eq hlength := by
    rw [afterChar, List.length_cons, List.length_zipWith, hlength, Nat.min_eq_left (Nat.le_succ _)]
  has_iff {places b} _ hb := by
    obtain ⟨before, after⟩ := b
    cases before with
    | nil =>
        refine iff_of_false (fun h => ?_) ?_
        · cases h
        · rintro ⟨a, -, -, c, cs, -, -, h⟩
          cases h
    | cons c before =>
        have hc : text[before.length]? = some c := by
          rw [← hb, Place.text]
          simp
        have hhere : Has (afterChar set text places) ⟨c :: before, after⟩ ↔
            Has places ⟨before, c :: after⟩ ∧ set.contains c.toNat = true := by
          rw [Has, afterChar, List.length_cons, List.getElem?_cons_succ, List.getElem?_zipWith, hc,
            Has]
          cases places[before.length]? <;> simp
        rw [hhere]
        constructor
        · rintro ⟨hplace, hset⟩
          refine ⟨⟨before, c :: after⟩, ?_, hplace, c, after, rfl, hset, rfl⟩
          rw [← hb]
          simp [Place.text]
        · rintro ⟨⟨before', after'⟩, -, hplace, c', cs, rfl, hset, h⟩
          cases h
          exact ⟨hplace, hset⟩

theorem follows_condition (text : List Char) (condition : Condition) :
    Follows text (both (conditionPlaces condition none text)) (Spans (.condition condition)) where
  text_eq hab := hab.1 ▸ rfl
  length_eq hlength := by
    rw [both, List.length_zipWith, length_conditionPlaces, hlength, Nat.min_self]
  has_iff {places b} _ hb := by
    rw [has_both, has_conditionPlaces condition hb]
    constructor
    · rintro ⟨hholds, hplace⟩
      exact ⟨b, hb, hplace, rfl, hholds⟩
    · rintro ⟨a, -, hplace, rfl, hholds⟩
      exact ⟨hholds, hplace⟩

theorem follows_repeated {inner : Pattern} (h : Follows text (reach text inner) (Spans inner))
    (min : Nat) (max : Option Nat) :
    Follows text (reach text (.repeated inner min max)) (Spans (.repeated inner min max)) := by
  cases max with
  | none =>
      refine ((h.times min).comp h.closure).congr fun a c => ?_
      constructor
      · rintro ⟨b, hab, n, hbc⟩
        exact ⟨min + n, Nat.le_add_right min n, nofun, repeats_add.mpr ⟨b, hab, hbc⟩⟩
      · rintro ⟨n, hmin, -, hac⟩
        obtain ⟨k, rfl⟩ := Nat.exists_eq_add_of_le hmin
        obtain ⟨b, hab, hbc⟩ := repeats_add.mp hac
        exact ⟨b, hab, k, hbc⟩
  | some max =>
      refine ((h.times min).comp (h.atMost (max - min))).congr fun a c => ?_
      constructor
      · rintro ⟨b, hab, n, hn, hbc⟩
        refine ⟨min + n, Nat.le_add_right min n, ?_, repeats_add.mpr ⟨b, hab, hbc⟩⟩
        rintro _ ⟨⟩
        omega
      · rintro ⟨n, hmin, hmax, hac⟩
        obtain ⟨k, rfl⟩ := Nat.exists_eq_add_of_le hmin
        obtain ⟨b, hab, hbc⟩ := repeats_add.mp hac
        have hk : k ≤ max - min := by
          have := hmax max rfl
          omega
        exact ⟨b, hab, k, hk, hbc⟩

mutual

/-- **The flags that a pattern reaches** are those of the places that a part which it describes ends
at, from the places where one may start. -/
theorem follows_reach (text : List Char) : ∀ p, Follows text (reach text p) (Spans p)
  | .empty => .id text
  | .char set => follows_afterChar text set
  | .condition c => follows_condition text c
  | .group inner => follows_reach text inner
  | .repeated inner min max => follows_repeated (follows_reach text inner) min max
  | .sequence parts => follows_reachAll text parts
  | .choice branches => follows_reachAny text branches

theorem follows_reachAll (text : List Char) :
    ∀ parts, Follows text (reachAll text parts) (SpansAll parts)
  | [] => .id text
  | part :: parts => (follows_reach text part).comp (follows_reachAll text parts)

theorem follows_reachAny (text : List Char) :
    ∀ branches, Follows text (reachAny text branches) (SpansAny branches)
  | [] => .never text
  | branch :: branches => (follows_reach text branch).either (follows_reachAny text branches)

end

/-- A pattern is found in a text exactly if it describes a part of it. -/
theorem foundIn_iff {p : Pattern} {text : String} :
    p.foundIn text = true ↔ ∃ a b : Place, a.text = text.toList ∧ Spans p a b := by
  have hreach := follows_reach text.toList p
  have hlength : (List.replicate (text.toList.length + 1) true).length = text.toList.length + 1 :=
    List.length_replicate
  have hstart : ∀ a : Place, a.text = text.toList →
      Has (List.replicate (text.toList.length + 1) true) a := fun a ha => by
    rw [Has, List.getElem?_replicate, if_pos (Place.length_before_lt ha)]
  rw [foundIn, List.any_eq_true]
  constructor
  · rintro ⟨flag, hflag, hset⟩
    obtain ⟨i, hi, hflag⟩ := List.mem_iff_getElem.mp hflag
    have hle : i ≤ text.toList.length :=
      Nat.le_of_lt_succ (Nat.lt_of_lt_of_eq hi (hreach.length_eq hlength))
    obtain ⟨b, hb, hbefore⟩ : ∃ b : Place, b.text = text.toList ∧ b.before.length = i := by
      refine ⟨⟨(text.toList.take i).reverse, text.toList.drop i⟩, by simp [Place.text], ?_⟩
      rw [List.length_reverse, List.length_take, Nat.min_eq_left hle]
    have hplace : Has (reach text.toList p (List.replicate (text.toList.length + 1) true)) b := by
      rw [Has, hbefore, List.getElem?_eq_getElem hi, hflag]
      exact congrArg some hset
    obtain ⟨a, ha, -, hab⟩ := (hreach.has_iff hlength hb).mp hplace
    exact ⟨a, b, ha, hab⟩
  · rintro ⟨a, b, ha, hab⟩
    have hb : b.text = text.toList := (hreach.text_eq hab).trans ha
    have hplace := (hreach.has_iff hlength hb).mpr ⟨a, ha, hstart a ha, hab⟩
    exact ⟨true, List.mem_of_getElem? hplace, rfl⟩

/-! ### Texts that a pattern describes -/

/-- A pattern describes the texts with a property, wherever they stand. -/
def Describes (p : Pattern) (S : List Char → Prop) : Prop :=
  ∀ before after b, Spans p ⟨before, after⟩ b ↔
    ∃ part rest, S part ∧ after = part ++ rest ∧ b = ⟨part.reverse ++ before, rest⟩

namespace Describes

variable {p : Pattern} {parts : List Pattern} {S T : List Char → Prop}

theorem congr (h : Describes p S) (hST : ∀ cs, S cs ↔ T cs) : Describes p T :=
  fun before after b => by
    rw [h before after b]
    simp only [hST]

theorem char (set : CharSet) :
    Describes (.char set) fun cs => ∃ c, cs = [c] ∧ set.contains c.toNat = true := by
  intro before after b
  constructor
  · rintro ⟨c, cs, rfl, hset, rfl⟩
    exact ⟨[c], cs, ⟨c, rfl, hset⟩, rfl, rfl⟩
  · rintro ⟨_, rest, ⟨c, rfl, hset⟩, rfl, rfl⟩
    exact ⟨c, rest, rfl, hset, rfl⟩

theorem group (h : Describes p S) : Describes (.group p) S := h

theorem nil : Describes (.sequence []) fun cs => cs = [] := by
  intro before after b
  constructor
  · rintro rfl
    exact ⟨[], after, rfl, rfl, rfl⟩
  · rintro ⟨_, rest, rfl, rfl, rfl⟩
    rfl

theorem cons (h : Describes p S) (hparts : Describes (.sequence parts) T) :
    Describes (.sequence (p :: parts)) fun cs => ∃ front back, cs = front ++ back ∧
      S front ∧ T back := by
  intro before after c
  constructor
  · rintro ⟨b, hfront, hback⟩
    obtain ⟨front, rest, hS, rfl, rfl⟩ := (h ..).mp hfront
    obtain ⟨back, rest, hT, rfl, rfl⟩ := (hparts ..).mp hback
    exact ⟨front ++ back, rest, ⟨front, back, rfl, hS, hT⟩, by simp, by simp⟩
  · rintro ⟨_, rest, ⟨front, back, rfl, hS, hT⟩, rfl, rfl⟩
    refine ⟨⟨front.reverse ++ before, back ++ rest⟩, ?_, ?_⟩
    · exact (h ..).mpr ⟨front, back ++ rest, hS, List.append_assoc .., rfl⟩
    · exact (hparts ..).mpr ⟨back, rest, hT, rfl, by simp⟩

theorem choice (h : Describes p S) {q : Pattern} (hq : Describes q T) :
    Describes (.choice [p, q]) fun cs => S cs ∨ T cs := fun before after b => by
  show Spans p _ b ∨ Spans q _ b ∨ False ↔ _
  rw [h before after b, hq before after b, or_false, ← exists_or]
  simp only [or_and_right, exists_or]

theorem optional (h : Describes p S) :
    Describes (.repeated p 0 (some 1)) fun cs => cs = [] ∨ S cs := by
  intro before after b
  constructor
  · rintro ⟨n, -, hmax, hn⟩
    obtain hn' | hn' : n = 0 ∨ n = 1 := by
      have := hmax 1 rfl
      omega
    · subst hn' hn
      exact ⟨[], after, .inl rfl, rfl, rfl⟩
    · subst hn'
      obtain ⟨b', hb, rfl⟩ := hn
      obtain ⟨part, rest, hS, hafter, hb⟩ := (h ..).mp hb
      exact ⟨part, rest, .inr hS, hafter, hb⟩
  · rintro ⟨part, rest, rfl | hS, rfl, rfl⟩
    · exact ⟨0, Nat.zero_le 0, fun _ _ => .inr (Nat.zero_le 0), rfl⟩
    · refine ⟨1, Nat.zero_le 1, ?_, _, (h ..).mpr ⟨part, rest, hS, rfl, rfl⟩, rfl⟩
      rintro _ ⟨⟩
      exact .inl (Nat.le_refl 1)

/-- A number of characters of a set in a row. -/
theorem repeats_char (set : CharSet) {n : Nat} {before after : List Char} {b : Place} :
    Repeats (Spans (.char set)) n ⟨before, after⟩ b ↔
      ∃ part rest, (part.length = n ∧ ∀ c ∈ part, set.contains c.toNat = true) ∧
        after = part ++ rest ∧ b = ⟨part.reverse ++ before, rest⟩ := by
  induction n generalizing before after with
  | zero =>
      constructor
      · rintro rfl
        exact ⟨[], after, ⟨rfl, nofun⟩, rfl, rfl⟩
      · rintro ⟨part, rest, ⟨hnone, -⟩, rfl, rfl⟩
        rw [List.length_eq_zero_iff.mp hnone]
        rfl
  | succ n ih =>
      constructor
      · rintro ⟨_, ⟨c, cs, rfl, hset, rfl⟩, hb⟩
        obtain ⟨part, rest, ⟨hlength, hpart⟩, rfl, rfl⟩ := ih.mp hb
        exact ⟨c :: part, rest, ⟨congrArg (· + 1) hlength, List.forall_mem_cons.mpr ⟨hset, hpart⟩⟩,
          rfl, by simp⟩
      · rintro ⟨part, rest, ⟨hlength, hpart⟩, rfl, rfl⟩
        obtain ⟨c, cs, rfl⟩ := List.exists_cons_of_length_eq_add_one hlength
        obtain ⟨hset, hcs⟩ := List.forall_mem_cons.mp hpart
        exact ⟨⟨c :: before, cs ++ rest⟩, ⟨c, cs ++ rest, rfl, hset, rfl⟩,
          ih.mpr ⟨cs, rest, ⟨Nat.succ.inj hlength, hcs⟩, rfl, by simp⟩⟩

theorem many (set : CharSet) (min : Nat) :
    Describes (.repeated (.char set) min none) fun cs =>
      min ≤ cs.length ∧ ∀ c ∈ cs, set.contains c.toNat = true := by
  intro before after b
  constructor
  · rintro ⟨n, hmin, -, hn⟩
    obtain ⟨part, rest, ⟨rfl, hset⟩, hafter, hb⟩ := (repeats_char set).mp hn
    exact ⟨part, rest, ⟨hmin, hset⟩, hafter, hb⟩
  · rintro ⟨part, rest, ⟨hmin, hset⟩, hafter, hb⟩
    exact ⟨part.length, hmin, nofun,
      (repeats_char set).mpr ⟨part, rest, ⟨rfl, hset⟩, hafter, hb⟩⟩

end Describes

end StatementTables.Pattern
