import StatementTables.Text.Classes
import StatementTables.Pattern.Folding

/-! # Search patterns

A `Pattern` describes texts: single characters from a set, conditions on the place between two
characters, and their combinations.  `Pattern.reach` takes the set of places where a match may
start to the set of places where it may end, so a pattern with choices is followed along all of
them at once.  `Pattern.foundIn` says whether a pattern describes any part of a text. -/

namespace StatementTables

namespace Pattern

/-- A set of characters. -/
inductive CharSet where
  | ranges (list : List (Nat × Nat))
  | category (category : Text.Category)
  | alphabetic
  | space
  /-- Word characters. -/
  | word
  | union (sets : List CharSet)
  | complement (set : CharSet)
  | intersection (a b : CharSet)
  /-- The characters with a case variant in the set. -/
  | anyCase (set : CharSet)

mutual

/-- Membership of a code point. -/
def CharSet.contains : CharSet → Nat → Bool
  | .ranges list, n => Text.inRanges list n
  | .category category, n => Text.hasCategory category n
  | .alphabetic, n => Text.isAlphabetic (Char.ofNat n)
  | .space, n => Text.isSpace (Char.ofNat n)
  | .word, n => Text.isWordChar (Char.ofNat n)
  | .union sets, n => anyContains sets n
  | .complement set, n => !set.contains n
  | .intersection a b, n => a.contains n && b.contains n
  | .anyCase set, n => (caseVariants n).any set.contains

def anyContains : List CharSet → Nat → Bool
  | [], _ => false
  | set :: sets, n => set.contains n || anyContains sets n

end

/-- The set of one character. -/
def CharSet.single (c : Char) : CharSet :=
  .ranges [(c.toNat, c.toNat)]

/-- What a place has to do with the words around it. -/
inductive WordEdge where
  /-- The start or the end of a word. -/
  | boundary
  /-- Neither the start nor the end of a word. -/
  | inside
  | start
  | stop
  /-- No word character before. -/
  | startHalf
  /-- No word character after. -/
  | stopHalf
  deriving DecidableEq, Repr

/-- A condition on the place between two characters. -/
inductive Condition where
  | textStart
  | textEnd
  /-- The start of a line; with `crlf`, a carriage return ends a line too. -/
  | lineStart (crlf : Bool)
  | lineEnd (crlf : Bool)
  /-- An edge of a word made of the given characters. -/
  | edge (kind : WordEdge) (letters : CharSet)

end Pattern

inductive Pattern where
  | empty
  | char (set : Pattern.CharSet)
  | condition (condition : Pattern.Condition)
  | group (inner : Pattern)
  /-- At least `min` and, unless open, at most `max` matches in a row. -/
  | repeated (inner : Pattern) (min : Nat) (max : Option Nat)
  | sequence (parts : List Pattern)
  | choice (branches : List Pattern)

namespace Pattern

instance : Inhabited Pattern := ⟨.empty⟩

/-! ### Conditions -/

def WordEdge.holds (kind : WordEdge) (before after : Bool) : Bool :=
  match kind with
  | boundary => before != after
  | inside => before == after
  | start => !before && after
  | stop => before && !after
  | startHalf => !before
  | stopHalf => !after

/-- Whether a condition holds between two characters, where a missing one is an end of the
text. -/
def Condition.holds (condition : Condition) (before after : Option Char) : Bool :=
  match condition with
  | textStart => before.isNone
  | textEnd => after.isNone
  | lineStart false => before.isNone || before == some '\n'
  | lineStart true =>
    before.isNone || before == some '\n' || (before == some '\r' && after != some '\n')
  | lineEnd false => after.isNone || after == some '\n'
  | lineEnd true =>
    after.isNone || after == some '\r' || (after == some '\n' && before != some '\r')
  | edge kind letters =>
    kind.holds (before.any fun c => letters.contains c.toNat)
      (after.any fun c => letters.contains c.toNat)

/-! ### Matching -/

/-- A set of places of a text: one flag for the place before each character and one for the end. -/
abbrev Places := List Bool

/-- The places where a condition holds, from one that comes after `before`. -/
def conditionPlaces (condition : Condition) (before : Option Char) : List Char → Places
  | [] => [condition.holds before none]
  | c :: cs => condition.holds before (some c) :: conditionPlaces condition (some c) cs

/-- The places in both sets. -/
def both (a b : Places) : Places := a.zipWith (· && ·) b

/-- The places in either set. -/
def either (a b : Places) : Places := a.zipWith (· || ·) b

/-- The places after a character of the set that follows a place of the other. -/
def afterChar (set : CharSet) (text : List Char) (from_ : Places) : Places :=
  false :: List.zipWith (fun (c : Char) (here : Bool) => here && set.contains c.toNat) text from_

/-- A step repeated exactly `n` times. -/
def times (step : Places → Places) : Nat → Places → Places
  | 0, places => places
  | n + 1, places => times step n (step places)

/-- The places reached by at most `n` repetitions of a step. -/
def atMost (step : Places → Places) : Nat → Places → Places
  | 0, places => places
  | n + 1, places => either places (atMost step n (step places))

/-- The places reached by any number of repetitions of a step; as each round adds a place or adds
none any more, as many rounds as there are places are enough. -/
def closure (step : Places → Places) : Nat → Places → Places
  | 0, places => places
  | rounds + 1, places =>
    let next := either places (step places)
    if next == places then places else closure step rounds next

mutual

/-- The places where a match may end that starts at one of the given places. -/
def reach (text : List Char) : Pattern → Places → Places
  | .empty, places => places
  | .char set, places => afterChar set text places
  | .condition c, places => both (conditionPlaces c none text) places
  | .group inner, places => reach text inner places
  | .repeated inner min max, places =>
    let first := times (reach text inner) min places
    match max with
    | some max => atMost (reach text inner) (max - min) first
    | none => closure (reach text inner) (text.length + 1) first
  | .sequence parts, places => reachAll text parts places
  | .choice branches, places => reachAny text branches places

def reachAll (text : List Char) : List Pattern → Places → Places
  | [], places => places
  | part :: parts, places => reachAll text parts (reach text part places)

def reachAny (text : List Char) : List Pattern → Places → Places
  | [], places => places.map fun _ => false
  | branch :: branches, places =>
    either (reach text branch places) (reachAny text branches places)

end

/-- Whether some part of the text is as the pattern describes. -/
def foundIn (p : Pattern) (text : String) : Bool :=
  let cs := text.toList
  (reach cs p (List.replicate (cs.length + 1) true)).any id

end Pattern

end StatementTables
