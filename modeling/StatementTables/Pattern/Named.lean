import StatementTables.Pattern.Basic
import StatementTables.Pattern.Script

/-! # Named character sets

The sets that a pattern refers to by name: general categories, a few properties and scripts of the
Unicode standard, and the ASCII classes.  Names of the former are compared without case, spaces,
hyphens and underscores, and without `is` in front. -/

namespace StatementTables.Pattern

/-- A name as names are compared. -/
def plainName (name : List Char) : List Char :=
  let keep (cs : List Char) : List Char :=
    (cs.filter fun c => c.toNat < 128 && c != ' ' && c != '_' && c != '-').map Char.toLower
  match name with
  | a :: b :: rest =>
    if a.toLower = 'i' ∧ b.toLower = 's' then
      let short := keep rest
      if short = ['c'] then ['i', 's', 'c'] else short
    else keep name
  | _ => keep name

/-- Lowercase code points that are no lowercase letters. -/
def otherLowercaseRanges : List (Nat × Nat) :=
  [(0xAA, 0xAA), (0xBA, 0xBA), (0x2B0, 0x2B8), (0x2C0, 0x2C1), (0x2E0, 0x2E4), (0x345, 0x345),
   (0x37A, 0x37A), (0x10FC, 0x10FC), (0x1D2C, 0x1D6A), (0x1D78, 0x1D78), (0x1D9B, 0x1DBF),
   (0x2071, 0x2071), (0x207F, 0x207F), (0x2090, 0x209C), (0x2170, 0x217F), (0x24D0, 0x24E9),
   (0x2C7C, 0x2C7D), (0xA69C, 0xA69D), (0xA770, 0xA770), (0xA7F2, 0xA7F4), (0xA7F8, 0xA7F9),
   (0xAB5C, 0xAB5F), (0xAB69, 0xAB69), (0x10780, 0x10780), (0x10783, 0x10785), (0x10787, 0x107B0),
   (0x107B2, 0x107BA), (0x1E030, 0x1E06D)]

/-- Uppercase code points that are no uppercase letters. -/
def otherUppercaseRanges : List (Nat × Nat) :=
  [(0x2160, 0x216F), (0x24B6, 0x24CF), (0x1F130, 0x1F149), (0x1F150, 0x1F169), (0x1F170, 0x1F189)]

/-- Sets of general categories by their names. -/
def categorySets : List (List String × CharSet) :=
  [(["c", "other"], .union [.category .cc, .category .cf, .category .cn, .category .co]),
   (["cc", "control", "cntrl"], .category .cc),
   (["cf", "format"], .category .cf),
   (["cn", "unassigned"], .category .cn),
   (["co", "privateuse"], .category .co),
   (["cs", "surrogate"], .category .cs),
   (["l", "letter"], .union [.category .lu, .category .ll, .category .lt, .category .lm,
     .category .lo]),
   (["lc", "casedletter"], .union [.category .lu, .category .ll, .category .lt]),
   (["ll", "lowercaseletter"], .category .ll),
   (["lm", "modifierletter"], .category .lm),
   (["lo", "otherletter"], .category .lo),
   (["lt", "titlecaseletter"], .category .lt),
   (["lu", "uppercaseletter"], .category .lu),
   (["m", "mark", "combiningmark"], .union [.category .mn, .category .mc, .category .me]),
   (["mc", "spacingmark"], .category .mc),
   (["me", "enclosingmark"], .category .me),
   (["mn", "nonspacingmark"], .category .mn),
   (["n", "number"], .union [.category .nd, .category .nl, .category .no]),
   (["nd", "decimalnumber", "digit"], .category .nd),
   (["nl", "letternumber"], .category .nl),
   (["no", "othernumber"], .category .no),
   (["p", "punctuation", "punct"], .union [.category .pc, .category .pd, .category .ps,
     .category .pe, .category .pi, .category .pf, .category .po]),
   (["pc", "connectorpunctuation"], .category .pc),
   (["pd", "dashpunctuation"], .category .pd),
   (["pe", "closepunctuation"], .category .pe),
   (["pf", "finalpunctuation"], .category .pf),
   (["pi", "initialpunctuation"], .category .pi),
   (["po", "otherpunctuation"], .category .po),
   (["ps", "openpunctuation"], .category .ps),
   (["s", "symbol"], .union [.category .sc, .category .sk, .category .sm, .category .so]),
   (["sc", "currencysymbol"], .category .sc),
   (["sk", "modifiersymbol"], .category .sk),
   (["sm", "mathsymbol"], .category .sm),
   (["so", "othersymbol"], .category .so),
   (["z", "separator"], .union [.category .zs, .category .zl, .category .zp]),
   (["zl", "lineseparator"], .category .zl),
   (["zp", "paragraphseparator"], .category .zp),
   (["zs", "spaceseparator"], .category .zs),
   (["any"], .ranges [(0, 0x10FFFF)]),
   (["assigned"], .complement (.category .cn)),
   (["ascii"], .ranges [(0, 0x7F)])]

/-- Sets of properties by their names. -/
def propertySets : List (List String × CharSet) :=
  [(["alphabetic", "alpha"], .alphabetic),
   (["whitespace", "wspace", "space"], .space),
   (["lowercase", "lower"], .union [.category .ll, .ranges otherLowercaseRanges]),
   (["uppercase", "upper"], .union [.category .lu, .ranges otherUppercaseRanges])]

/-- Sets of scripts by their names. -/
def scriptSets : List (List String × CharSet) :=
  scripts.map fun s => (s.1, .ranges s.2)

/-- The set with a name, in a list of named sets. -/
def lookUpSet (sets : List (List String × CharSet)) (name : List Char) : Option CharSet :=
  (sets.find? fun s => s.1.contains (.ofList (plainName name))).map (·.2)

/-- The set of a name: a property, a category or a script. -/
def namedSet? (name : List Char) : Option CharSet :=
  lookUpSet propertySets name <|> lookUpSet categorySets name <|> lookUpSet scriptSets name

/-- The set of a value of a property. -/
def valueSet? (property value : List Char) : Option CharSet :=
  match String.ofList (plainName property) with
  | "gc" | "generalcategory" => lookUpSet categorySets value
  | "sc" | "script" => lookUpSet scriptSets value
  | _ => none

/-- The ASCII classes by their names. -/
def asciiSet? : String → Option CharSet
  | "alnum" => some (.ranges [(0x30, 0x39), (0x41, 0x5A), (0x61, 0x7A)])
  | "alpha" => some (.ranges [(0x41, 0x5A), (0x61, 0x7A)])
  | "ascii" => some (.ranges [(0, 0x7F)])
  | "blank" => some (.ranges [(0x9, 0x9), (0x20, 0x20)])
  | "cntrl" => some (.ranges [(0, 0x1F), (0x7F, 0x7F)])
  | "digit" => some (.ranges [(0x30, 0x39)])
  | "graph" => some (.ranges [(0x21, 0x7E)])
  | "lower" => some (.ranges [(0x61, 0x7A)])
  | "print" => some (.ranges [(0x20, 0x7E)])
  | "punct" => some (.ranges [(0x21, 0x2F), (0x3A, 0x40), (0x5B, 0x60), (0x7B, 0x7E)])
  | "space" => some (.ranges [(0x9, 0xD), (0x20, 0x20)])
  | "upper" => some (.ranges [(0x41, 0x5A)])
  | "word" => some (.ranges [(0x30, 0x39), (0x41, 0x5A), (0x5F, 0x5F), (0x61, 0x7A)])
  | "xdigit" => some (.ranges [(0x30, 0x39), (0x41, 0x46), (0x61, 0x66)])
  | _ => none

end StatementTables.Pattern
