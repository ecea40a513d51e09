import StatementTables.Json.Value
import StatementTables.Text.Words

/-! # What a report says about itself

`ReportMetadata` holds the fields that describe a report.  Two of them are read off its English
title: the digits that follow a `V`, and the parts of the title that a hyphen ends. -/

namespace StatementTables

structure ReportMetadata where
  titleFa : Option Json
  titleEn : Option Json
  period : Option Json
  yearEndToDate : Option Json
  kind : Option Json
  reportType : Option Json
  isAudited : Option Json
  state : Option Json
  version : List String
  titleInfo : List String

namespace ReportMetadata

/-- The decimal digits that follow a `V`. -/
def versions : List Char → List Char
  | 'V' :: c :: cs =>
    if Text.isDecimalDigit c then c :: versions (c :: cs) else versions (c :: cs)
  | _ :: cs => versions cs
  | [] => []

/-- The parts of a list that a hyphen ends; `part` holds the current one. -/
def partsBeforeHyphen (part : List Char) : List Char → List (List Char)
  | [] => []
  | c :: cs =>
    if c = '-' then part :: partsBeforeHyphen [] cs else partsBeforeHyphen (part ++ [c]) cs

/-- What a part of a title says: it starts with its first word character, and is nothing unless it
ends with one, white space apart. -/
def information? (part : List Char) : Option (List Char) :=
  let body := Text.trimEnd part
  if body.getLast?.any Text.isWordChar then
    some (body.dropWhile fun c => !Text.isWordChar c)
  else none

def versionsOf (title : String) : List String :=
  (versions title.toList).map fun c => .ofList [c]

def titleInfoOf (title : String) : List String :=
  ((partsBeforeHyphen [] title.toList).filterMap information?).map .ofList

/-- The fields in an output document; those that are not known are `null`. -/
def toFields (m : ReportMetadata) : Fields :=
  let value (v : Option Json) : Json := v.getD .null
  .ofList [("title_Fa", value m.titleFa), ("title_En", value m.titleEn),
    ("period", value m.period), ("yearEndToDate", value m.yearEndToDate), ("kind", value m.kind),
    ("type", value m.reportType), ("isAudited", value m.isAudited), ("state", value m.state),
    ("version", .strings m.version), ("title_info", .strings m.titleInfo)]

end ReportMetadata

end StatementTables
