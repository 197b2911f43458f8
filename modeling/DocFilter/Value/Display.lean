/-
# Showing values

A value has two texts. Its display is what stands for it inside another value's text: texts are
quoted there, and every value of a richer domain names its kind. An attribute without a name is not
displayed. Its plain text is what a reader of the value alone wants to see, and differs from the
display for texts, moments, members of enumerations, records and the like.
-/

import DocFilter.Text.Quoted
import DocFilter.Value.Basic

namespace DocFilter

open Text

/-- The arguments of a call, separated by commas. -/
def callText (name : String) (arguments : List String) : String :=
  name ++ "(" ++ ", ".intercalate arguments ++ ")"

/-- A length of time, as days of which only the number may be negative, seconds and
microseconds. Parts that are zero are left out. -/
def Moment.displayDuration (microseconds : Int) : String :=
  let days := microseconds.fdiv 86400000000
  let rest := microseconds.fmod 86400000000
  let parts := [("days", days), ("seconds", rest / 1000000), ("microseconds", rest % 1000000)]
  callText "datetime.timedelta" <|
    (parts.filter (·.2 != 0)).map fun (name, size) => name ++ "=" ++ Numeral.integer size

/-- A moment by its parts. Seconds and microseconds are left out when nothing follows that is not
zero. -/
def Moment.display (moment : Moment) : String :=
  let clock :=
    if moment.microsecond ≠ 0 then [moment.second, moment.microsecond]
    else if moment.second ≠ 0 then [moment.second]
    else []
  let numbers := [moment.date.year, moment.date.month, moment.date.day, moment.hour,
    moment.minute] ++ clock
  let zone :=
    match moment.offset with
    | none => []
    | some 0 => ["tzinfo=datetime.timezone.utc"]
    | some offset =>
      ["tzinfo=" ++ callText "datetime.timezone" [Moment.displayDuration offset]]
  callText "datetime.datetime" (numbers.map Numeral.decimal ++ zone)

/-- A date by its parts. -/
def Date.display (date : Date) : String :=
  callText "datetime.date" ([date.year, date.month, date.day].map Numeral.decimal)

namespace Value

/-- A member of an enumeration by its kind, its name and its value. -/
def displayMember (enumeration name value : String) : String :=
  "<" ++ enumeration ++ "." ++ name ++ ": " ++ value ++ ">"

/-- Items between brackets. -/
def displayItems (opening closing : String) (items : List String) : String :=
  opening ++ ", ".intercalate items ++ closing

/-- Items of a tuple; a single one keeps a comma, which tells it from a value in parentheses. -/
def displayTuple : List String → String
  | [item] => "(" ++ item ++ ",)"
  | items => displayItems "(" ")" items

/-- Items of a set; an empty one is a call. -/
def displaySet (frozen : Bool) (items : List String) : String :=
  let name := if frozen then "frozenset" else "set"
  if items.isEmpty then callText name []
  else
    let shown := displayItems "\x7b" "\x7d" items
    if frozen then callText name [shown] else shown

mutual

/-- The text that stands for a value inside another value's text. -/
def display : Value → String
  | .null => "None"
  | .bool value => if value then "True" else "False"
  | .int value => Numeral.integer value
  | .float value => value.write
  | .decimal value => callText "Decimal" [Quoted.text value.write]
  | .packed value => callText "Decimal128" [Quoted.text value.write]
  | .text value => Quoted.text value
  | .bytes value => Quoted.bytes value
  | .moment value => value.display
  | .date value => value.display
  | .uuid value => callText "UUID" [Quoted.text value.write]
  | .pattern value => value.display
  | .list items => displayItems "[" "]" (displayAll items)
  | .tuple items => displayTuple (displayAll items)
  | .set frozen items => displaySet frozen (displayAll items)
  | .mapping entries => displayItems "\x7b" "\x7d" (displayEntries entries)
  | .member enumeration name value _ => displayMember enumeration name value.display
  | .textMember enumeration name value => displayMember enumeration name (Quoted.text value)
  | .intMember enumeration name value =>
    displayMember enumeration name (Numeral.integer value)
  | .record fields => callText "Model" ((displayFields fields).map (·.2))
  | .object attributes =>
    callText "namespace" (((displayFields attributes).filter (·.1 != "")).map (·.2))
  | .absent => "<absent>"
  | .stranger => "<object>"

/-- The displays of all items. -/
def displayAll : List Value → List String
  | [] => []
  | item :: items => item.display :: displayAll items

/-- The displays of all entries, key before value. -/
def displayEntries : List (Value × Value) → List String
  | [] => []
  | (key, value) :: entries =>
    (key.display ++ ": " ++ value.display) :: displayEntries entries

/-- The displays of all fields under their names, name before value. -/
def displayFields : List (String × Value) → List (String × String)
  | [] => []
  | (name, value) :: fields => (name, name ++ "=" ++ value.display) :: displayFields fields

end

/-- The plain text of a value. -/
def plainText : Value → String
  | .decimal value => value.write
  | .packed value => value.write
  | .text value => value
  | .moment value => value.write ' '
  | .date value => String.ofList value.write
  | .uuid value => value.write
  | .member enumeration name _ _ | .textMember enumeration name _
  | .intMember enumeration name _ => enumeration ++ "." ++ name
  | .record fields => " ".intercalate ((displayFields fields).map (·.2))
  | value => value.display

end Value

end DocFilter
