import Distill.Text.Digits

/-!
JSON values and their text on one line. Characters that would be read as markup are escaped, so the text can stand
inside a page.
-/
namespace Distill

inductive Json where
  | null
  | bool (b : Bool)
  | int (n : Int)
  | str (s : String)
  | arr (items : List Json)
  | obj (fields : List (String × Json))
deriving Repr, Inhabited

namespace Json

/-- One character of a string. -/
def escapedChar (c : Char) : String :=
  match c with
  | '"' => "\\\""
  | '\\' => "\\\\"
  | '\n' => "\\n"
  | '\r' => "\\r"
  | '\t' => "\\t"
  | _ =>
    if c.toNat = 0x08 then "\\b"
    else if c.toNat = 0x0C then "\\f"
    else if c.toNat < 0x20 ∨ c = '<' ∨ c = '>' ∨ c = '&' ∨ c.toNat = 0x2028 ∨ c.toNat = 0x2029 then
      "\\u" ++ Text.hex 4 c.toNat
    else String.singleton c

def renderString (s : String) : String :=
  "\"" ++ String.join (s.toList.map escapedChar) ++ "\""

mutual

/-- The text of a value without blanks; fields stay in their order. -/
def render : Json → String
  | null => "null"
  | bool true => "true"
  | bool false => "false"
  | int n => toString n
  | str s => renderString s
  | arr items => "[" ++ renderItems items ++ "]"
  | obj fields => "\x7b" ++ renderFields fields ++ "\x7d"

def renderItems : List Json → String
  | [] => ""
  | [item] => item.render
  | item :: items => item.render ++ "," ++ renderItems items

def renderFields : List (String × Json) → String
  | [] => ""
  | [(key, value)] => renderString key ++ ":" ++ value.render
  | (key, value) :: fields => renderString key ++ ":" ++ value.render ++ "," ++ renderFields fields

end

/-- Puts a field before the first one with a greater name. -/
def insertField (field : String × Json) : List (String × Json) → List (String × Json)
  | [] => [field]
  | other :: fields =>
    if field.1 < other.1 then field :: other :: fields else other :: insertField field fields

mutual

/-- The same value with the fields of every object in the order of their names. -/
def sortFields : Json → Json
  | arr items => arr (sortItems items)
  | obj fields => obj (sortEach fields)
  | value => value

def sortItems : List Json → List Json
  | [] => []
  | item :: items => item.sortFields :: sortItems items

def sortEach : List (String × Json) → List (String × Json)
  | [] => []
  | (key, value) :: fields => insertField (key, value.sortFields) (sortEach fields)

end

mutual

/-- The text of a value for people: strings as they are, lists and objects in brackets. -/
def plain : Json → String
  | null => "<nil>"
  | bool true => "true"
  | bool false => "false"
  | int n => toString n
  | str s => s
  | arr items => "[" ++ plainItems items ++ "]"
  | obj fields => "map[" ++ plainFields fields ++ "]"

def plainItems : List Json → String
  | [] => ""
  | [item] => item.plain
  | item :: items => item.plain ++ " " ++ plainItems items

def plainFields : List (String × Json) → String
  | [] => ""
  | [(key, value)] => key ++ ":" ++ value.plain
  | (key, value) :: fields => key ++ ":" ++ value.plain ++ " " ++ plainFields fields

end

end Json

end Distill
