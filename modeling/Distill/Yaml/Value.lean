import Distill.Text.Composition
import Distill.Text.Letter
import Distill.Text.Quoted
import Distill.Yaml.Literal
import Distill.Yaml.Node

/-!
The values that YAML nodes stand for, and their text in messages. The keys of a mapping are texts. A name may be given
several values, which have to agree: scalars are the same, sequences agree item by item, and mappings name by name. A
key `<<` takes over the fields of other mappings.
-/
namespace Distill.Yaml

inductive Value where
  | null
  | bool (b : Bool)
  | number (n : Number)
  | str (s : String)
  | bytes (b : Text.Bytes)
  | list (items : List Value)
  /-- The fields in the order in which they are written; a name may occur more than once. -/
  | mapping (fields : List (String × Value))
deriving Repr

namespace Value

/-- Whether a name is shown without quotes: letters and digits of any script, `_` and `$`, with neither a digit nor `_`
at its beginning. -/
def isBareName (name : String) : Bool :=
  match name.toList with
  | [] => false
  | c :: cs => (Text.isLetter c || c = '$') && cs.all fun c => Text.isLetter c || Text.isDecimalDigit c || c = '_' || c = '$'

/-- The value of a literal; a number has to be well-formed. -/
def ofLiteral? : Literal → Option Value
  | .null => some .null
  | .bool b => some (.bool b)
  | .text s => some (.str s)
  | .bytes b => some (.bytes b)
  | .number negative digits => (Magnitude.ofLiteral? digits.toList).map fun m => .number ⟨negative, m⟩

/-- The name that a scalar gives a field; a negative number is none. -/
def nameOf? (text : String) : Literal → Option String
  | .null => some "null"
  | .bool b => some (if b then "true" else "false")
  | .text s => some s
  | .bytes b => some (if isBareName text then text else Text.decodeLossy b)
  | .number negative digits => if negative then none else some digits

/-- The name of a field; a reference gives it the name of its anchor. -/
def fieldName? : Node → Option String
  | .scalar text plain tag _ => (Literal.ofScalar? text plain tag).bind (nameOf? text)
  | .reference name _ _ => some name
  | _ => none

/-- The name by which a scalar looks for a field that is there already. A text of several lines looks for the empty
name, and so do bytes that are not a single character. -/
def soughtName (text : String) : Literal → String
  | .null => "null"
  | .bool b => if b then "true" else "false"
  | .text s => if s.toList.contains '\n' && !s.toList.contains '\r' then "" else s
  | .bytes b =>
    if isBareName text then text
    else match (Text.decodeLossy b).toList with
      | [c] => String.singleton c
      | _ => ""
  | .number _ digits => digits

/-- The name by which a key looks for a field. -/
def soughtField : Node → String
  | .scalar text plain tag _ => ((Literal.ofScalar? text plain tag).map (soughtName text)).getD ""
  | .reference name _ _ => name
  | _ => ""

/-- Whether a key takes over the fields of other mappings. -/
def isMerge : Node → Bool
  | .scalar text plain tag _ =>
    text = "<<" && (plain && tag.isNone || tag = some "!" || tag = some "tag:yaml.org,2002:merge")
  | _ => false

/-- Gives the first field of the name that is sought a new value; if there is none, a field is added at the end. -/
def setField (sought name : String) (v : Value) : List (String × Value) → List (String × Value)
  | [] => [(name, v)]
  | f :: rest => if f.1 = sought then (f.1, v) :: rest else f :: setField sought name v rest

/-- The value of a node; `none` if some key is no scalar, some tag has no meaning, or some number is ill-formed. -/
def ofNode? : Node → Option Value
  | .scalar text plain tag _ => (Literal.ofScalar? text plain tag).bind ofLiteral?
  | .sequence items _ => (ofNodes? items).map .list
  | .mapping fields _ => (addFields? false fields []).map .mapping
  | .reference _ target _ => ofNode? target
where
  ofNodes? : List Node → Option (List Value)
    | [] => some []
    | n :: ns => do return (← ofNode? n) :: (← ofNodes? ns)
  /-- Adds fields to those before them. From a merge on, a field replaces the one of its name. -/
  addFields? (replace : Bool) : List (Node × Node) → List (String × Value) → Option (List (String × Value))
    | [], seen => some seen
    | (key, n) :: rest, seen =>
      if isMerge key then do addFields? true rest (← merge? n seen)
      else do
        let name ← fieldName? key
        let v ← ofNode? n
        addFields? replace rest (if replace then setField (soughtField key) name v seen else seen ++ [(name, v)])
  /-- Takes over the fields of a mapping, or of several; the first of these counts most. -/
  merge? : Node → List (String × Value) → Option (List (String × Value))
    | .mapping fields _, seen => addFields? true fields seen
    | .reference _ (.mapping fields _) _, seen => addFields? true fields seen
    | .sequence items _, seen => mergeAll? items seen
    | _, _ => none
  mergeAll? : List Node → List (String × Value) → Option (List (String × Value))
    | [], seen => some seen
    | .mapping fields _ :: rest, seen => do addFields? true fields (← mergeAll? rest seen)
    | .reference _ (.mapping fields _) _ :: rest, seen => do addFields? true fields (← mergeAll? rest seen)
    | _, _ => none

/-- A node in which the mappings to be taken over are those that `latest` gives for their names. -/
def relinked (latest : String → Option Node) : Node → Node
  | .scalar text plain tag line => .scalar text plain tag line
  | .sequence items line => .sequence (relinkAll items) line
  | .mapping fields line => .mapping (relinkFields fields) line
  | .reference name target line => .reference name (relinked latest target) line
where
  relinkAll : List Node → List Node
    | [] => []
    | n :: ns => relinked latest n :: relinkAll ns
  relinkFields : List (Node × Node) → List (Node × Node)
    | [] => []
    | (key, n) :: rest => (key, if isMerge key then relinkMerged n else relinked latest n) :: relinkFields rest
  relinkMerged : Node → Node
    | .reference name target line => .reference name ((latest name).getD target) line
    | .sequence items line => .sequence (relinkMergedAll items) line
    | .mapping fields line => .mapping (relinkFields fields) line
    | .scalar text plain tag line => .scalar text plain tag line
  relinkMergedAll : List Node → List Node
    | [] => []
    | n :: ns => relinkMerged n :: relinkMergedAll ns

/-- The node that a name stands for at the end of a document, for so many steps from merge to merge. -/
def latest (anchors : List (String × Node)) : (steps : Nat) → String → Option Node
  | 0, name => anchors.lookup name
  | steps + 1, name => (anchors.lookup name).map (relinked (latest anchors steps))

/-- The value whose names are written with composed characters, unless they are shown without quotes. -/
def withComposedNames : Value → Value
  | .list items => .list (inItems items)
  | .mapping fields => .mapping (inFields fields)
  | v => v
where
  inItems : List Value → List Value
    | [] => []
    | v :: vs => withComposedNames v :: inItems vs
  inFields : List (String × Value) → List (String × Value)
    | [] => []
    | (name, v) :: fs =>
      (if isBareName name then name else Text.composed name, withComposedNames v) :: inFields fs

/-- The value of a document. What is taken over through the name of an anchor is what the name stands for at the end. -/
def ofDocument? (d : Document) : Option Value :=
  (ofNode? (relinked (latest d.anchors d.anchors.length) d.root)).map withComposedNames

/-- Whether two values can be given to one name. -/
def agrees : Value → Value → Bool
  | .null, .null => true
  | .bool a, .bool b => a = b
  | .number a, .number b => a.agrees b
  | .str a, .str b => a = b
  | .bytes a, .bytes b => a = b
  | .list as, .list bs => agreeItems as bs
  | .mapping as, .mapping bs => agreeFields as bs
  | _, _ => false
where
  agreeItems : List Value → List Value → Bool
    | [], [] => true
    | a :: as, b :: bs => agrees a b && agreeItems as bs
    | _, _ => false
  agreeFields : List (String × Value) → List (String × Value) → Bool
    | [], _ => true
    | (name, a) :: as, bs => (bs.all fun b => b.1 ≠ name || agrees a b.2) && agreeFields as bs

/-- Whether the values of every name in a value agree. -/
def isCoherent : Value → Bool
  | .list items => coherentItems items
  | .mapping fields => coherentFields fields
  | _ => true
where
  coherentItems : List Value → Bool
    | [] => true
    | v :: vs => isCoherent v && coherentItems vs
  coherentFields : List (String × Value) → Bool
    | [] => true
    | (name, v) :: fs => (fs.all fun f => f.1 ≠ name || v.agrees f.2) && isCoherent v && coherentFields fs

/-- The value of a document in which the values of every name agree. -/
def coherent? (d : Document) : Option Value := (ofDocument? d).filter isCoherent

/-- The kind of a value in messages. -/
def kind : Value → String
  | null => "null"
  | bool _ => "bool"
  | number n => n.kind
  | str _ => "string"
  | bytes _ => "bytes"
  | list _ => "list"
  | mapping _ => "struct"

/-- One character between quotes. Among bytes, a control character is shown by its code in two digits. -/
def shownChar (quote : Char) (c : Char) : String :=
  if c = quote || c = '\\' then String.ofList ['\\', c]
  else if Text.isPrintable c then String.singleton c
  else match c.toNat with
    | 0x07 => "\\a"
    | 0x08 => "\\b"
    | 0x0C => "\\f"
    | 0x0A => "\\n"
    | 0x0D => "\\r"
    | 0x09 => "\\t"
    | 0x0B => "\\v"
    | n =>
      if quote = '\'' && n < 0x20 then "\\x" ++ Text.hex 2 n
      else if n < 0x10000 then "\\u" ++ Text.hex 4 n
      else "\\U" ++ Text.hex 8 n

/-- A text between double quotes. -/
def shown (s : String) : String := "\"" ++ String.join (s.toList.map (shownChar '"')) ++ "\""

/-- Bytes between single quotes; those that are no text are shown by their codes. -/
def shownBytes (b : Text.Bytes) : String :=
  let cs := Text.decodeChars b
  let body :=
    if Text.encodeChars cs = b then String.join (cs.map (shownChar '\''))
    else String.join (b.map fun x =>
      if x < 0x80 then shownChar '\'' (Char.ofNat x.toNat) else "\\x" ++ Text.hex 2 x.toNat)
  "'" ++ body ++ "'"

/-- The text of a value in messages, as it stands in a collection. -/
def render : Value → String
  | null => "null"
  | bool b => if b then "true" else "false"
  | number n => n.text
  | str s => shown s
  | bytes b => shownBytes b
  | list items => "[" ++ renderItems items ++ "]"
  | mapping fields => "\x7b" ++ renderFields fields ++ "\x7d"
where
  renderItems : List Value → String
    | [] => ""
    | [v] => v.render
    | v :: vs => v.render ++ "," ++ renderItems vs
  renderFields : List (String × Value) → String
    | [] => ""
    | [f] => renderField f
    | f :: fs => renderField f ++ "," ++ renderFields fs
  renderField : String × Value → String
    | (name, v) => (if isBareName name then name else shown name) ++ ":" ++ v.render

/-- The value on its own, as messages about it show it. -/
def evaluated : Value → Value
  | number n => .number n.evaluated
  | v => v

end Value

end Distill.Yaml
