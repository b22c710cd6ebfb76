import Distill.Text.Base64
import Distill.Yaml.Number
import Distill.Yaml.Timestamp

/-!
What a scalar stands for. A plain scalar without a tag is typed by its text; a tag asks for a type, and the text has to
be of that type.
-/
namespace Distill.Yaml

/-- The type that a text has by itself. -/
inductive Kind where
  | null
  | bool (b : Bool)
  /-- A whole number that fits into 64 bits; `signed` tells whether a signed word can hold it. -/
  | int (signed : Bool)
  /-- A decimal number; an infinity, or what is no number, comes with its name. -/
  | float (name : Option String)
  | text
deriving DecidableEq, Repr

namespace Kind

def splitSign : List Char → Option Bool × List Char
  | '-' :: cs => (some true, cs)
  | '+' :: cs => (some false, cs)
  | cs => (none, cs)

/-- A whole number without its sign: `0x`, `0o`, `0b`, a leading zero for base eight, or base ten. -/
def natural? : List Char → Option Nat
  | '0' :: 'x' :: cs => Magnitude.value? 16 cs
  | '0' :: 'X' :: cs => Magnitude.value? 16 cs
  | '0' :: 'o' :: cs => Magnitude.value? 8 cs
  | '0' :: 'O' :: cs => Magnitude.value? 8 cs
  | '0' :: 'b' :: cs => Magnitude.value? 2 cs
  | '0' :: 'B' :: cs => Magnitude.value? 2 cs
  | '0' :: c :: cs => Magnitude.value? 8 (c :: cs)
  | cs => Magnitude.value? 10 cs

/-- Half the number of values of a word of 64 bits. -/
def halfRange : Nat := 0x8000000000000000

/-- Whether a whole number with a sign fits into a word. -/
def intOf? (sign : Option Bool) (n : Nat) : Option Kind :=
  match sign with
  | some true => if n ≤ halfRange then some (.int true) else none
  | some false => if n < halfRange then some (.int true) else none
  | none => if n < halfRange then some (.int true) else if n < 2 * halfRange then some (.int false) else none

/-- The whole number that a text without underscores writes. Behind `0b` a further sign may stand. -/
def int? (cs : List Char) : Option Kind :=
  let (sign, body) := splitSign cs
  match (natural? body).bind (intOf? sign) with
  | some k => some k
  | none =>
    match cs with
    | '0' :: 'b' :: rest =>
      match splitSign rest with
      | (some inner, digits) => (Magnitude.value? 2 digits).bind (intOf? (some inner))
      | (none, _) => none
    | _ => none

/-- Whether a text without underscores is a decimal number. -/
def isDecimal (cs : List Char) : Bool :=
  let body := (splitSign cs).2
  let whole := body.takeWhile Char.isDigit
  let rest := body.drop whole.length
  let (fraction, rest) := match rest with
    | '.' :: rest => (rest.takeWhile Char.isDigit, rest.dropWhile Char.isDigit)
    | rest => ([], rest)
  !(whole.isEmpty && fraction.isEmpty) &&
    match rest with
    | [] => true
    | e :: rest =>
      let digits := (splitSign rest).2
      (e = 'e' || e = 'E') && !digits.isEmpty && digits.all Char.isDigit

/-- Whether a decimal number is not too large for double precision. -/
def inRange (cs : List Char) : Bool :=
  let body := (splitSign cs).2
  let mantissa := body.takeWhile fun c => c ≠ 'e' && c ≠ 'E'
  let places := ((mantissa.dropWhile (· ≠ '.')).drop 1).length
  match Magnitude.value? 10 (mantissa.filter Char.isDigit), Magnitude.exponent? (body.drop mantissa.length) with
  | some n, some e => (Text.Decimal.shortest? ⟨n, e - places⟩).isSome
  | _, _ => false

/-- Whether every underscore stands between two digits. -/
def separatesDigits (afterDigit : Bool) : List Char → Bool
  | [] => true
  | '_' :: rest => afterDigit && rest.head?.any Char.isDigit && separatesDigits false rest
  | c :: rest => separatesDigits c.isDigit rest

/-- The type of a text that starts with a point. -/
def ofPointed (cs : List Char) : Kind :=
  let digits := cs.filter (· != '_')
  if separatesDigits false cs && isDecimal digits && inRange digits then .float none else .text

/-- The type of a text that starts with a sign or a digit. -/
def ofNumeric (s : String) : Kind :=
  let cs := s.toList.filter (· != '_')
  match int? cs with
  | some k => k
  | none => if isDecimal cs && inRange cs then .float none else .text

/-- The type that a text has by itself. -/
def ofText (s : String) : Kind :=
  if s ∈ ["", "~", "null", "Null", "NULL"] then .null
  else if s ∈ ["true", "True", "TRUE"] then .bool true
  else if s ∈ ["false", "False", "FALSE"] then .bool false
  else if s ∈ [".nan", ".NaN", ".NAN"] then .float (some "NaN")
  else if s ∈ [".inf", ".Inf", ".INF", "+.inf", "+.Inf", "+.INF"] then .float (some "+Inf")
  else if s ∈ ["-.inf", "-.Inf", "-.INF"] then .float (some "-Inf")
  else match s.toList with
    | [] => .text
    | c :: cs =>
      if c = '.' then ofPointed (c :: cs)
      else if c.isDigit || c = '+' || c = '-' then ofNumeric s
      else .text

end Kind

/-- What a scalar stands for. A number keeps its digits as a literal, which may turn out to be none. -/
inductive Literal where
  | null
  | bool (b : Bool)
  | text (s : String)
  | bytes (b : Text.Bytes)
  | number (negative : Bool) (digits : String)
deriving DecidableEq, Repr

namespace Literal

/-- A number with this text. -/
def ofDigits (s : String) : Literal :=
  match s.toList with
  | '-' :: cs => .number true (String.ofList cs)
  | _ => .number false s

/-- A whole number; a leading zero marks base eight. -/
def ofInt (s : String) : Literal :=
  match s.toList with
  | '0' :: c :: cs => if c ≤ '9' then ofDigits ("0o" ++ String.ofList (c :: cs)) else ofDigits s
  | _ => ofDigits s

/-- A whole number that is asked to be a decimal one has no literal. -/
def ofFloat (s : String) (asked : Bool) : Literal :=
  if asked && !s.toList.any (· ∈ ['.', 'e', 'E', 'i', 'I', 'n', 'N']) then ofDigits ("float & " ++ s) else ofDigits s

/-- Whether a text of several lines can be written line by line: no line holds a control character without a name. -/
def isWritable (s : String) : Bool :=
  let cs := s.toList
  let nameless (c : Char) : Bool := c.toNat < 0x07 || 0x0d < c.toNat && c.toNat < 0x20 || c.toNat = 0x7f
  !cs.contains '\n' || cs.contains '\r' || !cs.any nameless

def ofText? (s : String) : Option Literal := if isWritable s then some (.text s) else none

/-- The literal of a text whose type is found by itself. -/
def ofKind? (s : String) : Kind → Option Literal
  | .null => some .null
  | .bool b => some (.bool b)
  | .int _ => some (ofInt s)
  | .float name => some (ofFloat (name.getD s) false)
  | .text => ofText? s

/-- What a scalar stands for; none if its tag has no meaning or does not fit its text. -/
def ofScalar? (s : String) (plain : Bool) : Option String → Option Literal
  | none => if plain then ofKind? s (.ofText s) else ofText? s
  | some tag =>
    match tag, Kind.ofText s with
    | "tag:yaml.org,2002:str", _ => ofText? s
    | "tag:yaml.org,2002:binary", _ => (Text.Base64.decode? s).map .bytes
    | "tag:yaml.org,2002:timestamp", _ => if Timestamp.accepts s then some (.text s) else none
    | "tag:yaml.org,2002:null", .null => some .null
    | "tag:yaml.org,2002:bool", .bool b => some (.bool b)
    | "tag:yaml.org,2002:int", .int _ => some (ofInt s)
    | "tag:yaml.org,2002:float", .float name => some (ofFloat (name.getD s) true)
    | "tag:yaml.org,2002:float", .int true => some (ofFloat s true)
    | _, _ => none

end Literal

end Distill.Yaml
