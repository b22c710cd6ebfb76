import Distill.Text.Decimal
import Distill.Text.Digits

/-!
Numbers of a YAML document: whole ones of any size, and decimal ones with the digits they are written with.
-/
namespace Distill.Yaml

/-- A number without its sign. -/
inductive Magnitude where
  | whole (n : Nat)
  | decimal (d : Text.Decimal)
deriving DecidableEq, Repr

structure Number where
  negative : Bool
  magnitude : Magnitude
deriving DecidableEq, Repr

namespace Magnitude

/-- The value of digits in some base. -/
def value? (base : Nat) (cs : List Char) : Option Nat :=
  if cs.isEmpty then none
  else cs.foldlM (fun n c => do
    let d ← Text.hexValue? c
    if d < base then some (n * base + d) else none) 0

/-- Digits without the underscores among them, of which none comes last. -/
def digits? (cs : List Char) : Option (List Char) :=
  if cs.getLast? = some '_' then none else some (cs.filter (· != '_'))

def isDigitOrMark (c : Char) : Bool := c.isDigit || c = '_'

/-- A whole number in some base, after the mark of the base. -/
def inBase? (base : Nat) (cs : List Char) : Option Magnitude := do return .whole (← value? base (← digits? cs))

/-- The exponent of a decimal number, which may be missing. -/
def exponent? : List Char → Option Int
  | [] => some 0
  | e :: rest =>
    let (negative, ds) := match rest with
      | '-' :: ds => (true, ds)
      | '+' :: ds => (false, ds)
      | ds => (false, ds)
    if (e = 'e' ∨ e = 'E') ∧ ds.all isDigitOrMark then do
      let n ← value? 10 (← digits? ds)
      return if negative then -(n : Int) else n
    else none

/-- The greatest size of an exponent. -/
def exponentLimit : Nat := 100000

/-- A decimal with some places after the point. Neither the exponent that is written nor that of the first digit may be
too large or too small. -/
def decimal? (coefficient : Nat) (exponent : Int) (places : Nat) : Option Magnitude :=
  let first := exponent - places + ((Nat.toDigits 10 coefficient).length - 1 : Int)
  if exponent.natAbs ≤ exponentLimit ∧ places ≤ exponentLimit ∧ first.natAbs ≤ exponentLimit then
    some (.decimal ⟨coefficient, exponent - places⟩)
  else none

/-- A number in base ten after its whole part: a fraction, an exponent, or both. -/
def decimalAfter? (whole : List Char) : List Char → Option Magnitude
  | '.' :: rest => do
    let fraction ← digits? (rest.takeWhile isDigitOrMark)
    let exponent ← exponent? (rest.dropWhile isDigitOrMark)
    let n ← if whole.isEmpty ∧ fraction.isEmpty then none else value? 10 (whole ++ fraction)
    decimal? n exponent fraction.length
  | rest => do decimal? (← value? 10 whole) (← exponent? rest) 0

def isOctalOrMark (c : Char) : Bool := '0' ≤ c && c ≤ '7' || c = '_'

/-- A number after a zero at its beginning: in base eight if it is whole. -/
def afterZero? (cs : List Char) : Option Magnitude := do
  let whole ← digits? (cs.takeWhile isOctalOrMark)
  let rest := cs.dropWhile isOctalOrMark
  if rest.isEmpty then return .whole (← value? 8 ('0' :: whole))
  else
    let more ← digits? (rest.takeWhile isDigitOrMark)
    match rest.dropWhile isDigitOrMark with
    | [] => none
    | rest => decimalAfter? ('0' :: whole ++ more) rest

/-- A number in base ten that does not start with a zero. -/
def baseTen? (cs : List Char) : Option Magnitude := do
  let whole ← digits? (cs.takeWhile isDigitOrMark)
  match cs.dropWhile isDigitOrMark with
  | [] => return .whole (← value? 10 whole)
  | rest => decimalAfter? whole rest

/-- The number that a literal without a sign writes. -/
def unsigned? : List Char → Option Magnitude
  | '0' :: 'x' :: cs => inBase? 16 cs
  | '0' :: 'X' :: cs => inBase? 16 cs
  | '0' :: 'o' :: cs => inBase? 8 cs
  | '0' :: 'b' :: cs => inBase? 2 cs
  | '0' :: cs => afterZero? cs
  | cs => baseTen? cs

/-- The number that a literal writes. -/
def ofLiteral? : List Char → Option Magnitude
  | '+' :: cs => unsigned? cs
  | cs => unsigned? cs

/-- The text of a decimal: positional if the exponent is not above zero and the number not below a millionth, else with
one digit before the point. Zero is positional with up to two thousand places. -/
def decimalText (d : Text.Decimal) : String :=
  let digits := Nat.toDigits 10 d.coefficient
  let adjusted := d.exponent + (digits.length - 1 : Int)
  if d.exponent ≤ 0 ∧ (-6 ≤ adjusted ∨ d.coefficient = 0 ∧ -2000 ≤ adjusted) then
    let places := d.exponent.natAbs
    if places = 0 then String.ofList digits
    else
      let padded := List.replicate (places + 1 - digits.length) '0' ++ digits
      let point := padded.length - places
      String.ofList (padded.take point ++ '.' :: padded.drop point)
  else
    let mantissa := match digits with
      | [d] => [d]
      | d :: ds => d :: '.' :: ds
      | [] => []
    String.ofList mantissa ++ "E" ++ (if adjusted < 0 then "-" else "+") ++ toString adjusted.natAbs

def text : Magnitude → String
  | whole n => toString n
  | decimal d => decimalText d

def isZero : Magnitude → Bool
  | whole n => n = 0
  | decimal d => d.coefficient = 0

/-- Whether two magnitudes are the same number of the same kind. -/
def agrees : Magnitude → Magnitude → Bool
  | whole a, whole b => a = b
  | decimal a, decimal b =>
    let normal (d : Text.Decimal) : Text.Decimal :=
      if d.coefficient = 0 then ⟨0, 0⟩ else d.normal (Nat.toDigits 10 d.coefficient).length
    normal a = normal b
  | _, _ => false

end Magnitude

namespace Number

/-- The text of a number as it stands in a collection. -/
def text (n : Number) : String := (if n.negative then "-" else "") ++ n.magnitude.text

/-- The number on its own: zero has no sign. -/
def evaluated (n : Number) : Number := ⟨n.negative && !n.magnitude.isZero, n.magnitude⟩

def agrees (a b : Number) : Bool :=
  a.evaluated.negative = b.evaluated.negative && a.magnitude.agrees b.magnitude

/-- The kind of a number in messages. -/
def kind (n : Number) : String :=
  match n.magnitude with
  | .whole _ => "int"
  | .decimal _ => "float"

end Number

end Distill.Yaml
