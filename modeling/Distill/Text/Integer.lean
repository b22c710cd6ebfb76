import Distill.Text.Digits

/-!
Integers as they are written on a command line: a sign, a base prefix, digits with separators between them, in 64 bits.
-/
namespace Distill.Text

/-- Why a text is no integer. -/
inductive IntegerProblem where
  | notANumber
  | outOfRange
deriving DecidableEq, Repr

def IntegerProblem.message : IntegerProblem → String
  | notANumber => "invalid syntax"
  | outOfRange => "value out of range"

/-- Digits after the base prefix, and the base. A leading zero alone means octal. -/
def splitBase (cs : List Char) : Nat × List Char :=
  match cs with
  | '0' :: b :: c :: rest =>
    match b.toLower with
    | 'b' => (2, c :: rest)
    | 'o' => (8, c :: rest)
    | 'x' => (16, c :: rest)
    | _ => (8, b :: c :: rest)
  | '0' :: rest => (8, rest)
  | _ => (10, cs)

/-- The number of the negative integers in 64 bits. -/
def negatives : Nat := 0x8000000000000000

/-- The value of digits in a base, with separators skipped. It is given up as soon as it exceeds 64 bits. -/
def magnitude (base : Nat) : (value : Nat) → List Char → Except IntegerProblem Nat
  | value, [] => .ok value
  | value, '_' :: rest => magnitude base value rest
  | value, c :: rest =>
    match hexValue? c with
    | none => .error .notANumber
    | some d =>
      if base ≤ d then .error .notANumber
      else
        let value := value * base + d
        if 2 * negatives ≤ value then .error .outOfRange else magnitude base value rest

/-- Whether every separator stands between digits; `afterDigit` tells what stands before the text, for which a base
prefix counts as a digit. -/
def separatorsFit : (afterDigit afterSeparator : Bool) → List Char → Bool
  | _, afterSeparator, [] => !afterSeparator
  | afterDigit, _, '_' :: rest => afterDigit && separatorsFit false true rest
  | _, _, _ :: rest => separatorsFit true false rest

/-- The value of an unsigned number. -/
def unsigned? (cs : List Char) : Except IntegerProblem Nat := do
  if cs = [] then throw .notANumber
  let (base, digits) := splitBase cs
  let value ← magnitude base 0 digits
  if separatorsFit (digits.length < cs.length) false digits then return value else throw .notANumber

/-- The value of a number in 64 bits. -/
def integer? (text : String) : Except IntegerProblem Int := do
  let (negative, cs) := match text.toList with
    | '-' :: rest => (true, rest)
    | '+' :: rest => (false, rest)
    | cs => (false, cs)
  let value ← unsigned? cs
  if negative then
    if value ≤ negatives then return -(value : Int) else throw .outOfRange
  else if value < negatives then return value else throw .outOfRange

end Distill.Text
