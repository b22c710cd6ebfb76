import Distill.TypeScript.Tree

/-!
Values that are known: whether they count as true, the words for their types, the numbers and texts that operators make
of them, and which of them are equal.
-/
namespace Distill.TypeScript

namespace Constant

/-- A text out of characters. -/
def ofString (s : String) : Constant := .text (s.toList.map Char.toNat) false

/-- Whether the digits of an integer are in decimal, so that no other digits stand for the same integer. -/
def isDecimal (digits : String) : Bool := digits.length < 2 || digits.toList.head? ≠ some '0'

/-- Whether two integers of any size are equal, by their digits. -/
def equalIntegers? (a b : String) : Option Bool :=
  if a = b then some true else if isDecimal a && isDecimal b then some false else none

/-- Whether the value counts as true, if that is sure. -/
def isTrue? : Constant → Option Bool
  | undefined | null => some false
  | truth value => some value
  | number _ magnitude => some (magnitude ≠ "0" && magnitude ≠ "NaN")
  | integer digits => (equalIntegers? digits "0").map (!·)
  | text codePoints _ => some (!codePoints.isEmpty)

/-- The word for the type of the value. -/
def typeWord : Constant → String
  | undefined => "undefined"
  | null => "object"
  | truth _ => "boolean"
  | number .. => "number"
  | integer _ => "bigint"
  | text .. => "string"

/-- The digits of an integer that takes less than 32 bits without its sign. -/
def digits? (isNegative : Bool) (magnitude : String) : Option String :=
  let d := decimalOf magnitude.toList
  if d.exponent < 0 then none
  else
    let n := d.coefficient * Nat.pow 10 (min d.exponent.toNat 10)
    if n < 0x80000000 || isNegative && n = 0x80000000 then some (toString n) else none

/-- The number that a text is the usual spelling of. -/
def spelled? (codePoints : List Nat) : Option Constant :=
  let cs := codePoints.map Char.ofNat
  let isNegative := cs.head? = some '-'
  let digits := if isNegative then cs.drop 1 else cs
  let magnitude := String.ofList digits
  if digits.isEmpty || !digits.all Char.isDigit then none
  else if isNegative && magnitude = "0" || (digits.head? = some '0' && magnitude ≠ "0") then none
  else if (digits? isNegative magnitude).isSome then some (number isNegative (normalNumber magnitude))
  else none

/-- The number that a sign makes of the value. -/
def asNumber? : Constant → Option Constant
  | undefined => some (number false "NaN")
  | null => some (number false "0")
  | truth value => some (number false (if value then "1" else "0"))
  | number isNegative magnitude => some (number isNegative magnitude)
  | integer _ => none
  | text [] _ => some (number false "0")
  | text codePoints _ => spelled? codePoints

def negated : Constant → Constant
  | number isNegative magnitude => number (!isNegative) magnitude
  | c => c

/-- Whether two values are equal, strictly or loosely. Where only one of them is a text or an integer of any size, that is
not worked out. -/
def equal? (strictly : Bool) : Constant → Constant → Option Bool
  | null, null | undefined, undefined => some true
  | null, undefined | undefined, null => some !strictly
  | null, _ | _, null | undefined, _ | _, undefined => some false
  | truth a, truth b => some (a = b)
  | number s a, number t b => some (a ≠ "NaN" && a = b && (s = t || a = "0"))
  | integer a, integer b => equalIntegers? a b
  | text a _, text b _ => some (a = b)
  | truth a, number t b => some (!strictly && (b = (if a then "1" else "0")) && (!t || !a))
  | number s a, truth b => some (!strictly && (a = (if b then "1" else "0")) && (!s || !b))
  | _, _ => none

/-- The text of a value in a sum with a text. Only numbers with a plain text count. -/
def asText? : Constant → Option Constant
  | text codePoints isTemplate => some (text codePoints isTemplate)
  | undefined => some (ofString "undefined")
  | null => some (ofString "null")
  | truth value => some (ofString (toString value))
  | integer digits => if isDecimal digits then some (ofString digits) else none
  | number isNegative magnitude =>
    let sign := if isNegative && magnitude ≠ "0" then "-" else ""
    if magnitude = "NaN" then some (ofString magnitude)
    else if magnitude = "Infinity" then some (ofString (sign ++ magnitude))
    else (digits? isNegative magnitude).map fun ds => ofString (sign ++ ds)

end Constant

end Distill.TypeScript
