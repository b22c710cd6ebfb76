import Distill.Text.Utf8

/-!
Bytes written as letters, four for every three bytes. Line ends are skipped, and the last group is filled up with `=`.
-/
namespace Distill.Text.Base64

/-- The six bits that a letter writes. -/
def value? (c : Char) : Option Nat :=
  if 'A' ≤ c ∧ c ≤ 'Z' then some (c.toNat - 65)
  else if 'a' ≤ c ∧ c ≤ 'z' then some (c.toNat - 71)
  else if '0' ≤ c ∧ c ≤ '9' then some (c.toNat + 4)
  else if c = '+' then some 62
  else if c = '/' then some 63
  else none

/-- The three bytes of four letters. -/
def group (a b c d : Nat) : Bytes :=
  let n := ((a * 64 + b) * 64 + c) * 64 + d
  [UInt8.ofNat (n / 65536), UInt8.ofNat (n / 256), UInt8.ofNat n]

/-- The bytes of letters without line ends. -/
def ofLetters? : List Char → Option Bytes
  | [] => some []
  | [a, b, '=', '='] => do return (group (← value? a) (← value? b) 0 0).take 1
  | [a, b, c, '='] => do return (group (← value? a) (← value? b) (← value? c) 0).take 2
  | a :: b :: c :: d :: rest => do
    return group (← value? a) (← value? b) (← value? c) (← value? d) ++ (← ofLetters? rest)
  | _ => none

def decode? (text : String) : Option Bytes := ofLetters? (text.toList.filter fun c => c != '\n' && c != '\r')

example : decode? "aGk=" = some [0x68, 0x69] := by decide +kernel

end Distill.Text.Base64
