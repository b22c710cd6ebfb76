/-!
Decimal numbers as coefficient and exponent, the double-precision number nearest to one, and the decimal with the fewest
digits that reads back as it. All arithmetic is exact.
-/
namespace Distill.Text

/-- The number `coefficient * 10 ^ exponent`. -/
structure Decimal where
  coefficient : Nat
  exponent : Int
deriving DecidableEq, Repr

/-- A fraction of natural numbers. -/
structure Ratio where
  num : Nat
  den : Nat
deriving DecidableEq, Repr

def Ratio.le (a b : Ratio) : Bool := a.num * b.den ≤ b.num * a.den

def Ratio.lt (a b : Ratio) : Bool := a.num * b.den < b.num * a.den

/-- The fraction `n * base ^ e`. -/
def Ratio.scaled (n base : Nat) (e : Int) : Ratio :=
  if 0 ≤ e then ⟨n * Nat.pow base e.toNat, 1⟩ else ⟨n, Nat.pow base (-e).toNat⟩

/-- A positive double-precision number `mantissa * 2 ^ exponent`. -/
structure Binary where
  mantissa : Nat
  exponent : Int
deriving DecidableEq, Repr

/-- The least exponent of a double-precision number. -/
def Binary.leastExponent : Int := -1074

/-- The least mantissa of a number whose exponent is not the least one; mantissas are below twice that. -/
def Binary.leastMantissa : Nat := 0x10000000000000

/-- The quotient rounded to the nearest number, a half to the even one. -/
def roundHalfEven (num den : Nat) : Nat :=
  let q := num / den
  let r := num % den
  if den < 2 * r ∨ den = 2 * r ∧ q % 2 = 1 then q + 1 else q

/-- The double-precision number nearest to a positive fraction; none if it is too large. -/
def Binary.ofRatio? (x : Ratio) : Option Binary :=
  let guess : Int := (x.num.log2 : Int) - x.den.log2 - 52
  let divided (e : Int) : Ratio :=
    if 0 ≤ e then ⟨x.num, x.den * Nat.pow 2 e.toNat⟩ else ⟨x.num * Nat.pow 2 (-e).toNat, x.den⟩
  let whole (e : Int) : Nat := (divided e).num / (divided e).den
  let e := if whole guess < leastMantissa then guess - 1 else if 2 * leastMantissa ≤ whole guess then guess + 1 else guess
  let e := max e leastExponent
  let m := roundHalfEven (divided e).num (divided e).den
  let b : Binary := if m = 2 * leastMantissa then ⟨leastMantissa, e + 1⟩ else ⟨m, e⟩
  if 971 < b.exponent then none else some b

/-- Whether a fraction rounds to the number. -/
def Binary.reads (b : Binary) (x : Ratio) : Bool :=
  let atPower := b.mantissa = leastMantissa ∧ leastExponent < b.exponent
  let low := if atPower then Ratio.scaled (4 * b.mantissa - 1) 2 (b.exponent - 2)
    else Ratio.scaled (2 * b.mantissa - 1) 2 (b.exponent - 1)
  let high := Ratio.scaled (2 * b.mantissa + 1) 2 (b.exponent - 1)
  if b.mantissa % 2 = 0 then low.le x && x.le high else low.lt x && x.lt high

/-- The number without trailing zeros in its coefficient. -/
def Decimal.normal : (fuel : Nat) → Decimal → Decimal
  | 0, d => d
  | fuel + 1, d =>
    if d.coefficient ≠ 0 ∧ d.coefficient % 10 = 0 then normal fuel ⟨d.coefficient / 10, d.exponent + 1⟩ else d

/-- The decimal with the fewest digits that rounds to the number, tried from `digits` digits on. `top` is the number of
digits before the point. -/
def Binary.shortestFrom (b : Binary) (top : Int) : (fuel digits : Nat) → Decimal
  | 0, _ => ⟨0, 0⟩
  | fuel + 1, digits =>
    let e := top - digits
    let value := Ratio.scaled b.mantissa 2 b.exponent
    let unit := Ratio.scaled 1 10 e
    let low := value.num * unit.den / (value.den * unit.num)
    let fits (n : Nat) : Bool := b.reads (Ratio.scaled n 10 e)
    let upperIsNearer : Bool :=
      let twice := 2 * value.num * unit.den
      let middle := (2 * low + 1) * (value.den * unit.num)
      middle < twice || middle = twice && low % 2 = 1
    match fits low, fits (low + 1) with
    | true, true => ⟨if upperIsNearer then low + 1 else low, e⟩
    | true, false => ⟨low, e⟩
    | false, true => ⟨low + 1, e⟩
    | false, false => b.shortestFrom top fuel (digits + 1)

/-- The number of digits before the point of a positive fraction; zero or less for zeros after it. -/
def Ratio.magnitude (x : Ratio) : Int :=
  let guess : Int := (Nat.toDigits 10 x.num).length - (Nat.toDigits 10 x.den).length
  if (Ratio.scaled 1 10 guess).le x then guess + 1 else guess

/-- The shortest decimal that reads back as the number. -/
def Binary.shortest (b : Binary) : Decimal :=
  (b.shortestFrom (Ratio.scaled b.mantissa 2 b.exponent).magnitude 20 1).normal 400

/-- The decimal with the fewest digits among those that round to the same number; none if it is too large. -/
def Decimal.shortest? (d : Decimal) : Option Decimal :=
  let magnitude : Int := (Nat.toDigits 10 d.coefficient).length + d.exponent
  if d.coefficient = 0 ∨ magnitude < -330 then some ⟨0, 0⟩
  else if 330 < magnitude then none
  else
    match Binary.ofRatio? (Ratio.scaled d.coefficient 10 d.exponent) with
    | none => none
    | some b => some (if b.mantissa = 0 then ⟨0, 0⟩ else b.shortest)

/-- The text of a decimal: positional, or with an exponent where that is shorter. -/
def Decimal.text (d : Decimal) : String :=
  let digits := Nat.toDigits 10 d.coefficient
  let exponential := String.ofList digits ++ "e" ++ toString d.exponent
  let positional :=
    if 0 ≤ d.exponent then String.ofList (digits ++ List.replicate d.exponent.toNat '0')
    else
      let after := (-d.exponent).toNat
      if after < digits.length then
        String.ofList (digits.take (digits.length - after) ++ '.' :: digits.drop (digits.length - after))
      else String.ofList ('0' :: '.' :: List.replicate (after - digits.length) '0' ++ digits)
  if exponential.length < positional.length then exponential else positional

end Distill.Text
