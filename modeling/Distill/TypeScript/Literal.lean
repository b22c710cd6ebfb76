import Distill.Text.Decimal
import Distill.Text.Digits
import Distill.Text.Letter

/-!
Literals in normal form: strings are decoded and written again in ASCII with as few escapes as possible, numbers in
their shortest form.
-/
namespace Distill.TypeScript

/-- The value of digits in a base. -/
def digitsValue (base : Nat) (cs : List Char) : Nat := cs.foldl (fun n c => base * n + (Text.hexValue? c).getD 0) 0

def isOctalDigit (c : Char) : Bool := '0' ≤ c && c ≤ '7'

/-- The code points that a literal stands for, without its delimiters. Escapes for half a code point stay apart. -/
def codePoints : (fuel : Nat) → List Char → List Nat
  | 0, _ => []
  | _ + 1, [] => []
  | fuel + 1, '\\' :: rest =>
    match rest with
    | [] => []
    | '\r' :: '\n' :: rest => codePoints fuel rest
    | 'n' :: rest => 10 :: codePoints fuel rest
    | 't' :: rest => 9 :: codePoints fuel rest
    | 'r' :: rest => 13 :: codePoints fuel rest
    | 'b' :: rest => 8 :: codePoints fuel rest
    | 'f' :: rest => 12 :: codePoints fuel rest
    | 'v' :: rest => 11 :: codePoints fuel rest
    | 'x' :: rest => digitsValue 16 (rest.take 2) :: codePoints fuel (rest.drop 2)
    | 'u' :: '\x7b' :: rest =>
      let digits := rest.takeWhile (· ≠ '\x7d')
      digitsValue 16 digits :: codePoints fuel (rest.drop (digits.length + 1))
    | 'u' :: rest => digitsValue 16 (rest.take 4) :: codePoints fuel (rest.drop 4)
    | c :: rest =>
      if Text.isLineEnd c then codePoints fuel rest
      else if isOctalDigit c then
        let more := (rest.take (if c ≤ '3' then 2 else 1)).takeWhile isOctalDigit
        digitsValue 8 (c :: more) :: codePoints fuel (rest.drop more.length)
      else c.toNat :: codePoints fuel rest
  | fuel + 1, '\r' :: '\n' :: rest => 10 :: codePoints fuel rest
  | fuel + 1, c :: rest => (if c = '\r' then 10 else c.toNat) :: codePoints fuel rest

/-- What is wrong with an escape, with the offset of the place. -/
inductive EscapeFault where
  /-- A character that cannot stand there. -/
  | stray (offset : Nat)
  /-- An escape for more than the last code point. -/
  | outOfRange (offset : Nat)
deriving DecidableEq, Repr

def isHexDigit (c : Char) : Bool := (Text.hexValue? c).isSome

/-- The first fault in the escapes of a literal without its delimiters, which starts at `offset`. -/
def escapeFault? : (fuel offset : Nat) → List Char → Option EscapeFault
  | 0, _, _ => none
  | _ + 1, _, [] => none
  | fuel + 1, offset, '\\' :: 'x' :: rest =>
    let digits := ((rest.take 2).takeWhile isHexDigit).length
    if digits < 2 then some (.stray (offset + 2 + digits)) else escapeFault? fuel (offset + 4) (rest.drop 2)
  | fuel + 1, offset, '\\' :: 'u' :: '\x7b' :: rest =>
    let digits := rest.takeWhile isHexDigit
    let n := digits.length
    if n = 0 ∨ (rest.drop n).head? ≠ some '\x7d' then some (.stray (offset + 3 + n))
    else if 0x10ffff < digitsValue 16 digits then some (.outOfRange offset)
    else escapeFault? fuel (offset + 4 + n) (rest.drop (n + 1))
  | fuel + 1, offset, '\\' :: 'u' :: rest =>
    let digits := ((rest.take 4).takeWhile isHexDigit).length
    if digits < 4 then some (.stray (offset + 2 + digits)) else escapeFault? fuel (offset + 6) (rest.drop 4)
  | fuel + 1, offset, '\\' :: _ :: rest => escapeFault? fuel (offset + 2) rest
  | fuel + 1, offset, _ :: rest => escapeFault? fuel (offset + 1) rest

/-- The offset of the last escape in octal digits, if there is one besides `\0`. -/
def octalEscape? : (fuel offset : Nat) → List Char → Option Nat
  | 0, _, _ => none
  | _ + 1, _, [] => none
  | fuel + 1, offset, '\\' :: c :: rest =>
    let isPlainZero := c = '0' && !rest.head?.any Char.isDigit
    let later := octalEscape? fuel (offset + 2) rest
    if c.isDigit && !isPlainZero then later <|> some offset else later
  | fuel + 1, offset, _ :: rest => octalEscape? fuel (offset + 1) rest

/-- The code points with halves put together. -/
def joinHalves : List Nat → List Nat
  | [] => []
  | [n] => [n]
  | a :: b :: rest =>
    if 0xd800 ≤ a ∧ a < 0xdc00 ∧ 0xdc00 ≤ b ∧ b < 0xe000 then
      (0x10000 + (a - 0xd800) * 0x400 + (b - 0xdc00)) :: joinHalves rest
    else a :: joinHalves (b :: rest)

def decodeLiteral (cs : List Char) : List Nat := joinHalves (codePoints (cs.length + 1) cs)

/-- Upper-case hexadecimal digits. -/
def upperHex (width n : Nat) : String := (Text.hex width n).map Char.toUpper

/-- One code point between quotes. `next` is the one after it. -/
def writeCodePoint (quote : Char) (n : Nat) (next : Option Nat) : String :=
  match n with
  | 0 => if next.any fun d => 48 ≤ d && d ≤ 57 then "\\x00" else "\\0"
  | 7 => "\\x07"
  | 8 => "\\b"
  | 10 => if quote = '\x60' then "\n" else "\\n"
  | 11 => "\\v"
  | 12 => "\\f"
  | 13 => "\\r"
  | 0x1b => "\\x1B"
  | _ =>
    if n = 92 ∨ n = quote.toNat then "\\" ++ String.singleton (Char.ofNat n)
    else if n = 36 ∧ quote = '\x60' ∧ next = some 0x7b then "\\$"
    else if n ≤ 0x7e then String.singleton (Char.ofNat n)
    else if n ≤ 0xff then "\\x" ++ upperHex 2 n
    else if n ≤ 0xffff then "\\u" ++ upperHex 4 n
    else "\\u\x7b" ++ upperHex 0 n ++ "\x7d"

/-- Code points between quotes, without the quotes. -/
def writeCodePoints (quote : Char) : List Nat → String
  | [] => ""
  | n :: rest => writeCodePoint quote n rest.head? ++ writeCodePoints quote rest

/-- A string in double quotes, or in single quotes where that takes fewer escapes. -/
def writeString (ns : List Nat) : String :=
  let quote := if ns.count 39 < ns.count 34 then '\'' else '"'
  String.singleton quote ++ writeCodePoints quote ns ++ String.singleton quote

/-- A string literal in normal form. -/
def normalString (raw : String) : String := writeString (decodeLiteral ((raw.toList.drop 1).dropLast))

/-- A part of a template in normal form. It starts with a backquote or a closing brace and ends with a backquote or the
opening of a substitution. -/
def normalTemplatePart (raw : String) : String :=
  let cs := raw.toList
  let tail := if cs.getLast? = some '\x60' then 1 else 2
  let content := (cs.drop 1).take (cs.length - 1 - tail)
  String.ofList (cs.take 1) ++ writeCodePoints '\x60' (decodeLiteral content) ++ String.ofList (cs.drop (cs.length - tail))

/-- The number that a literal without separators stands for. -/
def decimalOf (cs : List Char) : Text.Decimal :=
  match cs with
  | '0' :: 'x' :: rest | '0' :: 'X' :: rest => ⟨digitsValue 16 rest, 0⟩
  | '0' :: 'o' :: rest | '0' :: 'O' :: rest => ⟨digitsValue 8 rest, 0⟩
  | '0' :: 'b' :: rest | '0' :: 'B' :: rest => ⟨digitsValue 2 rest, 0⟩
  | '0' :: d :: rest =>
    if (d :: rest).all isOctalDigit then ⟨digitsValue 8 (d :: rest), 0⟩ else fractional ('0' :: d :: rest)
  | _ => fractional cs
where
  fractional (cs : List Char) : Text.Decimal :=
    let whole := cs.takeWhile Char.isDigit
    let rest := cs.drop whole.length
    let fraction := match rest with
      | '.' :: rest => rest.takeWhile Char.isDigit
      | _ => []
    let exponent := (rest.dropWhile fun c => c.isDigit || c = '.').drop 1
    let exponent : Int := match exponent with
      | '-' :: ds => -(digitsValue 10 ds : Int)
      | '+' :: ds => digitsValue 10 ds
      | ds => digitsValue 10 ds
    ⟨digitsValue 10 (whole ++ fraction), exponent - fraction.length⟩

/-- A number in its shortest form; an integer of any size only loses its separators. -/
def normalNumber (raw : String) : String :=
  let cs := raw.toList.filter (· ≠ '_')
  if cs.getLast? = some 'n' then String.ofList cs
  else ((decimalOf cs).shortest?.map Text.Decimal.text).getD "Infinity"

/-- A name in ASCII. -/
def normalName (name : String) : String :=
  String.join (name.toList.map fun c =>
    if c.toNat ≤ 0x7e then String.singleton c
    else if c.toNat ≤ 0xffff then "\\u" ++ upperHex 4 c.toNat
    else "\\u\x7b" ++ upperHex 0 c.toNat ++ "\x7d")

end Distill.TypeScript
