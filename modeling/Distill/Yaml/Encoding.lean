import Distill.Text.Utf8

/-!
The characters of a YAML stream out of its bytes. A byte order mark at the beginning tells the encoding and is dropped;
without one the bytes are UTF-8. Ill-formed input, and input with control characters, has no characters.
-/
namespace Distill.Yaml

/-- Whether a stream may hold this character. -/
def isAllowed (c : Char) : Bool :=
  c = '\t' || c = '\n' || c = '\r' || (' ' ≤ c && c ≤ '~') || c.toNat = 0x85 ||
    0xa0 ≤ c.toNat && c.toNat ≠ 0xfffe && c.toNat ≠ 0xffff

/-- The units of UTF-16 that pairs of bytes make. -/
def units? (unit : UInt8 → UInt8 → Nat) : Text.Bytes → Option (List Nat)
  | [] => some []
  | [_] => none
  | a :: b :: rest => (units? unit rest).map (unit a b :: ·)

def isHighSurrogate (unit : Nat) : Bool := 0xd800 ≤ unit && unit < 0xdc00

def isLowSurrogate (unit : Nat) : Bool := 0xdc00 ≤ unit && unit < 0xe000

/-- The characters that units of UTF-16 write; a surrogate needs its partner. -/
def ofUnits? : List Nat → Option (List Char)
  | [] => some []
  | [u] => if isHighSurrogate u || isLowSurrogate u then none else some [Char.ofNat u]
  | u :: v :: rest =>
    if isHighSurrogate u then
      if isLowSurrogate v then
        (ofUnits? rest).map (Char.ofNat (0x10000 + (u - 0xd800) * 0x400 + (v - 0xdc00)) :: ·)
      else none
    else if isLowSurrogate u then none
    else (ofUnits? (v :: rest)).map (Char.ofNat u :: ·)

/-- The characters of well-formed UTF-8. -/
def ofUtf8? (bytes : Text.Bytes) : Option (List Char) :=
  let cs := Text.decodeChars bytes
  if Text.encodeChars cs = bytes then some cs else none

/-- The characters of a stream in the encoding that its first bytes tell. -/
def decode? : Text.Bytes → Option (List Char)
  | 0xff :: 0xfe :: rest => units? (fun low high => high.toNat * 256 + low.toNat) rest >>= ofUnits?
  | 0xfe :: 0xff :: rest => units? (fun high low => high.toNat * 256 + low.toNat) rest >>= ofUnits?
  | 0xef :: 0xbb :: 0xbf :: rest => ofUtf8? rest
  | bytes => ofUtf8? bytes

/-- The characters of a stream, all of which have to be allowed. -/
def characters? (bytes : Text.Bytes) : Option (List Char) := do
  let cs ← decode? bytes
  if cs.all isAllowed then some cs else none

end Distill.Yaml
