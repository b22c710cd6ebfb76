/-!
UTF-8 text out of arbitrary bytes. Well-formed input is decoded as it stands; every maximal ill-formed
subpart becomes one replacement character. Decoding never fails and never swallows a byte that could
start a character.
-/
namespace Distill.Text

abbrev Bytes := List UInt8

/-- U+FFFD, written in place of what cannot be decoded. -/
def replacement : Char := '�'

/-- What may come next: the start of a character, or one of `missing + 1` continuation bytes, the first
of which lies in `low … high`; `bits` is the part of the code point read so far. -/
inductive DecodeState where
  | start
  | within (missing : Nat) (low high : UInt8) (bits : Nat)
deriving DecidableEq, Repr

/-- Reads a byte at the start of a character: the characters it completes and the state after it. -/
def DecodeState.lead (b : UInt8) : List Char × DecodeState :=
  if b < 0x80 then ([Char.ofNat b.toNat], .start)
  else if b < 0xC2 then ([replacement], .start)
  else if b < 0xE0 then ([], .within 0 0x80 0xBF (b.toNat - 0xC0))
  else if b < 0xF0 then
    let low := if b = 0xE0 then 0xA0 else 0x80
    let high := if b = 0xED then 0x9F else 0xBF
    ([], .within 1 low high (b.toNat - 0xE0))
  else if b < 0xF5 then
    let low := if b = 0xF0 then 0x90 else 0x80
    let high := if b = 0xF4 then 0x8F else 0xBF
    ([], .within 2 low high (b.toNat - 0xF0))
  else ([replacement], .start)

/-- Reads one byte. A byte that cannot continue a character ends it and is read again as a start. -/
def DecodeState.step (s : DecodeState) (b : UInt8) : List Char × DecodeState :=
  match s with
  | .start => lead b
  | .within missing low high bits =>
    if low ≤ b ∧ b ≤ high then
      let bits := bits * 64 + (b.toNat - 0x80)
      match missing with
      | 0 => ([Char.ofNat bits], .start)
      | missing + 1 => ([], .within missing 0x80 0xBF bits)
    else
      let (chars, next) := lead b
      (replacement :: chars, next)

/-- What is left when the input ends: an unfinished character is replaced. -/
def DecodeState.flush : DecodeState → List Char
  | .start => []
  | .within .. => [replacement]

def decodeFrom (s : DecodeState) : Bytes → List Char
  | [] => s.flush
  | b :: bs => (s.step b).1 ++ decodeFrom (s.step b).2 bs

def decodeChars (bs : Bytes) : List Char := decodeFrom .start bs

/-- Decodes bytes as UTF-8, replacing each maximal ill-formed subpart. -/
def decodeLossy (bs : Bytes) : String := String.ofList (decodeChars bs)

def encodeChars (cs : List Char) : Bytes := cs.flatMap String.utf8EncodeChar

/-- The UTF-8 bytes of a text. -/
def encode (s : String) : Bytes := encodeChars s.toList

end Distill.Text
