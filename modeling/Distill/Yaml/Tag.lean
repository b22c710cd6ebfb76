import Distill.Text.Utf8
import Distill.Yaml.Scalar

/-!
Names of anchors, tags, and the directives in front of a document. A tag is a handle with a suffix; a directive may
give a handle its meaning.
-/
namespace Distill.Yaml

def isNameChar (c : Char) : Bool := c.isAlphanum || c = '_' || c = '-'

/-- Whether the name of an anchor may end before this text. -/
def endsAnchor : List Char → Bool
  | [] => true
  | c :: _ => isBlank c || isBreak c || c ∈ ['?', ':', ',', ']', '\x7d', '%', '@', '\x60']

/-- The name after `&` or `*`. -/
def anchorName (c : Cursor) : Option (String × Cursor) :=
  let name := c.rest.takeWhile isNameChar
  let c := c.forward name.length
  if name.isEmpty || !endsAnchor c.rest then none else some (String.ofList name, c)

/-- Whether a character may stand in the suffix of a tag. -/
def isUriChar (c : Char) : Bool :=
  isNameChar c ||
    c ∈ [';', '/', '?', ':', '@', '&', '=', '+', '$', ',', '.', '!', '~', '*', '\'', '(', ')', '[', ']', '%']

/-- The byte that `%` and two hexadecimal digits write. -/
def escapedByte? : List Char → Option UInt8
  | '%' :: a :: b :: _ => do
    let high ← Text.hexValue? a
    let low ← Text.hexValue? b
    return UInt8.ofNat (high * 16 + low)
  | _ => none

/-- How many bytes a character of UTF-8 with this first byte has. -/
def leadWidth? (b : UInt8) : Option Nat :=
  if b < 0x80 then some 1
  else if b < 0xc0 then none
  else if b < 0xe0 then some 2
  else if b < 0xf0 then some 3
  else if b < 0xf8 then some 4
  else none

/-- The bytes of one escaped character. -/
def escapedBytes? (cs : List Char) : Option Text.Bytes := do
  let lead ← escapedByte? cs
  let width ← leadWidth? lead
  let more ← (List.range (width - 1)).mapM fun i => do
    let b ← escapedByte? (cs.drop (3 * (i + 1)))
    if 0x80 ≤ b ∧ b < 0xc0 then some b else none
  return lead :: more

/-- The suffix of a tag, as bytes. -/
def uriFrom : (fuel : Nat) → Cursor → Option (Text.Bytes × Cursor)
  | 0, _ => none
  | fuel + 1, c =>
    match c.rest with
    | '%' :: _ => do
      let bytes ← escapedBytes? c.rest
      let (more, c) ← uriFrom fuel (c.forward (3 * bytes.length))
      return (bytes ++ more, c)
    | x :: _ =>
      if isUriChar x then do
        let (more, c) ← uriFrom fuel c.next
        return (Text.encodeChars [x] ++ more, c)
      else some ([], c)
    | [] => some ([], c)

def uri (c : Cursor) : Option (String × Cursor) := do
  let (bytes, c) ← uriFrom (c.rest.length + 1) c
  return (Text.decodeLossy bytes, c)

/-- A handle: `!`, `!!`, or a name between two marks. A single mark with a name after it is no handle. -/
def handle (c : Cursor) : Option (String × Cursor) :=
  match c.rest with
  | '!' :: rest =>
    let name := rest.takeWhile isNameChar
    let after := c.forward (1 + name.length)
    if after.rest.head? = some '!' then some (String.ofList ('!' :: name ++ ['!']), after.next)
    else some (String.ofList ('!' :: name), after)
  | _ => none

/-- Whether a handle has both its marks. -/
def isFullHandle (h : String) : Bool := 1 < h.length && h.toList.getLast? = some '!'

/-- A tag, as its handle and suffix. The handle is empty for a tag that is written out in full, and for `!` alone. -/
def tag (c : Cursor) : Option ((String × String) × Cursor) := do
  let (parts, c) ←
    if c.rest.drop 1 |>.head? |> (· = some '<') then
      let (suffix, c) ← uri (c.forward 2)
      if suffix.isEmpty || c.rest.head? ≠ some '>' then none
      else some (("", suffix), c.next)
    else
      let (h, after) ← handle c
      let (suffix, c) ← uri after
      if isFullHandle h then if suffix.isEmpty then none else some ((h, suffix), c)
      else
        let whole := String.ofList (h.toList.drop 1) ++ suffix
        if whole.isEmpty then some (("", "!"), c) else some (("!", whole), c)
  if startsBlank c.rest then some (parts, c) else none

inductive Directive where
  | version (major minor : Nat)
  | handle (name meaning : String)
deriving DecidableEq, Repr

/-- A number of one or two digits. -/
def versionNumber (c : Cursor) : Option (Nat × Cursor) :=
  let digits := c.rest.takeWhile Char.isDigit
  if digits.isEmpty || 2 < digits.length then none
  else some (digits.foldl (fun n d => n * 10 + (d.toNat - 48)) 0, c.forward digits.length)

/-- A directive, from its `%` on, with the rest of its line. -/
def directive (c : Cursor) : Option (Directive × Cursor) := do
  let c := c.next
  let name := c.rest.takeWhile isNameChar
  let c := c.forward name.length
  if name.isEmpty || !startsBlank c.rest then none
  else
    let c := c.skipWhile isBlank
    let (d, c) ←
      if name = "YAML".toList then do
        let (major, c) ← versionNumber c
        if c.rest.head? ≠ some '.' then none
        else
          let (minor, c) ← versionNumber c.next
          some (Directive.version major minor, c)
      else if name = "TAG".toList then do
        let (h, c) ← Yaml.handle c
        if !(h = "!" || isFullHandle h) || !c.rest.head?.any isBlank then none
        else
          let (meaning, c) ← uri (c.skipWhile isBlank)
          if meaning.isEmpty || !startsBlank c.rest then none else some (Directive.handle h meaning, c)
      else none
    let c := (c.skipWhile isBlank).skipComment
    if !c.atLineEnd then none
    else return (d, match c.lineEnd? with
      | some (_, after) => after
      | none => c)

end Distill.Yaml
