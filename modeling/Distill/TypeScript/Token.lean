import Distill.Script.Stream
import Distill.Text.Quoted
import Distill.TypeScript.Literal

/-!
The tokens of TypeScript. Names are decoded as they are read, and every token knows its place: the number of characters
that are left where it starts. A text that cannot be split into tokens is a hard error.
-/
namespace Distill.TypeScript

open Script (SyntaxError startsWith)

/-- A place in a text, by the number of characters that are left there. -/
abbrev Place := Nat

/-- Words that are never names. -/
def keywords : List String := [
  "break", "case", "catch", "class", "const", "continue", "debugger", "default", "delete", "do", "else", "enum", "export",
  "extends", "false", "finally", "for", "function", "if", "import", "in", "instanceof", "new", "null", "return", "super",
  "switch", "this", "throw", "true", "try", "typeof", "var", "void", "while", "with"]

/-- Words that are names unless the text is strict. -/
def strictWords : List String := [
  "implements", "interface", "let", "package", "private", "protected", "public", "static", "yield"]

inductive Kind where
  | finish
  | name
  | keyword
  /-- A keyword written with an escape, which can only be the name of a member. -/
  | escapedKeyword
  | privateName
  | number
  | bigInteger
  | string
  | regex
  /-- A template without substitutions. -/
  | template
  | templateHead
  | templateMiddle
  | templateTail
  | mark
  /-- A character that starts no token. -/
  | stray
deriving DecidableEq, Repr

structure Comment where
  place : Place
  text : String
  /-- Whether a line ended between it and the token before. -/
  startsLine : Bool
deriving DecidableEq, Repr

/-- What comments say about the expression or function that follows them. -/
structure Promise where
  /-- A call has no effect. -/
  ofCall : Bool := false
  /-- Calls of a function have no effect. -/
  ofFunction : Bool := false
deriving DecidableEq, Repr

structure Token where
  kind : Kind
  /-- The text, for a name without its escapes. -/
  text : String
  /-- The text as it is written. -/
  raw : String
  place : Place
  /-- Whether a line ended before the token. The first token counts as the first of a line. -/
  newline : Bool
  /-- The comments right before the token. -/
  comments : List Comment
  promise : Promise := {}
deriving DecidableEq, Repr

/-- What is said of a character that cannot stand at the beginning of this text. -/
def strayCharacter : List Char → String
  | [] => "Unexpected end of file"
  | c :: _ =>
    if c = '"' then "Syntax error '\"'"
    else
      let shown :=
        if c.toNat < 0x20 then "\\x" ++ upperHex 2 c.toNat
        else if 0x80 ≤ c.toNat then "\\u\x7b" ++ Text.hex 0 c.toNat ++ "\x7d"
        else String.singleton c
      "Syntax error \"" ++ shown ++ "\""

/-- The error of a text with `left` characters that goes wrong after `offset` of them. -/
def strayAt (left : Nat) (cs : List Char) (offset : Nat) : SyntaxError :=
  ⟨left - offset, strayCharacter (cs.drop offset)⟩

/-- The error of a faulty escape in a text with `left` characters. -/
def EscapeFault.error (left : Nat) (cs : List Char) : EscapeFault → SyntaxError
  | .stray offset => strayAt left cs offset
  | .outOfRange offset => ⟨left - offset, "Unicode escape sequence is out of range"⟩

/-- What stands between two tokens. -/
structure Gap where
  newline : Bool
  comments : List Comment := []
  /-- Where the last comment in the style of markup starts. -/
  markup : Option Place := none
  left : Nat
  rest : List Char
deriving Repr

def Gap.skip (g : Gap) (length : Nat) : Gap := { g with left := g.left - length, rest := g.rest.drop length }

/-- The gap with a comment of so many characters. -/
def Gap.withComment (g : Gap) (length : Nat) : Gap :=
  { g.skip length with comments := g.comments ++ [⟨g.left, String.ofList (g.rest.take length), g.newline⟩] }

/-- The gap with a comment in the style of markup. -/
def Gap.withMarkup (g : Gap) : Gap := { g.skip (Script.lineLength g.rest) with markup := some g.left }

/-- Skips blanks, line ends and comments. Comments in the style of markup are not among those that are kept. -/
def skipGap : (fuel : Nat) → Gap → Except SyntaxError Gap
  | 0, g => .ok g
  | fuel + 1, g =>
    match g.rest with
    | '/' :: '/' :: _ => skipGap fuel (g.withComment (Script.lineLength g.rest))
    | '<' :: '!' :: '-' :: '-' :: _ => skipGap fuel g.withMarkup
    | '/' :: '*' :: rest =>
      match Script.blockCommentLength? rest with
      | some n =>
        let breaks := (rest.take n).any Text.isLineEnd
        skipGap fuel { g.withComment (n + 2) with newline := g.newline || breaks }
      | none => .error ⟨0, "Expected \"*/\" to terminate multi-line comment"⟩
    | c :: _ =>
      if Text.isSpace c then skipGap fuel (g.skip 1)
      else if Text.isLineEnd c then skipGap fuel { g.skip 1 with newline := true }
      else if g.newline && startsWith "-->" g.rest then skipGap fuel g.withMarkup
      else .ok g
    | [] => .ok g

/-- What the scanner found: a token by its kind, its text and its length. -/
structure Found where
  kind : Kind
  text : String
  length : Nat
  /-- What is wrong with it though it can be read, each with its offset. -/
  problems : List (Nat × String) := []
deriving DecidableEq, Repr

def Found.of (kind : Kind) (cs : List Char) (length : Nat) : Found := ⟨kind, String.ofList (cs.take length), length, []⟩

/-- The length of a name with escapes. A fault is the offset of what cannot stand there. -/
def escapedNameLength : (fuel : Nat) → List Char → Except Nat Nat
  | 0, _ => .ok 0
  | fuel + 1, cs =>
    let plus := Script.stringLength.plus
    match cs with
    | '\\' :: 'u' :: '\x7b' :: rest =>
      let digits := (rest.takeWhile isHexDigit).length
      if (rest.drop digits).head? = some '\x7d' then
        plus (digits + 4) (escapedNameLength fuel (rest.drop (digits + 1)))
      else .error (3 + digits)
    | '\\' :: 'u' :: rest =>
      let digits := ((rest.take 4).takeWhile isHexDigit).length
      if digits = 4 then plus 6 (escapedNameLength fuel (rest.drop 4)) else .error (2 + digits)
    | '\\' :: _ => .error 1
    | c :: rest => if Text.isIdentifierPart c then plus 1 (escapedNameLength fuel rest) else .ok 0
    | [] => .ok 0

/-- Whether a text is spelled like a name. -/
def isNameText : List Char → Bool
  | [] => false
  | c :: rest => Text.startsIdentifier c && rest.all Text.isIdentifierPart

/-- The name after `lead` characters that belong to it: none, or the mark of a private name. -/
def scanName (left lead : Nat) (cs : List Char) : Except SyntaxError Found :=
  let kindOf (text : String) (isEscaped : Bool) : Kind :=
    if lead ≠ 0 then .privateName
    else if !keywords.contains text then .name
    else if isEscaped then .escapedKeyword
    else .keyword
  let plain := ((cs.drop lead).takeWhile Text.isIdentifierPart).length
  if (cs.drop (lead + plain)).head? = some '\\' then
    match escapedNameLength (left + 1) (cs.drop lead) with
    | .error n => .error (strayAt left cs (lead + n))
    | .ok n =>
      let raw := (cs.drop lead).take n
      match escapeFault? (n + 1) lead raw with
      | some fault => .error (fault.error left cs)
      | none =>
        let decoded := (decodeLiteral raw).map Char.ofNat
        let text := String.ofList (cs.take lead ++ decoded)
        let problems := if isNameText decoded then [] else [(0, "Invalid identifier: " ++ Text.quoted text)]
        .ok ⟨kindOf text true, text, lead + n, problems⟩
  else
    let text := String.ofList (cs.take (lead + plain))
    .ok ⟨kindOf text false, text, lead + plain, []⟩

/-- The length of digits with separators between them. `hasDigit` tells whether a digit came before, `previous` whether
the last character was a separator. A fault is the offset of what cannot stand there: a separator after another or
before all digits. -/
def digitRun (isDigit : Char → Bool) : (hasDigit previous : Bool) → (offset : Nat) → List Char → Except Nat (Nat × Bool)
  | _, previous, offset, [] => .ok (offset, previous)
  | hasDigit, previous, offset, c :: rest =>
    if c = '_' then
      if previous ∨ !hasDigit then .error offset else digitRun isDigit hasDigit true (offset + 1) rest
    else if isDigit c then digitRun isDigit true false (offset + 1) rest
    else .ok (offset, previous)

/-- A number up to its suffix. -/
structure NumberSpan where
  length : Nat
  isInteger : Bool
  /-- Whether it starts with a zero that is followed by another digit. -/
  hasZero : Bool
deriving DecidableEq, Repr

/-- The run of digits from `start` on, which must not end with a separator. -/
def closedRun (isDigit : Char → Bool) (hasDigit : Bool) (start : Nat) (cs : List Char) : Except Nat Nat := do
  let (stop, endsBadly) ← digitRun isDigit hasDigit false start (cs.drop start)
  if endsBadly then throw (stop - 1)
  return stop

/-- The number with a base at the beginning of a text. Digits that the base does not have are faults. -/
def basedSpan (isBelow : Char → Bool) (cs : List Char) : Except Nat NumberSpan := do
  let stop ← closedRun isBelow false 2 cs
  if stop = 2 ∨ (cs.drop stop).head?.any isHexDigit then throw stop
  return ⟨stop, true, false⟩

/-- The number in base ten at the beginning of a text. -/
def decimalSpan (hasZero : Bool) (cs : List Char) : Except Nat NumberSpan := do
  let whole ← closedRun Char.isDigit true 0 cs
  let hasPoint := (cs.drop whole).head? = some '.'
  if hasPoint && (cs.drop (whole + 1)).head? = some '_' then throw (whole + 1)
  let point ← if hasPoint then closedRun Char.isDigit true (whole + 1) cs else pure whole
  if (cs.drop point).head?.any fun c => c = 'e' || c = 'E' then
    let sign := if (cs.drop (point + 1)).head?.any fun c => c = '+' || c = '-' then 1 else 0
    let start := point + 1 + sign
    if !(cs.drop start).head?.any Char.isDigit then throw start
    return ⟨← closedRun Char.isDigit true start cs, false, hasZero⟩
  return ⟨point, !hasPoint, hasZero⟩

/-- The number at the beginning of a text, up to its suffix. A fault is the offset of what cannot stand there. -/
def numberSpan (cs : List Char) : Except Nat NumberSpan :=
  match cs with
  | '0' :: c :: rest =>
    if c = 'x' ∨ c = 'X' then basedSpan isHexDigit cs
    else if c = 'o' ∨ c = 'O' then basedSpan isOctalDigit cs
    else if c = 'b' ∨ c = 'B' then basedSpan (fun c => c = '0' || c = '1') cs
    else if c = '_' then .error 1
    else if c.isDigit then
      let digits := (rest.takeWhile Char.isDigit).length + 2
      if (cs.drop digits).head? = some '_' then .error digits
      else if isOctalDigit c then .ok ⟨digits, true, true⟩
      else decimalSpan true cs
    else decimalSpan false cs
  | _ => decimalSpan false cs

/-- The number at the beginning of a text. No name can follow it directly. -/
def scanNumber (left : Nat) (cs : List Char) : Except SyntaxError Found :=
  match numberSpan cs with
  | .error n => .error (strayAt left cs n)
  | .ok span =>
    let isBig := span.isInteger && (cs.drop span.length).head? = some 'n'
    let length := if isBig then span.length + 1 else span.length
    if isBig && span.hasZero then .error (strayAt left cs span.length)
    else if (cs.drop length).head?.any Text.startsIdentifier then .error (strayAt left cs length)
    else .ok (.of (if isBig then .bigInteger else .number) cs length)

/-- The part of a template at the beginning of a text, from its opening mark on. -/
def scanTemplatePart (whole head : Kind) (cs : List Char) : Except SyntaxError Found :=
  match Script.templateLength (cs.drop 1) with
  | some (n, more) => .ok (.of (if more then head else whole) cs (n + 1))
  | none => .error ⟨0, "Unterminated string literal"⟩

/-- The string at the beginning of a text. -/
def scanString (left : Nat) (quote : Char) (cs : List Char) : Except SyntaxError Found :=
  match Script.stringLength quote (cs.drop 1) with
  | .ok n => .ok (.of .string cs (n + 1))
  | .error n => .error ⟨left - (1 + n), "Unterminated string literal"⟩

/-- The mark at the beginning of a text. -/
def mark? (cs : List Char) : Option String :=
  if cs.head? = some '@' then some "@" else Script.punctuator? cs

/-- The token at the beginning of a text that starts neither with a blank nor with a comment. -/
def scan (left : Nat) (cs : List Char) : Except SyntaxError Found :=
  match cs with
  | [] => .ok (.of .finish [] 0)
  | c :: rest =>
    if Text.startsIdentifier c ∨ c = '\\' then scanName left 0 cs
    else if Script.startsNumber cs then scanNumber left cs
    else if c = '"' ∨ c = '\'' then scanString left c cs
    else if c = '\x60' then scanTemplatePart .template .templateHead cs
    else if c = '#' then
      if rest.head?.any fun d => Text.startsIdentifier d || d = '\\' then scanName left 1 cs else .error (strayAt left cs 1)
    else match mark? cs with
      | some p => .ok (.of .mark cs p.length)
      | none => .ok (.of .stray cs 1)

/-- The flags that occur a second time, each with its offset. -/
def repeatedFlags (seen : List Char) (offset : Nat) : List Char → List (Nat × String)
  | [] => []
  | c :: rest =>
    let later := repeatedFlags (c :: seen) (offset + 1) rest
    if seen.contains c then
      (offset, "Duplicate flag \"" ++ String.singleton c ++ "\" in regular expression") :: later
    else later

/-- The regular expression at the beginning of a text, with the problems of its flags; a flag that does not exist is a
hard error after them. -/
def scanRegex (left : Nat) (cs : List Char) : Except SyntaxError (Found × Option SyntaxError) :=
  match Script.regexLength false (cs.drop 1) with
  | .error n => .error ⟨left - (1 + n), "Unterminated regular expression"⟩
  | .ok n =>
    let written := (cs.drop (1 + n)).takeWhile Text.isIdentifierPart
    let flags := written.takeWhile "dgimsuvy".toList.contains
    let stop := 1 + n + flags.length
    let found := { Found.of .regex cs stop with problems := repeatedFlags [] (1 + n) flags }
    .ok (found, if flags.length < written.length then some (strayAt left cs stop) else none)

end Distill.TypeScript
