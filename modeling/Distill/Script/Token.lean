import Distill.Text.Digits
import Distill.Text.Letter
import Distill.Text.Printable
import Distill.Text.Remainder

/-!
The tokens of JavaScript and the scanner that finds one at the beginning of a text. Blanks and comments are skipped
separately, because a line end before a token matters to the grammar.
-/
namespace Distill.Script

inductive Kind where
  | punctuator
  /-- A word; whether it is reserved depends on its text. -/
  | word
  | privateName
  | number
  | string
  | regex
  /-- A template without substitutions. -/
  | template
  /-- A template up to its first substitution. -/
  | templateHead
  /-- What stands between two substitutions of a template. -/
  | templateMiddle
  /-- What stands after the last substitution of a template. -/
  | templateTail
  | finish
  /-- What is no token. Its text is what was taken; the error lies so many characters after that. -/
  | broken (message : String) (offset : Nat)
deriving DecidableEq, Repr

structure Token where
  kind : Kind
  text : String
deriving DecidableEq, Repr

/-- The punctuators, longer ones first. -/
def punctuators : List String := [
  ">>>=",
  "...", "===", "!==", "**=", "<<=", ">>=", ">>>", "&&=", "||=", "??=",
  "=>", "==", "!=", "<=", ">=", "&&", "||", "??", "?.", "++", "--", "+=", "-=", "*=", "/=", "%=", "&=", "|=", "^=",
  "<<", ">>", "**",
  "\x7b", "\x7d", "(", ")", "[", "]", ";", ",", "<", ">", "+", "-", "*", "/", "%", "&", "|", "^", "!", "~", "?", ":",
  "=", "."]

/-- Words that cannot name a variable. -/
def reservedWords : List String := [
  "await", "break", "case", "catch", "class", "const", "continue", "debugger", "default", "delete", "do", "else", "enum",
  "export", "extends", "false", "finally", "for", "function", "if", "import", "in", "instanceof", "new", "null",
  "return", "super", "switch", "this", "throw", "true", "try", "typeof", "yield", "var", "void", "while", "with"]

/-- What the scanner found: a token, and how many characters were read up to its end or to where reading stopped. -/
structure Scanned where
  token : Token
  length : Nat
deriving DecidableEq, Repr

/-- A token that takes so many characters of a text. -/
def Scanned.of (kind : Kind) (cs : List Char) (length : Nat) : Scanned := ⟨⟨kind, String.ofList (cs.take length)⟩, length⟩

def Scanned.fail (message : String) (offset length : Nat) : Scanned := ⟨⟨.broken message offset, ""⟩, length⟩

/-- An error right after so many characters, which are taken. -/
def Scanned.failAfter (message : String) (cs : List Char) (length : Nat) : Scanned := .of (.broken message 0) cs length

/-- The length of a string literal, from the character after its quote up to and with the closing quote. A line feed, a
carriage return or the end of the text before that is an error there. -/
def stringLength (quote : Char) : List Char → Except Nat Nat
  | [] => .error 0
  | '\\' :: '\r' :: '\n' :: rest => plus 3 (stringLength quote rest)
  | '\\' :: _ :: rest => plus 2 (stringLength quote rest)
  | c :: rest =>
    if c = quote then .ok 1
    else if c = '\n' ∨ c = '\r' then .error 0
    else plus 1 (stringLength quote rest)
where
  plus (n : Nat) : Except Nat Nat → Except Nat Nat
    | .ok m => .ok (n + m)
    | .error m => .error (n + m)

/-- The length of a part of a template, up to and with what ends it, and whether that is a substitution. -/
def templateLength : List Char → Option (Nat × Bool)
  | [] => none
  | '\x60' :: _ => some (1, false)
  | '$' :: '\x7b' :: _ => some (2, true)
  | '\\' :: _ :: rest => (templateLength rest).map fun (n, b) => (n + 2, b)
  | _ :: rest => (templateLength rest).map fun (n, b) => (n + 1, b)

/-- The part of a template from its opening mark on. -/
def scanTemplate (cs : List Char) : Scanned :=
  match cs with
  | [] => .fail "unterminated template literal" 0 0
  | _ :: rest =>
    match templateLength rest with
    | some (n, more) => .of (if more then .templateHead else .template) cs (n + 1)
    | none => .fail "unterminated template literal" cs.length 0

/-- The length of digits with single underscores between them. -/
def digitsLength (isDigit : Char → Bool) : List Char → Nat
  | [] => 0
  | c :: rest =>
    if isDigit c then
      match rest with
      | '_' :: more => if more.head?.any isDigit then digitsLength isDigit rest + 1 else 1
      | _ => digitsLength isDigit rest + 1
    else if c = '_' then digitsLength isDigit rest + 1
    else 0

/-- The length of an exponent, zero if there is none; an exponent without digits is an error after its sign. -/
def exponentLength : List Char → Except Nat Nat
  | e :: rest =>
    if e = 'e' ∨ e = 'E' then
      let sign := match rest with
        | '+' :: _ => 1
        | '-' :: _ => 1
        | _ => 0
      let digits := rest.drop sign
      if digits.head?.any Char.isDigit then .ok (1 + sign + digitsLength Char.isDigit digits) else .error (1 + sign)
    else .ok 0
  | [] => .ok 0

/-- The digits of the base that a letter names. -/
def baseDigit? : Char → Option (Char → Bool)
  | 'x' | 'X' => some fun c => (Text.hexValue? c).isSome
  | 'o' | 'O' => some fun c => '0' ≤ c && c ≤ '7'
  | 'b' | 'B' => some fun c => c = '0' || c = '1'
  | _ => none

/-- The length of a number. A letter for a base without a digit after it does not belong to the number. -/
def numberLength (cs : List Char) : Except Nat Nat :=
  let suffixed (n : Nat) : Nat := if (cs.drop n).head? = some 'n' then n + 1 else n
  match cs with
  | '0' :: b :: rest =>
    match baseDigit? b with
    | some isDigit =>
      .ok (if rest.head?.any isDigit then suffixed (2 + digitsLength isDigit rest) else 1)
    | none => decimal suffixed 1
  | '.' :: _ => decimal suffixed 0
  | _ => decimal suffixed (digitsLength Char.isDigit cs)
where
  /-- A number in base ten with so many digits before its point. -/
  decimal (suffixed : Nat → Nat) (whole : Nat) : Except Nat Nat :=
    match cs.drop whole with
    | '.' :: rest =>
      let n := whole + 1 + (if rest.head?.any Char.isDigit then digitsLength Char.isDigit rest else 0)
      stringLength.plus n (exponentLength (cs.drop n))
    | rest =>
      match exponentLength rest with
      | .ok 0 => .ok (suffixed whole)
      | e => stringLength.plus whole e

/-- Whether a number starts with a zero before another digit. -/
def isLegacyOctal : List Char → Bool
  | '0' :: c :: _ => c.isDigit
  | _ => false

/-- Whether a number starts here. -/
def startsNumber : List Char → Bool
  | '.' :: c :: _ => c.isDigit
  | c :: _ => c.isDigit
  | [] => false

def startsWith (pattern : String) (cs : List Char) : Bool := pattern.toList.isPrefixOf cs

/-- The punctuator at the beginning of a text. A question mark before a decimal fraction stands alone. -/
def punctuator? (cs : List Char) : Option String :=
  punctuators.find? fun p => startsWith p cs && !(p = "?." && ((cs.drop 2).head?.any Char.isDigit))

/-- The length of an escaped character of a word, zero if there is none. -/
def escapeLength : List Char → Nat
  | '\\' :: 'u' :: '\x7b' :: rest =>
    let digits := rest.takeWhile fun c => (Text.hexValue? c).isSome
    if digits ≠ [] ∧ (rest.drop digits.length).head? = some '\x7d' then digits.length + 4 else 0
  | '\\' :: 'u' :: rest =>
    if ((rest.take 4).takeWhile fun c => (Text.hexValue? c).isSome).length = 4 then 6 else 0
  | _ => 0

/-- The length of a word with at most so many escaped characters. -/
def wordLengthWith : (fuel : Nat) → List Char → Nat
  | 0, _ => 0
  | fuel + 1, cs =>
    let plain := (cs.takeWhile Text.isIdentifierPart).length
    let escape := escapeLength (cs.drop plain)
    if escape = 0 then plain else plain + escape + wordLengthWith fuel (cs.drop (plain + escape))

/-- The length of a word. -/
def wordLength (cs : List Char) : Nat :=
  let plain := (cs.takeWhile Text.isIdentifierPart).length
  if (cs.drop plain).head? = some '\\' then wordLengthWith (cs.length + 1) cs else plain

/-- Whether a word starts here. -/
def startsWord (cs : List Char) : Bool := cs.head?.any Text.startsIdentifier || escapeLength cs ≠ 0

/-- A character in a message: by its code if it cannot be shown. -/
def shownChar (c : Char) : String :=
  let code := String.ofList ((Nat.toDigits 16 c.toNat).map Char.toUpper)
  let padded (width : Nat) : String := String.ofList (List.replicate (width - code.length) '0') ++ code
  if Text.isPrintable c then String.singleton c else if c.toNat < 0x80 then "0x" ++ padded 2 else "U+" ++ padded 4

/-- The token at the beginning of a text that starts neither with a blank nor with a comment. -/
def scan (cs : List Char) : Scanned :=
  match cs with
  | [] => .of .finish [] 0
  | c :: rest =>
    if startsWord cs then
      .of .word cs (wordLength cs)
    else if isLegacyOctal cs then .failAfter "legacy octal numbers are not supported" cs 1
    else if startsNumber cs then
      match numberLength cs with
      | .ok n => .of .number cs n
      | .error n => .failAfter "invalid number" cs n
    else if c = '"' || c = '\'' then
      match stringLength c rest with
      | .ok n => .of .string cs (n + 1)
      | .error n => .fail "unterminated string literal" (1 + n) 0
    else if c = '\x60' then scanTemplate cs
    else if c = '#' then
      if startsWord rest then .of .privateName cs (1 + wordLength rest)
      else .failAfter ("unexpected " ++ shownChar (rest.head?.getD '\x00')) cs 1
    else match punctuator? cs with
      | some p => .of .punctuator cs p.length
      | none => .fail ("unexpected " ++ shownChar c) 0 0

/-- The length of the body of a regular expression, up to and with its closing slash. Inside brackets a slash stands
for itself. A line end or the end of the text before the slash is an error there. -/
def regexLength (inClass : Bool) : List Char → Except Nat Nat
  | [] => .error 0
  | ['\\'] => .error 1
  | '\\' :: c :: rest =>
    if Text.isLineEnd c then .error 1 else stringLength.plus 2 (regexLength inClass rest)
  | c :: rest =>
    if Text.isLineEnd c then .error 0
    else if c = '/' && !inClass then .ok 1
    else stringLength.plus 1 (regexLength (if c = '[' then true else if c = ']' then false else inClass) rest)

/-- The regular expression at the beginning of a text. -/
def scanRegex (cs : List Char) : Scanned :=
  match regexLength false (cs.drop 1) with
  | .ok n =>
    let flags := ((cs.drop (1 + n)).takeWhile Text.isIdentifierPart).length
    .of .regex cs (1 + n + flags)
  | .error n => .fail "unexpected EOF or newline" 0 (1 + n)

/-- What stands between two tokens. -/
structure Gap where
  /-- Whether a line ended. -/
  newline : Bool
  /-- Whether nothing but blanks stands on the line so far. -/
  atStart : Bool
  /-- Comments that have to be kept, in order. -/
  notices : List String
  /-- Whether every comment is closed. -/
  closed : Bool
  rest : Text.Remainder

/-- The length of a block comment after its opening, none if it is not closed. -/
def blockCommentLength? : List Char → Option Nat
  | '*' :: '/' :: _ => some 2
  | _ :: rest => (blockCommentLength? rest).map (· + 1)
  | [] => none

/-- Whether a comment has to be kept: its text starts with an exclamation mark. -/
def isNotice (comment : List Char) : Bool := (comment.drop 2).head? = some '!'

/-- The comments kept so far with one more. -/
def keepNotice (notices : List String) (comment : List Char) : List String :=
  if isNotice comment then notices ++ [String.ofList comment] else notices

/-- The rest of a line. -/
def lineLength (cs : List Char) : Nat := (cs.takeWhile fun c => !Text.isLineEnd c).length

/-- Skips blanks, line ends and comments. A comment that is not closed takes the rest of the text. What stands after
`<!--`, or after `-->` at the beginning of a line, is a comment too. -/
def skipGap : (fuel : Nat) → Gap → Gap
  | 0, g => g
  | fuel + 1, g =>
    let skipLine (g : Gap) : Gap :=
      let n := lineLength g.rest.chars
      { g with notices := keepNotice g.notices (g.rest.chars.take n), rest := g.rest.drop n, atStart := false }
    match g.rest.chars with
    | '/' :: '/' :: _ => skipGap fuel (skipLine g)
    | '<' :: '!' :: '-' :: '-' :: _ => skipGap fuel (skipLine g)
    | '/' :: '*' :: rest =>
      match blockCommentLength? rest with
      | some n =>
        let comment := g.rest.chars.take (n + 2)
        let breaks := comment.any Text.isLineEnd
        skipGap fuel
          { g with
            newline := g.newline || breaks
            atStart := breaks
            notices := keepNotice g.notices comment
            rest := g.rest.drop (n + 2) }
      | none =>
        { newline := g.newline || rest.any Text.isLineEnd
          atStart := false
          notices := keepNotice g.notices g.rest.chars
          closed := false
          rest := g.rest.drop g.rest.length }
    | c :: _ =>
      if Text.isSpace c then skipGap fuel { g with rest := g.rest.drop 1 }
      else if Text.isLineEnd c then skipGap fuel { g with newline := true, atStart := true, rest := g.rest.drop 1 }
      else if g.atStart && startsWith "-->" g.rest.chars then skipGap fuel (skipLine g)
      else g
    | [] => g

/-- What stands before the next token of a text; `atStart` tells whether the text starts a line. -/
def gap (atStart : Bool) (text : Text.Remainder) : Gap := skipGap (text.length + 1) ⟨false, atStart, [], true, text⟩

end Distill.Script
