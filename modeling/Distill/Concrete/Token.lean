import Distill.TypeScript.Token

/-!
The tokens of a source text, each with its extent. Every text splits into tokens: where it cannot be split properly,
what stands there is a token without meaning.
-/
namespace Distill.Concrete

open TypeScript (Found)

inductive Kind where
  | finish
  /-- A name or a keyword. -/
  | word
  | privateName
  | number
  | bigInteger
  | string
  | regex
  | template
  | templateHead
  | templateMiddle
  | templateTail
  | mark
  | stray
deriving DecidableEq, Repr

structure Token where
  kind : Kind
  /-- The text, for a word without its escapes. -/
  text : String
  /-- The text as it is written. -/
  raw : String
  /-- Where the token before ends. -/
  before : Nat
  start : Nat
  stop : Nat
  /-- Whether a line ended before the token. -/
  newline : Bool
  /-- Whether a comment on a line of its own, or after a line of its own, stands before the token. -/
  isRemarked : Bool
deriving DecidableEq, Repr

/-- What stands before a token. -/
structure Gap where
  length : Nat
  newline : Bool
  /-- Whether a line ended outside of comments. -/
  isBroken : Bool
  isRemarked : Bool
  rest : List Char

/-- Skips blanks, line ends and comments. -/
def skipGap : (fuel : Nat) → Gap → Gap
  | 0, g => g
  | fuel + 1, g =>
    let skip (n : Nat) : Gap := { g with length := g.length + n, rest := g.rest.drop n }
    match g.rest with
    | '/' :: '/' :: _ =>
      skipGap fuel { skip (Script.lineLength g.rest) with isRemarked := g.isRemarked || g.isBroken }
    | '/' :: '*' :: rest =>
      let n := (Script.blockCommentLength? rest).getD rest.length
      let newline := g.newline || (rest.take n).any Text.isLineEnd
      skipGap fuel { skip (n + 2) with newline, isRemarked := g.isRemarked || g.isBroken }
    | c :: rest =>
      if Text.isSpace c then skipGap fuel { g with length := g.length + 1, rest }
      else if Text.isLineEnd c then skipGap fuel { g with length := g.length + 1, newline := true, isBroken := true, rest }
      else g
    | [] => g

/-- The kind of a token among those that are told apart here. -/
def Kind.of : TypeScript.Kind → Kind
  | .finish => .finish
  | .name | .keyword | .escapedKeyword => .word
  | .privateName => .privateName
  | .number => .number
  | .bigInteger => .bigInteger
  | .string => .string
  | .regex => .regex
  | .template => .template
  | .templateHead => .templateHead
  | .templateMiddle => .templateMiddle
  | .templateTail => .templateTail
  | .mark => .mark
  | .stray => .stray

/-- What stands where no token can be found: a literal up to where it must end, or a single character. -/
def looseToken (cs : List Char) : Kind × Nat :=
  match cs with
  | [] => (.finish, 0)
  | c :: rest =>
    if c = '"' ∨ c = '\'' then (.string, 1 + (rest.takeWhile fun d => !Text.isLineEnd d).length)
    else if c = '\x60' then (.template, cs.length)
    else if c.isDigit ∨ c = '.' then (.number, 1 + (rest.takeWhile Char.isDigit).length)
    else (.stray, 1)

/-- A token out of its kind, its text and its length at the beginning of a text. -/
def Token.of (g : Gap) (before : Nat) (kind : Kind) (text : String) (length : Nat) : Token × List Char :=
  let start := before + g.length
  (⟨kind, text, String.ofList (g.rest.take length), before, start, start + length, g.newline, g.isRemarked⟩,
    g.rest.drop length)

/-- The next token of a text that goes on at an offset with `left` characters, and the text after it. Each mark that
starts with `>` is taken apart, because it may close several lists of types. -/
def Token.next (before left : Nat) (cs : List Char) : Token × List Char :=
  let g := skipGap (left + 1) ⟨0, false, false, false, cs⟩
  match TypeScript.scan (left - g.length) g.rest with
  | .error _ =>
    let (kind, length) := looseToken g.rest
    Token.of g before kind (String.ofList (g.rest.take length)) length
  | .ok found =>
    if g.rest.head? = some '>' then Token.of g before .mark ">" 1
    else Token.of g before (Kind.of found.kind) found.text found.length

/-- The words that are never names, and so never the name of a variable. -/
def isReserved (word : String) : Bool := TypeScript.keywords.contains word

/-- The words that have a meaning in some place. -/
def isKeyword (word : String) : Bool :=
  isReserved word || TypeScript.strictWords.contains word || [
    "abstract", "accessor", "any", "as", "asserts", "async", "await", "bigint", "boolean", "constructor", "declare",
    "from", "get", "global", "infer", "intrinsic", "is", "keyof", "module", "namespace", "never", "number", "object",
    "of", "out", "override", "readonly", "require", "satisfies", "set", "string", "symbol", "type", "undefined",
    "unique", "unknown"].contains word

/-- The words that can stand before a declaration or a member. -/
def isModifier (word : String) : Bool := [
  "abstract", "accessor", "async", "const", "declare", "default", "export", "in", "out", "override", "private",
  "protected", "public", "readonly", "static"].contains word

end Distill.Concrete
