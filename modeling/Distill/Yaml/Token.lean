import Distill.Yaml.Tag

/-!
YAML text as tokens. Outside brackets the column of a token decides where collections start and end, and a mapping is
recognised by a key that stands on one line and is followed by a colon: the tokens that open the mapping and mark the
key are put in front of it when the colon is found.
-/
namespace Distill.Yaml

inductive Lexeme where
  | directive (d : Directive)
  | documentStart
  | documentEnd
  /-- A sequence or a mapping that is laid out by indentation. -/
  | sequenceStart
  | mappingStart
  | blockEnd
  /-- A sequence in brackets or a mapping in braces. -/
  | openBracket
  | closeBracket
  | openBrace
  | closeBrace
  | dash
  | comma
  | key
  | value
  | reference (name : String)
  | anchor (name : String)
  | tag (handle suffix : String)
  | scalar (text : String) (plain : Bool)
deriving DecidableEq, Repr

structure Token where
  lexeme : Lexeme
  /-- The line on which it starts. -/
  line : Nat
deriving DecidableEq, Repr

/-- A place where a key may have started. -/
structure PossibleKey where
  /-- Whether nothing but a key can stand there. -/
  required : Bool
  /-- The number of the token that starts there. -/
  position : Nat
  line : Nat
  column : Nat
  index : Nat
deriving Repr

structure Scanner where
  cursor : Cursor
  tokens : Array Token
  /-- The columns of the open collections that are laid out by indentation, the innermost first. -/
  indents : List Nat
  /-- Whether a key may start at the next token. -/
  keyAllowed : Bool
  /-- The possible key outside brackets. -/
  outerKey : Option PossibleKey
  /-- The possible key within each open bracket, the innermost first. -/
  flowKeys : List (Option PossibleKey)

namespace Scanner

def start (cs : List Char) : Scanner := ⟨Cursor.start cs, #[], [], true, none, []⟩

/-- Whether the place is inside brackets. -/
def inFlow (s : Scanner) : Bool := !s.flowKeys.isEmpty

/-- The least column of what belongs to the innermost collection. -/
def least (s : Scanner) : Nat :=
  match s.indents with
  | [] => 0
  | column :: _ => column + 1

def push (s : Scanner) (lexeme : Lexeme) : Scanner := { s with tokens := s.tokens.push ⟨lexeme, s.cursor.line⟩ }

/-- Adds a token of some characters. -/
def take (s : Scanner) (lexeme : Lexeme) (length : Nat) : Scanner :=
  { s.push lexeme with cursor := s.cursor.forward length }

/-- The possible key of the innermost bracket, or outside of all. -/
def currentKey (s : Scanner) : Option PossibleKey :=
  match s.flowKeys with
  | [] => s.outerKey
  | key :: _ => key

def setKey (s : Scanner) (key : Option PossibleKey) : Scanner :=
  match s.flowKeys with
  | [] => { s with outerKey := key }
  | _ :: rest => { s with flowKeys := key :: rest }

/-- Gives up the possible key; a required one has to be completed. -/
def dropKey (s : Scanner) : Option Scanner :=
  if s.currentKey.any (·.required) then none else some (s.setKey none)

/-- Notes that a key may start at the next token. -/
def noteKey (s : Scanner) : Option Scanner :=
  if !s.keyAllowed then some s
  else do
    let s ← s.dropKey
    let c := s.cursor
    return s.setKey (some ⟨!s.inFlow && s.indents.head? = some c.column, s.tokens.size, c.line, c.column, c.index⟩)

/-- A key ends on the line where it starts, within 1024 bytes. -/
def isStale (s : Scanner) (key : PossibleKey) : Bool :=
  key.line < s.cursor.line || key.index + 1024 < s.cursor.index

/-- Gives up the keys that have become too long. -/
def dropStaleKeys (s : Scanner) : Option Scanner :=
  let fresh (key : Option PossibleKey) : Option PossibleKey := key.filter fun k => !s.isStale k
  if s.outerKey.any fun k => k.required && s.isStale k then none
  else some { s with outerKey := fresh s.outerKey, flowKeys := s.flowKeys.map fresh }

/-- Skips blanks, comments and line ends. A tab is a blank only where no indentation is expected; outside brackets a key
may start on a new line. A byte order mark may stand at the beginning of a line. -/
def skipGap : (fuel : Nat) → Scanner → Scanner
  | 0, s => s
  | fuel + 1, s =>
    let c := s.cursor
    let c := if c.column = 0 && c.rest.head? = some (Char.ofNat 0xfeff) then c.next else c
    let c := (c.skipWhile fun x => x = ' ' || x = '\t' && (s.inFlow || !s.keyAllowed)).skipComment
    match c.lineEnd? with
    | some (_, after) => skipGap fuel { s with cursor := after, keyAllowed := s.keyAllowed || !s.inFlow }
    | none => { s with cursor := c }

/-- Closes the collections that are indented by more than a column; all of them if there is none. -/
def closeTo (column : Option Nat) : List Nat → Scanner → Scanner
  | [], s => { s with indents := [] }
  | indent :: outer, s =>
    if column.all (· < indent) then closeTo column outer (s.push .blockEnd) else { s with indents := indent :: outer }

/-- Closes the collections that end before a column. Inside brackets columns have no meaning. -/
def unindent (s : Scanner) (column : Option Nat) : Scanner := if s.inFlow then s else closeTo column s.indents s

/-- Opens a collection in a column, if that is deeper than the innermost one, with a token at a position. -/
def indent (s : Scanner) (column position line : Nat) (lexeme : Lexeme) : Scanner :=
  if s.inFlow || column < s.least then s
  else { s with indents := column :: s.indents, tokens := s.tokens.insertIdxIfInBounds position ⟨lexeme, line⟩ }

/-- The end of a document: nothing before it is still open. -/
def atBoundary (s : Scanner) : Option Scanner := do
  let s ← (s.unindent none).dropKey
  return { s with keyAllowed := false }

/-- Opens a bracket. -/
def opening (s : Scanner) (lexeme : Lexeme) : Option Scanner := do
  let s ← s.noteKey
  let s := s.take lexeme 1
  return { s with flowKeys := none :: s.flowKeys, keyAllowed := true }

/-- Closes a bracket. -/
def closing (s : Scanner) (lexeme : Lexeme) : Option Scanner := do
  let s ← s.dropKey
  return { s with flowKeys := s.flowKeys.drop 1, keyAllowed := false }.take lexeme 1

/-- A dash or a question mark, which open a collection outside brackets. -/
def indicator (s : Scanner) (opens mark : Lexeme) : Option Scanner := do
  if !s.inFlow && !s.keyAllowed then none
  else
    let s := s.indent s.cursor.column s.tokens.size s.cursor.line opens
    let s ← s.dropKey
    return s.take mark 1

/-- A colon: it completes the possible key, or stands alone. -/
def colon (s : Scanner) : Option Scanner :=
  match s.currentKey with
  | some key =>
    let s := s.setKey none
    let s := { s with tokens := s.tokens.insertIdxIfInBounds key.position ⟨.key, key.line⟩ }
    let s := s.indent key.column key.position key.line .mappingStart
    some ({ s with keyAllowed := false }.take .value 1)
  | none =>
    if s.inFlow then some ({ s with keyAllowed := false }.take .value 1)
    else if !s.keyAllowed then none
    else
      let s := s.indent s.cursor.column s.tokens.size s.cursor.line .mappingStart
      some ({ s with keyAllowed := true }.take .value 1)

/-- A token that may be or start a key, with the place after it. -/
def content (s : Scanner) (read : Cursor → Option (Lexeme × Cursor)) : Option Scanner := do
  let s ← s.noteKey
  let (lexeme, after) ← read s.cursor
  return { s.push lexeme with cursor := after, keyAllowed := false }

/-- A block, which is no key. -/
def blockScalar (s : Scanner) : Option Scanner := do
  let s ← s.dropKey
  let (text, after) ← block s.least s.cursor
  return { s.push (.scalar (String.ofList text) false) with cursor := after, keyAllowed := true }

/-- A plain scalar. After one that ends with its line a key may follow outside of brackets and inside. -/
def plainScalar (s : Scanner) : Option Scanner := do
  let s ← s.noteKey
  let (text, broken, after) ← plainFrom s.inFlow s.least (s.cursor.rest.length + 1) [] .none s.cursor
  return { s.push (.scalar (String.ofList text) true) with cursor := after, keyAllowed := broken }

/-- A scalar in quotes. -/
def quotedScalar (c : Cursor) : Option (Lexeme × Cursor) := do
  let read := if c.rest.head? = some '\'' then singleQuoted else doubleQuoted
  let (text, after) ← read (c.rest.length + 1) [] c.next
  return (.scalar (String.ofList text) false, after)

/-- The tokens that start with the next character. -/
def token (s : Scanner) : Option Scanner :=
  let c := s.cursor
  match c.rest with
  | [] => none
  | x :: rest =>
    if c.column = 0 && x = '%' then do
      let s ← s.atBoundary
      let (d, after) ← directive c
      return { s.push (.directive d) with cursor := after }
    else if c.atMarker then do
      let s ← s.atBoundary
      return s.take (if x = '-' then .documentStart else .documentEnd) 3
    else match x with
      | '[' => s.opening .openBracket
      | '\x7b' => s.opening .openBrace
      | ']' => s.closing .closeBracket
      | '\x7d' => s.closing .closeBrace
      | ',' => do
        let s ← s.dropKey
        return { s with keyAllowed := true }.take .comma 1
      | '*' => s.content fun c => (anchorName c.next).map fun (name, after) => (.reference name, after)
      | '&' => s.content fun c => (anchorName c.next).map fun (name, after) => (.anchor name, after)
      | '!' => s.content fun c => (tag c).map fun ((handle, suffix), after) => (.tag handle suffix, after)
      | '\'' => s.content quotedScalar
      | '"' => s.content quotedScalar
      | _ =>
        if x = '-' && startsBlank rest then do
          let s ← s.indicator .sequenceStart .dash
          return { s with keyAllowed := true }
        else if x = '?' && (s.inFlow || startsBlank rest) then do
          let s ← s.indicator .mappingStart .key
          return { s with keyAllowed := !s.inFlow }
        else if x = ':' && (s.inFlow || startsBlank rest) then s.colon
        else if (x = '|' || x = '>') && !s.inFlow then s.blockScalar
        else if startsPlain s.inFlow c.rest then s.plainScalar
        else none

/-- All tokens from a place on. -/
def run : (fuel : Nat) → Scanner → Option Scanner
  | 0, _ => none
  | fuel + 1, s => do
    let s ← (s.skipGap (s.cursor.rest.length + 1)).dropStaleKeys
    let s := s.unindent (some s.cursor.column)
    if s.cursor.rest.isEmpty then s.atBoundary
    else run fuel (← s.token)

end Scanner

/-- The tokens of a text; none if some part of it is no token. -/
def tokens? (cs : List Char) : Option (List Token) :=
  ((Scanner.start cs).run (cs.length + 1)).map (·.tokens.toList)

end Distill.Yaml
