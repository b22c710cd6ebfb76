import Distill.Text.Digits
import Distill.Yaml.Cursor

/-!
The texts of scalars: plain, in single quotes, in double quotes, and blocks introduced by `|` or `>`.
-/
namespace Distill.Yaml

/-- Blanks and line ends between two runs of a scalar. -/
structure Gap where
  /-- The blanks, if no line end was passed. -/
  blanks : List Char
  /-- Whether a line end was passed. -/
  broken : Bool
  /-- The first line end, unless an escape took it away. -/
  lineEnd : Option Char
  /-- The line ends after the first one. -/
  further : List Char
deriving Repr

namespace Gap

def none : Gap := ⟨[], false, .none, []⟩

/-- The gap after an escaped line end. -/
def escaped : Gap := ⟨[], true, .none, []⟩

/-- What a gap contributes to a text: a single line end is a space, and of several the first one goes away. -/
def text (g : Gap) : List Char :=
  if !g.broken then g.blanks
  else match g.lineEnd with
    | .none => g.further
    | some c => if c = '\n' then (if g.further.isEmpty then [' '] else g.further) else c :: g.further

/-- Skips blanks and line ends. A tab before the column `indent` of a further line is refused. -/
def read (indent : Nat) : (fuel : Nat) → Gap → Cursor → Option (Gap × Cursor)
  | 0, g, c => some (g, c)
  | fuel + 1, g, c =>
    match c.lineEnd? with
    | some (e, after) =>
      if g.broken then read indent fuel { g with further := g.further ++ [e] } after
      else read indent fuel ⟨[], true, some e, []⟩ after
    | .none =>
      match c.rest with
      | [] => some (g, c)
      | x :: _ =>
        if !isBlank x then some (g, c)
        else if !g.broken then read indent fuel { g with blanks := g.blanks ++ [x] } c.next
        else if x = '\t' && c.column < indent then .none
        else read indent fuel g c.next

end Gap

/-- Whether a plain scalar ends before this text. -/
def endsPlain (flow : Bool) : List Char → Bool
  | [] => true
  | ':' :: rest => startsBlank rest
  | c :: _ => isBlank c || isBreak c || flow && c ∈ [',', '?', '[', ']', '\x7b', '\x7d']

/-- The run of a plain scalar at the beginning of a text. -/
def plainRun (flow : Bool) : List Char → List Char
  | [] => []
  | c :: rest => if endsPlain flow (c :: rest) then [] else c :: plainRun flow rest

/-- A plain scalar from a place on, after `seen` and a gap. Outside brackets a further line belongs to it only if it is
indented by at least `indent`. The flag tells whether a line end follows it. -/
def plainFrom (flow : Bool) (indent : Nat) :
    (fuel : Nat) → (seen : List Char) → Gap → Cursor → Option (List Char × Bool × Cursor)
  | 0, _, _, _ => none
  | fuel + 1, seen, gap, c =>
    if c.atMarker || c.rest.head? = some '#' then some (seen, gap.broken, c)
    else
      let run := plainRun flow c.rest
      if run.isEmpty then some (seen, gap.broken, c)
      else do
        let seen := seen ++ gap.text ++ run
        let (gap, c) ← Gap.read indent (c.rest.length + 1) .none (c.forward run.length)
        if gap.blanks.isEmpty && !gap.broken then return (seen, false, c)
        else if !flow && c.column < indent then return (seen, gap.broken, c)
        else plainFrom flow indent fuel seen gap c

/-- Whether a plain scalar may start with this text. -/
def startsPlain (flow : Bool) : List Char → Bool
  | [] => false
  | '-' :: rest => !rest.head?.any isBlank
  | '?' :: rest => !flow && !startsBlank rest
  | ':' :: rest => !flow && !startsBlank rest
  | c :: _ =>
    !(isBlank c || isBreak c ||
      c ∈ [',', '[', ']', '\x7b', '\x7d', '#', '&', '*', '!', '|', '>', '\'', '"', '%', '@', '\x60'])

/-- The character that an escape of one letter stands for. -/
def escapeChar : Char → Option Char
  | '0' => some '\x00'
  | 'a' => some '\x07'
  | 'b' => some '\x08'
  | 't' => some '\t'
  | '\t' => some '\t'
  | 'n' => some '\n'
  | 'v' => some '\x0b'
  | 'f' => some '\x0c'
  | 'r' => some '\r'
  | 'e' => some '\x1b'
  | ' ' => some ' '
  | '"' => some '"'
  | '\'' => some '\''
  | '\\' => some '\\'
  | 'N' => some nextLine
  | '_' => some (Char.ofNat 0xa0)
  | 'L' => some (Char.ofNat 0x2028)
  | 'P' => some (Char.ofNat 0x2029)
  | _ => none

/-- How many hexadecimal digits follow an escape letter. -/
def escapeWidth : Char → Option Nat
  | 'x' => some 2
  | 'u' => some 4
  | 'U' => some 8
  | _ => none

/-- The character with the code that some hexadecimal digits write. -/
def hexChar (width : Nat) (cs : List Char) : Option Char := do
  let digits := cs.take width
  if digits.length < width then none
  else
    let values ← digits.mapM Text.hexValue?
    let code := values.foldl (fun n d => n * 16 + d) 0
    if code < 0xd800 ∨ 0xdfff < code ∧ code ≤ 0x10ffff then some (Char.ofNat code) else none

/-- The rest of a scalar in single quotes, in which a quote is written twice. `seen` holds the last character first. -/
def singleQuoted : (fuel : Nat) → (seen : List Char) → Cursor → Option (List Char × Cursor)
  | 0, _, _ => none
  | fuel + 1, seen, c =>
    if c.atMarker then none
    else match c.rest with
      | '\'' :: '\'' :: _ => singleQuoted fuel ('\'' :: seen) (c.forward 2)
      | '\'' :: _ => some (seen.reverse, c.next)
      | x :: _ =>
        if isBlank x || isBreak x then do
          let (gap, c) ← Gap.read 0 (c.rest.length + 1) .none c
          singleQuoted fuel (gap.text.reverse ++ seen) c
        else singleQuoted fuel (x :: seen) c.next
      | [] => none

/-- The rest of a scalar in double quotes. `seen` holds the last character first. -/
def doubleQuoted : (fuel : Nat) → (seen : List Char) → Cursor → Option (List Char × Cursor)
  | 0, _, _ => none
  | fuel + 1, seen, c =>
    if c.atMarker then none
    else match c.rest with
      | '"' :: _ => some (seen.reverse, c.next)
      | '\\' :: letter :: digits =>
        match c.next.lineEnd? with
        | some (_, after) => do
          let (gap, c) ← Gap.read 0 (after.rest.length + 1) .escaped after
          doubleQuoted fuel (gap.text.reverse ++ seen) c
        | none =>
          match escapeChar letter, escapeWidth letter with
          | some x, _ => doubleQuoted fuel (x :: seen) (c.forward 2)
          | none, some width => do
            let x ← hexChar width digits
            doubleQuoted fuel (x :: seen) (c.forward (2 + width))
          | none, none => none
      | x :: _ =>
        if isBlank x || isBreak x then do
          let (gap, c) ← Gap.read 0 (c.rest.length + 1) .none c
          doubleQuoted fuel (gap.text.reverse ++ seen) c
        else doubleQuoted fuel (x :: seen) c.next
      | [] => none

/-- What happens to the line ends at the end of a block. -/
inductive Chomping where
  | strip
  | clip
  | keep
deriving DecidableEq, Repr

def Chomping.ofChar? : Char → Option Chomping
  | '-' => some .strip
  | '+' => some .keep
  | _ => none

/-- The digit from one to nine that a text starts with. -/
def indentDigit? : List Char → Option Nat
  | c :: _ => if '1' ≤ c ∧ c ≤ '9' then some (c.toNat - 48) else none
  | [] => none

/-- The marks after `|` or `>` in either order: chomping, and the indentation of the content. -/
def blockMarks (c : Cursor) : Chomping × Option Nat × Cursor :=
  match c.rest.head?.bind Chomping.ofChar? with
  | some chomping =>
    let c := c.next
    match indentDigit? c.rest with
    | some n => (chomping, some n, c.next)
    | none => (chomping, none, c)
  | none =>
    match indentDigit? c.rest with
    | some n =>
      let c := c.next
      match c.rest.head?.bind Chomping.ofChar? with
      | some chomping => (chomping, some n, c.next)
      | none => (.clip, some n, c)
    | none => (.clip, none, c)

/-- Skips indentation and empty lines in front of a line of a block: the line ends, and the greatest column reached.
With no indentation known yet all spaces are skipped. A tab in the indentation is refused. -/
def blockGap (indent : Option Nat) :
    (fuel : Nat) → (breaks : List Char) → (reached : Nat) → Cursor → Option (List Char × Nat × Cursor)
  | 0, _, _, _ => none
  | fuel + 1, breaks, reached, c =>
    let spaces := (c.rest.takeWhile (· = ' ')).length
    let c := c.forward (match indent with
      | some n => min spaces (n - c.column)
      | none => spaces)
    let reached := max reached c.column
    if indent.all (c.column < ·) && c.rest.head? = some '\t' then none
    else match c.lineEnd? with
      | some (e, after) => blockGap indent fuel (breaks ++ [e]) reached after
      | none => some (breaks, reached, c)

/-- The state of a block between two lines: the text so far, the end of the last line, the ends of empty lines after it,
and whether the last line started with a blank. -/
structure BlockLines where
  seen : List Char
  lineEnd : List Char
  breaks : List Char
  afterBlank : Bool
deriving Repr

/-- The lines of a block. A line end is folded only between two lines that do not start with a blank. -/
def blockLines (folded : Bool) (indent : Nat) :
    (fuel : Nat) → BlockLines → Cursor → Option (BlockLines × Cursor)
  | 0, _, _ => none
  | fuel + 1, b, c =>
    if c.column ≠ indent || c.rest.isEmpty then some (b, c)
    else do
      let line := c.rest.takeWhile (!isBreak ·)
      let blank := c.rest.head?.any isBlank
      let joint :=
        if folded && !b.afterBlank && !blank && b.lineEnd = ['\n'] then (if b.breaks.isEmpty then [' '] else [])
        else b.lineEnd
      let seen := b.seen ++ joint ++ b.breaks ++ line
      let c := c.forward line.length
      let (lineEnd, c) := match c.lineEnd? with
        | some (e, after) => ([e], after)
        | none => ([], c)
      let (breaks, _, c) ← blockGap (some indent) (c.rest.length + 1) [] 0 c
      blockLines folded indent fuel ⟨seen, lineEnd, breaks, blank⟩ c

/-- A block, from its `|` or `>` on. `least` is the least indentation that its content may have. -/
def block (least : Nat) (c : Cursor) : Option (List Char × Cursor) := do
  let folded := c.rest.head? = some '>'
  let (chomping, explicit, c) := blockMarks c.next
  let c := (c.skipWhile isBlank).skipComment
  if !c.atLineEnd then none
  else
    let c := match c.lineEnd? with
      | some (_, after) => after
      | none => c
    let known := explicit.map fun n => if least = 0 then n else least - 1 + n
    let (breaks, reached, c) ← blockGap known (c.rest.length + 1) [] 0 c
    let indent := known.getD (max reached (max least 1))
    let (b, c) ← blockLines folded indent (c.rest.length + 1) ⟨[], [], breaks, false⟩ c
    return match chomping with
      | .strip => (b.seen, c)
      | .clip => (b.seen ++ b.lineEnd, c)
      | .keep => (b.seen ++ b.lineEnd ++ b.breaks, c)

end Distill.Yaml
