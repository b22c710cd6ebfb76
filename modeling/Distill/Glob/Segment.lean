/-!
Patterns for single names: `*` for any run of characters, `?` for one character, classes in brackets, braces with
alternatives, and `\` before a character that stands for itself. A pattern whose classes are closed and that has no
braces is a list of atoms; any other is matched character by character, and a class that turns out not to be closed
makes the match fail as a whole.
-/
namespace Distill.Glob

inductive Atom where
  | literal (c : Char)
  | one
  | many
  /-- A class of character ranges. -/
  | oneOf (negated : Bool) (ranges : List (Char × Char))
deriving DecidableEq, Repr

/-- Reads the ranges of a class up to its bracket. `low` is the character a following hyphen starts a range from. The
low end of a range always belongs to the class by itself. -/
def classRanges : Nat → Option Char → List Char → Option (List (Char × Char) × List Char)
  | 0, _, _ => none
  | _, _, [] => none
  | _ + 1, _, ']' :: rest => some ([], rest)
  | fuel + 1, low, c :: rest =>
    match low, c, rest with
    | some low, '-', '\\' :: high :: rest => consRange (low, high) (classRanges fuel none rest)
    | some low, '-', high :: rest =>
      if high = ']' then consRange ('-', '-') (classRanges fuel (some '-') (high :: rest))
      else consRange (low, high) (classRanges fuel none rest)
    | _, '\\', c :: rest => consRange (c, c) (classRanges fuel (some c) rest)
    | _, c, rest => consRange (c, c) (classRanges fuel (some c) rest)
where
  consRange (r : Char × Char) : Option (List (Char × Char) × List Char) → Option (List (Char × Char) × List Char)
    | some (rs, rest) => some (r :: rs, rest)
    | none => none

/-- Splits off the mark that negates a class. -/
def negation : List Char → Bool × List Char
  | '!' :: rest => (true, rest)
  | '^' :: rest => (true, rest)
  | rest => (false, rest)

/-- Reads the pattern of a name; every step takes at least one character. A run of stars is one star, but three or more
at the end stand for at least one character. There is no list of atoms for a pattern with braces, with a class that is
empty or not closed, or with a `\` at its end. -/
def atomsFrom : Nat → List Char → Option (List Atom)
  | _, [] => some []
  | 0, _ => none
  | fuel + 1, '*' :: rest =>
    match rest.dropWhile (· = '*') with
    | [] => some (if 2 ≤ rest.length then [.one, .many] else [.many])
    | rest => (atomsFrom fuel rest).map (.many :: ·)
  | fuel + 1, '?' :: rest => (atomsFrom fuel rest).map (.one :: ·)
  | _ + 1, ['\\'] => none
  | fuel + 1, '\\' :: c :: rest => (atomsFrom fuel rest).map (.literal c :: ·)
  | fuel + 1, '[' :: rest =>
    let (negated, body) := negation rest
    if body.head? = some ']' then none
    else match classRanges (body.length + 1) none body with
      | some (ranges, rest) => (atomsFrom fuel rest).map (.oneOf negated ranges :: ·)
      | none => none
  | fuel + 1, c :: rest => if c = '\x7b' then none else (atomsFrom fuel rest).map (.literal c :: ·)

def atoms? (pattern : List Char) : Option (List Atom) := atomsFrom pattern.length pattern

/-- Whether an atom for one character takes it. -/
def Atom.takes : Atom → Char → Bool
  | literal d, c => c = d
  | one, _ => true
  | many, _ => false
  | oneOf negated ranges, c => ranges.any (fun r => r.1.val ≤ c.val ∧ c.val ≤ r.2.val) != negated

/-- A text and what is left of it after one character, after two, and so on. -/
def suffixes : List Char → List (List Char)
  | [] => [[]]
  | c :: cs => (c :: cs) :: suffixes cs

/-- What an atom may leave of some texts, longer ones first. The texts are what is left of one name, so that all that
a star can leave of any of them is a suffix of the longest. -/
def Atom.leaves (a : Atom) (texts : List (List Char)) : List (List Char) :=
  match a, texts with
  | many, text :: _ => suffixes text
  | _, _ => texts.filterMap fun
    | c :: rest => if a.takes c then some rest else none
    | [] => none

/-- Whether a name matches atoms: they can take all of it. -/
def matchAtoms (as : List Atom) (name : List Char) : Bool :=
  (as.foldl (fun texts a => a.leaves texts) [name]).contains []

/-- Reads a class for one character: whether the character was found, and the text from where reading stopped. -/
def findInClass (c : Char) : Nat → Option Char → List Char → Bool × List Char
  | 0, _, rest => (false, rest)
  | _, _, [] => (false, [])
  | _ + 1, _, ']' :: rest => (false, ']' :: rest)
  | fuel + 1, low, p :: rest =>
    match low, p, rest with
    | some low, '-', high :: rest =>
      if high = ']' then (if c = '-' then (true, ']' :: rest) else findInClass c fuel (some '-') (']' :: rest))
      else
        let rest := if high = '\\' then rest else high :: rest
        let high := rest.headD '�'
        if low.val ≤ c.val ∧ c.val ≤ high.val then (true, rest.drop 1) else findInClass c fuel none (rest.drop 1)
    | _, '\\', rest =>
      let d := rest.headD '�'
      if c = d then (true, rest.drop 1) else findInClass c fuel (some d) (rest.drop 1)
    | _, d, rest => if c = d then (true, rest) else findInClass c fuel (some d) rest

/-- The text after the first bracket that closes a class. -/
def afterClass : List Char → Option (List Char)
  | [] => none
  | '\\' :: rest =>
    match rest with
    | [] => none
    | _ :: rest => afterClass rest
  | ']' :: rest => some rest
  | _ :: rest => afterClass rest

/-- Whether every class and every brace of a pattern is closed, no class is empty, and no `\` stands last.
`depth` counts the open braces. -/
def wellFormedFrom : Nat → (depth : Nat) → List Char → Bool
  | 0, depth, _ => depth = 0
  | _, depth, [] => depth = 0
  | fuel + 1, depth, '\\' :: rest =>
    match rest with
    | [] => false
    | _ :: rest => wellFormedFrom fuel depth rest
  | fuel + 1, depth, '[' :: rest =>
    match (negation rest).2 with
    | ']' :: _ => false
    | body =>
      match afterClass body with
      | some rest => wellFormedFrom fuel depth rest
      | none => false
  | fuel + 1, depth, '\x7b' :: rest => wellFormedFrom fuel (depth + 1) rest
  | fuel + 1, depth, '\x7d' :: rest => depth ≠ 0 && wellFormedFrom fuel (depth - 1) rest
  | fuel + 1, depth, _ :: rest => wellFormedFrom fuel depth rest

def wellFormed (pattern : List Char) : Bool := wellFormedFrom pattern.length 0 pattern

/-- The text after an opening brace up to the brace that closes it, and the text after that. -/
def cutClosing : (depth : Nat) → List Char → Option (List Char × List Char)
  | _, [] => none
  | _, ['\\'] => none
  | depth, '\\' :: c :: rest => (cutClosing depth rest).map fun (inside, after) => ('\\' :: c :: inside, after)
  | depth, c :: rest =>
    if c = '\x7d' ∧ depth = 0 then some ([], rest)
    else
      let depth := if c = '\x7b' then depth + 1 else if c = '\x7d' then depth - 1 else depth
      (cutClosing depth rest).map fun (inside, after) => (c :: inside, after)

/-- Cuts the text in a brace at its own commas. -/
def alternatives (inside : List Char) : List (List Char) := go 0 inside
where
  go (depth : Nat) : List Char → List (List Char)
    | [] => [[]]
    | '\\' :: c :: rest => push '\\' (push c (go depth rest))
    | c :: rest =>
      if c = ',' ∧ depth = 0 then [] :: go depth rest
      else push c (go (if c = '\x7b' then depth + 1 else if c = '\x7d' then depth - 1 else depth) rest)
  push (c : Char) : List (List Char) → List (List Char)
    | [] => [[c]]
    | part :: parts => (c :: part) :: parts

/-- The first answer of some attempts that is not a plain no. -/
def firstAnswer {α : Type} (attempt : α → Option Bool) : List α → Option Bool
  | [] => some false
  | a :: rest =>
    match attempt a with
    | some false => firstAnswer attempt rest
    | answer => answer

/-- Whether the rest of a pattern can stand for the empty text; `none` if it is not well formed. -/
def standsForNothing : (depth : Nat) → List Char → Option Bool
  | 0, _ => some false
  | depth + 1, pattern =>
    if pattern ∈ [[], ['*'], ['*', '*'], "/**".toList, "**/".toList, "/**/".toList] then some true
    else match pattern with
      | '\x7b' :: rest =>
        match cutClosing 0 rest with
        | none => none
        | some (inside, after) => firstAnswer (fun part => standsForNothing depth (part ++ after)) (alternatives inside)
      | _ => if wellFormed pattern then some false else none

/-- How far a match has come: the characters of the pattern and of the name that are dealt with, and where the last
star left them. -/
structure Progress where
  pattern : Nat
  name : Nat
  star : Option (Nat × Nat)
deriving DecidableEq, Repr

/-- Lets the last star take one more character. -/
def Progress.retry (p : Progress) : Option Progress :=
  p.star.map fun (pattern, name) => ⟨pattern, name + 1, some (pattern, name + 1)⟩

/-- Matches a name in at most `fuel` steps; a brace is left to `onBrace`. -/
def matchSteps (onBrace : Progress → Option Bool) (pattern name : List Char) : (fuel : Nat) → Progress → Option Bool
  | 0, _ => some false
  | fuel + 1, p =>
    let again (p : Progress) : Option Bool := matchSteps onBrace pattern name fuel p
    let failed : Option Bool :=
      match p.retry with
      | some p => again p
      | none => some false
    let reached (rest : List Char) (n : Nat) : Progress :=
      { p with pattern := pattern.length - rest.length, name := p.name + n }
    match name.drop p.name with
    | [] => standsForNothing (pattern.length + 1) (pattern.drop p.pattern)
    | c :: _ =>
      match pattern.drop p.pattern with
      | [] => failed
      | '*' :: rest =>
        let rest := if rest.head? = some '*' then rest.drop 1 else rest
        let here := pattern.length - rest.length
        again ⟨here, p.name, some (here, p.name)⟩
      | '?' :: rest => again (reached rest 1)
      | '[' :: rest =>
        let (negated, body) := negation rest
        if body = [] ∨ body.head? = some ']' then none
        else
          let (found, rest) := findInClass c (body.length + 1) none body
          if found = negated then (if rest = [] then none else failed)
          else match afterClass rest with
            | none => none
            | some rest => again (reached rest 1)
      | '\x7b' :: _ => onBrace p
      | ['\\'] => none
      | '\\' :: d :: rest => if c = d then again (reached rest 1) else failed
      | d :: rest => if c = d then again (reached rest 1) else failed

/-- Matches a name against a pattern with at most `depth` braces inside each other or after each other. An alternative
takes the place of its brace, and the match goes on from there. -/
def matchBraces : (depth : Nat) → (pattern name : List Char) → Progress → Option Bool
  | 0, _, _, _ => some false
  | depth + 1, pattern, name, p =>
    let onBrace (p : Progress) : Option Bool :=
      match cutClosing 0 (pattern.drop (p.pattern + 1)) with
      | none => none
      | some (inside, after) =>
        firstAnswer (fun part => matchBraces depth (pattern.take p.pattern ++ part ++ after) name p) (alternatives inside)
    matchSteps onBrace pattern name ((pattern.length + 2) * (name.length + 2)) p

/-- Whether a name matches a pattern; `none` if what is wrong with the pattern was met on the way. -/
def matchName (pattern name : List Char) : Option Bool :=
  match atoms? pattern with
  | some as => some (matchAtoms as name)
  | none => matchBraces (pattern.length + 1) pattern name ⟨0, 0, none⟩

end Distill.Glob
