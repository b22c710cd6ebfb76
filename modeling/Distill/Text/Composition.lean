import Distill.Text.Canonical

/-!
Texts with composed characters. Texts that look the same can be written with a letter and marks after it or with one
character for all of them. Every character is first taken apart, the marks after a letter are put in order, and then what
can be composed is composed.
-/
namespace Distill.Text

/-- The pairs of a table by what they stand for: a character, and the two others. -/
def pairsOf (table : List (Nat × String × String)) : List (Nat × Nat × Nat) :=
  table.flatMap fun (mark, bases, wholes) =>
    (bases.toList.zip wholes.toList).map fun (base, whole) => (whole.toNat, base.toNat, mark)

/-- Pairs that are composed. -/
def composites : List (Nat × Nat × Nat) := pairsOf compositions

/-- Characters that stand for others, with these. -/
def decomposites : List (Nat × List Nat) :=
  (composites ++ pairsOf decompositions).map (fun (c, a, b) => (c, [a, b])) ++
    singletons.flatMap fun (first, targets) =>
      targets.toList.zipIdx.map fun (target, i) => (first + i, [target.toNat])

/-- The class of a mark that combines. -/
def combiningClass (c : Nat) : Nat :=
  ((combiningClasses.find? fun (first, last, _) => first ≤ c && c ≤ last).map fun (_, _, k) => k).getD 0

/-- The syllables that are composed of two or three letters by their numbers. -/
def firstSyllable : Nat := 0xAC00
def firstLead : Nat := 0x1100
def firstVowel : Nat := 0x1161
/-- The place before the first letter that ends a syllable. -/
def noTail : Nat := 0x11A7
def leadCount : Nat := 19
def vowelCount : Nat := 21
def tailCount : Nat := 28

/-- The letters of a syllable. -/
def syllableParts? (c : Nat) : Option (List Nat) :=
  if firstSyllable ≤ c ∧ c < firstSyllable + leadCount * vowelCount * tailCount then
    let i := c - firstSyllable
    let tail := i % tailCount
    some ([firstLead + i / (vowelCount * tailCount), firstVowel + i / tailCount % vowelCount] ++
      if tail = 0 then [] else [noTail + tail])
  else none

/-- What a character stands for, if it is not just itself. -/
def parts? (c : Nat) : Option (List Nat) :=
  match syllableParts? c with
  | some parts => some parts
  | none => decomposites.lookup c

/-- A character taken apart in at most so many steps. -/
def takenApart : (steps : Nat) → Nat → List Nat
  | 0, c => [c]
  | steps + 1, c =>
    match parts? c with
    | some parts => parts.flatMap (takenApart steps)
    | none => [c]

/-- Puts a mark with its class among those before it, which are in order. -/
def insertMark (mark : Nat × Nat) : List (Nat × Nat) → List (Nat × Nat)
  | [] => [mark]
  | m :: rest => if m.2 ≤ mark.2 then m :: insertMark mark rest else mark :: m :: rest

/-- Characters with their classes; the marks after each letter are put in order. `marks` are those since the last
letter. -/
def inOrder (marks : List (Nat × Nat)) : List Nat → List (Nat × Nat)
  | [] => marks
  | c :: rest =>
    let k := combiningClass c
    if k = 0 then marks ++ (c, 0) :: inOrder [] rest else inOrder (insertMark (c, k) marks) rest

/-- The character that two are composed to. -/
def composed? (a b : Nat) : Option Nat :=
  if firstLead ≤ a ∧ a < firstLead + leadCount ∧ firstVowel ≤ b ∧ b < firstVowel + vowelCount then
    some (firstSyllable + ((a - firstLead) * vowelCount + (b - firstVowel)) * tailCount)
  else if firstSyllable ≤ a ∧ a < firstSyllable + leadCount * vowelCount * tailCount ∧ (a - firstSyllable) % tailCount = 0
      ∧ noTail < b ∧ b < noTail + tailCount then
    some (a + (b - noTail))
  else (composites.find? fun (_, x, y) => x = a && y = b).map (·.1)

/-- Composes characters that are in order. `letter` is the last one that is no mark, `marks` are those after it that are
not composed with it, from the last to the first, and `last` is the class of the character before. -/
def composing (letter : Option Nat) (marks : List Nat) (last : Nat) : List (Nat × Nat) → List Nat
  | [] => letter.toList ++ marks.reverse
  | (c, k) :: rest =>
    let isBlocked := !marks.isEmpty && (k ≤ last)
    match if isBlocked then none else letter.bind (composed? · c) with
    | some both => composing (some both) marks last rest
    | none =>
      if k = 0 then letter.toList ++ marks.reverse ++ composing (some c) [] 0 rest
      else composing letter (c :: marks) k rest

/-- A text with composed characters. -/
def composed (s : String) : String :=
  let cs := s.toList.map Char.toNat
  -- What is composed of nothing below these is the same either way.
  if cs.all (· < 0x300) then s
  else String.ofList ((composing none [] 0 (inOrder [] (cs.flatMap (takenApart 4)))).map Char.ofNat)

end Distill.Text
