import Mathlib.Data.List.Infix
import Distill.Proofs.Glob.Expand
import Distill.Workspace.Expand

/-!
Which patterns are refused for leading out of the root. The text of a pattern decides it: the pattern starts at the top,
or some beginning of it leads up more often than down (`leavesRoot_clean_iff`). No other pattern finds anything but
directories below the root, whatever its braces and escapes stand for (`expand_exact`).
-/
namespace Distill

namespace Path

/-- How many pieces of a path lead up. -/
def ups (ps : List String) : Nat := ps.count ".."

/-- How many pieces of a path lead down. -/
def downs (ps : List String) : Nat := ps.countP fun s => s ∉ ["", ".", ".."]

/-- Some beginning of a path leads up more often than down. -/
def Climbs (ps : List String) : Prop := ∃ front, front <+: ps ∧ downs front < ups front

instance (ps : List String) : Decidable (Climbs ps) :=
  decidable_of_iff (∃ front ∈ ps.inits, downs front < ups front) (by simp [Climbs])

/-- Whether a path climbs above a place that lies `depth` names below its start. -/
private def ClimbsFrom (depth : Nat) (ps : List String) : Prop := ∃ front, front <+: ps ∧ depth + downs front < ups front

private theorem climbsFrom_nil (depth : Nat) : ¬ ClimbsFrom depth [] := by
  rintro ⟨front, isFront, more⟩
  rw [List.prefix_nil.1 isFront] at more
  exact absurd more (Nat.not_lt_zero _)

private theorem climbsFrom_cons (depth : Nat) (p : String) (ps : List String) :
    ClimbsFrom depth (p :: ps) ↔ ∃ front, front <+: ps ∧ depth + downs (p :: front) < ups (p :: front) := by
  constructor
  · rintro ⟨front, isFront, more⟩
    rcases List.prefix_cons_iff.1 isFront with rfl | ⟨rest, rfl, isFront⟩
    · exact absurd more (Nat.not_lt_zero _)
    · exact ⟨rest, (List.prefix_cons_inj p).1 isFront, more⟩
  · rintro ⟨front, isFront, more⟩
    exact ⟨p :: front, (List.prefix_cons_inj p).2 isFront, more⟩

private theorem climbsFrom_stay (depth : Nat) {p : String} (stay : p = "" ∨ p = ".") (ps : List String) :
    ClimbsFrom depth (p :: ps) ↔ ClimbsFrom depth ps := by
  rw [climbsFrom_cons]
  rcases stay with rfl | rfl <;> simp [ClimbsFrom, downs, ups]

private theorem climbsFrom_up (depth : Nat) (ps : List String) :
    ClimbsFrom (depth + 1) (".." :: ps) ↔ ClimbsFrom depth ps := by
  have shift (front : List String) :
      depth + 1 + downs (".." :: front) < ups (".." :: front) ↔ depth + downs front < ups front := by
    simp [downs, ups]
    omega
  rw [climbsFrom_cons]
  simp only [ClimbsFrom, shift]

private theorem climbsFrom_down (depth : Nat) {p : String} (name : ¬ IsDots p) (ps : List String) :
    ClimbsFrom depth (p :: ps) ↔ ClimbsFrom (depth + 1) ps := by
  simp only [IsDots, not_or] at name
  have shift (front : List String) :
      depth + downs (p :: front) < ups (p :: front) ↔ depth + 1 + downs front < ups front := by
    simp [downs, ups, name]
    omega
  rw [climbsFrom_cons]
  simp only [ClimbsFrom, shift]

/-- A step up is left after normalising if one was kept before, or if the path climbs above all that was kept. -/
private theorem up_mem_foldl (segs kept : List (List Char)) :
    ['.', '.'] ∈ segs.foldl (pushSegment false) kept ↔
      ['.', '.'] ∈ kept ∨ ClimbsFrom kept.length (segs.map String.ofList) := by
  induction segs generalizing kept with
  | nil => simp [climbsFrom_nil]
  | cons seg segs ih =>
    rw [List.foldl_cons, ih, List.map_cons, pushSegment.eq_def]
    split
    · rename_i stay
      rw [climbsFrom_stay _ (by rcases stay with rfl | rfl <;> simp)]
    · rename_i notStay
      split
      · rename_i up
        subst up
        cases kept with
        | nil =>
          -- the first step up from the start climbs at once
          have climbs : ClimbsFrom 0 (".." :: segs.map String.ofList) := ⟨[".."], by simp, by decide⟩
          simpa using climbs
        | cons top below =>
          by_cases again : top = ['.', '.']
          · simp [again]
          · have step := climbsFrom_up below.length (segs.map String.ofList)
            simp only [if_neg again, List.length_cons, List.mem_cons, Ne.symm again, false_or]
            exact or_congr_right step.symm
      · rename_i notUp
        have name : ¬ IsDots (String.ofList seg) := by
          rintro (empty | dot | up)
          · exact notStay (Or.inl (String.ofList_inj.1 empty))
          · exact notStay (Or.inr (String.ofList_inj.1 dot))
          · exact notUp (String.ofList_inj.1 up)
        rw [climbsFrom_down _ name]
        simp [Ne.symm notUp]

theorem up_mem_normalSegments (p : List Char) :
    ['.', '.'] ∈ normalSegments false (splitSlash p) ↔ Climbs (pieces (String.ofList p)) := by
  rw [normalSegments, List.mem_reverse, up_mem_foldl]
  simp [ClimbsFrom, Climbs, pieces]

/-- Of a normalised path, only the beginning leads up. -/
theorem head_normalSegments (segs : List (List Char)) :
    (normalSegments false segs).head? = some ['.', '.'] ↔ ['.', '.'] ∈ normalSegments false segs := by
  obtain ⟨k, names, eq, plain, -⟩ := normalSegments_shape false segs
  rw [eq]
  cases k with
  | zero =>
    have absent : ['.', '.'] ∉ names := fun member => plain _ member (Or.inr (Or.inr rfl))
    constructor
    · exact fun first => absurd (List.mem_of_head? first) (by simpa using absent)
    · exact fun member => absurd member (by simpa using absent)
  | succ k => simp [List.replicate_succ]

end Path

namespace Workspace

open Distill.Path (splitSlash isRooted cleanChars)

theorem leavesRoot_iff (p : List Char) :
    leavesRoot p = true ↔ isRooted p = true ∨ (splitSlash p).head? = some ['.', '.'] := by
  constructor
  · intro leaves
    rw [leavesRoot.eq_def] at leaves
    split at leaves
    · exact Or.inl rfl
    · exact Or.inr rfl
    · rename_i rest
      have split := Path.splitSlash_append ['.', '.'] rest
      exact Or.inr (by rw [List.cons_append, List.cons_append, List.nil_append] at split; rw [split]; rfl)
    · cases leaves
  · rintro (rooted | first)
    · cases p with
      | nil => cases rooted
      | cons c cs =>
        by_cases slash : c = '/'
        · rw [slash]
          rfl
        · simp [isRooted, slash] at rooted
    · have joined := Path.joinSlash_splitSlash p
      cases split : splitSlash p with
      | nil => simp [split] at first
      | cons seg segs =>
        rw [split, List.head?_cons, Option.some.injEq] at first
        rw [← joined, split, first]
        cases segs <;> rfl

/-- A normalised pattern leaves the root if it starts at the top or climbs. -/
theorem leavesRoot_clean_iff (pattern : String) :
    leavesRoot (cleanChars pattern.toList) = true ↔
      Path.isAbsolute pattern = true ∨ Path.Climbs (Path.pieces pattern) := by
  rw [leavesRoot_iff, Path.isRooted_cleanChars, Path.isAbsolute]
  by_cases rooted : isRooted pattern.toList = true
  · simp [rooted]
  · rw [Bool.not_eq_true] at rooted
    have climbs := Path.up_mem_normalSegments pattern.toList
    rw [String.ofList_toList, ← Path.head_normalSegments] at climbs
    rw [Path.splitSlash_cleanChars, rooted, ← climbs]
    by_cases none : Path.normalSegments false (splitSlash pattern.toList) = []
    · simp [none]
    · simp [none]

theorem pieces_text {l : Location} (named : ∀ n ∈ l, isName n = true) :
    Glob.text l = "." ∨ ∀ s ∈ Path.pieces (Glob.text l), ¬ IsDots s := by
  rw [Glob.text]
  split
  · exact Or.inl rfl
  · rename_i some
    refine Or.inr fun s member => ?_
    rw [Path.pieces_ofPieces some fun n inside => ((isName_iff n).1 (named n inside)).2] at member
    exact not_isDots_of_isName (named s member)

/-- A pattern is refused as leading out of the root exactly if its text starts at the top or climbs, and the refusal names
it as it was given. Whatever another pattern finds is the root itself or lies below it by names alone. -/
theorem expand_exact (d : Disk) (root pattern : String) :
    ((∃ f, expand d root pattern = .error f ∧ f.has .outside = true) ↔
      Path.isAbsolute pattern = true ∨ Path.Climbs (Path.pieces pattern)) ∧
    (∀ f, expand d root pattern = .error f → f.has .outside = true → f = .fault (.outside root pattern)) ∧
    ∀ dirs, expand d root pattern = .ok dirs → ∀ dir ∈ dirs, dir = "." ∨ ∀ s ∈ Path.pieces dir, ¬ IsDots s := by
  rw [← leavesRoot_clean_iff, expand]
  by_cases leaves : leavesRoot (cleanChars pattern.toList) = true
  · rw [if_pos leaves]
    refine ⟨⟨fun _ => leaves, fun _ => ⟨_, rfl, rfl⟩⟩, ?_, by simp⟩
    rintro f same -
    exact (Except.error.inj same).symm
  · rw [if_neg leaves]
    cases expanded : (⟨d, root⟩ : Glob.Base).directories? (cleanChars pattern.toList) with
    | none =>
      -- a pattern that is not well formed fails in another way
      have other : Failure.has (.within (.note ("expanding " ++ Text.quoted pattern))
          (.fault (.other "syntax error in pattern"))) .outside = false := rfl
      refine ⟨⟨?_, fun outside => absurd outside leaves⟩, ?_, by simp⟩
      · rintro ⟨f, ⟨⟩, outside⟩
        exact absurd outside (by simp [other])
      · rintro f ⟨⟩ outside
        exact absurd outside (by simp [other])
    | some ls =>
      refine ⟨⟨by simp, fun outside => absurd outside leaves⟩, by simp, ?_⟩
      intro dirs same dir member
      rw [← Except.ok.inj same] at member
      obtain ⟨l, inside, rfl⟩ := List.mem_map.1 member
      exact pieces_text (Glob.Base.named_of_directories? expanded l inside).1

namespace Sample

/-- A workspace in a directory that has other directories. -/
def inner : Disk :=
  ⟨[["b"], ["w"], ["w", "a"], ["w", "a", "b"]].foldl (fun t l => t.set l .directory) .empty, "/"⟩

end Sample

open Sample in
/-- A brace brings back steps up, which then find nothing; without the brace the pattern is refused. -/
theorem expand_exact_sample :
    expand inner "/w" "a/\x7b..,b,.\x7d" = .ok ["a/b"] ∧ (∀ s ∈ Path.pieces "a/b", ¬ IsDots s) ∧
      Path.Climbs (Path.pieces "a/../../b") ∧
      expand inner "/w" "a/../../b" = .error (.fault (.outside "/w" "a/../../b")) := by
  have found : expand inner "/w" "a/\x7b..,b,.\x7d" = .ok ["a/b"] := by decide +kernel
  have climbs : Path.Climbs (Path.pieces "a/../../b") := by decide +kernel
  obtain ⟨-, -, below⟩ := expand_exact inner "/w" "a/\x7b..,b,.\x7d"
  obtain ⟨refused, named, -⟩ := expand_exact inner "/w" "a/../../b"
  obtain ⟨f, failed, outside⟩ := refused.2 (Or.inr climbs)
  have names : ∀ s ∈ Path.pieces "a/b", ¬ IsDots s := (below _ found "a/b" (by simp)).resolve_left (by decide)
  exact ⟨found, names, climbs, named f failed outside ▸ failed⟩

end Workspace

end Distill
