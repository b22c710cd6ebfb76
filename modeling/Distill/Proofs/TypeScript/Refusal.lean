import Distill.Compiler

/-!
What dropping unused imports cannot change. It leaves what a module exports alone (`exports_elide`), so looking up its
names gives the same errors with and without it (`read_elide`): with either setting, either back end refuses the same
texts for the same reason (`stripNormal_eq_error_iff`). Of the other texts they need not leave the same JavaScript
(`compile_apart`).
-/
namespace Distill.TypeScript

section Exports

variable {t : SymbolTable} {s : Stmt} {mentions uses : List SymbolId} {body : List Stmt}

theorem exports_importing {place : Place} {i : Import} : Stmt.exports t (.mk place (.importing i)) = [] := rfl

/-- An assignment that may be dropped exports nothing. -/
theorem exports_of_aliasOf? {a : SymbolId × SymbolId} (found : Resolved.aliasOf? s = some a) : s.exports t = [] := by
  rw [Resolved.aliasOf?] at found
  split at found
  · rename_i head _ _ _ target value shape
    rw [Stmt.exports, shape]
    split at found
    · cases found
    · rename_i kept
      have inner : head.isExported = false := by
        rw [Bool.or_eq_true, not_or] at kept
        exact Bool.eq_false_iff.2 kept.2
      exact if_neg (by rw [inner]; exact Bool.false_ne_true)
  · cases found

/-- Dropping unused imports one after the other leaves the exports alone. -/
theorem exports_dropUnused :
    (Resolved.dropUnused mentions uses body).1.flatMap (Stmt.exports t) = body.flatMap (Stmt.exports t) := by
  induction body generalizing uses with
  | nil => rfl
  | cons s rest ih =>
    rw [Resolved.dropUnused]
    split
    · rename_i i shape
      have silent : s.exports t = [] := by rw [Stmt.exports, shape]
      split
      · rw [List.flatMap_cons, List.flatMap_cons, ih, silent, exports_importing]
      · rw [List.flatMap_cons, ih, silent, List.nil_append]
    · rename_i shape
      have silent : s.exports t = [] := by rw [Stmt.exports, shape]; rfl
      rw [List.flatMap_cons, ih, silent, List.nil_append]
    · split
      · rename_i found
        split
        · rw [List.flatMap_cons, List.flatMap_cons, ih]
        · rw [List.flatMap_cons, ih, exports_of_aliasOf? found, List.nil_append]
      · rw [List.flatMap_cons, List.flatMap_cons, ih]

theorem exports_filter {isUnused : Stmt → Bool} (silent : ∀ s, isUnused s = true → s.exports t = []) :
    (body.filter fun s => !isUnused s).flatMap (Stmt.exports t) = body.flatMap (Stmt.exports t) := by
  induction body with
  | nil => rfl
  | cons s rest ih =>
    rw [List.filter_cons, List.flatMap_cons]
    cases unused : isUnused s with
    | false => exact congrArg (s.exports t ++ ·) ih
    | true => rw [silent s unused, List.nil_append]; exact ih

/-- So does dropping what the last round has left without a use, round after round. -/
theorem exports_dropAliases {fuel : Nat} :
    (Resolved.dropAliases fuel uses body).flatMap (Stmt.exports t) = body.flatMap (Stmt.exports t) := by
  induction fuel generalizing uses body with
  | zero => rfl
  | succ fuel ih =>
    rw [Resolved.dropAliases]
    dsimp only
    split
    · rfl
    · rw [ih]
      refine exports_filter fun s unused => ?_
      obtain ⟨a, found, -⟩ := (Option.any_eq_true _ _).1 unused
      exact exports_of_aliasOf? found

theorem exports_elide (r : Resolved) : r.elide.body.flatMap (Stmt.exports t) = r.body.flatMap (Stmt.exports t) := by
  rw [Resolved.elide]
  exact exports_dropAliases.trans exports_dropUnused

end Exports

section Refusal

variable {source : Source} {file : String} {text : List Char}

/-- Dropping unused imports only changes what is left in the end. -/
theorem resolve_elide {elide : Bool} : source.resolve file text elide =
    (source.resolve file text false).map fun r => if elide then r.elide else r := by
  cases elide with
  | false => exact (congrFun Except.map_id _).symm
  | true =>
    rw [Source.resolve, Source.resolve]
    dsimp only
    generalize StateT.run _ _ = found
    obtain ⟨body, resolution⟩ := found
    dsimp only
    rw [if_pos rfl, if_neg Bool.false_ne_true, exports_elide]
    split <;> rfl

theorem read_elide {elide : Bool} : Resolved.read file text elide =
    (Resolved.read file text false).map fun found => (found.1, if elide then found.2.elide else found.2) := by
  rw [Resolved.read, Resolved.read]
  cases Source.read text with
  | ok source =>
    dsimp only
    rw [resolve_elide]
    cases source.resolve file text false <;> rfl
  | error errors =>
    dsimp only
    cases firstProblem? text errors <;> rfl

/-- A text is refused for what the lookup of its names finds wrong, whichever the back end and the setting. -/
theorem stripNormal_eq_error_iff (elide elide' : Bool) (file text : String) (p : Problem) :
    stripNormal elide file text = .error p ↔ stripWritten elide' file text = .error p := by
  rw [stripNormal, stripWritten]
  dsimp only
  rw [read_elide]
  cases Resolved.read file text.toList false with
  | error q => exact Iff.rfl
  | ok found =>
    constructor
    · intro refused
      cases refused
    · intro refused
      cases refused

end Refusal

end Distill.TypeScript

namespace Distill.Compiler

open TypeScript (stripNormal stripWritten)

theorem named_normal (elide : Bool) : Stripper.named "esbuild" elide = .ok (.of (stripNormal elide)) := by
  rw [Stripper.named, if_pos (.inr rfl)]

theorem named_written (elide : Bool) : Stripper.named "tsc" elide = .ok (.of (stripWritten elide)) := by
  rw [Stripper.named, if_neg (by decide), if_pos rfl]

/-- The quotes around the name of a module tell the back ends apart, and one can fail on what the other has left out. -/
theorem compile_apart : ∃ normalizing keeping, Stripper.named "esbuild" false = .ok normalizing ∧
    Stripper.named "tsc" false = .ok keeping ∧
    (compile normalizing "a.ts" "import a from './a'").toOption = some "import a from \"./a.js\";\n" ∧
    (compile keeping "a.ts" "import a from './a'").toOption = some "import a from './a.js';\n" ∧
    (compile normalizing "a.ts" "import type from from './a'").toOption = some "" ∧
    (compile keeping "a.ts" "import type from from './a'").toOption = none := by
  refine ⟨_, _, named_normal false, named_written false, ?_, ?_, ?_, ?_⟩ <;> decide +kernel

end Distill.Compiler
