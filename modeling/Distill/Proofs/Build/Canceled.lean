import Distill.Proofs.Build.Scheduled
import Distill.Proofs.Disk.Homing

/-!
Packages that are started on after their run was canceled, as the others are once one of several has failed
(`canceled_of_failure`). No source is compiled any more, but the old output is removed first, so that such a package is
left as it was only if it had none (`buildPackage_canceled`).
-/
namespace Distill

namespace Disk

variable {d d' : Disk}

theorem removeAll_of_noEntry {path : String} (missing : d.lookUp false path = .error .noEntry) :
    d.removeAll path = d := by
  rw [lookUp] at missing
  rw [removeAll]
  split at missing
  · cases missing
  · rename_i found
    rw [found]
  · rename_i found
    rw [found]

/-- What a path of more than dots names is gone once it is removed. -/
theorem removeAll_ne {path last : String} {front : List String} (split : Path.pieces path = front ++ [last])
    (name : isName last = true) {entry : Entry} (found : d.lookUp false path = .ok entry) : d.removeAll path ≠ d := by
  rw [lookUp] at found
  split at found
  · rename_i l e located
    have there : d.tree.get? l = some e := (holds_of_locate located).entry.symm
    have below : l ≠ [] := by
      rw [locate] at located
      split at located
      · cases located
      · rw [split] at located
        obtain ⟨r, -, eq⟩ := FileTree.locate_last name located
        dsimp only at eq
        simp [eq]
    rw [removeAll, located]
    intro same
    have same : d.tree.erase l = d.tree := congrArg Disk.tree same
    have erased := FileTree.get?_erase d.tree below l
    rw [if_pos List.prefix_rfl, same, there] at erased
    cases erased
  · cases found
  · cases found

end Disk

namespace Build

variable {c : ModuleCompiler} {p : Package} {w : World}

theorem clean_eq_removeAll {d d' : Disk} {dir : String} (cleaned : clean d dir = .ok d') : d' = d.removeAll dir := by
  rw [clean] at cleaned
  split at cleaned
  · exact (Except.ok.inj cleaned).symm
  · cases cleaned
  · rename_i missing
    rw [Disk.removeAll_of_noEntry missing, Except.ok.inj cleaned]
  · cases cleaned

/-- An old output that can be removed was a directory, and then it is gone, or there was none. -/
theorem removeAll_outputDir_eq_iff {d d' : Disk} (cleaned : clean d p.outputDir = .ok d') :
    d.removeAll p.outputDir = d ↔ d.lookUp false p.outputDir = .error .noEntry := by
  refine ⟨fun same => ?_, Disk.removeAll_of_noEntry⟩
  obtain ⟨base, names, located, -⟩ := exists_located d.cwd p
  obtain ⟨ups, split, -⟩ := located.output.split
  rw [← List.append_assoc] at split
  rw [clean] at cleaned
  split at cleaned
  · rename_i found
    exact absurd same (Disk.removeAll_ne split (by decide) found)
  · cases cleaned
  · assumption
  · cases cleaned

/-- Once a run is canceled, no source is started on. -/
theorem compileFiles_canceled (canceled : w.canceled = true) (todo : List String) :
    compileFiles c p todo w = (if todo = [] then .ok [] else .error (.fault .canceled), w) := by
  cases todo with
  | nil => rfl
  | cons s todo =>
    rw [compileFiles, Action.andThen, compileFile, Action.andThen, prepare, if_pos canceled, if_neg (by simp)]

/-- Building a package after its run was canceled comes down to removing its old output. -/
theorem buildPackage_of_canceled (canceled : w.canceled = true) {d : Disk} (cleaned : clean w.disk p.outputDir = .ok d) :
    ∃ v : World, v.disk = d ∧ ∀ c, buildPackage c p w =
      (if sources d p.dir = [] then .ok [] else .error (.fault .canceled), v) := by
  obtain ⟨v, disk, stays, -, built⟩ := buildPackage_of_clean cleaned
  refine ⟨v, disk, fun c => ?_⟩
  rw [built, compileFiles_canceled (stays.trans canceled)]

/-- A step never calls off that a run is canceled, and the first failure cancels it. -/
theorem canceled_of_failure {ps : List Package} {crew : Crew}
    (reaches : Relation.ReflTransGen (Crew.Moves c) (Crew.start ps w) crew) (failed : crew.failure ≠ none) :
    crew.world.canceled = true := by
  induction reaches with
  | refl => exact absurd rfl failed
  | @tail before _ _ moves ih =>
    obtain ⟨i, j, m, -, rfl⟩ := moves
    have keep := (steps_recorded c m j before.world).2
    rw [Crew.update] at failed ⊢
    split at failed
    · rfl
    · exact keep (ih failed)

/-- A package that is started on when its run is already canceled: the compiler plays no part in what happens. If the old
output cannot be removed, everything stays. Else it is removed, and if there is a source, the package is given up then;
so a package that is given up was left alone only if it had no output. All packages that are started on after another
one has failed are in this case. -/
theorem buildPackage_canceled (canceled : w.canceled = true) :
    (∀ c', buildPackage c' p w = buildPackage c p w) ∧
      (∀ f, Refused w.disk p.outputDir f → buildPackage c p w = (.error f, w)) ∧
      ((∀ f, ¬ Refused w.disk p.outputDir f) →
        (buildPackage c p w).2.disk = w.disk.removeAll p.outputDir ∧
          (buildPackage c p w).1 =
            if sources (w.disk.removeAll p.outputDir) p.dir = [] then .ok [] else .error (.fault .canceled)) ∧
      ((buildPackage c p w).1 = .error (.fault .canceled) →
        ((buildPackage c p w).2.disk = w.disk ↔ w.disk.lookUp false p.outputDir = .error .noEntry)) ∧
      ∀ (ps : List Package) (w₀ : World) (crew : Crew), Relation.ReflTransGen (Crew.Moves c) (Crew.start ps w₀) crew →
        crew.failure ≠ none → crew.world.canceled = true := by
  rcases cleaned : clean w.disk p.outputDir with g | d
  · have built (c' : ModuleCompiler) : buildPackage c' p w = (.error g, w) := buildPackage_of_clean_error cleaned
    have refused := clean_eq_error.1 cleaned
    refine ⟨fun c' => by rw [built, built], fun f other => ?_, fun none => absurd refused (none g), fun given => ?_,
      fun ps w₀ crew => canceled_of_failure⟩
    · rw [clean_eq_error.2 other, Except.error.injEq] at cleaned
      rw [built, cleaned]
    · rw [built, Except.error.injEq] at given
      rw [given] at refused
      cases refused
  · obtain ⟨v, disk, built⟩ := buildPackage_of_canceled canceled cleaned
    have removed := clean_eq_removeAll cleaned
    refine ⟨fun c' => by rw [built, built], fun f refused => ?_, fun _ => ?_, fun _ => ?_,
      fun ps w₀ crew => canceled_of_failure⟩
    · rw [clean_eq_error.2 refused] at cleaned
      cases cleaned
    · rw [built, ← removed]
      exact ⟨disk, rfl⟩
    · rw [built, disk, removed]
      exact removeAll_outputDir_eq_iff cleaned

namespace Sample

def canceled : World := { world with canceled := true }

end Sample

/-- Without any output a package is left alone. -/
theorem buildPackage_canceled_sample :
    Sample.canceled.canceled = true ∧
      (buildPackage Sample.strict ⟨"/", "b"⟩ Sample.canceled).1 = .error (.fault .canceled) ∧
      (buildPackage Sample.strict ⟨"/", "b"⟩ Sample.canceled).2.disk = Sample.canceled.disk := by
  have given : (buildPackage Sample.strict ⟨"/", "b"⟩ Sample.canceled).1 = .error (.fault .canceled) := by decide +kernel
  have missing : Sample.canceled.disk.lookUp false (Package.mk "/" "b").outputDir = .error .noEntry := by decide +kernel
  have left := (buildPackage_canceled (c := Sample.strict) (p := ⟨"/", "b"⟩) (w := Sample.canceled) rfl).2.2.2.1
  exact ⟨rfl, given, (left given).2 missing⟩

/-- The output of a package that is given up is lost: when it is started on in a canceled run, and also when another
package of a run fails before it. In order, the package is not started on, and its output stays. -/
theorem canceled_output_lost :
    Sample.world.disk.tree.get? ["a", "dist", "old.ts"] = some (.file [5]) ∧
      (buildPackage Sample.strict ⟨"/", "a"⟩ Sample.canceled).1 = .error (.fault .canceled) ∧
      (buildPackage Sample.strict ⟨"/", "a"⟩ Sample.canceled).2.disk.tree.get? ["a", "dist"] = none ∧
      (together Sample.strict 2 [] [⟨"/", "b"⟩, ⟨"/", "a"⟩] Sample.world).2.disk.tree.get? ["a", "dist"] = none ∧
      (inOrder Sample.strict [⟨"/", "b"⟩, ⟨"/", "a"⟩] Sample.world).2.disk.tree.get? ["a", "dist", "old.ts"] =
        some (.file [5]) := by
  decide +kernel

end Build

end Distill
