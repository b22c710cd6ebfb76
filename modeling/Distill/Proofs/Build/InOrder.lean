import Mathlib.Algebra.GroupWithZero.Nat
import Distill.Proofs.Build.Finish
import Distill.Proofs.Build.Output
import Distill.Proofs.Collector

/-!
Building packages one after another, and the report on it: what is found on the disk comes from the single packages, and
the number of files is that of the records they handed in.
-/
namespace Distill.Build

variable {c : ModuleCompiler} {p : Package} {ps : List Package} {w w' : World}

/-- A package of a run is built, and then only its records are handed in. -/
theorem buildOne_of_ok {timings : List Timing} (success : buildPackage c p w = (.ok timings, w')) :
    ∃ w₁, buildOne c p w = (.ok ⟨p, timings⟩, w₁) ∧ w₁.disk = w'.disk ∧ w₁.canceled = w'.canceled := by
  rw [buildOne, success]
  exact ⟨_, rfl, rfl, rfl⟩

theorem buildOne_eq_ok {built : PackageTimings} (success : buildOne c p w = (.ok built, w')) :
    ∃ timings w₁, buildPackage c p w = (.ok timings, w₁) ∧ built = ⟨p, timings⟩ ∧ w'.disk = w₁.disk ∧
      w'.canceled = w₁.canceled := by
  rcases result : buildPackage c p w with ⟨f | timings, w₁⟩
  · rw [buildOne, result] at success
    simp at success
  · obtain ⟨w₂, eq, disk, canceled⟩ := buildOne_of_ok result
    rw [eq, Prod.mk.injEq, Except.ok.injEq] at success
    obtain ⟨rfl, rfl⟩ := success
    exact ⟨timings, w₁, rfl, rfl, disk, canceled⟩

theorem buildOne_recorded {built : PackageTimings} (success : buildOne c p w = (.ok built, w')) :
    w'.collector.records.length = w.collector.records.length + built.timings.length ∧
      (w'.canceled = false → w.canceled = false) := by
  have finished := finish_start c p w
  rw [success] at finished
  obtain ⟨-, finished⟩ := finished
  obtain ⟨-, n, steps⟩ := finish_isOver c (Job.start p) w
  have counted := steps_recorded c n (Job.start p) w
  rw [← steps, finished] at counted
  constructor
  · exact counted.1
  · intro running
    by_contra canceled
    rw [counted.2 (by simpa using canceled)] at running
    cases running

theorem inOrder_cons_eq_ok {built : List PackageTimings} :
    inOrder c (p :: ps) w = (.ok built, w') ↔ ∃ one w₁ rest, buildOne c p w = (.ok one, w₁) ∧
      inOrder c ps w₁ = (.ok rest, w') ∧ built = one :: rest := by
  rw [inOrder, Action.andThen]
  rcases first : buildOne c p w with ⟨f | one, w₁⟩
  · simp
  · dsimp only
    rw [Action.andThen]
    rcases later : inOrder c ps w₁ with ⟨f | rest, w₂⟩
    · simp [later]
    · simp only [Prod.mk.injEq, Except.ok.injEq]
      constructor
      · rintro ⟨rfl, rfl⟩
        exact ⟨one, w₁, rest, ⟨rfl, rfl⟩, later, rfl⟩
      · rintro ⟨one', w₁', rest', ⟨rfl, rfl⟩, later', rfl⟩
        rw [later, Prod.mk.injEq, Except.ok.injEq] at later'
        exact ⟨by rw [later'.1], later'.2⟩

/-- A run that is canceled stays so. -/
theorem inOrder_running {built : List PackageTimings} (success : inOrder c ps w = (.ok built, w'))
    (running : w'.canceled = false) : w.canceled = false := by
  induction ps generalizing w built with
  | nil =>
    rw [inOrder, Prod.mk.injEq] at success
    exact success.2 ▸ running
  | cons p ps ih =>
    obtain ⟨one, w₁, rest, first, later, -⟩ := inOrder_cons_eq_ok.1 success
    exact (buildOne_recorded first).2 (ih later)

/-- Packages that can all be built on a disk and leave it as it is can be built there one after another. -/
theorem inOrder_of_steady {α : Type} {pack : α → Package} {files : α → Nat} {xs : List α} {d : Disk}
    (steady : ∀ x ∈ xs, ∀ v : World, v.disk = d → v.canceled = false → ∃ timings v',
      buildPackage c (pack x) v = (.ok timings, v') ∧ v'.disk = d ∧ v'.canceled = false ∧ timings.length = files x)
    (disk : w.disk = d) (running : w.canceled = false) :
    ∃ built w', inOrder c (xs.map pack) w = (.ok built, w') ∧ w'.disk = d ∧
      w'.collector.records.length = w.collector.records.length + (xs.map files).sum := by
  induction xs generalizing w with
  | nil => exact ⟨[], w, rfl, disk, by simp⟩
  | cons x xs ih =>
    obtain ⟨timings, v, success, diskV, runningV, length⟩ := steady x (by simp) w disk running
    obtain ⟨w₁, first, disk₁, running₁⟩ := buildOne_of_ok success
    obtain ⟨rest, w', later, disk', recorded⟩ :=
      ih (fun y member => steady y (by simp [member])) (disk₁.trans diskV) (running₁.trans runningV)
    refine ⟨_, w', inOrder_cons_eq_ok.2 ⟨_, w₁, rest, first, later, rfl⟩, disk', ?_⟩
    rw [recorded, (buildOne_recorded first).1, length, List.map_cons, List.sum_cons, Nat.add_assoc]

theorem readWall_same (w : World) :
    w.readWall.2.disk = w.disk ∧ w.readWall.2.canceled = w.canceled ∧ w.readWall.2.collector = w.collector := by
  rw [World.readWall]
  split <;> exact ⟨rfl, rfl, rfl⟩

theorem timed_eq_ok {work : Action (List PackageTimings)} {report : Report} :
    timed work w = (.ok report, w') ↔ ∃ built w₁, work w.readWall.2 = (.ok built, w₁) ∧
      report = w₁.readWall.2.report w.readWall.1 w₁.readWall.1 built ∧ w' = w₁.readWall.2 := by
  rw [timed]
  dsimp only
  rcases work w.readWall.2 with ⟨f | built, w₁⟩
  · simp
  · simp [eq_comm]

/-- A run is timed around the packages: they are built on the same disk, and their records are counted. -/
theorem run_eq_ok {report : Report} (success : run c 1 ps w = (.ok report, w')) :
    ∃ built w₁, inOrder c ps w.readWall.2 = (.ok built, w₁) ∧ w'.disk = w₁.disk ∧ w'.canceled = w₁.canceled ∧
      report.total.files = w₁.collector.records.length := by
  rw [run, if_pos (by decide), timed_eq_ok] at success
  obtain ⟨built, w₁, done, rfl, rfl⟩ := success
  obtain ⟨disk, canceled, collector⟩ := readWall_same w₁
  refine ⟨built, w₁, done, disk, canceled, ?_⟩
  rw [World.report, Collector.total, Total.files_ofList, collector]

theorem run_of_inOrder {built : List PackageTimings} {w₁ : World}
    (done : inOrder c ps w.readWall.2 = (.ok built, w₁)) :
    ∃ report w', run c 1 ps w = (.ok report, w') ∧ w'.disk = w₁.disk ∧
      report.total.files = w₁.collector.records.length := by
  have success := timed_eq_ok.2 ⟨built, w₁, done, rfl, rfl⟩
  have ran : run c 1 ps w = timed (inOrder c ps) w := by rw [run, if_pos (by decide)]
  rw [← ran] at success
  obtain ⟨other, w₂, again, disk, -, files⟩ := run_eq_ok success
  rw [done, Prod.mk.injEq] at again
  obtain ⟨-, rfl⟩ := again
  exact ⟨_, _, success, disk, files⟩

theorem run_nil (c : ModuleCompiler) (w : World) :
    ∃ report w', run c 1 [] w = (.ok report, w') ∧ w'.disk = w.disk ∧
      report.total.files = w.collector.records.length := by
  have nothing : inOrder c [] w.readWall.2 = (.ok [], w.readWall.2) := rfl
  obtain ⟨report, w', success, disk, files⟩ := run_of_inOrder nothing
  obtain ⟨diskR, -, collectorR⟩ := readWall_same w
  exact ⟨report, w', success, disk.trans diskR, by rw [files, collectorR]⟩

end Distill.Build
