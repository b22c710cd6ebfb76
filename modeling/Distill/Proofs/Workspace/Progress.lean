import Distill.Proofs.Build.InOrder
import Distill.Proofs.Workspace.Kept

/-!
The state of a workspace while its packages are built one after another. Outputs that were built stay as they are
(`Progress.build`), as no output directory lies in another one; so building a package again, after all of them, changes
nothing (`Progress.settled`).
-/
namespace Distill.Workspace

open Build

/-- Something below two output directories: unless they are the same, one lies in the other. -/
private theorem below_output {place l q b : Location}
    (below : place ++ l ++ ["dist"] <+: place ++ q ++ ["dist"] ++ b) :
    ∃ b', place ++ q ++ ["dist"] ++ b = place ++ l ++ ["dist"] ++ b' ∧ ("dist" ∈ q ++ b ↔ "dist" ∈ l ++ b') ∧
      ("dist" ∉ q → l ≠ q → "dist" ∈ l ∧ "dist" ∈ b) := by
  obtain ⟨b', eq⟩ := below
  have names : l ++ "dist" :: b' = q ++ "dist" :: b := by simpa using eq
  have counts := congrArg (List.count "dist") names
  simp only [List.count_append, List.count_cons_self] at counts
  have twice : "dist" ∈ q ++ b ↔ "dist" ∈ l ++ b' := by
    rw [← List.count_pos_iff, ← List.count_pos_iff, List.count_append, List.count_append]
    omega
  refine ⟨b', eq.symm, twice, fun outside different => ?_⟩
  have inside : "dist" ∈ l := by
    by_contra outsideL
    refine different ?_
    have before : ∀ {m : Location}, "dist" ∉ m → ∀ n ∈ m, (n != "dist") = true := by
      intro m none n member
      simpa using fun same : n = "dist" => none (same ▸ member)
    have cut := congrArg (List.takeWhile (· != "dist")) names
    rw [List.takeWhile_append_of_pos (before outsideL), List.takeWhile_append_of_pos (before outside)] at cut
    simpa using cut
  exact ⟨inside, (List.mem_append.1 (twice.2 (List.mem_append_left _ inside))).resolve_left outside⟩

/-- The output directory of a package is what building the package gave. -/
def Built (c : ModuleCompiler) (root cwd : String) (place : Location) (t₀ : FileTree) (l : Location) (t : FileTree) :
    Prop :=
  ∃ w w' timings, w.disk.cwd = cwd ∧ Kept place t₀ w.disk.tree ∧
    buildPackage c (packageAt root l) w = (.ok timings, w') ∧ w'.canceled = false ∧
    ∀ b, t.get? (place ++ l ++ ["dist"] ++ b) = w'.disk.tree.get? (place ++ l ++ ["dist"] ++ b)

/-- The state of a workspace, at first `t₀`, in which the packages at the locations `done` were built. -/
structure Progress (c : ModuleCompiler) (root cwd : String) (place : Location) (t₀ : FileTree) (done : List Location)
    (t : FileTree) : Prop where
  kept : Kept place t₀ t
  built : ∀ q ∈ done, "dist" ∉ q → Built c root cwd place t₀ q t
  flat : ∀ q ∈ done, ∀ b, "dist" ∈ q ++ b → t.get? (place ++ q ++ ["dist"] ++ b) = none
  /-- Other outputs are old ones, if they are left. -/
  pruned : ∀ q b, "dist" ∉ q → q ∉ done → t.get? (place ++ q ++ ["dist"] ++ b) = none ∨
    t.get? (place ++ q ++ ["dist"] ++ b) = t₀.get? (place ++ q ++ ["dist"] ++ b)

section Progress

variable {c : ModuleCompiler} {root : String} {place : Location} {t₀ : FileTree} {done : List Location}

/-- One more package is built. -/
theorem Progress.build {l : Location} {w w' : World} {timings : List Timing}
    (progress : Progress c root w.disk.cwd place t₀ done w.disk.tree) (reaches : Path.Reaches w.disk.cwd root place)
    (named : ∀ n ∈ l, isName n = true) (success : buildPackage c (packageAt root l) w = (.ok timings, w'))
    (running : w'.canceled = false) : Progress c root w.disk.cwd place t₀ (done ++ [l]) w'.disk.tree := by
  obtain ⟨kept, outcome, -, -⟩ := progress.kept.build reaches named success
  refine ⟨kept, ?_, ?_, ?_⟩
  · intro q member outside
    by_cases same : q = l
    · exact ⟨w, w', timings, rfl, progress.kept, same ▸ success, running, fun _ => rfl⟩
    · have old : q ∈ done := (List.mem_append.1 member).resolve_right (by simpa using same)
      obtain ⟨v, v', before, cwd, keptV, successV, runningV, output⟩ := progress.built q old outside
      refine ⟨v, v', before, cwd, keptV, successV, runningV, fun b => ?_⟩
      rw [← output b]
      by_cases below : place ++ l ++ ["dist"] <+: place ++ q ++ ["dist"] ++ b
      · obtain ⟨b', eq, -, inner⟩ := below_output below
        obtain ⟨innerL, innerB⟩ := inner outside (Ne.symm same)
        rw [progress.flat q old b (List.mem_append_right _ innerB), eq, outcome.flat b' (List.mem_append_left _ innerL)]
      · exact outcome.frame _ below
  · intro q member b inner
    by_cases below : place ++ l ++ ["dist"] <+: place ++ q ++ ["dist"] ++ b
    · obtain ⟨b', eq, twice, -⟩ := below_output below
      rw [eq]
      exact outcome.flat b' (twice.1 inner)
    · rcases List.mem_append.1 member with old | new
      · rw [outcome.frame _ below, progress.flat q old b inner]
      · rw [List.mem_singleton.1 new] at below
        exact absurd (List.prefix_append _ _) below
  · intro q b outside new
    rw [List.mem_append, not_or, List.mem_singleton] at new
    by_cases below : place ++ l ++ ["dist"] <+: place ++ q ++ ["dist"] ++ b
    · obtain ⟨b', eq, -, inner⟩ := below_output below
      left
      rw [eq]
      exact outcome.flat b' (List.mem_append_left _ (inner outside (Ne.symm new.2)).1)
    · rw [outcome.frame _ below]
      exact progress.pruned q b outside new.1

/-- Packages are built one after another. -/
theorem Progress.inOrder {ls : List Location} {w w' : World} {built : List PackageTimings}
    (progress : Progress c root w.disk.cwd place t₀ done w.disk.tree) (kept₀ : Kept place t₀ t₀)
    (reaches : Path.Reaches w.disk.cwd root place) (named : ∀ l ∈ ls, ∀ n ∈ l, isName n = true)
    (success : Build.inOrder c (ls.map (packageAt root)) w = (.ok built, w')) (running : w'.canceled = false) :
    w'.disk.cwd = w.disk.cwd ∧ Progress c root w.disk.cwd place t₀ (done ++ ls) w'.disk.tree ∧
      w'.collector.records.length =
        w.collector.records.length + (ls.map (filesAt root w.disk.cwd place t₀)).sum := by
  induction ls generalizing w done built with
  | nil =>
    rw [List.map_nil, Build.inOrder, Prod.mk.injEq] at success
    obtain ⟨-, rfl⟩ := success
    exact ⟨rfl, by simpa using progress, by simp⟩
  | cons l ls ih =>
    obtain ⟨one, w₁, rest, first, later, -⟩ := inOrder_cons_eq_ok.1 success
    obtain ⟨timings, w₂, builtL, rfl, disk, canceled⟩ := buildOne_eq_ok first
    have runningL : w₂.canceled = false := canceled ▸ inOrder_running later running
    have namedL := named l (by simp)
    obtain ⟨-, -, cwd, files⟩ := progress.kept.build reaches namedL builtL
    have next := progress.build reaches namedL builtL runningL
    rw [← disk] at next cwd
    obtain ⟨cwdRest, progressRest, recorded⟩ :=
      ih (cwd ▸ next) (cwd ▸ reaches) (fun k member => named k (by simp [member])) later
    rw [cwd] at cwdRest progressRest recorded
    refine ⟨cwdRest, by simpa using progressRest, ?_⟩
    rw [recorded, (buildOne_recorded first).1, files, progress.kept.filesAt_eq kept₀ reaches namedL, List.map_cons,
      List.sum_cons, Nat.add_assoc]

/-- After a run a package that is still there can be built again, which changes nothing. A package that was there before
the run has to be one of those that were built. -/
theorem Progress.settled {d : Disk} (progress : Progress c root d.cwd place t₀ done d.tree)
    (reaches : Path.Reaches d.cwd root place) {l : Location} (there : d.tree.get? (place ++ l) = some .directory)
    (before : t₀.get? (place ++ l) = some .directory → l ∈ done) {v : World} (disk : v.disk = d)
    (running : v.canceled = false) :
    ∃ timings v', buildPackage c (packageAt root l) v = (.ok timings, v') ∧ v'.disk = d ∧ v'.canceled = false := by
  have named : ∀ n ∈ l, isName n = true := FileTree.isName_below there
  obtain ⟨base, names, leads, site⟩ := leads_packageAt reaches named
  subst disk
  by_cases inside : "dist" ∈ l
  · -- a package in an output has nothing to build and nothing to remove
    have gone : v.disk.tree.get? (place ++ l ++ ["dist"]) = none := by
      obtain ⟨q, b, eq, outside⟩ := List.eq_append_cons_of_mem inside
      have split : place ++ l = place ++ q ++ ["dist"] ++ b := by simp [eq]
      by_cases done : q ∈ done
      · have none := progress.flat q done (b ++ ["dist"]) (by simp)
        rwa [← List.append_assoc, ← split] at none
      · have old : l ∈ _ := before <| by
          rw [split] at there ⊢
          rcases progress.pruned q b outside done with none | same
          · rw [none] at there
            cases there
          · rw [← same, there]
        simpa using progress.flat l old [] (by simpa using inside)
    have none := progress.kept.sources_eq_nil reaches named inside
    rw [← site] at there gone
    obtain ⟨v', built, disk, canceled⟩ := buildPackage_nothing (c := c) progress.kept.linkFree leads there gone none
    exact ⟨[], v', built, disk, canceled.trans running⟩
  · have out : ¬ InOutput place (place ++ l) := fun member => inside ((inOutput_append _ _).1 member)
    have old : l ∈ done := before (by rw [← progress.kept.outside _ out, there])
    obtain ⟨w, w', timings, cwd, kept, built, runningW, output⟩ := progress.built l old inside
    obtain ⟨-, outcome, -, -⟩ := kept.build (cwd ▸ reaches) named built
    have notFile : ∀ content, v.disk.tree.get? (place ++ l ++ ["dist"]) ≠ some (.file content) := by
      intro content file
      have same := output []
      rw [List.append_nil] at same
      exact outcome.notFile content (same.symm.trans file)
    have agree := progress.kept.agree kept inside
    rw [← site] at there notFile agree
    obtain ⟨timings', v', again, -, canceled, cwd', entries⟩ :=
      buildPackage_again kept.linkFree (cwd ▸ leads) built runningW cwd.symm running progress.kept.linkFree there notFile
        agree
    refine ⟨timings', v', again, ?_, canceled⟩
    have tree : v'.disk.tree = v.disk.tree := by
      apply FileTree.ext_get?
      intro k
      rw [entries]
      split
      · rename_i below
        obtain ⟨b, rfl⟩ := below
        rw [site, output b]
      · rfl
    calc v'.disk = ⟨v'.disk.tree, v'.disk.cwd⟩ := rfl
      _ = v.disk := by rw [tree, cwd']

end Progress

end Distill.Workspace
