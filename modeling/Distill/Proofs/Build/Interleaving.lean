import Distill.Proofs.Build.Crew
import Distill.Proofs.Build.InOrder

/-!
Building several packages at a time. Packages that are neither equal nor nested can be built in any order of their
steps: if all goes well, the files, the report and the number of files are those of building one package after another.
-/
namespace Distill.Build

section Alone

variable {c : ModuleCompiler} {w₀ : World} {p : Package}

theorem steps_eq_of_isOver {j : Job} {m n : Nat} (overM : (Job.steps c m j w₀).1.isOver = true)
    (overN : (Job.steps c n j w₀).1.isOver = true) : Job.steps c m j w₀ = Job.steps c n j w₀ := by
  rcases Nat.le_total m n with le | le
  · obtain ⟨k, rfl⟩ := Nat.exists_eq_add_of_le le
    rw [steps_add, steps_of_isOver overM]
  · obtain ⟨k, rfl⟩ := Nat.exists_eq_add_of_le le
    rw [steps_add, steps_of_isOver overN]

/-- A package whose job has come to a good end was steady all the way. -/
theorem steady_of_isOver {n : Nat} (settled : (Job.steps c n (.start p) w₀).1.isOver = true)
    (sound : ∀ f, (Job.steps c n (.start p) w₀).1.phase ≠ .failed f)
    (running : (Job.steps c n (.start p) w₀).2.canceled = false) : Steady c w₀ p := by
  intro m
  rcases Nat.le_total n m with le | le
  · obtain ⟨k, rfl⟩ := Nat.exists_eq_add_of_le le
    rw [steps_add, steps_of_isOver settled]
    exact ⟨sound, running⟩
  · obtain ⟨k, rfl⟩ := Nat.exists_eq_add_of_le le
    rw [steps_add] at sound running
    constructor
    · intro f failed
      have overM : (Job.steps c m (.start p) w₀).1.isOver = true := by rw [Job.isOver, failed]
      rw [steps_of_isOver overM] at sound
      exact sound f failed
    · by_contra canceled
      rw [(steps_recorded c k _ _).2 (by simpa using canceled)] at running
      cases running

end Alone

section Mirror

variable {c : ModuleCompiler} {w₀ : World} {ps : List Package} {crew crew' : Crew}

theorem Phase.Alike.isOver_eq {j k : Job} (alike : Phase.Alike j.phase k.phase) : j.isOver = k.isOver := by
  rw [Job.isOver, Job.isOver]
  generalize j.phase = phase at alike
  generalize k.phase = phase' at alike
  cases alike <;> rfl

theorem Mirror.steady (mirror : Mirror c w₀ ps crew) (settled : ∀ j ∈ crew.jobs, j.isOver = true) :
    ∀ p ∈ ps, Steady c w₀ p := by
  intro p member
  obtain ⟨i, found⟩ := List.mem_iff_getElem?.1 member
  obtain ⟨inside, -⟩ := List.getElem?_eq_some_iff.1 found
  have foundJ := List.getElem?_eq_getElem (mirror.length ▸ inside : i < crew.jobs.length)
  have memberJ := List.mem_of_getElem? foundJ
  obtain ⟨n, tracks⟩ := mirror.tracks i p _ found foundJ
  refine steady_of_isOver (n := n) ?_ ?_ ?_
  · rw [← tracks.alike.phase.isOver_eq, settled _ memberJ]
  · intro f failed
    exact mirror.sound _ memberJ f ((tracks.alike.phase.failed_iff f).2 failed)
  · exact tracks.same.canceled.symm.trans mirror.running

/-- Two crews on the same packages that are done have the same jobs, the time aside. -/
theorem Mirror.files_eq (first : Mirror c w₀ ps crew) (second : Mirror c w₀ ps crew')
    (settled : ∀ j ∈ crew.jobs, j.isOver = true) (settled' : ∀ j ∈ crew'.jobs, j.isOver = true) :
    crew.jobs.map (fun j => (j.package, j.timings.map Timing.file)) =
      crew'.jobs.map fun j => (j.package, j.timings.map Timing.file) := by
  apply List.ext_getElem?
  intro i
  by_cases inside : i < ps.length
  · have foundP := List.getElem?_eq_getElem inside
    have found := List.getElem?_eq_getElem (first.length ▸ inside : i < crew.jobs.length)
    have found' := List.getElem?_eq_getElem (second.length ▸ inside : i < crew'.jobs.length)
    obtain ⟨m, tracks⟩ := first.tracks i _ _ foundP found
    obtain ⟨n, tracks'⟩ := second.tracks i _ _ foundP found'
    have overM := tracks.alike.phase.isOver_eq.symm.trans (settled _ (List.mem_of_getElem? found))
    have overN := tracks'.alike.phase.isOver_eq.symm.trans (settled' _ (List.mem_of_getElem? found'))
    have alone := steps_eq_of_isOver overM overN
    rw [List.getElem?_map, List.getElem?_map, found, found', Option.map_some, Option.map_some, tracks.package,
      tracks'.package, tracks.alike.files, tracks'.alike.files, alone]
  · rw [List.getElem?_eq_none, List.getElem?_eq_none]
    · rw [List.length_map, second.length]; omega
    · rw [List.length_map, first.length]; omega

/-- Two crews on the same packages that are done leave the same files. -/
theorem Mirror.disk_eq (first : Mirror c w₀ ps crew) (second : Mirror c w₀ ps crew')
    (settled : ∀ j ∈ crew.jobs, j.isOver = true) (settled' : ∀ j ∈ crew'.jobs, j.isOver = true) :
    crew.world.disk = crew'.world.disk := by
  have tree : crew.world.disk.tree = crew'.world.disk.tree := by
    apply FileTree.ext_get?
    intro k
    by_cases below : ∃ p ∈ ps, p.site w₀.disk.cwd ++ ["dist"] <+: k
    · obtain ⟨p, member, below⟩ := below
      obtain ⟨i, foundP⟩ := List.mem_iff_getElem?.1 member
      obtain ⟨inside, -⟩ := List.getElem?_eq_some_iff.1 foundP
      have found := List.getElem?_eq_getElem (first.length ▸ inside : i < crew.jobs.length)
      have found' := List.getElem?_eq_getElem (second.length ▸ inside : i < crew'.jobs.length)
      obtain ⟨m, tracks⟩ := first.tracks i p _ foundP found
      obtain ⟨n, tracks'⟩ := second.tracks i p _ foundP found'
      have overM := tracks.alike.phase.isOver_eq.symm.trans (settled _ (List.mem_of_getElem? found))
      have overN := tracks'.alike.phase.isOver_eq.symm.trans (settled' _ (List.mem_of_getElem? found'))
      rw [tracks.same.agree.output k below, tracks'.same.agree.output k below, steps_eq_of_isOver overM overN]
    · have outside : ∀ p ∈ ps, ¬ p.site w₀.disk.cwd ++ ["dist"] <+: k := fun p member inside => below ⟨p, member, inside⟩
      rw [first.frame k outside, second.frame k outside]
  calc crew.world.disk = ⟨crew.world.disk.tree, crew.world.disk.cwd⟩ := rfl
    _ = ⟨crew'.world.disk.tree, crew'.world.disk.cwd⟩ := by rw [tree, first.cwd, second.cwd]

theorem Mirror.recorded_eq (mirror : Mirror c w₀ ps crew) (settled : ∀ j ∈ crew.jobs, j.isOver = true) :
    crew.jobs.map Job.recorded =
      (crew.jobs.map fun j => (j.package, j.timings.map Timing.file)).map fun x => x.2.length := by
  rw [List.map_map]
  apply List.map_congr_left
  intro j member
  have sound := mirror.sound j member
  have settledJ := settled j member
  rw [Job.isOver] at settledJ
  rw [Job.recorded]
  split at settledJ
  · rename_i finished
    simp [finished]
  · rename_i f failed
    exact absurd failed (sound f)
  · cases settledJ

end Mirror

section InOrder

variable {c : ModuleCompiler}

private theorem foldl_finishJob_failure (indices : List Nat) (crew : Crew) (failed : crew.failure ≠ none) :
    (indices.foldl (Crew.finishJob c) crew).failure ≠ none := by
  induction indices generalizing crew with
  | nil => exact failed
  | cons i rest ih =>
    apply ih
    rw [Crew.finishJob]
    split
    · rw [Crew.update]
      split
      · simp
      · exact failed
    · exact failed

/-- Bringing one job after another to its end is building one package after another, up to the first failure. -/
theorem foldl_finishJob_inOrder (ps : List Package) (finished : List Job) (w : World) :
    let crew := (List.range' finished.length ps.length).foldl (Crew.finishJob c) ⟨finished ++ ps.map Job.start, w, none⟩
    match inOrder c ps w with
    | (.ok built, w') => crew.failure = none ∧ crew.world = w' ∧
        crew.jobs.map (fun j => PackageTimings.mk j.package j.timings) =
          finished.map (fun j => PackageTimings.mk j.package j.timings) ++ built
    | (.error _, _) => crew.failure ≠ none := by
  induction ps generalizing finished w with
  | nil => simp [inOrder]
  | cons p ps ih =>
    rw [List.length_cons, List.range'_succ, List.foldl_cons, List.map_cons]
    have found : (finished ++ Job.start p :: ps.map Job.start)[finished.length]? = some (Job.start p) := by simp
    have one := finish_start c p w
    rw [Crew.finishJob]
    simp only [found]
    rw [inOrder, Action.andThen]
    rcases result : buildOne c p w with ⟨f | built, w₁⟩
    · rw [result] at one
      obtain ⟨before, failed⟩ := one
      rw [failed]
      exact foldl_finishJob_failure _ _ (by simp [Crew.update])
    · rw [result] at one
      obtain ⟨package, done⟩ := one
      have next : Crew.update ⟨finished ++ Job.start p :: ps.map Job.start, w, none⟩ finished.length
          ((Job.start p).finish c w) = ⟨(finished ++ [⟨p, .finished, built.timings⟩]) ++ ps.map Job.start, w₁, none⟩ := by
        rw [done]
        simp [Crew.update]
      have length : finished.length + 1 = (finished ++ [(⟨p, .finished, built.timings⟩ : Job)]).length := by simp
      have rest := ih (finished ++ [⟨p, .finished, built.timings⟩]) w₁
      rw [next, length]
      dsimp only [Action.andThen] at rest ⊢
      rcases ordered : inOrder c ps w₁ with ⟨f | others, w₂⟩
      · rw [ordered] at rest
        exact rest
      · rw [ordered] at rest
        obtain ⟨failure, world, jobs⟩ := rest
        refine ⟨failure, world, ?_⟩
        rw [jobs]
        simp [← package]

/-- Without a schedule, building several packages at a time is building one after another. -/
theorem together_nil_eq_ok (limit : Nat) {ps : List Package} {w w' : World} {built : List PackageTimings} :
    together c limit [] ps w = (.ok built, w') ↔ inOrder c ps w = (.ok built, w') := by
  have one := foldl_finishJob_inOrder (c := c) ps [] w
  have range : List.range (Crew.start ps w).jobs.length = List.range' ([] : List Job).length ps.length := by
    rw [List.range_eq_range']
    simp [Crew.start]
  have followed : (List.range' ([] : List Job).length ps.length).foldl (Crew.finishJob c)
      ⟨[] ++ ps.map Job.start, w, none⟩ = (Crew.start ps w).follow c limit [] := by
    rw [Crew.follow, List.foldl_nil, range]
    rfl
  rw [followed] at one
  rw [together, Crew.outcome]
  generalize (Crew.start ps w).follow c limit [] = crew at one ⊢
  rcases ordered : inOrder c ps w with ⟨f | all, w₁⟩
  · rw [ordered] at one
    obtain ⟨f', failure⟩ := Option.ne_none_iff_exists'.1 one
    simp [failure]
  · rw [ordered] at one
    obtain ⟨failure, world, jobs⟩ := one
    rw [List.map_nil, List.nil_append] at jobs
    simp [failure, world, jobs]

end InOrder

section Together

variable {c : ModuleCompiler} {limit : Nat} {schedule : List Nat} {ps : List Package} {w w' : World}

private theorem quiet_of_reaches {crew crew' : Crew} (reaches : Relation.ReflTransGen (Crew.Moves c) crew crew')
    (failure : crew'.failure = none) (running : crew'.world.canceled = false) : crew.world.canceled = false := by
  induction reaches with
  | refl => exact running
  | tail _ moves ih =>
    obtain ⟨failureBefore, runningBefore⟩ := moves.quiet failure running
    exact ih failureBefore runningBefore

/-- What two runs on the packages `ps` have in common when they differ in nothing but time. -/
structure SameRun (ps : List Package) (built built' : List PackageTimings) (w w' : World) : Prop where
  disk : w.disk = w'.disk
  running : w.canceled = w'.canceled
  packages : built.map PackageTimings.package = ps
  files : built.map (fun x => (x.package, x.timings.map Timing.file)) =
    built'.map (fun x => (x.package, x.timings.map Timing.file))
  recorded : w.collector.total.files = w'.collector.total.files

/-- If packages that are apart can be built in one order of their steps, they can be built in every order, and it does
not matter in which. -/
theorem together_sameRun {built : List PackageTimings} (free : w.disk.tree.LinkFree)
    (apart : ps.Pairwise fun p q => Apart (p.site w.disk.cwd) (q.site w.disk.cwd))
    (success : together c limit schedule ps w = (.ok built, w')) (running : w'.canceled = false)
    (limit₁ : Nat) (schedule₁ : List Nat) :
    ∃ built₁ w₁, together c limit₁ schedule₁ ps w = (.ok built₁, w₁) ∧ SameRun ps built built₁ w' w₁ := by
  rw [together, Crew.outcome] at success
  split at success
  · cases success
  · rename_i failure
    rw [Prod.mk.injEq, Except.ok.injEq] at success
    obtain ⟨rfl, rfl⟩ := success
    have reaches := follow_reaches c limit schedule (Crew.start ps w)
    have begun := mirror_start c free (quiet_of_reaches reaches failure running) ps
    have mirror := begun.reaches apart reaches failure running
    have settled := follow_isOver c limit schedule (Crew.start ps w)
    have mirror₁ := begun.reaches_of_steady apart (mirror.steady settled)
      (follow_reaches c limit₁ schedule₁ (Crew.start ps w))
    have settled₁ := follow_isOver c limit₁ schedule₁ (Crew.start ps w)
    have files := mirror.files_eq mirror₁ settled settled₁
    refine ⟨_, _, by rw [together, Crew.outcome, mirror₁.failure], mirror.disk_eq mirror₁ settled settled₁,
      running.trans mirror₁.running.symm, ?_, ?_, ?_⟩
    · apply List.ext_getElem?
      intro i
      by_cases inside : i < ps.length
      · have foundP := List.getElem?_eq_getElem inside
        have found := List.getElem?_eq_getElem (mirror.length ▸ inside : i < _)
        obtain ⟨n, tracks⟩ := mirror.tracks i _ _ foundP found
        rw [List.map_map, List.getElem?_map, found, foundP, Option.map_some, Function.comp_apply, tracks.package]
      · rw [List.getElem?_eq_none, List.getElem?_eq_none (by omega)]
        rw [List.length_map, List.length_map, mirror.length]
        omega
    · simpa [Function.comp_def] using files
    · rw [Collector.total, Collector.total, Total.files_ofList, Total.files_ofList, mirror₁.collected,
        mirror.collected, mirror₁.recorded_eq settled₁, mirror.recorded_eq settled, files]

/-- A work that can be done instead of another without a difference but in time can be timed instead of it. -/
theorem timed_sameRun {work work' : Action (List PackageTimings)} {report : Report}
    (success : timed work w = (.ok report, w'))
    (same : ∀ {built w₁}, work w.readWall.2 = (.ok built, w₁) → w₁.canceled = w'.canceled →
      ∃ built' w₁', work' w.readWall.2 = (.ok built', w₁') ∧ SameRun ps built built' w₁ w₁') :
    ∃ report' w'', timed work' w = (.ok report', w'') ∧ SameRun ps report.packages report'.packages w' w'' ∧
      report.total.files = report'.total.files := by
  obtain ⟨built, w₁, worked, rfl, rfl⟩ := timed_eq_ok.1 success
  obtain ⟨disk, canceled, collector⟩ := readWall_same w₁
  obtain ⟨built', w₁', worked', same⟩ := same worked canceled.symm
  obtain ⟨disk', canceled', collector'⟩ := readWall_same w₁'
  have recorded : w₁.readWall.2.collector.total.files = w₁'.readWall.2.collector.total.files := by
    rw [collector, collector', same.recorded]
  refine ⟨_, _, timed_eq_ok.2 ⟨built', w₁', worked', rfl, rfl⟩, ⟨?_, ?_, same.packages, same.files, recorded⟩, recorded⟩
  · rw [disk, disk', same.disk]
  · rw [canceled, canceled', same.running]

/-- Building packages that are apart several at a time, whatever the order of their steps, ends well if and only if
building one after another does. The files, the packages and file names in the report and the number of files are the
same. -/
theorem together_iff_inOrder (free : w.disk.tree.LinkFree)
    (apart : ps.Pairwise fun p q => Apart (p.site w.disk.cwd) (q.site w.disk.cwd)) (limit : Nat) (schedule : List Nat) :
    (∀ report w', timed (together c limit schedule ps) w = (.ok report, w') → w'.canceled = false →
      ∃ report₁ w₁, run c 1 ps w = (.ok report₁, w₁) ∧ SameRun ps report.packages report₁.packages w' w₁ ∧
        report.total.files = report₁.total.files) ∧
    (∀ report₁ w₁, run c 1 ps w = (.ok report₁, w₁) → w₁.canceled = false →
      ∃ report w', timed (together c limit schedule ps) w = (.ok report, w') ∧
        SameRun ps report₁.packages report.packages w₁ w' ∧ report₁.total.files = report.total.files) := by
  obtain ⟨disk, -, -⟩ := readWall_same w
  rw [← disk] at free apart
  constructor
  · intro report w' success running
    rw [run, if_pos (by decide)]
    apply timed_sameRun success
    intro built w₁ worked canceled
    obtain ⟨built₁, w₂, ordered, same⟩ := together_sameRun free apart worked (canceled.trans running) 1 []
    exact ⟨built₁, w₂, (together_nil_eq_ok 1).1 ordered, same⟩
  · intro report₁ w₁ success running
    rw [run, if_pos (by decide)] at success
    apply timed_sameRun success
    intro built w₂ worked canceled
    exact together_sameRun free apart ((together_nil_eq_ok 1).2 worked) (canceled.trans running) limit schedule

/-- Two packages with their steps interleaved. One turn of the schedule goes to no job. -/
theorem together_iff_inOrder_sample :
    ∃ report w' report₁ w₁,
      timed (together Sample.compiler 2 [1, 0, 0, 7, 1, 0, 1, 0] [⟨"/", "a"⟩, ⟨"/", "b"⟩]) Sample.world =
        (.ok report, w') ∧
      run Sample.compiler 1 [⟨"/", "a"⟩, ⟨"/", "b"⟩] Sample.world = (.ok report₁, w₁) ∧
      SameRun [⟨"/", "a"⟩, ⟨"/", "b"⟩] report.packages report₁.packages w' w₁ ∧ report.total.files = 4 ∧
      report₁.total.files = 4 := by
  have free : Sample.world.disk.tree.LinkFree := by decide +kernel
  have apart : [Package.mk "/" "a", Package.mk "/" "b"].Pairwise fun p q =>
      Apart (p.site Sample.world.disk.cwd) (q.site Sample.world.disk.cwd) := by
    unfold Apart
    decide +kernel
  have success : (timed (together Sample.compiler 2 [1, 0, 0, 7, 1, 0, 1, 0] [⟨"/", "a"⟩, ⟨"/", "b"⟩])
      Sample.world).1.toOption.map (·.total.files) = some 4 := by decide +kernel
  have running : (timed (together Sample.compiler 2 [1, 0, 0, 7, 1, 0, 1, 0] [⟨"/", "a"⟩, ⟨"/", "b"⟩])
      Sample.world).2.canceled = false := by decide +kernel
  obtain ⟨sequential, -⟩ := together_iff_inOrder (c := Sample.compiler) free apart 2 [1, 0, 0, 7, 1, 0, 1, 0]
  rcases worked : timed (together Sample.compiler 2 [1, 0, 0, 7, 1, 0, 1, 0] [⟨"/", "a"⟩, ⟨"/", "b"⟩])
    Sample.world with ⟨f | report, w'⟩
  · rw [worked] at success
    cases success
  · rw [worked] at success running
    have total : report.total.files = 4 := Option.some.inj success
    obtain ⟨report₁, w₁, ordered, same, files⟩ := sequential report w' worked running
    exact ⟨report, w', report₁, w₁, rfl, ordered, same, total, files.symm.trans total⟩

end Together

end Distill.Build
