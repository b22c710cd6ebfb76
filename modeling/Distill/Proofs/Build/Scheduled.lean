import Distill.Proofs.Build.Accounting
import Distill.Proofs.Build.Interleaving

/-!
Runs with any number of packages at a time and any order of their steps, on any disk. What every step of a job keeps, a
whole run keeps (`Invariant.runBy`), and a run that ends well has finished the jobs of all its packages
(`allBuilt_of_runBy`).
-/
namespace Distill.Build

/-- Builds packages with at most `jobs` of them under construction at a time. If there may be several, their steps are
interleaved as the schedule says. -/
def runBy (c : ModuleCompiler) (jobs : Nat) (schedule : List Nat) (ps : List Package) : Action Report :=
  if jobs < 2 then timed (inOrder c ps) else timed (together c jobs schedule ps)

theorem run_eq_runBy (c : ModuleCompiler) (jobs : Nat) (ps : List Package) : run c jobs ps = runBy c jobs [] ps := rfl

/-- A property of the world and one of a job that a step of the job keeps. That of the world must not depend on the time or
on whether the run is canceled. -/
structure Invariant (c : ModuleCompiler) (world : World → Prop) (job : Job → Prop) : Prop where
  step : ∀ j w, world w → job j → world (j.step c w).2 ∧ job (j.step c w).1
  readWall : ∀ w, world w → world w.readWall.2
  cancel : ∀ w, world w → world { w with canceled := true }

/-- The two properties in a crew, whose failure is that of a job. -/
structure Crew.Keeps (world : World → Prop) (job : Job → Prop) (crew : Crew) : Prop where
  world : world crew.world
  jobs : ∀ j ∈ crew.jobs, job j
  failure : ∀ f, crew.failure = some f → ∃ j, job j ∧ j.phase = .failed f

/-- The two properties when a run is over, whose failure is that of a job. -/
structure Ended {α : Type} (world : World → Prop) (job : Job → Prop) (r : Except Failure α × World) : Prop where
  world : world r.2
  failure : ∀ f, r.1 = .error f → ∃ j, job j ∧ j.phase = .failed f

section Invariant

variable {c : ModuleCompiler} {world : World → Prop} {job : Job → Prop} {ps : List Package} {w : World}
  {crew crew' : Crew}

theorem Invariant.steps (invariant : Invariant c world job) (n : Nat) {j : Job} (held : world w) (jobHeld : job j) :
    world (Job.steps c n j w).2 ∧ job (Job.steps c n j w).1 := by
  induction n generalizing j w with
  | zero => exact ⟨held, jobHeld⟩
  | succ n ih =>
    obtain ⟨heldNext, jobNext⟩ := invariant.step j w held jobHeld
    exact ih heldNext jobNext

theorem Invariant.finish (invariant : Invariant c world job) {j : Job} (held : world w) (jobHeld : job j) :
    world (j.finish c w).2 ∧ job (j.finish c w).1 := by
  obtain ⟨-, n, steps⟩ := finish_isOver c j w
  rw [steps]
  exact invariant.steps n held jobHeld

theorem Crew.Keeps.move (keeps : crew.Keeps world job) (invariant : Invariant c world job)
    (moves : Crew.Moves c crew crew') : crew'.Keeps world job := by
  obtain ⟨i, j, m, found, rfl⟩ := moves
  obtain ⟨held, jobHeld⟩ := invariant.steps m keeps.world (keeps.jobs j (List.mem_of_getElem? found))
  have jobs : ∀ k ∈ crew.jobs.set i (Job.steps c m j crew.world).1, job k := by
    intro k member
    rcases List.mem_or_eq_of_mem_set member with member | rfl
    · exact keeps.jobs k member
    · exact jobHeld
  rw [Crew.update]
  split
  · rename_i f failed _
    refine ⟨invariant.cancel _ held, jobs, ?_⟩
    intro g same
    obtain rfl := Option.some.inj same
    exact ⟨_, jobHeld, failed⟩
  · exact ⟨held, jobs, keeps.failure⟩

theorem Crew.Keeps.reaches (keeps : crew.Keeps world job) (invariant : Invariant c world job)
    (reaches : Relation.ReflTransGen (Crew.Moves c) crew crew') : crew'.Keeps world job := by
  induction reaches with
  | refl => exact keeps
  | tail _ moves keeps => exact keeps.move invariant moves

theorem Invariant.together (invariant : Invariant c world job) (held : world w) (started : ∀ p ∈ ps, job (.start p))
    (limit : Nat) (schedule : List Nat) : Ended world job (together c limit schedule ps w) := by
  have begun : (Crew.start ps w).Keeps world job := by
    refine ⟨held, fun j member => ?_, fun f none => ?_⟩
    · obtain ⟨p, memberP, rfl⟩ := List.mem_map.1 member
      exact started p memberP
    · cases none
  have done := begun.reaches invariant (follow_reaches c limit schedule (Crew.start ps w))
  rw [Build.together, Crew.outcome]
  generalize (Crew.start ps w).follow c limit schedule = crew at done
  cases failure : crew.failure with
  | none =>
    refine ⟨done.world, fun f impossible => ?_⟩
    cases impossible
  | some g =>
    refine ⟨done.world, fun f failed => ?_⟩
    obtain rfl := Except.error.inj failed
    exact done.failure g failure

theorem Invariant.inOrder (invariant : Invariant c world job) (held : world w) (started : ∀ p ∈ ps, job (.start p)) :
    Ended world job (inOrder c ps w) := by
  induction ps generalizing w with
  | nil =>
    refine ⟨held, fun f impossible => ?_⟩
    cases impossible
  | cons p ps ih =>
    obtain ⟨heldNext, jobNext⟩ := invariant.finish held (started p (by simp))
    have one := finish_start c p w
    rw [Build.inOrder, Action.andThen]
    rcases result : buildOne c p w with ⟨f | built, w₁⟩
    · rw [result] at one
      obtain ⟨before, failed⟩ := one
      rw [failed] at heldNext jobNext
      refine ⟨heldNext, fun g same => ?_⟩
      obtain rfl := Except.error.inj same
      exact ⟨_, jobNext, rfl⟩
    · rw [result] at one
      rw [one.2] at heldNext
      have ended := ih heldNext fun q member => started q (by simp [member])
      dsimp only
      rw [Action.andThen]
      rcases later : Build.inOrder c ps w₁ with ⟨f | rest, w₂⟩
      · rw [later] at ended
        exact ⟨ended.world, ended.failure⟩
      · rw [later] at ended
        refine ⟨ended.world, fun f impossible => ?_⟩
        cases impossible

theorem Invariant.timed (invariant : Invariant c world job) {work : Action (List PackageTimings)}
    (ended : Ended world job (work w.readWall.2)) : Ended world job (timed work w) := by
  rw [Build.timed]
  dsimp only
  rcases result : work w.readWall.2 with ⟨f | built, w₁⟩
  · rw [result] at ended
    refine ⟨ended.world, fun g same => ?_⟩
    obtain rfl := Except.error.inj same
    exact ended.failure f rfl
  · rw [result] at ended
    refine ⟨invariant.readWall w₁ ended.world, fun f impossible => ?_⟩
    cases impossible

/-- What holds at the start and is kept by every step holds at the end of a run, and the failure of a run is that of some
job. -/
theorem Invariant.runBy (invariant : Invariant c world job) (held : world w) (started : ∀ p ∈ ps, job (.start p))
    (jobs : Nat) (schedule : List Nat) : Ended world job (runBy c jobs schedule ps w) := by
  have heldRead := invariant.readWall w held
  rw [Build.runBy]
  split
  · exact invariant.timed (invariant.inOrder heldRead started)
  · exact invariant.timed (invariant.together heldRead started jobs schedule)

end Invariant

section Finished

variable {c : ModuleCompiler} {ps : List Package} {w w' : World} {crew crew' : Crew}

theorem steps_package (c : ModuleCompiler) (n : Nat) (j : Job) (w : World) :
    (Job.steps c n j w).1.package = j.package := by
  induction n generalizing j w with
  | zero => rfl
  | succ n ih => exact (ih _ _).trans (step_package c j w)

/-- A crew with the jobs of these packages, none of which failed as long as the crew has no failure. -/
structure Crew.Sound (ps : List Package) (crew : Crew) : Prop where
  packages : crew.jobs.map Job.package = ps
  sound : crew.failure = none → ∀ j ∈ crew.jobs, ∀ f, j.phase ≠ .failed f

theorem Crew.Sound.move (sound : crew.Sound ps) (moves : Crew.Moves c crew crew') : crew'.Sound ps := by
  obtain ⟨i, j, m, found, rfl⟩ := moves
  constructor
  · obtain ⟨inside, here⟩ := List.getElem?_eq_some_iff.1 found
    have insideP : i < (crew.jobs.map Job.package).length := by rwa [List.length_map]
    have same : (crew.jobs.map Job.package)[i] = j.package := by rw [List.getElem_map, here]
    rw [update_jobs, List.map_set, steps_package, ← same, List.set_getElem_self, sound.packages]
  · intro failure k member f
    rw [update_jobs] at member
    rw [Crew.update] at failure
    split at failure
    · cases failure
    · rename_i other
      rcases List.mem_or_eq_of_mem_set member with member | rfl
      · exact sound.sound failure k member f
      · intro failed
        exact other f failed failure

theorem Crew.Sound.reaches (sound : crew.Sound ps) (reaches : Relation.ReflTransGen (Crew.Moves c) crew crew') :
    crew'.Sound ps := by
  induction reaches with
  | refl => exact sound
  | tail _ moves sound => exact sound.move moves

/-- Packages that were all built: their jobs, started on the world `w`, came to a good end, and this is the report on
them. -/
def AllBuilt (c : ModuleCompiler) (ps : List Package) (w : World) (report : Report) (w' : World) : Prop :=
  ∃ crew, Relation.ReflTransGen (Crew.Moves c) (Crew.start ps w) crew ∧ crew.jobs.map Job.package = ps ∧
    (∀ j ∈ crew.jobs, j.phase = .finished) ∧ report.packages = crew.jobs.map (fun j => ⟨j.package, j.timings⟩) ∧
    w'.disk = crew.world.disk

theorem allBuilt_of_together {limit : Nat} {schedule : List Nat} {report : Report}
    (success : timed (together c limit schedule ps) w = (.ok report, w')) :
    AllBuilt c ps w.readWall.2 report w' := by
  obtain ⟨built, w₁, done, rfl, rfl⟩ := timed_eq_ok.1 success
  have reaches := follow_reaches c limit schedule (Crew.start ps w.readWall.2)
  have settled := follow_isOver c limit schedule (Crew.start ps w.readWall.2)
  have begun : (Crew.start ps w.readWall.2).Sound ps := by
    refine ⟨by simp [Crew.start, Function.comp_def, Job.start], fun _ j member f => ?_⟩
    obtain ⟨p, -, rfl⟩ := List.mem_map.1 member
    simp [Job.start]
  have sound := begun.reaches reaches
  rw [together, Crew.outcome] at done
  split at done
  · cases done
  · rename_i failure
    obtain ⟨result, rfl⟩ := Prod.mk.inj done
    obtain rfl := Except.ok.inj result
    refine ⟨_, reaches, sound.packages, fun j member => ?_, rfl, (readWall_same _).1⟩
    have isOver := settled j member
    rw [Job.isOver] at isOver
    split at isOver
    · rename_i finished
      exact finished
    · rename_i f failed
      exact absurd failed (sound.sound failure j member f)
    · cases isOver

/-- A run that ends well has built all its packages. -/
theorem allBuilt_of_runBy {jobs : Nat} {schedule : List Nat} {report : Report}
    (success : runBy c jobs schedule ps w = (.ok report, w')) : AllBuilt c ps w.readWall.2 report w' := by
  rw [runBy] at success
  split at success
  · obtain ⟨built, w₁, done, rest⟩ := timed_eq_ok.1 success
    exact allBuilt_of_together (timed_eq_ok.2 ⟨built, w₁, (together_nil_eq_ok 1).2 done, rest⟩)
  · exact allBuilt_of_together success

end Finished

end Distill.Build
