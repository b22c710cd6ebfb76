import Distill.Build.Run
import Distill.Proofs.Build.Job

/-!
Jobs that are brought to their end. The steps of a job come to an end (`finish_isOver`), and then the job has done what
building its package in one go does (`finish_start`). Only the last step hands in records (`step_recorded`).
-/
namespace Distill.Build

variable {c : ModuleCompiler} {j : Job} {w : World}

theorem steps_add (m n : Nat) (j : Job) (w : World) :
    Job.steps c (m + n) j w = Job.steps c n (Job.steps c m j w).1 (Job.steps c m j w).2 := by
  induction m generalizing j w with
  | zero => rw [Nat.zero_add]; rfl
  | succ m ih => rw [Nat.succ_add]; exact ih _ _

theorem step_of_isOver (settled : j.isOver = true) : j.step c w = (j, w) := by
  obtain ⟨package, phase, timings⟩ := j
  cases phase <;> first | rfl | cases settled

theorem steps_of_isOver (settled : j.isOver = true) (n : Nat) : Job.steps c n j w = (j, w) := by
  induction n with
  | zero => rfl
  | succ n ih =>
    change Job.steps c n (j.step c w).1 (j.step c w).2 = (j, w)
    rw [step_of_isOver settled, ih]

/-- The phases a step can lead to. -/
inductive Phase.Next : Phase → Phase → Prop
  | listing : Next .removing .listing
  | preparing (found : List String) : Next .listing (.preparing found)
  | finished : Next (.preparing []) .finished
  | compiling (source : String) (watch : Stopwatch) (todo : List String) :
    Next (.preparing (source :: todo)) (.compiling source watch todo)
  | storing (source : String) (watch : Stopwatch) (output : Text.Bytes) (todo : List String) :
    Next (.compiling source watch todo) (.storing source watch output todo)
  | stored (source : String) (watch : Stopwatch) (output : Text.Bytes) (todo : List String) :
    Next (.storing source watch output todo) (.preparing todo)
  | failed (phase : Phase) (f : Failure) : Next phase (.failed f)
  | settled : Next .finished .finished

private theorem after_next {α : Type} (j : Job) (a : Except Failure α × World) {next : α → Job}
    (ok : ∀ x, Phase.Next j.phase (next x).phase) : Phase.Next j.phase (j.after a next).1.phase := by
  obtain ⟨result, world⟩ := a
  cases result with
  | ok x => exact ok x
  | error f => exact .failed _ f

theorem step_next (c : ModuleCompiler) (j : Job) (w : World) : Phase.Next j.phase (j.step c w).1.phase := by
  obtain ⟨package, phase, timings⟩ := j
  cases phase with
  | removing => exact after_next ⟨package, .removing, timings⟩ (removeOutput package w) fun _ => .listing
  | listing => exact .preparing _
  | preparing todo =>
    cases todo with
    | nil => exact .finished
    | cons source todo =>
      exact after_next ⟨package, _, timings⟩ (prepare package source w) fun watch => .compiling source watch todo
  | compiling source watch todo =>
    exact after_next ⟨package, _, timings⟩ (compileSource c package source w) fun output => .storing source watch output todo
  | storing source watch output todo =>
    exact after_next ⟨package, _, timings⟩ (store package source watch output w) fun _ => .stored source watch output todo
  | finished => exact .settled
  | failed f => exact .failed _ f

/-- Whether the sources of a job are listed, or it failed before. -/
def Job.isListed (j : Job) : Bool :=
  match j.phase with
  | .removing | .listing => false
  | _ => true

theorem two_steps_isListed (c : ModuleCompiler) (j : Job) (w : World) : (Job.steps c 2 j w).1.isListed = true := by
  have first := step_next c j w
  have second := step_next c (j.step c w).1 (j.step c w).2
  change ((j.step c w).1.step c (j.step c w).2).1.isListed = true
  rw [Job.isListed]
  generalize (j.step c w).1.phase = middle at first second
  generalize ((j.step c w).1.step c (j.step c w).2).1.phase = last at second
  generalize j.phase = before at first
  cases second with
  | listing => cases first
  | preparing | finished | compiling | storing | stored | failed | settled => rfl

/-- With its sources listed, a job has one step less to go after a step, or it is over. -/
theorem stepsLeft_step (c : ModuleCompiler) {j : Job} (w : World) (listed : j.isListed = true) :
    (j.step c w).1.isListed = true ∧
      ((j.step c w).1.isOver = true ∨ (j.step c w).1.stepsLeft + 1 = j.stepsLeft) := by
  have next := step_next c j w
  rw [Job.isListed] at listed ⊢
  rw [Job.isOver, Job.stepsLeft, Job.stepsLeft]
  generalize (j.step c w).1.phase = after at next
  generalize j.phase = before at next listed
  cases next with
  | listing | preparing => cases listed
  | finished | failed | settled => exact ⟨rfl, Or.inl rfl⟩
  | compiling | storing | stored => exact ⟨rfl, Or.inr rfl⟩

theorem isOver_of_stepsLeft (listed : j.isListed = true) (n : Nat) (enough : j.stepsLeft ≤ n) :
    (Job.steps c n j w).1.isOver = true := by
  induction n generalizing j w with
  | zero =>
    obtain ⟨package, phase, timings⟩ := j
    cases phase with
    | removing | listing => cases listed
    | finished | failed => rfl
    | preparing | compiling | storing => simp [Job.stepsLeft] at enough
  | succ n ih =>
    change (Job.steps c n (j.step c w).1 (j.step c w).2).1.isOver = true
    obtain ⟨listedNext, settled | fewer⟩ := stepsLeft_step c w listed
    · rw [steps_of_isOver settled]
      exact settled
    · exact ih listedNext (by omega)

/-- A job that is brought to its end makes some number of steps, and it is over then. -/
theorem finish_isOver (c : ModuleCompiler) (j : Job) (w : World) :
    (j.finish c w).1.isOver = true ∧ ∃ n, j.finish c w = Job.steps c n j w :=
  ⟨isOver_of_stepsLeft (two_steps_isListed c j w) _ (Nat.le_refl _),
    2 + (Job.steps c 2 j w).1.stepsLeft, (steps_add 2 _ j w).symm⟩

/-- The sources of a job are compiled step by step as they are in one go. -/
theorem steps_compileFiles (c : ModuleCompiler) (p : Package) (todo : List String) (earlier : List Timing) (w : World) :
    match compileFiles c p todo w with
    | (.ok timings, w') =>
      Job.steps c (3 * todo.length + 1) ⟨p, .preparing todo, earlier⟩ w =
        Job.succeed ⟨p, .preparing [], earlier ++ timings⟩ w'
    | (.error f, w') =>
      ∃ before, Job.steps c (3 * todo.length + 1) ⟨p, .preparing todo, earlier⟩ w =
        Job.fail ⟨p, .preparing todo, before⟩ f w' := by
  induction todo generalizing earlier w with
  | nil => simp [compileFiles, Job.steps, Job.step]
  | cons s todo ih =>
    have count : 3 * (s :: todo).length + 1 = 3 + (3 * todo.length + 1) := by
      rw [List.length_cons]
      omega
    rw [compileFiles, compileFile, Action.andThen, Action.andThen, count]
    rcases prepared : prepare p s w with ⟨f | watch, w₁⟩
    · have first : Job.steps c 3 ⟨p, .preparing (s :: todo), earlier⟩ w =
          Job.fail ⟨p, .preparing (s :: todo), earlier⟩ f w₁ := by
        simp [Job.steps, Job.step, Job.after, prepared, Job.fail]
      exact ⟨earlier, by rw [steps_add, first, steps_of_isOver rfl]⟩
    · dsimp only
      rw [Action.andThen]
      rcases compiled : compileSource c p s w₁ with ⟨f | output, w₂⟩
      · have first : Job.steps c 3 ⟨p, .preparing (s :: todo), earlier⟩ w =
            Job.fail ⟨p, .preparing (s :: todo), earlier⟩ f w₂ := by
          simp [Job.steps, Job.step, Job.after, prepared, compiled, Job.fail]
        exact ⟨earlier, by rw [steps_add, first, steps_of_isOver rfl]⟩
      · dsimp only
        rcases stored : store p s watch output w₂ with ⟨f | timing, w₃⟩
        · have first : Job.steps c 3 ⟨p, .preparing (s :: todo), earlier⟩ w =
              Job.fail ⟨p, .preparing (s :: todo), earlier⟩ f w₃ := by
            simp [Job.steps, Job.step, Job.after, prepared, compiled, stored, Job.fail]
          exact ⟨earlier, by rw [steps_add, first, steps_of_isOver rfl]⟩
        · have first : Job.steps c 3 ⟨p, .preparing (s :: todo), earlier⟩ w =
              (⟨p, .preparing todo, earlier ++ [timing]⟩, w₃) := by
            simp [Job.steps, Job.step, Job.after, prepared, compiled, stored]
          have rest := ih (earlier ++ [timing]) w₃
          dsimp only
          rw [Action.andThen, steps_add, first]
          rcases later : compileFiles c p todo w₃ with ⟨f | timings, w₄⟩
          · rw [later] at rest
            exact rest
          · rw [later] at rest
            simpa using rest

/-- A job that is brought to its end does what building its package in one go does. -/
theorem finish_start (c : ModuleCompiler) (p : Package) (w : World) :
    match buildOne c p w with
    | (.ok built, w') => built.package = p ∧ (Job.start p).finish c w = (⟨p, .finished, built.timings⟩, w')
    | (.error f, w') => ∃ before, (Job.start p).finish c w = (⟨p, .failed f, before⟩, w') := by
  rw [buildOne, buildPackage, Action.andThen]
  rcases removed : removeOutput p w with ⟨f | _, w₁⟩
  · refine ⟨[], ?_⟩
    have first : Job.steps c 2 (Job.start p) w = Job.fail (Job.start p) f w₁ := by
      simp [Job.steps, Job.step, Job.start, Job.after, removed, Job.fail]
    rw [Job.finish, first]
    rfl
  · dsimp only
    rw [Action.andThen]
    rcases listed : listSources p w₁ with ⟨f | found, w₂⟩
    · simp [listSources] at listed
    · have first : Job.steps c 2 (Job.start p) w = (⟨p, .preparing found, []⟩, w₂) := by
        simp [Job.steps, Job.step, Job.start, Job.after, removed, listed]
      have rest := steps_compileFiles c p found [] w₂
      dsimp only
      rw [Job.finish, first]
      rcases compiled : compileFiles c p found w₂ with ⟨f | timings, w₃⟩
      · rw [compiled] at rest
        obtain ⟨before, eq⟩ := rest
        exact ⟨before, eq⟩
      · rw [compiled] at rest
        exact ⟨rfl, rest⟩

/-- What every step keeps but the last one of a job: the records collected, and a run that is canceled. -/
structure Passive (w w' : World) : Prop where
  collector : w'.collector = w.collector
  canceled : w.canceled = true → w'.canceled = true

theorem removeOutput_passive (p : Package) (w : World) : Passive w (removeOutput p w).2 := by
  rw [removeOutput]
  split <;> exact ⟨rfl, id⟩

theorem prepare_passive (p : Package) (source : String) (w : World) : Passive w (prepare p source w).2 := by
  rw [prepare]
  split
  · exact ⟨rfl, id⟩
  · dsimp only
    split <;> exact ⟨rfl, id⟩

theorem compileSource_passive (c : ModuleCompiler) (p : Package) (source : String) (w : World) :
    Passive w (compileSource c p source w).2 := by
  have canceled : w.canceled = true → (w.canceled || c.cancels (sourcePath p source)) = true := by
    intro canceled
    rw [canceled, Bool.true_or]
  rw [compileSource]
  dsimp only
  split
  · exact ⟨rfl, canceled⟩
  · split <;> exact ⟨rfl, canceled⟩

theorem store_passive (p : Package) (source : String) (watch : Stopwatch) (output : Text.Bytes) (w : World) :
    Passive w (store p source watch output w).2 := by
  rw [store]
  dsimp only
  split <;> exact ⟨rfl, id⟩

theorem after_passive {α : Type} {j : Job} {a : Except Failure α × World} {next : α → Job} (passive : Passive w a.2) :
    Passive w (j.after a next).2 := by
  obtain ⟨result, world⟩ := a
  cases result <;> exact ⟨passive.collector, passive.canceled⟩

/-- How many records a job has handed in. -/
def Job.recorded (j : Job) : Nat :=
  match j.phase with
  | .finished => j.timings.length
  | _ => 0

private theorem after_recorded {α : Type} {j : Job} (a : Except Failure α × World) {next : α → Job}
    (none : ∀ x, (next x).recorded = 0) : (j.after a next).1.recorded = 0 := by
  obtain ⟨result, world⟩ := a
  cases result with
  | ok x => exact none x
  | error f => rfl

/-- A step hands in records only when it ends a job, and it never calls a run off that was canceled. -/
theorem step_recorded (c : ModuleCompiler) (j : Job) (w : World) :
    (j.step c w).2.collector.records.length + j.recorded = w.collector.records.length + (j.step c w).1.recorded ∧
      (w.canceled = true → (j.step c w).2.canceled = true) := by
  have passively {b : Job × World} (passive : Passive w b.2) (none : b.1.recorded = 0) :
      b.2.collector.records.length + 0 = w.collector.records.length + b.1.recorded ∧
        (w.canceled = true → b.2.canceled = true) := by
    rw [none, passive.collector]
    exact ⟨rfl, passive.canceled⟩
  obtain ⟨package, phase, timings⟩ := j
  cases phase with
  | removing =>
    exact passively (after_passive (removeOutput_passive package w))
      (after_recorded _ fun _ => rfl)
  | listing => exact ⟨rfl, id⟩
  | preparing todo =>
    cases todo with
    | nil => exact ⟨by simp [Job.step, Job.succeed, Job.recorded, World.note, Collector.append], id⟩
    | cons source todo =>
      exact passively (after_passive (prepare_passive package source w))
        (after_recorded _ fun _ => rfl)
  | compiling source watch todo =>
    exact passively
      (after_passive (compileSource_passive c package source w)) (after_recorded _ fun _ => rfl)
  | storing source watch output todo =>
    exact passively
      (after_passive (store_passive package source watch output w)) (after_recorded _ fun _ => rfl)
  | finished | failed => exact ⟨rfl, id⟩

theorem steps_recorded (c : ModuleCompiler) (n : Nat) (j : Job) (w : World) :
    (Job.steps c n j w).2.collector.records.length + j.recorded =
        w.collector.records.length + (Job.steps c n j w).1.recorded ∧
      (w.canceled = true → (Job.steps c n j w).2.canceled = true) := by
  induction n generalizing j w with
  | zero => exact ⟨rfl, id⟩
  | succ n ih =>
    obtain ⟨count, canceled⟩ := step_recorded c j w
    obtain ⟨countRest, canceledRest⟩ := ih (j.step c w).1 (j.step c w).2
    refine ⟨?_, fun before => canceledRest (canceled before)⟩
    change (Job.steps c n (j.step c w).1 (j.step c w).2).2.collector.records.length + j.recorded =
      w.collector.records.length + (Job.steps c n (j.step c w).1 (j.step c w).2).1.recorded
    omega

end Distill.Build
