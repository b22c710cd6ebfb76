import Distill.Proofs.Build.Accounting
import Distill.Proofs.Timing

/-!
The times of a run that builds one package after another with one clock for everything, which moves by one step with every
reading. A file takes two readings (`compileFile_ticks`), so the times of a run are known from the number of its files
(`run_times`).
-/
namespace Distill.Build

section Ticks

variable {c : ModuleCompiler} {p : Package} {s : String} {w w' : World}

/-- A stretch of a run in which the clock was read a number of times. A clock for the whole run alone was not read. -/
structure Ticks (readings : Nat) (w w' : World) : Prop where
  clock : w'.clock = w.clock.after readings
  wallClock : w'.wallClock = w.wallClock

theorem Ticks.refl (w : World) : Ticks 0 w w := ⟨w.clock.after_zero.symm, rfl⟩

theorem Ticks.trans {m n : Nat} {w'' : World} (first : Ticks m w w') (second : Ticks n w' w'') : Ticks (m + n) w w'' := by
  refine ⟨?_, second.wallClock.trans first.wallClock⟩
  rw [second.clock, first.clock, Clock.after_after]

theorem prepare_ticks {watch : Stopwatch} (success : prepare p s w = (.ok watch, w')) :
    Ticks 1 w w' ∧ watch.opened = w.clock.now := by
  rw [prepare] at success
  split at success
  · cases success
  · dsimp only at success
    split at success
    · obtain ⟨result, rfl⟩ := Prod.mk.inj success
      obtain rfl := Except.ok.inj result
      exact ⟨⟨w.clock.read_eq, rfl⟩, rfl⟩
    · cases success

theorem compileSource_ticks (c : ModuleCompiler) (p : Package) (s : String) (w : World) :
    Ticks 0 w (compileSource c p s w).2 := by
  rw [compileSource]
  dsimp only
  split
  · exact ⟨w.clock.after_zero.symm, rfl⟩
  · split <;> exact ⟨w.clock.after_zero.symm, rfl⟩

theorem store_ticks {watch : Stopwatch} {output : Text.Bytes} {timing : Timing}
    (success : store p s watch output w = (.ok timing, w')) :
    Ticks 1 w w' ∧ timing.elapsed = Duration.between watch.opened w.clock.now := by
  rw [store] at success
  dsimp only at success
  split at success
  · obtain ⟨result, rfl⟩ := Prod.mk.inj success
    obtain rfl := Except.ok.inj result
    exact ⟨⟨w.clock.read_eq, rfl⟩, rfl⟩
  · cases success

theorem Ticks.step {n : Nat} (ticks : Ticks n w w') : w'.clock.step = w.clock.step := by
  rw [ticks.clock]
  rfl

/-- A file takes two readings, with one step between them. -/
theorem compileFile_ticks {timing : Timing} (success : compileFile c p s w = (.ok timing, w')) :
    Ticks 2 w w' ∧ timing.elapsed = w.clock.step := by
  obtain ⟨watch, w₁, prepared, success⟩ := Action.andThen_eq_ok success
  obtain ⟨output, w₂, compiled, stored⟩ := Action.andThen_eq_ok success
  obtain ⟨first, opened⟩ := prepare_ticks prepared
  have second := compileSource_ticks c p s w₁
  rw [compiled] at second
  obtain ⟨third, elapsed⟩ := store_ticks stored
  have between := first.trans second
  refine ⟨between.trans third, ?_⟩
  have one := w.clock.between_after 0 1
  rw [Clock.after_zero] at one
  apply Int64.toInt_inj.1
  rw [elapsed, opened, between.clock, one]
  simpa using Duration.clamped_toInt w.clock.step

theorem compileFiles_ticks {todo : List String} {timings : List Timing}
    (success : compileFiles c p todo w = (.ok timings, w')) :
    Ticks (2 * timings.length) w w' ∧ ∀ t ∈ timings, t.elapsed = w.clock.step := by
  induction todo generalizing w timings with
  | nil =>
    obtain ⟨result, rfl⟩ := Prod.mk.inj success
    obtain rfl := Except.ok.inj result
    exact ⟨.refl w, by simp⟩
  | cons s todo ih =>
    obtain ⟨timing, w₁, first, success⟩ := Action.andThen_eq_ok success
    obtain ⟨others, w₂, rest, success⟩ := Action.andThen_eq_ok success
    obtain ⟨result, rfl⟩ := Prod.mk.inj success
    obtain rfl := Except.ok.inj result
    obtain ⟨two, elapsed⟩ := compileFile_ticks first
    obtain ⟨more, each⟩ := ih rest
    refine ⟨?_, List.forall_mem_cons.2 ⟨elapsed, fun t member => (each t member).trans two.step⟩⟩
    have count : 2 * (timing :: others).length = 2 + 2 * others.length := by
      rw [List.length_cons]
      omega
    exact count ▸ two.trans more

theorem removeOutput_ticks (p : Package) (w : World) : Ticks 0 w (removeOutput p w).2 := by
  rw [removeOutput]
  split <;> exact ⟨w.clock.after_zero.symm, rfl⟩

/-- A package takes two readings for each of its files. -/
theorem buildPackage_ticks {timings : List Timing} (success : buildPackage c p w = (.ok timings, w')) :
    Ticks (2 * timings.length) w w' ∧ ∀ t ∈ timings, t.elapsed = w.clock.step := by
  obtain ⟨_, w₁, removed, success⟩ := Action.andThen_eq_ok success
  obtain ⟨found, w₂, listed, success⟩ := Action.andThen_eq_ok success
  have first := removeOutput_ticks p w
  rw [removed] at first
  have second : Ticks 0 w₁ w₂ := by
    obtain ⟨-, rfl⟩ := Prod.mk.inj listed
    exact ⟨w₁.clock.after_zero.symm, rfl⟩
  have before := first.trans second
  obtain ⟨files, each⟩ := compileFiles_ticks success
  have all := before.trans files
  rw [Nat.add_zero, Nat.zero_add] at all
  exact ⟨all, fun t member => (each t member).trans before.step⟩

/-- The records of some packages. -/
def records (built : List PackageTimings) : List Timing := built.flatMap PackageTimings.timings

theorem Completed.ticks {built : List PackageTimings} (completed : Completed c w built w') :
    Ticks (2 * (records built).length) w w' ∧ ∀ t ∈ records built, t.elapsed = w.clock.step := by
  induction completed with
  | none w => exact ⟨.refl w, by simp [records]⟩
  | @next w w₁ w' p timings rest success _ ih =>
    obtain ⟨first, each⟩ := buildPackage_ticks success
    obtain ⟨more, others⟩ := ih
    have handed : Ticks (2 * timings.length) w (w₁.handedIn p timings) := ⟨first.clock, first.wallClock⟩
    have split : records (⟨p, timings⟩ :: rest) = timings ++ records rest := rfl
    rw [split, List.length_append, Nat.mul_add]
    refine ⟨handed.trans more, fun t member => ?_⟩
    rcases List.mem_append.1 member with member | member
    · exact each t member
    · exact (others t member).trans handed.step

end Ticks

section Run

variable {c : ModuleCompiler} {jobs : Nat} {ps : List Package} {w w' : World} {report : Report}

theorem sum_of_elapsed {rs : List Timing} {d : Duration} (each : ∀ r ∈ rs, r.elapsed = d) :
    (rs.map fun r => r.elapsed.toInt).sum = rs.length * d.toInt := by
  induction rs with
  | nil => simp
  | cons r rs ih =>
    rw [List.map_cons, List.sum_cons, ih fun t member => each t (List.mem_cons_of_mem _ member), each r (by simp),
      List.length_cons, Int.natCast_succ, Int.add_mul, Int.one_mul, Int.add_comm]

/-- With one clock for everything, the time of the whole run is read from it as well. -/
theorem readWall_shared (shared : w.wallClock = none) : w.readWall.1 = w.clock.now ∧ Ticks 1 w w.readWall.2 := by
  rw [World.readWall, shared]
  exact ⟨rfl, w.clock.read_eq, shared.symm⟩

theorem wall_of_run (few : jobs < 2) (shared : w.wallClock = none) (success : run c jobs ps w = (.ok report, w')) :
    (∀ t ∈ records report.packages, t.elapsed = w.clock.step) ∧
      report.wall.toInt = Duration.clamped ((2 * (records report.packages).length + 1) * w.clock.step.toInt) := by
  rw [run_of_few few, timed_eq_ok] at success
  obtain ⟨built, v, done, rfl, rfl⟩ := success
  obtain ⟨started, first⟩ := readWall_shared shared
  obtain ⟨files, each⟩ := (inOrder_eq_ok.1 done).2.ticks
  have whole := first.trans files
  obtain ⟨ended, -⟩ := readWall_shared (whole.wallClock.trans shared)
  refine ⟨fun t member => (each t member).trans first.step, ?_⟩
  have measured := w.clock.between_after 0 (1 + 2 * (records built).length)
  rw [Clock.after_zero, ← whole.clock] at measured
  have steps : ((1 + 2 * (records built).length : Nat) : Int) - (0 : Nat) = 2 * (records built).length + 1 := by
    push_cast
    omega
  rw [World.report, started, ended, measured, steps]

/-- The times of a run with one clock for everything, which moves by `d` with every reading: each file takes `d`, the total
is the sum in 64 bits, and from the start to the end of the run the clock moves twice for each file and once more. In general
a record measures as many steps as there are readings from its opening to its closing, clamped to 64 bits. -/
theorem run_times (d : Duration) :
    (∀ c jobs ps w report w', jobs < 2 → w.clock.step = d → w.wallClock = none → w.collector = .empty →
      run c jobs ps w = (.ok report, w') →
        report.total.files = (records report.packages).length ∧
        (∀ t ∈ records report.packages, t.elapsed = d) ∧
        report.total.elapsed.toInt = Int.bmod ((records report.packages).length * d.toInt) Int64.size ∧
        report.wall.toInt = Duration.clamped ((2 * (records report.packages).length + 1) * d.toInt)) ∧
    (∀ (uses : List ClockUse) (b : Bench) (i j : Nat) (file : String), (Bench.fresh (.stepping d)).run uses = some b →
      uses[i]? = some (.start file) → uses[j]? = some (.stop (Bench.starts (uses.take i))) →
        ∃ timing, b.closed[Bench.stops (uses.take j)]? = some timing ∧ timing.file = file ∧
          timing.elapsed.toInt = Duration.clamped ((j - i) * d.toInt)) := by
  constructor
  · rintro c jobs ps w report w' few rfl shared fresh success
    obtain ⟨each, wall⟩ := wall_of_run few shared success
    have books := accounted_of_run few success
    have collected : w.collector.records ++ report.packages.flatMap PackageTimings.timings = records report.packages := by
      rw [fresh]
      rfl
    refine ⟨?_, each, ?_, wall⟩
    · rw [books.files, fresh, records, List.length_flatMap]
      simp [Collector.empty]
    · rw [books.elapsed, collected, sum_of_elapsed each]
  · intro uses b i j file ran opened closed
    exact Bench.elapsed_of_run ran opened closed

namespace Sample

/-- A step with which the time of a whole run does not fit. -/
def slow : World := { world with clock := .stepping Int64.maxValue }

/-- Two records that overlap, and a reading between them. -/
def overlapping : List ClockUse := [.start "a", .start "b", .look, .stop 0, .stop 1, .stop 0]

end Sample

theorem run_times_slow :
    (∃ report w', run Sample.compiler 1 [⟨"/", "a"⟩, ⟨"/", "b"⟩] Sample.slow = (.ok report, w') ∧
      (records report.packages).length = 4 ∧ report.total.elapsed.toInt = Int.bmod (4 * Int64.maxValue.toInt) Int64.size ∧
      report.wall.toInt = Int64.maxValue.toInt) ∧
    ∃ b, (Bench.fresh (.stepping (-5))).run Sample.overlapping = some b ∧
      ∃ timing, b.closed[1]? = some timing ∧ timing.file = "b" ∧ timing.elapsed.toInt = -15 := by
  constructor
  · have files : (run Sample.compiler 1 [⟨"/", "a"⟩, ⟨"/", "b"⟩] Sample.slow).1.toOption.map
        (fun report => (records report.packages).length) = some 4 := by decide +kernel
    rcases ran : run Sample.compiler 1 [⟨"/", "a"⟩, ⟨"/", "b"⟩] Sample.slow with ⟨f | report, w'⟩
    · rw [ran] at files
      cases files
    · rw [ran] at files
      have files : (records report.packages).length = 4 := Option.some.inj files
      obtain ⟨-, -, total, wall⟩ := (run_times Int64.maxValue).1 _ 1 _ Sample.slow report w' (by decide) rfl rfl rfl ran
      rw [files] at total wall
      exact ⟨report, w', rfl, files, total, wall.trans (by decide)⟩
  · have ran : ((Bench.fresh (.stepping (-5))).run Sample.overlapping).isSome = true := by decide
    obtain ⟨b, ran⟩ := Option.isSome_iff_exists.1 ran
    obtain ⟨timing, closed, file, elapsed⟩ := (run_times (-5)).2 Sample.overlapping b 1 4 "b" ran rfl rfl
    exact ⟨b, ran, timing, closed, file, elapsed.trans (by decide)⟩

end Run

end Distill.Build
