import Distill.Proofs.Build.Accounting
import Distill.Proofs.Build.Interleaving

/-!
Several packages at a time of which one cannot be built. The first failure cancels the others, but it came about before
that: it is what its package fails with when it is built alone (`Genuine.move`). So the canceled packages cannot
hide it.
-/
namespace Distill.Build

variable {c : ModuleCompiler} {w w' : World} {p : Package} {ps : List Package} {f : Failure}

section Alone

/-- Alone, a job comes to fail exactly if its package cannot be built in one go. -/
theorem steps_failed_iff :
    (∃ n, (Job.steps c n (.start p) w).1.phase = .failed f) ↔ ∃ v, buildPackage c p w = (.error f, v) := by
  have finished := finish_start c p w
  obtain ⟨settled, m, finish⟩ := finish_isOver c (.start p) w
  rcases built : buildPackage c p w with ⟨g | timings, v⟩
  · rw [buildOne, built] at finished
    obtain ⟨before, failed⟩ := finished
    rw [finish] at failed settled
    constructor
    · rintro ⟨n, stopped⟩
      have isOver : (Job.steps c n (.start p) w).1.isOver = true := by rw [Job.isOver, stopped]
      rw [steps_eq_of_isOver isOver settled, failed, Phase.failed.injEq] at stopped
      exact ⟨v, by rw [stopped]⟩
    · rintro ⟨v', same⟩
      obtain ⟨same, -⟩ := Prod.mk.inj same
      exact ⟨m, by rw [failed, Except.error.inj same]⟩
  · rw [buildOne, built] at finished
    rw [finish] at finished settled
    constructor
    · rintro ⟨n, stopped⟩
      have isOver : (Job.steps c n (.start p) w).1.isOver = true := by rw [Job.isOver, stopped]
      rw [steps_eq_of_isOver isOver settled, finished.2] at stopped
      cases stopped
    · rintro ⟨v', impossible⟩
      cases impossible

/-- Whether a package can be built, and what it fails with, does not depend on the time. -/
theorem buildPackage_eq_error_congr {v : World} (free : w.disk.tree.LinkFree) (disk : v.disk = w.disk)
    (canceled : v.canceled = w.canceled) :
    (∃ v', buildPackage c p v = (.error f, v')) ↔ ∃ w', buildPackage c p w = (.error f, w') := by
  obtain ⟨base, names, located, -⟩ := exists_located v.disk.cwd p
  have same : SameView (base ++ names) v w := by
    refine ⟨by rw [disk], canceled, by rw [disk]; exact free, free, ?_⟩
    rw [disk]
    exact .refl _ _
  rw [← steps_failed_iff, ← steps_failed_iff]
  refine exists_congr fun n => ?_
  have inStep := (steps_lockstep (c := c) located same (j := .start p) trivial (.refl _) n).1
  exact inStep.alike.phase.failed_iff f

end Alone

section Calm

theorem after_canceled {α : Type} {j : Job} {a : Except Failure α × World} {next : α → Job} :
    (j.after a next).2.canceled = a.2.canceled := by
  obtain ⟨result, world⟩ := a
  cases result <;> rfl

/-- Nothing but the compiler cancels a run while a job makes a step. -/
theorem step_canceled (calm : ∀ path, c.cancels path = false) (j : Job) (w : World) :
    (j.step c w).2.canceled = w.canceled := by
  obtain ⟨package, phase, timings⟩ := j
  cases phase with
  | removing =>
    rw [Job.step, after_canceled, removeOutput]
    split <;> rfl
  | listing => rfl
  | preparing todo =>
    cases todo with
    | nil => rfl
    | cons source todo =>
      rw [Job.step, after_canceled, prepare]
      split
      · rfl
      · dsimp only
        split <;> rfl
  | compiling source watch todo =>
    rw [Job.step, after_canceled, compileSource, calm, Bool.or_false]
    dsimp only
    split
    · rfl
    · split <;> rfl
  | storing source watch output todo =>
    rw [Job.step, after_canceled, store]
    dsimp only
    split <;> rfl
  | finished | failed => rfl

theorem steps_canceled (calm : ∀ path, c.cancels path = false) (n : Nat) (j : Job) (w : World) :
    (Job.steps c n j w).2.canceled = w.canceled := by
  induction n generalizing j w with
  | zero => rfl
  | succ n ih => exact (ih _ _).trans (step_canceled calm j w)

end Calm

/-- A crew in which nothing went wrong so far, or the first thing that did is what a package fails with alone. -/
structure Genuine (c : ModuleCompiler) (w₀ : World) (ps : List Package) (crew : Crew) : Prop where
  running : crew.failure = none → Mirror c w₀ ps crew
  failed : ∀ f, crew.failure = some f → ∃ p ∈ ps, ∃ v, buildPackage c p w₀ = (.error f, v)

section Crew

variable {w₀ : World} {crew crew' : Crew}

theorem update_failure (crew : Crew) (i : Nat) {r : Job × World} (already : crew.failure = some f) :
    (crew.update i r).failure = some f := by
  rw [Crew.update]
  split
  · rename_i none
    rw [already] at none
    cases none
  · exact already

/-- A failure that comes about while nothing went wrong is one of its own package. -/
theorem Genuine.move (genuine : Genuine c w₀ ps crew)
    (apart : ps.Pairwise fun p q => Apart (p.site w₀.disk.cwd) (q.site w₀.disk.cwd))
    (calm : ∀ path, c.cancels path = false) (moves : Crew.Moves c crew crew') : Genuine c w₀ ps crew' := by
  obtain ⟨i, j, m, found, rfl⟩ := moves
  cases already : crew.failure with
  | some f =>
    -- the first failure is kept
    have kept := update_failure crew i (r := Job.steps c m j crew.world) already
    refine ⟨fun none => ?_, fun g failed => ?_⟩
    · rw [kept] at none
      cases none
    · rw [kept, Option.some.injEq] at failed
      exact genuine.failed g (failed ▸ already)
  | none =>
    have mirror := genuine.running already
    by_cases sound : ∀ f, (Job.steps c m j crew.world).1.phase ≠ .failed f
    · have running := (steps_canceled calm m j crew.world).trans mirror.running
      refine ⟨fun _ => mirror.update apart found m sound running, fun f failed => ?_⟩
      rw [update_of_sound crew i sound, already] at failed
      cases failed
    · obtain ⟨f, failed⟩ := not_forall_not.1 sound
      have now : (crew.update i (Job.steps c m j crew.world)).failure = some f := by
        rw [Crew.update, failed, already]
      refine ⟨fun none => ?_, fun g same => ?_⟩
      · rw [now] at none
        cases none
      · rw [now, Option.some.injEq] at same
        subst same
        obtain ⟨inside, -⟩ := List.getElem?_eq_some_iff.1 found
        have insideP : i < ps.length := mirror.length ▸ inside
        obtain ⟨n, tracks⟩ := mirror.tracks i _ j (List.getElem?_eq_getElem insideP) found
        obtain ⟨next, -⟩ := tracks.steps mirror.cwd m
        exact ⟨_, List.getElem_mem insideP, steps_failed_iff.1 ⟨n + m, (next.alike.phase.failed_iff f).1 failed⟩⟩

theorem Genuine.reaches (genuine : Genuine c w₀ ps crew)
    (apart : ps.Pairwise fun p q => Apart (p.site w₀.disk.cwd) (q.site w₀.disk.cwd))
    (calm : ∀ path, c.cancels path = false) (reaches : Relation.ReflTransGen (Crew.Moves c) crew crew') :
    Genuine c w₀ ps crew' := by
  induction reaches with
  | refl => exact genuine
  | tail _ moves genuine => exact genuine.move apart calm moves

theorem genuine_start (c : ModuleCompiler) (free : w₀.disk.tree.LinkFree) (running : w₀.canceled = false)
    (ps : List Package) : Genuine c w₀ ps (Crew.start ps w₀) := by
  refine ⟨fun _ => mirror_start c free running ps, fun f failed => ?_⟩
  cases failed

/-- If nothing went wrong by the time that all jobs are over, each package can be built alone. -/
theorem Mirror.buildPackage_ne_error (mirror : Mirror c w₀ ps crew) (settled : ∀ j ∈ crew.jobs, j.isOver = true)
    (member : p ∈ ps) {v : World} : buildPackage c p w₀ ≠ (.error f, v) := by
  intro failed
  obtain ⟨n, stopped⟩ := steps_failed_iff.2 ⟨v, failed⟩
  exact (mirror.steady settled p member n).1 f stopped

end Crew

/-- Several packages at a time, before the clock of the run is read. -/
theorem together_genuine (free : w.disk.tree.LinkFree)
    (apart : ps.Pairwise fun p q => Apart (p.site w.disk.cwd) (q.site w.disk.cwd)) (running : w.canceled = false)
    (calm : ∀ path, c.cancels path = false) (limit : Nat) (schedule : List Nat) :
    (∀ f w', together c limit schedule ps w = (.error f, w') → ∃ p ∈ ps, ∃ v, buildPackage c p w = (.error f, v)) ∧
      ∀ built w', together c limit schedule ps w = (.ok built, w') →
        ∀ p ∈ ps, ∀ f v, buildPackage c p w ≠ (.error f, v) := by
  have genuine := (genuine_start c free running ps).reaches apart calm (follow_reaches c limit schedule _)
  have settled := follow_isOver c limit schedule (Crew.start ps w)
  rw [together, Crew.outcome]
  generalize (Crew.start ps w).follow c limit schedule = crew at genuine settled
  cases failure : crew.failure with
  | none =>
    refine ⟨fun f w' impossible => ?_, fun built w' _ p member f v => ?_⟩
    · cases impossible
    · exact (genuine.running failure).buildPackage_ne_error settled member
  | some g =>
    refine ⟨fun f w' failed => ?_, fun built w' impossible => ?_⟩
    · obtain rfl := Except.error.inj (Prod.mk.inj failed).1
      exact genuine.failed g failure
    · cases impossible

/-- Packages that are neither equal nor nested, built several at a time with their steps in any order, while nobody else
cancels the run: it fails if and only if one of them cannot be built alone, and then with what such a package fails with
alone. -/
theorem together_failure (free : w.disk.tree.LinkFree)
    (apart : ps.Pairwise fun p q => Apart (p.site w.disk.cwd) (q.site w.disk.cwd)) (running : w.canceled = false)
    (calm : ∀ path, c.cancels path = false) (limit : Nat) (schedule : List Nat) :
    ((∃ f w', timed (together c limit schedule ps) w = (.error f, w')) ↔
      ∃ p ∈ ps, ∃ f v, buildPackage c p w = (.error f, v)) ∧
    ∀ f w', timed (together c limit schedule ps) w = (.error f, w') →
      ∃ p ∈ ps, ∃ v, buildPackage c p w = (.error f, v) := by
  obtain ⟨disk, canceled, -⟩ := readWall_same w
  have freeRead : w.readWall.2.disk.tree.LinkFree := disk ▸ free
  have apartRead : ps.Pairwise fun p q => Apart (p.site w.readWall.2.disk.cwd) (q.site w.readWall.2.disk.cwd) :=
    disk ▸ apart
  obtain ⟨failing, succeeding⟩ := together_genuine freeRead apartRead (canceled.trans running) calm limit schedule
  have genuine : ∀ f w', timed (together c limit schedule ps) w = (.error f, w') →
      ∃ p ∈ ps, ∃ v, buildPackage c p w = (.error f, v) := by
    intro f w' failed
    obtain ⟨p, member, alone⟩ := failing f w' (timed_eq_error.1 failed)
    exact ⟨p, member, (buildPackage_eq_error_congr free disk canceled).1 alone⟩
  refine ⟨⟨?_, ?_⟩, genuine⟩
  · rintro ⟨f, w', failed⟩
    obtain ⟨p, member, v, alone⟩ := genuine f w' failed
    exact ⟨p, member, f, v, alone⟩
  · rintro ⟨p, member, f, v, alone⟩
    obtain ⟨v', again⟩ := (buildPackage_eq_error_congr free disk canceled).2 ⟨v, alone⟩
    rcases worked : together c limit schedule ps w.readWall.2 with ⟨g | built, w'⟩
    · exact ⟨g, w', timed_eq_error.2 worked⟩
    · exact absurd again (succeeding built w' worked p member f v')

/-- The second package fails while the first one is under way. The first one is canceled then, as the log says, but the
run fails with what the second one fails with. -/
theorem together_failure_sample :
    ∃ w', timed (together Sample.strict 2 [0, 0, 1, 1, 0, 1, 1] [⟨"/", "a"⟩, ⟨"/", "b"⟩]) Sample.world =
        (.error (.fault (.malformed "/b/x.ts" 1 1 "no module")), w') ∧
      ⟨.error, "package failed", [("package", .text "a"), ("error", .text "context canceled")]⟩ ∈ w'.log ∧
      ∃ p ∈ [Package.mk "/" "a", ⟨"/", "b"⟩], ∃ v, buildPackage Sample.strict p Sample.world =
        (.error (.fault (.malformed "/b/x.ts" 1 1 "no module")), v) := by
  have free : Sample.world.disk.tree.LinkFree := by decide +kernel
  have apart : [Package.mk "/" "a", Package.mk "/" "b"].Pairwise fun p q =>
      Apart (p.site Sample.world.disk.cwd) (q.site Sample.world.disk.cwd) := by
    unfold Apart
    decide +kernel
  have failure : (timed (together Sample.strict 2 [0, 0, 1, 1, 0, 1, 1] [⟨"/", "a"⟩, ⟨"/", "b"⟩])
      Sample.world).1.map (fun _ => ()) = .error (.fault (.malformed "/b/x.ts" 1 1 "no module")) := by decide +kernel
  have logged : ⟨.error, "package failed", [("package", .text "a"), ("error", .text "context canceled")]⟩ ∈
      (timed (together Sample.strict 2 [0, 0, 1, 1, 0, 1, 1] [⟨"/", "a"⟩, ⟨"/", "b"⟩]) Sample.world).2.log := by
    decide +kernel
  rcases worked : timed (together Sample.strict 2 [0, 0, 1, 1, 0, 1, 1] [⟨"/", "a"⟩, ⟨"/", "b"⟩])
    Sample.world with ⟨f | report, w'⟩
  · rw [worked] at failure logged
    obtain rfl := Except.error.inj failure
    exact ⟨w', rfl, logged, (together_failure free apart rfl (fun _ => rfl) 2 _).2 _ w' worked⟩
  · rw [worked] at failure
    cases failure

end Distill.Build
