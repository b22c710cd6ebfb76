import Mathlib.Algebra.GroupWithZero.Nat
import Mathlib.Logic.Relation
import Distill.Proofs.Build.Finish

/-!
Jobs of packages that are neither equal nor nested do not see each other: whatever their order, each job of a crew is
where its package would be if it were built alone (`Mirror`). So all orders that succeed end in the same way
(`Mirror.disk_eq`).
-/
namespace Distill.Build

/-- Neither of two locations lies at or below the other. -/
def Apart (k l : Location) : Prop := ¬ k <+: l ∧ ¬ l <+: k

theorem Apart.symm {k l : Location} (apart : Apart k l) : Apart l k := ⟨apart.2, apart.1⟩

theorem Agree.trans {site : Location} {t u v : FileTree} (first : Agree site t u) (second : Agree site u v) :
    Agree site t v :=
  ⟨fun k above => (first.above k above).trans (second.above k above),
    fun k below => (first.output k below).trans (second.output k below),
    fun r content source => (first.sources r content source).trans (second.sources r content source)⟩

/-- What happens in the output directory of a package cannot be seen from a package apart from it. -/
theorem agree_of_apart {site other : Location} {t u : FileTree} (apart : Apart site other)
    (frame : ∀ k, ¬ other ++ ["dist"] <+: k → u.get? k = t.get? k) : Agree site u t := by
  have outside {k : Location} (related : k <+: site ∨ site <+: k) : ¬ other ++ ["dist"] <+: k := by
    intro below
    have below := (List.prefix_append other ["dist"]).trans below
    rcases related with above | inside
    · exact apart.2 (below.trans above)
    · rcases List.prefix_or_prefix_of_prefix below inside with nested | nested
      · exact apart.2 nested
      · exact apart.1 nested
  refine ⟨fun k above => frame k (outside (.inl above)), fun k below => frame k (outside (.inr ?_)), ?_⟩
  · exact (List.prefix_append site ["dist"]).trans below
  · intro r content source
    rw [frame _ (outside (.inr (List.prefix_append _ _)))]

/-- A job is where its package would be after `n` steps if it were built alone on the world `w₀`. -/
structure Tracks (c : ModuleCompiler) (w₀ : World) (p : Package) (w : World) (j : Job) (n : Nat) : Prop where
  package : j.package = p
  ready : j.phase.Ready w.disk.tree p (p.site w₀.disk.cwd)
  alike : j.Alike (Job.steps c n (.start p) w₀).1
  same : SameView (p.site w₀.disk.cwd) w (Job.steps c n (.start p) w₀).2

section Tracks

variable {c : ModuleCompiler} {w₀ w w' : World} {p : Package} {j : Job} {n : Nat}

/-- A job goes on as its package would alone. -/
theorem Tracks.steps (tracks : Tracks c w₀ p w j n) (cwd : w.disk.cwd = w₀.disk.cwd) (m : Nat) :
    Tracks c w₀ p (Job.steps c m j w).2 (Job.steps c m j w).1 (n + m) ∧
      Framed (p.site w₀.disk.cwd) w (Job.steps c m j w).2 := by
  obtain ⟨base, names, located, site⟩ := exists_located w₀.disk.cwd p
  obtain ⟨rfl, ready, alike, same⟩ := tracks
  rw [site] at ready same
  obtain ⟨inStep, package, readyNext⟩ := steps_lockstep (c := c) (cwd ▸ located) same ready alike m
  rw [← steps_add] at inStep
  exact ⟨⟨package, site ▸ readyNext, inStep.alike, site ▸ inStep.same⟩, site ▸ inStep.framed⟩

/-- A job stays where it is while others go on apart from it. -/
theorem Tracks.other (tracks : Tracks c w₀ p w j n) {site : Location} (apart : Apart (p.site w₀.disk.cwd) site)
    (framed : Framed site w w') (free : w'.disk.tree.LinkFree) (running : w'.canceled = false) :
    Tracks c w₀ p w' j n := by
  have agree : Agree (p.site w₀.disk.cwd) w'.disk.tree w.disk.tree := agree_of_apart apart framed.entries
  obtain ⟨package, ready, alike, same⟩ := tracks
  refine ⟨package, ready.agree agree.symm (.refl _), alike, ?_⟩
  exact ⟨framed.cwd.trans same.cwd, running.trans ((framed.canceled running).symm.trans same.canceled), free,
    same.linkFree', agree.trans same.agree⟩

end Tracks

/-- A crew in which each job is where its package would be if it were built alone, and nothing went wrong so far. -/
structure Mirror (c : ModuleCompiler) (w₀ : World) (ps : List Package) (crew : Crew) : Prop where
  length : crew.jobs.length = ps.length
  tracks : ∀ (i : Nat) (p : Package) (j : Job), ps[i]? = some p → crew.jobs[i]? = some j → ∃ n, Tracks c w₀ p crew.world j n
  sound : ∀ j ∈ crew.jobs, ∀ f, j.phase ≠ .failed f
  failure : crew.failure = none
  running : crew.world.canceled = false
  cwd : crew.world.disk.cwd = w₀.disk.cwd
  linkFree : crew.world.disk.tree.LinkFree
  frame : ∀ k, (∀ p ∈ ps, ¬ p.site w₀.disk.cwd ++ ["dist"] <+: k) →
    crew.world.disk.tree.get? k = w₀.disk.tree.get? k
  collected : crew.world.collector.records.length =
    w₀.collector.records.length + (crew.jobs.map Job.recorded).sum

section Mirror

variable {c : ModuleCompiler} {w₀ : World} {ps : List Package} {crew : Crew}

theorem mirror_start (c : ModuleCompiler) (free : w₀.disk.tree.LinkFree) (running : w₀.canceled = false)
    (ps : List Package) : Mirror c w₀ ps (Crew.start ps w₀) where
  length := by simp [Crew.start]
  tracks i p j foundP found := by
    have eq : j = Job.start p := by simpa [Crew.start, foundP] using found.symm
    rw [eq]
    exact ⟨0, rfl, trivial, .refl _, .refl free⟩
  sound j member f := by
    obtain ⟨p, -, rfl⟩ := List.mem_map.1 member
    simp [Job.start]
  failure := rfl
  running := running
  cwd := rfl
  linkFree := free
  frame _ _ := rfl
  collected := by
    have none : (Crew.start ps w₀).jobs.map Job.recorded = List.replicate ps.length 0 := by
      simp [Crew.start, Function.comp_def, Job.recorded, Job.start]
    rw [none, List.sum_replicate_nat, Nat.mul_zero]
    rfl

theorem sum_recorded_set {jobs : List Job} {i : Nat} {j : Job} (found : jobs[i]? = some j) (j' : Job) :
    ((jobs.set i j').map Job.recorded).sum + j.recorded = (jobs.map Job.recorded).sum + j'.recorded := by
  induction jobs generalizing i with
  | nil => cases found
  | cons first rest ih =>
    cases i with
    | zero =>
      obtain rfl : first = j := by simpa using found
      simp only [List.set_cons_zero, List.map_cons, List.sum_cons]
      omega
    | succ i =>
      have := ih (i := i) (by simpa using found)
      simp only [List.set_cons_succ, List.map_cons, List.sum_cons]
      omega

theorem update_of_sound (crew : Crew) (i : Nat) {r : Job × World} (sound : ∀ f, r.1.phase ≠ .failed f) :
    crew.update i r = ⟨crew.jobs.set i r.1, r.2, crew.failure⟩ := by
  rw [Crew.update]
  split
  · rename_i f phase _
    exact absurd phase (sound f)
  · rfl

/-- Some steps of one job, if nothing goes wrong in them, leave each job where its package would be. -/
theorem Mirror.update (mirror : Mirror c w₀ ps crew)
    (apart : ps.Pairwise fun p q => Apart (p.site w₀.disk.cwd) (q.site w₀.disk.cwd)) {i : Nat} {j : Job}
    (found : crew.jobs[i]? = some j) (m : Nat) (sound : ∀ f, (Job.steps c m j crew.world).1.phase ≠ .failed f)
    (running : (Job.steps c m j crew.world).2.canceled = false) :
    Mirror c w₀ ps (crew.update i (Job.steps c m j crew.world)) := by
  obtain ⟨inside, -⟩ := List.getElem?_eq_some_iff.1 found
  have insideP : i < ps.length := mirror.length ▸ inside
  have foundP : ps[i]? = some ps[i] := List.getElem?_eq_getElem insideP
  obtain ⟨n, tracks⟩ := mirror.tracks i _ j foundP found
  obtain ⟨next, framed⟩ := tracks.steps mirror.cwd m
  obtain ⟨count, -⟩ := steps_recorded c m j crew.world
  rw [update_of_sound crew i sound]
  refine ⟨?_, ?_, ?_, mirror.failure, running, framed.cwd.trans mirror.cwd, next.same.linkFree, ?_, ?_⟩
  · rw [List.length_set, mirror.length]
  · intro i' p' j' foundP' found'
    by_cases here : i' = i
    · subst here
      rw [foundP, Option.some.injEq] at foundP'
      rw [List.getElem?_set_self inside, Option.some.injEq] at found'
      subst foundP' found'
      exact ⟨n + m, next⟩
    · rw [List.getElem?_set_ne (Ne.symm here)] at found'
      obtain ⟨n', tracks'⟩ := mirror.tracks i' p' j' foundP' found'
      obtain ⟨insideP', eq⟩ := List.getElem?_eq_some_iff.1 foundP'
      have apartHere : Apart (p'.site w₀.disk.cwd) (ps[i].site w₀.disk.cwd) := by
        rw [List.pairwise_iff_getElem] at apart
        rcases Nat.lt_or_gt_of_ne here with before | after
        · exact eq ▸ apart i' i insideP' insideP before
        · exact eq ▸ (apart i i' insideP insideP' after).symm
      exact ⟨n', tracks'.other apartHere framed next.same.linkFree running⟩
  · intro j' member f
    rcases List.mem_or_eq_of_mem_set member with member | rfl
    · exact mirror.sound j' member f
    · exact sound f
  · intro k outside
    rw [framed.entries k (outside _ (List.getElem_mem insideP)), mirror.frame k outside]
  · have total := sum_recorded_set found (Job.steps c m j crew.world).1
    have collected := mirror.collected
    dsimp only
    omega

end Mirror

/-- One crew comes from another by some steps of one job. -/
def Crew.Moves (c : ModuleCompiler) (crew crew' : Crew) : Prop :=
  ∃ (i : Nat) (j : Job) (m : Nat), crew.jobs[i]? = some j ∧ crew' = crew.update i (Job.steps c m j crew.world)

section Moves

variable {c : ModuleCompiler} {w₀ : World} {ps : List Package} {crew crew' : Crew}

theorem update_jobs (crew : Crew) (i : Nat) (r : Job × World) : (crew.update i r).jobs = crew.jobs.set i r.1 := by
  rw [Crew.update]
  split <;> rfl

/-- What went wrong in a crew stays wrong. -/
theorem Crew.Moves.quiet (moves : Crew.Moves c crew crew') (failure : crew'.failure = none)
    (running : crew'.world.canceled = false) : crew.failure = none ∧ crew.world.canceled = false := by
  obtain ⟨i, j, m, -, rfl⟩ := moves
  have keep := (steps_recorded c m j crew.world).2
  rw [Crew.update] at failure running
  split at failure
  · cases failure
  · rename_i other
    refine ⟨failure, ?_⟩
    have after : (Job.steps c m j crew.world).2.canceled = false := by
      split at running
      · cases running
      · exact running
    by_contra canceled
    rw [keep (by simpa using canceled)] at after
    cases after

theorem Mirror.move (mirror : Mirror c w₀ ps crew)
    (apart : ps.Pairwise fun p q => Apart (p.site w₀.disk.cwd) (q.site w₀.disk.cwd))
    (moves : Crew.Moves c crew crew') (failure : crew'.failure = none) (running : crew'.world.canceled = false) :
    Mirror c w₀ ps crew' := by
  obtain ⟨i, j, m, found, rfl⟩ := moves
  have sound : ∀ f, (Job.steps c m j crew.world).1.phase ≠ .failed f := by
    intro f failed
    rw [Crew.update, failed, mirror.failure] at failure
    cases failure
  rw [update_of_sound crew i sound] at running
  exact mirror.update apart found m sound running

theorem Mirror.reaches (mirror : Mirror c w₀ ps crew)
    (apart : ps.Pairwise fun p q => Apart (p.site w₀.disk.cwd) (q.site w₀.disk.cwd))
    (reaches : Relation.ReflTransGen (Crew.Moves c) crew crew') (failure : crew'.failure = none)
    (running : crew'.world.canceled = false) : Mirror c w₀ ps crew' := by
  induction reaches with
  | refl => exact mirror
  | tail _ moves ih =>
    obtain ⟨failureBefore, runningBefore⟩ := moves.quiet failure running
    exact (ih failureBefore runningBefore).move apart moves failure running

/-- A package that can be built alone: it does not fail, and the run is not canceled meanwhile. -/
def Steady (c : ModuleCompiler) (w₀ : World) (p : Package) : Prop :=
  ∀ n, (∀ f, (Job.steps c n (.start p) w₀).1.phase ≠ .failed f) ∧ (Job.steps c n (.start p) w₀).2.canceled = false

theorem Phase.Alike.failed_iff {phase phase' : Phase} (alike : Phase.Alike phase phase') (f : Failure) :
    phase = .failed f ↔ phase' = .failed f := by
  cases alike <;> simp

/-- If each package can be built alone, nothing goes wrong whatever the order. -/
theorem Mirror.reaches_of_steady (mirror : Mirror c w₀ ps crew)
    (apart : ps.Pairwise fun p q => Apart (p.site w₀.disk.cwd) (q.site w₀.disk.cwd))
    (steady : ∀ p ∈ ps, Steady c w₀ p) (reaches : Relation.ReflTransGen (Crew.Moves c) crew crew') :
    Mirror c w₀ ps crew' := by
  induction reaches with
  | refl => exact mirror
  | @tail middle last _ moves mirror =>
    obtain ⟨i, j, m, found, rfl⟩ := moves
    obtain ⟨inside, -⟩ := List.getElem?_eq_some_iff.1 found
    have insideP : i < ps.length := mirror.length ▸ inside
    obtain ⟨n, tracks⟩ := mirror.tracks i _ j (List.getElem?_eq_getElem insideP) found
    obtain ⟨next, -⟩ := tracks.steps mirror.cwd m
    obtain ⟨sound, running⟩ := steady _ (List.getElem_mem insideP) (n + m)
    refine mirror.update apart found m (fun f failed => ?_) (next.same.canceled.trans running)
    exact sound f ((next.alike.phase.failed_iff f).1 failed)

theorem step_reaches (c : ModuleCompiler) (limit : Nat) (crew : Crew) (i : Nat) :
    Relation.ReflTransGen (Crew.Moves c) crew (crew.step c limit i) := by
  rw [Crew.step]
  split
  · rename_i j found
    split
    · exact .single ⟨i, j, 1, found, rfl⟩
    · exact .refl
  · exact .refl

theorem finishJob_reaches (c : ModuleCompiler) (crew : Crew) (i : Nat) :
    Relation.ReflTransGen (Crew.Moves c) crew (crew.finishJob c i) := by
  rw [Crew.finishJob]
  split
  · rename_i j found
    obtain ⟨-, n, finish⟩ := finish_isOver c j crew.world
    exact .single ⟨i, j, n, found, by rw [finish]⟩
  · exact .refl

private theorem foldl_reaches {next : Crew → Nat → Crew}
    (one : ∀ crew i, Relation.ReflTransGen (Crew.Moves c) crew (next crew i)) (indices : List Nat) (crew : Crew) :
    Relation.ReflTransGen (Crew.Moves c) crew (indices.foldl next crew) := by
  induction indices generalizing crew with
  | nil => exact .refl
  | cons i indices ih => exact (one crew i).trans (ih _)

theorem follow_reaches (c : ModuleCompiler) (limit : Nat) (schedule : List Nat) (crew : Crew) :
    Relation.ReflTransGen (Crew.Moves c) crew (crew.follow c limit schedule) :=
  (foldl_reaches (step_reaches c limit) schedule crew).trans (foldl_reaches (finishJob_reaches c) _ _)

private theorem foldl_finishJob (c : ModuleCompiler) (indices : List Nat) (crew : Crew) :
    (indices.foldl (Crew.finishJob c) crew).jobs.length = crew.jobs.length ∧
      ∀ (i : Nat) (j : Job), (indices.foldl (Crew.finishJob c) crew).jobs[i]? = some j →
        (i ∈ indices ∨ ∃ before, crew.jobs[i]? = some before ∧ before.isOver = true) → j.isOver = true := by
  induction indices generalizing crew with
  | nil =>
    refine ⟨rfl, ?_⟩
    rintro i j found (none | ⟨before, foundBefore, settled⟩)
    · cases none
    · rw [List.foldl_nil, foundBefore, Option.some.injEq] at found
      exact found ▸ settled
  | cons first rest ih =>
    obtain ⟨length, settled⟩ := ih (crew.finishJob c first)
    rw [List.foldl_cons]
    have jobs : (crew.finishJob c first).jobs.length = crew.jobs.length ∧
        ∀ (i : Nat), (i = first ∨ ∃ before, crew.jobs[i]? = some before ∧ before.isOver = true) →
          ∀ j, (crew.finishJob c first).jobs[i]? = some j → j.isOver = true := by
      rw [Crew.finishJob]
      split
      · rename_i job found
        have overJob := (finish_isOver c job crew.world).1
        rw [update_jobs, List.length_set]
        refine ⟨rfl, ?_⟩
        intro i known j foundJ
        by_cases here : i = first
        · obtain ⟨inside, -⟩ := List.getElem?_eq_some_iff.1 found
          rw [here, List.getElem?_set_self inside, Option.some.injEq] at foundJ
          exact foundJ ▸ overJob
        · obtain ⟨before, foundBefore, overBefore⟩ := known.resolve_left here
          rw [List.getElem?_set_ne (Ne.symm here), foundBefore, Option.some.injEq] at foundJ
          exact foundJ ▸ overBefore
      · rename_i none
        refine ⟨rfl, ?_⟩
        rintro i (rfl | ⟨before, foundBefore, overBefore⟩) j foundJ
        · rw [none] at foundJ
          cases foundJ
        · rw [foundBefore, Option.some.injEq] at foundJ
          exact foundJ ▸ overBefore
    refine ⟨length.trans jobs.1, ?_⟩
    intro i j found known
    refine settled i j found ?_
    by_cases later : i ∈ rest
    · exact Or.inl later
    · right
      obtain ⟨inside, -⟩ := List.getElem?_eq_some_iff.1 found
      have foundNow := List.getElem?_eq_getElem (length ▸ inside)
      refine ⟨_, foundNow, jobs.2 i ?_ _ foundNow⟩
      rcases known with member | before
      · exact Or.inl ((List.mem_cons.1 member).resolve_right later)
      · exact Or.inr before

/-- At the end of a run every job is over. -/
theorem follow_isOver (c : ModuleCompiler) (limit : Nat) (schedule : List Nat) (crew : Crew) :
    ∀ j ∈ (crew.follow c limit schedule).jobs, j.isOver = true := by
  intro j member
  obtain ⟨i, found⟩ := List.mem_iff_getElem?.1 member
  rw [Crew.follow] at found
  obtain ⟨length, settled⟩ := foldl_finishJob c (List.range (schedule.foldl (Crew.step c limit) crew).jobs.length)
    (schedule.foldl (Crew.step c limit) crew)
  obtain ⟨inside, -⟩ := List.getElem?_eq_some_iff.1 found
  exact settled i j found (Or.inl (List.mem_range.2 (length ▸ inside)))

end Moves

end Distill.Build
