import Mathlib.Algebra.BigOperators.Group.List.Basic
import Mathlib.Algebra.Ring.Int.Defs
import Distill.Timing

/-!
Totals, and a collector that many callers share. A total counts its records and adds up their durations in 64 bits, in
whatever order they come (`Total.ofList_perm`). Each call on a collector is one step; once every caller has made all its
calls, in whatever order they took turns, the collector holds what the calls handed in, one call after another
(`Shared.run_eq_some_iff`).
-/
namespace Distill

namespace Total

theorem files_ofList (rs : List Timing) : (ofList rs).files = rs.length := by
  have counted : ∀ (rs : List Timing) (t : Total), (rs.foldl add t).files = t.files + rs.length := by
    intro rs
    induction rs with
    | nil => simp
    | cons r rs ih =>
      intro t
      rw [List.foldl_cons, ih, add, List.length_cons]
      push_cast
      omega
  rw [ofList, counted]
  simp [zero]

/-- Durations are added up in 64 bits. -/
theorem elapsed_ofList (rs : List Timing) :
    (ofList rs).elapsed.toInt = Int.bmod (rs.map fun r => r.elapsed.toInt).sum Int64.size := by
  have wraps : ∀ a b : Duration, (a + b).toInt = (a.toInt + b.toInt).bmod Int64.size := Int64.toInt_add
  have added : ∀ (rs : List Timing) (t : Total), (rs.foldl add t).elapsed.toInt =
      (t.elapsed.toInt + (rs.map fun r => r.elapsed.toInt).sum).bmod Int64.size := by
    intro rs
    induction rs with
    | nil =>
      intro t
      rw [List.foldl_nil, List.map_nil, List.sum_nil, Int.add_zero]
      exact (Int64.toInt_bmod _).symm
    | cons r rs ih =>
      intro t
      rw [List.foldl_cons, ih, add, wraps, List.map_cons, List.sum_cons, Int.bmod_add_bmod, Int.add_assoc]
  rw [ofList, added]
  simp [zero]

theorem eq_of_toInt {t u : Total} (files : t.files = u.files) (elapsed : t.elapsed.toInt = u.elapsed.toInt) : t = u := by
  cases t
  cases u
  rw [mk.injEq]
  exact ⟨files, Int64.toInt_inj.1 elapsed⟩

/-- The order of the records makes no difference, whether or not the sum wraps around on the way. -/
theorem ofList_perm {rs ss : List Timing} (order : rs.Perm ss) : ofList rs = ofList ss := by
  apply eq_of_toInt
  · rw [files_ofList, files_ofList, order.length_eq]
  · rw [elapsed_ofList, elapsed_ofList, (order.map _).sum_eq]

theorem ofList_append (rs ss : List Timing) :
    ofList (rs ++ ss) = ⟨(ofList rs).files + (ofList ss).files, (ofList rs).elapsed + (ofList ss).elapsed⟩ := by
  have wraps : ∀ a b : Duration, (a + b).toInt = (a.toInt + b.toInt).bmod Int64.size := Int64.toInt_add
  apply eq_of_toInt
  · dsimp only
    rw [files_ofList, files_ofList, files_ofList, List.length_append, Int.natCast_add]
  · rw [wraps, elapsed_ofList, elapsed_ofList, elapsed_ofList, List.map_append, List.sum_append, Int.bmod_add_bmod,
      Int.add_bmod_bmod]

end Total

namespace Collector

/-- A call on a collector that callers share: to add one record, or to append several at once. -/
inductive Call where
  | add (r : Timing)
  | append (rs : List Timing)
deriving DecidableEq, Repr

/-- The records that a call hands in. -/
def Call.records : Call → List Timing
  | add r => [r]
  | append rs => rs

def perform (c : Collector) : Call → Collector
  | .add r => c.add r
  | .append rs => c.append rs

theorem perform_eq (c : Collector) (call : Call) : c.perform call = ⟨c.records ++ call.records⟩ := by
  cases call <;> rfl

/-- A collector, and the calls that each of its callers has yet to make. -/
structure Shared where
  collector : Collector
  waiting : List (List Call)
deriving DecidableEq, Repr

/-- Calls with their callers, in the order in which they are made: those of each caller are the ones it had to make, in
its own order. -/
def Interleaves (made : List (Nat × Call)) (callers : List (List Call)) : Prop :=
  ∀ i, (made.filter fun m => m.1 = i).map Prod.snd = callers[i]?.getD []

theorem getElem?_of_interleaves {i : Nat} {call : Call} {made : List (Nat × Call)} {callers : List (List Call)}
    (interleaves : Interleaves ((i, call) :: made) callers) : ∃ rest, callers[i]? = some (call :: rest) := by
  have own := interleaves i
  rw [List.filter_cons_of_pos (by simp), List.map_cons] at own
  cases found : callers[i]? with
  | none => simp [found] at own
  | some calls =>
    rw [found, Option.getD_some] at own
    exact ⟨_, congrArg some own.symm⟩

theorem interleaves_cons {i : Nat} {call : Call} {rest : List Call} {callers : List (List Call)}
    (next : callers[i]? = some (call :: rest)) (made : List (Nat × Call)) :
    Interleaves ((i, call) :: made) callers ↔ Interleaves made (callers.set i rest) := by
  have inside : i < callers.length := (List.getElem?_eq_some_iff.1 next).1
  refine forall_congr' fun j => ?_
  by_cases same : i = j
  · subst same
    rw [List.filter_cons_of_pos (by simp), next, List.getElem?_set_self inside]
    simp
  · rw [List.filter_cons_of_neg (by simpa using same), List.getElem?_set_ne same]

theorem interleaves_nil_iff {callers : List (List Call)} : Interleaves [] callers ↔ ∀ calls ∈ callers, calls = [] := by
  constructor
  · intro interleaves calls member
    obtain ⟨i, found⟩ := List.mem_iff_getElem?.1 member
    have own := interleaves i
    rw [found] at own
    exact own.symm
  · intro idle i
    cases found : callers[i]? with
    | none => rfl
    | some calls => exact (idle calls (List.mem_of_getElem? found)).symm

namespace Shared

/-- The caller at an index makes its next call, if it has one. -/
def step (s : Shared) (i : Nat) : Option Shared :=
  match s.waiting[i]? with
  | some (call :: rest) => some ⟨s.collector.perform call, s.waiting.set i rest⟩
  | _ => none

/-- The callers take turns as a schedule says. -/
def run (s : Shared) (schedule : List Nat) : Option Shared := schedule.foldlM step s

/-- No caller has a call left. -/
def Done (s : Shared) : Prop := ∀ calls ∈ s.waiting, calls = []

instance (s : Shared) : Decidable s.Done := List.decidableBAll (fun calls => calls = []) s.waiting

/-- The records that are there or still to come, those to come in the order of the callers. -/
def all (s : Shared) : List Timing := s.collector.records ++ s.waiting.flatten.flatMap Call.records

variable {s t : Shared} {i : Nat} {schedule : List Nat}

theorem step_eq_some_iff : s.step i = some t ↔ ∃ call rest, s.waiting[i]? = some (call :: rest) ∧
    t = ⟨⟨s.collector.records ++ call.records⟩, s.waiting.set i rest⟩ := by
  rw [step.eq_def]
  split
  · rename_i call rest found
    rw [perform_eq, Option.some.injEq]
    constructor
    · rintro rfl
      exact ⟨call, rest, found, rfl⟩
    · rintro ⟨other, more, same, rfl⟩
      rw [found, Option.some.injEq, List.cons.injEq] at same
      rw [same.1, same.2]
  · rename_i none
    constructor
    · rintro ⟨⟩
    · rintro ⟨call, rest, found, -⟩
      exact absurd found (none call rest)

theorem run_cons_eq_some_iff : s.run (i :: schedule) = some t ↔ ∃ u, s.step i = some u ∧ u.run schedule = some t := by
  rw [run, List.foldlM_cons]
  exact Option.bind_eq_some_iff

/-- A call moves its records from those to come to those that are there. -/
theorem all_step (stepped : s.step i = some t) : t.all.Perm s.all := by
  obtain ⟨call, rest, found, rfl⟩ := step_eq_some_iff.1 stepped
  obtain ⟨inside, here⟩ := List.getElem?_eq_some_iff.1 found
  have before : s.waiting = s.waiting.take i ++ (call :: rest) :: s.waiting.drop (i + 1) := by
    rw [← here, List.getElem_cons_drop, List.take_append_drop]
  have after : s.waiting.set i rest = s.waiting.take i ++ rest :: s.waiting.drop (i + 1) :=
    List.set_eq_take_append_cons_drop.trans (if_pos inside)
  -- the call heads its caller's part; taking it from there to the front changes nothing else
  have moved : (call :: (s.waiting.set i rest).flatten).Perm s.waiting.flatten := by
    rw [after]
    nth_rewrite 3 [before]
    simpa using List.perm_middle.symm
  have handed := (moved.flatMap_right Call.records).append_left s.collector.records
  rwa [List.flatMap_cons, ← List.append_assoc] at handed

theorem all_run (ran : s.run schedule = some t) : t.all.Perm s.all := by
  induction schedule generalizing s with
  | nil =>
    obtain rfl := Option.some.inj ran
    exact .refl _
  | cons i schedule ih =>
    obtain ⟨u, stepped, later⟩ := run_cons_eq_some_iff.1 ran
    exact (ih later).trans (all_step stepped)

theorem all_of_done (done : s.Done) : s.all = s.collector.records := by
  rw [all, List.flatten_eq_nil_iff.2 done, List.flatMap_nil, List.append_nil]

theorem done_iff : s.Done ↔ s.waiting = List.replicate s.waiting.length [] := by
  rw [List.eq_replicate_iff, and_iff_right rfl, Done]

/-- The schedules that let every caller finish are the interleavings of their calls, and what they leave is what the calls
hand in, one after another. -/
theorem run_eq_some_iff : s.run schedule = some t ∧ t.Done ↔ ∃ made, made.map Prod.fst = schedule ∧
    Interleaves made s.waiting ∧
    t = ⟨⟨s.collector.records ++ made.flatMap fun m => m.2.records⟩, List.replicate s.waiting.length []⟩ := by
  -- the first turn is taken on `s`, the others on what it leaves with one call less to make
  induction schedule generalizing s with
  | nil =>
    have stays : s.run [] = some t ↔ t = s := by rw [run, List.foldlM_nil, Option.pure_def, Option.some.injEq, eq_comm]
    rw [stays]
    constructor
    · rintro ⟨rfl, done⟩
      exact ⟨[], rfl, interleaves_nil_iff.2 done, by rw [List.flatMap_nil, List.append_nil, ← done_iff.1 done]⟩
    · rintro ⟨made, none, interleaves, rfl⟩
      obtain rfl := List.map_eq_nil_iff.1 none
      have done : s.Done := interleaves_nil_iff.1 interleaves
      rw [List.flatMap_nil, List.append_nil, ← done_iff.1 done]
      exact ⟨rfl, done⟩
  | cons i schedule ih =>
    constructor
    · rintro ⟨ran, done⟩
      obtain ⟨u, stepped, later⟩ := run_cons_eq_some_iff.1 ran
      obtain ⟨call, rest, found, rfl⟩ := step_eq_some_iff.1 stepped
      obtain ⟨made, rfl, interleaves, rfl⟩ := ih.1 ⟨later, done⟩
      refine ⟨(i, call) :: made, rfl, (interleaves_cons found made).2 interleaves, ?_⟩
      rw [List.flatMap_cons, List.length_set, List.append_assoc]
    · rintro ⟨made, turns, interleaves, rfl⟩
      obtain ⟨⟨j, call⟩, made, rfl, rfl, rfl⟩ := List.map_eq_cons_iff.1 turns
      obtain ⟨rest, found⟩ := getElem?_of_interleaves interleaves
      have stepped := step_eq_some_iff.2 ⟨call, rest, found, rfl⟩
      have later := (ih (s := ⟨⟨s.collector.records ++ call.records⟩, s.waiting.set j rest⟩)).2
        ⟨made, rfl, (interleaves_cons found made).1 interleaves, by
          rw [List.flatMap_cons, List.length_set, List.append_assoc]⟩
      exact ⟨run_cons_eq_some_iff.2 ⟨_, stepped, later.1⟩, later.2⟩

end Shared

/-- What a collector is left with by callers that take turns by a schedule until all their calls are made. -/
structure Gathered (c : Collector) (callers : List (List Call)) (schedule : List Nat) (c' : Collector) : Prop where
  /-- What was there stays in front. Behind it each call has handed in its records in one piece, after those of the calls
  that its caller made before. -/
  order : ∃ made, made.map Prod.fst = schedule ∧ Interleaves made callers ∧
    c'.records = c.records ++ made.flatMap fun m => m.2.records
  once : c'.records.Perm (c.records ++ callers.flatten.flatMap Call.records)
  /-- The total does not depend on the schedule. -/
  files : c'.total.files = (c.records ++ callers.flatten.flatMap Call.records).length
  elapsed : c'.total.elapsed.toInt =
    Int.bmod ((c.records ++ callers.flatten.flatMap Call.records).map fun r => r.elapsed.toInt).sum Int64.size

theorem gathered_of_run {c : Collector} {callers : List (List Call)} {schedule : List Nat} {s : Shared}
    (ran : Shared.run ⟨c, callers⟩ schedule = some s) (done : s.Done) : Gathered c callers schedule s.collector := by
  have once : s.collector.records.Perm (c.records ++ callers.flatten.flatMap Call.records) :=
    Shared.all_of_done done ▸ Shared.all_run ran
  obtain ⟨made, turns, interleaves, rfl⟩ := Shared.run_eq_some_iff.1 ⟨ran, done⟩
  refine ⟨⟨made, turns, interleaves, rfl⟩, once, ?_, ?_⟩
  · rw [total, Total.ofList_perm once, Total.files_ofList]
  · rw [total, Total.ofList_perm once, Total.elapsed_ofList]

namespace Sample

def before : Collector := ⟨[⟨"a.ts", 5⟩]⟩

/-- Two callers whose records together take longer than 64 bits can tell. -/
def callers : List (List Call) :=
  [[.add ⟨"b.ts", Int64.maxValue⟩, .append [⟨"c.ts", 1⟩, ⟨"d.ts", 2⟩]], [.append [], .add ⟨"e.ts", Int64.maxValue⟩]]

def after : Collector := ⟨[⟨"a.ts", 5⟩, ⟨"b.ts", Int64.maxValue⟩, ⟨"e.ts", Int64.maxValue⟩, ⟨"c.ts", 1⟩, ⟨"d.ts", 2⟩]⟩

end Sample

/-- However callers take turns, a shared collector neither loses nor doubles a record, keeps each call's records together
and each caller's in order, and has the same total; and every interleaving of their calls can come about. Totals of parts
add up, and the order within a part makes no difference. -/
theorem shared_gathers (c : Collector) (callers : List (List Call)) :
    (∀ schedule s, Shared.run ⟨c, callers⟩ schedule = some s → s.Done → Gathered c callers schedule s.collector) ∧
    (∀ made, Interleaves made callers → ∃ s, Shared.run ⟨c, callers⟩ (made.map Prod.fst) = some s ∧ s.Done) ∧
    (∀ rs ss, Total.ofList (rs ++ ss) =
      ⟨(Total.ofList rs).files + (Total.ofList ss).files, (Total.ofList rs).elapsed + (Total.ofList ss).elapsed⟩) ∧
    ∀ rs ss : List Timing, rs.Perm ss → Total.ofList rs = Total.ofList ss := by
  refine ⟨fun _ _ => gathered_of_run, ?_, Total.ofList_append, fun _ _ => Total.ofList_perm⟩
  intro made interleaves
  exact ⟨_, Shared.run_eq_some_iff.2 ⟨made, rfl, interleaves, rfl⟩⟩

theorem shared_gathers_overflow :
    Shared.run ⟨Sample.before, Sample.callers⟩ [1, 0, 1, 0] = some ⟨Sample.after, [[], []]⟩ ∧
    Gathered Sample.before Sample.callers [1, 0, 1, 0] Sample.after ∧ Sample.after.total = ⟨5, 6⟩ := by
  have ran : Shared.run ⟨Sample.before, Sample.callers⟩ [1, 0, 1, 0] = some ⟨Sample.after, [[], []]⟩ := by decide
  exact ⟨ran, (shared_gathers _ _).1 _ _ ran (by decide), by decide⟩

end Collector

end Distill
