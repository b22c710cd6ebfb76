import Mathlib.Algebra.Ring.Int.Defs
import Distill.Proofs.Build.InOrder
import Distill.Proofs.Build.Interrupted

/-!
The books of a run that builds one package after another. As long as packages can be compiled their records are handed
in, in order (`Completed`); the first one that cannot be compiled ends the run and hands in nothing
(`inOrder_eq_error`). Whatever was collected before stays in front (`Completed.collector`).
-/
namespace Distill.Build

section Passive

variable {c : ModuleCompiler} {p : Package} {w w' w'' : World}

theorem Passive.trans (first : Passive w w') (second : Passive w' w'') : Passive w w'' :=
  ⟨second.collector.trans first.collector, fun canceled => second.canceled (first.canceled canceled)⟩

theorem andThen_passive {α β : Type} {a : Action α} {next : α → Action β} (first : ∀ w, Passive w (a w).2)
    (later : ∀ x w, Passive w (next x w).2) (w : World) : Passive w (a.andThen next w).2 := by
  have before := first w
  rw [Action.andThen]
  split
  · rename_i x w₁ result
    rw [result] at before
    exact before.trans (later x w₁)
  · rename_i f w₁ result
    rw [result] at before
    exact before

theorem compileFiles_passive (c : ModuleCompiler) (p : Package) (todo : List String) (w : World) :
    Passive w (compileFiles c p todo w).2 := by
  induction todo generalizing w with
  | nil => exact ⟨rfl, id⟩
  | cons s todo ih =>
    refine andThen_passive (andThen_passive (prepare_passive p s) fun watch => ?_) (fun timing => ?_) w
    · exact andThen_passive (compileSource_passive c p s) fun output => store_passive p s watch output
    · exact andThen_passive ih fun timings w => ⟨rfl, id⟩

/-- Compiling a package hands nothing in by itself. -/
theorem buildPackage_passive (c : ModuleCompiler) (p : Package) (w : World) : Passive w (buildPackage c p w).2 := by
  refine andThen_passive (removeOutput_passive p) (fun _ => ?_) w
  exact andThen_passive (fun _ => ⟨rfl, id⟩) fun found => compileFiles_passive c p found

end Passive

/-- The world once a package was compiled and its records were handed in. -/
def World.handedIn (w : World) (p : Package) (timings : List Timing) : World :=
  (Job.succeed ⟨p, .preparing [], timings⟩ w).2

@[simp] theorem handedIn_disk (w : World) (p : Package) (timings : List Timing) :
    (w.handedIn p timings).disk = w.disk := rfl

@[simp] theorem handedIn_records (w : World) (p : Package) (timings : List Timing) :
    (w.handedIn p timings).collector.records = w.collector.records ++ timings := rfl

/-- Packages that were compiled one after another, each on the world that the ones before it left, with the records that
each of them gave. -/
inductive Completed (c : ModuleCompiler) : World → List PackageTimings → World → Prop
  | none (w : World) : Completed c w [] w
  | next {w w₁ w' : World} {p : Package} {timings : List Timing} {rest : List PackageTimings} :
    buildPackage c p w = (.ok timings, w₁) → Completed c (w₁.handedIn p timings) rest w' →
    Completed c w (⟨p, timings⟩ :: rest) w'

section Completed

variable {c : ModuleCompiler} {p : Package} {ps : List Package} {w w' : World} {built : List PackageTimings}

/-- A run in order ends well exactly if all packages can be compiled in turn. -/
theorem inOrder_eq_ok : inOrder c ps w = (.ok built, w') ↔
    built.map PackageTimings.package = ps ∧ Completed c w built w' := by
  induction ps generalizing w built with
  | nil =>
    constructor
    · intro success
      obtain ⟨result, rfl⟩ := Prod.mk.inj success
      obtain rfl := Except.ok.inj result
      exact ⟨rfl, .none w⟩
    · rintro ⟨packages, completed⟩
      obtain rfl := List.map_eq_nil_iff.1 packages
      cases completed
      rfl
  | cons p ps ih =>
    rw [inOrder_cons_eq_ok]
    constructor
    · rintro ⟨one, w₁, rest, first, later, rfl⟩
      rcases result : buildPackage c p w with ⟨f | timings, v⟩
      · rw [buildOne, result] at first
        cases first
      · rw [buildOne, result, Prod.mk.injEq, Except.ok.injEq] at first
        obtain ⟨rfl, rfl⟩ := first
        obtain ⟨packages, completed⟩ := ih.1 later
        exact ⟨by rw [List.map_cons, packages], .next result completed⟩
    · rintro ⟨packages, completed⟩
      cases completed with
      | none => cases packages
      | next success rest =>
        obtain ⟨rfl, others⟩ := List.cons.inj packages
        refine ⟨_, _, _, ?_, ih.2 ⟨others, rest⟩, rfl⟩
        rw [buildOne, success]
        rfl

/-- A run in order fails exactly if some package cannot be compiled once the ones before it were. What comes after that
package makes no difference. -/
theorem inOrder_eq_error {f : Failure} : inOrder c ps w = (.error f, w') ↔ ∃ built p rest v v',
    ps = built.map PackageTimings.package ++ p :: rest ∧ Completed c w built v ∧
      buildPackage c p v = (.error f, v') ∧ w' = (Job.fail (.start p) f v').2 := by
  induction ps generalizing w with
  | nil => simp [inOrder]
  | cons q ps ih =>
    rw [inOrder, Action.andThen, buildOne]
    rcases result : buildPackage c q w with ⟨g | timings, w₁⟩
    · constructor
      · intro failed
        obtain ⟨same, rfl⟩ := Prod.mk.inj failed
        obtain rfl := Except.error.inj same
        exact ⟨[], q, ps, w, w₁, rfl, .none w, result, rfl⟩
      · rintro ⟨built, p, rest, v, v', split, completed, failed, rfl⟩
        cases completed with
        | none =>
          obtain ⟨rfl, rfl⟩ := List.cons.inj split
          rw [result, Prod.mk.injEq, Except.error.injEq] at failed
          rw [failed.1, failed.2]
        | next success _ =>
          obtain ⟨rfl, -⟩ := List.cons.inj split
          rw [result] at success
          cases success
    · have later : (inOrder c ps).andThen (fun rest w => (.ok (⟨q, timings⟩ :: rest), w)) (w₁.handedIn q timings) =
          (.error f, w') ↔ inOrder c ps (w₁.handedIn q timings) = (.error f, w') := by
        rw [Action.andThen]
        split <;> rename_i ordered <;> simp [ordered]
      refine later.trans (ih.trans ?_)
      constructor
      · rintro ⟨built, p, rest, v, v', rfl, completed, failed, rfl⟩
        exact ⟨⟨q, timings⟩ :: built, p, rest, v, v', rfl, .next result completed, failed, rfl⟩
      · rintro ⟨built, p, rest, v, v', split, completed, failed, rfl⟩
        cases completed with
        | none =>
          obtain ⟨rfl, -⟩ := List.cons.inj split
          rw [result] at failed
          cases failed
        | next success completed =>
          obtain ⟨rfl, others⟩ := List.cons.inj split
          rw [result, Prod.mk.injEq, Except.ok.injEq] at success
          obtain ⟨rfl, rfl⟩ := success
          exact ⟨_, p, rest, v, v', others, completed, failed, rfl⟩

/-- The records of the packages come in behind those that were there, in order. -/
theorem Completed.collector (completed : Completed c w built w') :
    w'.collector.records = w.collector.records ++ built.flatMap PackageTimings.timings := by
  induction completed with
  | none w => simp
  | @next w w₁ w' p timings rest success _ ih =>
    have passive := buildPackage_passive c p w
    rw [success] at passive
    rw [ih, handedIn_records, passive.collector, List.flatMap_cons, List.append_assoc]

/-- Packages change nothing outside their output directories. -/
theorem Completed.frame (completed : Completed c w built w') (free : w.disk.tree.LinkFree) :
    w'.disk.tree.LinkFree ∧ w'.disk.cwd = w.disk.cwd ∧ ∀ k,
      (∀ q ∈ built.map PackageTimings.package, ¬ Path.location w.disk.cwd q.outputDir <+: k) →
        w'.disk.tree.get? k = w.disk.tree.get? k := by
  induction completed with
  | none w => exact ⟨free, rfl, fun _ _ => rfl⟩
  | @next w w₁ w' p timings rest success _ ih =>
    obtain ⟨base, names, located, -⟩ := exists_located w.disk.cwd p
    obtain ⟨framed, freeNext⟩ := buildPackage_confined c free located
    rw [success] at framed freeNext
    obtain ⟨freeLast, cwd, frame⟩ := ih freeNext
    refine ⟨freeLast, cwd.trans framed.cwd, fun k outside => ?_⟩
    rw [List.map_cons, List.forall_mem_cons, located.location_outputDir] at outside
    rw [frame k fun q member => ?_, handedIn_disk, framed.entries k outside.1]
    rw [handedIn_disk, framed.cwd]
    exact outside.2 q member

/-- Which of two completed runs goes further is decided by their packages. -/
theorem Completed.next_of_prefix {more : List PackageTimings} {v v' : World} {rest : List Package}
    (completed : Completed c w built v) (further : Completed c w more v')
    (split : more.map PackageTimings.package = built.map PackageTimings.package ++ p :: rest) :
    ∃ timings u, buildPackage c p v = (.ok timings, u) := by
  induction completed generalizing more with
  | none w =>
    cases further with
    | none => cases split
    | next success _ =>
      obtain ⟨rfl, -⟩ := List.cons.inj split
      exact ⟨_, _, success⟩
  | next success _ ih =>
    cases further with
    | none => cases split
    | next again later =>
      obtain ⟨rfl, others⟩ := List.cons.inj split
      rw [success, Prod.mk.injEq, Except.ok.injEq] at again
      obtain ⟨rfl, rfl⟩ := again
      exact ih later others

end Completed

section Run

variable {c : ModuleCompiler} {jobs : Nat} {ps : List Package} {w w' : World}

theorem timed_eq_error {work : Action (List PackageTimings)} {f : Failure} :
    timed work w = (.error f, w') ↔ work w.readWall.2 = (.error f, w') := by
  rw [timed]
  dsimp only
  rcases work w.readWall.2 with ⟨g | built, w₁⟩ <;> simp

/-- The books of a run that ended well, from `w` to `w'`. -/
structure Accounted (c : ModuleCompiler) (ps : List Package) (w : World) (report : Report) (w' : World) : Prop where
  packages : report.packages.map PackageTimings.package = ps
  /-- The records of each package are the ones it gave when it was compiled. -/
  own : ∃ v, Completed c w.readWall.2 report.packages v ∧ w'.disk = v.disk
  collector : w'.collector.records = w.collector.records ++ report.packages.flatMap PackageTimings.timings
  files : report.total.files =
    (w.collector.records.length + (report.packages.map fun x => x.timings.length).sum : Nat)
  elapsed : report.total.elapsed.toInt =
    Int.bmod ((w.collector.records ++ report.packages.flatMap PackageTimings.timings).map fun r => r.elapsed.toInt).sum
      Int64.size

/-- A run from `w` to `w'` that the package at an index ended with `f`. -/
structure StoppedAt (c : ModuleCompiler) (jobs : Nat) (ps : List Package) (w : World) (f : Failure) (w' : World)
    (i : Nat) : Prop where
  /-- The packages before it were compiled and handed in their records. It failed on the world that they left, and nothing
  of it was handed in. -/
  failed : ∃ p built v v', ps[i]? = some p ∧ built.map PackageTimings.package = ps.take i ∧
    Completed c w.readWall.2 built v ∧ buildPackage c p v = (.error f, v') ∧ w'.disk = v'.disk ∧
    w'.collector.records = w.collector.records ++ built.flatMap PackageTimings.timings
  /-- It makes no difference what comes after it, so nothing of that was started. -/
  unstarted : ∀ others, run c jobs (ps.take (i + 1) ++ others) w = (.error f, w')
  frame : w.disk.tree.LinkFree → ∀ k, (∀ q ∈ ps.take (i + 1), ¬ Path.location w.disk.cwd q.outputDir <+: k) →
    w'.disk.tree.get? k = w.disk.tree.get? k

theorem run_of_few (few : jobs < 2) : run c jobs ps = timed (inOrder c ps) := by rw [run, if_pos few]

theorem accounted_of_run {report : Report} (few : jobs < 2) (success : run c jobs ps w = (.ok report, w')) :
    Accounted c ps w report w' := by
  rw [run_of_few few, timed_eq_ok] at success
  obtain ⟨built, v, done, rfl, rfl⟩ := success
  obtain ⟨packages, completed⟩ := inOrder_eq_ok.1 done
  obtain ⟨disk, -, collector⟩ := readWall_same v
  obtain ⟨-, -, collectorW⟩ := readWall_same w
  have records : v.readWall.2.collector.records =
      w.collector.records ++ built.flatMap PackageTimings.timings := by
    rw [collector, completed.collector, collectorW]
  refine ⟨packages, ⟨v, completed, disk⟩, records, ?_, ?_⟩
  · rw [World.report, Collector.total, Total.files_ofList, records, List.length_append, List.length_flatMap]
  · rw [World.report, Collector.total, Total.elapsed_ofList, records]

/-- The package that ends a run changes its own output directory at most. -/
theorem frame_of_failed {p : Package} {built : List PackageTimings} {v v' : World} {f : Failure}
    (free : w.disk.tree.LinkFree) (completed : Completed c w built v) (failed : buildPackage c p v = (.error f, v'))
    {k : Location}
    (outside : ∀ q ∈ built.map PackageTimings.package ++ [p], ¬ Path.location w.disk.cwd q.outputDir <+: k) :
    v'.disk.tree.get? k = w.disk.tree.get? k := by
  obtain ⟨freeV, cwd, frame⟩ := completed.frame free
  obtain ⟨base, names, located, -⟩ := exists_located v.disk.cwd p
  have framed := (buildPackage_confined c freeV located).1
  rw [failed] at framed
  have off := outside p (by simp)
  rw [← cwd, located.location_outputDir] at off
  rw [framed.entries k off]
  exact frame k fun q member => outside q (List.mem_append_left _ member)

theorem stoppedAt_of_run {f : Failure} (few : jobs < 2) (failed : run c jobs ps w = (.error f, w')) :
    ∃ i, StoppedAt c jobs ps w f w' i := by
  have stopped := failed
  rw [run_of_few few, timed_eq_error] at stopped
  obtain ⟨built, p, rest, v, v', rfl, completed, refused, rfl⟩ := inOrder_eq_error.1 stopped
  obtain ⟨disk, -, collector⟩ := readWall_same w
  have passive := buildPackage_passive c p v
  rw [refused] at passive
  have length : (built.map PackageTimings.package).length = built.length := List.length_map _
  have taken : (built.map PackageTimings.package ++ p :: rest).take (built.length + 1) =
      built.map PackageTimings.package ++ [p] := by
    rw [← length, List.take_length_add_append]
    rfl
  refine ⟨built.length, ?_, ?_, ?_⟩
  · refine ⟨p, built, v, v', ?_, ?_, completed, refused, rfl, ?_⟩
    · rw [← length, List.getElem?_append_right (Nat.le_refl _), Nat.sub_self]
      rfl
    · rw [← length, List.take_left]
    · exact passive.collector ▸ collector ▸ completed.collector
  · intro others
    rw [taken, run_of_few few, timed_eq_error]
    exact inOrder_eq_error.2 ⟨built, p, others, v, v', by simp, completed, refused, rfl⟩
  · intro free k outside
    rw [taken, ← disk] at outside
    rw [← disk] at free ⊢
    exact frame_of_failed free completed refused outside

/-- A run cannot be ended by two packages: the earlier one of them would have been compiled. -/
theorem StoppedAt.not_lt {f : Failure} {i j : Nat} (first : StoppedAt c jobs ps w f w' i)
    (second : StoppedAt c jobs ps w f w' j) : ¬ i < j := by
  intro before
  obtain ⟨p, built, v, v', here, packages, completed, refused, -, -⟩ := first.failed
  obtain ⟨_, more, u, _, _, packagesMore, further, -⟩ := second.failed
  have split : more.map PackageTimings.package =
      built.map PackageTimings.package ++ p :: (ps.take j).drop (i + 1) := by
    have inside : i < (ps.take j).length := by
      have := (List.getElem?_eq_some_iff.1 here).1
      rw [List.length_take]
      omega
    have same : (ps.take j)[i] = p := by
      rw [List.getElem_take]
      exact (List.getElem?_eq_some_iff.1 here).2
    have shorter : ps.take i = (ps.take j).take i := by rw [List.take_take, Nat.min_eq_left (Nat.le_of_lt before)]
    rw [packagesMore, packages, ← same, shorter, ← List.drop_eq_getElem_cons inside, List.take_append_drop]
  obtain ⟨timings, u', compiled⟩ := completed.next_of_prefix further split
  rw [refused] at compiled
  cases compiled

/-- The books of a run that builds one package after another. If it ends well, its report lists the packages in order with
their own records, which were collected behind what was collected before, and counts and adds them all up. If it fails,
then at one package, before which all were compiled and handed in their records and after which none was started; nothing
outside their output directories was changed. -/
theorem run_accounting (few : jobs < 2) :
    (∀ report w', run c jobs ps w = (.ok report, w') → Accounted c ps w report w') ∧
      ∀ f w', run c jobs ps w = (.error f, w') → ∃! i, StoppedAt c jobs ps w f w' i := by
  refine ⟨fun report w' => accounted_of_run few, fun f w' failed => ?_⟩
  obtain ⟨i, stopped⟩ := stoppedAt_of_run few failed
  refine ⟨i, stopped, fun j other => ?_⟩
  exact Nat.le_antisymm (Nat.not_lt.1 (stopped.not_lt other)) (Nat.not_lt.1 (other.not_lt stopped))

end Run

namespace Sample

/-- A collector that holds a record already, of a time that leaves no room for more. -/
def used : World := { world with collector := ⟨[⟨"/old.ts", Int64.maxValue⟩]⟩ }

/-- Finds no module in the sources of the second package. -/
def strict : ModuleCompiler :=
  { compiler with
    compile := fun path content =>
      if path = "/b/x.ts" then .error (.fault (.malformed path 1 1 "no module")) else compiler.compile path content }

end Sample

theorem run_accounting_sample :
    (∃ report w', run Sample.compiler 0 [⟨"/", "a"⟩, ⟨"/", "b"⟩] Sample.used = (.ok report, w') ∧
      report.total.files = 5 ∧ report.total.elapsed = Int64.minValue + 3 ∧
      Accounted Sample.compiler [⟨"/", "a"⟩, ⟨"/", "b"⟩] Sample.used report w') ∧
    ∃ w', run Sample.strict 1 [⟨"/", "a"⟩, ⟨"/", "b"⟩, ⟨"/", "c"⟩] Sample.used =
        (.error (.fault (.malformed "/b/x.ts" 1 1 "no module")), w') ∧
      ∃! i, StoppedAt Sample.strict 1 [⟨"/", "a"⟩, ⟨"/", "b"⟩, ⟨"/", "c"⟩] Sample.used
        (.fault (.malformed "/b/x.ts" 1 1 "no module")) w' i := by
  constructor
  · have total : (run Sample.compiler 0 [⟨"/", "a"⟩, ⟨"/", "b"⟩] Sample.used).1.toOption.map
        (fun report => (report.total.files, report.total.elapsed)) = some (5, Int64.minValue + 3) := by decide +kernel
    rcases ran : run Sample.compiler 0 [⟨"/", "a"⟩, ⟨"/", "b"⟩] Sample.used with ⟨f | report, w'⟩
    · rw [ran] at total
      cases total
    · rw [ran] at total
      obtain ⟨files, elapsed⟩ := Prod.mk.inj (Option.some.inj total)
      exact ⟨report, w', rfl, files, elapsed, (run_accounting (by decide)).1 report w' ran⟩
  · have failure : (run Sample.strict 1 [⟨"/", "a"⟩, ⟨"/", "b"⟩, ⟨"/", "c"⟩] Sample.used).1.map (fun _ => ()) =
        .error (.fault (.malformed "/b/x.ts" 1 1 "no module")) := by decide +kernel
    rcases ran : run Sample.strict 1 [⟨"/", "a"⟩, ⟨"/", "b"⟩, ⟨"/", "c"⟩] Sample.used with ⟨f | report, w'⟩
    · rw [ran] at failure
      obtain rfl := Except.error.inj failure
      exact ⟨w', rfl, (run_accounting (by decide)).2 _ w' ran⟩
    · rw [ran] at failure
      cases failure

end Distill.Build
