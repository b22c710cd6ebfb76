import Distill.Build.Job
import Distill.Proofs.Build.Output

/-!
Jobs step by step. A step changes the output directory of its package at most, and on two worlds that look the same from
the package it does the same, the time aside (`step_lockstep`); so do any number of steps (`steps_lockstep`).
-/
namespace Distill.Build

/-- The same phase, whatever the time. -/
inductive Phase.Alike : Phase → Phase → Prop
  | removing : Alike .removing .removing
  | listing : Alike .listing .listing
  | preparing (todo : List String) : Alike (.preparing todo) (.preparing todo)
  | compiling {watch watch' : Stopwatch} (source : String) (todo : List String) (file : watch.file = watch'.file) :
    Alike (.compiling source watch todo) (.compiling source watch' todo)
  | storing {watch watch' : Stopwatch} (source : String) (output : Text.Bytes) (todo : List String)
    (file : watch.file = watch'.file) : Alike (.storing source watch output todo) (.storing source watch' output todo)
  | finished : Alike .finished .finished
  | failed (f : Failure) : Alike (.failed f) (.failed f)

theorem Phase.Alike.refl (phase : Phase) : Phase.Alike phase phase := by
  cases phase <;> constructor <;> rfl

/-- Two jobs that differ at most in the time their files took. -/
structure Job.Alike (j k : Job) : Prop where
  package : j.package = k.package
  phase : Phase.Alike j.phase k.phase
  files : j.timings.map Timing.file = k.timings.map Timing.file

theorem Job.Alike.refl (j : Job) : j.Alike j := ⟨rfl, .refl _, rfl⟩

/-- What a phase of a package takes for granted: there is no output directory when the sources are listed, the sources
still to be built are there, and so is the directory of an output that is about to be written. -/
def Phase.Ready (t : FileTree) (p : Package) (site : Location) : Phase → Prop
  | .listing => t.get? (site ++ ["dist"]) = none
  | .preparing todo => ∀ s ∈ todo, p.dir ≠ "" ∧ Pending t site s
  | .compiling source _ todo | .storing source _ _ todo =>
    t.get? (site ++ ["dist"] ++ (outputOf source).dropLast) = some .directory ∧
      ∀ s ∈ source :: todo, p.dir ≠ "" ∧ Pending t site s
  | _ => True

theorem Phase.Ready.agree {t u : FileTree} {p : Package} {site : Location} {phase phase' : Phase}
    (ready : phase.Ready t p site) (agree : Agree site t u) (alike : Phase.Alike phase phase') :
    phase'.Ready u p site := by
  cases alike with
  | removing => trivial
  | listing => exact (agree.output _ List.prefix_rfl).symm.trans ready
  | preparing todo => exact fun s member => ⟨(ready s member).1, (ready s member).2.agree agree⟩
  | compiling source todo file =>
    exact ⟨(agree.output _ (List.prefix_append _ _)).symm.trans ready.1,
      fun s member => ⟨(ready.2 s member).1, (ready.2 s member).2.agree agree⟩⟩
  | storing source output todo file =>
    exact ⟨(agree.output _ (List.prefix_append _ _)).symm.trans ready.1,
      fun s member => ⟨(ready.2 s member).1, (ready.2 s member).2.agree agree⟩⟩
  | finished => trivial
  | failed f => trivial

/-- Two jobs that look the same from a site, the first one reached from the world `w`. -/
structure InStep (site : Location) (w : World) (a b : Job × World) : Prop where
  alike : a.1.Alike b.1
  same : SameView site a.2 b.2
  framed : Framed site w a.2

section

variable {c : ModuleCompiler} {j k : Job} {w v : World} {base names site : Location}

theorem after_lockstep {α β : Type} {view : α → β} {a b : Except Failure α × World} {nextJ nextK : α → Job}
    (lock : Lockstep view site w a b) (alike : j.Alike k)
    (next : ∀ x y, view x = view y → (nextJ x).Alike (nextK y)) :
    InStep site w (j.after a nextJ) (k.after b nextK) := by
  obtain ⟨result, world⟩ := a
  obtain ⟨result', world'⟩ := b
  obtain ⟨results, same, framed⟩ := lock
  cases result with
  | ok x =>
    cases result' with
    | ok y => exact ⟨next x y (by simpa [Except.map] using results), same, framed⟩
    | error g => simp [Except.map] at results
  | error f =>
    cases result' with
    | ok y => simp [Except.map] at results
    | error g =>
      obtain rfl : f = g := by simpa [Except.map] using results
      exact ⟨⟨alike.package, .failed f, alike.files⟩,
        ⟨same.cwd, same.canceled, same.linkFree, same.linkFree', same.agree⟩,
        ⟨framed.cwd, framed.canceled, framed.entries⟩⟩

/-- A step depends on what can be seen from the package. -/
theorem step_lockstep (located : Located w.disk.cwd j.package base names) (same : SameView (base ++ names) w v)
    (ready : j.phase.Ready w.disk.tree j.package (base ++ names)) (alike : j.Alike k) :
    InStep (base ++ names) w (j.step c w) (k.step c v) := by
  obtain ⟨package, phase, timings⟩ := j
  obtain ⟨package', phase', timings'⟩ := k
  obtain ⟨packages, phases, files⟩ := alike
  dsimp only at packages phases files located ready
  subst packages
  have alike : Job.Alike ⟨package, phase, timings⟩ ⟨package, phase', timings'⟩ := ⟨rfl, phases, files⟩
  cases phases with
  | removing =>
    refine after_lockstep (removeOutput_lockstep located same) alike ?_
    exact fun _ _ _ => ⟨rfl, .listing, files⟩
  | listing =>
    rw [Job.step, Job.step]
    refine after_lockstep (listSources_lockstep located same) alike ?_
    intro found found' eq
    obtain rfl : found = found' := eq
    exact ⟨rfl, .preparing found, files⟩
  | preparing todo =>
    cases todo with
    | nil =>
      exact ⟨⟨rfl, .finished, files⟩, ⟨same.cwd, same.canceled, same.linkFree, same.linkFree', same.agree⟩,
        ⟨rfl, id, fun _ _ => rfl⟩⟩
    | cons source todo =>
      refine after_lockstep (prepare_lockstep located same (ready source (by simp)).2) alike ?_
      exact fun _ _ file => ⟨rfl, .compiling source todo file, files⟩
  | compiling source todo file =>
    obtain ⟨some, pending⟩ := ready.2 source (by simp)
    refine after_lockstep (compileSource_lockstep c (located.dir some) same pending) alike ?_
    intro output output' eq
    obtain rfl : output = output' := eq
    exact ⟨rfl, .storing source output todo file, files⟩
  | storing source output todo file =>
    have pending := (ready.2 source (by simp)).2
    refine after_lockstep (store_lockstep located same pending ready.1 file output) alike ?_
    intro timing timing' file
    exact ⟨rfl, .preparing todo, by simp [files, file]⟩
  | finished => exact ⟨⟨rfl, .finished, files⟩, same, .refl _ _⟩
  | failed f => exact ⟨⟨rfl, .failed f, files⟩, same, .refl _ _⟩

theorem after_ready {α : Type} {a : Except Failure α × World} {next : α → Job}
    (ready : ∀ x w', a = (.ok x, w') → (next x).phase.Ready w'.disk.tree (next x).package site) :
    (j.after a next).1.phase.Ready (j.after a next).2.disk.tree (j.after a next).1.package site := by
  obtain ⟨result, world⟩ := a
  cases result with
  | ok x => exact ready x world rfl
  | error f => trivial

/-- A step leaves a job with what its next step takes for granted. -/
theorem step_ready (free : w.disk.tree.LinkFree) (located : Located w.disk.cwd j.package base names)
    (ready : j.phase.Ready w.disk.tree j.package (base ++ names)) :
    (j.step c w).1.phase.Ready (j.step c w).2.disk.tree (j.step c w).1.package (base ++ names) := by
  have keep {s : String} (queued : j.package.dir ≠ "" ∧ Pending w.disk.tree (base ++ names) s) {w' : World}
      (framed : Framed (base ++ names) w w') :
      j.package.dir ≠ "" ∧ Pending w'.disk.tree (base ++ names) s := ⟨queued.1, queued.2.frame framed.entries⟩
  obtain ⟨package, phase, timings⟩ := j
  dsimp only at located ready keep
  rw [Job.step]
  cases phase with
  | removing =>
    apply after_ready
    intro _ w' removed
    rw [removeOutput_eq_ok free located removed]
    have gone := get?_erase_below w.disk.tree (show base ++ names ++ ["dist"] ≠ [] by simp) []
    rwa [List.append_nil] at gone
  | listing =>
    apply after_ready
    intro found w' listed
    obtain ⟨rfl, disk⟩ := listSources_eq_ok listed
    intro s member
    have some : package.dir ≠ "" := by
      intro empty
      rw [empty, sources_empty] at member
      cases member
    obtain ⟨source, content, there⟩ := (mem_sources_iff free (located.dir some) s).1 member
    refine ⟨some, source, ?_, content, by rw [disk]; exact there⟩
    intro below
    rw [FileTree.missing_below ready below] at there
    cases there
  | preparing todo =>
    cases todo with
    | nil => trivial
    | cons source todo =>
      have pending := (ready source (by simp)).2
      have framed := (prepare_lockstep located (.refl free) pending).framed
      apply after_ready
      intro watch w' prepared
      rw [prepared] at framed
      obtain ⟨-, -, -, grown⟩ := prepare_eq_ok free located pending prepared
      exact ⟨by rw [grown.2, if_pos List.prefix_rfl], fun s member => keep (ready s member) framed⟩
  | compiling source watch todo =>
    apply after_ready
    intro output w' compiled
    obtain ⟨-, disk⟩ := compileSource_eq_ok compiled
    dsimp only
    rw [disk]
    exact ready
  | storing source watch output todo =>
    have framed := (store_lockstep located (.refl free) (ready.2 source (by simp)).2 ready.1 (rfl : watch.file = _)
      output).framed
    apply after_ready
    intro timing w' stored
    rw [stored] at framed
    exact fun s member => keep (ready.2 s (by simp [member])) framed
  | finished => trivial
  | failed f => trivial

@[simp] theorem after_package {α : Type} (a : Except Failure α × World) {next : α → Job}
    (same : ∀ x, (next x).package = j.package) : (j.after a next).1.package = j.package := by
  obtain ⟨result, world⟩ := a
  cases result with
  | ok x => exact same x
  | error f => rfl

theorem step_package (c : ModuleCompiler) (j : Job) (w : World) : (j.step c w).1.package = j.package := by
  obtain ⟨package, phase, timings⟩ := j
  rw [Job.step]
  cases phase with
  | preparing todo => cases todo <;> first | rfl | exact after_package _ fun _ => rfl
  | finished | failed => rfl
  | _ => exact after_package _ fun _ => rfl

/-- Any number of steps depend on what can be seen from the package, and leave a job with what it needs to go on. -/
theorem steps_lockstep (located : Located w.disk.cwd j.package base names) (same : SameView (base ++ names) w v)
    (ready : j.phase.Ready w.disk.tree j.package (base ++ names)) (alike : j.Alike k) (n : Nat) :
    InStep (base ++ names) w (Job.steps c n j w) (Job.steps c n k v) ∧
      (Job.steps c n j w).1.package = j.package ∧
      (Job.steps c n j w).1.phase.Ready (Job.steps c n j w).2.disk.tree j.package (base ++ names) := by
  induction n generalizing j k w v with
  | zero => exact ⟨⟨alike, same, .refl _ _⟩, rfl, ready⟩
  | succ n ih =>
    have first := step_lockstep (c := c) located same ready alike
    have package := step_package c j w
    have readyNext := step_ready (c := c) same.linkFree located ready
    have locatedNext : Located (j.step c w).2.disk.cwd (j.step c w).1.package base names := by
      rw [first.framed.cwd, package]
      exact located
    obtain ⟨rest, packages, readyRest⟩ := ih locatedNext first.same readyNext first.alike
    exact ⟨⟨rest.alike, rest.same, first.framed.trans rest.framed⟩, packages.trans package, package ▸ readyRest⟩

end

end Distill.Build
