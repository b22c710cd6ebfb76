import Distill.Proofs.Build.Scheduled

/-!
What building can fail with. A call on the disk fails with the answer of the system, and a step of a job puts a layer of
its own around that at most. So no failure of a run gets a code that belongs to finding the packages
(`code_of_ofBuilding`), unless the compiler makes one up.
-/
namespace Distill

namespace Failure

/-- A failure without any layer of a kind that only finding the packages has. -/
structure OfBuilding (f : Failure) : Prop where
  noRoot : f.has .noRoot = false
  manifest : f.has .manifest = false
  outside : f.has .outside = false

theorem OfBuilding.access {f : Failure} (inner : f.OfBuilding) (action path : String) :
    (within (.access action path) f).OfBuilding := ⟨inner.noRoot, inner.manifest, inner.outside⟩

theorem OfBuilding.note {f : Failure} (inner : f.OfBuilding) (message : String) : (within (.note message) f).OfBuilding :=
  ⟨inner.noRoot, inner.manifest, inner.outside⟩

/-- The codes for a missing root, for a manifest and for a pattern that leaves the root are never given to a failure of
building. -/
theorem code_of_ofBuilding {f : Failure} (ofBuilding : f.OfBuilding) : f.code ∉ ["E005", "E201", "E202"] := by
  rw [code, leadingKind?, Kind.byPriority, List.find?_cons_of_neg (by simp [ofBuilding.noRoot]),
    List.find?_cons_of_neg (by simp [ofBuilding.manifest]), List.find?_cons_of_neg (by simp [ofBuilding.outside])]
  -- the kinds that are left have codes of their own
  cases leading : [Kind.malformed, .output, .access].find? f.has with
  | none => decide
  | some k =>
    have member := List.mem_of_find?_eq_some leading
    simp only [List.mem_cons, List.not_mem_nil, or_false] at member
    rcases member with rfl | rfl | rfl <;> decide

end Failure

/-- The answer of the system to a refused call. -/
def Fault.IsSystem (f : Fault) : Prop := ∃ call path errno, f = .system call path errno

theorem Fault.IsSystem.ofBuilding {f : Fault} (system : f.IsSystem) : (Failure.fault f).OfBuilding := by
  obtain ⟨call, path, errno, rfl⟩ := system
  exact ⟨rfl, rfl, rfl⟩

namespace Disk

variable {d : Disk} {path : String} {f : Fault}

theorem isSystem_of_contents (failed : d.contents path = .error f) : f.IsSystem := by
  rw [contents] at failed
  split at failed
  · cases failed
  all_goals exact Except.error.inj failed ▸ ⟨_, _, _, rfl⟩

theorem isSystem_of_writeFile {content : Text.Bytes} (failed : d.writeFile path content = .error f) : f.IsSystem := by
  rw [writeFile] at failed
  split at failed
  · exact Except.error.inj failed ▸ ⟨_, _, _, rfl⟩
  · cases failed
  · exact Except.error.inj failed ▸ ⟨_, _, _, rfl⟩

theorem isSystem_of_makeDirectory (failed : d.makeDirectory path = .error f) : f.IsSystem := by
  rw [makeDirectory] at failed
  split at failed
  · cases failed
  · cases failed
  all_goals exact Except.error.inj failed ▸ ⟨_, _, _, rfl⟩

theorem isSystem_of_makeUpward {paths : List String} (failed : d.makeUpward paths = .error f) : f.IsSystem := by
  induction paths generalizing f with
  | nil => cases failed
  | cons path above ih =>
    rw [makeUpward] at failed
    split at failed
    · cases failed
    · exact Except.error.inj failed ▸ ⟨_, _, _, rfl⟩
    · split at failed
      · exact isSystem_of_makeDirectory failed
      · rename_i failedAbove
        exact ih (Except.error.inj failed ▸ failedAbove)

end Disk

namespace Build

/-- A compiler that fails with nothing that building could not fail with, if reading the file did not. -/
def ModuleCompiler.Tame (c : ModuleCompiler) : Prop :=
  ∀ path read f, (∀ g, read = .error g → (Failure.fault g).OfBuilding) → c.compile path read = .error f → f.OfBuilding

section Actions

variable {c : ModuleCompiler} {p : Package} {s : String} {w w' : World} {f : Failure}

theorem ofBuilding_of_removeOutput (failed : removeOutput p w = (.error f, w')) : f.OfBuilding := by
  rw [removeOutput] at failed
  split at failed
  · cases failed
  · rename_i refused
    obtain rfl := Except.error.inj (Prod.mk.inj failed).1
    cases clean_eq_error.1 refused with
    | occupied => exact ⟨rfl, rfl, rfl⟩
    | stat => exact ⟨rfl, rfl, rfl⟩

theorem ofBuilding_of_prepare (failed : prepare p s w = (.error f, w')) : f.OfBuilding := by
  -- the compiler and the content make no difference to how a source is started on
  cases (prepare_eq_error (c := ⟨fun _ _ => .ok [], fun _ => false⟩) (.ok []) failed).2 with
  | canceled => exact ⟨rfl, rfl, rfl⟩
  | mkdir _ made => exact (Disk.isSystem_of_makeUpward made).ofBuilding.access _ _
  | compile _ impossible => cases impossible
  | write _ _ written => exact (Disk.isSystem_of_writeFile written).ofBuilding.access _ _

theorem ofBuilding_of_compileSource (tame : c.Tame) (failed : compileSource c p s w = (.error f, w')) :
    f.OfBuilding := by
  obtain ⟨-, g, refused, rfl⟩ := compileSource_eq_error failed
  have inner := tame _ _ g (fun _ unread => (Disk.isSystem_of_contents unread).ofBuilding) refused
  split
  · exact inner
  · exact inner.access _ _

theorem ofBuilding_of_store {watch : Stopwatch} {output : Text.Bytes} (failed : store p s watch output w = (.error f, w')) :
    f.OfBuilding := by
  rw [store] at failed
  dsimp only at failed
  split at failed
  · cases failed
  · rename_i written
    obtain rfl := Except.error.inj (Prod.mk.inj failed).1
    exact (Disk.isSystem_of_writeFile written).ofBuilding.access _ _

end Actions

variable {c : ModuleCompiler}

/-- A job that has not failed, or with something that building can fail with. -/
def Job.FailsInBuilding (j : Job) : Prop := ∀ f, j.phase = .failed f → f.OfBuilding

theorem after_failsInBuilding {α : Type} {j : Job} {a : Except Failure α × World} {next : α → Job}
    (failed : ∀ f w', a = (.error f, w') → f.OfBuilding) (going : ∀ x f, (next x).phase ≠ .failed f) :
    (j.after a next).1.FailsInBuilding := by
  obtain ⟨result, world⟩ := a
  intro f stopped
  cases result with
  | ok x => exact absurd stopped (going x f)
  | error g =>
    obtain rfl : g = f := Phase.failed.inj stopped
    exact failed g world rfl

theorem step_failsInBuilding (tame : c.Tame) (j : Job) (w : World) (before : j.FailsInBuilding) :
    (j.step c w).1.FailsInBuilding := by
  obtain ⟨package, phase, timings⟩ := j
  cases phase with
  | removing => exact after_failsInBuilding (fun _ _ => ofBuilding_of_removeOutput) (by simp)
  | listing => exact after_failsInBuilding (fun _ _ impossible => by cases impossible) (by simp)
  | preparing todo =>
    cases todo with
    | nil =>
      intro f impossible
      cases impossible
    | cons source todo => exact after_failsInBuilding (fun _ _ => ofBuilding_of_prepare) (by simp)
  | compiling source watch todo => exact after_failsInBuilding (fun _ _ => ofBuilding_of_compileSource tame) (by simp)
  | storing source watch output todo => exact after_failsInBuilding (fun _ _ => ofBuilding_of_store) (by simp)
  | finished | failed => exact before

/-- A run fails with something that building can fail with, whatever it builds and in whichever order. -/
theorem ofBuilding_of_runBy (tame : c.Tame) {jobs : Nat} {schedule : List Nat} {ps : List Package} {w w' : World}
    {f : Failure} (failed : runBy c jobs schedule ps w = (.error f, w')) : f.OfBuilding := by
  have invariant : Invariant c (fun _ => True) Job.FailsInBuilding :=
    ⟨fun j w _ before => ⟨trivial, step_failsInBuilding tame j w before⟩, fun _ _ => trivial, fun _ _ => trivial⟩
  have started : ∀ p ∈ ps, (Job.start p).FailsInBuilding := by
    intro p _ g impossible
    cases impossible
  obtain ⟨j, failsInBuilding, stopped⟩ :=
    (invariant.runBy (w := w) trivial started jobs schedule).failure f (by rw [failed])
  exact failsInBuilding f stopped

end Build

end Distill
