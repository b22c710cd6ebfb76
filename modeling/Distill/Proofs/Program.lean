import Distill.Program
import Distill.Proofs.Build.Failures
import Distill.Proofs.Workspace.Outputs

/-!
How the command ends. Options that are not valid are refused before anything is looked at; otherwise the packages are
found and built, and either the failure or the report is printed, as one record. The exit code tells these three endings
apart (`execute_ends`). Finding the packages changes nothing (`plan_disk`), so neither does a run that fails with a code
that belongs to that.
-/
namespace Distill

namespace Program

open Build

variable {o : Options} {s : Setting} {w w' : World}

section Compiler

theorem ofBuilding_of_strip {strip : Stripper} {name : String} {elide : Bool} (named : Stripper.named name elide = .ok strip)
    {file source : String} {f : Failure} (failed : strip file source = .error f) : f.OfBuilding := by
  have malformed {g : (file text : String) → Except TypeScript.Problem String}
      (failed : Stripper.of g file source = .error f) : f.OfBuilding := by
    rw [Stripper.of] at failed
    split at failed
    · cases failed
    · exact Except.error.inj failed ▸ ⟨rfl, rfl, rfl⟩
  rw [Stripper.named] at named
  split at named
  · exact malformed (Except.ok.inj named ▸ failed)
  · split at named
    · exact malformed (Except.ok.inj named ▸ failed)
    · cases named

theorem ofBuilding_of_compile {strip : Stripper} {file source : String} {f : Failure}
    (stripped : ∀ g, strip file source = .error g → g.OfBuilding) (failed : Compiler.compile strip file source = .error f) :
    f.OfBuilding := by
  rw [Compiler.compile, Compiler.parse] at failed
  rcases result : strip file source with g | text
  · rw [result] at failed
    obtain rfl : g = f := Except.error.inj failed
    exact stripped g result
  · rw [result] at failed
    rcases parsed : Module.parse text with p | m
    · simp only [bind, Except.bind, parsed] at failed
      exact Except.error.inj failed ▸ ⟨rfl, rfl, rfl⟩
    · simp only [bind, Except.bind, parsed] at failed
      cases failed

/-- The compilers that the options can ask for fail with what building can fail with. -/
theorem tame_of_moduleCompiler {c : ModuleCompiler} (asked : moduleCompiler o = .ok c) : c.Tame := by
  rw [moduleCompiler] at asked
  rcases named : Stripper.named o.transpiler o.elide with f | strip
  · rw [named] at asked
    cases asked
  · rw [named] at asked
    obtain rfl := Except.ok.inj asked
    intro path read f readable failed
    rcases read with g | bytes
    · have inner : f = .within (.note "reading source") (.fault g) := (Except.error.inj failed).symm
      rw [inner]
      exact (readable g rfl).note _
    · rcases compiled : Compiler.compile strip path (Text.decodeLossy bytes) with g | text
      · simp only [Compiler.compileFile, Compiler.readSource, bind, Except.bind, compiled] at failed
        obtain rfl := Except.error.inj failed
        exact ofBuilding_of_compile (fun _ => ofBuilding_of_strip named) compiled
      · simp only [Compiler.compileFile, Compiler.readSource, bind, Except.bind, compiled] at failed
        cases failed

end Compiler

section Plan

/-- Finding the packages changes nothing on the disk. -/
theorem plan_disk (o : Options) (w : World) : (plan o w).2.disk = w.disk := by
  rw [plan]
  split
  · rw [planAt]
    dsimp only
    split
    · rfl
    · split <;> rfl
  · rfl

theorem plan_eq_ok {p : Plan} (planned : plan o w = (.ok p, w')) :
    ∃ r records, root o w.disk = .ok r ∧ Workspace.resolve w.disk r o.manifest = (.ok p.packages, records) ∧
      moduleCompiler o = .ok p.compiler := by
  rw [plan] at planned
  split at planned
  · rename_i r rooted
    rw [planAt] at planned
    dsimp only [World.note] at planned
    rcases resolved : Workspace.resolve w.disk r o.manifest with ⟨f | ps, records⟩
    · rw [resolved] at planned
      cases planned
    · rw [resolved] at planned
      dsimp only at planned
      split at planned
      · cases planned
      · rename_i c asked
        obtain rfl := Except.ok.inj (Prod.mk.inj planned).1
        exact ⟨r, records, rooted, resolved, asked⟩
  · cases planned

end Plan

/-- What the command does once its options are accepted: it finds the packages and builds them, interleaved as the schedule
says if it may build several at a time. -/
def work (o : Options) (schedule : List Nat) : Action Report :=
  (plan o).andThen fun p => runBy p.compiler (limit o) schedule p.packages

/-- The command with these options and no other arguments. -/
def execute (o : Options) (schedule : List Nat) (s : Setting) : Outcome :=
  match o.check [] with
  | .error p => refusing p s.disk
  | .ok () => conclude o s.runId (work o schedule (start s))

/-- Arguments that are read as some options, and ask for neither help nor completion, do what the options do. -/
theorem run_eq_execute {args : List String} (plain : Completion.request? args = none)
    (read : Options.read (args.length + 1) {} args = .ok (o, [])) (noHelp : o.help = false) (s : Setting) :
    run args s = execute o [] s := by
  have options : Options.ofArguments args = (o.check []).map fun _ => o := by
    rw [Options.ofArguments, read]
    simp only [bind, Except.bind, noHelp, Bool.not_false, if_true]
    cases o.check [] <;> rfl
  rw [run, accept, plain, execute]
  simp only [options]
  cases checked : o.check [] with
  | error p => rfl
  | ok =>
    simp only [Except.map, noHelp, work, ← run_eq_runBy]
    rfl

section Work

variable {schedule : List Nat}

/-- A failure with a code that belongs to finding the packages leaves the disk as it was. -/
theorem disk_of_code {f : Failure} (failed : work o schedule w = (.error f, w'))
    (code : f.code ∈ ["E005", "E201", "E202"]) : w'.disk = w.disk := by
  have planDisk := plan_disk o w
  rcases Action.andThen_eq_error failed with unplanned | ⟨p, w₁, planned, failed⟩
  · rw [unplanned] at planDisk
    exact planDisk
  · obtain ⟨_, _, _, _, asked⟩ := plan_eq_ok planned
    exact absurd code (Failure.code_of_ofBuilding (ofBuilding_of_runBy (tame_of_moduleCompiler asked) failed))

theorem work_eq_ok {report : Report} (success : work o schedule w = (.ok report, w')) :
    ∃ r ps records c w₁, root o w.disk = .ok r ∧ Workspace.resolve w.disk r o.manifest = (.ok ps, records) ∧
      moduleCompiler o = .ok c ∧ w₁.disk = w.disk ∧ AllBuilt c ps w₁ report w' := by
  obtain ⟨p, w₁, planned, success⟩ := Action.andThen_eq_ok success
  obtain ⟨r, records, rooted, resolved, asked⟩ := plan_eq_ok planned
  have planDisk := plan_disk o w
  rw [planned] at planDisk
  exact ⟨r, p.packages, records, p.compiler, w₁.readWall.2, rooted, resolved, asked, (readWall_same w₁).1.trans planDisk,
    allBuilt_of_runBy success⟩

end Work

section Endings

/-- The fields at the end of every JSON record. -/
def runFields (runId : String) : List (String × Json) := if runId = "" then [] else [("run_id", .str runId)]

/-- The one record that is printed about a failure. -/
def errorRecord (o : Options) (runId : String) (f : Failure) : String :=
  if o.format = "json" then
    (Json.obj ([("status", .str "error"), ("error", .obj [("code", .str f.code), ("message", .str f.message)])] ++
      runFields runId)).render ++ "\n"
  else "Error [" ++ f.code ++ "]: " ++ f.message ++ "\n"

/-- The one record that is printed about a run that ended well. -/
def reportRecord (o : Options) (runId : String) (report : Report) : String :=
  if o.format = "json" then
    (Json.obj ([("status", .str "ok"), ("data", report.json)] ++ runFields runId)).render ++ "\n"
  else report.text

/-- The ways in which the command can end. -/
inductive Ending where
  | rejected
  | failed
  | built

/-- The options are not valid. One line on the error stream says so, and nothing is printed or touched. -/
structure Rejected (o : Options) (s : Setting) (out : Outcome) : Prop where
  problem : ∃ p f, o.check [] = .error p ∧ out.failure = some f ∧ complaint f = some ("Error: " ++ p.message)
  exit : out.exitCode = 1
  printed : out.printed = ""
  quiet : out.logged = [] ∧ out.remarks = [] ∧ out.alerts = []
  disk : out.disk = s.disk

/-- The packages could not be found or built. The failure is printed and nothing else; if it is about finding the packages,
the disk is as it was. -/
structure Failed (o : Options) (schedule : List Nat) (s : Setting) (out : Outcome) : Prop where
  accepted : o.check [] = .ok ()
  exit : out.exitCode = 2
  failure : ∃ f w', work o schedule (start s) = (.error f, w') ∧ out.printed = errorRecord o s.runId f ∧
    out.disk = w'.disk ∧ (f.code ∈ ["E005", "E201", "E202"] → out.disk = s.disk)
  quiet : (∃ f, out.failure = some f ∧ complaint f = none) ∧ out.remarks = [] ∧ out.alerts = []

/-- All packages that were found were built. The report on them is printed and nothing else. -/
structure Built (o : Options) (schedule : List Nat) (s : Setting) (out : Outcome) : Prop where
  accepted : o.check [] = .ok ()
  exit : out.exitCode = 0
  built : ∃ r ps records c w₁ report w', root o s.disk = .ok r ∧
    Workspace.resolve s.disk r o.manifest = (.ok ps, records) ∧ moduleCompiler o = .ok c ∧
    work o schedule (start s) = (.ok report, w') ∧ w₁.disk = s.disk ∧ AllBuilt c ps w₁ report w' ∧
    out.printed = reportRecord o s.runId report ∧ out.disk = w'.disk
  quiet : out.failure = none ∧ out.remarks = [] ∧ out.alerts = []

/-- What an ending of the command means. -/
def Ends (o : Options) (schedule : List Nat) (s : Setting) (out : Outcome) : Ending → Prop
  | .rejected => Rejected o s out
  | .failed => Failed o schedule s out
  | .built => Built o schedule s out

def Ending.exitCode : Ending → Int
  | rejected => 1
  | failed => 2
  | built => 0

/-- The exit code tells the endings apart. -/
theorem Ending.eq_of_exitCode {e e' : Ending} (same : e.exitCode = e'.exitCode) : e = e' := by
  cases e <;> cases e' <;> simp [exitCode] at same ⊢

variable {schedule : List Nat} {out : Outcome}

theorem Ends.exitCode {e : Ending} (ends : Ends o schedule s out e) : out.exitCode = e.exitCode := by
  cases e with
  | rejected => exact Rejected.exit ends
  | failed => exact Failed.exit ends
  | built => exact Built.exit ends

theorem printed_error (o : Options) (runId : String) (f : Failure) :
    ((output o runId).runFailure f).1 = errorRecord o runId f := by
  by_cases json : o.format = "json"
  · have format : (output o runId).format = .json := if_pos json
    rw [Output.runFailure, Output.error, errorRecord, if_pos json, format]
    rfl
  · have format : (output o runId).format = .text := if_neg json
    rw [Output.runFailure, Output.error, errorRecord, if_neg json, format]
    rfl

theorem printed_report (o : Options) (runId : String) (report : Report) :
    (output o runId).result report.text report.json = reportRecord o runId report := by
  by_cases json : o.format = "json"
  · have format : (output o runId).format = .json := if_pos json
    rw [Output.result, reportRecord, if_pos json, format]
    rfl
  · have format : (output o runId).format = .text := if_neg json
    rw [Output.result, reportRecord, if_neg json, format]

theorem rejected_of_check {p : OptionProblem} (checked : o.check [] = .error p) : Rejected o s (execute o schedule s) := by
  rw [execute, checked]
  exact ⟨⟨p, _, checked, rfl, rfl⟩, rfl, rfl, ⟨rfl, rfl, rfl⟩, rfl⟩

theorem failed_of_work {f : Failure} (checked : o.check [] = .ok ()) (failed : work o schedule (start s) = (.error f, w')) :
    Failed o schedule s (execute o schedule s) := by
  rw [execute, checked]
  dsimp only
  rw [failed]
  refine ⟨checked, rfl, ⟨f, w', failed, printed_error o s.runId f, rfl, disk_of_code failed⟩, ⟨_, rfl, rfl⟩, rfl, rfl⟩

theorem built_of_work {report : Report} (checked : o.check [] = .ok ())
    (success : work o schedule (start s) = (.ok report, w')) : Built o schedule s (execute o schedule s) := by
  obtain ⟨r, ps, records, c, w₁, rooted, resolved, asked, disk, allBuilt⟩ := work_eq_ok success
  rw [execute, checked]
  dsimp only
  rw [success]
  exact ⟨checked, rfl, ⟨r, ps, records, c, w₁, report, w', rooted, resolved, asked, success, disk, allBuilt,
    printed_report o s.runId report, rfl⟩, rfl, rfl, rfl⟩

/-- The command ends in exactly one of three ways, whatever the options, the disk and the order of the steps: the options
are refused, a failure is printed, or the report is printed and all packages were built. -/
theorem execute_ends (o : Options) (schedule : List Nat) (s : Setting) :
    (∃! e, Ends o schedule s (execute o schedule s) e) ∧
      ∀ args, Completion.request? args = none → Options.read (args.length + 1) {} args = .ok (o, []) → o.help = false →
        run args s = execute o [] s := by
  refine ⟨?_, fun args plain read noHelp => run_eq_execute plain read noHelp s⟩
  have ends : ∃ e, Ends o schedule s (execute o schedule s) e := by
    cases checked : o.check [] with
    | error p => exact ⟨.rejected, rejected_of_check checked⟩
    | ok =>
      rcases result : work o schedule (start s) with ⟨f | report, w'⟩
      · exact ⟨.failed, failed_of_work checked result⟩
      · exact ⟨.built, built_of_work checked result⟩
  obtain ⟨e, ends⟩ := ends
  exact ⟨e, ends, fun e' ends' => Ending.eq_of_exitCode (ends'.exitCode.symm.trans ends.exitCode)⟩

namespace Sample

/-- A pattern that names a package comes before one that leaves the root. -/
def leaving : Setting :=
  ⟨Workspace.Sample.disk "packages: ['a', '../b']\n" [(["a"], .directory), (["a", "x.ts"], .file [1]),
    (["a", "dist"], .directory), (["a", "dist", "old.js"], .file [2])], .stepping 0, "7"⟩

def options : Options := { root := "/", jobs := 2, format := "json", given := ["format", "jobs", "root"] }

end Sample

theorem execute_ends_sample :
    run ["--root", "/", "-j", "2", "--format=json"] Sample.leaving = execute Sample.options [] Sample.leaving ∧
      Failed Sample.options [] Sample.leaving (execute Sample.options [] Sample.leaving) ∧
      (execute Sample.options [] Sample.leaving).printed =
        "\x7b\"status\":\"error\",\"error\":\x7b\"code\":\"E202\",\"message\":\"../b wasn't nested in /\"\x7d,\"run_id\":\"7\"\x7d\n" ∧
      (execute Sample.options [] Sample.leaving).disk = Sample.leaving.disk := by
  obtain ⟨⟨e, ends, -⟩, read⟩ := execute_ends Sample.options [] Sample.leaving
  have exit : (execute Sample.options [] Sample.leaving).exitCode = 2 := by decide +kernel
  have outside : (work Sample.options [] (start Sample.leaving)).1.map (fun _ => ()) =
      .error (.fault (.outside "/" "../b")) := by decide +kernel
  refine ⟨read _ (by decide +kernel) (by decide +kernel) rfl, ?_⟩
  have code := ends.exitCode.symm.trans exit
  cases e with
  | rejected | built => simp [Ending.exitCode] at code
  | failed =>
    obtain ⟨f, w', failed, -, -, unchanged⟩ := Failed.failure ends
    rw [failed] at outside
    obtain rfl := Except.error.inj outside
    exact ⟨ends, by decide +kernel, unchanged (by decide)⟩

end Endings

end Program

end Distill
