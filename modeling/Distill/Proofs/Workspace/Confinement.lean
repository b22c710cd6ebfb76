import Distill.Proofs.Build.Scheduled
import Distill.Proofs.Disk.Homing
import Distill.Proofs.Workspace.Outputs

/-!
What a run leaves alone. The path of a package leads on from that of the root, and so a step of its job stays in the
root if no link there leads out (`step_inside`); a run then changes nothing outside (`buildBy_confined`). Patterns are
checked as texts only. A link that leads out of the root is followed, and the package is built where it leads
(`buildBy_follows`).
-/
namespace Distill

namespace Build

section Sources

/-- A source as it is listed: names, the last of which is that of a source. -/
structure Proper (s : String) : Prop where
  source : IsSource (Path.pieces s)
  named : ∀ n ∈ Path.pieces s, isName n = true

/-- What is listed as a source is proper, links or not. -/
theorem proper_of_mem_sources {d : Disk} {dir s : String} (member : s ∈ sources d dir) : Proper s := by
  rw [sources, Text.mem_sorted] at member
  obtain ⟨r, listed, rfl⟩ := List.mem_map.1 member
  obtain ⟨here, visited, listed⟩ := List.mem_flatMap.1 listed
  rw [sourcesIn] at listed
  obtain ⟨n, found, rfl⟩ := List.mem_map.1 (List.mem_filter.1 listed).1
  obtain ⟨found, ends⟩ := List.mem_filter.1 found
  have namedHere := Glob.Base.named_of_mem_descend (by simp) visited
  have name : isName n = true := by
    cases names : Glob.Base.names? ⟨d, dir⟩ here with
    | none =>
      rw [names] at found
      cases found
    | some all =>
      rw [names] at found
      exact Glob.Base.named_of_names? names n found
  have named := List.forall_mem_append.2 ⟨namedHere, List.forall_mem_singleton.2 name⟩
  have pieces : Path.pieces (Glob.text (here ++ [n])) = here ++ [n] := by
    rw [Glob.text_of_ne_nil (by simp), Path.pieces_ofPieces_names (by simp) named]
  constructor
  · rw [pieces]
    exact ⟨here, n, rfl, ends⟩
  · rw [pieces]
    exact named

end Sources

/-- A package whose directory a path leads on to, through names. -/
def LiesBelow (cwd root : String) (p : Package) : Prop :=
  ∃ base names l, Path.Leads cwd root base names ∧ Path.Leads cwd p.dir base (names ++ l)

section Actions

variable {c : ModuleCompiler} {p : Package} {s cwd root : String} {place : Location} {w : World}

theorem removeOutput_confined (closed : w.disk.Closed cwd root place) (below : LiesBelow cwd root p) :
    Disk.Confined place w.disk (removeOutput p w).2.disk := by
  obtain ⟨base, names, l, way, leads⟩ := below
  rw [removeOutput]
  split
  · rename_i d cleaned
    rw [clean] at cleaned
    split at cleaned
    · obtain rfl := Except.ok.inj cleaned
      exact closed.confined_removeAll way (Package.leads_outputDir leads)
    · cases cleaned
    · obtain rfl := Except.ok.inj cleaned
      exact .refl place w.disk
    · cases cleaned
  · exact .refl place w.disk

theorem prepare_confined (closed : w.disk.Closed cwd root place) (below : LiesBelow cwd root p) (proper : Proper s) :
    Disk.Confined place w.disk (prepare p s w).2.disk := by
  obtain ⟨base, names, l, way, leads⟩ := below
  obtain ⟨front, stem, eq⟩ := proper.source.exists_stem
  have output := leads_outputPath (.of_dir leads) proper.source proper.named
  rw [(outputOf_eq eq proper.named).1, ← List.append_assoc] at output
  have parent := output.parent
  rw [List.append_assoc, List.append_assoc] at parent
  rw [prepare]
  split
  · exact .refl place w.disk
  · dsimp only
    split
    · rename_i d made
      exact closed.confined_makeDirectories way parent made
    · exact .refl place w.disk

theorem compileSource_disk (c : ModuleCompiler) (p : Package) (s : String) (w : World) :
    (compileSource c p s w).2.disk = w.disk := by
  rw [compileSource]
  dsimp only
  split
  · rfl
  · split <;> rfl

theorem store_confined {watch : Stopwatch} {output : Text.Bytes} (closed : w.disk.Closed cwd root place)
    (below : LiesBelow cwd root p) (proper : Proper s) :
    Disk.Confined place w.disk (store p s watch output w).2.disk := by
  obtain ⟨base, names, l, way, leads⟩ := below
  have output := leads_outputPath (.of_dir leads) proper.source proper.named
  rw [List.append_assoc, List.append_assoc] at output
  rw [store]
  dsimp only
  split
  · rename_i d written
    exact closed.confined_writeFile way output written
  · exact .refl place w.disk

end Actions

section Jobs

variable {c : ModuleCompiler} {cwd root : String} {place : Location}

/-- The sources that a job has listed and not yet stored. -/
def Phase.queue : Phase → List String
  | .preparing todo => todo
  | .compiling source _ todo | .storing source _ _ todo => source :: todo
  | _ => []

/-- A job of a package that lies below a path. -/
structure Job.Inside (cwd root : String) (j : Job) : Prop where
  package : LiesBelow cwd root j.package
  queue : ∀ s ∈ j.phase.queue, Proper s

theorem after_confined {α : Type} {d : Disk} {j : Job} {a : Except Failure α × World} {next : α → Job}
    (confined : Disk.Confined place d a.2.disk) : Disk.Confined place d (j.after a next).2.disk := by
  obtain ⟨result, world⟩ := a
  cases result <;> exact confined

theorem after_inside {α : Type} {j : Job} {a : Except Failure α × World} {next : α → Job}
    (inside : LiesBelow cwd root j.package) (going : ∀ x, a.1 = .ok x → (next x).Inside cwd root) :
    (j.after a next).1.Inside cwd root := by
  obtain ⟨result, world⟩ := a
  cases result with
  | ok x => exact going x rfl
  | error f =>
    refine ⟨inside, fun s member => ?_⟩
    cases member

/-- A step of a job changes nothing outside a closed directory that its package lies in. -/
theorem step_inside {j : Job} {w : World} (closed : w.disk.Closed cwd root place) (inside : j.Inside cwd root) :
    Disk.Confined place w.disk (j.step c w).2.disk ∧ (j.step c w).1.Inside cwd root := by
  obtain ⟨package, phase, timings⟩ := j
  obtain ⟨below, queue⟩ := inside
  cases phase with
  | removing =>
    refine ⟨after_confined (removeOutput_confined closed below), after_inside below fun _ _ => ⟨below, ?_⟩⟩
    intro s member
    cases member
  | listing =>
    refine ⟨.refl place w.disk, after_inside below fun found listed => ⟨below, fun s member => ?_⟩⟩
    obtain rfl := Except.ok.inj listed
    exact proper_of_mem_sources member
  | preparing todo =>
    cases todo with
    | nil =>
      refine ⟨.refl place w.disk, below, fun s member => ?_⟩
      cases member
    | cons source todo =>
      have proper := queue source List.mem_cons_self
      exact ⟨after_confined (prepare_confined closed below proper), after_inside below fun _ _ => ⟨below, queue⟩⟩
  | compiling source watch todo =>
    refine ⟨after_confined ?_, after_inside below fun _ _ => ⟨below, queue⟩⟩
    rw [compileSource_disk]
    exact .refl place w.disk
  | storing source watch output todo =>
    have proper := queue source List.mem_cons_self
    refine ⟨after_confined (store_confined closed below proper), after_inside below fun _ _ => ⟨below, ?_⟩⟩
    exact fun s member => queue s (List.mem_cons_of_mem _ member)
  | finished | failed => exact ⟨.refl place w.disk, below, queue⟩

/-- A run changes nothing outside a closed directory that its packages lie in. -/
theorem runBy_confined {ps : List Package} {w : World} (closed : w.disk.Closed cwd root place)
    (below : ∀ p ∈ ps, LiesBelow cwd root p) (jobs : Nat) (schedule : List Nat) :
    Disk.Confined place w.disk (runBy c jobs schedule ps w).2.disk := by
  have invariant : Invariant c (fun v => Disk.Confined place w.disk v.disk) (Job.Inside cwd root) := by
    refine ⟨fun j v confined inside => ?_, fun v confined => ?_, fun v confined => confined⟩
    · obtain ⟨next, insideNext⟩ := step_inside (c := c) (closed.confined confined) inside
      exact ⟨confined.trans next, insideNext⟩
    · rw [(readWall_same v).1]
      exact confined
  have started : ∀ p ∈ ps, (Job.start p).Inside cwd root := by
    refine fun p member => ⟨below p member, fun s queued => ?_⟩
    cases queued
  exact (invariant.runBy (.refl place w.disk) started jobs schedule).world

end Jobs

end Build

namespace Workspace

open Build

/-- Resolves a workspace and builds its packages, at most `jobs` of them at a time. If there may be several, their steps
are interleaved as the schedule says. -/
def buildBy (c : ModuleCompiler) (root name : String) (jobs : Nat) (schedule : List Nat) : Action Report := fun w =>
  match (resolve w.disk root name).1 with
  | .ok ps => runBy c jobs schedule ps w
  | .error f => (.error f, w)

/-- The root of a workspace that its links do not lead out of. -/
structure Enclosed (d : Disk) (root : String) (place : Location) : Prop where
  /-- This is where the root is, all links followed. -/
  reached : d.locate true root = .ok ⟨place, some .directory⟩
  homing : d.tree.Homing place
  /-- Whatever happens there, its path still leads there when it is normalised, -/
  spelled : ∀ d', Disk.Confined place d d' → d'.locate true (Path.clean root) = .ok ⟨place, some .directory⟩
  /-- and the working directory is still where it was. -/
  working : ∀ d', Disk.Confined place d d' → d'.workingLocation = d.workingLocation

section Enclosed

variable {d : Disk} {root name : String} {place l : Location}

theorem Enclosed.closed (enclosed : Enclosed d root place) : ∃ cwd, d.Closed cwd (Path.clean root) place := by
  obtain ⟨cwd, working⟩ := d.exists_working
  exact ⟨cwd, enclosed.homing, enclosed.spelled, fun d' confined => (enclosed.working d' confined).trans working.symm⟩

/-- The path of a package leads on from that of the root. -/
theorem liesBelow_packageAt (some : root ≠ "") (named : ∀ n ∈ l, isName n = true) (cwd : String) :
    LiesBelow cwd (Path.clean root) (packageAt root l) := by
  obtain ⟨base, names, leads⟩ := Path.leads_clean cwd root
  obtain ⟨ups, eq, dots, level⟩ := leads.split
  have pieces : ∃ stays, Path.pieces (Path.clean root ++ "/" ++ Glob.text l) = ups ++ (names ++ l) ++ stays ∧
      ∀ s ∈ stays, s = "" ∨ s = "." := by
    rw [Path.pieces_append, eq]
    by_cases top : l = []
    · exact ⟨["."], by rw [top, List.append_nil]; rfl, by simp⟩
    · refine ⟨[], ?_, by simp⟩
      rw [Glob.text_of_ne_nil top, Path.pieces_ofPieces_names top named, List.append_nil, List.append_assoc]
  obtain ⟨stays, pieces, stay⟩ := pieces
  have below := Path.leads_clean_of_pieces cwd pieces dots (List.forall_mem_append.2 ⟨leads.named, named⟩) stay
  rw [String.append_assoc, Path.startOf_append leads.nonempty, level, ← String.append_assoc,
    Path.clean_clean_append some, ← Path.join_eq_clean some] at below
  exact ⟨base, names, l, leads, below⟩

theorem liesBelow_of_resolve {ps : List Package} {records : List Log.Record}
    (resolved : resolve d root name = (.ok ps, records)) (cwd : String) :
    ∀ p ∈ ps, LiesBelow cwd (Path.clean root) p := by
  obtain ⟨ls, rfl, -, all⟩ := resolve_locations resolved
  intro p member
  obtain ⟨l, inside, rfl⟩ := List.mem_map.1 member
  obtain ⟨named, some⟩ := all l inside
  exact liesBelow_packageAt some named cwd

end Enclosed

/-- If the links in a workspace do not lead out of it, every package that is found is in the workspace, and whether a
run ends well or fails, it leaves everything outside the root as it was. -/
theorem buildBy_confined {w : World} {root : String} {place : Location} (enclosed : Enclosed w.disk root place)
    (c : ModuleCompiler) (name : String) (jobs : Nat) (schedule : List Nat) :
    (∀ k, ¬ place <+: k → (buildBy c root name jobs schedule w).2.disk.tree.get? k = w.disk.tree.get? k) ∧
      ∀ ps records, resolve w.disk root name = (.ok ps, records) →
        ∀ p ∈ ps, ∀ q, w.disk.locate true p.dir = .ok q → place <+: q.location := by
  obtain ⟨cwd, closed⟩ := enclosed.closed
  constructor
  · rw [buildBy]
    rcases resolved : resolve w.disk root name with ⟨f | ps, records⟩
    · exact fun _ _ => rfl
    · exact (runBy_confined closed (liesBelow_of_resolve resolved cwd) jobs schedule).entries
  · intro ps records resolved p member q found
    obtain ⟨base, names, l, way, leads⟩ := liesBelow_of_resolve resolved cwd p member
    exact closed.locate_inside way leads found

namespace Sample

def treeOf (entries : List (Location × Entry)) : FileTree := entries.foldl (fun t x => t.set x.1 x.2) .empty

/-- A workspace with a package that is a link. Another link leads to the workspace, and the working directory is
there. -/
def linked (target : String) : Disk :=
  ⟨treeOf [(["l"], .link "w"), (["out"], .directory), (["out", "y.ts"], .file [2]), (["out", "dist"], .directory),
    (["out", "dist", "old.js"], .file [3]), (["w"], .directory), (["w", "a"], .link target), (["w", "b"], .directory),
    (["w", "b", "x.ts"], .file [1]), (["w", "pnpm-workspace.yaml"], .file (Text.encode "packages: ['a']\n"))], "/l"⟩

/-- What a run in a sample leaves. -/
def built (d : Disk) (root : String) : FileTree := (buildBy Build.Sample.compiler root "" 1 [] (world d)).2.disk.tree

theorem linked_enclosed : Enclosed (linked "b") "." ["w"] := by
  have outside : (linked "b").tree.get? ["l"] = some (.link "w") := by decide +kernel
  have inside : (linked "b").tree.get? ["w"] = some .directory := by decide +kernel
  have working : ∀ d', Disk.Confined ["w"] (linked "b") d' → d'.workingLocation = ["w"] := by
    intro d' confined
    have link := (confined.entries ["l"] (by decide)).trans outside
    have reached : d'.tree.locate true Disk.linkLimit [] ["", "l"] = .ok ⟨["w"], some .directory⟩ := by
      have relative : Path.isAbsolute "w" = false := by decide
      have name : Path.pieces "w" = ["w"] := by decide
      rw [Disk.linkLimit, FileTree.locate]
      simp [FileTree.walk, link, FileTree.linkStart, relative, name, FileTree.locate, confined.directory inside]
    rw [Disk.workingLocation, confined.cwd, show Path.pieces (linked "b").cwd = ["", "l"] by decide, reached]
  have way : ∀ d', Disk.Confined ["w"] (linked "b") d' → d'.locate true "." = .ok ⟨["w"], some .directory⟩ := by
    intro d' confined
    have start : d'.start "." = ["w"] := working d' confined
    have dot : Path.pieces "." = ["."] := by decide
    rw [Disk.locate, if_neg (by decide), start, dot, Disk.linkLimit, FileTree.locate]
    simp [FileTree.walk, confined.directory inside]
  refine ⟨way _ (.refl _ _), by decide +kernel, way, fun d' confined => ?_⟩
  rw [working d' confined, working _ (.refl _ _)]

end Sample

open Sample

theorem buildBy_confined_sample :
    Enclosed (linked "b") "." ["w"] ∧ (built (linked "b") ".").get? ["w", "b", "dist", "x.js"] = some (.file [1, 1]) ∧
      (built (linked "b") ".").get? ["out", "dist", "old.js"] = (linked "b").tree.get? ["out", "dist", "old.js"] ∧
      ∃ records, resolve (linked "b") "." "" = (.ok [⟨".", "a"⟩], records) ∧
        (linked "b").locate true "a" = .ok ⟨["w", "b"], some .directory⟩ ∧ ["w"] <+: ["w", "b"] := by
  have packages : (resolve (linked "b") "." "").1 = .ok [⟨".", "a"⟩] := by decide +kernel
  have found : (linked "b").locate true "a" = .ok ⟨["w", "b"], some .directory⟩ := by decide +kernel
  have enclosed : Enclosed (world (linked "b")).disk "." ["w"] := linked_enclosed
  obtain ⟨kept, inside⟩ := buildBy_confined enclosed Build.Sample.compiler "" 1 []
  refine ⟨enclosed, by decide +kernel, kept _ (by decide), ?_⟩
  rcases resolved : resolve (linked "b") "." "" with ⟨result, records⟩
  rw [resolved] at packages
  dsimp only at packages
  subst packages
  exact ⟨records, rfl, found, inside _ records resolved ⟨".", "a"⟩ (by simp) _ found⟩

namespace Sample

/-- A link that leads back into the workspace as long as there is a link in old output. -/
def replaced : Disk :=
  ⟨treeOf [(["out"], .directory), (["out", "y.ts"], .file [2]), (["out", "dist"], .directory),
    (["out", "dist", "old.js"], .file [3]), (["w"], .directory), (["w", "c"], .directory),
    (["w", "c", "c"], .directory), (["w", "c", "c", "c"], .directory), (["w", "c", "c", "c", "c"], .directory),
    (["w", "out"], .directory),
    (["w", "m"], .link "p/dist/l/../../../../out"), (["w", "p"], .directory), (["w", "p", "l"], .directory),
    (["w", "p", "l", "x.ts"], .file [1]), (["w", "p", "dist"], .directory),
    (["w", "p", "dist", "l"], .link "../../c/c/c/c"),
    (["w", "pnpm-workspace.yaml"], .file (Text.encode "packages: ['p', 'm']\n"))], "/"⟩

/-- A link that the path of a root leads through and up again. -/
def detour : Disk :=
  disk "packages: ['a']\n" [(["a"], .directory), (["a", "y.ts"], .file [2]), (["a", "dist"], .directory),
    (["a", "dist", "old.js"], .file [3]), (["w"], .directory), (["w", "a"], .directory), (["w", "l"], .link "x/y"),
    (["w", "x"], .directory), (["w", "x", "y"], .directory)]

end Sample

/-- A link that leads out of a workspace is followed, and what it leads to is built. So is one that leads out after an
output directory has been replaced, and the packages at the normalised path of the root, wherever the root is. -/
theorem buildBy_follows :
    ((linked "../out").locate true "." = .ok ⟨["w"], some .directory⟩ ∧
      (resolve (linked "../out") "." "").1 = .ok [⟨".", "a"⟩] ∧
      (linked "../out").tree.get? ["out", "dist", "old.js"] = some (.file [3]) ∧
      (built (linked "../out") ".").get? ["out", "dist", "old.js"] = none ∧
      (built (linked "../out") ".").get? ["out", "dist", "y.js"] = some (.file [2, 2])) ∧
    (replaced.locate true "/w/m" = .ok ⟨["w", "out"], some .directory⟩ ∧
      replaced.tree.get? ["out", "dist", "old.js"] = some (.file [3]) ∧
      (built replaced "/w").get? ["out", "dist", "old.js"] = none) ∧
    (detour.locate true "/w/l/../.." = .ok ⟨["w"], some .directory⟩ ∧
      detour.tree.get? ["a", "dist", "old.js"] = some (.file [3]) ∧
      (built detour "/w/l/../..").get? ["a", "dist", "old.js"] = none) := by
  decide +kernel

end Workspace

end Distill
