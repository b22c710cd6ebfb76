import Distill.Proofs.Build.Interrupted
import Distill.Proofs.Workspace.Rebuild

/-!
The output directories of the packages of a workspace, for any manifest and any disk. They are all different. One of
them lies in another one if and only if the package it belongs to does, which patterns that reach into old output can
bring about (`resolve_nested`). Packages that do not lie in the output of each other keep out of each other's way.
-/
namespace Distill.Workspace

open Build

variable {d : Disk} {root name : String}

/-- An empty root has nothing below it. -/
theorem root_ne_empty {l : Location} (there : (⟨d, root⟩ : Glob.Base).isDirectory l = true) : root ≠ "" := by
  rintro rfl
  rw [Glob.Base.isDirectory, Glob.Base.path, if_pos rfl, Disk.isDirectory, Disk.lookUp, Disk.locate, if_pos rfl] at there
  cases there

/-- The packages of a workspace lie at different locations below its root. -/
theorem resolve_locations {ps : List Package} {records : List Log.Record}
    (resolved : resolve d root name = (.ok ps, records)) :
    ∃ ls : List Location, ps = ls.map (packageAt root) ∧ ls.Nodup ∧
      ∀ l ∈ ls, (∀ n ∈ l, isName n = true) ∧ root ≠ "" := by
  obtain ⟨m, -, packages⟩ := loaded_of_resolve resolved
  obtain ⟨dirs, expanded, rfl⟩ := packagesOf_eq_ok packages
  obtain ⟨nodup, -, members⟩ := expandAll_eq_ok expanded
  have texts : ∀ s ∈ dirs, ∃ l, s = Glob.text l ∧ (∀ n ∈ l, isName n = true) ∧ root ≠ "" := by
    intro s member
    obtain ⟨pattern, -, more, found, inside⟩ := (members s).1 member
    rw [expand] at found
    split at found
    · cases found
    · split at found
      · rename_i ls eq
        obtain rfl := Except.ok.inj found
        obtain ⟨l, inLs, rfl⟩ := List.mem_map.1 inside
        obtain ⟨named, there⟩ := Glob.Base.named_of_directories? eq l inLs
        exact ⟨l, rfl, named, root_ne_empty there⟩
      · cases found
  obtain ⟨ls, rfl, all⟩ := exists_locations texts
  exact ⟨ls, map_packageAt root ls, nodup.of_map, all⟩

/-- A package lies in the output directory of another one. -/
def LiesIn (cwd : String) (q p : Package) : Prop := Path.location cwd p.outputDir <+: Path.location cwd q.dir

instance (cwd : String) (q p : Package) : Decidable (LiesIn cwd q p) := inferInstanceAs (Decidable (_ <+: _))

section Below

variable {l k : Location}

theorem location_packageAt (some : root ≠ "") (named : ∀ n ∈ l, isName n = true) (cwd : String) :
    Path.location cwd (packageAt root l).dir = Path.location cwd root ++ l ∧
      Path.location cwd (packageAt root l).outputDir = Path.location cwd root ++ l ++ ["dist"] := by
  have reaches : Path.Reaches cwd root (Path.location cwd root) := ⟨some, rfl⟩
  obtain ⟨base, names, leads, eq⟩ := leads_packageAt reaches named
  rw [leads.location_eq, (Package.leads_outputDir leads).location_eq, ← List.append_assoc, eq]
  exact ⟨rfl, rfl⟩

/-- One output directory lies in another one if the package does. -/
theorem output_below_iff (some : root ≠ "") (namedK : ∀ n ∈ k, isName n = true) (namedL : ∀ n ∈ l, isName n = true)
    (different : k ≠ l) (cwd : String) :
    Path.location cwd (packageAt root k).outputDir <+: Path.location cwd (packageAt root l).outputDir ↔
      LiesIn cwd (packageAt root l) (packageAt root k) := by
  rw [LiesIn, (location_packageAt some namedK cwd).2, (location_packageAt some namedL cwd).2,
    (location_packageAt some namedL cwd).1, List.prefix_concat_iff]
  refine or_iff_right fun same => different ?_
  exact List.append_cancel_left (List.append_cancel_right same)

end Below

/-- The packages of a workspace are different and have different output directories. An output directory lies in another
one only if its package does; otherwise building one of two packages leaves the output of the other alone. -/
theorem resolve_outputs {ps : List Package} {records : List Log.Record}
    (resolved : resolve d root name = (.ok ps, records)) :
    ps.Nodup ∧ ∀ p ∈ ps, ∀ q ∈ ps, p ≠ q → p.outputDir ≠ q.outputDir ∧
      (∀ cwd, Path.location cwd p.outputDir <+: Path.location cwd q.outputDir ↔ LiesIn cwd q p) ∧
      ∀ (c : ModuleCompiler) (w : World), w.disk.tree.LinkFree →
        ¬ LiesIn w.disk.cwd q p → ¬ LiesIn w.disk.cwd p q → ∀ k, Path.location w.disk.cwd q.outputDir <+: k →
          (buildPackage c p w).2.disk.tree.get? k = w.disk.tree.get? k := by
  obtain ⟨ls, rfl, nodup, all⟩ := resolve_locations resolved
  constructor
  · refine (List.nodup_map_iff_inj_on nodup).2 fun k memberK l memberL same => ?_
    exact Glob.text_injective (all k memberK).1 (all l memberL).1 (congrArg Package.packageRoot same)
  · intro p memberP q memberQ different
    obtain ⟨k, memberK, rfl⟩ := List.mem_map.1 memberP
    obtain ⟨l, memberL, rfl⟩ := List.mem_map.1 memberQ
    obtain ⟨namedK, some⟩ := all k memberK
    obtain ⟨namedL, -⟩ := all l memberL
    have differentAt : k ≠ l := fun same => different (congrArg _ same)
    refine ⟨?_, output_below_iff some namedK namedL differentAt, ?_⟩
    · intro same
      have locations := congrArg (Path.location "") same
      rw [(location_packageAt some namedK "").2, (location_packageAt some namedL "").2] at locations
      exact differentAt (List.append_cancel_left (List.append_cancel_right locations))
    · intro c w free outsideP outsideQ j below
      have reaches : Path.Reaches w.disk.cwd root (Path.location w.disk.cwd root) := ⟨some, rfl⟩
      obtain ⟨base, names, leads, -⟩ := leads_packageAt reaches namedK
      have framed := (buildPackage_confined c free (.of_dir leads)).1
      refine framed.entries j fun inside => ?_
      rw [List.append_assoc, ← (Package.leads_outputDir leads).location_eq] at inside
      -- below both of them, one lies in the other
      rcases List.prefix_or_prefix_of_prefix inside below with nested | nested
      · exact outsideP ((output_below_iff some namedK namedL differentAt _).1 nested)
      · exact outsideQ ((output_below_iff some namedL namedK differentAt.symm _).1 nested)

theorem resolve_outputs_sample :
    ∃ records, resolve Sample.pair "/" "" = (.ok [⟨"/", "a"⟩, ⟨"/", "c"⟩], records) ∧
      (Package.mk "/" "a").outputDir ≠ (Package.mk "/" "c").outputDir ∧
      (buildPackage Build.Sample.compiler ⟨"/", "a"⟩ (Sample.world Sample.pair)).2.disk.tree.get? ["c", "dist", "old.js"] =
        Sample.pair.tree.get? ["c", "dist", "old.js"] := by
  have packages : (resolve Sample.pair "/" "").1 = .ok [⟨"/", "a"⟩, ⟨"/", "c"⟩] := by decide +kernel
  rcases resolved : resolve Sample.pair "/" "" with ⟨result, records⟩
  rw [resolved] at packages
  dsimp only at packages
  subst packages
  obtain ⟨outputs, -, apart⟩ := (resolve_outputs resolved).2 ⟨"/", "a"⟩ (by simp) ⟨"/", "c"⟩ (by simp) (by decide)
  refine ⟨records, rfl, outputs, ?_⟩
  exact apart Build.Sample.compiler (Sample.world Sample.pair) (by decide +kernel) (by decide +kernel) (by decide +kernel)
    ["c", "dist", "old.js"] (by decide +kernel)

namespace Sample

/-- A package and its old output, which the manifest names too. -/
def reaching : Disk :=
  disk "packages: ['a', 'a/dist']\n" [(["a"], .directory), (["a", "x.ts"], .file [1]), (["a", "dist"], .directory),
    (["a", "dist", "y.ts"], .file [2])]

end Sample

open Sample in
/-- An output directory may lie in that of another package, and it then goes with it when that package is built. -/
theorem resolve_nested :
    reaching.tree.LinkFree ∧ (resolve reaching "/" "").1 = .ok [⟨"/", "a"⟩, ⟨"/", "a/dist"⟩] ∧
      Path.location "/" (Package.mk "/" "a").outputDir <+: Path.location "/" (Package.mk "/" "a/dist").outputDir ∧
      (buildPackage Build.Sample.compiler ⟨"/", "a/dist"⟩ (world reaching)).2.disk.tree.get? ["a", "dist", "dist", "y.js"] =
        some (.file [2, 2]) ∧
      (buildPackage Build.Sample.compiler ⟨"/", "a"⟩
        (buildPackage Build.Sample.compiler ⟨"/", "a/dist"⟩ (world reaching)).2).2.disk.tree.get?
          ["a", "dist", "dist", "y.js"] = none := by
  decide +kernel

end Distill.Workspace
