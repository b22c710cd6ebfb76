import Mathlib.Data.Fintype.Defs
import Distill.Proofs.Workspace.Progress

/-!
Building a whole workspace twice. The second run finds the packages of the first that are left, and perhaps others in
outputs of the first, which have nothing to build (`build_again`).
-/
namespace Distill.Workspace

open Build

/-- Two lists of packages have the same number of files if they differ only in packages that lie in outputs. -/
private theorem sum_files_eq {files : Location → Nat} {ks ls : List Location} (nodupK : ks.Nodup) (nodupL : ls.Nodup)
    (none : ∀ l ∈ ks ++ ls, "dist" ∈ l → files l = 0) (same : ∀ l, "dist" ∉ l → (l ∈ ks ↔ l ∈ ls)) :
    (ks.map files).sum = (ls.map files).sum := by
  have outside : ∀ xs : List Location, (∀ l ∈ xs, "dist" ∈ l → files l = 0) →
      (xs.map files).sum = ((xs.filter fun l => "dist" ∉ l).map files).sum := by
    intro xs
    induction xs with
    | nil => simp
    | cons x xs ih =>
      intro zero
      have rest := ih fun l member => zero l (by simp [member])
      rw [List.map_cons, List.sum_cons, rest, List.filter_cons]
      by_cases inside : "dist" ∈ x
      · simp [inside, zero x (by simp) inside]
      · simp [inside]
  rw [outside ks fun l member => none l (by simp [member]), outside ls fun l member => none l (by simp [member])]
  have perm : (ks.filter fun l => "dist" ∉ l).Perm (ls.filter fun l => "dist" ∉ l) := by
    refine (List.perm_ext_iff_of_nodup (nodupK.filter _) (nodupL.filter _)).2 fun l => ?_
    rw [List.mem_filter, List.mem_filter]
    exact and_congr_left fun outside => same l (by simpa using outside)
  exact (perm.map files).sum_nat

/-- The manifest lies outside the outputs. -/
theorem Kept.load_eq {d e : Disk} {root : String} {place : Location} (kept₀ : Kept place d.tree d.tree)
    (kept : Kept place d.tree e.tree) (cwd : e.cwd = d.cwd) (reaches : Path.Reaches d.cwd root place) :
    Manifest.load e (Path.join [root, Manifest.defaultName]) = Manifest.load d (Path.join [root, Manifest.defaultName]) := by
  have some := reaches.nonempty
  obtain ⟨base, names, leads⟩ := Path.leads_clean d.cwd (root ++ "/" ++ Manifest.defaultName)
  rw [← Path.join_eq_clean some] at leads
  have pieces : Path.pieces Manifest.defaultName = [Manifest.defaultName] := by decide
  have location : base ++ names = place ++ [Manifest.defaultName] := by
    rw [← leads.location_eq, Path.location_join some, reaches.location, pieces, Location.along_names _ (by decide)]
  have same : ∀ k, k <+: base ++ names → e.tree.get? k = d.tree.get? k := by
    intro k above
    refine kept.outside k ?_
    rintro ⟨r, rfl, inside⟩
    rw [location] at above
    have member := ((List.prefix_append_right_inj place).1 above).subset inside
    exact absurd member (by decide)
  rw [Manifest.load, Manifest.load, Disk.contents_congr kept.linkFree kept₀.linkFree cwd (cwd ▸ leads) same]

/-- A run in which all packages are built. -/
theorem Progress.run {c : ModuleCompiler} {root : String} {place : Location} {ls : List Location} {w w' : World}
    {report : Report} (kept : Kept place w.disk.tree w.disk.tree) (reaches : Path.Reaches w.disk.cwd root place)
    (named : ∀ l ∈ ls, ∀ n ∈ l, isName n = true) (fresh : w.collector = .empty)
    (success : Build.run c 1 (ls.map (packageAt root)) w = (.ok report, w')) (running : w'.canceled = false) :
    w'.disk.cwd = w.disk.cwd ∧ Progress c root w.disk.cwd place w.disk.tree ls w'.disk.tree ∧
      report.total.files = (ls.map (filesAt root w.disk.cwd place w.disk.tree)).sum := by
  obtain ⟨built, w₁, done, disk, canceled, files⟩ := run_eq_ok success
  obtain ⟨diskR, -, collectorR⟩ := readWall_same w
  have start : Progress c root w.readWall.2.disk.cwd place w.disk.tree [] w.readWall.2.disk.tree := by
    rw [diskR]
    exact ⟨kept, by simp, by simp, fun _ _ _ _ => Or.inr rfl⟩
  obtain ⟨cwd, progress, recorded⟩ :=
    start.inOrder kept (by rw [diskR]; exact reaches) named done (canceled ▸ running)
  rw [diskR, ← disk] at cwd progress
  refine ⟨cwd, progress, ?_⟩
  rw [files, recorded, diskR, collectorR, fresh]
  simp [Collector.empty]

/-- A run after another one. All packages in it are still there, and those that were there before were built. -/
theorem Progress.rerun {c : ModuleCompiler} {root : String} {place : Location} {t₀ : FileTree} {done ls : List Location}
    {v : World} (progress : Progress c root v.disk.cwd place t₀ done v.disk.tree) (kept₀ : Kept place t₀ t₀)
    (reaches : Path.Reaches v.disk.cwd root place)
    (there : ∀ l ∈ ls, v.disk.tree.get? (place ++ l) = some .directory)
    (before : ∀ l ∈ ls, t₀.get? (place ++ l) = some .directory → l ∈ done) (fresh : v.collector = .empty)
    (running : v.canceled = false) :
    ∃ report v', Build.run c 1 (ls.map (packageAt root)) v = (.ok report, v') ∧ v'.disk = v.disk ∧
      report.total.files = (ls.map (filesAt root v.disk.cwd place t₀)).sum := by
  have steady : ∀ l ∈ ls, ∀ u : World, u.disk = v.disk → u.canceled = false → ∃ timings u',
      buildPackage c (packageAt root l) u = (.ok timings, u') ∧ u'.disk = v.disk ∧ u'.canceled = false ∧
        timings.length = filesAt root v.disk.cwd place t₀ l := by
    intro l member u diskU runningU
    have named : ∀ n ∈ l, isName n = true := FileTree.isName_below (there l member)
    obtain ⟨timings, u', success, diskU', runningU'⟩ :=
      progress.settled reaches (there l member) (before l member) diskU runningU
    refine ⟨timings, u', success, diskU', runningU', ?_⟩
    obtain ⟨-, -, -, length⟩ := Kept.build (diskU ▸ progress.kept) (diskU ▸ reaches) named success
    rw [length, diskU, progress.kept.filesAt_eq kept₀ reaches named]
  obtain ⟨disk, canceled, collector⟩ := readWall_same v
  obtain ⟨built, v₁, built_all, disk₁, recorded⟩ := inOrder_of_steady steady disk (canceled.trans running)
  obtain ⟨report, v', success, disk', files⟩ := run_of_inOrder built_all
  refine ⟨report, v', success, disk'.trans disk₁, ?_⟩
  rw [files, recorded, collector, fresh]
  simp [Collector.empty]

/-- Resolves a workspace and builds its packages one after another. -/
def build (c : ModuleCompiler) (root : String) : Action Report := fun w =>
  match (resolve w.disk root Manifest.defaultName).1 with
  | .ok ps => run c 1 ps w
  | .error f => (.error f, w)

theorem build_eq_ok {c : ModuleCompiler} {root : String} {w w' : World} {report : Report} :
    build c root w = (.ok report, w') ↔ ∃ ps records,
      resolve w.disk root Manifest.defaultName = (.ok ps, records) ∧ run c 1 ps w = (.ok report, w') := by
  rw [build]
  rcases resolve w.disk root Manifest.defaultName with ⟨f | ps, records⟩
  · simp
  · simp

/-- No source of a workspace lies in an output directory. -/
def SourcesOutside (place : Location) (t : FileTree) : Prop :=
  ∀ r content, t.get? (place ++ r) = some (.file content) → IsSource r → "dist" ∉ r

theorem sourcesOutside_iff (place : Location) (t : FileTree) :
    SourcesOutside place t ↔ ∀ x ∈ t.entries, place <+: x.1 → x.2 ≠ .directory → x.2.isLink = false →
      x.1.getLast?.any isSourceName = true → "dist" ∉ x.1.drop place.length := by
  constructor
  · rintro outside ⟨k, e⟩ member ⟨r, rfl⟩ notDirectory notLink ends
    obtain ⟨content, rfl⟩ : ∃ content, e = .file content := by
      cases e with
      | directory => exact absurd rfl notDirectory
      | file content => exact ⟨content, rfl⟩
      | link target => cases notLink
    rw [List.drop_left]
    rcases List.eq_nil_or_concat' r with rfl | ⟨front, n, rfl⟩
    · simp
    · rw [← List.append_assoc, List.getLast?_concat] at ends
      exact outside _ content (FileTree.get?_of_mem member) ⟨front, n, rfl, by simpa using ends⟩
  · intro outside r content found source
    obtain ⟨front, n, rfl, ends⟩ := source
    have member := FileTree.mem_of_get?_eq (by simp) found
    simpa using outside _ member (List.prefix_append _ _) nofun rfl (by simpa using ends)

instance (place : Location) (t : FileTree) : Decidable (SourcesOutside place t) :=
  decidable_of_iff _ (sourcesOutside_iff place t).symm

theorem SourcesOutside.kept {place : Location} {t : FileTree} (outside : SourcesOutside place t) (free : t.LinkFree) :
    Kept place t t := by
  refine ⟨free, fun _ _ => rfl, ?_⟩
  rintro k content ⟨r, rfl, inside⟩ source found
  obtain ⟨front, last, rfl⟩ := (List.eq_nil_or_concat' r).resolve_left (List.ne_nil_of_mem inside)
  obtain ⟨above, n, eq, ends⟩ := source
  rw [← List.append_assoc] at eq
  have same := List.singleton_inj.1 (List.append_inj' eq rfl).2
  exact outside _ content found ⟨front, last, rfl, same ▸ ends⟩ inside

/-- A workspace that was built can be built again. The second run succeeds as well, though it may find more packages; it
leaves the disk as it is and reports as many files. The patterns of the manifest have to be plain, and the path of the
root may not lead through an output of the workspace. -/
theorem build_again {c : ModuleCompiler} {root : String} {w w' v : World} {report : Report}
    (free : w.disk.tree.LinkFree) (outside : SourcesOutside (Path.location w.disk.cwd root) w.disk.tree)
    (around : ∀ k ∈ Path.entered w.disk.cwd root, ¬ InOutput (Path.location w.disk.cwd root) k)
    (plain : ∀ m, Manifest.load w.disk (Path.join [root, Manifest.defaultName]) = .ok m →
      ∀ pattern ∈ m.patterns, Glob.Plain (Path.cleanChars pattern.toList))
    (success : build c root w = (.ok report, w')) (running : w'.canceled = false) (fresh : w.collector = .empty)
    (disk : v.disk = w'.disk) (runningV : v.canceled = false) (freshV : v.collector = .empty) :
    ∃ report' v', build c root v = (.ok report', v') ∧ v'.disk = w'.disk ∧ report'.total.files = report.total.files := by
  obtain ⟨ps, records, resolved, ran⟩ := build_eq_ok.1 success
  obtain ⟨m, loaded, packages⟩ := resolve_eq_ok resolved
  have plain := plain m loaded
  have accepted := accepted_of_packagesOf packages
  by_cases clear : root ≠ "" ∧ ∀ k ∈ Path.entered w.disk.cwd root, w.disk.tree.get? k = some .directory
  · have reaches : Path.Reaches w.disk.cwd root (Path.location w.disk.cwd root) := ⟨clear.1, rfl⟩
    generalize Path.location w.disk.cwd root = place at outside around reaches
    have kept₀ := outside.kept free
    -- the first run builds all packages there are
    obtain ⟨ls, _, found, nodup, members⟩ := resolve_of_plain loaded plain accepted
      (Glob.Base.shows_of_clear (b := ⟨w.disk, root⟩) free reaches fun _ => clear.2)
    rw [resolved, Prod.mk.injEq, Except.ok.injEq] at found
    obtain ⟨rfl, -⟩ := found
    have named : ∀ l ∈ ls, ∀ n ∈ l, isName n = true := fun l member => FileTree.isName_below ((members l).1 member).2
    obtain ⟨cwd, progress, files⟩ := Progress.run kept₀ reaches named fresh ran running
    rw [← disk] at cwd progress
    -- the second run finds those that are left, and perhaps new ones in outputs
    have loaded' := (Kept.load_eq kept₀ progress.kept cwd reaches).trans loaded
    have clear' : ∀ k ∈ Path.entered w.disk.cwd root, v.disk.tree.get? k = some .directory :=
      fun k member => (progress.kept.outside k (around k member)).trans (clear.2 k member)
    rw [← cwd] at reaches progress clear'
    obtain ⟨ks, records', resolved', nodup', members'⟩ := resolve_of_plain loaded' plain accepted
      (Glob.Base.shows_of_clear (b := ⟨v.disk, root⟩) progress.kept.linkFree reaches fun _ => clear')
    obtain ⟨report', v', ran', disk', files'⟩ := progress.rerun kept₀ reaches (fun l member => ((members' l).1 member).2)
      (fun l member before => (members l).2 ⟨((members' l).1 member).1, before⟩) freshV runningV
    refine ⟨report', v', build_eq_ok.2 ⟨_, _, resolved', ran'⟩, disk'.trans disk, ?_⟩
    rw [files', files, Int.natCast_inj, cwd]
    rw [cwd] at reaches
    refine sum_files_eq nodup' nodup ?_ ?_
    · intro l member inside
      have namedL : ∀ n ∈ l, isName n = true := by
        rcases List.mem_append.1 member with new | old
        · exact FileTree.isName_below ((members' l).1 new).2
        · exact named l old
      rw [filesAt, (kept₀.erase l).sources_eq_nil reaches namedL inside, List.length_nil]
    · intro l outside
      rw [members', members, progress.kept.outside _ fun inside => outside ((inOutput_append _ _).1 inside)]
  · -- the root cannot be reached, so there are no packages
    have nothing : ∀ l, w.disk.tree.get? (["."] ++ l) ≠ some .directory :=
      fun l found => absurd (FileTree.isName_of_get? found "." (by simp)) (by decide)
    have blocked : root ≠ "" → ∃ k ∈ Path.entered w.disk.cwd root, w.disk.tree.get? k ≠ some .directory := by
      intro some
      by_contra all
      push Not at all
      exact clear ⟨some, all⟩
    obtain ⟨ls, _, found, -, members⟩ := resolve_of_plain loaded plain accepted
      (Glob.Base.shows_of_blocked (b := ⟨w.disk, root⟩) free blocked nothing)
    rw [resolved, Prod.mk.injEq, Except.ok.injEq] at found
    have none : ls = [] :=
      List.eq_nil_iff_forall_not_mem.2 fun l member => absurd ((members l).1 member).2 (nothing l)
    rw [found.1, none, List.map_nil] at resolved ran
    obtain ⟨_, _, ran₀, disk₀, files₀⟩ := run_nil c w
    rw [ran, Prod.mk.injEq, Except.ok.injEq] at ran₀
    obtain ⟨rfl, rfl⟩ := ran₀
    obtain ⟨report', v', ran', disk', files'⟩ := run_nil c v
    refine ⟨report', v', build_eq_ok.2 ⟨[], records, by rw [disk, disk₀]; exact resolved, ran'⟩, disk'.trans disk, ?_⟩
    rw [files', files₀, freshV, fresh]

namespace Sample

/-- A disk with a manifest and some other entries. -/
def disk (manifest : String) (entries : List (Location × Entry)) : Disk :=
  ⟨((["pnpm-workspace.yaml"], .file (Text.encode manifest)) :: entries).foldl (fun t x => t.set x.1 x.2) .empty, "/"⟩

def world (d : Disk) : World := ⟨d, .stepping 1, none, false, [], .empty⟩

/-- All directories are packages, an old output among them. -/
def nested : Disk :=
  disk "packages: ['**']\n" [(["x.ts"], .file [1]), (["a"], .directory), (["a", "y.ts"], .file [2]),
    (["a", "dist"], .directory), (["a", "dist", "old.js"], .file [3]), (["b"], .directory)]

/-- A class is cut by a slash. -/
def cutClass : Disk := disk "packages: ['.', 'dis[t/b]']\n" [(["x.ts"], .file [1])]

/-- A brace has slashes in it. -/
def brace : Disk :=
  disk "packages: ['a', '\x7ba/*,y*/b*\x7d']\n" [(["a"], .directory), (["a", "b1"], .directory),
    (["a", "b1", "x.ts"], .file [1]), (["a", "c"], .directory), (["y1"], .directory), (["y1", "b1"], .directory),
    (["y1", "b1", "z.ts"], .file [1])]

/-- There are two packages, and one has an old output. -/
def pair : Disk :=
  disk "packages: ['a', 'c']\n" [(["a"], .directory), (["a", "x.ts"], .file [1]), (["c"], .directory),
    (["c", "dist"], .directory), (["c", "dist", "old.js"], .file [1])]

/-- The numbers of files in two runs, as far as they succeed. -/
def filesTwice (root : String) (d : Disk) : Option Int × Option Int :=
  let first := build Build.Sample.compiler root (world d)
  let second := build Build.Sample.compiler root (world first.2.disk)
  (first.1.toOption.map (·.total.files), second.1.toOption.map (·.total.files))

end Sample

open Sample in
/-- The second run may find packages in the outputs of the first. -/
theorem build_again_sample :
    (world nested).disk.tree.LinkFree ∧ ∃ report w' report' v',
      build Build.Sample.compiler "/a/.." (world nested) = (.ok report, w') ∧ report.packages.length = 4 ∧
      build Build.Sample.compiler "/a/.." (world w'.disk) = (.ok report', v') ∧ report'.packages.length = 6 ∧
      v'.disk = w'.disk ∧ report'.total.files = report.total.files := by
  have free : (world nested).disk.tree.LinkFree := by decide +kernel
  have outside : SourcesOutside (Path.location (world nested).disk.cwd "/a/..") (world nested).disk.tree := by
    decide +kernel
  have around : ∀ k ∈ Path.entered (world nested).disk.cwd "/a/..",
      ¬ InOutput (Path.location (world nested).disk.cwd "/a/..") k := by decide +kernel
  have patterns : (Manifest.load (world nested).disk (Path.join ["/a/..", Manifest.defaultName])).toOption.map
      (·.patterns) = some ["**"] := by decide +kernel
  have plain : ∀ m, Manifest.load (world nested).disk (Path.join ["/a/..", Manifest.defaultName]) = .ok m →
      ∀ pattern ∈ m.patterns, Glob.Plain (Path.cleanChars pattern.toList) := by
    intro m loaded
    rw [loaded] at patterns
    rw [show m.patterns = ["**"] from Option.some.inj patterns]
    decide +kernel
  have first : (build Build.Sample.compiler "/a/.." (world nested)).1.toOption.map (·.packages.length) = some 4 ∧
      (build Build.Sample.compiler "/a/.." (world nested)).2.canceled = false := by decide +kernel
  have second : (build Build.Sample.compiler "/a/.." (world (build Build.Sample.compiler "/a/.."
      (world nested)).2.disk)).1.toOption.map (·.packages.length) = some 6 := by decide +kernel
  have fresh : (world nested).collector = .empty := rfl
  generalize world nested = w at *
  rcases built : build Build.Sample.compiler "/a/.." w with ⟨f | report, w'⟩
  · rw [built] at first
    cases first.1
  · rw [built] at first second
    obtain ⟨report', v', again, disk, files⟩ :=
      build_again (v := world w'.disk) free outside around plain built first.2 fresh rfl rfl rfl
    rw [again] at second
    exact ⟨free, report, w', report', v', rfl, Option.some.inj first.1, again, Option.some.inj second, disk, files⟩

open Sample in
/-- A second run may fail, or find other packages than the first, if a class in a pattern is cut by a slash, if a pattern
has braces, or if the path of the root leads through an output. -/
theorem filesTwice_differ :
    (∀ d ∈ [cutClass, brace, pair], d.tree.LinkFree ∧ SourcesOutside [] d.tree) ∧
      filesTwice "/" cutClass = (some 1, none) ∧ filesTwice "/" brace = (some 3, some 2) ∧
      filesTwice "/c/dist/../.." pair = (some 1, some 0) := by
  decide +kernel

end Distill.Workspace
