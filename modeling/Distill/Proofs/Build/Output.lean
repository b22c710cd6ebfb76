import Distill.Proofs.Build.Actions

/-!
What a package leaves behind when it is built. Each source that is compiled adds one file and the directories above it
(`compileFile_written`); over all sources the output directory holds their outputs and nothing else
(`buildPackage_output`).
-/
namespace Distill.Build

theorem Action.andThen_eq_ok {α β : Type} {a : Action α} {next : α → Action β} {w w'' : World} {y : β}
    (success : a.andThen next w = (.ok y, w'')) : ∃ x w', a w = (.ok x, w') ∧ next x w' = (.ok y, w'') := by
  rw [Action.andThen] at success
  split at success
  · rename_i x w' first
    exact ⟨x, w', first, success⟩
  · cases success

theorem SameView.refl {site : Location} {w : World} (free : w.disk.tree.LinkFree) : SameView site w w :=
  ⟨rfl, rfl, free, free, .refl _ _⟩

/-- A file was written, and nothing was changed but the way to it. A file on the way is only the old content. -/
structure Written (t t' : FileTree) (l : Location) (content : Text.Bytes) : Prop where
  linkFree : t'.LinkFree
  file : t'.get? l = some (.file content)
  frame : ∀ k, ¬ k <+: l → t'.get? k = t.get? k
  clear : ∀ k old, k <+: l → t.get? k = some (.file old) → k = l

section Compile

variable {c : ModuleCompiler} {p : Package} {base names : Location} {s : String} {w w' : World}

theorem prepare_eq_ok {watch : Stopwatch} (free : w.disk.tree.LinkFree) (located : Located w.disk.cwd p base names)
    (pending : Pending w.disk.tree (base ++ names) s) (success : prepare p s w = (.ok watch, w')) :
    watch.file = sourcePath p s ∧
      (∀ k content, k <+: base ++ names ++ ["dist"] ++ (outputOf s).dropLast →
        w.disk.tree.get? k ≠ some (.file content)) ∧
      w'.disk.cwd = w.disk.cwd ∧
      Disk.Grown w.disk.tree w'.disk.tree (base ++ names ++ ["dist"] ++ (outputOf s).dropLast) := by
  have running : w.canceled = false := by
    by_contra canceled
    rw [prepare, if_pos (by simpa using canceled)] at success
    simp at success
  have clear : ∀ k content, k <+: base ++ names ++ ["dist"] ++ (outputOf s).dropLast →
      w.disk.tree.get? k ≠ some (.file content) := by
    intro k content way file
    obtain ⟨f, fail, -⟩ := prepare_of_file located (.refl free) pending running way file
    rw [fail] at success
    simp at success
  obtain ⟨t, done, grown⟩ := prepare_of_clear free located pending running clear
  rw [done, Prod.mk.injEq, Except.ok.injEq] at success
  obtain ⟨rfl, rfl⟩ := success
  exact ⟨rfl, clear, rfl, grown⟩

theorem compileSource_eq_ok {output : Text.Bytes} (success : compileSource c p s w = (.ok output, w')) :
    c.compile (sourcePath p s) (w.disk.contents (sourcePath p s)) = .ok output ∧
      w'.disk = w.disk := by
  rw [compileSource] at success
  dsimp only at success
  split at success
  · rename_i compiled
    rw [Prod.mk.injEq, Except.ok.injEq] at success
    obtain ⟨rfl, rfl⟩ := success
    exact ⟨compiled, rfl⟩
  · split at success <;> simp at success

theorem listSources_eq_ok {found : List String} (success : listSources p w = (.ok found, w')) :
    found = sources w.disk p.dir ∧ w'.disk = w.disk := by
  rw [listSources, Prod.mk.injEq, Except.ok.injEq] at success
  obtain ⟨rfl, rfl⟩ := success
  exact ⟨rfl, rfl⟩

theorem store_eq_ok {watch : Stopwatch} {output : Text.Bytes} {timing : Timing} (free : w.disk.tree.LinkFree)
    (located : Located w.disk.cwd p base names) (pending : Pending w.disk.tree (base ++ names) s)
    (made : w.disk.tree.get? (base ++ names ++ ["dist"] ++ (outputOf s).dropLast) = some .directory)
    (success : store p s watch output w = (.ok timing, w')) :
    timing.file = watch.file ∧ w'.disk.cwd = w.disk.cwd ∧ w'.disk.tree.LinkFree ∧
      ∀ k, w'.disk.tree.get? k =
        if k = base ++ names ++ ["dist"] ++ outputOf s then some (.file output) else w.disk.tree.get? k := by
  rw [store_eq free located pending made] at success
  split at success
  · simp at success
  · rename_i target
    rw [Prod.mk.injEq, Except.ok.injEq] at success
    obtain ⟨rfl, rfl⟩ := success
    exact ⟨rfl, rfl, free.set _ (by simp), FileTree.get?_set (accepts_output pending made target output)⟩

/-- A source that is compiled adds its output, with the directories above it. -/
theorem compileFile_written {timing : Timing} (free : w.disk.tree.LinkFree)
    (leads : Path.Leads w.disk.cwd p.dir base names) (pending : Pending w.disk.tree (base ++ names) s)
    {content : Text.Bytes} (found : w.disk.tree.get? (base ++ names ++ Path.pieces s) = some (.file content))
    (success : compileFile c p s w = (.ok timing, w')) :
    timing.file = sourcePath p s ∧ w'.disk.cwd = w.disk.cwd ∧ ∃ output,
      c.compile (sourcePath p s) (.ok content) = .ok output ∧
        Written w.disk.tree w'.disk.tree (base ++ names ++ ["dist"] ++ outputOf s) output := by
  have located : Located w.disk.cwd p base names := .of_dir leads
  obtain ⟨watch, w₁, prepared, success⟩ := Action.andThen_eq_ok success
  obtain ⟨output, w₂, compiled, stored⟩ := Action.andThen_eq_ok success
  obtain ⟨file, clear, cwd₁, grown⟩ := prepare_eq_ok free located pending prepared
  obtain ⟨compiled, disk₂⟩ := compileSource_eq_ok compiled
  have change := overlaid_grown pending.directory grown
  have pending₁ : Pending w₁.disk.tree (base ++ names) s := pending.frame fun k outside => change.frame outside
  have found₁ : w₁.disk.tree.get? (base ++ names ++ Path.pieces s) = some (.file content) := by
    rw [change.frame pending.outside, found]
  have made : w₁.disk.tree.get? (base ++ names ++ ["dist"] ++ (outputOf s).dropLast) = some .directory := by
    rw [grown.2, if_pos List.prefix_rfl]
  rw [contents_of_pending grown.1 (cwd₁ ▸ leads) pending₁ found₁] at compiled
  rw [← disk₂] at pending₁ made cwd₁
  obtain ⟨sameFile, cwd₃, linkFree, entries⟩ := store_eq_ok (disk₂ ▸ grown.1) (cwd₁ ▸ located) pending₁ made stored
  refine ⟨sameFile.trans file, cwd₃.trans cwd₁, output, compiled, linkFree, ?_, ?_, ?_⟩
  · rw [entries, if_pos rfl]
  · intro k off
    have way : base ++ names ++ ["dist"] ++ (outputOf s).dropLast <+: base ++ names ++ ["dist"] ++ outputOf s :=
      (List.prefix_append_right_inj _).2 (List.dropLast_prefix _)
    have notTarget : k ≠ base ++ names ++ ["dist"] ++ outputOf s := fun here => off (here ▸ List.prefix_rfl)
    rw [entries, if_neg notTarget, disk₂, grown.2, if_neg fun inside => off (inside.trans way)]
  · intro k old inside oldFile
    -- a file further up would have stopped the directories from being made
    by_contra notTarget
    have shorter : k <+: base ++ names ++ ["dist"] ++ (outputOf s).dropLast := by
      rw [← List.dropLast_concat_getLast (outputOf_ne_nil s), ← List.append_assoc, List.prefix_concat_iff] at inside
      refine inside.resolve_left fun here => notTarget ?_
      rw [here, List.append_assoc, List.dropLast_concat_getLast]
    exact clear k old shorter oldFile

end Compile

/-- A tree in which the outputs `made` of some sources were added to `t₀`. -/
structure Layout (t₀ t : FileTree) (out : Location) (made : List (String × Text.Bytes)) : Prop where
  linkFree : t.LinkFree
  files : ∀ x ∈ made, t.get? (out ++ outputOf x.1) = some (.file x.2)
  frame : ∀ k, (∀ x ∈ made, ¬ k <+: out ++ outputOf x.1) → t.get? k = t₀.get? k

theorem Layout.nil {t : FileTree} (free : t.LinkFree) (out : Location) : Layout t t out [] :=
  ⟨free, by simp, fun _ _ => rfl⟩

/-- One more output leaves the ones before it as they are. -/
theorem Layout.write {t₀ t t' : FileTree} {out : Location} {made : List (String × Text.Bytes)} {s : String}
    {output : Text.Bytes} (layout : Layout t₀ t out made) (written : Written t t' (out ++ outputOf s) output)
    (new : ∀ x ∈ made, outputOf x.1 ≠ outputOf s) : Layout t₀ t' out (made ++ [(s, output)]) := by
  refine ⟨written.linkFree, ?_, ?_⟩
  · intro x member
    rcases List.mem_append.1 member with member | member
    · have before := layout.files x member
      rw [written.frame, before]
      intro way
      exact new x member (List.append_cancel_left (written.clear _ _ way before))
    · rw [List.mem_singleton.1 member]
      exact written.file
  · intro k off
    rw [written.frame k (off (s, output) (by simp))]
    exact layout.frame k fun x member => off x (List.mem_append_left _ member)

theorem Written.pending {t t' : FileTree} {site : Location} {s r : String} {output : Text.Bytes}
    (written : Written t t' (site ++ ["dist"] ++ outputOf s) output) (pending : Pending t site r) :
    Pending t' site r ∧ t'.get? (site ++ Path.pieces r) = t.get? (site ++ Path.pieces r) := by
  have same : t'.get? (site ++ Path.pieces r) = t.get? (site ++ Path.pieces r) := by
    apply written.frame
    intro way
    rcases above_or_below_output way with above | below
    · have length := above.length_le
      rw [List.length_append] at length
      have some := List.length_pos_iff.2 (Path.pieces_ne_nil r)
      omega
    · exact pending.outside below
  obtain ⟨content, found⟩ := pending.found
  exact ⟨⟨pending.source, pending.outside, content, same.trans found⟩, same⟩

/-- Compiling sources one after the other adds their outputs. -/
theorem compileFiles_layout {c : ModuleCompiler} {p : Package} {base names : Location} {t₀ : FileTree}
    {todo : List String} {w w' : World} {timings : List Timing} {made : List (String × Text.Bytes)}
    (leads : Path.Leads w.disk.cwd p.dir base names)
    (layout : Layout t₀ w.disk.tree (base ++ names ++ ["dist"]) made)
    (pending : ∀ s ∈ todo, Pending w.disk.tree (base ++ names) s) (distinct : todo.Nodup)
    (new : ∀ s ∈ todo, ∀ x ∈ made, outputOf x.1 ≠ outputOf s)
    (success : compileFiles c p todo w = (.ok timings, w')) :
    timings.map Timing.file = todo.map (sourcePath p) ∧ w'.disk.cwd = w.disk.cwd ∧
      ∃ more : List (String × Text.Bytes), more.map Prod.fst = todo ∧
        (∀ x ∈ more, ∃ content, w.disk.tree.get? (base ++ names ++ Path.pieces x.1) = some (.file content) ∧
          c.compile (sourcePath p x.1) (.ok content) = .ok x.2) ∧
        Layout t₀ w'.disk.tree (base ++ names ++ ["dist"]) (made ++ more) := by
  induction todo generalizing w timings made with
  | nil =>
    rw [compileFiles, Prod.mk.injEq, Except.ok.injEq] at success
    obtain ⟨rfl, rfl⟩ := success
    exact ⟨rfl, rfl, [], rfl, by simp, by simpa using layout⟩
  | cons s todo ih =>
    obtain ⟨timing, w₁, first, success⟩ := Action.andThen_eq_ok success
    obtain ⟨later, w₂, rest, success⟩ := Action.andThen_eq_ok success
    rw [Prod.mk.injEq, Except.ok.injEq] at success
    obtain ⟨rfl, rfl⟩ := success
    have pendingS := pending s (by simp)
    obtain ⟨content, found⟩ := pendingS.found
    obtain ⟨file, cwd, output, compiled, written⟩ := compileFile_written layout.linkFree leads pendingS found first
    obtain ⟨notLater, distinctRest⟩ := List.nodup_cons.1 distinct
    have pendingRest : ∀ r ∈ todo, Pending w₁.disk.tree (base ++ names) r :=
      fun r member => (written.pending (pending r (by simp [member]))).1
    have newRest : ∀ r ∈ todo, ∀ x ∈ made ++ [(s, output)], outputOf x.1 ≠ outputOf r := by
      intro r member x old
      rcases List.mem_append.1 old with old | old
      · exact new r (by simp [member]) x old
      · rw [List.mem_singleton.1 old]
        intro same
        have pendingR := pending r (by simp [member])
        have eq := outputOf_injective pendingS.source pendingR.source pendingS.named pendingR.named same
        exact notLater (eq ▸ member)
    obtain ⟨files, cwdRest, more, sources, outputs, layoutRest⟩ :=
      ih (cwd ▸ leads) (layout.write written (new s (by simp))) pendingRest distinctRest newRest rest
    refine ⟨by rw [List.map_cons, List.map_cons, file, files], cwdRest.trans cwd, (s, output) :: more,
      by rw [List.map_cons, sources], ?_, by simpa using layoutRest⟩
    intro x member
    rcases List.mem_cons.1 member with rfl | member
    · exact ⟨content, found, compiled⟩
    · obtain ⟨old, foundX, compiledX⟩ := outputs x member
      have inside : x.1 ∈ todo := sources ▸ List.mem_map_of_mem member
      rw [(written.pending (pending x.1 (by simp [inside]))).2] at foundX
      exact ⟨old, foundX, compiledX⟩

section Emptied

variable {t₀ t : FileTree} {out : Location} {made : List (String × Text.Bytes)}

theorem Layout.exists_output (layout : Layout t₀ t out made) (empty : ∀ k, t₀.get? (out ++ k) = none)
    {k : Location} {entry : Entry} (found : t.get? (out ++ k) = some entry) : ∃ x ∈ made, k <+: outputOf x.1 := by
  by_contra none
  have off : ∀ x ∈ made, ¬ out ++ k <+: out ++ outputOf x.1 :=
    fun x member way => none ⟨x, member, (List.prefix_append_right_inj _).1 way⟩
  rw [layout.frame _ off, empty] at found
  cases found

private theorem Layout.directory_above (layout : Layout t₀ t out made) {x : String × Text.Bytes} (member : x ∈ made)
    {k : Location} (way : k <+: outputOf x.1) (notFile : k ≠ outputOf x.1) :
    t.get? (out ++ k) = some .directory := by
  obtain ⟨rest, eq⟩ := way
  refine FileTree.get?_above rest (e := .file x.2) (by rw [List.append_assoc, eq]; exact layout.files x member) ?_
  rintro rfl
  exact notFile (by simpa using eq)

/-- In an output directory that was empty, the files are the outputs. -/
theorem Layout.file_iff (layout : Layout t₀ t out made) (empty : ∀ k, t₀.get? (out ++ k) = none) (k : Location)
    (content : Text.Bytes) :
    t.get? (out ++ k) = some (.file content) ↔ ∃ x ∈ made, k = outputOf x.1 ∧ content = x.2 := by
  constructor
  · intro found
    obtain ⟨x, member, way⟩ := layout.exists_output empty found
    by_cases isFile : k = outputOf x.1
    · rw [isFile, layout.files x member, Option.some.injEq, Entry.file.injEq] at found
      exact ⟨x, member, isFile, found.symm⟩
    · rw [layout.directory_above member way isFile] at found
      cases found
  · rintro ⟨x, member, eq, same⟩
    rw [eq, same]
    exact layout.files x member

/-- In an output directory that was empty, the directories are what is above the outputs. -/
theorem Layout.directory_iff (layout : Layout t₀ t out made) (empty : ∀ k, t₀.get? (out ++ k) = none) (k : Location) :
    t.get? (out ++ k) = some .directory ↔ ∃ x ∈ made, k <+: outputOf x.1 ∧ k ≠ outputOf x.1 := by
  constructor
  · intro found
    obtain ⟨x, member, way⟩ := layout.exists_output empty found
    refine ⟨x, member, way, fun isFile => ?_⟩
    rw [isFile, layout.files x member] at found
    cases found
  · rintro ⟨x, member, way, notFile⟩
    exact layout.directory_above member way notFile

end Emptied

theorem get?_erase_below (t : FileTree) {out : Location} (below : out ≠ []) (k : Location) :
    (t.erase out).get? (out ++ k) = none := by
  rw [FileTree.get?_erase t below, if_pos (List.prefix_append _ _)]

variable {c : ModuleCompiler} {p : Package} {base names : Location} {w w' : World} {timings : List Timing}

theorem pending_of_mem_sources {t : FileTree} {cwd s : String} (free : t.LinkFree)
    (leads : Path.Leads cwd p.dir base names)
    (member : s ∈ sources ⟨t.erase (base ++ names ++ ["dist"]), cwd⟩ p.dir) :
    Pending (t.erase (base ++ names ++ ["dist"])) (base ++ names) s := by
  obtain ⟨source, content, found⟩ := (mem_sources_iff (free.erase _) leads s).1 member
  refine ⟨source, fun below => ?_, content, found⟩
  dsimp only at found
  rw [FileTree.get?_erase t (by simp), if_pos below] at found
  cases found

/-- A built package: its output directory was emptied, and the outputs of its sources were added. -/
theorem buildPackage_layout (free : w.disk.tree.LinkFree) (leads : Path.Leads w.disk.cwd p.dir base names)
    (success : buildPackage c p w = (.ok timings, w')) :
    w'.disk.cwd = w.disk.cwd ∧ ∃ made : List (String × Text.Bytes),
      made.map Prod.fst = sources ⟨w.disk.tree.erase (base ++ names ++ ["dist"]), w.disk.cwd⟩ p.dir ∧
      timings.map Timing.file = (made.map Prod.fst).map (sourcePath p) ∧
      (∀ x ∈ made, ∃ content, w.disk.tree.get? (base ++ names ++ Path.pieces x.1) = some (.file content) ∧
        c.compile (sourcePath p x.1) (.ok content) = .ok x.2) ∧
      Layout (w.disk.tree.erase (base ++ names ++ ["dist"])) w'.disk.tree (base ++ names ++ ["dist"]) made := by
  obtain ⟨_, w₁, removed, success⟩ := Action.andThen_eq_ok success
  obtain ⟨found, w₂, listed, compiled⟩ := Action.andThen_eq_ok success
  obtain ⟨rfl, disk₂⟩ := listSources_eq_ok listed
  rw [removeOutput_eq_ok free (.of_dir leads) removed] at disk₂ compiled
  have pending := fun s => pending_of_mem_sources (s := s) free leads
  have distinct := sources_nodup (d := ⟨w.disk.tree.erase (base ++ names ++ ["dist"]), w.disk.cwd⟩) (free.erase _) leads
  obtain ⟨files, cwd, made, all, outputs, layout⟩ :=
    compileFiles_layout (by rw [disk₂]; exact leads) (.nil (by rw [disk₂]; exact free.erase _) _)
      (by rw [disk₂]; exact pending) distinct (by simp) compiled
  rw [disk₂] at cwd outputs layout
  refine ⟨cwd, made, all, all ▸ files, ?_, layout⟩
  intro x member
  obtain ⟨content, found, compiled⟩ := outputs x member
  have outside := (pending x.1 (all ▸ List.mem_map_of_mem member)).outside
  refine ⟨content, ?_, compiled⟩
  rw [← found]
  exact ((FileTree.get?_erase _ (by simp) _).trans (if_neg outside)).symm

/-- The output directory of a package holds the outputs of its sources and nothing else, where `found` are the sources,
`w` is the world before the package was built and `w'` the one after it. -/
structure OutputComplete (c : ModuleCompiler) (p : Package) (w w' : World) (timings : List Timing)
    (found : List String) : Prop where
  /-- Sources are below the directory but outside the output directory; they are no directories and end in `.ts`. -/
  mem_found : ∀ s, s ∈ found ↔ IsSource (Path.pieces s) ∧
    ¬ Path.location w.disk.cwd p.outputDir <+: Path.location w.disk.cwd p.dir ++ Path.pieces s ∧
    ∃ entry, w.disk.tree.get? (Path.location w.disk.cwd p.dir ++ Path.pieces s) = some entry ∧ entry ≠ .directory
  outputName_injective : ∀ r ∈ found, ∀ s ∈ found, Package.outputName r = Package.outputName s → r = s
  files : ∀ k, (∃ content, w'.disk.tree.get? (Path.location w.disk.cwd p.outputDir ++ k) = some (.file content)) ↔
    ∃ s ∈ found, k = Path.pieces (Package.outputName s)
  contents : ∀ s ∈ found, ∃ content,
    c.compile (sourcePath p s) (w.disk.contents (sourcePath p s)) = .ok content ∧
    w'.disk.tree.get? (Path.location w.disk.cwd p.outputDir ++ Path.pieces (Package.outputName s)) = some (.file content)
  directories : ∀ k, w'.disk.tree.get? (Path.location w.disk.cwd p.outputDir ++ k) = some .directory ↔
    ∃ s ∈ found, k <+: Path.pieces (Package.outputName s) ∧ k ≠ Path.pieces (Package.outputName s)
  linkFree : w'.disk.tree.LinkFree
  nothing : found = [] → w'.disk.tree.get? (Path.location w.disk.cwd p.outputDir) = none
  sorted : found.Pairwise (· < ·)
  records : timings.map Timing.file = found.map fun s => Path.join [p.dir, s]

/-- Building a package whose directory is there leaves its output directory with exactly the outputs of its sources. -/
theorem buildPackage_output (free : w.disk.tree.LinkFree) (there : w.disk.isDirectory p.dir = true)
    (success : buildPackage c p w = (.ok timings, w')) : ∃ found, OutputComplete c p w w' timings found := by
  have some : p.dir ≠ "" := by
    intro empty
    rw [empty, Disk.isDirectory, Disk.lookUp, Disk.locate, if_pos rfl] at there
    cases there
  obtain ⟨base, names, leads⟩ := exists_leads_dir some w.disk.cwd
  obtain ⟨-, made, all, files, outputs, layout⟩ := buildPackage_layout free leads success
  have pending := fun s => pending_of_mem_sources (s := s) free leads
  have empty := get?_erase_below w.disk.tree (show base ++ names ++ ["dist"] ≠ [] by simp)
  have read : ∀ x ∈ made,
      c.compile (sourcePath p x.1) (w.disk.contents (sourcePath p x.1)) = .ok x.2 := by
    intro x member
    obtain ⟨content, found, compiled⟩ := outputs x member
    have inside : x.1 ∈ sources ⟨w.disk.tree.erase (base ++ names ++ ["dist"]), w.disk.cwd⟩ p.dir :=
      all ▸ List.mem_map_of_mem member
    rw [contents_of_pending free leads ⟨(pending _ inside).source, (pending _ inside).outside, content, found⟩ found]
    exact compiled
  have dir := leads.location_eq
  have out : Path.location w.disk.cwd p.outputDir = base ++ names ++ ["dist"] := by
    rw [(Package.leads_outputDir leads).location_eq, List.append_assoc]
  refine ⟨made.map Prod.fst, ?_⟩
  constructor
  case mem_found =>
    intro s
    rw [dir, out, all,
      mem_sources_iff (d := ⟨w.disk.tree.erase (base ++ names ++ ["dist"]), w.disk.cwd⟩) (free.erase _) leads]
    dsimp only
    rw [FileTree.get?_erase _ (by simp)]
    refine and_congr_right fun source => ?_
    by_cases below : base ++ names ++ ["dist"] <+: base ++ names ++ Path.pieces s
    · rw [if_pos below]
      constructor
      · rintro ⟨content, found⟩
        cases found
      · exact fun outside => absurd below outside.1
    · rw [if_neg below]
      constructor
      · rintro ⟨content, found⟩
        exact ⟨below, _, found, by simp⟩
      · rintro ⟨-, entry, found, notDirectory⟩
        cases entry with
        | directory => exact absurd rfl notDirectory
        | file content => exact ⟨content, found⟩
        | link target => exact absurd found (free _ _)
  case outputName_injective =>
    intro r memberR s memberS same
    rw [all] at memberR memberS
    have pendingR := pending r memberR
    have pendingS := pending s memberS
    exact outputOf_injective pendingR.source pendingS.source pendingR.named pendingS.named (congrArg Path.pieces same)
  case files =>
    intro k
    rw [out]
    constructor
    · rintro ⟨content, found⟩
      obtain ⟨x, member, eq, -⟩ := (layout.file_iff empty k content).1 found
      exact ⟨x.1, List.mem_map_of_mem member, eq⟩
    · rintro ⟨s, member, eq⟩
      obtain ⟨x, inMade, rfl⟩ := List.mem_map.1 member
      exact ⟨x.2, (layout.file_iff empty k x.2).2 ⟨x, inMade, eq, rfl⟩⟩
  case contents =>
    intro s member
    obtain ⟨x, inMade, rfl⟩ := List.mem_map.1 member
    rw [out]
    exact ⟨x.2, read x inMade, layout.files x inMade⟩
  case directories =>
    intro k
    rw [out, layout.directory_iff empty]
    constructor
    · rintro ⟨x, member, way⟩
      exact ⟨x.1, List.mem_map_of_mem member, way⟩
    · rintro ⟨s, member, way⟩
      obtain ⟨x, inMade, rfl⟩ := List.mem_map.1 member
      exact ⟨x, inMade, way⟩
  case linkFree => exact layout.linkFree
  case nothing =>
    intro none
    rw [List.map_eq_nil_iff] at none
    rw [out, layout.frame _ (by simp [none])]
    simpa using empty []
  case sorted =>
    rw [all]
    exact sources_sorted (free.erase _) leads
  case records => exact files

namespace Sample

/-- Two packages. The first has old output, a directory with the name of a source, and names with several dots. -/
def tree : FileTree :=
  [(["a"], Entry.directory), (["a", "x.ts"], .file [1]), (["a", "sub.ts"], .directory),
    (["a", "sub.ts", "y.d.ts"], .file [2]), (["a", "sub.ts", "z.txt"], .file [3]), (["a", ".ts"], .file [4]),
    (["a", "dist"], .directory), (["a", "dist", "old.ts"], .file [5]), (["a", "dist", "x.js"], .directory),
    (["b"], .directory), (["b", "x.ts"], .file [6])].foldl (fun t x => t.set x.1 x.2) .empty

def world : World := ⟨⟨tree, "/"⟩, .stepping 1, none, false, [], .empty⟩

/-- Writes every source twice. -/
def compiler : ModuleCompiler where
  compile _ content :=
    match content with
    | .ok bytes => .ok (bytes ++ bytes)
    | .error f => .error (.fault f)
  cancels _ := false

end Sample

theorem buildPackage_output_sample :
    Sample.tree.LinkFree ∧ Sample.world.disk.isDirectory (Package.mk "/" "a").dir = true ∧
      ∃ timings w' found, buildPackage Sample.compiler ⟨"/", "a"⟩ Sample.world = (.ok timings, w') ∧ timings.length = 3 ∧
        OutputComplete Sample.compiler ⟨"/", "a"⟩ Sample.world w' timings found := by
  have free : Sample.tree.LinkFree := by decide +kernel
  have there : Sample.world.disk.isDirectory (Package.mk "/" "a").dir = true := by decide +kernel
  have success : (buildPackage Sample.compiler ⟨"/", "a"⟩ Sample.world).1 =
      .ok [⟨"/a/.ts", 1⟩, ⟨"/a/sub.ts/y.d.ts", 1⟩, ⟨"/a/x.ts", 1⟩] := by decide +kernel
  rcases built : buildPackage Sample.compiler ⟨"/", "a"⟩ Sample.world with ⟨result, w'⟩
  rw [built] at success
  dsimp only at success
  subst success
  obtain ⟨found, complete⟩ := buildPackage_output free there built
  exact ⟨free, there, _, w', found, rfl, rfl, complete⟩

end Distill.Build
