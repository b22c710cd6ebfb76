import Distill.Proofs.Build.Interrupted

/-!
Outputs in each other's way. The output of `x.ts` is the file `x.js`, and a source below the directory `x.js` needs a
directory of that name among the outputs. Nothing else can stop a package whose sources all compile. As the sources are
in byte order, the directory is there first, so it is always the file that cannot be written (`buildPackage_conflict`).
-/
namespace Distill.Build

/-- A source `stem.ts` beside another one below the directory `stem.js`. -/
def Clash (found : List String) (stem : String) : Prop :=
  stem ++ ".ts" ∈ found ∧ ∃ rest, stem ++ ".js/" ++ rest ∈ found

/-- What is below `stem.js` comes before `stem.ts`. -/
theorem below_lt (stem rest : String) : stem ++ ".js/" ++ rest < stem ++ ".ts" := by
  change (stem ++ ".js/" ++ rest).toList < (stem ++ ".ts").toList
  rw [String.toList_append, String.toList_append, String.toList_append, List.append_assoc]
  apply List.append_left_lt
  exact List.cons_lt_cons_iff.2 (.inr ⟨rfl, List.cons_lt_cons_iff.2 (.inl (by decide))⟩)

/-- The output of one source is a file where the other one needs a directory for its output. -/
def Blocks (s r : String) : Prop := outputOf s <+: (outputOf r).dropLast

theorem prefix_dropLast_iff {k l : Location} (some : l ≠ []) : k <+: l.dropLast ↔ k <+: l ∧ k ≠ l := by
  rcases List.eq_nil_or_concat l with none | ⟨front, last, rfl⟩
  · exact absurd none some
  rw [List.concat_eq_append, List.dropLast_concat, List.prefix_concat_iff]
  constructor
  · intro way
    refine ⟨.inr way, fun same => ?_⟩
    have shorter := way.length_le
    rw [same, List.length_append, List.length_singleton] at shorter
    omega
  · rintro ⟨same | way, other⟩
    · exact absurd same other
    · exact way

/-- One source blocks another if it is `stem.ts` and the other one lies below `stem.js`. -/
theorem blocks_iff {t : FileTree} {site : Location} {r s : String} (pendingS : Pending t site s)
    (pendingR : Pending t site r) : Blocks s r ↔ ∃ stem rest, s = stem ++ ".ts" ∧ r = stem ++ ".js/" ++ rest := by
  have slash (name : String) : name ++ ".js/" = name ++ ".js" ++ "/" := by rw [String.append_assoc]; rfl
  obtain ⟨front, last, eq⟩ := pendingR.source.exists_stem
  rw [Blocks, (outputOf_eq eq pendingR.named).1, List.dropLast_concat]
  constructor
  · rintro ⟨more, rfl⟩
    obtain ⟨frontS, lastS, eqS⟩ := pendingS.source.exists_stem
    have text : s = Path.ofPieces (frontS ++ [lastS]) ++ ".ts" := by
      rw [← Path.ofPieces_concat_append, ← eqS, Path.ofPieces_pieces]
    have whole : ∀ n ∈ more ++ [last ++ ".ts"], '/' ∉ n.toList := by
      intro n member
      refine Path.slash_not_mem_of_mem_pieces (p := r) ?_
      rw [eq, List.append_assoc]
      exact List.mem_append_right _ member
    refine ⟨_, Path.ofPieces (more ++ [last ++ ".ts"]), text, ?_⟩
    have same : Path.pieces r = Path.pieces (Package.outputName s ++ "/" ++ Path.ofPieces (more ++ [last ++ ".ts"])) := by
      rw [Path.pieces_append, Path.pieces_ofPieces (by simp) whole, eq, outputOf, List.append_assoc]
    have out : Package.outputName s = Path.ofPieces (frontS ++ [lastS]) ++ ".js" := by
      rw [text, Package.outputName_append]
    rw [← Path.ofPieces_pieces r, same, Path.ofPieces_pieces, out, slash]
  · rintro ⟨stem, rest, rfl, rfl⟩
    have split : Path.pieces (stem ++ ".js/" ++ rest) = outputOf (stem ++ ".ts") ++ Path.pieces rest := by
      rw [outputOf, Package.outputName_append, ← Path.pieces_append, slash]
    rw [split] at eq
    have fronts := congrArg List.dropLast eq
    rw [List.dropLast_concat, List.dropLast_append_of_ne_nil (Path.pieces_ne_nil rest)] at fronts
    exact ⟨_, fronts⟩

/-- In a sorted list, what comes before an element in order stands before it. -/
theorem mem_left_of_lt {front back : List String} {s r : String} (sorted : (front ++ s :: back).Pairwise (· < ·))
    (member : r ∈ front ++ s :: back) (before : r < s) : r ∈ front := by
  rcases List.mem_append.1 member with left | right
  · exact left
  · rcases List.mem_cons.1 right with rfl | right
    · exact absurd before (String.lt_irrefl r)
    · have after : s < r := (List.pairwise_cons.1 (List.pairwise_append.1 sorted).2.1).1 r right
      exact absurd (String.lt_trans before after) (String.lt_irrefl r)

/-- Among sources in order, one that blocks an earlier one, while no two before it block each other, is the first one
that clashes with anything. -/
theorem exists_first_clash {t : FileTree} {site : Location} {done rest : List String} {s : String}
    (pending : ∀ r ∈ done ++ s :: rest, Pending t site r) (sorted : (done ++ s :: rest).Pairwise (· < ·))
    (blocked : ∃ r ∈ done, Blocks s r) (none : ∀ r ∈ done, ∀ q ∈ done, ¬ Blocks r q) :
    ∃ stem, s = stem ++ ".ts" ∧ Clash (done ++ s :: rest) stem ∧
      ∀ other, Clash (done ++ s :: rest) other → stem ++ ".ts" ≤ other ++ ".ts" := by
  obtain ⟨r, member, blocks⟩ := blocked
  have memberAll : r ∈ done ++ s :: rest := List.mem_append_left _ member
  obtain ⟨stem, more, rfl, rfl⟩ := (blocks_iff (pending s (by simp)) (pending r memberAll)).1 blocks
  refine ⟨stem, rfl, ⟨by simp, more, memberAll⟩, ?_⟩
  rintro other ⟨memberFile, below, memberBelow⟩
  by_contra notAfter
  have before := String.not_le.1 notAfter
  exact none _ (mem_left_of_lt sorted memberFile before) _
    (mem_left_of_lt sorted memberBelow (String.lt_trans (below_lt other below) before))
    ((blocks_iff (pending _ memberFile) (pending _ memberBelow)).2 ⟨other, below, rfl, rfl⟩)

/-- Outputs that are there at the same time are not in each other's way. -/
theorem Layout.not_blocks {t₀ t : FileTree} {out : Location} {made : List (String × Text.Bytes)}
    (layout : Layout t₀ t out made) {x y : String × Text.Bytes} (memberX : x ∈ made) (memberY : y ∈ made) :
    ¬ Blocks x.1 y.1 := by
  intro blocks
  obtain ⟨⟨rest, eq⟩, other⟩ := (prefix_dropLast_iff (outputOf_ne_nil _)).1 blocks
  have further : rest ≠ [] := by
    rintro rfl
    exact other (by simpa using eq)
  have file := layout.files y memberY
  rw [← eq, ← List.append_assoc] at file
  have directory := FileTree.get?_above rest file further
  rw [layout.files x memberX] at directory
  cases directory

/-- A compiler that compiles whatever it can read. -/
def ModuleCompiler.Total (c : ModuleCompiler) : Prop := ∀ path content, ∃ output, c.compile path (.ok content) = .ok output

/-- The failure of a source in place of whose output there is a directory. -/
def unwritable (p : Package) (s : String) : Failure :=
  .within (.access "write" (outputPath p s)) (.fault (.system "open" (outputPath p s) .isDirectory))

section Compile

variable {c : ModuleCompiler} {p : Package} {base names : Location} {s : String} {w w' : World} {f : Failure}

/-- With no file on the way to its output, a source that compiles fails only for a directory in place of the output. -/
theorem compileFile_conflict (total : c.Total) (running : w.canceled = false) (free : w.disk.tree.LinkFree)
    (leads : Path.Leads w.disk.cwd p.dir base names) (pending : Pending w.disk.tree (base ++ names) s)
    (clear : ∀ k content, k <+: base ++ names ++ ["dist"] ++ (outputOf s).dropLast →
      w.disk.tree.get? k ≠ some (.file content)) (failed : compileFile c p s w = (.error f, w')) :
    w.disk.tree.get? (base ++ names ++ ["dist"] ++ outputOf s) = some .directory ∧ f = unwritable p s := by
  obtain ⟨t, prepared, grown⟩ := prepare_of_clear free (.of_dir leads) pending running clear
  have change := overlaid_grown pending.directory grown
  have pendingT : Pending t (base ++ names) s := pending.frame fun k outside => change.frame outside
  have made : t.get? (base ++ names ++ ["dist"] ++ (outputOf s).dropLast) = some .directory := by
    rw [grown.2, if_pos List.prefix_rfl]
  rw [compileFile, Action.andThen, prepared] at failed
  dsimp only at failed
  rcases Action.andThen_eq_error failed with refused | ⟨output, w₂, compiled, stored⟩
  · obtain ⟨-, g, refused, -⟩ := compileSource_eq_error refused
    obtain ⟨content, found⟩ := pendingT.found
    obtain ⟨output, compiled⟩ := total (sourcePath p s) content
    have read := contents_of_pending (w := { w with disk := { w.disk with tree := t }, clock := w.clock.read.2 })
      grown.1 leads pendingT found
    rw [read, compiled] at refused
    cases refused
  · obtain ⟨-, disk⟩ := compileSource_eq_ok compiled
    have located : Located w₂.disk.cwd p base names := by rw [disk]; exact .of_dir leads
    rw [store_eq (by rw [disk]; exact grown.1) located (by rw [disk]; exact pendingT) (by rw [disk]; exact made),
      disk] at stored
    split at stored
    · rename_i directory
      have longer : ¬ base ++ names ++ ["dist"] ++ outputOf s <+: base ++ names ++ ["dist"] ++ (outputOf s).dropLast := by
        intro way
        exact ((prefix_dropLast_iff (outputOf_ne_nil s)).1 ((List.prefix_append_right_inj _).1 way)).2 rfl
      rw [grown.2, if_neg longer] at directory
      exact ⟨directory, (Except.error.inj (Prod.mk.inj stored).1).symm⟩
    · cases stored

/-- If compiling some sources in order fails, then at one that blocks an earlier one. -/
theorem compileFiles_conflict {todo : List String} (total : c.Total) (running : w.canceled = false)
    (calm : ∀ path, c.cancels path = false) (free : w.disk.tree.LinkFree)
    (leads : Path.Leads w.disk.cwd p.dir base names) (empty : ∀ k, w.disk.tree.get? (base ++ names ++ ["dist"] ++ k) = none)
    (pending : ∀ s ∈ todo, Pending w.disk.tree (base ++ names) s) (sorted : todo.Pairwise (· < ·))
    (failed : compileFiles c p todo w = (.error f, w')) :
    ∃ done s rest, todo = done ++ s :: rest ∧ (∃ r ∈ done, Blocks s r) ∧ (∀ r ∈ done, ∀ q ∈ done, ¬ Blocks r q) ∧
      f = unwritable p s := by
  obtain ⟨done, s, rest, timings, v, rfl, before, failed⟩ := compileFiles_eq_error.1 failed
  have pendingDone : ∀ r ∈ done, Pending w.disk.tree (base ++ names) r :=
    fun r member => pending r (List.mem_append_left _ member)
  have pendingS := pending s (by simp)
  have distinct : (done ++ s :: rest).Nodup :=
    sorted.imp fun {a b} (before : a < b) (eq : a = b) => String.lt_irrefl b (eq ▸ before)
  obtain ⟨-, cwd, made, all, -, layout⟩ :=
    compileFiles_layout leads (.nil free _) pendingDone (List.nodup_append.1 distinct).1 (by simp) before
  have framed := (compileFiles_lockstep (c := c) leads (.refl free) pendingDone).framed
  rw [before] at framed
  have pendingV := pendingS.frame framed.entries
  have runningV : v.canceled = false := by
    rw [(compileFiles_running before).1, canceledAfter, running, Bool.false_or, List.any_eq_false]
    simp [calm]
  have mem_made {r : String} (member : r ∈ done) : ∃ x ∈ made, x.1 = r := by
    rw [← all] at member
    exact List.mem_map.1 member
  have clear : ∀ k content, k <+: base ++ names ++ ["dist"] ++ (outputOf s).dropLast →
      v.disk.tree.get? k ≠ some (.file content) := by
    intro k content way file
    rcases above_or_below_output way with above | ⟨below, rfl⟩
    · rw [FileTree.directory_above pendingV.directory above] at file
      cases file
    · -- the file would be the output of an earlier source, which comes after all that it blocks
      obtain ⟨x, member, eq, -⟩ := (layout.file_iff empty below content).1 file
      have inDone : x.1 ∈ done := all ▸ List.mem_map_of_mem member
      rw [eq] at way
      have blocks : Blocks x.1 s := (List.prefix_append_right_inj _).1 way
      obtain ⟨stem, more, eqX, eqS⟩ := (blocks_iff (pendingDone _ inDone) pendingS).1 blocks
      have after : x.1 < s := (List.pairwise_append.1 sorted).2.2 _ inDone _ (by simp)
      have before : s < x.1 := by
        rw [eqX, eqS]
        exact below_lt stem more
      exact String.lt_irrefl s (String.lt_trans before after)
  obtain ⟨directory, rfl⟩ := compileFile_conflict total runningV layout.linkFree (cwd ▸ leads) pendingV clear failed
  obtain ⟨x, member, way, other⟩ := (layout.directory_iff empty _).1 directory
  refine ⟨done, s, rest, rfl, ⟨x.1, all ▸ List.mem_map_of_mem member, ?_⟩, ?_, rfl⟩
  · exact (prefix_dropLast_iff (outputOf_ne_nil _)).2 ⟨way, other⟩
  · intro r memberR q memberQ
    obtain ⟨x, inMadeX, rfl⟩ := mem_made memberR
    obtain ⟨y, inMadeY, rfl⟩ := mem_made memberQ
    exact layout.not_blocks inMadeX inMadeY

end Compile

variable {c : ModuleCompiler} {p : Package} {base names : Location} {w : World}

theorem clean_of_free {d : Disk} (free : d.tree.LinkFree) (leads : Path.Leads d.cwd p.dir base names)
    (there : d.tree.get? (base ++ names) = some .directory)
    (old : ∀ entry, d.tree.get? (base ++ names ++ ["dist"]) = some entry → entry = .directory) :
    ∃ d', clean d p.outputDir = .ok d' := by
  have out := Package.leads_outputDir leads
  rw [List.append_assoc] at old
  cases found : d.tree.get? (base ++ (names ++ ["dist"])) with
  | none =>
    rw [clean, Disk.lookUp_of_none free out there (by rw [List.append_assoc]; exact found)]
    exact ⟨_, rfl⟩
  | some entry =>
    rw [old entry found] at found
    rw [clean, Disk.lookUp_of_get? free out found]
    exact ⟨_, rfl⟩

/-- A package whose sources all compile, in a run that goes on: it fails if and only if two of its sources clash, and
then because the first output that clashes with a directory cannot be written. -/
theorem buildPackage_conflict (free : w.disk.tree.LinkFree) (there : w.disk.isDirectory p.dir = true)
    (old : ∀ entry, w.disk.tree.get? (Path.location w.disk.cwd p.outputDir) = some entry → entry = .directory)
    (total : c.Total) (running : w.canceled = false) (calm : ∀ path, c.cancels path = false) :
    ∃ d, clean w.disk p.outputDir = .ok d ∧
      ((∃ f w', buildPackage c p w = (.error f, w')) ↔ ∃ stem, Clash (sources d p.dir) stem) ∧
      ∀ f w', buildPackage c p w = (.error f, w') → ∃ stem, Clash (sources d p.dir) stem ∧
        (∀ other, Clash (sources d p.dir) other → stem ++ ".ts" ≤ other ++ ".ts") ∧ f = unwritable p (stem ++ ".ts") := by
  have some : p.dir ≠ "" := by
    intro empty
    rw [empty, Disk.isDirectory, Disk.lookUp, Disk.locate, if_pos rfl] at there
    cases there
  obtain ⟨base, names, leads⟩ := exists_leads_dir some w.disk.cwd
  have located : Located w.disk.cwd p base names := .of_dir leads
  rw [located.location_outputDir] at old
  obtain ⟨d, cleaned⟩ := clean_of_free free leads ((Disk.isDirectory_iff free leads).1 there) old
  refine ⟨d, cleaned, ?_⟩
  obtain rfl := clean_eq_ok free located cleaned
  have pending := fun s => pending_of_mem_sources (s := s) free leads
  have sorted : (sources ⟨w.disk.tree.erase (base ++ names ++ ["dist"]), w.disk.cwd⟩ p.dir).Pairwise (· < ·) :=
    sources_sorted (free.erase _) leads
  obtain ⟨v, disk, canceled, -, built⟩ := buildPackage_of_clean cleaned
  have empty := get?_erase_below w.disk.tree (show base ++ names ++ ["dist"] ≠ [] by simp)
  have failing : ∀ f w', buildPackage c p w = (.error f, w') →
      ∃ stem, Clash (sources ⟨w.disk.tree.erase (base ++ names ++ ["dist"]), w.disk.cwd⟩ p.dir) stem ∧
        (∀ other, Clash (sources ⟨w.disk.tree.erase (base ++ names ++ ["dist"]), w.disk.cwd⟩ p.dir) other →
          stem ++ ".ts" ≤ other ++ ".ts") ∧ f = unwritable p (stem ++ ".ts") := by
    intro f w' failed
    rw [built] at failed
    obtain ⟨done, s, rest, eq, blocked, none, rfl⟩ :=
      compileFiles_conflict total (canceled.trans running) calm (by rw [disk]; exact free.erase _)
        (by rw [disk]; exact leads) (by rw [disk]; exact empty) (by rw [disk]; exact pending) sorted failed
    obtain ⟨stem, rfl, first⟩ := exists_first_clash (eq ▸ pending) (eq ▸ sorted) blocked none
    rw [eq]
    exact ⟨stem, first.1, first.2, rfl⟩
  refine ⟨⟨?_, ?_⟩, failing⟩
  · rintro ⟨f, w', failed⟩
    obtain ⟨stem, clash, -⟩ := failing f w' failed
    exact ⟨stem, clash⟩
  · rintro ⟨stem, memberFile, below, memberBelow⟩
    rcases result : buildPackage c p w with ⟨f | timings, w'⟩
    · exact ⟨f, w', rfl⟩
    · obtain ⟨-, made, all, -, -, layout⟩ := buildPackage_layout free leads result
      have blocks := (blocks_iff (pending _ memberFile) (pending _ memberBelow)).2 ⟨stem, below, rfl, rfl⟩
      rw [← all] at memberFile memberBelow
      obtain ⟨x, inMadeX, eqX⟩ := List.mem_map.1 memberFile
      obtain ⟨y, inMadeY, eqY⟩ := List.mem_map.1 memberBelow
      rw [← eqX, ← eqY] at blocks
      exact absurd blocks (layout.not_blocks inMadeX inMadeY)

/-- The directory `a.js` is made for `a.js/b.ts`, and then `a.ts` has no place for its output. -/
theorem buildPackage_conflict_sample :
    Sample.conflict.disk.tree.LinkFree ∧ Sample.compiler.Total ∧
      ∃ d, clean Sample.conflict.disk (Package.mk "/" "a").outputDir = .ok d ∧
        Clash (sources d (Package.mk "/" "a").dir) "a" ∧
        ∃ f w', buildPackage Sample.compiler ⟨"/", "a"⟩ Sample.conflict = (.error f, w') := by
  have free : Sample.conflict.disk.tree.LinkFree := by decide +kernel
  have total : Sample.compiler.Total := fun _ content => ⟨content ++ content, rfl⟩
  have old : ∀ entry, Sample.conflict.disk.tree.get?
      (Path.location Sample.conflict.disk.cwd (Package.mk "/" "a").outputDir) = some entry → entry = .directory := by
    intro entry found
    have directory : Sample.conflict.disk.tree.get?
        (Path.location Sample.conflict.disk.cwd (Package.mk "/" "a").outputDir) = some .directory := by decide +kernel
    rw [directory] at found
    exact (Option.some.inj found).symm
  obtain ⟨d, cleaned, fails, -⟩ :=
    buildPackage_conflict (p := ⟨"/", "a"⟩) free (by decide +kernel) old total rfl (fun _ => rfl)
  have listed : (clean Sample.conflict.disk (Package.mk "/" "a").outputDir).toOption.map
      (fun d => sources d (Package.mk "/" "a").dir) = some ["0.ts", "a.js/b.ts", "a.ts"] := by decide +kernel
  rw [cleaned] at listed
  have found : sources d (Package.mk "/" "a").dir = ["0.ts", "a.js/b.ts", "a.ts"] := Option.some.inj listed
  have clash : Clash (sources d (Package.mk "/" "a").dir) "a" := by
    rw [found]
    exact ⟨by decide, "b.ts", by decide⟩
  exact ⟨free, total, d, cleaned, clash, fails.2 ⟨"a", clash⟩⟩

end Distill.Build
