import Distill.Proofs.Build.Agreement

/-!
The actions that build a package, on a disk without links: what each one does, and that it depends only on what can be
seen from the package (`SameView`). Every action changes the output directory at most.
-/
namespace Distill.Build

/-- Two worlds that look the same from a site. -/
structure SameView (site : Location) (w v : World) : Prop where
  cwd : w.disk.cwd = v.disk.cwd
  canceled : w.canceled = v.canceled
  linkFree : w.disk.tree.LinkFree
  linkFree' : v.disk.tree.LinkFree
  agree : Agree site w.disk.tree v.disk.tree

/-- What an action for a site leaves alone. -/
structure Framed (site : Location) (w w' : World) : Prop where
  cwd : w'.disk.cwd = w.disk.cwd
  canceled : w'.canceled = false → w.canceled = false
  entries : ∀ k, ¬ site ++ ["dist"] <+: k → w'.disk.tree.get? k = w.disk.tree.get? k

theorem Framed.refl (site : Location) (w : World) : Framed site w w := ⟨rfl, id, fun _ _ => rfl⟩

theorem Framed.trans {site : Location} {w w' w'' : World} (first : Framed site w w') (second : Framed site w' w'') :
    Framed site w w'' :=
  ⟨second.cwd.trans first.cwd, fun running => first.canceled (second.canceled running),
    fun k outside => (second.entries k outside).trans (first.entries k outside)⟩

/-- Two outcomes of an action that look the same from a site, the first one reached from `w`. Results are compared by
what `view` shows of them. -/
structure Lockstep {α β : Type} (view : α → β) (site : Location) (w : World) (a b : Except Failure α × World) :
    Prop where
  result : a.1.map view = b.1.map view
  same : SameView site a.2 b.2
  framed : Framed site w a.2

section

variable {w v : World} {p : Package} {base names : Location} {s : String}

theorem SameView.way (same : SameView (base ++ names) w v) (rest : Location) :
    ∀ k, k <+: base ++ (names ++ ["dist"] ++ rest) → w.disk.tree.get? k = v.disk.tree.get? k := by
  intro k way
  exact same.agree.way k (by simpa [List.append_assoc] using way)

/-- An old output directory is removed, or it is an error. -/
theorem clean_eq_ok {d d' : Disk} (free : d.tree.LinkFree) (located : Located d.cwd p base names)
    (success : clean d p.outputDir = .ok d') :
    d' = { d with tree := d.tree.erase (base ++ names ++ ["dist"]) } := by
  have iff {entry : Entry} : d.lookUp false p.outputDir = .ok entry ↔
      d.tree.get? (base ++ names ++ ["dist"]) = some entry := by
    rw [List.append_assoc]
    exact Disk.lookUp_eq_ok_iff free located.output
  rw [clean] at success
  split at success
  · rename_i look
    rw [Except.ok.injEq] at success
    rw [← success, Disk.removeAll_of_get? free located.output (by rw [← List.append_assoc]; exact iff.1 look),
      List.append_assoc]
  · cases success
  · rename_i look
    have missing : d.tree.get? (base ++ names ++ ["dist"]) = none := by
      cases found : d.tree.get? (base ++ names ++ ["dist"]) with
      | none => rfl
      | some entry =>
        rw [iff.2 found] at look
        cases look
    rw [Except.ok.injEq] at success
    rw [← success, FileTree.erase_eq_self missing]
  · cases success

theorem removeOutput_eq_ok {w' : World} (free : w.disk.tree.LinkFree) (located : Located w.disk.cwd p base names)
    (success : removeOutput p w = (.ok (), w')) :
    w' = { w with disk := { w.disk with tree := w.disk.tree.erase (base ++ names ++ ["dist"]) } } := by
  rw [removeOutput] at success
  split at success
  · rename_i disk cleaned
    rw [Prod.mk.injEq] at success
    rw [← success.2, clean_eq_ok free located cleaned]
  · simp at success

theorem removeOutput_lockstep (located : Located w.disk.cwd p base names) (same : SameView (base ++ names) w v) :
    Lockstep id (base ++ names) w (removeOutput p w) (removeOutput p v) := by
  have look : w.disk.lookUp false p.outputDir = v.disk.lookUp false p.outputDir :=
    Disk.lookUp_congr same.linkFree same.linkFree' same.cwd located.output
      (by simpa using same.way []) false
  have locatedV : Located v.disk.cwd p base names := same.cwd ▸ located
  have kind : (∃ f, clean w.disk p.outputDir = .error f ∧ clean v.disk p.outputDir = .error f) ∨
      ∃ d e, clean w.disk p.outputDir = .ok d ∧ clean v.disk p.outputDir = .ok e := by
    rw [clean, clean, ← look]
    split
    · exact Or.inr ⟨_, _, rfl, rfl⟩
    · exact Or.inl ⟨_, rfl, rfl⟩
    · exact Or.inr ⟨_, _, rfl, rfl⟩
    · exact Or.inl ⟨_, rfl, rfl⟩
  rcases kind with ⟨f, failW, failV⟩ | ⟨d, e, okW, okV⟩
  · rw [removeOutput, removeOutput, failW, failV]
    exact ⟨rfl, same, .refl _ _⟩
  · have changeW := overlaid_erase same.linkFree (show base ++ names ++ ["dist"] ≠ [] by simp)
    have changeV := overlaid_erase same.linkFree' (show base ++ names ++ ["dist"] ≠ [] by simp)
    rw [removeOutput, removeOutput, okW, okV, clean_eq_ok same.linkFree located okW,
      clean_eq_ok same.linkFree' locatedV okV]
    exact ⟨rfl, ⟨same.cwd, same.canceled, changeW.linkFree, changeV.linkFree, same.agree.overlaid changeW changeV⟩,
      ⟨rfl, id, fun k outside => changeW.frame outside⟩⟩

/-- The sources are among what can be seen from a package. -/
theorem sources_congr (located : Located w.disk.cwd p base names) (same : SameView (base ++ names) w v) :
    sources w.disk p.dir = sources v.disk p.dir := by
  by_cases none : p.dir = ""
  · rw [none, sources_empty, sources_empty]
  · have leads := located.dir none
    exact sources_eq same.linkFree same.linkFree' leads (same.cwd ▸ leads) same.agree.sources

theorem listSources_lockstep (located : Located w.disk.cwd p base names) (same : SameView (base ++ names) w v) :
    Lockstep id (base ++ names) w (listSources p w) (listSources p v) := by
  rw [listSources, listSources, sources_congr located same]
  exact ⟨rfl, ⟨same.cwd, same.canceled, same.linkFree, same.linkFree', same.agree⟩, ⟨rfl, id, fun _ _ => rfl⟩⟩

theorem Pending.exists_front (pending : Pending w.disk.tree (base ++ names) s) (located : Located w.disk.cwd p base names) :
    ∃ front last, outputOf s = front ++ [last] ∧
      Path.Leads w.disk.cwd (outputPath p s) base (names ++ ["dist"] ++ front ++ [last]) ∧
      Path.Leads w.disk.cwd (Path.parent (outputPath p s)) base (names ++ ["dist"] ++ front) := by
  obtain ⟨front, stem, eq⟩ := pending.source.exists_stem
  have out := (outputOf_eq eq pending.named).1
  have leads := leads_outputPath located pending.source pending.named
  rw [out, ← List.append_assoc] at leads
  exact ⟨front, _, out, leads, leads.parent⟩

/-- The directory of an output can be made if no file is on the way. -/
theorem prepare_of_clear (free : w.disk.tree.LinkFree) (located : Located w.disk.cwd p base names)
    (pending : Pending w.disk.tree (base ++ names) s) (running : w.canceled = false)
    (clear : ∀ k content, k <+: base ++ names ++ ["dist"] ++ (outputOf s).dropLast →
      w.disk.tree.get? k ≠ some (.file content)) :
    ∃ t, prepare p s w = (.ok ⟨sourcePath p s, w.clock.now⟩,
        { w with disk := { w.disk with tree := t }, clock := w.clock.read.2 }) ∧
      Disk.Grown w.disk.tree t (base ++ names ++ ["dist"] ++ (outputOf s).dropLast) := by
  obtain ⟨front, last, out, -, leads⟩ := pending.exists_front located
  have assoc : base ++ (names ++ ["dist"] ++ front) = base ++ names ++ ["dist"] ++ front := by simp
  rw [out, List.dropLast_concat] at clear ⊢
  have top := FileTree.directory_above pending.directory (List.prefix_append base names)
  obtain ⟨t, made, grown⟩ := Disk.makeDirectories_of_clear free leads top (by rw [assoc]; exact clear)
  rw [assoc] at grown
  refine ⟨t, ?_, grown⟩
  rw [prepare, running, if_neg (by simp)]
  dsimp only
  rw [made]
  rfl

theorem prepare_of_file (located : Located w.disk.cwd p base names) (same : SameView (base ++ names) w v)
    (pending : Pending w.disk.tree (base ++ names) s) (running : w.canceled = false) {k : Location}
    {content : Text.Bytes} (way : k <+: base ++ names ++ ["dist"] ++ (outputOf s).dropLast)
    (file : w.disk.tree.get? k = some (.file content)) :
    ∃ f, prepare p s w = (.error f, { w with clock := w.clock.read.2 }) ∧
      prepare p s v = (.error f, { v with clock := v.clock.read.2 }) := by
  obtain ⟨front, last, out, -, leads⟩ := pending.exists_front located
  have assoc : base ++ (names ++ ["dist"] ++ front) = base ++ names ++ ["dist"] ++ front := by simp
  rw [out, List.dropLast_concat, ← assoc] at way
  have top := FileTree.directory_above pending.directory (List.prefix_append base names)
  obtain ⟨f, failW, failV⟩ :=
    Disk.makeDirectories_of_file same.linkFree same.linkFree' same.cwd leads top (same.way _) way file
  refine ⟨.within (.access "mkdir" (Path.parent (outputPath p s))) (.fault f), ?_, ?_⟩
  · rw [prepare, running, if_neg (by simp)]
    dsimp only
    rw [failW]
    rfl
  · rw [prepare, ← same.canceled, running, if_neg (by simp)]
    dsimp only
    rw [failV]
    rfl

theorem prepare_lockstep (located : Located w.disk.cwd p base names) (same : SameView (base ++ names) w v)
    (pending : Pending w.disk.tree (base ++ names) s) :
    Lockstep Stopwatch.file (base ++ names) w (prepare p s w) (prepare p s v) := by
  cases running : w.canceled with
  | true =>
    rw [prepare, prepare, ← same.canceled, running, if_pos rfl, if_pos rfl]
    exact ⟨rfl, same, .refl _ _⟩
  | false =>
    by_cases clear : ∀ k content, k <+: base ++ names ++ ["dist"] ++ (outputOf s).dropLast →
        w.disk.tree.get? k ≠ some (.file content)
    · have clearV : ∀ k content, k <+: base ++ names ++ ["dist"] ++ (outputOf s).dropLast →
          v.disk.tree.get? k ≠ some (.file content) := by
        intro k content way
        rw [← same.agree.way k way]
        exact clear k content way
      have pendingV := pending.agree same.agree
      have runningV : v.canceled = false := same.canceled ▸ running
      obtain ⟨t, okW, grownW⟩ := prepare_of_clear same.linkFree located pending running clear
      obtain ⟨u, okV, grownV⟩ := prepare_of_clear same.linkFree' (same.cwd ▸ located) pendingV runningV clearV
      have changeW := overlaid_grown pending.directory grownW
      have changeV := overlaid_grown pendingV.directory grownV
      rw [okW, okV]
      exact ⟨rfl, ⟨same.cwd, same.canceled, changeW.linkFree, changeV.linkFree, same.agree.overlaid changeW changeV⟩,
        ⟨rfl, id, fun k outside => changeW.frame outside⟩⟩
    · simp only [not_forall, ne_eq, not_not] at clear
      obtain ⟨k, content, way, file⟩ := clear
      obtain ⟨f, failW, failV⟩ := prepare_of_file located same pending running way file
      rw [failW, failV]
      exact ⟨rfl, ⟨same.cwd, same.canceled, same.linkFree, same.linkFree', same.agree⟩, ⟨rfl, id, fun _ _ => rfl⟩⟩

/-- A source is read as it stands. -/
theorem contents_of_pending (free : w.disk.tree.LinkFree) (leads : Path.Leads w.disk.cwd p.dir base names)
    (pending : Pending w.disk.tree (base ++ names) s) {content : Text.Bytes}
    (found : w.disk.tree.get? (base ++ names ++ Path.pieces s) = some (.file content)) :
    w.disk.contents (sourcePath p s) = .ok content := by
  refine Disk.contents_of_get? free (leads_sourcePath leads pending.named) ?_
  rw [← List.append_assoc, found]

theorem compileSource_lockstep (c : ModuleCompiler) (leads : Path.Leads w.disk.cwd p.dir base names)
    (same : SameView (base ++ names) w v) (pending : Pending w.disk.tree (base ++ names) s) :
    Lockstep id (base ++ names) w (compileSource c p s w) (compileSource c p s v) := by
  obtain ⟨content, found⟩ := pending.found
  have foundV := (same.agree.sources _ content pending.source).1 found
  have readW := contents_of_pending same.linkFree leads pending found
  have readV := contents_of_pending same.linkFree' (same.cwd ▸ leads) (pending.agree same.agree) foundV
  have after : SameView (base ++ names) { w with canceled := w.canceled || c.cancels (sourcePath p s) }
      { v with canceled := v.canceled || c.cancels (sourcePath p s) } :=
    ⟨same.cwd, by rw [same.canceled], same.linkFree, same.linkFree', same.agree⟩
  have framed : Framed (base ++ names) w { w with canceled := w.canceled || c.cancels (sourcePath p s) } :=
    ⟨rfl, fun running => (Bool.or_eq_false_iff.1 running).1, fun _ _ => rfl⟩
  rw [compileSource, compileSource]
  dsimp only
  rw [readW, readV]
  split
  · exact ⟨rfl, after, framed⟩
  · split <;> exact ⟨rfl, after, framed⟩

/-- An output is written, unless a directory is in its place. -/
theorem store_eq (free : w.disk.tree.LinkFree) (located : Located w.disk.cwd p base names)
    (pending : Pending w.disk.tree (base ++ names) s)
    (made : w.disk.tree.get? (base ++ names ++ ["dist"] ++ (outputOf s).dropLast) = some .directory)
    (watch : Stopwatch) (output : Text.Bytes) :
    store p s watch output w =
      if w.disk.tree.get? (base ++ names ++ ["dist"] ++ outputOf s) = some .directory then
        (.error (.within (.access "write" (outputPath p s)) (.fault (.system "open" (outputPath p s) .isDirectory))), w)
      else
        let timing : Timing := ⟨watch.file, Duration.between watch.opened w.clock.now⟩
        (.ok timing, { w with
          disk := { w.disk with tree := w.disk.tree.set (base ++ names ++ ["dist"] ++ outputOf s) (.file output) }
          clock := w.clock.read.2 }.note ⟨.debug, "compiled file",
            [("package", .text p.packageRoot), ("file", .text s), ("elapsed", .time timing.elapsed)]⟩) := by
  obtain ⟨front, last, out, leads, -⟩ := pending.exists_front located
  have assoc : base ++ (names ++ ["dist"] ++ front) = base ++ names ++ ["dist"] ++ front := by simp
  rw [out, List.dropLast_concat, ← assoc] at made
  have written := Disk.writeFile_of_parent free leads made output
  rw [assoc, List.append_assoc _ front, ← out] at written
  rw [store]
  dsimp only
  rw [written]
  by_cases directory : w.disk.tree.get? (base ++ names ++ ["dist"] ++ outputOf s) = some .directory
  · rw [if_pos directory, if_pos directory]
  · rw [if_neg directory, if_neg directory]
    rfl

theorem accepts_output {t : FileTree} (pending : Pending t (base ++ names) s)
    (made : t.get? (base ++ names ++ ["dist"] ++ (outputOf s).dropLast) = some .directory)
    (free : t.get? (base ++ names ++ ["dist"] ++ outputOf s) ≠ some .directory) (content : Text.Bytes) :
    t.Accepts (base ++ names ++ ["dist"] ++ outputOf s) (.file content) := by
  obtain ⟨front, stem, eq⟩ := pending.source.exists_stem
  have namedOut := (outputOf_eq eq pending.named).2
  refine ⟨by simp, ?_, ?_, fun directory => absurd directory free⟩
  · intro n member
    rcases List.mem_append.1 member with member | member
    · exact FileTree.isName_of_get? made n (List.mem_append_left _ member)
    · exact namedOut n member
  · rw [List.dropLast_append_of_ne_nil (outputOf_ne_nil s)]
    exact made

theorem store_lockstep (located : Located w.disk.cwd p base names) (same : SameView (base ++ names) w v)
    (pending : Pending w.disk.tree (base ++ names) s)
    (made : w.disk.tree.get? (base ++ names ++ ["dist"] ++ (outputOf s).dropLast) = some .directory)
    {watch watch' : Stopwatch} (file : watch.file = watch'.file) (output : Text.Bytes) :
    Lockstep Timing.file (base ++ names) w (store p s watch output w) (store p s watch' output v) := by
  have pendingV := pending.agree same.agree
  have madeV : v.disk.tree.get? (base ++ names ++ ["dist"] ++ (outputOf s).dropLast) = some .directory := by
    rw [← same.agree.output _ (List.prefix_append _ _), made]
  have sameTarget := same.agree.output (base ++ names ++ ["dist"] ++ outputOf s) (List.prefix_append _ _)
  rw [store_eq same.linkFree located pending made, store_eq same.linkFree' (same.cwd ▸ located) pendingV madeV,
    ← sameTarget]
  split
  · exact ⟨rfl, same, .refl _ _⟩
  · rename_i target
    have changeW := overlaid_set same.linkFree (accepts_output pending made target output)
    have changeV := overlaid_set same.linkFree' (accepts_output pendingV madeV (sameTarget ▸ target) output)
    exact ⟨congrArg Except.ok file, ⟨same.cwd, same.canceled, changeW.linkFree, changeV.linkFree,
      same.agree.overlaid changeW changeV⟩, ⟨rfl, id, fun k outside => changeW.frame outside⟩⟩

end

end Distill.Build
