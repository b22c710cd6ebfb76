import Distill.Proofs.Glob.Expand
import Distill.Workspace.Resolve

/-!
The packages of a workspace. The patterns of its manifest name directories one after another, and each directory counts
once, where it comes first (`expandAll_eq_ok`, `expandAll_append`). If the patterns are plain and the disk has no links,
then whether they are accepted does not depend on the disk, and the packages are the directories that some pattern picks
(`resolve_of_plain`).
-/
namespace Distill.Workspace

/-- A pattern that leads nowhere out of the root and is well formed. -/
def Accepted (pattern : String) : Prop :=
  leavesRoot (Path.cleanChars pattern.toList) = false ∧ Glob.wellFormed (Path.cleanChars pattern.toList) = true

/-- Some pattern of a manifest picks a location. -/
def Chooses (m : Manifest) (l : Location) : Prop :=
  ∃ pattern ∈ m.patterns, Glob.Picks (Path.cleanChars pattern.toList) l

/-- The package at a location below the root. -/
def packageAt (root : String) (l : Location) : Package := ⟨root, Glob.text l⟩

theorem mem_addNew (found dirs : List String) (s : String) : s ∈ addNew found dirs ↔ s ∈ found ∨ s ∈ dirs := by
  induction dirs generalizing found with
  | nil => simp [addNew]
  | cons dir dirs ih =>
    rw [addNew, List.foldl_cons, ← addNew, ih]
    split
    · rename_i known
      have known : dir ∈ found := by simpa using known
      grind
    · simp [or_assoc]

theorem addNew_nodup {found : List String} (nodup : found.Nodup) (dirs : List String) : (addNew found dirs).Nodup := by
  induction dirs generalizing found with
  | nil => exact nodup
  | cons dir dirs ih =>
    rw [addNew, List.foldl_cons, ← addNew]
    apply ih
    split
    · exact nodup
    · rename_i unknown
      have unknown : dir ∉ found := by simpa using unknown
      exact List.nodup_append.2 ⟨nodup, by simp, by grind⟩

/-- What is found first stays first. -/
theorem prefix_addNew (found dirs : List String) : found <+: addNew found dirs := by
  induction dirs generalizing found with
  | nil => exact List.prefix_rfl
  | cons dir dirs ih =>
    rw [addNew, List.foldl_cons, ← addNew]
    split
    · exact ih found
    · exact (List.prefix_append found [dir]).trans (ih _)

variable {d : Disk} {root : String} {place : Location}

theorem accepted_of_expand {pattern : String} {dirs : List String} (success : expand d root pattern = .ok dirs) :
    Accepted pattern := by
  rw [expand] at success
  split at success
  · cases success
  · rename_i stays
    refine ⟨by simpa using stays, ?_⟩
    by_contra broken
    have none : (⟨d, root⟩ : Glob.Base).directories? (Path.cleanChars pattern.toList) = none := by
      simp [Glob.Base.directories?, Glob.Base.expand?, broken]
    rw [none] at success
    cases success

theorem expand_of_plain {pattern : String} (plain : Glob.Plain (Path.cleanChars pattern.toList))
    (accepted : Accepted pattern) (shows : (⟨d, root⟩ : Glob.Base).Shows place) :
    ∃ dirs, expand d root pattern = .ok dirs ∧ ∀ s, s ∈ dirs ↔ ∃ l, s = Glob.text l ∧
      Glob.Picks (Path.cleanChars pattern.toList) l ∧ d.tree.get? (place ++ l) = some .directory := by
  obtain ⟨ls, eq, members⟩ := Glob.Base.directories?_of_plain (b := ⟨d, root⟩) plain accepted.2 shows
  refine ⟨ls.map Glob.text, by simp [expand, accepted.1, eq], ?_⟩
  intro s
  rw [List.mem_map]
  constructor
  · rintro ⟨l, member, rfl⟩
    exact ⟨l, rfl, (members l).1 member⟩
  · rintro ⟨l, rfl, picks⟩
    exact ⟨l, (members l).2 picks, rfl⟩

private theorem expandFrom_eq_ok {patterns found dirs : List String}
    (success : patterns.foldlM (fun found pattern => do return addNew found (← expand d root pattern)) found = .ok dirs) :
    found <+: dirs ∧ (found.Nodup → dirs.Nodup) ∧ (∀ pattern ∈ patterns, ∃ more, expand d root pattern = .ok more) ∧
      ∀ s, s ∈ dirs ↔ s ∈ found ∨ ∃ pattern ∈ patterns, ∃ more, expand d root pattern = .ok more ∧ s ∈ more := by
  induction patterns generalizing found with
  | nil =>
    obtain rfl : found = dirs := Except.ok.inj success
    exact ⟨List.prefix_rfl, id, by simp, by simp⟩
  | cons pattern patterns ih =>
    rw [List.foldlM_cons] at success
    cases expanded : expand d root pattern with
    | error f =>
      rw [expanded] at success
      cases success
    | ok more =>
      rw [expanded] at success
      obtain ⟨front, nodup, expands, members⟩ := ih success
      refine ⟨(prefix_addNew found more).trans front, fun start => nodup (addNew_nodup start more),
        List.forall_mem_cons.2 ⟨⟨more, expanded⟩, expands⟩, fun s => ?_⟩
      rw [members, mem_addNew, List.exists_mem_cons_iff, expanded, or_assoc]
      simp

/-- The directories that some patterns name are those that one of them names, each one once. -/
theorem expandAll_eq_ok {patterns dirs : List String} (success : expandAll d root patterns = .ok dirs) :
    dirs.Nodup ∧ (∀ pattern ∈ patterns, ∃ more, expand d root pattern = .ok more) ∧
      ∀ s, s ∈ dirs ↔ ∃ pattern ∈ patterns, ∃ more, expand d root pattern = .ok more ∧ s ∈ more := by
  obtain ⟨-, nodup, expands, members⟩ := expandFrom_eq_ok success
  exact ⟨nodup List.nodup_nil, expands, fun s => by rw [members]; simp⟩

/-- More patterns only add directories behind the ones there are. -/
theorem expandAll_append {patterns more dirs : List String} (success : expandAll d root (patterns ++ more) = .ok dirs) :
    ∃ front, expandAll d root patterns = .ok front ∧ front <+: dirs := by
  rw [expandAll, List.foldlM_append] at success
  cases first : expandAll d root patterns with
  | error f =>
    rw [expandAll] at first
    rw [first] at success
    cases success
  | ok front =>
    rw [expandAll] at first
    rw [first] at success
    exact ⟨front, rfl, (expandFrom_eq_ok success).1⟩

theorem expandAll_of_expands {patterns : List String}
    (expands : ∀ pattern ∈ patterns, ∃ dirs, expand d root pattern = .ok dirs) :
    ∃ dirs, expandAll d root patterns = .ok dirs := by
  rw [expandAll]
  generalize ([] : List String) = found
  induction patterns generalizing found with
  | nil => exact ⟨found, rfl⟩
  | cons pattern patterns ih =>
    obtain ⟨more, expanded⟩ := expands pattern (by simp)
    rw [List.foldlM_cons, expanded]
    exact ih (fun p member => expands p (by simp [member])) _

theorem expandAll_congr {e : Disk} {patterns : List String}
    (same : ∀ pattern ∈ patterns, expand e root pattern = expand d root pattern) :
    expandAll e root patterns = expandAll d root patterns := by
  rw [expandAll, expandAll]
  generalize ([] : List String) = found
  induction patterns generalizing found with
  | nil => rw [List.foldlM_nil, List.foldlM_nil]
  | cons pattern patterns ih =>
    have rest := fun found => ih (fun p member => same p (by simp [member])) found
    simp only [List.foldlM_cons, same pattern (by simp), rest]

theorem accepted_of_expandAll {patterns : List String} {dirs : List String}
    (success : expandAll d root patterns = .ok dirs) : ∀ pattern ∈ patterns, Accepted pattern := by
  intro pattern member
  obtain ⟨more, expanded⟩ := (expandAll_eq_ok success).2.1 pattern member
  exact accepted_of_expand expanded

/-- Plain patterns that are accepted name the directories that one of them picks, each one once. -/
theorem expandAll_of_plain {patterns : List String}
    (plain : ∀ pattern ∈ patterns, Glob.Plain (Path.cleanChars pattern.toList))
    (accepted : ∀ pattern ∈ patterns, Accepted pattern)
    (shows : (⟨d, root⟩ : Glob.Base).Shows place) :
    ∃ dirs, expandAll d root patterns = .ok dirs ∧ dirs.Nodup ∧ ∀ s, s ∈ dirs ↔ ∃ l, s = Glob.text l ∧
      (∃ pattern ∈ patterns, Glob.Picks (Path.cleanChars pattern.toList) l) ∧
      d.tree.get? (place ++ l) = some .directory := by
  have expands := fun pattern member => expand_of_plain (plain pattern member) (accepted pattern member) shows
  obtain ⟨dirs, eq⟩ := expandAll_of_expands fun pattern member => (expands pattern member).imp fun _ => And.left
  obtain ⟨nodup, -, members⟩ := expandAll_eq_ok eq
  refine ⟨dirs, eq, nodup, fun s => ?_⟩
  rw [members]
  constructor
  · rintro ⟨pattern, member, more, expanded, inside⟩
    obtain ⟨found, same, picked⟩ := expands pattern member
    obtain rfl : found = more := Except.ok.inj (same.symm.trans expanded)
    obtain ⟨l, text, picks, there⟩ := (picked s).1 inside
    exact ⟨l, text, ⟨pattern, member, picks⟩, there⟩
  · rintro ⟨l, text, ⟨pattern, member, picks⟩, there⟩
    obtain ⟨more, expanded, picked⟩ := expands pattern member
    exact ⟨pattern, member, more, expanded, (picked s).2 ⟨l, text, picks, there⟩⟩

/-- Texts of locations that satisfy `P` come from a list of those. -/
theorem exists_locations {P : Location → Prop} {dirs : List String}
    (texts : ∀ s ∈ dirs, ∃ l, s = Glob.text l ∧ P l) : ∃ ls : List Location, dirs = ls.map Glob.text ∧ ∀ l ∈ ls, P l := by
  induction dirs with
  | nil => exact ⟨[], rfl, by simp⟩
  | cons s dirs ih =>
    obtain ⟨l, rfl, here⟩ := texts s (by simp)
    obtain ⟨ls, rfl, all⟩ := ih fun t member => texts t (by simp [member])
    exact ⟨l :: ls, rfl, List.forall_mem_cons.2 ⟨here, all⟩⟩

theorem map_packageAt (root : String) (ls : List Location) :
    (ls.map Glob.text).map (fun dir => ⟨root, dir⟩) = ls.map (packageAt root) := by
  rw [List.map_map]
  rfl

theorem packagesOf_of_expandAll {m : Manifest} {dirs : List String} (expanded : expandAll d root m.patterns = .ok dirs) :
    packagesOf d root m = .ok (dirs.map fun dir => ⟨root, dir⟩) := by
  rw [packagesOf, expanded]
  rfl

theorem packagesOf_of_plain {m : Manifest} (plain : ∀ pattern ∈ m.patterns, Glob.Plain (Path.cleanChars pattern.toList))
    (accepted : ∀ pattern ∈ m.patterns, Accepted pattern)
    (shows : (⟨d, root⟩ : Glob.Base).Shows place) :
    ∃ ls : List Location, packagesOf d root m = .ok (ls.map (packageAt root)) ∧ ls.Nodup ∧
      ∀ l, l ∈ ls ↔ Chooses m l ∧ d.tree.get? (place ++ l) = some .directory := by
  obtain ⟨dirs, eq, nodup, members⟩ := expandAll_of_plain plain accepted shows
  obtain ⟨ls, rfl, chosen⟩ := exists_locations fun s => (members s).1
  refine ⟨ls, ?_, nodup.of_map, fun l => ⟨chosen l, fun choice => ?_⟩⟩
  · rw [packagesOf_of_expandAll eq, map_packageAt]
  · obtain ⟨k, member, same⟩ := List.mem_map.1 ((members (Glob.text l)).2 ⟨l, rfl, choice⟩)
    have eq := Glob.text_injective (FileTree.isName_below (chosen k member).2) (FileTree.isName_below choice.2) same
    exact eq ▸ member

theorem packagesOf_eq_ok {m : Manifest} {ps : List Package} (success : packagesOf d root m = .ok ps) :
    ∃ dirs, expandAll d root m.patterns = .ok dirs ∧ ps = dirs.map fun dir => ⟨root, dir⟩ := by
  rw [packagesOf] at success
  cases expanded : expandAll d root m.patterns with
  | error f =>
    rw [expanded] at success
    cases success
  | ok dirs =>
    rw [expanded] at success
    exact ⟨dirs, rfl, (Except.ok.inj success).symm⟩

/-- The path of a manifest; without a name it is the default one. -/
def manifestPath (root name : String) : String := Path.join [root, if name = "" then Manifest.defaultName else name]

theorem loaded_of_resolve {name : String} {ps : List Package} {records : List Log.Record}
    (success : resolve d root name = (.ok ps, records)) :
    ∃ m, Manifest.load d (manifestPath root name) = .ok m ∧ packagesOf d root m = .ok ps := by
  rw [resolve] at success
  split at success
  · cases success
  · rename_i m loaded
    split at success
    · cases success
    · rename_i found
      rw [Prod.mk.injEq, Except.ok.injEq] at success
      exact ⟨m, loaded, success.1 ▸ found⟩

theorem resolve_of_loaded {name : String} {m : Manifest} (loaded : Manifest.load d (manifestPath root name) = .ok m) :
    (resolve d root name).1 = packagesOf d root m := by
  rw [manifestPath] at loaded
  simp only [resolve, loaded]
  cases packagesOf d root m <;> rfl

theorem resolve_eq_ok {ps : List Package} {records : List Log.Record}
    (success : resolve d root Manifest.defaultName = (.ok ps, records)) :
    ∃ m, Manifest.load d (Path.join [root, Manifest.defaultName]) = .ok m ∧ packagesOf d root m = .ok ps := by
  obtain ⟨m, loaded, packages⟩ := loaded_of_resolve success
  rw [manifestPath, if_neg (by decide)] at loaded
  exact ⟨m, loaded, packages⟩

theorem accepted_of_packagesOf {m : Manifest} {ps : List Package} (success : packagesOf d root m = .ok ps) :
    ∀ pattern ∈ m.patterns, Accepted pattern := by
  obtain ⟨dirs, expanded, -⟩ := packagesOf_eq_ok success
  exact accepted_of_expandAll expanded

/-- The packages of a workspace are the directories that its manifest picks, each one once. -/
theorem resolve_of_plain {m : Manifest} (loaded : Manifest.load d (Path.join [root, Manifest.defaultName]) = .ok m)
    (plain : ∀ pattern ∈ m.patterns, Glob.Plain (Path.cleanChars pattern.toList))
    (accepted : ∀ pattern ∈ m.patterns, Accepted pattern)
    (shows : (⟨d, root⟩ : Glob.Base).Shows place) :
    ∃ (ls : List Location) (records : List Log.Record),
      resolve d root Manifest.defaultName = (.ok (ls.map (packageAt root)), records) ∧ ls.Nodup ∧
      ∀ l, l ∈ ls ↔ Chooses m l ∧ d.tree.get? (place ++ l) = some .directory := by
  obtain ⟨ls, eq, nodup, members⟩ := packagesOf_of_plain plain accepted shows
  refine ⟨ls, skipRecords m ++ [doneRecord root (ls.map (packageAt root))], ?_, nodup, members⟩
  rw [resolve, if_neg (by decide)]
  simp only [loaded, eq]

end Distill.Workspace
