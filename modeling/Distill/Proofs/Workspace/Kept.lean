import Distill.Proofs.Build.Repeat
import Distill.Proofs.Workspace.Resolve

/-!
What building the packages of a workspace keeps. Changes are confined to directories named `dist`; as long as no source
lies there, no source comes or goes (`Kept.build`), and no output directory gets another one inside (`Outcome.flat`).
-/
namespace Distill.Workspace

open Build

/-- A location at or below something named `dist` in a workspace. -/
def InOutput (place k : Location) : Prop := ∃ r, k = place ++ r ∧ "dist" ∈ r

theorem inOutput_append (place r : Location) : InOutput place (place ++ r) ↔ "dist" ∈ r := by
  constructor
  · rintro ⟨s, eq, member⟩
    exact List.append_cancel_left eq ▸ member
  · exact fun member => ⟨r, rfl, member⟩

theorem inOutput_iff (place k : Location) : InOutput place k ↔ place <+: k ∧ "dist" ∈ k.drop place.length := by
  constructor
  · rintro ⟨r, rfl, member⟩
    exact ⟨List.prefix_append _ _, by simpa using member⟩
  · rintro ⟨⟨r, rfl⟩, member⟩
    exact ⟨r, rfl, by simpa using member⟩

instance (place k : Location) : Decidable (InOutput place k) := decidable_of_iff _ (inOutput_iff place k).symm

/-- A tree that differs from `t₀` only in the outputs of a workspace, and has no source there. -/
structure Kept (place : Location) (t₀ t : FileTree) : Prop where
  linkFree : t.LinkFree
  outside : ∀ k, ¬ InOutput place k → t.get? k = t₀.get? k
  sources : ∀ k content, InOutput place k → IsSource k → t.get? k ≠ some (.file content)

/-- How building the package at a location changes a tree. -/
structure Outcome (place l : Location) (t t' : FileTree) : Prop where
  frame : ∀ k, ¬ place ++ l ++ ["dist"] <+: k → t'.get? k = t.get? k
  /-- An output directory is neither in another one nor around one. -/
  flat : ∀ b, "dist" ∈ l ++ b → t'.get? (place ++ l ++ ["dist"] ++ b) = none
  notFile : ∀ content, t'.get? (place ++ l ++ ["dist"]) ≠ some (.file content)

section Sources

variable {root cwd : String} {place l : Location} {t₀ t u : FileTree}

theorem leads_packageAt (reaches : Path.Reaches cwd root place) (named : ∀ n ∈ l, isName n = true) :
    ∃ base names, Path.Leads cwd (packageAt root l).dir base names ∧ base ++ names = place ++ l := by
  have some := reaches.nonempty
  have dir : (packageAt root l).dir = Path.join [root, Glob.text l] := rfl
  obtain ⟨base, names, leads⟩ := Path.leads_clean cwd (root ++ "/" ++ Glob.text l)
  rw [← Path.join_eq_clean some] at leads
  refine ⟨base, names, dir ▸ leads, ?_⟩
  rw [← leads.location_eq, Path.location_join some, reaches.location, Glob.Base.along_text place named]

/-- Two trees that are kept have the same sources. -/
theorem Kept.source_iff (keptT : Kept place t₀ t) (keptU : Kept place t₀ u) {k : Location} (source : IsSource k)
    (content : Text.Bytes) : t.get? k = some (.file content) ↔ u.get? k = some (.file content) := by
  by_cases inside : InOutput place k
  · exact iff_of_false (keptT.sources k content inside source) (keptU.sources k content inside source)
  · rw [keptT.outside k inside, keptU.outside k inside]

theorem Kept.erase (kept : Kept place t₀ t) (l : Location) : Kept place t₀ (t.erase (place ++ l ++ ["dist"])) := by
  have below : place ++ l ++ ["dist"] ≠ [] := by simp
  refine ⟨kept.linkFree.erase _, ?_, ?_⟩
  · intro k out
    rw [FileTree.get?_erase _ below, if_neg, kept.outside k out]
    rintro ⟨b, rfl⟩
    exact out ⟨l ++ ["dist"] ++ b, by simp, by simp⟩
  · intro k content inside source
    rw [FileTree.get?_erase _ below]
    split
    · simp
    · exact kept.sources k content inside source

/-- Two trees that are kept agree for a package outside the outputs, once its own output directory is gone. -/
theorem Kept.agree (keptT : Kept place t₀ t) (keptU : Kept place t₀ u) (outside : "dist" ∉ l) :
    Agree (place ++ l) (t.erase (place ++ l ++ ["dist"])) (u.erase (place ++ l ++ ["dist"])) := by
  have below : place ++ l ++ ["dist"] ≠ [] := by simp
  refine ⟨?_, ?_, fun r content source => (keptT.erase l).source_iff (keptU.erase l) (source.append _) content⟩
  · intro k above
    have out : ¬ InOutput place k := by
      rintro ⟨r, rfl, member⟩
      exact outside (((List.prefix_append_right_inj place).1 above).subset member)
    rw [(keptT.erase l).outside k out, (keptU.erase l).outside k out]
  · intro k inside
    rw [FileTree.get?_erase _ below, FileTree.get?_erase _ below, if_pos inside, if_pos inside]

/-- How many files building a package of a tree gives. -/
def filesAt (root cwd : String) (place : Location) (t : FileTree) (l : Location) : Nat :=
  (Build.sources ⟨t.erase (place ++ l ++ ["dist"]), cwd⟩ (packageAt root l).dir).length

theorem Kept.filesAt_eq (keptT : Kept place t₀ t) (keptU : Kept place t₀ u) (reaches : Path.Reaches cwd root place)
    (named : ∀ n ∈ l, isName n = true) : filesAt root cwd place t l = filesAt root cwd place u l := by
  obtain ⟨base, names, leads, -⟩ := leads_packageAt reaches named
  refine congrArg List.length (sources_eq (keptT.erase l).linkFree (keptU.erase l).linkFree leads leads ?_)
  exact fun r content source => (keptT.erase l).source_iff (keptU.erase l) (source.append _) content

/-- A package that lies in an output has no sources. -/
theorem Kept.sources_eq_nil (kept : Kept place t₀ t) (reaches : Path.Reaches cwd root place)
    (named : ∀ n ∈ l, isName n = true) (inside : "dist" ∈ l) : Build.sources ⟨t, cwd⟩ (packageAt root l).dir = [] := by
  obtain ⟨base, names, leads, site⟩ := leads_packageAt reaches named
  rw [List.eq_nil_iff_forall_not_mem]
  intro s member
  obtain ⟨source, content, found⟩ := (mem_sources_iff kept.linkFree leads s).1 member
  rw [site, List.append_assoc] at found
  have out : InOutput place (place ++ (l ++ Path.pieces s)) := (inOutput_append _ _).2 (List.mem_append_left _ inside)
  exact kept.sources _ content out ((source.append l).append place) found

end Sources

section Build

variable {c : ModuleCompiler} {root : String} {place l : Location} {t₀ : FileTree} {w w' : World} {timings : List Timing}

private theorem append_js_ne (stem : String) : stem ++ ".js" ≠ "dist" ∧ isSourceName (stem ++ ".js") = false := by
  constructor
  · intro eq
    have last := congrArg (fun s : String => s.toList.getLast?) eq
    simp at last
  · by_contra source
    obtain ⟨other, eq⟩ := (isSourceName_iff _).1 (by simpa using source)
    have chars := congrArg String.toList eq
    rw [String.toList_append, String.toList_append] at chars
    exact absurd (List.append_inj' chars (by decide)).2 (by decide)

/-- The output of a source that does not lie in an output has no name `dist`, and it is no source. -/
theorem outputOf_plain {s : String} (source : IsSource (Path.pieces s)) (named : ∀ n ∈ Path.pieces s, isName n = true)
    (outside : "dist" ∉ Path.pieces s) (front : Location) :
    "dist" ∉ outputOf s ∧ ¬ IsSource (front ++ outputOf s) := by
  obtain ⟨above, stem, eq⟩ := source.exists_stem
  rw [(outputOf_eq eq named).1]
  rw [eq] at outside
  constructor
  · intro member
    rcases List.mem_append.1 member with member | member
    · exact outside (List.mem_append_left _ member)
    · exact (append_js_ne stem).1 (List.mem_singleton.1 member).symm
  · rintro ⟨before, n, same, ends⟩
    rw [← List.append_assoc] at same
    have last := (List.append_inj' same rfl).2
    rw [← List.singleton_inj.1 last, (append_js_ne stem).2] at ends
    cases ends

/-- Building a package keeps what has to be kept. -/
theorem Kept.build (kept : Kept place t₀ w.disk.tree) (reaches : Path.Reaches w.disk.cwd root place)
    (named : ∀ n ∈ l, isName n = true) (success : buildPackage c (packageAt root l) w = (.ok timings, w')) :
    Kept place t₀ w'.disk.tree ∧ Outcome place l w.disk.tree w'.disk.tree ∧ w'.disk.cwd = w.disk.cwd ∧
      timings.length = filesAt root w.disk.cwd place w.disk.tree l := by
  obtain ⟨base, names, leads, site⟩ := leads_packageAt reaches named
  obtain ⟨cwd, made, all, files, outputs, layout⟩ := buildPackage_layout kept.linkFree leads success
  have frame := (buildPackage_framed kept.linkFree leads success).entries
  have empty := get?_erase_below w.disk.tree (show base ++ names ++ ["dist"] ≠ [] by simp)
  have pending : ∀ x ∈ made, _ := fun x member =>
    pending_of_mem_sources kept.linkFree leads (all ▸ List.mem_map_of_mem member)
  rw [site] at all outputs layout frame empty
  -- every output comes from a source, and a source lies in no output
  have plain : ∀ x ∈ made, "dist" ∉ l ∧ "dist" ∉ outputOf x.1 ∧
      ¬ IsSource (place ++ l ++ ["dist"] ++ outputOf x.1) := by
    intro x member
    have source := (pending x member).source
    obtain ⟨content, found, -⟩ := outputs x member
    have outside : "dist" ∉ l ++ Path.pieces x.1 := by
      intro inside
      rw [List.append_assoc] at found
      exact kept.sources _ content ((inOutput_append _ _).2 inside) ((source.append l).append place) found
    rw [List.mem_append, not_or] at outside
    exact ⟨outside.1, outputOf_plain source (pending x member).named outside.2 _⟩
  refine ⟨⟨layout.linkFree, ?_, ?_⟩, ⟨frame, ?_, ?_⟩, cwd, ?_⟩
  · intro k out
    rw [← kept.outside k out]
    refine frame k fun below => out ?_
    obtain ⟨b, rfl⟩ := below
    exact ⟨l ++ ["dist"] ++ b, by simp, by simp⟩
  · intro k content inside source found
    by_cases below : place ++ l ++ ["dist"] <+: k
    · obtain ⟨b, rfl⟩ := below
      obtain ⟨x, member, eq, -⟩ := (layout.file_iff empty b content).1 found
      rw [eq] at source
      exact (plain x member).2.2 source
    · rw [frame k below] at found
      exact kept.sources k content inside source found
  · intro b inner
    cases found : w'.disk.tree.get? (place ++ l ++ ["dist"] ++ b) with
    | none => rfl
    | some e =>
      obtain ⟨x, member, way⟩ := layout.exists_output empty found
      obtain ⟨plainL, plainX, -⟩ := plain x member
      rcases List.mem_append.1 inner with inner | inner
      · exact absurd inner plainL
      · exact absurd (way.subset inner) plainX
  · intro content found
    have found : w'.disk.tree.get? (place ++ l ++ ["dist"] ++ []) = some (.file content) := by simpa using found
    obtain ⟨x, -, eq, -⟩ := (layout.file_iff empty [] content).1 found
    exact outputOf_ne_nil x.1 eq.symm
  · have lengths := congrArg List.length files
    rw [List.length_map, List.length_map, all] at lengths
    exact lengths

end Build

end Distill.Workspace
