import Distill.Build.Sources
import Distill.Package
import Distill.Proofs.Glob.Base

/-!
The sources of a package, on a disk without links: exactly the files below its directory whose names end in `.ts`
(`mem_sources_iff`), each once and in byte order (`sources_sorted`). Two sources never have the same output name.
-/
namespace Distill

namespace Text

theorem mem_insertSorted (s t : String) (xs : List String) : t ∈ insertSorted s xs ↔ t = s ∨ t ∈ xs := by
  induction xs with
  | nil => simp [insertSorted]
  | cons x xs ih =>
    rw [insertSorted]
    split
    · rw [List.mem_cons, ih, List.mem_cons, or_left_comm]
    · rw [List.mem_cons]

theorem mem_sorted (t : String) (xs : List String) : t ∈ sorted xs ↔ t ∈ xs := by
  induction xs with
  | nil => rfl
  | cons x xs ih =>
    rw [List.mem_cons, ← ih]
    exact mem_insertSorted x t (sorted xs)

private theorem insertSorted_sorted {s : String} {xs : List String} (new : s ∉ xs) (order : xs.Pairwise (· < ·)) :
    (insertSorted s xs).Pairwise (· < ·) := by
  induction xs with
  | nil => exact List.pairwise_singleton _ _
  | cons x xs ih =>
    obtain ⟨first, rest⟩ := List.pairwise_cons.1 order
    rw [List.mem_cons, not_or] at new
    rw [insertSorted]
    split
    · rename_i before
      refine List.pairwise_cons.2 ⟨?_, ih new.2 rest⟩
      intro y member
      rcases (mem_insertSorted s y xs).1 member with rfl | member
      · exact before
      · exact first y member
    · rename_i notBefore
      have after : s < x := by
        by_contra notAfter
        exact new.1 (String.le_antisymm (String.not_lt.1 notBefore) (String.not_lt.1 notAfter))
      refine List.pairwise_cons.2 ⟨?_, order⟩
      intro y member
      rcases List.mem_cons.1 member with rfl | member
      · exact after
      · exact String.lt_trans after (first y member)

theorem sorted_pairwise {xs : List String} (distinct : xs.Nodup) : (sorted xs).Pairwise (· < ·) := by
  induction xs with
  | nil => exact .nil
  | cons x xs ih =>
    obtain ⟨new, rest⟩ := List.nodup_cons.1 distinct
    exact insertSorted_sorted (fun member => new ((mem_sorted x xs).1 member)) (ih rest)

end Text

namespace Build

/-- Whether a location ends in the name of a source. -/
def IsSource (r : Location) : Prop := ∃ front n, r = front ++ [n] ∧ isSourceName n = true

theorem isSourceName_iff (n : String) : isSourceName n = true ↔ ∃ stem, n = stem ++ ".ts" := by
  rw [isSourceName, List.isSuffixOf_iff_suffix]
  constructor
  · rintro ⟨stem, eq⟩
    exact ⟨String.ofList stem, String.toList_inj.1 (by rw [String.toList_append, String.toList_ofList]; exact eq.symm)⟩
  · rintro ⟨stem, rfl⟩
    exact ⟨stem.toList, by rw [String.toList_append]; rfl⟩

theorem IsSource.ne_nil {r : Location} (source : IsSource r) : r ≠ [] := by
  obtain ⟨front, n, rfl, -⟩ := source
  simp

theorem IsSource.append {r : Location} (source : IsSource r) (front : Location) : IsSource (front ++ r) := by
  obtain ⟨before, n, rfl, ends⟩ := source
  exact ⟨front ++ before, n, by simp, ends⟩

section Listing

variable {b : Glob.Base} {place : Location}

theorem mem_sourcesIn_iff (free : b.disk.tree.LinkFree) (shows : b.Shows place)
    {here : Location} (named : ∀ n ∈ here, isName n = true) (r : Location) :
    r ∈ sourcesIn b here ↔
      ∃ n content, r = here ++ [n] ∧ isSourceName n = true ∧
        b.disk.tree.get? (place ++ r) = some (.file content) := by
  rw [sourcesIn, List.mem_filter, List.mem_map, shows.names named]
  constructor
  · rintro ⟨⟨n, listed, rfl⟩, notDirectory⟩
    obtain ⟨listed, source⟩ := List.mem_filter.1 listed
    split at listed
    · obtain ⟨e, found⟩ := (FileTree.mem_children_iff _ _ _).1 listed
      rw [List.append_assoc] at found
      cases e with
      | directory => simp [(shows.isDirectory_iff (FileTree.isName_below found)).2 found] at notDirectory
      | file content => exact ⟨n, content, rfl, source, found⟩
      | link target => exact absurd found (free _ _)
    · cases listed
  · rintro ⟨n, content, rfl, source, found⟩
    have namedThere : ∀ m ∈ here ++ [n], isName m = true := FileTree.isName_below found
    constructor
    · refine ⟨n, List.mem_filter.2 ⟨?_, source⟩, rfl⟩
      rw [← List.append_assoc] at found
      rw [if_pos (FileTree.get?_above [n] found (by simp))]
      exact (FileTree.mem_children_iff _ _ _).2 ⟨_, found⟩
    · rw [Bool.not_eq_true', ← Bool.not_eq_true, shows.isDirectory_iff namedThere, found]
      simp

theorem mem_listed_iff (free : b.disk.tree.LinkFree) (shows : b.Shows place) (r : Location) :
    r ∈ (b.descend false b.depthLimit []).flatMap (sourcesIn b) ↔
      IsSource r ∧ ∃ content, b.disk.tree.get? (place ++ r) = some (.file content) := by
  rw [List.mem_flatMap]
  constructor
  · rintro ⟨here, visited, member⟩
    obtain ⟨-, e, -, directory, -⟩ := (Glob.Base.mem_descend_iff shows (by simp) here).1 visited
    obtain ⟨n, content, rfl, source, found⟩ := (mem_sourcesIn_iff free shows (FileTree.isName_below directory) r).1 member
    exact ⟨⟨_, n, rfl, source⟩, content, found⟩
  · rintro ⟨⟨front, n, rfl, source⟩, content, found⟩
    have directory : b.disk.tree.get? (place ++ front) = some .directory :=
      FileTree.get?_above [n] (by rw [List.append_assoc]; exact found) (by simp)
    refine ⟨front, ?_, (mem_sourcesIn_iff free shows (FileTree.isName_below directory) _).2 ⟨n, content, rfl, source, found⟩⟩
    exact (Glob.Base.mem_descend_iff shows (by simp) front).2 ⟨front, _, rfl, directory, Or.inl rfl⟩

theorem listed_nodup (shows : b.Shows place) :
    ((b.descend false b.depthLimit []).flatMap (sourcesIn b)).Nodup := by
  have inside {here r : Location} (member : r ∈ sourcesIn b here) : r.dropLast = here := by
    rw [sourcesIn] at member
    obtain ⟨n, -, rfl⟩ := List.mem_map.1 (List.mem_filter.1 member).1
    exact List.dropLast_concat
  refine List.nodup_flatMap.2 ⟨?_, ?_⟩
  · intro here visited
    obtain ⟨-, e, -, directory, -⟩ := (Glob.Base.mem_descend_iff shows (by simp) here).1 visited
    rw [sourcesIn, shows.names (FileTree.isName_below directory)]
    apply List.Nodup.filter
    refine List.Nodup.map (fun m n same => by simpa using same) (List.Nodup.filter _ ?_)
    split
    · exact FileTree.children_nodup _ _
    · exact List.nodup_nil
  · refine (Glob.Base.descend_nodup shows false b.depthLimit (by simp)).imp ?_
    intro here there different r memberHere memberThere
    exact different ((inside memberHere).symm.trans (inside memberThere))

end Listing

variable {d : Disk} {dir : String} {base names : Location}

/-- The sources are the files below the directory whose names end in `.ts`. -/
theorem mem_sources_iff (free : d.tree.LinkFree) (leads : Path.Leads d.cwd dir base names) (s : String) :
    s ∈ sources d dir ↔
      IsSource (Path.pieces s) ∧ ∃ content, d.tree.get? (base ++ names ++ Path.pieces s) = some (.file content) := by
  have shows := Glob.Base.shows_of_leads (b := ⟨d, dir⟩) free leads
  rw [sources, Text.mem_sorted, List.mem_map]
  constructor
  · rintro ⟨r, listed, rfl⟩
    obtain ⟨source, content, found⟩ := (mem_listed_iff (b := ⟨d, dir⟩) free shows r).1 listed
    rw [Glob.text_of_ne_nil source.ne_nil, Path.pieces_ofPieces_names source.ne_nil (FileTree.isName_below found)]
    exact ⟨source, content, found⟩
  · rintro ⟨source, found⟩
    refine ⟨Path.pieces s, (mem_listed_iff (b := ⟨d, dir⟩) free shows _).2 ⟨source, found⟩, ?_⟩
    rw [Glob.text_of_ne_nil source.ne_nil, Path.ofPieces_pieces]

theorem sources_sorted (free : d.tree.LinkFree) (leads : Path.Leads d.cwd dir base names) :
    (sources d dir).Pairwise (· < ·) := by
  have shows := Glob.Base.shows_of_leads (b := ⟨d, dir⟩) free leads
  apply Text.sorted_pairwise
  refine List.Nodup.map_on ?_ (listed_nodup shows)
  intro r memberR s memberS same
  obtain ⟨-, _, foundR⟩ := (mem_listed_iff free shows r).1 memberR
  obtain ⟨-, _, foundS⟩ := (mem_listed_iff free shows s).1 memberS
  exact Glob.text_injective (FileTree.isName_below foundR) (FileTree.isName_below foundS) same

theorem sources_nodup (free : d.tree.LinkFree) (leads : Path.Leads d.cwd dir base names) : (sources d dir).Nodup :=
  (sources_sorted free leads).imp fun {a b} (before : a < b) (eq : a = b) => String.lt_irrefl b (eq ▸ before)

/-- Disks with the same source files below a directory list the same sources. -/
theorem sources_eq {e : Disk} (freeD : d.tree.LinkFree) (freeE : e.tree.LinkFree)
    (leadsD : Path.Leads d.cwd dir base names) (leadsE : Path.Leads e.cwd dir base names)
    (same : ∀ r content, IsSource r → (d.tree.get? (base ++ names ++ r) = some (.file content) ↔
      e.tree.get? (base ++ names ++ r) = some (.file content))) : sources d dir = sources e dir := by
  have members : ∀ s, s ∈ sources d dir ↔ s ∈ sources e dir := by
    intro s
    rw [mem_sources_iff freeD leadsD, mem_sources_iff freeE leadsE]
    exact and_congr_right fun source => exists_congr fun content => same _ content source
  have perm := (List.perm_ext_iff_of_nodup (sources_nodup freeD leadsD) (sources_nodup freeE leadsE)).2 members
  exact perm.eq_of_pairwise (fun a b _ _ before after => absurd (String.lt_trans before after) (String.lt_irrefl a))
    (sources_sorted freeD leadsD) (sources_sorted freeE leadsE)

/-- An empty path names no directory, so there are no sources below it. -/
theorem sources_empty (d : Disk) : sources d "" = [] := by
  have nothing : (⟨d, ""⟩ : Glob.Base).names? [] = none := by
    simp [Glob.Base.names?, Glob.Base.path, Disk.names?, Disk.locate]
  obtain ⟨limit, more⟩ : ∃ limit, (⟨d, ""⟩ : Glob.Base).depthLimit = limit + 1 :=
    ⟨_, by rw [Glob.Base.depthLimit, Disk.linkLimit, Nat.mul_succ]⟩
  rw [sources, more]
  simp [Glob.Base.descend, nothing, Text.sorted]

end Build

end Distill
