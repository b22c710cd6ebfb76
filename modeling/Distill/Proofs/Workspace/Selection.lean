import Distill.Proofs.Glob.Matching
import Distill.Proofs.Glob.Reworded
import Distill.Proofs.Workspace.Rebuild

/-!
Which directories of a workspace are its packages, and in which order they come, if the patterns of the manifest are
simple and nothing on the disk is a link. The packages are the directories that match a pattern, each one once, those of
an earlier pattern first (`Selected`). More patterns at the end add packages at the end, and patterns that are skipped
count for nothing.
-/
namespace Distill.Workspace

/-- A directory below a root, or the root itself. -/
def IsBelow (d : Disk) (root : String) (l : Location) : Prop :=
  (∀ n ∈ l, isName n = true) ∧ (⟨d, root⟩ : Glob.Base).isDirectory l = true

instance (d : Disk) (root : String) (l : Location) : Decidable (IsBelow d root l) := inferInstanceAs (Decidable (_ ∧ _))

/-- Whether a location matches a pattern, once the pattern is normalised. -/
def Matches (pattern : String) (l : Location) : Bool :=
  Glob.covers ((Glob.segments (Path.cleanChars pattern.toList)).map Glob.spelled) l

/-- A normalised pattern that does not leave the root is made of names. -/
theorem named_of_stays {p : List Char} (stays : leavesRoot (Path.cleanChars p) = false) :
    ∀ s ∈ Glob.segments (Path.cleanChars p), isName (String.ofList s) = true := by
  have relative : Path.isRooted p = false := by
    by_contra rooted
    rw [Path.cleanChars] at stays
    simp [rooted, leavesRoot] at stays
  obtain ⟨k, names, shape, plain, -⟩ := Path.normalSegments_shape false (Path.splitSlash p)
  have whole := Path.normalSegments_whole false p
  have split := Path.splitSlash_cleanChars p
  have clean : Path.cleanChars p = if Path.normalSegments false (Path.splitSlash p) = [] then ['.']
      else Path.joinSlash (Path.normalSegments false (Path.splitSlash p)) := by
    rw [Path.cleanChars, relative]
    rfl
  -- a step up would come first, and the pattern would leave the root
  have down : k = 0 := by
    cases k with
    | zero => rfl
    | succ k =>
      rw [List.replicate_succ, List.cons_append] at shape
      rw [clean, shape, if_neg (by simp)] at stays
      by_cases last : List.replicate k ['.', '.'] ++ names = []
      · rw [last] at stays
        cases stays
      · rw [Path.joinSlash_cons _ last] at stays
        cases stays
  rw [down, List.replicate_zero, List.nil_append] at shape
  intro s member
  rw [Glob.segments, split, relative] at member
  split at member
  · cases member
  · rename_i notDot
    have some : Path.normalSegments false (Path.splitSlash p) ≠ [] := fun none => notDot (by rw [clean, if_pos none])
    have member : s ∈ Path.normalSegments false (Path.splitSlash p) := by simpa [some] using member
    refine (isName_iff _).2 ⟨plain s (shape ▸ member), ?_⟩
    rw [String.toList_ofList]
    exact whole s member

variable {d : Disk} {root name : String} {m : Manifest}

theorem isBelow_iff {place : Location} (shows : (⟨d, root⟩ : Glob.Base).Shows place) (l : Location) :
    IsBelow d root l ↔ d.tree.get? (place ++ l) = some .directory := by
  constructor
  · rintro ⟨named, directory⟩
    exact (shows.isDirectory_iff named).1 directory
  · intro found
    have named := FileTree.isName_below found
    exact ⟨named, (shows.isDirectory_iff named).2 found⟩

/-- A simple pattern names the directories that match it. -/
theorem mem_expand_iff (free : d.tree.LinkFree) {pattern : String} (simple : Glob.Simple pattern.toList)
    {dirs : List String} (expanded : expand d root pattern = .ok dirs) (s : String) :
    s ∈ dirs ↔ ∃ l, s = Glob.text l ∧ IsBelow d root l ∧ Matches pattern l = true := by
  obtain ⟨place, shows⟩ := Glob.Base.exists_shows (b := ⟨d, root⟩) free
  have accepted := accepted_of_expand expanded
  obtain ⟨found, eq, members⟩ := expand_of_plain simple.clean.plain accepted shows
  obtain rfl : found = dirs := Except.ok.inj (eq.symm.trans expanded)
  rw [members]
  refine exists_congr fun l => and_congr_right fun _ => ?_
  rw [Glob.picks_iff_covers simple.clean (named_of_stays accepted.1), isBelow_iff shows, and_comm]
  rfl

theorem mem_patterns_iff (m : Manifest) (pattern : String) :
    pattern ∈ m.patterns ↔ pattern ∈ m.packages ∧ pattern ∉ m.skipped := by
  simp [Manifest.patterns, Manifest.skips]

/-- The place of the first pattern that matches a location, among those that are not skipped. -/
def rank (m : Manifest) (l : Location) : Nat := m.patterns.findIdx fun pattern => Matches pattern l

theorem matches_rank {l : Location} (inside : rank m l < m.patterns.length) : Matches m.patterns[rank m l] l = true :=
  List.findIdx_getElem (p := fun pattern => Matches pattern l) (w := inside)

/-- Locations that are listed as a manifest has it. -/
structure Selected (d : Disk) (root : String) (m : Manifest) (ls : List Location) : Prop where
  mem_iff : ∀ l, l ∈ ls ↔ IsBelow d root l ∧ ∃ pattern ∈ m.packages, pattern ∉ m.skipped ∧ Matches pattern l = true
  distinct : (ls.map Glob.text).Nodup
  ordered : ∀ k ∈ ls, ∀ l ∈ ls, rank m k < rank m l → ls.idxOf k < ls.idxOf l

/-- Simple patterns name the directories that match one of them. -/
theorem mem_expandAll_iff (free : d.tree.LinkFree) {patterns : List String}
    (simple : ∀ pattern ∈ patterns, Glob.Simple pattern.toList) {dirs : List String}
    (expanded : expandAll d root patterns = .ok dirs) (s : String) :
    s ∈ dirs ↔ ∃ l, s = Glob.text l ∧ IsBelow d root l ∧ ∃ pattern ∈ patterns, Matches pattern l = true := by
  obtain ⟨-, expands, members⟩ := expandAll_eq_ok expanded
  rw [members]
  constructor
  · rintro ⟨pattern, member, more, found, inside⟩
    obtain ⟨l, eq, below, taken⟩ := (mem_expand_iff free (simple pattern member) found s).1 inside
    exact ⟨l, eq, below, pattern, member, taken⟩
  · rintro ⟨l, eq, below, pattern, member, taken⟩
    obtain ⟨more, found⟩ := expands pattern member
    exact ⟨pattern, member, more, found, (mem_expand_iff free (simple pattern member) found s).2 ⟨l, eq, below, taken⟩⟩

section Listed

variable {ls : List Location}

theorem text_mem_iff (below : ∀ l ∈ ls, IsBelow d root l) {l : Location} (here : IsBelow d root l) :
    Glob.text l ∈ ls.map Glob.text ↔ l ∈ ls := by
  constructor
  · intro member
    obtain ⟨k, inside, same⟩ := List.mem_map.1 member
    exact Glob.text_injective (below k inside).1 here.1 same ▸ inside
  · exact List.mem_map_of_mem

/-- What the first patterns name is a beginning of the list. -/
theorem exists_beginning (free : d.tree.LinkFree) {patterns : List String}
    (simple : ∀ pattern ∈ patterns, Glob.Simple pattern.toList)
    (expanded : expandAll d root patterns = .ok (ls.map Glob.text)) (below : ∀ l ∈ ls, IsBelow d root l) (n : Nat) :
    ∃ front, front <+: ls ∧ ∀ l ∈ ls, l ∈ front ↔ ∃ pattern ∈ patterns.take n, Matches pattern l = true := by
  rw [← List.take_append_drop n patterns] at expanded
  obtain ⟨texts, first, start⟩ := expandAll_append expanded
  have eq : texts = (ls.take texts.length).map Glob.text := by
    rw [List.map_take]
    exact List.prefix_iff_eq_take.1 start
  have members := mem_expandAll_iff free (fun pattern member => simple pattern (List.mem_of_mem_take member)) first
  refine ⟨ls.take texts.length, List.take_prefix _ _, fun l inside => ?_⟩
  have here := below l inside
  rw [← text_mem_iff (fun k member => below k (List.mem_of_mem_take member)) here, ← eq, members]
  constructor
  · rintro ⟨k, same, belowK, taken⟩
    rwa [Glob.text_injective here.1 belowK.1 same]
  · exact fun taken => ⟨l, rfl, here, taken⟩

private theorem idxOf_lt_of_beginning {front : List Location} (start : front <+: ls) {k l : Location} (inside : k ∈ front)
    (outside : l ∉ front) : ls.idxOf k < ls.idxOf l := by
  obtain ⟨rest, rfl⟩ := start
  rw [List.idxOf_append_of_mem inside, List.idxOf_append_of_notMem outside]
  have short := List.idxOf_lt_length_of_mem inside
  omega

/-- A location comes before those that are matched only by later patterns. -/
theorem ordered_of_expandAll (free : d.tree.LinkFree) (simple : ∀ pattern ∈ m.patterns, Glob.Simple pattern.toList)
    (expanded : expandAll d root m.patterns = .ok (ls.map Glob.text)) (below : ∀ l ∈ ls, IsBelow d root l)
    {k l : Location} (memberK : k ∈ ls) (memberL : l ∈ ls) (earlier : rank m k < rank m l) :
    ls.idxOf k < ls.idxOf l := by
  have inside : rank m k < m.patterns.length := earlier.trans_le List.findIdx_le_length
  obtain ⟨front, start, members⟩ := exists_beginning free simple expanded below (rank m k + 1)
  refine idxOf_lt_of_beginning start ((members k memberK).2 ⟨m.patterns[rank m k], ?_, matches_rank inside⟩) ?_
  · rw [List.mem_take_iff_getElem]
    exact ⟨rank m k, by omega, rfl⟩
  · intro member
    obtain ⟨pattern, first, taken⟩ := (members l memberL).1 member
    obtain ⟨j, bound, rfl⟩ := List.mem_take_iff_getElem.1 first
    have before : j < rank m l := by omega
    rw [List.not_of_lt_findIdx before] at taken
    cases taken

end Listed

theorem selected_of_expandAll (free : d.tree.LinkFree) (simple : ∀ pattern ∈ m.patterns, Glob.Simple pattern.toList)
    {dirs : List String} (expanded : expandAll d root m.patterns = .ok dirs) :
    ∃ ls : List Location, dirs = ls.map Glob.text ∧ Selected d root m ls := by
  have members := mem_expandAll_iff free simple expanded
  obtain ⟨ls, rfl, all⟩ := exists_locations fun s => (members s).1
  have below : ∀ l ∈ ls, IsBelow d root l := fun l member => (all l member).1
  refine ⟨ls, rfl, fun l => ?_, (expandAll_eq_ok expanded).1, fun k memberK l memberL =>
    ordered_of_expandAll free simple expanded below memberK memberL⟩
  simp only [← and_assoc, ← mem_patterns_iff]
  exact ⟨all l, fun chosen => (text_mem_iff below chosen.1).1 ((members _).2 ⟨l, rfl, chosen⟩)⟩

theorem expand_reworded {e : Disk} (reworded : d.Reworded e) {pattern : String} (simple : Glob.Simple pattern.toList) :
    expand e root pattern = expand d root pattern := by
  rw [expand, expand, Glob.Base.directories?_reworded reworded simple.clean.plain.1]

/-- The packages of a workspace are the directories that match a pattern which is not skipped, each one once and in the
order of the patterns. More patterns add packages at the end, and skipped ones make no difference. -/
theorem resolve_selected (free : d.tree.LinkFree) (loaded : Manifest.load d (manifestPath root name) = .ok m)
    (simple : ∀ pattern ∈ m.patterns, Glob.Simple pattern.toList)
    (expands : ∀ pattern ∈ m.patterns, ∃ dirs, expand d root pattern = .ok dirs) :
    ∃ ls : List Location, (resolve d root name).1 = .ok (ls.map (packageAt root)) ∧ Selected d root m ls ∧
      (∀ (e : Disk) (more : List String), d.Reworded e →
        Manifest.load e (manifestPath root name) = .ok ⟨m.packages ++ more, m.skipped⟩ →
        (∀ pattern ∈ more, pattern ∉ m.skipped → ∃ dirs, expand e root pattern = .ok dirs) →
        ∃ others, (resolve e root name).1 = .ok (ls.map (packageAt root) ++ others)) ∧
      ∀ (e : Disk) (front back : List String) (pattern : String), d.Reworded e → m.packages = front ++ back →
        pattern ∈ m.skipped → Manifest.load e (manifestPath root name) = .ok ⟨front ++ pattern :: back, m.skipped⟩ →
        (resolve e root name).1 = .ok (ls.map (packageAt root)) := by
  obtain ⟨dirs, expanded⟩ := expandAll_of_expands expands
  obtain ⟨ls, rfl, selected⟩ := selected_of_expandAll free simple expanded
  have again {e : Disk} (reworded : d.Reworded e) : expandAll e root m.patterns = .ok (ls.map Glob.text) := by
    rw [expandAll_congr fun pattern member => expand_reworded reworded (simple pattern member), expanded]
  refine ⟨ls, ?_, selected, ?_, ?_⟩
  · rw [resolve_of_loaded loaded, packagesOf_of_expandAll expanded, map_packageAt]
  · intro e more reworded loadedE expandsMore
    have patterns : Manifest.patterns ⟨m.packages ++ more, m.skipped⟩ =
        m.patterns ++ more.filter fun pattern => !m.skips pattern := List.filter_append _ _
    have expandsAll : ∀ pattern ∈ Manifest.patterns ⟨m.packages ++ more, m.skipped⟩,
        ∃ dirs, expand e root pattern = .ok dirs := by
      intro pattern member
      rw [patterns] at member
      rcases List.mem_append.1 member with member | member
      · rw [expand_reworded reworded (simple pattern member)]
        exact expands pattern member
      · obtain ⟨inside, kept⟩ := List.mem_filter.1 member
        exact expandsMore pattern inside (by simpa [Manifest.skips] using kept)
    obtain ⟨all, expandedE⟩ := expandAll_of_expands expandsAll
    obtain ⟨front, first, rest, rfl⟩ := expandAll_append (patterns ▸ expandedE)
    obtain rfl : front = ls.map Glob.text := Except.ok.inj (first.symm.trans (again reworded))
    refine ⟨rest.map fun dir => ⟨root, dir⟩, ?_⟩
    rw [resolve_of_loaded loadedE, packagesOf_of_expandAll expandedE, List.map_append, map_packageAt]
  · intro e front back pattern reworded packages skipped loadedE
    have patterns : Manifest.patterns ⟨front ++ pattern :: back, m.skipped⟩ = m.patterns := by
      have skips : m.skips pattern = true := by simpa [Manifest.skips] using skipped
      change (front ++ pattern :: back).filter (fun p => !m.skips p) = m.packages.filter fun p => !m.skips p
      rw [packages, List.filter_append, List.filter_append, List.filter_cons_of_neg (by simp [skips])]
    rw [resolve_of_loaded loadedE, packagesOf_of_expandAll (patterns ▸ again reworded), map_packageAt]

namespace Sample

/-- Two patterns with packages, files among the matches, and one that is skipped. -/
def chosen : Disk :=
  disk "packages: ['b*', 'a/**', 'z']\nskip-ts: ['z']\n" [(["a"], .directory), (["a", "x"], .directory),
    (["a", "x", "f"], .file [1]), (["b"], .directory), (["b1"], .directory), (["b2"], .file [2]), (["z"], .directory)]

/-- The same disk with one more pattern. -/
def extended : Disk :=
  { chosen with
    tree := chosen.tree.set ["pnpm-workspace.yaml"]
      (.file (Text.encode "packages: ['b*', 'a/**', 'z', '?']\nskip-ts: ['z']\n")) }

/-- A directory whose name ends where the stars begin. -/
def stars : Disk := disk "packages: ['a***']\n" [(["a"], .directory), (["ab"], .directory)]

end Sample

open Sample in
theorem resolve_selected_sample :
    chosen.tree.LinkFree ∧ Manifest.load chosen (manifestPath "/" "") = .ok ⟨["b*", "a/**", "z"], ["z"]⟩ ∧
      ∃ ls, (resolve chosen "/" "").1 = .ok (ls.map (packageAt "/")) ∧ ls.length = 4 ∧
        Selected chosen "/" ⟨["b*", "a/**", "z"], ["z"]⟩ ls ∧
        ∃ others, (resolve extended "/" "").1 = .ok (ls.map (packageAt "/") ++ others) := by
  have free : chosen.tree.LinkFree := by decide +kernel
  have loaded : Manifest.load chosen (manifestPath "/" "") = .ok ⟨["b*", "a/**", "z"], ["z"]⟩ := by decide +kernel
  have patterns : Manifest.patterns ⟨["b*", "a/**", "z"], ["z"]⟩ = ["b*", "a/**"] := by decide
  have simple : ∀ pattern ∈ Manifest.patterns ⟨["b*", "a/**", "z"], ["z"]⟩, Glob.Simple pattern.toList := by
    rw [patterns]
    decide +kernel
  have first : expand chosen "/" "b*" = .ok ["b", "b1"] := by decide +kernel
  have second : expand chosen "/" "a/**" = .ok ["a", "a/x"] := by decide +kernel
  have expands : ∀ pattern ∈ Manifest.patterns ⟨["b*", "a/**", "z"], ["z"]⟩,
      ∃ dirs, expand chosen "/" pattern = .ok dirs := by
    rw [patterns]
    simp [first, second]
  have packages : (resolve chosen "/" "").1 = .ok [⟨"/", "b"⟩, ⟨"/", "b1"⟩, ⟨"/", "a"⟩, ⟨"/", "a/x"⟩] := by
    decide +kernel
  have content : chosen.tree.get? ["pnpm-workspace.yaml"] =
      some (.file (Text.encode "packages: ['b*', 'a/**', 'z']\nskip-ts: ['z']\n")) := by decide +kernel
  have loadedMore : Manifest.load extended (manifestPath "/" "") = .ok ⟨["b*", "a/**", "z"] ++ ["?"], ["z"]⟩ := by
    decide +kernel
  have third : expand extended "/" "?" = .ok ["a", "b", "z"] := by decide +kernel
  obtain ⟨ls, resolved, selected, appended, -⟩ := resolve_selected free loaded simple expands
  have length : ls.length = 4 := by
    rw [packages, Except.ok.injEq] at resolved
    simpa using congrArg List.length resolved.symm
  refine ⟨free, loaded, ls, resolved, length, selected, ?_⟩
  exact appended extended ["?"] ⟨rfl, FileTree.reworded_set content _⟩ loadedMore (by simp [third])

open Sample in
/-- Three stars at the end of a segment do not stand for nothing: a directory that the pattern should cover is left out. -/
theorem resolve_stars :
    stars.tree.LinkFree ∧ Manifest.load stars (manifestPath "/" "") = .ok ⟨["a***"], []⟩ ∧
      Glob.Simple "a***".toList ∧ IsBelow stars "/" ["a"] ∧
      Glob.covers (Glob.segments (Path.cleanChars "a***".toList)) ["a"] = true ∧
      (resolve stars "/" "").1 = .ok [⟨"/", "ab"⟩] := by
  decide +kernel

end Distill.Workspace
