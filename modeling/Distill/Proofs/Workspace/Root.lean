import Distill.Proofs.Path.Leads
import Distill.Workspace.Root

/-!
The search for the workspace root. An absolute path is a list of names once it is normalised (`absolute_eq`), and its
parent lacks the last of them (`parent_topDown`). So going up from it ends at the top, and what is found on the way is the
nearest repository (`climb_findRoot`).
-/
namespace Distill

namespace Path

open Location (along)

/-- The text of the absolute path that leads from the top directory down through names. -/
def topDown (names : List String) : String := "/" ++ ofPieces names

/-- One path is the other or the path of a place above it, by their texts alone. -/
def IsAtOrAbove (above path : String) : Prop :=
  ∃ names more, (∀ n ∈ names ++ more, isName n = true) ∧ above = topDown names ∧ path = topDown (names ++ more)

section TopDown

variable {names : List String} {n path : String}

theorem isAbsolute_topDown (names : List String) : isAbsolute (topDown names) = true := by
  rw [topDown, isAbsolute_append (by decide)]
  rfl

theorem pieces_topDown (some : names ≠ []) (named : ∀ n ∈ names, isName n = true) :
    pieces (topDown names) = "" :: names := by
  have pieces := pieces_append "" (ofPieces names)
  rwa [pieces_ofPieces_names some named] at pieces

theorem location_topDown (cwd : String) (named : ∀ n ∈ names, isName n = true) : location cwd (topDown names) = names := by
  rw [location, startOf, if_pos (isAbsolute_topDown names)]
  by_cases none : names = []
  · subst none
    rfl
  · rw [pieces_topDown none named, ← List.singleton_append, Location.along_append, Location.along_names _ named]
    rfl

/-- Different names make different paths. -/
theorem topDown_injective {other : List String} (named : ∀ n ∈ names, isName n = true)
    (namedOther : ∀ n ∈ other, isName n = true) (same : topDown names = topDown other) : names = other := by
  rw [← location_topDown "" named, same, location_topDown "" namedOther]

theorem topDown_concat (some : names ≠ []) (n : String) : topDown (names ++ [n]) = topDown names ++ "/" ++ n := by
  rw [topDown, topDown, ofPieces, List.map_append, joinSlash_append (by simpa using some) (by simp)]
  apply String.toList_inj.1
  simp [ofPieces, joinSlash]

/-- A path that starts at the top is normalised to a list of names. -/
theorem clean_of_isAbsolute (absolute : isAbsolute path = true) :
    ∃ names, (∀ n ∈ names, isName n = true) ∧ clean path = topDown names := by
  rw [isAbsolute] at absolute
  obtain ⟨k, names, eq, plain, top⟩ := normalSegments_shape true (splitSlash path.toList)
  obtain rfl := top rfl
  refine ⟨names.map String.ofList, ?_, ?_⟩
  · intro n member
    obtain ⟨seg, inside, rfl⟩ := List.mem_map.1 member
    refine (isName_iff _).2 ⟨plain seg inside, ?_⟩
    rw [String.toList_ofList]
    exact normalSegments_whole true path.toList seg (eq ▸ List.mem_append_right _ inside)
  · rw [clean, cleanChars]
    simp only [absolute, if_true, eq, List.replicate_zero, List.nil_append]
    apply String.toList_inj.1
    simp [topDown, ofPieces, Function.comp_def]

/-- The place above a path lacks the last name. -/
theorem parent_topDown (named : ∀ m ∈ names ++ [n], isName m = true) : parent (topDown (names ++ [n])) = topDown names := by
  have split := pieces_topDown (by simp) named
  rw [← List.cons_append] at split
  obtain ⟨pieces, rooted⟩ := pieces_upToLastSlash _ split
  rw [isAbsolute_topDown] at rooted
  obtain ⟨kept, namedKept, text⟩ := clean_of_isAbsolute rooted
  have parent : parent (topDown (names ++ [n])) = topDown kept := by
    rw [← text, clean, String.toList_ofList]
    rfl
  have namedFront : ∀ m ∈ names, isName m = true := fun m member => named m (List.mem_append_left _ member)
  -- the names that are kept are those that the beginning of the path leads through
  have location : location "" (topDown kept) = along [] ("" :: names ++ [""]) := by
    rw [← text, location_clean, location, startOf, if_pos rooted, pieces]
  rw [parent, ← location_topDown "" namedKept, location, Location.along_append, ← List.singleton_append,
    Location.along_append, Location.along_names _ namedFront]
  simp [along]

theorem parent_top : parent (topDown []) = topDown [] := by decide

theorem parent_ne (named : ∀ m ∈ names ++ [n], isName m = true) :
    parent (topDown (names ++ [n])) ≠ topDown (names ++ [n]) := by
  intro same
  rw [parent_topDown named] at same
  have eq := topDown_injective (fun m member => named m (List.mem_append_left _ member)) named same
  simpa using congrArg List.length eq

/-- A path gets longer with every name. -/
theorem length_topDown_append (names : List String) {more : List String} (named : ∀ n ∈ more, isName n = true)
    (some : more ≠ []) : (topDown names).length < (topDown (names ++ more)).length := by
  induction more using List.reverseRecOn with
  | nil => exact absurd rfl some
  | append_singleton front last ih =>
    have step : (topDown (names ++ front)).length < (topDown (names ++ front ++ [last])).length := by
      by_cases none : names ++ front = []
      · have nonempty : last.length ≠ 0 := by
          intro zero
          have empty : last = "" := String.length_eq_zero_iff.1 zero
          have name := named last (by simp)
          rw [empty] at name
          exact absurd name (by decide)
        rw [none]
        have text : topDown ([] ++ [last]) = "/" ++ last := by simp [topDown, ofPieces, joinSlash]
        rw [text, String.length_append]
        exact Nat.lt_add_of_pos_right (Nat.pos_of_ne_zero nonempty)
      · rw [topDown_concat none, String.length_append, String.length_append]
        have slash : "/".length = 1 := rfl
        omega
    rw [← List.append_assoc]
    by_cases first : front = []
    · simpa [first] using step
    · exact Nat.lt_trans (ih (fun n member => named n (by simp [member])) first) step

/-- A path above that is no shorter is the path itself. -/
theorem eq_of_length_le {front : List String} (named : ∀ n ∈ names, isName n = true) (within : front <+: names)
    (long : (topDown names).length ≤ (topDown front).length) : front = names := by
  obtain ⟨more, rfl⟩ := within
  by_cases none : more = []
  · rw [none, List.append_nil]
  · have longer := length_topDown_append front (fun n member => named n (List.mem_append_right _ member)) none
    exact absurd long (Nat.not_le.2 longer)

theorem length_topDown_le {front : List String} (named : ∀ n ∈ names, isName n = true) (within : front <+: names) :
    (topDown front).length ≤ (topDown names).length := by
  rcases Nat.le_total (topDown front).length (topDown names).length with le | long
  · exact le
  · rw [eq_of_length_le named within long]

theorem isAtOrAbove_topDown (named : ∀ n ∈ names, isName n = true) {above : String} :
    IsAtOrAbove above (topDown names) ↔ ∃ front, front <+: names ∧ above = topDown front := by
  constructor
  · rintro ⟨front, more, namedAll, rfl, same⟩
    exact ⟨front, topDown_injective named namedAll same ▸ List.prefix_append front more, rfl⟩
  · rintro ⟨front, ⟨more, rfl⟩, rfl⟩
    exact ⟨front, more, named, rfl, rfl⟩

end TopDown

end Path

namespace Workspace

open Distill.Path (topDown IsAtOrAbove)

variable {d : Disk} {names : List String} {n : String}

/-- The start of the search is the path of the location that it names. -/
theorem absolute_eq (placed : Path.isAbsolute d.cwd = true) (start : String) :
    absolute d start = topDown (Path.location d.cwd start) ∧ ∀ n ∈ Path.location d.cwd start, isName n = true := by
  have ofClean {path : String} (isAbsolute : Path.isAbsolute path = true)
      (same : Path.location d.cwd path = Path.location d.cwd start) :
      Path.clean path = topDown (Path.location d.cwd start) ∧ ∀ n ∈ Path.location d.cwd start, isName n = true := by
    obtain ⟨names, named, text⟩ := Path.clean_of_isAbsolute isAbsolute
    have names_eq : Path.location d.cwd start = names := by
      rw [← same, ← Path.location_clean, text, Path.location_topDown _ named]
    rw [names_eq]
    exact ⟨text, named⟩
  rw [absolute]
  split
  · rename_i isAbsolute
    exact ofClean isAbsolute rfl
  · rename_i relative
    have some : d.cwd ≠ "" := by
      intro empty
      rw [empty] at placed
      exact absurd placed (by decide)
    rw [Path.join_eq_clean some]
    apply ofClean
    · rw [String.append_assoc, Path.isAbsolute_append some, placed]
    · rw [← Path.location_clean, ← Path.join_eq_clean some, Path.location_join some, Path.location, Path.location,
        Path.startOf, Path.startOf, if_pos placed, if_neg relative]

/-- A repository lies in a directory: its `.git` leads to a directory, through links or not. -/
def HoldsRepository (d : Disk) (dir : String) : Prop := d.lookUp true (Path.join [dir, ".git"]) = .ok .directory

theorem isDirectory_iff {path : String} : d.isDirectory path = true ↔ d.lookUp true path = .ok .directory := by
  rw [Disk.isDirectory]
  split
  · rename_i found
    simp [found]
  · rename_i other
    simpa using other

/-- Going up from a directory until a repository is found or nothing is above. -/
inductive Climb (d : Disk) : String → Except Failure String → Prop
  | found {dir : String} (holds : HoldsRepository d dir) : Climb d dir (.ok dir)
  | top {dir : String} (lacks : ¬ HoldsRepository d dir) (last : Path.parent dir = dir) :
    Climb d dir (.error (.fault .noRoot))
  | up {dir : String} {r : Except Failure String} (lacks : ¬ HoldsRepository d dir) (further : Path.parent dir ≠ dir)
    (rest : Climb d (Path.parent dir) r) : Climb d dir r

theorem Climb.unique {dir : String} {r s : Except Failure String} (first : Climb d dir r) (second : Climb d dir s) :
    r = s := by
  induction first with
  | found holds =>
    cases second with
    | found => rfl
    | top lacks => exact absurd holds lacks
    | up lacks => exact absurd holds lacks
  | top lacks last =>
    cases second with
    | found holds => exact absurd holds lacks
    | top => rfl
    | up _ further => exact absurd last further
  | up lacks further _ ih =>
    cases second with
    | found holds => exact absurd holds lacks
    | top _ last => exact absurd last further
    | up _ _ rest => exact ih rest

section Search

/-- The paths to look at, nearest first: the path itself, and then those for the place above it. -/
theorem find?_upward (named : ∀ m ∈ names ++ [n], isName m = true) (isRoot : String → Bool) :
    (upward (topDown (names ++ [n]))).find? isRoot =
      if isRoot (topDown (names ++ [n])) then some (topDown (names ++ [n])) else (upward (topDown names)).find? isRoot := by
  have split := Path.pieces_topDown (by simp) named
  rw [← List.cons_append] at split
  have nonempty : topDown (names ++ [n]) ≠ "" := by simp [topDown]
  have list := Path.ancestors_of_pieces nonempty split
  have head : upward (topDown (names ++ [n])) =
      topDown (names ++ [n]) :: (("/" :: ((Path.beginnings ("" :: names)).map Path.ofPieces).filter (· ≠ "")).reverse) := by
    rw [upward, list, ← List.cons_append, List.reverse_append]
    rfl
  rw [head, List.find?_cons]
  by_cases none : names = []
  · -- the top directory is looked at once more than needed if the search starts there
    subst none
    have above : (("/" :: ((Path.beginnings [""]).map Path.ofPieces).filter (· ≠ "")).reverse) = ["/"] := by decide
    have top : upward (topDown []) = ["/", "/"] := by decide
    rw [above, top]
    cases isRoot (topDown ([] ++ [n])) <;> cases atTop : isRoot "/" <;> simp [atTop]
  · have above : Path.ancestors (topDown names) = ((Path.beginnings ("" :: names)).map Path.ofPieces).filter (· ≠ "") := by
      rw [Path.ancestors, Path.pieces_topDown none fun m member => named m (List.mem_append_left _ member)]
    rw [← above, upward]
    cases isRoot (topDown (names ++ [n])) <;> rfl

theorem absolute_topDown (d : Disk) (named : ∀ n ∈ names, isName n = true) : absolute d (topDown names) = topDown names := by
  have isAbsolute := Path.isAbsolute_topDown names
  obtain ⟨kept, namedKept, text⟩ := Path.clean_of_isAbsolute isAbsolute
  rw [absolute, if_pos isAbsolute, text, ← Path.location_topDown "" namedKept, ← text, Path.location_clean,
    Path.location_topDown "" named]

theorem findRoot_concat (named : ∀ m ∈ names ++ [n], isName m = true) :
    (HoldsRepository d (topDown (names ++ [n])) ∧ findRoot d (topDown (names ++ [n])) = .ok (topDown (names ++ [n]))) ∨
      (¬ HoldsRepository d (topDown (names ++ [n])) ∧
        findRoot d (topDown (names ++ [n])) = findRoot d (topDown names)) := by
  rw [findRoot, absolute_topDown d named, find?_upward named, findRoot,
    absolute_topDown d fun m member => named m (List.mem_append_left _ member)]
  by_cases holds : HoldsRepository d (topDown (names ++ [n]))
  · rw [if_pos (isDirectory_iff.2 holds)]
    exact .inl ⟨holds, rfl⟩
  · rw [if_neg fun isDirectory => holds (isDirectory_iff.1 isDirectory)]
    exact .inr ⟨holds, rfl⟩

theorem findRoot_top :
    (HoldsRepository d (topDown []) ∧ findRoot d (topDown []) = .ok (topDown [])) ∨
      (¬ HoldsRepository d (topDown []) ∧ findRoot d (topDown []) = .error (.fault .noRoot)) := by
  have paths : upward (topDown []) = [topDown [], topDown []] := by decide
  rw [findRoot, absolute_topDown d (by simp), paths]
  by_cases holds : HoldsRepository d (topDown [])
  · exact .inl ⟨holds, by simp [isDirectory_iff.2 holds]⟩
  · have lacks : d.isDirectory (Path.join [topDown [], ".git"]) = false := by
      rw [Bool.eq_false_iff]
      exact fun isDirectory => holds (isDirectory_iff.1 isDirectory)
    exact .inr ⟨holds, by simp [lacks]⟩

/-- Going up ends, with what the search gives. -/
theorem climb_findRoot (named : ∀ n ∈ names, isName n = true) : Climb d (topDown names) (findRoot d (topDown names)) := by
  induction names using List.reverseRecOn with
  | nil =>
    rcases findRoot_top (d := d) with ⟨holds, result⟩ | ⟨lacks, result⟩
    · exact result ▸ .found holds
    · exact result ▸ .top lacks Path.parent_top
  | append_singleton front last ih =>
    rcases findRoot_concat (d := d) named with ⟨holds, result⟩ | ⟨lacks, result⟩
    · exact result ▸ .found holds
    · rw [result]
      refine .up lacks (Path.parent_ne named) ?_
      rw [Path.parent_topDown named]
      exact ih fun m member => named m (List.mem_append_left _ member)

/-- The repository at the end of the longest beginning of the names that has one. -/
theorem findRoot_cases (named : ∀ n ∈ names, isName n = true) :
    (∃ front, front <+: names ∧ HoldsRepository d (topDown front) ∧ findRoot d (topDown names) = .ok (topDown front) ∧
      ∀ other, other <+: names → HoldsRepository d (topDown other) → other <+: front) ∨
    ((∀ front, front <+: names → ¬ HoldsRepository d (topDown front)) ∧
      findRoot d (topDown names) = .error (.fault .noRoot)) := by
  induction names using List.reverseRecOn with
  | nil =>
    rcases findRoot_top (d := d) with ⟨holds, result⟩ | ⟨lacks, result⟩
    · exact .inl ⟨[], List.prefix_rfl, holds, result, fun other within _ => within⟩
    · refine .inr ⟨fun front within => ?_, result⟩
      rwa [List.prefix_nil.1 within]
  | append_singleton front last ih =>
    rcases findRoot_concat (d := d) named with ⟨holds, result⟩ | ⟨lacks, result⟩
    · exact .inl ⟨front ++ [last], List.prefix_rfl, holds, result, fun other within _ => within⟩
    · have shorter : ∀ other, other <+: front ++ [last] → HoldsRepository d (topDown other) → other <+: front := by
        intro other within holds
        rcases List.prefix_concat_iff.1 within with rfl | within
        · exact absurd holds lacks
        · exact within
      rcases ih fun m member => named m (List.mem_append_left _ member) with
        ⟨nearest, within, holds, found, longest⟩ | ⟨none, failed⟩
      · refine .inl ⟨nearest, within.trans (List.prefix_append _ _), holds, result.trans found, ?_⟩
        exact fun other inside repository => longest other (shorter other inside repository) repository
      · refine .inr ⟨fun other inside repository => ?_, result.trans failed⟩
        exact none other (shorter other inside repository) repository

end Search

/-- The search for the root goes up from the start, made absolute and normal, and ends. It gives the longest of the path
itself and the paths above it that hold a repository, and fails exactly if none of them does. -/
theorem findRoot_nearest (placed : Path.isAbsolute d.cwd = true) (start : String) :
    absolute d start = topDown (Path.location d.cwd start) ∧
    (∀ r, Climb d (absolute d start) r ↔ r = findRoot d start) ∧
    (∀ root, findRoot d start = .ok root ↔ IsAtOrAbove root (absolute d start) ∧ HoldsRepository d root ∧
      ∀ other, IsAtOrAbove other (absolute d start) → HoldsRepository d other → other.length ≤ root.length) ∧
    (∀ f, findRoot d start = .error f ↔
      f = .fault .noRoot ∧ ∀ path, IsAtOrAbove path (absolute d start) → ¬ HoldsRepository d path) := by
  obtain ⟨text, named⟩ := absolute_eq placed start
  have same : findRoot d start = findRoot d (topDown (Path.location d.cwd start)) := by
    rw [findRoot, findRoot, absolute_topDown d named, text]
  rw [text, same]
  generalize Path.location d.cwd start = names at named
  have climb := climb_findRoot (d := d) named
  have named_within {front : List String} (within : front <+: names) : ∀ n ∈ front, isName n = true :=
    fun n member => named n (within.subset member)
  refine ⟨rfl, fun r => ⟨fun other => other.unique climb, fun eq => eq ▸ climb⟩, ?_⟩
  rcases findRoot_cases (d := d) named with ⟨nearest, inside, repository, result, last⟩ | ⟨none, failed⟩
  · have nearestAbove := (Path.isAtOrAbove_topDown named).2 ⟨nearest, inside, rfl⟩
    rw [result]
    refine ⟨fun root => ?_, fun f => ?_⟩
    · rw [Except.ok.injEq]
      constructor
      · rintro rfl
        refine ⟨nearestAbove, repository, fun other above holds => ?_⟩
        obtain ⟨front, within, rfl⟩ := (Path.isAtOrAbove_topDown named).1 above
        exact Path.length_topDown_le (named_within inside) (last front within holds)
      · rintro ⟨above, holds, longest⟩
        obtain ⟨front, within, rfl⟩ := (Path.isAtOrAbove_topDown named).1 above
        have long := longest _ nearestAbove repository
        rw [Path.eq_of_length_le (named_within inside) (last front within holds) long]
    · constructor
      · intro failed
        cases failed
      · rintro ⟨-, lacking⟩
        exact absurd repository (lacking _ nearestAbove)
  · have lacking : ∀ path, IsAtOrAbove path (topDown names) → ¬ HoldsRepository d path := by
      intro path above
      obtain ⟨front, within, rfl⟩ := (Path.isAtOrAbove_topDown named).1 above
      exact none front within
    rw [failed]
    refine ⟨fun root => ?_, fun f => ?_⟩
    · constructor
      · intro found
        cases found
      · rintro ⟨above, holds, -⟩
        exact absurd holds (lacking root above)
    · rw [Except.error.injEq]
      exact ⟨fun eq => ⟨eq.symm, lacking⟩, fun ⟨eq, _⟩ => eq.symm⟩

namespace Sample

/-- A repository whose `.git` is a link, and in it a directory whose `.git` is a file. -/
def worktree : Disk :=
  let entries : List (Location × Entry) := [(["store"], .directory), (["r"], .directory), (["r", ".git"], .link "../store"),
    (["r", "wt"], .directory), (["r", "wt", ".git"], .file [])]
  ⟨entries.foldl (fun t x => t.set x.1 x.2) .empty, "/r"⟩

end Sample

theorem findRoot_nearest_worktree : findRoot Sample.worktree "x/..//wt/./none" = .ok "/r" ∧
    IsAtOrAbove "/r" (absolute Sample.worktree "x/..//wt/./none") ∧ HoldsRepository Sample.worktree "/r" ∧
    ∀ other, IsAtOrAbove other (absolute Sample.worktree "x/..//wt/./none") → HoldsRepository Sample.worktree other →
      other.length ≤ "/r".length := by
  obtain ⟨-, -, nearest, -⟩ := findRoot_nearest (d := Sample.worktree) (by decide) "x/..//wt/./none"
  have found : findRoot Sample.worktree "x/..//wt/./none" = .ok "/r" := by decide +kernel
  exact ⟨found, (nearest "/r").1 found⟩

end Workspace

end Distill
