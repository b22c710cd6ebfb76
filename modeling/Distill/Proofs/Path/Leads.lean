import Mathlib.Data.List.TakeWhile
import Distill.Proofs.Path.Segments

/-!
The location that a path text names. Normalising keeps it (`location_clean`) and leaves a text that first leads up or to
the top and then down through names (`leads_clean`); joining, taking the parent and going through the paths above are
stated for such texts.
-/
namespace Distill.Path

open Location (along)

/-- The location from which a path is followed, given the working directory. -/
def startOf (cwd path : String) : Location := if isAbsolute path then [] else along [] (pieces cwd)

/-- The location that a path names by its text, given the working directory. -/
def location (cwd path : String) : Location := along (startOf cwd path) (pieces path)

theorem startOf_clean (cwd path : String) : startOf cwd (clean path) = startOf cwd path := by
  rw [startOf, startOf, isAbsolute, isAbsolute, clean, String.toList_ofList, isRooted_cleanChars]

private theorem startOf_rooted {cwd path : String} (rooted : isRooted path.toList = true) : startOf cwd path = [] := by
  simp [startOf, isAbsolute, rooted]

/-- Normalising a path keeps the location it names. -/
theorem location_clean (cwd path : String) : location cwd (clean path) = location cwd path := by
  have normal := along_normalSegments (isRooted path.toList) (startOf cwd path) startOf_rooted
    (splitSlash path.toList)
  have skip (place : Location) (rest : List String) : along place ("" :: rest) = along place rest := by simp [along]
  rw [location, location, startOf_clean, pieces, pieces, clean, String.toList_ofList, splitSlash_cleanChars]
  rw [← normal]
  dsimp only
  split
  · split
    · rename_i none
      simp [none, skip, along]
    · simp [skip]
  · split
    · rename_i none
      simp [none, along]
    · rfl

/-- A path leads from the working directory or the top to `base`, only up, and from there down through names. -/
structure Leads (cwd path : String) (base names : Location) : Prop where
  nonempty : path ≠ ""
  named : ∀ n ∈ names, isName n = true
  split : ∃ ups, pieces path = ups ++ names ∧ (∀ s ∈ ups, IsDots s) ∧ along (startOf cwd path) ups = base

theorem Leads.location_eq {cwd path : String} {base names : Location} (leads : Leads cwd path base names) :
    location cwd path = base ++ names := by
  obtain ⟨ups, eq, -, rfl⟩ := leads.split
  rw [location, eq, Location.along_append, Location.along_names _ leads.named]

/-- The locations that a path leads down into on its way, given the working directory. -/
def entered (cwd path : String) : List Location := Location.entered (startOf cwd path) (pieces path)

theorem Leads.prefix_of_mem_entered {cwd path : String} {base names k : Location} (leads : Leads cwd path base names)
    (member : k ∈ entered cwd path) : k <+: base ++ names := by
  obtain ⟨ups, eq, dots, rfl⟩ := leads.split
  rw [entered, eq, Location.entered_append, Location.entered_dots _ dots, List.nil_append] at member
  exact Location.prefix_of_mem_entered leads.named member

/-- A path names a place by its text. -/
structure Reaches (cwd path : String) (place : Location) : Prop where
  nonempty : path ≠ ""
  location : location cwd path = place

theorem Leads.reaches {cwd path : String} {base names : Location} (leads : Leads cwd path base names) :
    Reaches cwd path (base ++ names) :=
  ⟨leads.nonempty, leads.location_eq⟩

/-- Normalising a path that leads up and then down through names keeps both ways. -/
theorem leads_clean_of_pieces (cwd : String) {path : String} {ups names stays : List String}
    (eq : pieces path = ups ++ names ++ stays) (dots : ∀ s ∈ ups, IsDots s)
    (named : ∀ n ∈ names, isName n = true) (stay : ∀ s ∈ stays, s = "" ∨ s = ".") :
    Leads cwd (clean path) (along (startOf cwd path) ups) names := by
  have segments : splitSlash path.toList = ups.map String.toList ++ names.map String.toList ++ stays.map String.toList := by
    have := congrArg (List.map String.toList) eq
    simpa [pieces, Function.comp_def] using this
  have dots' : ∀ s ∈ ups.map String.toList, IsDots (String.ofList s) := by
    intro s member
    obtain ⟨t, inside, rfl⟩ := List.mem_map.1 member
    rw [String.ofList_toList]
    exact dots t inside
  have plain : ∀ n ∈ names.map String.toList, ¬ IsDots (String.ofList n) := by
    intro n member
    obtain ⟨t, inside, rfl⟩ := List.mem_map.1 member
    rw [String.ofList_toList]
    exact not_isDots_of_isName (named t inside)
  have stay' : ∀ s ∈ stays.map String.toList, s = [] ∨ s = ['.'] := by
    intro s member
    obtain ⟨t, inside, rfl⟩ := List.mem_map.1 member
    rcases stay t inside with rfl | rfl <;> simp
  have normal : normalSegments (isRooted path.toList) (splitSlash path.toList) =
      normalSegments (isRooted path.toList) (ups.map String.toList) ++ names.map String.toList := by
    rw [segments, normalSegments_append _ _ plain stay']
  have level : along (startOf cwd path) ((normalSegments (isRooted path.toList) (ups.map String.toList)).map String.ofList) =
      along (startOf cwd path) ups := by
    rw [along_normalSegments _ _ startOf_rooted]
    simp [Function.comp_def]
  have upDots : ∀ s ∈ (normalSegments (isRooted path.toList) (ups.map String.toList)).map String.ofList, IsDots s := by
    intro s member
    obtain ⟨t, inside, rfl⟩ := List.mem_map.1 member
    exact Or.inr (Or.inr (by rw [eq_up_of_mem_normalSegments dots' inside]))
  have skip (place : Location) (rest : List String) : along place ("" :: rest) = along place rest := by simp [along]
  refine ⟨fun empty => cleanChars_ne_nil path.toList (by simpa [clean] using empty), named, ?_⟩
  rw [startOf_clean, pieces, clean, String.toList_ofList, splitSlash_cleanChars, normal]
  generalize normalSegments (isRooted path.toList) (ups.map String.toList) = kept at level upDots
  have back : (names.map String.toList).map String.ofList = names := by simp [Function.comp_def]
  dsimp only
  split
  · split
    · rename_i none
      obtain ⟨rfl, noNames⟩ := List.append_eq_nil_iff.1 none
      have noNames : names = [] := by simpa using noNames
      subst noNames
      exact ⟨["", ""], rfl, by simp [IsDots], by rw [skip, skip]; exact level⟩
    · refine ⟨"" :: kept.map String.ofList, by simp [Function.comp_def], ?_, by rw [skip]; exact level⟩
      intro s member
      rcases List.mem_cons.1 member with rfl | member
      · exact Or.inl rfl
      · exact upDots s member
  · split
    · rename_i none
      obtain ⟨rfl, noNames⟩ := List.append_eq_nil_iff.1 none
      have noNames : names = [] := by simpa using noNames
      subst noNames
      exact ⟨["."], rfl, by simp [IsDots], by rw [← level]; simp [along]⟩
    · exact ⟨kept.map String.ofList, by rw [List.map_append, back], upDots, level⟩

/-- Every normalised path leads up or to the top, and from there down through names. -/
theorem leads_clean (cwd path : String) : ∃ base names, Leads cwd (clean path) base names := by
  obtain ⟨k, names, eq, plain, -⟩ := normalSegments_shape (isRooted path.toList) (splitSlash path.toList)
  have whole := normalSegments_whole (isRooted path.toList) path.toList
  have named : ∀ n ∈ names.map String.ofList, isName n = true := by
    intro n member
    obtain ⟨t, inside, rfl⟩ := List.mem_map.1 member
    refine (isName_iff _).2 ⟨plain t inside, ?_⟩
    simpa using whole t (eq ▸ List.mem_append_right _ inside)
  have upDots : ∀ s ∈ List.replicate k "..", IsDots s :=
    fun s member => Or.inr (Or.inr (List.eq_of_mem_replicate member))
  refine ⟨along (startOf cwd (clean path)) ((if isRooted path.toList then [""] else []) ++ List.replicate k ".." ++
    if names = [] ∧ k = 0 then [if isRooted path.toList then "" else "."] else []), names.map String.ofList,
    fun empty => cleanChars_ne_nil path.toList (by simpa [clean] using empty), named, _, ?_, ?_, rfl⟩
  · rw [pieces, clean, String.toList_ofList, splitSlash_cleanChars, eq]
    by_cases none : names = [] ∧ k = 0
    · obtain ⟨rfl, rfl⟩ := none
      cases isRooted path.toList <;> simp
    · have some : ¬ (List.replicate k ['.', '.'] ++ names = []) := by
        simp only [List.append_eq_nil_iff, List.replicate_eq_nil_iff]
        exact fun both => none ⟨both.2, both.1⟩
      simp only [if_neg none, if_neg some]
      cases isRooted path.toList <;> simp
  · intro s member
    simp only [List.mem_append] at member
    rcases member with (member | member) | member
    · split at member <;> simp_all [IsDots]
    · exact upDots s member
    · split at member
      · rw [List.mem_singleton] at member
        rw [member]
        split <;> simp [IsDots]
      · cases member

theorem join_eq_clean {a : String} (some : a ≠ "") (b : String) : join [a, b] = clean (a ++ "/" ++ b) := by
  rw [join, if_neg some, clean]
  simp [joinSlash]

theorem isAbsolute_append {a : String} (some : a ≠ "") (b : String) : isAbsolute (a ++ b) = isAbsolute a := by
  rw [isAbsolute, isAbsolute, String.toList_append]
  cases chars : a.toList with
  | nil => exact absurd (by simpa using chars) some
  | cons c cs =>
    by_cases slash : c = '/'
    · simp [slash, isRooted]
    · simp [slash, isRooted]

theorem startOf_append {a : String} (some : a ≠ "") (cwd b : String) : startOf cwd (a ++ b) = startOf cwd a := by
  rw [startOf, startOf, isAbsolute_append some]

/-- Joining two paths follows the second one from the location of the first. -/
theorem location_join {a : String} (some : a ≠ "") (cwd b : String) :
    location cwd (join [a, b]) = along (location cwd a) (pieces b) := by
  rw [join_eq_clean some, location_clean, location, location, String.append_assoc, startOf_append some,
    ← String.append_assoc, pieces_append, Location.along_append]

theorem slash_not_mem_of_isName {n : String} (name : isName n = true) : '/' ∉ n.toList := ((isName_iff n).1 name).2

theorem pieces_ofPieces_names {names : List String} (some : names ≠ []) (named : ∀ n ∈ names, isName n = true) :
    pieces (ofPieces names) = names :=
  pieces_ofPieces some fun n member => slash_not_mem_of_isName (named n member)

/-- Names may be added to a path without normalising it. -/
theorem Leads.append {cwd path : String} {base names : Location} (leads : Leads cwd path base names)
    {more : Location} (some : more ≠ []) (named : ∀ n ∈ more, isName n = true) :
    Leads cwd (path ++ "/" ++ ofPieces more) base (names ++ more) := by
  obtain ⟨ups, eq, dots, level⟩ := leads.split
  refine ⟨?_, ?_, ups, ?_, dots, ?_⟩
  · simp
  · intro n member
    rcases List.mem_append.1 member with member | member
    · exact leads.named n member
    · exact named n member
  · rw [pieces_append, pieces_ofPieces_names some named, eq, List.append_assoc]
  · rw [String.append_assoc, startOf_append leads.nonempty, level]

theorem Leads.clean {cwd path : String} {base names : Location} (leads : Leads cwd path base names) :
    Leads cwd (clean path) base names := by
  obtain ⟨ups, eq, dots, rfl⟩ := leads.split
  have split : pieces path = ups ++ names ++ [] := by rw [eq, List.append_nil]
  exact leads_clean_of_pieces cwd split dots leads.named (by simp)

theorem Leads.join {cwd path : String} {base names : Location} (leads : Leads cwd path base names)
    {more : Location} (some : more ≠ []) (named : ∀ n ∈ more, isName n = true) :
    Leads cwd (join [path, ofPieces more]) base (names ++ more) := by
  rw [join_eq_clean leads.nonempty]
  exact (leads.append some named).clean

private theorem upToLastSlash_append (a : List Char) {b : List Char} (whole : '/' ∉ b) :
    upToLastSlash (a ++ '/' :: b) = a ++ ['/'] := by
  have all : ∀ c ∈ b.reverse, (c != '/') = true := by
    intro c member
    simpa using fun eq : c = '/' => whole (eq ▸ List.mem_reverse.1 member)
  rw [upToLastSlash, List.reverse_append, List.reverse_cons, List.append_assoc, List.dropWhile_append_of_pos all]
  simp

private theorem upToLastSlash_of_not_mem {b : List Char} (whole : '/' ∉ b) : upToLastSlash b = [] := by
  have all : ∀ c ∈ b.reverse, (c != '/') = true := by
    intro c member
    simpa using fun eq : c = '/' => whole (eq ▸ List.mem_reverse.1 member)
  have none : b.reverse.dropWhile (· != '/') = [] := List.dropWhile_eq_nil_iff.2 all
  rw [upToLastSlash, none, List.reverse_nil]

/-- The pieces of a path up to its last slash. -/
theorem pieces_upToLastSlash (path : String) {front : List String} {last : String} (eq : pieces path = front ++ [last]) :
    pieces (String.ofList (upToLastSlash path.toList)) = front ++ [""] ∧
      isAbsolute (String.ofList (upToLastSlash path.toList)) = isAbsolute path := by
  have whole : '/' ∉ last.toList := slash_not_mem_of_mem_pieces (p := path) (by simp [eq])
  have text : path.toList = joinSlash (front.map String.toList ++ [last.toList]) := by
    rw [← String.toList_inj.2 (ofPieces_pieces path), eq]
    simp [ofPieces]
  by_cases none : front = []
  · subst none
    have text : path.toList = last.toList := by simpa [joinSlash] using text
    rw [text, upToLastSlash_of_not_mem whole]
    refine ⟨rfl, ?_⟩
    rw [isAbsolute, isAbsolute, text, String.toList_ofList]
    cases chars : last.toList with
    | nil => rfl
    | cons c cs =>
      have notSlash : c ≠ '/' := fun eq => whole (by simp [chars, eq])
      simp [isRooted, notSlash]
  · have someFront : front.map String.toList ≠ [] := by simpa using none
    have wholeFront : ∀ seg ∈ front.map String.toList, '/' ∉ seg := by
      intro seg member
      obtain ⟨s, inside, rfl⟩ := List.mem_map.1 member
      exact slash_not_mem_of_mem_pieces (p := path) (by simp [eq, inside])
    rw [joinSlash_append someFront (by simp)] at text
    have text : path.toList = joinSlash (front.map String.toList) ++ '/' :: last.toList := text
    rw [text, upToLastSlash_append _ whole]
    constructor
    · rw [pieces, String.toList_ofList, splitSlash_append, splitSlash_joinSlash someFront wholeFront]
      simp [splitSlash, Function.comp_def]
    · rw [isAbsolute, isAbsolute, text, String.toList_ofList]
      cases chars : joinSlash (front.map String.toList) with
      | nil => rfl
      | cons c cs => by_cases slash : c = '/' <;> simp [slash, isRooted]

/-- The parent of a path is the path without its last name. -/
theorem Leads.parent {cwd path : String} {base names : Location} {last : String}
    (leads : Leads cwd path base (names ++ [last])) : Leads cwd (parent path) base names := by
  obtain ⟨ups, eq, dots, rfl⟩ := leads.split
  rw [← List.append_assoc] at eq
  obtain ⟨split, rooted⟩ := pieces_upToLastSlash path eq
  have start : startOf cwd (String.ofList (upToLastSlash path.toList)) = startOf cwd path := by
    rw [startOf, startOf, rooted]
  have := leads_clean_of_pieces cwd split dots (fun n member => leads.named n (by simp [member])) (by simp)
  rw [start] at this
  simpa [Path.clean, Path.parent] using this

theorem beginnings_concat (ps : List String) (p : String) :
    beginnings (ps ++ [p]) = beginnings ps ++ [ps ++ [p]] := by
  induction ps with
  | nil => rfl
  | cons q qs ih => simp [beginnings, ih]

/-- A path comes last among itself and the paths above it. -/
theorem ancestors_of_pieces {path : String} (some : path ≠ "") {front : List String} {last : String}
    (eq : pieces path = front ++ [last]) :
    ancestors path = ((beginnings front).map ofPieces).filter (· ≠ "") ++ [path] := by
  have whole : ofPieces (front ++ [last]) = path := by rw [← eq, ofPieces_pieces]
  rw [ancestors, eq, beginnings_concat, List.map_append, List.filter_append]
  simp [whole, some]

/-- The paths above a path that leads down through names, nearest first: the next one lacks the last name. -/
theorem Leads.ancestors_reverse {cwd path : String} {base names : Location} {last : String}
    (leads : Leads cwd path base (names ++ [last])) :
    (names = [] ∧ (ancestors path).reverse = [path]) ∨
      ∃ above, Leads cwd above base names ∧ (ancestors path).reverse = path :: (ancestors above).reverse := by
  obtain ⟨ups, eq, dots, level⟩ := leads.split
  rw [← List.append_assoc] at eq
  have list := ancestors_of_pieces leads.nonempty eq
  have wholeFront : ∀ s ∈ ups ++ names, '/' ∉ s.toList :=
    fun s member => slash_not_mem_of_mem_pieces (p := path) (eq ▸ List.mem_append_left _ member)
  by_cases none : ups ++ names = []
  · left
    rw [none] at list
    exact ⟨(List.append_eq_nil_iff.1 none).2, by rw [list]; rfl⟩
  · have split := pieces_ofPieces none wholeFront
    by_cases top : ofPieces (ups ++ names) = ""
    · left
      have single : ups ++ names = [""] := by rw [← split, top]; rfl
      constructor
      · cases names with
        | nil => rfl
        | cons n rest =>
          have member : n ∈ ups ++ n :: rest := by simp
          rw [single, List.mem_singleton] at member
          exact absurd (leads.named n (by simp)) (by simp [member, isName])
      · rw [single] at list
        simp [list, beginnings, ofPieces, joinSlash]
    · right
      refine ⟨ofPieces (ups ++ names), ⟨top, fun n member => leads.named n (by simp [member]), ups, split, dots, ?_⟩, ?_⟩
      · have text : path = ofPieces (ups ++ names) ++ ("/" ++ last) := by
          have wholeText : ofPieces (ups ++ names ++ [last]) = path := by rw [← eq, ofPieces_pieces]
          rw [← wholeText]
          apply String.toList_inj.1
          rw [ofPieces, ofPieces, List.map_append, joinSlash_append (by simpa using none) (by simp)]
          simp [joinSlash]
        rw [← level, text, startOf_append top]
      · rw [list, List.reverse_append, ancestors, split]
        rfl

end Distill.Path
