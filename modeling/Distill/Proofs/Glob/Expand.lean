import Distill.Proofs.Glob.Base

/-!
What a pattern without braces leads to, on a disk without links. Segments are matched against names alone, so whether a
pattern finds a directory depends on the location of the directory and on nothing else in the tree
(`directories?_of_plain`).
-/
namespace Distill.Glob

/-- A pattern without braces of which every segment is well formed by itself. -/
def Plain (pattern : List Char) : Prop :=
  '\x7d' ∉ pattern ∧ ∀ segment ∈ splitSegments false pattern, (atoms? segment).isSome = true

instance (pattern : List Char) : Decidable (Plain pattern) := inferInstanceAs (Decidable (_ ∧ _))

/-- Segments lead from one location to another by the names between them. -/
def Follows : List (List Char) → Location → Location → Prop
  | [], here, l => l = here
  | segment :: rest, here, l =>
    if segment = [] then Follows rest here l
    else if segment = ['*', '*'] then ∃ down, Follows rest (here ++ down) l
    else ∃ name : String, matchName segment name.toList = some true ∧ Follows rest (here ++ [name]) l

/-- A pattern picks a location below the base. -/
def Picks (pattern : List Char) (l : Location) : Prop :=
  if hasWildcard pattern then
    let segments := splitSegments false pattern
    let fixed := segments.takeWhile fun s => !hasWildcard s
    ∃ start, (if fixed = [] then some [] else directLocation? (Path.joinSlash fixed)) = some start ∧
      Follows (segments.drop fixed.length) start l
  else directLocation? (unescape pattern) = some l

theorem Follows.below {segments : List (List Char)} {here l : Location} (follows : Follows segments here l) :
    here <+: l := by
  induction segments generalizing here with
  | nil => exact follows ▸ List.prefix_rfl
  | cons segment rest ih =>
    rw [Follows] at follows
    split at follows
    · exact ih follows
    · split at follows
      · obtain ⟨down, follows⟩ := follows
        exact (List.prefix_append here down).trans (ih follows)
      · obtain ⟨name, -, follows⟩ := follows
        exact (List.prefix_append here [name]).trans (ih follows)

theorem follows_cons (segment : List Char) (rest : List (List Char)) (here l : Location) :
    Follows (segment :: rest) here l ↔ ∃ there, Follows [segment] here there ∧ Follows rest there l := by
  simp only [Follows]
  split
  · simp
  · split
    · constructor
      · rintro ⟨down, follows⟩
        exact ⟨_, ⟨down, rfl⟩, follows⟩
      · rintro ⟨there, ⟨down, rfl⟩, follows⟩
        exact ⟨down, follows⟩
    · constructor
      · rintro ⟨name, taken, follows⟩
        exact ⟨_, ⟨name, taken, rfl⟩, follows⟩
      · rintro ⟨there, ⟨name, taken, rfl⟩, follows⟩
        exact ⟨name, taken, follows⟩

theorem matchName_of_atoms {segment : List Char} (sound : (atoms? segment).isSome = true) (name : List Char) :
    ∃ answer, matchName segment name = some answer := by
  obtain ⟨atoms, eq⟩ := Option.isSome_iff_exists.1 sound
  exact ⟨matchAtoms atoms name, by rw [matchName, eq]⟩

theorem named_of_directLocation? {path : List Char} {l : Location} (direct : directLocation? path = some l) :
    ∀ n ∈ l, isName n = true := by
  rw [directLocation?] at direct
  split at direct
  · rw [Option.some.injEq] at direct
    simp [← direct]
  · dsimp only at direct
    split at direct
    · rename_i named
      rw [Option.some.injEq] at direct
      exact direct ▸ List.all_eq_true.1 named
    · cases direct

private theorem filterM_eq_some {α : Type} {f : α → Option Bool} {g : α → Bool} {xs : List α}
    (eq : ∀ x, f x = some (g x)) : xs.filterM f = some (xs.filter g) := by
  have step : ∀ (xs kept : List α), xs.filterAuxM f kept = some ((xs.filter g).reverse ++ kept) := by
    intro xs
    induction xs with
    | nil => simp [List.filterAuxM]
    | cons x xs ih =>
      intro kept
      rw [List.filterAuxM, eq, List.filter_cons]
      cases g x <;> simp [ih]
  simp [List.filterM, step]

namespace Base

variable {b : Base} {place : Location}

/-- A listing has the directories that satisfy `P`, and perhaps other entries. -/
structure Lists (b : Base) (place : Location) (P : Location → Prop) (ls : List Location) : Prop where
  named : ∀ l ∈ ls, ∀ n ∈ l, isName n = true
  directories : ∀ l, b.disk.tree.get? (place ++ l) = some .directory → (l ∈ ls ↔ P l)

theorem listMatching_lists (shows : b.Shows place) (withFiles : Bool) {segment : List Char}
    (sound : (atoms? segment).isSome = true) {here : Location} (named : ∀ n ∈ here, isName n = true) :
    ∃ ls, b.listMatching withFiles segment here = some ls ∧ b.Lists place (Follows [segment] here) ls := by
  rw [listMatching]
  by_cases empty : segment = []
  · refine ⟨_, if_pos empty, ?_, ?_⟩
    · intro l member
      split at member
      · exact List.mem_singleton.1 member ▸ named
      · cases member
    · intro l found
      simp only [Follows, empty, if_true]
      constructor
      · intro member
        split at member
        · exact List.mem_singleton.1 member
        · cases member
      · rintro rfl
        rw [if_pos ((shows.isDirectory_iff named).2 found)]
        exact List.mem_singleton.2 rfl
  · rw [if_neg empty]
    by_cases double : segment = ['*', '*']
    · refine ⟨_, if_pos double, ?_, ?_⟩
      · intro l member
        obtain ⟨rest, e, rfl, found, -⟩ := (mem_descend_iff shows named l).1 member
        exact FileTree.isName_below found
      · intro l found
        rw [mem_descend_iff shows named]
        simp only [Follows, if_neg empty, if_pos double]
        constructor
        · rintro ⟨rest, e, eq, -⟩
          exact ⟨rest, eq⟩
        · rintro ⟨rest, eq⟩
          exact ⟨rest, _, eq, found, Or.inl rfl⟩
    · rw [if_neg double]
      choose answer answers using fun name : String => matchName_of_atoms sound name.toList
      rw [filterM_eq_some answers]
      refine ⟨_, rfl, ?_, ?_⟩
      · intro l member
        obtain ⟨name, listed, rfl⟩ := List.mem_map.1 (List.mem_filter.1 member).1
        have listed := (List.mem_filter.1 listed).1
        rw [shows.names named] at listed
        split at listed
        · obtain ⟨e, found⟩ := (FileTree.mem_children_iff _ _ _).1 listed
          rw [List.append_assoc] at found
          exact FileTree.isName_below found
        · cases listed
      · intro l found
        simp only [Follows, if_neg empty, if_neg double]
        constructor
        · intro member
          obtain ⟨name, listed, rfl⟩ := List.mem_map.1 (List.mem_filter.1 member).1
          exact ⟨name, by rw [answers, (List.mem_filter.1 listed).2], rfl⟩
        · rintro ⟨name, taken, rfl⟩
          have above : b.disk.tree.get? (place ++ here) = some .directory :=
            FileTree.directory_above found (by simp)
          refine List.mem_filter.2 ⟨List.mem_map.2 ⟨name, List.mem_filter.2 ⟨?_, ?_⟩, rfl⟩, ?_⟩
          · rw [shows.names named, if_pos above]
            exact (FileTree.mem_children_iff _ _ _).2 ⟨_, by rw [List.append_assoc]; exact found⟩
          · rw [answers, Option.some.injEq] at taken
            exact taken
          · have namedThere : ∀ n ∈ here ++ [name], isName n = true :=
              FileTree.isName_below found
            rw [(shows.isDirectory_iff namedThere).2 found, Bool.or_true]

theorem step_lists (shows : b.Shows place) (withFiles : Bool) {segment : List Char}
    (sound : (atoms? segment).isSome = true) {heres : List Location}
    (named : ∀ here ∈ heres, ∀ n ∈ here, isName n = true) :
    ∃ ls, b.step withFiles segment heres = some ls ∧
      b.Lists place (fun l => ∃ here ∈ heres, Follows [segment] here l) ls := by
  induction heres with
  | nil => exact ⟨[], rfl, by simp, by simp⟩
  | cons here heres ih =>
    obtain ⟨first, listed, namedFirst, directoriesFirst⟩ :=
      listMatching_lists shows withFiles sound (named here (by simp))
    obtain ⟨others, stepped, namedOthers, directoriesOthers⟩ := ih fun h member => named h (by simp [member])
    rw [step] at stepped ⊢
    obtain ⟨lists, listedAll, rfl⟩ := Option.map_eq_some_iff.1 stepped
    refine ⟨first ++ lists.flatten, by rw [List.mapM_cons, listed, listedAll]; rfl, ?_, ?_⟩
    · intro l member
      rcases List.mem_append.1 member with member | member
      · exact namedFirst l member
      · exact namedOthers l member
    · intro l found
      rw [List.mem_append, directoriesFirst l found, directoriesOthers l found]
      simp

/-- Following segments finds the directories that they lead to. -/
theorem steps_lists (shows : b.Shows place) (withFiles : Bool) {segments : List (List Char)}
    (sound : ∀ segment ∈ segments, (atoms? segment).isSome = true) {heres : List Location}
    (named : ∀ here ∈ heres, ∀ n ∈ here, isName n = true) :
    ∃ ls, b.steps withFiles segments heres = some ls ∧
      b.Lists place (fun l => ∃ here ∈ heres, Follows segments here l) ls := by
  induction segments generalizing heres with
  | nil => exact ⟨heres, rfl, named, fun l _ => by simp [Follows]⟩
  | cons segment rest ih =>
    have soundHere := sound segment (by simp)
    have soundRest : ∀ s ∈ rest, (atoms? s).isSome = true := fun s member => sound s (by simp [member])
    cases rest with
    | nil => exact step_lists shows withFiles soundHere named
    | cons next rest =>
      obtain ⟨theres, stepped, namedThere, directoriesThere⟩ := step_lists shows false soundHere named
      obtain ⟨ls, eq, namedLs, directories⟩ := ih soundRest namedThere
      refine ⟨ls, by simp [steps, stepped, eq], namedLs, ?_⟩
      intro l found
      have above {there : Location} (follows : Follows (next :: rest) there l) :
          b.disk.tree.get? (place ++ there) = some .directory :=
        FileTree.directory_above found ((List.prefix_append_right_inj place).2 follows.below)
      rw [directories l found]
      constructor
      · rintro ⟨there, member, follows⟩
        obtain ⟨here, inside, first⟩ := (directoriesThere there (above follows)).1 member
        exact ⟨here, inside, (follows_cons _ _ _ _).2 ⟨there, first, follows⟩⟩
      · rintro ⟨here, inside, follows⟩
        obtain ⟨there, first, follows⟩ := (follows_cons _ _ _ _).1 follows
        exact ⟨there, (directoriesThere there (above follows)).2 ⟨here, inside, first⟩, follows⟩

theorem literal_lists (shows : b.Shows place) (pattern : List Char) :
    b.Lists place (fun l => directLocation? (unescape pattern) = some l) (b.literal pattern) := by
  rw [literal]
  split
  · rename_i l direct
    have named := named_of_directLocation? direct
    constructor
    · intro k member
      split at member
      · exact List.mem_singleton.1 member ▸ named
      · cases member
    · intro k found
      rw [direct, Option.some.injEq]
      constructor
      · intro member
        split at member
        · exact (List.mem_singleton.1 member).symm
        · cases member
      · rintro rfl
        rw [if_pos (shows.contains found)]
        exact List.mem_singleton.2 rfl
  · rename_i none
    exact ⟨by simp, fun k _ => by simp [none]⟩

theorem expandPlain_lists (shows : b.Shows place) {pattern : List Char}
    (sound : ∀ segment ∈ splitSegments false pattern, (atoms? segment).isSome = true) :
    ∃ ls, b.expandPlain true pattern = some ls ∧ b.Lists place (Picks pattern) ls := by
  rw [expandPlain]
  by_cases wild : hasWildcard pattern = true
  · rw [if_pos wild]
    dsimp only
    have soundRest : ∀ s ∈ (splitSegments false pattern).drop
        ((splitSegments false pattern).takeWhile fun s => !hasWildcard s).length, (atoms? s).isSome = true :=
      fun s member => sound s (List.mem_of_mem_drop member)
    have named : ∀ here ∈ (if (splitSegments false pattern).takeWhile (fun s => !hasWildcard s) = [] then some []
        else directLocation? (Path.joinSlash ((splitSegments false pattern).takeWhile fun s =>
          !hasWildcard s))).toList, ∀ n ∈ here, isName n = true := by
      intro here member
      rw [Option.mem_toList] at member
      split at member
      · rw [Option.some.injEq] at member
        simp [← member]
      · exact named_of_directLocation? member
    obtain ⟨ls, eq, namedLs, directories⟩ := steps_lists shows true soundRest named
    refine ⟨ls, eq, namedLs, ?_⟩
    intro l found
    rw [directories l found, Picks, if_pos wild]
    simp [Option.mem_toList]
  · have picks : Picks pattern = fun l => directLocation? (unescape pattern) = some l := by
      funext l
      rw [Picks, if_neg wild]
    rw [if_neg wild]
    exact ⟨_, rfl, picks ▸ literal_lists shows pattern⟩

/-- A plain pattern that is well formed finds the directories that it picks, whatever else is on the disk. -/
theorem directories?_of_plain {pattern : List Char} (plain : Plain pattern) (formed : wellFormed pattern = true)
    (shows : b.Shows place) :
    ∃ ls, b.directories? pattern = some ls ∧ ∀ l, l ∈ ls ↔
      Picks pattern l ∧ b.disk.tree.get? (place ++ l) = some .directory := by
  obtain ⟨noBrace, sound⟩ := plain
  obtain ⟨ls, eq, named, directories⟩ := expandPlain_lists shows sound
  refine ⟨ls.filter b.isDirectory, by simp [directories?, expand?, formed, noBrace, eq], ?_⟩
  intro l
  rw [List.mem_filter]
  constructor
  · rintro ⟨member, directory⟩
    have found := (shows.isDirectory_iff (named l member)).1 directory
    exact ⟨(directories l found).1 member, found⟩
  · rintro ⟨picks, found⟩
    have member := (directories l found).2 picks
    exact ⟨member, (shows.isDirectory_iff (named l member)).2 found⟩

section Named

/-- Only names are listed. -/
theorem named_of_names? {here : Location} {names : List String} (listed : b.names? here = some names) :
    ∀ n ∈ names, isName n = true := by
  rw [names?, Disk.names?] at listed
  split at listed
  · rw [Option.some.injEq] at listed
    intro n member
    rw [← listed] at member
    obtain ⟨entry, found⟩ := (FileTree.mem_children_iff _ _ _).1 member
    exact FileTree.isName_of_get? found n (by simp)
  · cases listed

private theorem named_concat {here : Location} (named : ∀ n ∈ here, isName n = true) {name : String}
    (isName : isName name = true) : ∀ n ∈ here ++ [name], Distill.isName n = true := by
  intro n member
  rcases List.mem_append.1 member with member | member
  · exact named n member
  · exact List.mem_singleton.1 member ▸ isName

theorem named_of_mem_descend {withFiles : Bool} {depth : Nat} {here l : Location}
    (named : ∀ n ∈ here, isName n = true) (member : l ∈ b.descend withFiles depth here) :
    ∀ n ∈ l, isName n = true := by
  induction depth generalizing here with
  | zero => cases member
  | succ depth ih =>
    rw [descend] at member
    split at member
    · cases member
    · rename_i names listed
      rcases List.mem_cons.1 member with rfl | member
      · exact named
      · obtain ⟨name, inside, member⟩ := List.mem_flatMap.1 member
        have namedThere := named_concat named (named_of_names? listed name inside)
        dsimp only at member
        split at member
        · exact ih namedThere member
        · split at member
          · exact List.mem_singleton.1 member ▸ namedThere
          · cases member

private theorem mem_of_filterM {α : Type} {f : α → Option Bool} {xs ys : List α} (eq : xs.filterM f = some ys) :
    ∀ y ∈ ys, y ∈ xs := by
  have step : ∀ (xs kept ys : List α), xs.filterAuxM f kept = some ys → ∀ y ∈ ys, y ∈ xs ∨ y ∈ kept := by
    intro xs
    induction xs with
    | nil =>
      rintro kept ys ⟨⟩ y member
      exact .inr member
    | cons x xs ih =>
      intro kept ys eq y member
      rw [List.filterAuxM, Option.bind_eq_bind, Option.bind_eq_some_iff] at eq
      obtain ⟨keep, -, eq⟩ := eq
      rcases ih _ _ eq y member with inside | inside
      · exact .inl (List.mem_cons_of_mem _ inside)
      · cases keep with
        | false => exact .inr inside
        | true =>
          rcases List.mem_cons.1 inside with rfl | inside
          · exact .inl (by simp)
          · exact .inr inside
  rw [List.filterM, Option.bind_eq_bind, Option.bind_eq_some_iff] at eq
  obtain ⟨kept, eq, same⟩ := eq
  intro y member
  rw [Option.pure_def, Option.some.injEq] at same
  rw [← same, List.mem_reverse] at member
  simpa using step xs [] kept eq y member

theorem named_of_listMatching {withFiles : Bool} {segment : List Char} {here : Location} {ls : List Location}
    (named : ∀ n ∈ here, isName n = true) (listed : b.listMatching withFiles segment here = some ls) :
    ∀ l ∈ ls, ∀ n ∈ l, isName n = true := by
  intro l member
  rw [listMatching] at listed
  split at listed
  · rw [Option.some.injEq] at listed
    rw [← listed] at member
    split at member
    · exact List.mem_singleton.1 member ▸ named
    · cases member
  · split at listed
    · rw [Option.some.injEq] at listed
      exact named_of_mem_descend named (listed ▸ member)
    · rw [Option.bind_eq_bind, Option.bind_eq_some_iff] at listed
      obtain ⟨matching, filtered, listed⟩ := listed
      rw [Option.pure_def, Option.some.injEq] at listed
      rw [← listed] at member
      obtain ⟨name, inside, rfl⟩ := List.mem_map.1 (List.mem_filter.1 member).1
      have inside := mem_of_filterM filtered name inside
      cases names : b.names? here with
      | none => simp [names] at inside
      | some names' => exact named_concat named (named_of_names? names name (by simpa [names] using inside))

theorem named_of_step {withFiles : Bool} {segment : List Char} {heres ls : List Location}
    (named : ∀ here ∈ heres, ∀ n ∈ here, isName n = true) (stepped : b.step withFiles segment heres = some ls) :
    ∀ l ∈ ls, ∀ n ∈ l, isName n = true := by
  induction heres generalizing ls with
  | nil =>
    obtain rfl : [] = ls := Option.some.inj stepped
    simp
  | cons here heres ih =>
    rw [step] at stepped
    obtain ⟨lists, listed, rfl⟩ := Option.map_eq_some_iff.1 stepped
    rw [List.mapM_cons, Option.bind_eq_bind, Option.bind_eq_some_iff] at listed
    obtain ⟨first, listedFirst, listed⟩ := listed
    rw [Option.bind_eq_bind, Option.bind_eq_some_iff] at listed
    obtain ⟨rest, listedRest, same⟩ := listed
    rw [Option.pure_def, Option.some.injEq] at same
    intro l member
    rw [← same, List.flatten_cons, List.mem_append] at member
    rcases member with member | member
    · exact named_of_listMatching (named here (by simp)) listedFirst l member
    · exact ih (fun h inside => named h (by simp [inside])) (by rw [step, listedRest]; rfl) l member

theorem named_of_steps {withFiles : Bool} {segments : List (List Char)} {heres ls : List Location}
    (named : ∀ here ∈ heres, ∀ n ∈ here, isName n = true) (stepped : b.steps withFiles segments heres = some ls) :
    ∀ l ∈ ls, ∀ n ∈ l, isName n = true := by
  induction segments generalizing heres with
  | nil => exact Option.some.inj stepped ▸ named
  | cons segment rest ih =>
    cases rest with
    | nil => exact named_of_step named stepped
    | cons next rest =>
      rw [steps, Option.bind_eq_bind, Option.bind_eq_some_iff] at stepped
      · obtain ⟨theres, first, stepped⟩ := stepped
        exact ih (named_of_step named first) stepped
      · simp

theorem named_of_expandPlain {withFiles : Bool} {pattern : List Char} {ls : List Location}
    (expanded : b.expandPlain withFiles pattern = some ls) : ∀ l ∈ ls, ∀ n ∈ l, isName n = true := by
  rw [expandPlain] at expanded
  split at expanded
  · refine named_of_steps ?_ expanded
    intro here member
    rw [Option.mem_toList] at member
    split at member
    · rw [Option.some.injEq] at member
      simp [← member]
    · exact named_of_directLocation? member
  · rw [Option.some.injEq, literal] at expanded
    intro l member
    rw [← expanded] at member
    split at member
    · rename_i direct
      split at member
      · exact List.mem_singleton.1 member ▸ named_of_directLocation? direct
      · cases member
    · cases member

/-- A pattern of any kind leads down through names, also where links are followed on the way. -/
theorem named_of_directories? {pattern : List Char} {ls : List Location} (expanded : b.directories? pattern = some ls) :
    ∀ l ∈ ls, (∀ n ∈ l, isName n = true) ∧ b.isDirectory l = true := by
  obtain ⟨all, eq, rfl⟩ := Option.map_eq_some_iff.1 expanded
  intro l member
  obtain ⟨member, directory⟩ := List.mem_filter.1 member
  refine ⟨?_, directory⟩
  rw [expand?] at eq
  split at eq
  · cases eq
  · split at eq
    · exact named_of_expandPlain eq l member
    · obtain ⟨paths, -, rfl⟩ := Option.map_eq_some_iff.1 eq
      obtain ⟨path, -, direct⟩ := List.mem_filterMap.1 member
      exact named_of_directLocation? direct

end Named

end Base

end Distill.Glob
