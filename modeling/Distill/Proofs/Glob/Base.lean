import Mathlib.Data.List.Nodup
import Distill.Glob
import Distill.Proofs.Disk

/-!
Listing the directories below a base, on a disk without links. What a base shows is what the tree holds below the
location of its root, and the depth limit never cuts a descent short (`mem_descend_iff`).
-/
namespace Distill.Glob

theorem text_of_ne_nil {l : Location} (some : l ≠ []) : text l = Path.ofPieces l := by rw [text, if_neg some]

theorem text_injective {k l : Location} (namedK : ∀ n ∈ k, isName n = true) (namedL : ∀ n ∈ l, isName n = true)
    (same : text k = text l) : k = l := by
  -- the top is written as a dot, which is no name
  have notDot {m : Location} (some : m ≠ []) (named : ∀ n ∈ m, isName n = true) : Path.ofPieces m ≠ "." := by
    intro dot
    have split := Path.pieces_ofPieces_names some named
    rw [dot] at split
    exact absurd (named "." (split ▸ by decide)) (by decide)
  by_cases topK : k = [] <;> by_cases topL : l = []
  · rw [topK, topL]
  · rw [topK, text_of_ne_nil topL] at same
    exact absurd same.symm (notDot topL namedL)
  · rw [topL, text_of_ne_nil topK] at same
    exact absurd same (notDot topK namedK)
  · rw [text_of_ne_nil topK, text_of_ne_nil topL] at same
    rw [← Path.pieces_ofPieces_names topK namedK, same, Path.pieces_ofPieces_names topL namedL]

namespace Base

variable {b : Base} {place : Location}

theorem path_eq (some : b.root ≠ "") (l : Location) : b.path l = b.root ++ "/" ++ text l := by rw [path, if_neg some]

private theorem pieces_text {l : Location} (named : ∀ n ∈ l, isName n = true) :
    Path.pieces (text l) = if l = [] then ["."] else l := by
  rw [text]
  split
  · decide
  · rename_i below
    exact Path.pieces_ofPieces_names below named

theorem along_text (here : Location) {l : Location} (named : ∀ n ∈ l, isName n = true) :
    Location.along here (Path.pieces (text l)) = here ++ l := by
  rw [pieces_text named]
  split
  · rename_i top
    simp [top, Location.along]
  · exact Location.along_names here named

/-- A base shows what the tree holds below a place. -/
structure Shows (b : Base) (place : Location) : Prop where
  names : ∀ {l : Location}, (∀ n ∈ l, isName n = true) → b.names? l =
    if b.disk.tree.get? (place ++ l) = some .directory then some (b.disk.tree.children (place ++ l)) else none
  isDirectory_iff : ∀ {l : Location}, (∀ n ∈ l, isName n = true) →
    (b.isDirectory l = true ↔ b.disk.tree.get? (place ++ l) = some .directory)
  contains : ∀ {l : Location}, b.disk.tree.get? (place ++ l) = some .directory → b.contains l = true

section Shows

theorem location_path (reaches : Path.Reaches b.disk.cwd b.root place) {l : Location} (named : ∀ n ∈ l, isName n = true) :
    Path.location b.disk.cwd (b.path l) = place ++ l := by
  have root := reaches.location
  rw [Path.location] at root
  rw [path_eq reaches.nonempty, Path.location, String.append_assoc, Path.startOf_append reaches.nonempty,
    ← String.append_assoc, Path.pieces_append, Location.along_append, root, along_text place named]

private theorem locate_path_eq (free : b.disk.tree.LinkFree) (some : b.root ≠ "") (follow : Bool) (l : Location) :
    b.disk.locate follow (b.path l) = b.disk.tree.walk follow (b.disk.tree.locate follow 39)
      (Path.startOf b.disk.cwd b.root) (Path.pieces b.root ++ Path.pieces (text l)) := by
  have nonempty : b.path l ≠ "" := by
    rw [path_eq some]
    simp
  rw [Disk.locate, if_neg nonempty, Disk.start_eq free, Disk.linkLimit, FileTree.locate, path_eq some,
    Path.pieces_append, String.append_assoc, Path.startOf_append some]

/-- A base whose root is a directory, if the path of the root leads through directories. -/
theorem shows_of_clear (free : b.disk.tree.LinkFree) (reaches : Path.Reaches b.disk.cwd b.root place)
    (clear : b.disk.tree.get? place = some .directory →
      ∀ k ∈ Path.entered b.disk.cwd b.root, b.disk.tree.get? k = some .directory) : b.Shows place := by
  have located {l : Location} (found : b.disk.tree.get? (place ++ l) = some .directory) :
      b.disk.locate true (b.path l) = .ok ⟨place ++ l, some .directory⟩ := by
    have named : ∀ n ∈ l, isName n = true := FileTree.isName_below found
    have root := clear (FileTree.directory_above found (List.prefix_append _ _))
    have location := reaches.location
    rw [Path.location] at location
    have below : ∀ k ∈ Location.entered place (Path.pieces (text l)), b.disk.tree.get? k = some .directory := by
      intro k member
      rw [pieces_text named] at member
      split at member
      · rw [Location.entered_dots _ (by simp [IsDots])] at member
        cases member
      · exact FileTree.directory_above found (Location.prefix_of_mem_entered named member)
    rw [locate_path_eq free reaches.nonempty, FileTree.walk_entered _ root, location, ← List.append_nil (Path.pieces _),
      FileTree.walk_entered _ below, along_text place named, FileTree.walk, found]
  refine ⟨?_, ?_, ?_⟩
  · intro l named
    rw [Base.names?, Disk.names?]
    split
    · rename_i here reached
      obtain ⟨here, entry⟩ := Disk.locate_sound free reached
      rw [location_path reaches named] at here entry
      dsimp only at here entry
      rw [← entry, if_pos rfl, here]
    · rename_i other
      rw [if_neg]
      exact fun found => other _ (located found)
  · intro l named
    rw [Base.isDirectory, Disk.isDirectory]
    constructor
    · intro directory
      split at directory
      · rename_i found
        rw [← location_path reaches named]
        exact Disk.get?_of_lookUp free found
      · cases directory
    · intro found
      rw [Disk.lookUp, located found]
  · intro l found
    rw [contains, Disk.lookUp, located found]

theorem shows_of_leads (free : b.disk.tree.LinkFree) {base names : Location}
    (leads : Path.Leads b.disk.cwd b.root base names) : b.Shows (base ++ names) :=
  shows_of_clear free leads.reaches fun found _ member =>
    FileTree.directory_above found (leads.prefix_of_mem_entered member)

/-- A base shows nothing if its root is empty, or if the path of the root leads through something that is no directory.
So it shows any place where there is nothing. -/
theorem shows_of_blocked (free : b.disk.tree.LinkFree)
    (blocked : b.root ≠ "" → ∃ k ∈ Path.entered b.disk.cwd b.root, b.disk.tree.get? k ≠ some .directory)
    (nothing : ∀ l, b.disk.tree.get? (place ++ l) ≠ some .directory) : b.Shows place := by
  have failed (l : Location) : ∃ e, b.disk.locate true (b.path l) = .error e := by
    by_cases empty : b.root = ""
    · exact ⟨.noEntry, by rw [path, if_pos empty, Disk.locate, if_pos rfl]⟩
    · rw [locate_path_eq free empty]
      exact FileTree.walk_blocked free _ (Path.pieces_ne_nil _) (blocked empty)
  refine ⟨?_, ?_, ?_⟩
  · intro l _
    obtain ⟨e, error⟩ := failed l
    rw [Base.names?, Disk.names?, error, if_neg (nothing l)]
  · intro l _
    obtain ⟨e, error⟩ := failed l
    simp [Base.isDirectory, Disk.isDirectory, Disk.lookUp, error, nothing l]
  · exact fun found => absurd found (nothing _)

/-- Every base shows some place, if only one where there is nothing. -/
theorem exists_shows (free : b.disk.tree.LinkFree) : ∃ place, b.Shows place := by
  by_cases blocked : b.root ≠ "" → ∃ k ∈ Path.entered b.disk.cwd b.root, b.disk.tree.get? k ≠ some .directory
  · refine ⟨["."], shows_of_blocked free blocked fun l found => ?_⟩
    exact absurd (FileTree.isName_of_get? found "." (by simp)) (by decide)
  · simp only [Classical.not_imp, not_exists, not_and, not_not] at blocked
    exact ⟨_, shows_of_clear free ⟨blocked.1, rfl⟩ fun _ => blocked.2⟩

end Shows

theorem below_of_mem_descend {withFiles : Bool} {depth : Nat} {here l : Location}
    (member : l ∈ b.descend withFiles depth here) : here <+: l := by
  induction depth generalizing here with
  | zero => cases member
  | succ depth ih =>
    rw [descend] at member
    split at member
    · cases member
    · rcases List.mem_cons.1 member with rfl | member
      · exact List.prefix_rfl
      · obtain ⟨n, -, inside⟩ := List.mem_flatMap.1 member
        dsimp only at inside
        have step : here <+: here ++ [n] := List.prefix_append _ _
        split at inside
        · exact step.trans (ih inside)
        · split at inside
          · rw [List.mem_singleton.1 inside]
            exact step
          · cases inside

/-- One level of a descent finds the directory itself and, for each entry in it, what the entry adds. -/
theorem mem_descend_succ (shows : b.Shows place) {withFiles : Bool} {depth : Nat} {here : Location}
    (named : ∀ n ∈ here, isName n = true) (l : Location) :
    l ∈ b.descend withFiles (depth + 1) here ↔ b.disk.tree.get? (place ++ here) = some .directory ∧
      (l = here ∨ ∃ n e, b.disk.tree.get? (place ++ (here ++ [n])) = some e ∧
        (e = .directory ∧ l ∈ b.descend withFiles depth (here ++ [n]) ∨
          e ≠ .directory ∧ withFiles = true ∧ l = here ++ [n])) := by
  rw [descend, shows.names named]
  by_cases directory : b.disk.tree.get? (place ++ here) = some .directory
  · rw [if_pos directory]
    simp only [directory, true_and, List.mem_cons, List.mem_flatMap, FileTree.mem_children_iff, List.append_assoc]
    refine or_congr_right (exists_congr fun n => ?_)
    rw [← exists_and_right]
    refine exists_congr fun e => and_congr_right fun found => ?_
    have isDirectory : b.isDirectory (here ++ [n]) = true ↔ e = .directory := by
      rw [shows.isDirectory_iff (FileTree.isName_below found), found, Option.some.injEq]
    by_cases kind : e = .directory
    · simp [if_pos (isDirectory.2 kind), kind]
    · rw [if_neg (mt isDirectory.1 kind)]
      cases withFiles <;> simp [kind]
  · simp [directory]

/-- A descent that is deep enough finds everything below a directory. -/
private theorem mem_descend_of_depth (shows : b.Shows place) {withFiles : Bool} {depth : Nat} {here : Location}
    (named : ∀ n ∈ here, isName n = true)
    (enough : ∀ rest e, b.disk.tree.get? (place ++ (here ++ rest)) = some e → rest.length < depth) (l : Location) :
    l ∈ b.descend withFiles depth here ↔
      ∃ rest e, l = here ++ rest ∧ b.disk.tree.get? (place ++ l) = some e ∧
        (e = .directory ∨ withFiles = true ∧ rest ≠ []) := by
  induction depth generalizing here with
  | zero =>
    constructor
    · intro member
      cases member
    · rintro ⟨rest, e, rfl, found, -⟩
      exact absurd (enough rest e found) (Nat.not_lt_zero _)
  | succ depth ih =>
    have enoughBelow (n : String) (rest : Location) (e : Entry)
        (found : b.disk.tree.get? (place ++ (here ++ [n] ++ rest)) = some e) : rest.length < depth := by
      rw [List.append_assoc here] at found
      exact Nat.lt_of_succ_lt_succ (enough ([n] ++ rest) e found)
    rw [mem_descend_succ shows named]
    constructor
    · rintro ⟨directory, rfl | ⟨n, e, found, ⟨-, inside⟩ | ⟨-, files, rfl⟩⟩⟩
      · exact ⟨[], .directory, by simp, directory, .inl rfl⟩
      · obtain ⟨rest, e, rfl, there, kind⟩ := (ih (FileTree.isName_below found) (enoughBelow n)).1 inside
        exact ⟨[n] ++ rest, e, by simp, there, kind.imp_right fun files => ⟨files.1, by simp⟩⟩
      · exact ⟨[n], e, rfl, found, .inr ⟨files, by simp⟩⟩
    · rintro ⟨rest, e, rfl, found, kind⟩
      cases rest with
      | nil =>
        rw [List.append_nil] at found ⊢
        obtain rfl : e = .directory := kind.resolve_right fun files => files.2 rfl
        exact ⟨found, .inl rfl⟩
      | cons n rest =>
        have way : b.disk.tree.get? (place ++ here ++ n :: rest) = some e := by rwa [List.append_assoc]
        obtain ⟨directory, e', first, last⟩ := FileTree.get?_first way
        rw [List.append_assoc] at first
        refine ⟨directory, .inr ⟨n, e', first, ?_⟩⟩
        rcases last with ⟨rfl, rfl⟩ | ⟨more, rfl⟩
        · by_cases isDirectory : e' = .directory
          · refine .inl ⟨isDirectory, (ih (FileTree.isName_below first) (enoughBelow n)).2 ?_⟩
            exact ⟨[], e', by simp, found, .inl isDirectory⟩
          · exact .inr ⟨isDirectory, (kind.resolve_left isDirectory).1, rfl⟩
        · refine .inl ⟨rfl, (ih (FileTree.isName_below first) (enoughBelow n)).2 ?_⟩
          exact ⟨rest, e, by simp, found, kind.imp_right fun files => ⟨files.1, more⟩⟩

/-- Descending from a location finds it and the directories below it, and the files on request. -/
theorem mem_descend_iff (shows : b.Shows place) {withFiles : Bool} {here : Location}
    (named : ∀ n ∈ here, isName n = true) (l : Location) :
    l ∈ b.descend withFiles b.depthLimit here ↔
      ∃ rest e, l = here ++ rest ∧ b.disk.tree.get? (place ++ l) = some e ∧
        (e = .directory ∨ withFiles = true ∧ rest ≠ []) := by
  refine mem_descend_of_depth shows named ?_ l
  intro rest e found
  have bound := FileTree.length_le_of_get? found
  simp only [List.length_append] at bound
  rw [depthLimit, Disk.linkLimit]
  omega

theorem descend_nodup (shows : b.Shows place) (withFiles : Bool) (depth : Nat) {here : Location}
    (named : ∀ n ∈ here, isName n = true) : (b.descend withFiles depth here).Nodup := by
  induction depth generalizing here with
  | zero => exact List.nodup_nil
  | succ depth ih =>
    rw [descend, shows.names named]
    by_cases directory : b.disk.tree.get? (place ++ here) = some .directory
    · rw [if_pos directory]
      dsimp only
      have inside {n : String} {l : Location} (member : l ∈ if b.isDirectory (here ++ [n]) = true
          then b.descend withFiles depth (here ++ [n]) else if withFiles = true then [here ++ [n]] else []) :
          here ++ [n] <+: l := by
        split at member
        · exact below_of_mem_descend member
        · split at member
          · exact List.mem_singleton.1 member ▸ List.prefix_rfl
          · cases member
      refine List.nodup_cons.2 ⟨?_, List.nodup_flatMap.2 ⟨?_, ?_⟩⟩
      · intro member
        obtain ⟨n, -, member⟩ := List.mem_flatMap.1 member
        have longer := (inside member).length_le
        rw [List.length_append, List.length_singleton] at longer
        omega
      · intro n listed
        obtain ⟨e, found⟩ := (FileTree.mem_children_iff _ _ _).1 listed
        rw [List.append_assoc] at found
        split
        · exact ih (FileTree.isName_below found)
        · split
          · exact List.nodup_singleton _
          · exact List.nodup_nil
      · refine (FileTree.children_nodup _ _).imp ?_
        intro m n different l memberM memberN
        have same := List.prefix_of_prefix_length_le (inside memberM) (inside memberN) (by simp)
        have same := same.eq_of_length (by simp)
        simp only [List.append_cancel_left_eq, List.cons.injEq, and_true] at same
        exact different same
    · rw [if_neg directory]
      exact List.nodup_nil

end Base

end Distill.Glob
