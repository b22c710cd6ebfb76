import Distill.Proofs.Glob.Base

/-!
Disks that differ only in what is in their files. Paths lead to the same places there (`locate_reworded`), so that a
pattern finds the same directories (`directories?_reworded`).
-/
namespace Distill

/-- An entry, or none, that another one may have been put in the place of: only the content of a file may differ. -/
def Entry.Reworded (e e' : Option Entry) : Prop := e' = e ∨ ∃ a b, e = some (.file a) ∧ e' = some (.file b)

theorem Entry.Reworded.directory_iff {e e' : Option Entry} (reworded : Entry.Reworded e e') :
    e' = some .directory ↔ e = some .directory := by
  rcases reworded with rfl | ⟨a, b, rfl, rfl⟩ <;> simp

namespace FileTree

/-- Two trees that differ in the contents of files at most. -/
def Reworded (t u : FileTree) : Prop := ∀ l, Entry.Reworded (t.get? l) (u.get? l)

variable {t u : FileTree}

theorem Reworded.locations (reworded : Reworded t u) : u.entries.map Prod.fst = t.entries.map Prod.fst := by
  have members (v : FileTree) (l : Location) : l ∈ v.entries.map Prod.fst ↔ l ≠ [] ∧ v.get? l ≠ none := by
    rw [List.mem_map]
    constructor
    · rintro ⟨⟨k, e⟩, member, rfl⟩
      obtain ⟨some, found⟩ := (mem_entries_iff v k e).1 member
      exact ⟨some, by simp [found]⟩
    · rintro ⟨some, found⟩
      obtain ⟨e, found⟩ := Option.ne_none_iff_exists'.1 found
      exact ⟨(l, e), (mem_entries_iff v l e).2 ⟨some, found⟩, rfl⟩
  have sorted (v : FileTree) : (v.entries.map Prod.fst).Pairwise (· < ·) := List.pairwise_map.2 v.sorted
  have distinct (v : FileTree) : (v.entries.map Prod.fst).Nodup := by
    refine (sorted v).imp ?_
    intro k l lt eq
    exact List.lt_irrefl _ (eq ▸ lt)
  have perm : (u.entries.map Prod.fst).Perm (t.entries.map Prod.fst) := by
    refine (List.perm_ext_iff_of_nodup (distinct u) (distinct t)).2 fun l => ?_
    rw [members, members]
    rcases reworded l with same | ⟨a, b, before, after⟩
    · rw [same]
    · rw [before, after]
      simp
  exact perm.eq_of_pairwise (fun a b _ _ lt gt => absurd (List.lt_trans lt gt) (List.lt_irrefl _)) (sorted u) (sorted t)

/-- A file may be written over. -/
theorem reworded_set {l : Location} {old : Text.Bytes} (found : t.get? l = some (.file old)) (content : Text.Bytes) :
    Reworded t (t.set l (.file content)) := by
  have below : l ≠ [] := by
    rintro rfl
    rw [get?_nil] at found
    cases found
  have accepted : t.Accepts l (.file content) :=
    ⟨below, isName_of_get? found, get?_parent found, by simp [found]⟩
  intro k
  rw [get?_set accepted]
  split
  · rename_i here
    exact .inr ⟨old, content, here ▸ found, rfl⟩
  · exact .inl rfl

theorem Reworded.children (reworded : Reworded t u) (l : Location) : u.children l = t.children l := by
  have listed (v : FileTree) : v.children l =
      (v.entries.map Prod.fst).filterMap fun k => if k.dropLast = l then k.getLast? else none := by
    rw [List.filterMap_map]
    rfl
  rw [listed, listed, reworded.locations]

theorem Reworded.length (reworded : Reworded t u) : u.entries.length = t.entries.length := by
  simpa using congrArg List.length reworded.locations

/-- Two ways that lead to the same place, as far as contents are left out. -/
inductive SamePlace : Except Errno Place → Except Errno Place → Prop
  | error (e : Errno) : SamePlace (.error e) (.error e)
  | ok (l : Location) {e e' : Option Entry} : Entry.Reworded e e' → SamePlace (.ok ⟨l, e⟩) (.ok ⟨l, e'⟩)

theorem walk_reworded {follow : Bool} {jump jump' : Location → List String → Except Errno Place}
    (reworded : Reworded t u) (jumps : ∀ here names, SamePlace (jump here names) (jump' here names))
    (here : Location) (names : List String) :
    SamePlace (t.walk follow jump here names) (u.walk follow jump' here names) := by
  induction names generalizing here with
  | nil => exact .ok here (reworded here)
  | cons name rest ih =>
    rw [walk, walk]
    split
    · exact ih here
    · split
      · exact ih _
      · dsimp only
        rcases reworded (here ++ [name]) with same | ⟨a, b, before, after⟩
        · rw [same]
          cases t.get? (here ++ [name]) with
          | none =>
            simp only [(reworded here).directory_iff]
            split
            · exact .ok _ (.inl rfl)
            · exact .error _
          | some e =>
            cases e with
            | directory => exact ih _
            | file content =>
              dsimp only
              split
              · exact .ok _ (.inl rfl)
              · exact .error _
            | link target =>
              dsimp only
              split
              · exact .ok _ (.inl rfl)
              · exact jumps _ _
        · rw [before, after]
          dsimp only
          split
          · exact .ok _ (.inr ⟨a, b, rfl, rfl⟩)
          · exact .error _

theorem locate_reworded (reworded : Reworded t u) (follow : Bool) (links : Nat) (here : Location) (names : List String) :
    SamePlace (t.locate follow links here names) (u.locate follow links here names) := by
  induction links generalizing here names with
  | zero => exact walk_reworded reworded (fun _ _ => .error _) here names
  | succ links ih => exact walk_reworded reworded ih here names

end FileTree

namespace Disk

/-- Two disks that differ in the contents of files at most. -/
structure Reworded (d e : Disk) : Prop where
  cwd : e.cwd = d.cwd
  tree : d.tree.Reworded e.tree

variable {d e : Disk}

theorem Reworded.locate (reworded : Reworded d e) (follow : Bool) (path : String) :
    FileTree.SamePlace (d.locate follow path) (e.locate follow path) := by
  have working : e.workingLocation = d.workingLocation := by
    have same := FileTree.locate_reworded reworded.tree true linkLimit [] (Path.pieces d.cwd)
    rw [workingLocation, workingLocation, reworded.cwd]
    generalize d.tree.locate true linkLimit [] (Path.pieces d.cwd) = place,
      e.tree.locate true linkLimit [] (Path.pieces d.cwd) = place' at same
    cases same <;> rfl
  rw [Disk.locate, Disk.locate, start, start, working]
  split
  · exact .error _
  · exact FileTree.locate_reworded reworded.tree _ _ _ _

theorem Reworded.isDirectory (reworded : Reworded d e) (path : String) : e.isDirectory path = d.isDirectory path := by
  have same := reworded.locate true path
  rw [Disk.isDirectory, Disk.isDirectory, lookUp, lookUp]
  generalize d.locate true path = place, e.locate true path = place' at same
  rcases same with _ | ⟨l, rfl | ⟨a, b, rfl, rfl⟩⟩ <;> rfl

theorem Reworded.names? (reworded : Reworded d e) (path : String) : e.names? path = d.names? path := by
  have same := reworded.locate true path
  rw [Disk.names?, Disk.names?]
  generalize d.locate true path = place, e.locate true path = place' at same
  rcases same with _ | ⟨l, rfl | ⟨a, b, rfl, rfl⟩⟩
  · rfl
  · split
    · rw [reworded.tree.children]
    · rfl
  · rfl

end Disk

namespace Glob.Base

variable {d e : Disk} {root : String}

theorem contains_reworded (reworded : Disk.Reworded d e) (l : Location) :
    (⟨e, root⟩ : Base).contains l = (⟨d, root⟩ : Base).contains l := by
  have same := reworded.locate true ((⟨d, root⟩ : Base).path l)
  have path : (⟨e, root⟩ : Base).path l = (⟨d, root⟩ : Base).path l := rfl
  rw [contains, contains, path, Disk.lookUp, Disk.lookUp]
  generalize d.locate true _ = place, e.locate true _ = place' at same
  rcases same with _ | ⟨l, rfl | ⟨a, b, rfl, rfl⟩⟩ <;> rfl

theorem isDirectory_reworded (reworded : Disk.Reworded d e) (l : Location) :
    (⟨e, root⟩ : Base).isDirectory l = (⟨d, root⟩ : Base).isDirectory l := reworded.isDirectory _

theorem names?_reworded (reworded : Disk.Reworded d e) (l : Location) :
    (⟨e, root⟩ : Base).names? l = (⟨d, root⟩ : Base).names? l := reworded.names? _

theorem descend_reworded (reworded : Disk.Reworded d e) (withFiles : Bool) (depth : Nat) (here : Location) :
    (⟨e, root⟩ : Base).descend withFiles depth here = (⟨d, root⟩ : Base).descend withFiles depth here := by
  induction depth generalizing here with
  | zero => rfl
  | succ depth ih => simp only [descend, names?_reworded reworded, isDirectory_reworded reworded, ih]

theorem listMatching_reworded (reworded : Disk.Reworded d e) (withFiles : Bool) (segment : List Char) (here : Location) :
    (⟨e, root⟩ : Base).listMatching withFiles segment here = (⟨d, root⟩ : Base).listMatching withFiles segment here := by
  simp only [listMatching, isDirectory_reworded reworded, names?_reworded reworded, descend_reworded reworded, depthLimit,
    reworded.tree.length]

theorem steps_reworded (reworded : Disk.Reworded d e) (withFiles : Bool) (segments : List (List Char))
    (heres : List Location) :
    (⟨e, root⟩ : Base).steps withFiles segments heres = (⟨d, root⟩ : Base).steps withFiles segments heres := by
  have step (withFiles : Bool) (segment : List Char) (heres : List Location) :
      (⟨e, root⟩ : Base).step withFiles segment heres = (⟨d, root⟩ : Base).step withFiles segment heres := by
    rw [Base.step, Base.step, funext (listMatching_reworded reworded withFiles segment)]
  induction segments generalizing heres with
  | nil => rfl
  | cons segment rest ih =>
    cases rest with
    | nil => exact step withFiles segment heres
    | cons next rest => simp only [steps, step, ih]

/-- A pattern without braces finds the same directories, whatever is in the files. -/
theorem directories?_reworded (reworded : Disk.Reworded d e) {pattern : List Char} (plain : '\x7d' ∉ pattern) :
    (⟨e, root⟩ : Base).directories? pattern = (⟨d, root⟩ : Base).directories? pattern := by
  have expanded : (⟨e, root⟩ : Base).expandPlain true pattern = (⟨d, root⟩ : Base).expandPlain true pattern := by
    simp only [expandPlain, steps_reworded reworded, literal, contains_reworded reworded]
  have same : (⟨e, root⟩ : Base).isDirectory = (⟨d, root⟩ : Base).isDirectory := funext (isDirectory_reworded reworded)
  simp only [directories?, expand?, plain, not_false_eq_true, if_true, expanded, same]

end Glob.Base

end Distill
