import Distill.Text.Utf8

/-!
A file tree: directories, files and symbolic links, each at a location below the top directory. The entries are kept
sorted by location, so a tree has one representation; every entry lies in a directory of the tree. Listings come out
in byte order, and a directory comes before what it holds.
-/
namespace Distill

/-- Names from the top directory down. The top directory itself is at `[]`. -/
abbrev Location := List String

inductive Entry where
  | directory
  | file (content : Text.Bytes)
  | link (target : String)
deriving DecidableEq, Repr

/-- Whether a text can name an entry of a directory. -/
def isName (s : String) : Bool := s ≠ "" && s ≠ "." && s ≠ ".." && !s.toList.contains '/'

namespace FileTree

/-- Sets the entry at a location in a list sorted by location. -/
def setSorted (l : Location) (e : Entry) : List (Location × Entry) → List (Location × Entry)
  | [] => [(l, e)]
  | x :: xs =>
    if l < x.1 then (l, e) :: x :: xs
    else if l = x.1 then (l, e) :: xs
    else x :: setSorted l e xs

theorem mem_setSorted {l : Location} {e : Entry} {y : Location × Entry} {xs : List (Location × Entry)}
    (h : y ∈ setSorted l e xs) : y = (l, e) ∨ y ∈ xs := by
  induction xs with
  | nil => exact Or.inl (by simpa [setSorted] using h)
  | cons x xs ih =>
    rw [setSorted] at h
    split at h
    · simpa using h
    · split at h
      · rcases List.mem_cons.1 h with h | h
        · exact Or.inl h
        · exact Or.inr (List.mem_cons_of_mem _ h)
      · rcases List.mem_cons.1 h with h | h
        · exact Or.inr (h ▸ List.mem_cons_self)
        · exact (ih h).imp id (List.mem_cons_of_mem _)

theorem self_mem_setSorted (l : Location) (e : Entry) (xs : List (Location × Entry)) :
    (l, e) ∈ setSorted l e xs := by
  induction xs with
  | nil => simp [setSorted]
  | cons x xs ih =>
    rw [setSorted]
    split
    · simp
    · split
      · simp
      · exact List.mem_cons_of_mem _ ih

theorem mem_setSorted_of_ne {l : Location} {e : Entry} {y : Location × Entry} {xs : List (Location × Entry)}
    (h : y ∈ xs) (hne : y.1 ≠ l) : y ∈ setSorted l e xs := by
  induction xs with
  | nil => cases h
  | cons x xs ih =>
    rw [setSorted]
    split
    · exact List.mem_cons_of_mem _ h
    · rename_i hlt
      split
      · rename_i heq
        rcases List.mem_cons.1 h with h | h
        · exact absurd (h ▸ heq.symm) hne
        · exact List.mem_cons_of_mem _ h
      · rcases List.mem_cons.1 h with h | h
        · exact h ▸ List.mem_cons_self
        · exact List.mem_cons_of_mem _ (ih h)

theorem location_lt_of_not_lt {a b : Location} (h : ¬ a < b) (hne : a ≠ b) : b < a := by
  apply Classical.byContradiction
  intro hn
  exact hne (List.le_antisymm (List.not_lt.1 hn) (List.not_lt.1 h))

theorem setSorted_sorted (l : Location) (e : Entry) {xs : List (Location × Entry)}
    (h : xs.Pairwise (·.1 < ·.1)) : (setSorted l e xs).Pairwise (·.1 < ·.1) := by
  induction xs with
  | nil => simp [setSorted]
  | cons x xs ih =>
    obtain ⟨hx, hxs⟩ := List.pairwise_cons.1 h
    rw [setSorted]
    split
    · rename_i hlt
      refine List.pairwise_cons.2 ⟨fun y hy => ?_, h⟩
      rcases List.mem_cons.1 hy with rfl | hy
      · exact hlt
      · exact List.lt_trans hlt (hx y hy)
    · rename_i hlt
      split
      · rename_i heq
        subst heq
        exact List.pairwise_cons.2 ⟨hx, hxs⟩
      · rename_i hne
        refine List.pairwise_cons.2 ⟨fun y hy => ?_, ih hxs⟩
        rcases mem_setSorted hy with rfl | hy
        · exact location_lt_of_not_lt hlt hne
        · exact hx y hy

end FileTree

/-- A tree of entries below a top directory. -/
structure FileTree where
  /-- Every entry but the top directory, with its location. -/
  entries : List (Location × Entry)
  sorted : entries.Pairwise (·.1 < ·.1)
  /-- Every entry has a location made of names. -/
  named : ∀ x ∈ entries, x.1 ≠ [] ∧ ∀ n ∈ x.1, isName n = true
  /-- What holds an entry is a directory. -/
  closed : ∀ x ∈ entries, x.1.dropLast = [] ∨ (x.1.dropLast, Entry.directory) ∈ entries

namespace FileTree

/-- The tree with nothing but the top directory. -/
def empty : FileTree := ⟨[], .nil, nofun, nofun⟩

/-- The entry at a location. -/
def get? (t : FileTree) (l : Location) : Option Entry :=
  if l = [] then some .directory else (t.entries.find? (·.1 = l)).map (·.2)

/-- The names in a directory, in byte order. -/
def children (t : FileTree) (l : Location) : List String :=
  t.entries.filterMap fun x => if x.1.dropLast = l then x.1.getLast? else none

/-- Whether `set` may put an entry there: the location is made of names, it lies in a directory, and no
directory gives way to something else. -/
def Accepts (t : FileTree) (l : Location) (e : Entry) : Prop :=
  l ≠ [] ∧ (∀ n ∈ l, isName n = true) ∧ t.get? l.dropLast = some .directory ∧
    (t.get? l = some .directory → e = .directory)

instance (t : FileTree) (l : Location) (e : Entry) : Decidable (t.Accepts l e) :=
  inferInstanceAs (Decidable (_ ∧ _ ∧ _ ∧ _))

theorem mem_of_get?_eq {t : FileTree} {l : Location} {e : Entry} (hl : l ≠ []) (h : t.get? l = some e) :
    (l, e) ∈ t.entries := by
  rw [get?, if_neg hl, Option.map_eq_some_iff] at h
  obtain ⟨x, hx, rfl⟩ := h
  have hk : x.1 = l := by simpa using List.find?_some hx
  exact hk ▸ List.mem_of_find?_eq_some hx

theorem get?_of_mem {t : FileTree} {l : Location} {e : Entry} (h : (l, e) ∈ t.entries) :
    t.get? l = some e := by
  rw [get?, if_neg (t.named _ h).1, Option.map_eq_some_iff]
  refine ⟨(l, e), ?_, rfl⟩
  have hs := t.sorted
  revert h hs
  induction t.entries with
  | nil => intro h; cases h
  | cons x xs ih =>
    intro h hs
    obtain ⟨hx, hxs⟩ := List.pairwise_cons.1 hs
    rcases List.mem_cons.1 h with rfl | h
    · simp
    · have hlt : x.1 < l := hx (l, e) h
      have hne : x.1 ≠ l := fun heq => List.lt_irrefl l (heq ▸ hlt)
      rw [List.find?_cons_of_neg (by simpa using hne)]
      exact ih h hxs

/-- The tree with an entry put at an accepted location. -/
def insert (t : FileTree) (l : Location) (e : Entry) (h : t.Accepts l e) : FileTree where
  entries := setSorted l e t.entries
  sorted := setSorted_sorted l e t.sorted
  named x hx := by
    rcases mem_setSorted hx with rfl | hx
    · exact ⟨h.1, h.2.1⟩
    · exact t.named x hx
  closed x hx := by
    have keep {p : Location} (hp : p ≠ []) (hd : (p, Entry.directory) ∈ t.entries) :
        (p, Entry.directory) ∈ setSorted l e t.entries := by
      by_cases heq : p = l
      · subst heq
        exact h.2.2.2 (get?_of_mem hd) ▸ self_mem_setSorted p e t.entries
      · exact mem_setSorted_of_ne hd heq
    by_cases hp : x.1.dropLast = []
    · exact Or.inl hp
    · refine Or.inr (keep hp ?_)
      rcases mem_setSorted hx with rfl | hx
      · exact mem_of_get?_eq hp h.2.2.1
      · exact (t.closed x hx).resolve_left hp

/-- Puts an entry at a location, if the tree accepts it there. -/
def set (t : FileTree) (l : Location) (e : Entry) : FileTree :=
  if h : t.Accepts l e then t.insert l e h else t

/-- Removes the entry at a location and everything below it. -/
def erase (t : FileTree) (l : Location) : FileTree where
  entries := t.entries.filter fun x => !l.isPrefixOf x.1
  sorted := t.sorted.filter _
  named x hx := t.named x (List.mem_filter.1 hx).1
  closed x hx := by
    obtain ⟨hx, hout⟩ := List.mem_filter.1 hx
    refine (t.closed x hx).imp id fun hd => List.mem_filter.2 ⟨hd, ?_⟩
    rw [Bool.not_eq_true'] at hout ⊢
    rw [← Bool.not_eq_true, List.isPrefixOf_iff_prefix] at hout ⊢
    exact fun hpre => hout <| hpre.trans <| List.dropLast_prefix x.1

end FileTree

end Distill
