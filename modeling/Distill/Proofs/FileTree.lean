import Mathlib.Data.List.Induction
import Distill.FileTree

/-!
What is found in a file tree, before and after it is changed. A tree is determined by what is found at each location
(`ext_get?`); putting an entry changes one location (`get?_set`), erasing one removes what lies at and below it
(`get?_erase`). Whatever lies below a location makes it a directory (`get?_above`).
-/
namespace Distill

def Entry.isLink : Entry → Bool
  | .link _ => true
  | _ => false

namespace FileTree

/-- No entry is a symbolic link. -/
def LinkFree (t : FileTree) : Prop := ∀ l target, t.get? l ≠ some (.link target)

@[simp] theorem get?_nil (t : FileTree) : t.get? [] = some .directory := by simp [get?]

theorem mem_entries_iff (t : FileTree) (l : Location) (e : Entry) :
    (l, e) ∈ t.entries ↔ l ≠ [] ∧ t.get? l = some e :=
  ⟨fun member => ⟨(t.named _ member).1, get?_of_mem member⟩, fun found => mem_of_get?_eq found.1 found.2⟩

theorem linkFree_iff (t : FileTree) : t.LinkFree ↔ ∀ x ∈ t.entries, x.2.isLink = false := by
  constructor
  · intro free x member
    have found := ((mem_entries_iff t x.1 x.2).1 member).2
    cases kind : x.2 with
    | directory => rfl
    | file content => rfl
    | link target => exact absurd (kind ▸ found) (free _ target)
  · intro none l target found
    have below : l ≠ [] := by
      rintro rfl
      simp at found
    exact absurd (none _ (mem_of_get?_eq below found)) (by simp [Entry.isLink])

instance (t : FileTree) : Decidable t.LinkFree := decidable_of_iff _ (linkFree_iff t).symm

theorem get?_parent {t : FileTree} {l : Location} {e : Entry} (found : t.get? l = some e) :
    t.get? l.dropLast = some .directory := by
  by_cases top : l = []
  · subst top
    simp
  · rcases t.closed _ (mem_of_get?_eq top found) with above | above
    · have above : l.dropLast = [] := above
      rw [above, get?_nil]
    · exact get?_of_mem above

/-- Whatever holds an entry, directly or not, is a directory. -/
theorem get?_above {t : FileTree} {l : Location} (rest : Location) {e : Entry}
    (found : t.get? (l ++ rest) = some e) (below : rest ≠ []) : t.get? l = some .directory := by
  induction rest using List.reverseRecOn generalizing e with
  | nil => exact absurd rfl below
  | append_singleton front last ih =>
    have parent : t.get? (l ++ front) = some .directory := by
      have := get?_parent found
      rwa [← List.append_assoc, List.dropLast_concat] at this
    by_cases here : front = []
    · simpa [here] using parent
    · exact ih parent here

theorem directory_above {t : FileTree} {k l : Location} (found : t.get? l = some .directory) (above : k <+: l) :
    t.get? k = some .directory := by
  obtain ⟨rest, rfl⟩ := above
  by_cases here : rest = []
  · simpa [here] using found
  · exact get?_above rest found here

/-- The first step from a location to an entry below it leads out of a directory, to the entry itself or to another
directory. -/
theorem get?_first {t : FileTree} {l rest : Location} {n : String} {e : Entry}
    (found : t.get? (l ++ n :: rest) = some e) :
    t.get? l = some .directory ∧ ∃ e', t.get? (l ++ [n]) = some e' ∧
      (rest = [] ∧ e' = e ∨ rest ≠ [] ∧ e' = .directory) := by
  refine ⟨get?_above _ found (by simp), ?_⟩
  by_cases last : rest = []
  · exact ⟨e, last ▸ found, .inl ⟨last, rfl⟩⟩
  · rw [← List.singleton_append, ← List.append_assoc] at found
    exact ⟨.directory, get?_above rest found last, .inr ⟨last, rfl⟩⟩

theorem isName_of_get? {t : FileTree} {l : Location} {e : Entry} (found : t.get? l = some e) :
    ∀ n ∈ l, isName n = true := by
  by_cases top : l = []
  · simp [top]
  · exact (t.named _ (mem_of_get?_eq top found)).2

theorem isName_below {t : FileTree} {place l : Location} {e : Entry} (found : t.get? (place ++ l) = some e) :
    ∀ n ∈ l, isName n = true := fun n member => isName_of_get? found n (List.mem_append_right _ member)

theorem get?_below_eq_none {t : FileTree} {l : Location} (rest : Location)
    (notDirectory : t.get? l ≠ some .directory) (below : rest ≠ []) : t.get? (l ++ rest) = none := by
  cases found : t.get? (l ++ rest) with
  | none => rfl
  | some e => exact absurd (get?_above rest found below) notDirectory

theorem missing_below {t : FileTree} {k l : Location} (missing : t.get? l = none) (below : l <+: k) :
    t.get? k = none := by
  obtain ⟨rest, rfl⟩ := below
  by_cases here : rest = []
  · rw [here, List.append_nil, missing]
  · exact get?_below_eq_none rest (by simp [missing]) here

/-- The entries decide the tree. -/
theorem ext_get? {t u : FileTree} (same : ∀ l, t.get? l = u.get? l) : t = u := by
  have members : ∀ x, x ∈ t.entries ↔ x ∈ u.entries := by
    intro x
    rw [mem_entries_iff t x.1 x.2, mem_entries_iff u x.1 x.2, same]
  have distinct (v : FileTree) : v.entries.Nodup := by
    refine v.sorted.imp ?_
    intro x y lt eq
    exact List.lt_irrefl _ (eq ▸ lt)
  have perm : t.entries.Perm u.entries :=
    (List.perm_ext_iff_of_nodup (distinct t) (distinct u)).2 members
  have entries : t.entries = u.entries :=
    perm.eq_of_pairwise (fun a b _ _ lt gt => absurd (List.lt_trans lt gt) (List.lt_irrefl _)) t.sorted u.sorted
  cases t
  cases u
  simpa using entries

theorem get?_insert (t : FileTree) (l : Location) (e : Entry) (accepted : t.Accepts l e) (k : Location) :
    (t.insert l e accepted).get? k = if k = l then some e else t.get? k := by
  split
  · rename_i eq
    subst eq
    exact get?_of_mem (self_mem_setSorted k e t.entries)
  · rename_i ne
    by_cases top : k = []
    · simp [top]
    · apply Option.ext
      intro f
      have kept : (k, f) ∈ (t.insert l e accepted).entries ↔ (k, f) ∈ t.entries := by
        constructor
        · intro member
          rcases mem_setSorted member with eq | old
          · exact absurd (congrArg Prod.fst eq) ne
          · exact old
        · exact fun old => mem_setSorted_of_ne old ne
      simpa [mem_entries_iff, top] using kept

theorem get?_set {t : FileTree} {l : Location} {e : Entry} (accepted : t.Accepts l e) (k : Location) :
    (t.set l e).get? k = if k = l then some e else t.get? k := by
  rw [set, dif_pos accepted, get?_insert]

theorem get?_erase (t : FileTree) {l : Location} (below : l ≠ []) (k : Location) :
    (t.erase l).get? k = if l <+: k then none else t.get? k := by
  by_cases top : k = []
  · subst top
    simp [List.prefix_nil, below]
  · apply Option.ext
    intro f
    have kept : (k, f) ∈ (t.erase l).entries ↔ (k, f) ∈ t.entries ∧ ¬ l <+: k := by
      simp [erase, ← List.isPrefixOf_iff_prefix]
    rw [mem_entries_iff, mem_entries_iff] at kept
    split
    · rename_i inside
      simpa [top, inside] using kept
    · rename_i outside
      simpa [top, outside] using kept

theorem erase_eq_self {t : FileTree} {l : Location} (missing : t.get? l = none) : t.erase l = t := by
  have below : l ≠ [] := by
    rintro rfl
    simp at missing
  apply ext_get?
  intro k
  rw [get?_erase t below]
  split
  · rename_i inside
    rw [missing_below missing inside]
  · rfl

theorem LinkFree.set {t : FileTree} (free : t.LinkFree) (l : Location) {e : Entry}
    (plain : ∀ target, e ≠ .link target) : (t.set l e).LinkFree := by
  intro k target
  by_cases accepted : t.Accepts l e
  · rw [get?_set accepted]
    split
    · simpa using plain target
    · exact free k target
  · rw [FileTree.set, dif_neg accepted]
    exact free k target

theorem LinkFree.erase {t : FileTree} (free : t.LinkFree) (l : Location) : (t.erase l).LinkFree := by
  intro k target found
  by_cases top : k = []
  · simp [top] at found
  · have member : (k, Entry.link target) ∈ (t.erase l).entries := mem_of_get?_eq top found
    exact free k target (get?_of_mem (List.mem_filter.1 member).1)

private theorem eq_concat_of_getLast? {l : Location} {n : String} (last : l.getLast? = some n) :
    l = l.dropLast ++ [n] := by
  obtain ⟨front, rfl⟩ := List.getLast?_eq_some_iff.1 last
  rw [List.dropLast_concat]

/-- The names listed for a directory are those under which something is found. -/
theorem mem_children_iff (t : FileTree) (l : Location) (n : String) :
    n ∈ t.children l ↔ ∃ e, t.get? (l ++ [n]) = some e := by
  rw [children, List.mem_filterMap]
  constructor
  · rintro ⟨x, member, listed⟩
    split at listed
    · rename_i parent
      have eq : x.1 = l ++ [n] := by rw [← parent, ← eq_concat_of_getLast? listed]
      exact ⟨x.2, get?_of_mem (eq ▸ member)⟩
    · cases listed
  · rintro ⟨e, found⟩
    refine ⟨(l ++ [n], e), mem_of_get?_eq (by simp) found, ?_⟩
    simp

theorem children_nodup (t : FileTree) (l : Location) : (t.children l).Nodup := by
  rw [children, List.Nodup, List.pairwise_filterMap]
  refine t.sorted.imp ?_
  intro x y lt m listedX n listedY same
  subst same
  split at listedX
  · rename_i parentX
    split at listedY
    · rename_i parentY
      have eq : x.1 = y.1 := by
        rw [eq_concat_of_getLast? listedX, eq_concat_of_getLast? listedY, parentX, parentY]
      exact List.lt_irrefl _ (eq ▸ lt)
    · cases listedY
  · cases listedX

/-- An entry is no deeper than there are entries: each of the directories above it is one of them. -/
theorem length_le_of_get? {t : FileTree} {l : Location} {e : Entry} (found : t.get? l = some e) :
    l.length ≤ t.entries.length := by
  have inits : ((List.range l.length).map fun i => l.take (i + 1)).Nodup := by
    rw [List.Nodup, List.pairwise_map]
    refine List.pairwise_lt_range.imp_of_mem ?_
    intro i j memI memJ lt eq
    have lengths := congrArg List.length eq
    simp only [List.mem_range] at memI memJ
    simp only [List.length_take] at lengths
    omega
  have subset : ((List.range l.length).map fun i => l.take (i + 1)) ⊆ t.entries.map Prod.fst := by
    intro k member
    obtain ⟨i, inRange, rfl⟩ := List.mem_map.1 member
    have inRange := List.mem_range.1 inRange
    have nonempty : l.take (i + 1) ≠ [] := by
      intro nil
      have := congrArg List.length nil
      simp only [List.length_take, List.length_nil] at this
      omega
    obtain ⟨f, present⟩ : ∃ f, t.get? (l.take (i + 1)) = some f := by
      by_cases whole : l.drop (i + 1) = []
      · exact ⟨e, by rwa [List.take_of_length_le (List.drop_eq_nil_iff.1 whole)]⟩
      · exact ⟨.directory, get?_above _ (by rwa [List.take_append_drop]) whole⟩
    exact List.mem_map.2 ⟨_, mem_of_get?_eq nonempty present, rfl⟩
  simpa using inits.length_le_of_subset subset

end FileTree

end Distill
