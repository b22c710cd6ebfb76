import Distill.Proofs.FileTree
import Distill.Proofs.Path.Leads

/-!
Calls on a disk without links, for paths that lead up and then down through names. Each call looks only at the entries
on the way (`locate_congr`), finds what the tree holds at the location of the path (`locate_of_get?`), and changes that
location only.
-/
namespace Distill

open Location (along)

namespace FileTree

variable {t u : FileTree} {follow : Bool} {jump : Location → List String → Except Errno Place}

private theorem walk_cons (here : Location) {n : String} (name : isName n = true) (rest : List String) :
    t.walk follow jump here (n :: rest) =
      match t.get? (here ++ [n]) with
      | none => if rest = [] ∧ t.get? here = some .directory then .ok ⟨here ++ [n], none⟩ else .error .noEntry
      | some .directory => t.walk follow jump (here ++ [n]) rest
      | some (.file content) =>
        if rest = [] then .ok ⟨here ++ [n], some (.file content)⟩ else .error .notDirectory
      | some (.link target) =>
        if rest = [] ∧ ¬ follow then .ok ⟨here ++ [n], some (.link target)⟩
        else jump (linkStart here target) (Path.pieces target ++ rest) := by
  have notDots := not_isDots_of_isName name
  have notStay : ¬ (n = "" ∨ n = ".") := fun stay => notDots (stay.elim Or.inl fun dot => Or.inr (Or.inl dot))
  have notUp : n ≠ ".." := fun up => notDots (Or.inr (Or.inr up))
  rw [walk]
  exact (if_neg notStay).trans (if_neg notUp)

/-- Directories are gone through. -/
theorem walk_entered (here : Location) {names : List String}
    (clear : ∀ k ∈ Location.entered here names, t.get? k = some .directory) (rest : List String) :
    t.walk follow jump here (names ++ rest) = t.walk follow jump (along here names) rest := by
  induction names generalizing here with
  | nil => rfl
  | cons n names ih =>
    rw [Location.entered] at clear
    rw [List.cons_append, walk, Location.along]
    split
    · rename_i stay
      rw [if_pos stay] at clear
      exact ih here clear
    · rename_i notStay
      rw [if_neg notStay] at clear
      split
      · rename_i up
        rw [if_pos up] at clear
        exact ih _ clear
      · rename_i notUp
        rw [if_neg notUp] at clear
        dsimp only
        rw [clear _ (by simp)]
        exact ih _ fun k member => clear k (by simp [member])

/-- What is no directory is not gone through. -/
theorem walk_blocked (free : t.LinkFree) (here : Location) {names rest : List String} (more : rest ≠ [])
    (blocked : ∃ k ∈ Location.entered here names, t.get? k ≠ some .directory) :
    ∃ e, t.walk follow jump here (names ++ rest) = .error e := by
  induction names generalizing here with
  | nil =>
    obtain ⟨k, member, -⟩ := blocked
    cases member
  | cons n names ih =>
    rw [Location.entered] at blocked
    rw [List.cons_append, walk]
    split
    · rename_i stay
      rw [if_pos stay] at blocked
      exact ih here blocked
    · rename_i notStay
      rw [if_neg notStay] at blocked
      split
      · rename_i up
        rw [if_pos up] at blocked
        exact ih _ blocked
      · rename_i notUp
        rw [if_neg notUp] at blocked
        have unfinished : names ++ rest ≠ [] := by simp [more]
        cases found : t.get? (here ++ [n]) with
        | none => exact ⟨.noEntry, by simp [found, unfinished]⟩
        | some entry =>
          cases entry with
          | directory =>
            obtain ⟨k, member, other⟩ := blocked
            have later := (List.mem_cons.1 member).resolve_left fun same => other (same ▸ found)
            simpa [found] using ih _ ⟨k, later, other⟩
          | file content => exact ⟨.notDirectory, by simp [found, unfinished]⟩
          | link target => exact absurd found (free _ _)

/-- Steps that stay or lead up need nothing of the tree. -/
theorem walk_ups (here : Location) {ups : List String} (dots : ∀ s ∈ ups, IsDots s) (rest : List String) :
    t.walk follow jump here (ups ++ rest) = t.walk follow jump (along here ups) rest :=
  walk_entered here (by simp [Location.entered_dots here dots]) rest

theorem walk_down (here : Location) {names : List String} (named : ∀ n ∈ names, isName n = true)
    (found : t.get? (here ++ names) = some .directory) (rest : List String) :
    t.walk follow jump here (names ++ rest) = t.walk follow jump (here ++ names) rest := by
  rw [walk_entered here fun k member => directory_above found (Location.prefix_of_mem_entered named member),
    Location.along_names here named]

theorem walk_last (free : t.LinkFree) {here : Location} (directory : t.get? here = some .directory) {n : String}
    (name : isName n = true) : t.walk follow jump here [n] = .ok ⟨here ++ [n], t.get? (here ++ [n])⟩ := by
  rw [walk_cons here name]
  cases found : t.get? (here ++ [n]) with
  | none => simp [directory]
  | some e =>
    cases e with
    | directory => simp [walk, found]
    | file content => simp
    | link target => exact absurd found (free _ _)

/-- Without links, following names ends at the location that their text gives. -/
theorem walk_sound (free : t.LinkFree) {here : Location} {names : List String} {place : Place}
    (reached : t.walk follow jump here names = .ok place) :
    place.location = along here names ∧ place.entry = t.get? (along here names) := by
  induction names generalizing here with
  | nil =>
    simp only [walk, Except.ok.injEq] at reached
    subst reached
    exact ⟨rfl, rfl⟩
  | cons n rest ih =>
    rw [walk] at reached
    rw [Location.along]
    split at reached
    · rename_i stay
      rw [if_pos stay]
      exact ih reached
    · rename_i notStay
      rw [if_neg notStay]
      split at reached
      · rename_i up
        rw [if_pos up]
        exact ih reached
      · rename_i notUp
        rw [if_neg notUp]
        dsimp only at reached
        split at reached
        · rename_i missing
          split at reached
          · rename_i last
            simp only [Except.ok.injEq] at reached
            subst reached
            simp [last.1, Location.along, missing]
          · cases reached
        · exact ih reached
        · rename_i content found
          split at reached
          · rename_i last
            simp only [Except.ok.injEq] at reached
            subst reached
            simp [last, Location.along, found]
          · cases reached
        · rename_i target found
          exact absurd found (free _ _)

/-- Following names looks only at the entries on the way. -/
theorem walk_congr (free : t.LinkFree) {follow' : Bool}
    {jump' : Location → List String → Except Errno Place} {here : Location} {names : List String}
    (named : ∀ n ∈ names, isName n = true) (same : ∀ k, k <+: here ++ names → t.get? k = u.get? k) :
    t.walk follow jump here names = u.walk follow' jump' here names := by
  induction names generalizing here with
  | nil => simp [walk, same here (by simp)]
  | cons n rest ih =>
    have name := named n (by simp)
    have next := same (here ++ [n]) (by simp)
    rw [walk_cons here name, walk_cons here name, ← same here (by simp), ← next]
    cases found : t.get? (here ++ [n]) with
    | none => rfl
    | some e =>
      cases e with
      | directory =>
        refine ih (fun m member => named m (by simp [member])) fun k inside => same k ?_
        simpa using inside
      | file content => rfl
      | link target => exact absurd found (free _ _)

end FileTree

namespace Disk

variable {d e : Disk} {path : String} {base names : Location}

theorem workingLocation_eq (free : d.tree.LinkFree) : d.workingLocation = along [] (Path.pieces d.cwd) := by
  rw [workingLocation]
  split
  · rename_i place reached
    exact (FileTree.walk_sound free reached).1
  · rfl

theorem start_eq (free : d.tree.LinkFree) (path : String) : d.start path = Path.startOf d.cwd path := by
  rw [start, Path.startOf, workingLocation_eq free]

/-- Where a path leads is where following its names leads. -/
theorem locate_eq (free : d.tree.LinkFree) (leads : Path.Leads d.cwd path base names) (follow : Bool) :
    d.locate follow path = d.tree.walk follow (d.tree.locate follow 39) base names := by
  obtain ⟨ups, eq, dots, level⟩ := leads.split
  rw [locate, if_neg leads.nonempty, start_eq free, eq, linkLimit, FileTree.locate, FileTree.walk_ups _ dots, level]

theorem locate_sound (free : d.tree.LinkFree) {follow : Bool} {place : Place}
    (reached : d.locate follow path = .ok place) :
    place.location = Path.location d.cwd path ∧ place.entry = d.tree.get? (Path.location d.cwd path) := by
  rw [locate] at reached
  split at reached
  · cases reached
  · rw [start_eq free] at reached
    exact FileTree.walk_sound free reached

/-- The last name of a path is looked up in the directory that the names before it lead to. -/
theorem locate_of_parent (free : d.tree.LinkFree) {last : String} (leads : Path.Leads d.cwd path base (names ++ [last]))
    (directory : d.tree.get? (base ++ names) = some .directory) (follow : Bool) :
    d.locate follow path = .ok ⟨base ++ names ++ [last], d.tree.get? (base ++ names ++ [last])⟩ := by
  have named := leads.named
  rw [locate_eq free leads, FileTree.walk_down base (fun n member => named n (by simp [member])) directory,
    FileTree.walk_last free directory (named last (by simp))]

/-- A path leads to what the tree holds at its location. -/
theorem locate_of_get? (free : d.tree.LinkFree) (leads : Path.Leads d.cwd path base names) {entry : Entry}
    (found : d.tree.get? (base ++ names) = some entry) (follow : Bool) :
    d.locate follow path = .ok ⟨base ++ names, some entry⟩ := by
  rcases List.eq_nil_or_concat names with rfl | ⟨front, last, rfl⟩
  · rw [locate_eq free leads, FileTree.walk]
    simpa using found
  · rw [List.concat_eq_append, ← List.append_assoc] at found
    rw [List.concat_eq_append] at leads ⊢
    rw [locate_of_parent free leads (FileTree.get?_above [last] found (by simp)), found, List.append_assoc]

theorem lookUp_of_get? (free : d.tree.LinkFree) (leads : Path.Leads d.cwd path base names) {entry : Entry}
    (found : d.tree.get? (base ++ names) = some entry) (follow : Bool) : d.lookUp follow path = .ok entry := by
  rw [lookUp, locate_of_get? free leads found]

theorem get?_of_lookUp (free : d.tree.LinkFree) {follow : Bool} {entry : Entry}
    (found : d.lookUp follow path = .ok entry) : d.tree.get? (Path.location d.cwd path) = some entry := by
  rw [lookUp] at found
  split at found
  · rename_i reached
    have sound := locate_sound free reached
    cases found
    exact sound.2.symm
  · cases found
  · cases found

theorem lookUp_eq_ok_iff (free : d.tree.LinkFree) (leads : Path.Leads d.cwd path base names) {follow : Bool}
    {entry : Entry} : d.lookUp follow path = .ok entry ↔ d.tree.get? (base ++ names) = some entry := by
  constructor
  · intro found
    rw [← leads.location_eq]
    exact get?_of_lookUp free found
  · exact fun found => lookUp_of_get? free leads found follow

theorem lookUp_of_none (free : d.tree.LinkFree) {last : String} (leads : Path.Leads d.cwd path base (names ++ [last]))
    (directory : d.tree.get? (base ++ names) = some .directory) (missing : d.tree.get? (base ++ names ++ [last]) = none)
    (follow : Bool) : d.lookUp follow path = .error .noEntry := by
  rw [lookUp, locate_of_parent free leads directory, missing]

theorem isDirectory_iff (free : d.tree.LinkFree) (leads : Path.Leads d.cwd path base names) :
    d.isDirectory path = true ↔ d.tree.get? (base ++ names) = some .directory := by
  rw [← lookUp_eq_ok_iff free leads, isDirectory]
  split
  · simpa
  · rename_i other
    simpa using other

theorem contents_of_get? (free : d.tree.LinkFree) (leads : Path.Leads d.cwd path base names) {content : Text.Bytes}
    (found : d.tree.get? (base ++ names) = some (.file content)) : d.contents path = .ok content := by
  rw [contents, lookUp_of_get? free leads found]

theorem removeAll_of_get? (free : d.tree.LinkFree) (leads : Path.Leads d.cwd path base names) {entry : Entry}
    (found : d.tree.get? (base ++ names) = some entry) :
    d.removeAll path = { d with tree := d.tree.erase (base ++ names) } := by
  rw [removeAll, locate_of_get? free leads found]

theorem writeFile_of_parent (free : d.tree.LinkFree) {last : String}
    (leads : Path.Leads d.cwd path base (names ++ [last]))
    (directory : d.tree.get? (base ++ names) = some .directory) (content : Text.Bytes) :
    d.writeFile path content =
      if d.tree.get? (base ++ names ++ [last]) = some .directory then .error (.system "open" path .isDirectory)
      else .ok { d with tree := d.tree.set (base ++ names ++ [last]) (.file content) } := by
  rw [writeFile, locate_of_parent free leads directory]
  split
  · rename_i eq
    simp only [Except.ok.injEq, Place.mk.injEq] at eq
    rw [if_pos eq.2]
  · rename_i other eq
    simp only [Except.ok.injEq, Place.mk.injEq] at eq
    obtain ⟨rfl, rfl⟩ := eq
    rw [if_neg other]
  · rename_i eq
    cases eq

/-- Two disks with the same entries on the way of a path agree on where it leads. -/
theorem locate_congr (freeD : d.tree.LinkFree) (freeE : e.tree.LinkFree) (cwd : d.cwd = e.cwd)
    (leads : Path.Leads d.cwd path base names) (same : ∀ k, k <+: base ++ names → d.tree.get? k = e.tree.get? k)
    (follow : Bool) : d.locate follow path = e.locate follow path := by
  rw [locate_eq freeD leads, locate_eq freeE (cwd ▸ leads)]
  exact FileTree.walk_congr freeD leads.named same

theorem lookUp_congr (freeD : d.tree.LinkFree) (freeE : e.tree.LinkFree) (cwd : d.cwd = e.cwd)
    (leads : Path.Leads d.cwd path base names) (same : ∀ k, k <+: base ++ names → d.tree.get? k = e.tree.get? k)
    (follow : Bool) : d.lookUp follow path = e.lookUp follow path := by
  rw [lookUp, lookUp, locate_congr freeD freeE cwd leads same]

theorem contents_congr (freeD : d.tree.LinkFree) (freeE : e.tree.LinkFree) (cwd : d.cwd = e.cwd)
    (leads : Path.Leads d.cwd path base names) (same : ∀ k, k <+: base ++ names → d.tree.get? k = e.tree.get? k) :
    d.contents path = e.contents path := by
  rw [contents, contents, lookUp_congr freeD freeE cwd leads same]

theorem makeUpward_head (some : path ≠ "") : ∃ above, (Path.ancestors path).reverse = path :: above := by
  rcases List.eq_nil_or_concat (Path.pieces path) with nil | ⟨front, last, eq⟩
  · exact absurd nil (Path.pieces_ne_nil path)
  · rw [List.concat_eq_append] at eq
    exact ⟨_, by rw [Path.ancestors_of_pieces some eq, List.reverse_append]; rfl⟩

private theorem makeUpward_found (free : d.tree.LinkFree) (leads : Path.Leads d.cwd path base names)
    (found : d.tree.get? (base ++ names) = some .directory) :
    d.makeUpward (Path.ancestors path).reverse = .ok d := by
  obtain ⟨above, list⟩ := makeUpward_head leads.nonempty
  rw [list, makeUpward, lookUp_of_get? free leads found]

private theorem makeUpward_blocked (free : d.tree.LinkFree) (leads : Path.Leads d.cwd path base names)
    {content : Text.Bytes} (found : d.tree.get? (base ++ names) = some (.file content)) :
    d.makeUpward (Path.ancestors path).reverse = .error (.system "mkdir" path .notDirectory) := by
  obtain ⟨above, list⟩ := makeUpward_head leads.nonempty
  rw [list, makeUpward, lookUp_of_get? free leads found]

private theorem makeUpward_missing (free : d.tree.LinkFree) (leads : Path.Leads d.cwd path base names)
    (missing : d.tree.get? (base ++ names) = none) (above : List String) :
    d.makeUpward (path :: above) =
      match d.makeUpward above with
      | .ok d => d.makeDirectory path
      | .error f => .error f := by
  rw [makeUpward]
  split
  · rename_i found
    simp [(lookUp_eq_ok_iff free leads).1 found] at missing
  · rename_i found
    simp [(lookUp_eq_ok_iff free leads).1 found] at missing
  · rfl

/-- The entries after a directory was made, with what was missing above it. -/
def Grown (t t' : FileTree) (l : Location) : Prop :=
  t'.LinkFree ∧ ∀ k, t'.get? k = if k <+: l then some .directory else t.get? k

private theorem makeDirectory_grown {last : String}
    (leads : Path.Leads d.cwd path base (names ++ [last])) {t : FileTree} (grown : Grown d.tree t (base ++ names))
    (missing : d.tree.get? (base ++ (names ++ [last])) = none) :
    ∃ t', { d with tree := t }.makeDirectory path = .ok { d with tree := t' } ∧
      Grown d.tree t' (base ++ (names ++ [last])) := by
  obtain ⟨freeT, entries⟩ := grown
  have directory : t.get? (base ++ names) = some .directory := by rw [entries, if_pos List.prefix_rfl]
  rw [← List.append_assoc] at missing ⊢
  have outside : ¬ base ++ names ++ [last] <+: base ++ names := by
    intro inside
    have shorter := inside.length_le
    rw [List.length_append, List.length_singleton] at shorter
    omega
  have missingT : t.get? (base ++ names ++ [last]) = none := by rw [entries, if_neg outside, missing]
  have accepted : t.Accepts (base ++ names ++ [last]) .directory := by
    refine ⟨by simp, ?_, ?_, fun _ => rfl⟩
    · intro n member
      rcases List.mem_append.1 member with member | member
      · exact FileTree.isName_of_get? directory n member
      · exact leads.named n (List.mem_append_right _ member)
    · rw [List.dropLast_concat, directory]
  refine ⟨t.set (base ++ names ++ [last]) .directory, ?_, freeT.set _ (by simp), ?_⟩
  · have reached := locate_of_parent (d := { d with tree := t }) freeT leads directory false
    simp only [missingT] at reached
    rw [makeDirectory, reached]
  · intro k
    rw [FileTree.get?_set accepted, entries]
    by_cases here : k = base ++ names ++ [last]
    · rw [if_pos here, if_pos (here ▸ List.prefix_rfl)]
    · rw [if_neg here]
      simp only [List.prefix_concat_iff, here, false_or]

/-- Directories can be made along a way on which there is no file. -/
theorem makeDirectories_of_clear (free : d.tree.LinkFree) (leads : Path.Leads d.cwd path base names)
    (top : d.tree.get? base = some .directory)
    (clear : ∀ k content, k <+: base ++ names → d.tree.get? k ≠ some (.file content)) :
    ∃ t, d.makeDirectories path = .ok { d with tree := t } ∧ Grown d.tree t (base ++ names) := by
  have settled {l : Location} (found : d.tree.get? l = some .directory) : Grown d.tree d.tree l := by
    refine ⟨free, fun k => ?_⟩
    split
    · rename_i inside
      exact FileTree.directory_above found inside
    · rfl
  rw [makeDirectories]
  -- on the names of the way: a directory is made in what the shorter way has become
  induction names using List.reverseRecOn generalizing path with
  | nil =>
    have found : d.tree.get? (base ++ []) = some .directory := by simpa using top
    exact ⟨d.tree, makeUpward_found free leads found, settled found⟩
  | append_singleton names last ih =>
    have shorter : ∀ k content, k <+: base ++ names → d.tree.get? k ≠ some (.file content) := by
      intro k content inside
      exact clear k content (inside.trans (by simp))
    cases found : d.tree.get? (base ++ (names ++ [last])) with
    | some entry =>
      cases entry with
      | directory => exact ⟨d.tree, makeUpward_found free leads found, settled found⟩
      | file content => exact absurd found (clear _ content List.prefix_rfl)
      | link target => exact absurd found (free _ _)
    | none =>
      rcases leads.ancestors_reverse with ⟨rfl, list⟩ | ⟨above, leadsAbove, list⟩
      · rw [list, makeUpward_missing free leads found, makeUpward]
        exact makeDirectory_grown leads (by simpa using settled top) found
      · obtain ⟨t, made, grown⟩ := ih leadsAbove shorter
        rw [list, makeUpward_missing free leads found, made]
        exact makeDirectory_grown leads grown found

/-- A file on the way is refused, and which one does not depend on anything else. -/
theorem makeDirectories_of_file (freeD : d.tree.LinkFree) (freeE : e.tree.LinkFree) (cwd : d.cwd = e.cwd)
    (leads : Path.Leads d.cwd path base names) (top : d.tree.get? base = some .directory)
    (same : ∀ k, k <+: base ++ names → d.tree.get? k = e.tree.get? k)
    {k : Location} {content : Text.Bytes} (inside : k <+: base ++ names) (file : d.tree.get? k = some (.file content)) :
    ∃ f, d.makeDirectories path = .error f ∧ e.makeDirectories path = .error f := by
  rw [makeDirectories, makeDirectories]
  induction names using List.reverseRecOn generalizing path with
  | nil =>
    rw [List.append_nil] at inside
    rw [FileTree.directory_above top inside] at file
    cases file
  | append_singleton names last ih =>
    have sameLast := same _ List.prefix_rfl
    have leadsE : Path.Leads e.cwd path base (names ++ [last]) := cwd ▸ leads
    cases found : d.tree.get? (base ++ (names ++ [last])) with
    | some entry =>
      have isFile : ∃ content, entry = .file content := by
        obtain ⟨rest, eq⟩ := inside
        by_cases here : rest = []
        · rw [here, List.append_nil] at eq
          rw [← eq, file] at found
          exact ⟨content, (Option.some.inj found).symm⟩
        · have above := FileTree.get?_above rest (eq ▸ found) here
          rw [above] at file
          cases file
      obtain ⟨content, rfl⟩ := isFile
      exact ⟨_, makeUpward_blocked freeD leads found, makeUpward_blocked freeE leadsE (sameLast ▸ found)⟩
    | none =>
      have shorter : k <+: base ++ names := by
        rw [← List.append_assoc, List.prefix_concat_iff] at inside
        rcases inside with here | inside
        · rw [here, List.append_assoc, found] at file
          cases file
        · exact inside
      have sameShorter : ∀ k, k <+: base ++ names → d.tree.get? k = e.tree.get? k :=
        fun k inside => same k (inside.trans (by simp))
      rcases leads.ancestors_reverse with ⟨rfl, list⟩ | ⟨above, leadsAbove, list⟩
      · rw [List.append_nil] at shorter
        rw [FileTree.directory_above top shorter] at file
        cases file
      · obtain ⟨f, failD, failE⟩ := ih leadsAbove sameShorter shorter
        refine ⟨f, ?_, ?_⟩
        · rw [list, makeUpward_missing freeD leads found, failD]
        · rw [list, makeUpward_missing freeE leadsE (sameLast ▸ found), failE]

end Disk

end Distill
