import Distill.Proofs.Disk

/-!
Calls on a disk with links, if the links in a directory all lead back into it. A path that leads into the directory as a
text and goes up at its beginning only then leads there in fact (`locate_inside`), and so does one that leads on from a
path of the directory itself, with any links before that. The calls that change something change nothing outside
(`Disk.Confined`).
-/
namespace Distill

open Location (along)

instance : DecidablePred IsDots := fun s => inferInstanceAs (Decidable (s = "" ∨ s = "." ∨ s = ".."))

theorem not_isDots_iff (s : String) : ¬ IsDots s ↔ ¬ (s = "" ∨ s = ".") ∧ ¬ s = ".." := by
  rw [IsDots, ← or_assoc, not_or]

/-- Pieces of a path that go up at their beginning only. -/
def UpFirst (pieces : List String) : Prop := ".." ∉ pieces.dropWhile fun s => IsDots s

instance (pieces : List String) : Decidable (UpFirst pieces) := inferInstanceAs (Decidable (¬ _))

section UpFirst

variable {s : String} {pieces more : List String}

theorem upFirst_of_not_mem (noUp : ".." ∉ pieces) : UpFirst pieces :=
  fun member => noUp ((List.dropWhile_suffix _).subset member)

theorem UpFirst.tail (upFirst : UpFirst (s :: pieces)) (dots : IsDots s) : UpFirst pieces := by
  rwa [UpFirst, List.dropWhile_cons_of_pos (by simpa using dots)] at upFirst

theorem UpFirst.not_mem (upFirst : UpFirst (s :: pieces)) (name : ¬ IsDots s) : ".." ∉ pieces := by
  rw [UpFirst, List.dropWhile_cons_of_neg (by simpa using name)] at upFirst
  exact fun member => upFirst (List.mem_cons_of_mem s member)

theorem UpFirst.append (upFirst : UpFirst pieces) (noUp : ".." ∉ more) : UpFirst (pieces ++ more) := by
  rw [UpFirst, List.dropWhile_append]
  split
  · exact upFirst_of_not_mem noUp
  · exact fun member => (List.mem_append.1 member).elim upFirst noUp

end UpFirst

namespace Location

theorem along_cons (here : Location) (s : String) (rest : List String) :
    along here (s :: rest) = along (along here [s]) rest :=
  along_append here [s] rest

theorem prefix_along {down : List String} (noUp : ".." ∉ down) (here : Location) : here <+: along here down := by
  induction down generalizing here with
  | nil => exact List.prefix_rfl
  | cons s down ih =>
    rw [List.mem_cons, not_or] at noUp
    rw [along]
    split
    · exact ih noUp.2 here
    · rw [if_neg (Ne.symm noUp.1)]
      exact (List.prefix_append here [s]).trans (ih noUp.2 _)

theorem named_along {here : Location} {pieces : List String} (named : ∀ n ∈ here, isName n = true)
    (whole : ∀ s ∈ pieces, '/' ∉ s.toList) : ∀ n ∈ along here pieces, isName n = true := by
  induction pieces generalizing here with
  | nil => exact named
  | cons s rest ih =>
    rw [List.forall_mem_cons] at whole
    rw [along]
    split
    · exact ih named whole.2
    · rename_i goes
      split
      · exact ih (fun n member => named n (List.dropLast_subset _ member)) whole.2
      · rename_i down
        have name := (isName_iff s).2 ⟨(not_isDots_iff s).2 ⟨goes, down⟩, whole.1⟩
        exact ih (List.forall_mem_append.2 ⟨named, List.forall_mem_singleton.2 name⟩) whole.2

end Location

/-- Pieces that lead from one location into another as a text, and go up at their beginning only. -/
structure Aims (place here : Location) (pieces : List String) : Prop where
  upFirst : UpFirst pieces
  inside : place <+: along here pieces

instance (place here : Location) (pieces : List String) : Decidable (Aims place here pieces) :=
  decidable_of_iff (UpFirst pieces ∧ place <+: along here pieces)
    ⟨fun both => ⟨both.1, both.2⟩, fun aims => ⟨aims.upFirst, aims.inside⟩⟩

theorem Aims.append {place here : Location} {pieces more : List String} (aims : Aims place here pieces)
    (noUp : ".." ∉ more) : Aims place here (pieces ++ more) := by
  refine ⟨aims.upFirst.append noUp, ?_⟩
  rw [Location.along_append]
  exact aims.inside.trans (Location.prefix_along noUp _)

/-- The target of an entry that is a link. -/
def Entry.target? : Entry → Option String
  | .link target => some target
  | _ => none

namespace FileTree

variable {t : FileTree} {follow : Bool} {jump : Location → List String → Except Errno Place} {place here : Location}

section Walk

variable {n : String} {rest : List String} {q : Place}

theorem walk_dots (dots : IsDots n) : t.walk follow jump here (n :: rest) = t.walk follow jump (along here [n]) rest :=
  walk_ups here (List.forall_mem_singleton.2 dots) rest

theorem walk_directory (name : ¬ IsDots n) (directory : t.get? (here ++ [n]) = some .directory) :
    t.walk follow jump here (n :: rest) = t.walk follow jump (here ++ [n]) rest := by
  obtain ⟨goes, down⟩ := (not_isDots_iff n).1 name
  rw [walk, if_neg goes, if_neg down]
  dsimp only
  rw [directory]

theorem walk_link (name : ¬ IsDots n) {target : String} (link : t.get? (here ++ [n]) = some (.link target))
    (followed : rest ≠ [] ∨ follow = true) :
    t.walk follow jump here (n :: rest) = jump (linkStart here target) (Path.pieces target ++ rest) := by
  obtain ⟨goes, down⟩ := (not_isDots_iff n).1 name
  rw [walk, if_neg goes, if_neg down]
  dsimp only
  rw [link]
  exact if_neg fun ends => followed.elim (· ends.1) ends.2

/-- How a walk that leads somewhere takes its first piece. -/
inductive Goes (t : FileTree) (follow : Bool) (jump : Location → List String → Except Errno Place) (here : Location)
    (n : String) (rest : List String) (q : Place) : Prop
  | dots (dots : IsDots n) (next : t.walk follow jump (along here [n]) rest = .ok q)
  | down (name : ¬ IsDots n) (directory : t.get? (here ++ [n]) = some .directory)
      (next : t.walk follow jump (here ++ [n]) rest = .ok q)
  | ends (name : ¬ IsDots n) (leaf : t.get? (here ++ [n]) ≠ some .directory) (last : rest = [])
      (arrived : q = ⟨here ++ [n], t.get? (here ++ [n])⟩)
  | jumps (name : ¬ IsDots n) (target : String) (link : t.get? (here ++ [n]) = some (.link target))
      (followed : rest ≠ [] ∨ follow = true) (next : jump (linkStart here target) (Path.pieces target ++ rest) = .ok q)

theorem goes_of_walk (found : t.walk follow jump here (n :: rest) = .ok q) : Goes t follow jump here n rest q := by
  by_cases dots : IsDots n
  · exact .dots dots (walk_dots dots ▸ found)
  · obtain ⟨goes, down⟩ := (not_isDots_iff n).1 dots
    rw [walk, if_neg goes, if_neg down] at found
    dsimp only at found
    have ends {e : Option Entry} (entry : t.get? (here ++ [n]) = e) (leaf : e ≠ some .directory) (last : rest = [])
        (arrived : (.ok ⟨here ++ [n], e⟩ : Except Errno Place) = .ok q) : Goes t follow jump here n rest q :=
      .ends dots (entry ▸ leaf) last (by rw [entry, ← Except.ok.inj arrived])
    split at found <;> rename_i entry
    · split at found
      · rename_i last
        exact ends entry (by simp) last.1 found
      · cases found
    · exact .down dots entry found
    · split at found
      · rename_i last
        exact ends entry (by simp) last found
      · cases found
    · split at found
      · rename_i last
        exact ends entry (by simp) last.1 found
      · rename_i followed
        exact .jumps dots _ entry (by simpa [Classical.or_iff_not_imp_left] using followed) found

end Walk

/-- The links in a place lead back into it: their targets do as texts, and go up at their beginning only. -/
def Homing (t : FileTree) (place : Location) : Prop :=
  ∀ l target, place <+: l → t.get? l = some (.link target) →
    Aims place (linkStart l.dropLast target) (Path.pieces target)

theorem homing_iff (t : FileTree) (place : Location) :
    t.Homing place ↔ ∀ x ∈ t.entries, place <+: x.1 →
      ∀ target ∈ x.2.target?, Aims place (linkStart x.1.dropLast target) (Path.pieces target) := by
  constructor
  · intro homing x member inside target link
    have found := ((mem_entries_iff t x.1 x.2).1 member).2
    cases kind : x.2 with
    | directory | file =>
      rw [kind] at link
      cases link
    | link other =>
      rw [kind] at link found
      obtain rfl := Option.some.inj link
      exact homing x.1 other inside found
  · intro all l target inside found
    have below : l ≠ [] := by
      rintro rfl
      simp at found
    exact all (l, .link target) (mem_of_get?_eq below found) inside target rfl

instance (t : FileTree) (place : Location) : Decidable (t.Homing place) := decidable_of_iff _ (homing_iff t place).symm

theorem walk_inside (directory : t.get? place = some .directory) (homing : t.Homing place)
    (jumps : ∀ here pieces q, Aims place here pieces → jump here pieces = .ok q → place <+: q.location)
    {pieces : List String} (aims : Aims place here pieces) {q : Place}
    (found : t.walk follow jump here pieces = .ok q) : place <+: q.location := by
  obtain ⟨upFirst, inside⟩ := aims
  induction pieces generalizing here with
  | nil =>
    obtain rfl := Except.ok.inj found
    exact inside
  | cons n rest ih =>
    rw [Location.along_cons] at inside
    cases goes_of_walk found with
    | dots dots next => exact ih next (upFirst.tail dots) inside
    | down name _ next =>
      rw [Location.along_name here name] at inside
      exact ih next (upFirst_of_not_mem (upFirst.not_mem name)) inside
    | ends name _ last arrived =>
      rw [Location.along_name here name, last] at inside
      rw [arrived]
      exact inside
    | jumps name target link _ next =>
      have noUp := upFirst.not_mem name
      rw [Location.along_name here name] at inside
      -- a link on the way to the place would be a directory
      have reached : place <+: here ++ [n] := by
        rcases List.prefix_or_prefix_of_prefix inside (Location.prefix_along noUp _) with reached | above
        · exact reached
        · rw [directory_above directory above] at link
          cases link
      have aims := homing _ target reached link
      rw [List.dropLast_concat] at aims
      exact jumps _ _ q (aims.append noUp) next

/-- A text that leads into a place leads there in fact, through any number of links. -/
theorem locate_inside (directory : t.get? place = some .directory) (homing : t.Homing place) {links : Nat}
    {pieces : List String} (aims : Aims place here pieces) {q : Place}
    (found : t.locate follow links here pieces = .ok q) : place <+: q.location := by
  induction links generalizing here pieces q with
  | zero => exact walk_inside directory homing (fun _ _ _ _ impossible => by cases impossible) aims found
  | succ links ih => exact walk_inside directory homing (fun _ _ _ aims found => ih aims found) aims found

/-- A location of names, with what the tree holds there. -/
structure Holds (t : FileTree) (q : Place) : Prop where
  entry : q.entry = t.get? q.location
  named : ∀ n ∈ q.location, isName n = true

theorem walk_holds
    (jumps : ∀ here pieces q, (∀ n ∈ here, isName n = true) → (∀ s ∈ pieces, '/' ∉ s.toList) →
      jump here pieces = .ok q → t.Holds q)
    (named : ∀ n ∈ here, isName n = true) {pieces : List String} (whole : ∀ s ∈ pieces, '/' ∉ s.toList) {q : Place}
    (found : t.walk follow jump here pieces = .ok q) : t.Holds q := by
  induction pieces generalizing here with
  | nil =>
    obtain rfl := Except.ok.inj found
    exact ⟨rfl, named⟩
  | cons n rest ih =>
    rw [List.forall_mem_cons] at whole
    have namedThere : ∀ m ∈ along here [n], isName m = true :=
      Location.named_along named (List.forall_mem_singleton.2 whole.1)
    cases goes_of_walk found with
    | dots _ next => exact ih namedThere whole.2 next
    | down name _ next => exact ih (Location.along_name here name ▸ namedThere) whole.2 next
    | ends name _ _ arrived =>
      obtain rfl := arrived
      exact ⟨rfl, Location.along_name here name ▸ namedThere⟩
    | jumps name target _ _ next =>
      refine jumps _ _ _ ?_ (List.forall_mem_append.2 ⟨fun s => Path.slash_not_mem_of_mem_pieces, whole.2⟩) next
      rw [linkStart]
      split
      · exact List.forall_mem_nil _
      · exact named

/-- Where a path leads is a location of names, with what the tree holds there. -/
theorem locate_holds {links : Nat} (named : ∀ n ∈ here, isName n = true) {pieces : List String}
    (whole : ∀ s ∈ pieces, '/' ∉ s.toList) {q : Place} (found : t.locate follow links here pieces = .ok q) :
    t.Holds q := by
  induction links generalizing here pieces q with
  | zero => exact walk_holds (fun _ _ _ _ _ impossible => by cases impossible) named whole found
  | succ links ih => exact walk_holds (fun _ _ _ named whole found => ih named whole found) named whole found

theorem walk_before_last {follows : Location → List String → Except Errno Place} {last : String}
    (name : isName last = true) (jumps : ∀ here front q, jump here (front ++ [last]) = .ok q →
      ∃ r, follows here front = .ok r ∧ q.location = r.location ++ [last])
    {front : List String} {q : Place} (found : t.walk false jump here (front ++ [last]) = .ok q) :
    ∃ r, t.walk true follows here front = .ok r ∧ q.location = r.location ++ [last] := by
  induction front generalizing here with
  | nil =>
    refine ⟨_, rfl, ?_⟩
    cases goes_of_walk found with
    | dots dots => exact absurd dots (not_isDots_of_isName name)
    | down _ _ next =>
      obtain rfl := Except.ok.inj next
      rfl
    | ends _ _ _ arrived => rw [arrived]
    | jumps _ _ _ followed => simp at followed
  | cons n front ih =>
    cases goes_of_walk found with
    | dots dots next =>
      rw [walk_dots dots]
      exact ih next
    | down name directory next =>
      rw [walk_directory name directory]
      exact ih next
    | ends _ _ impossible => simp at impossible
    | jumps name target link _ next =>
      rw [walk_link name link (Or.inr rfl)]
      exact jumps _ _ q (List.append_assoc _ _ _ ▸ next)

/-- If the last name of a path is not followed, it is one in the directory that the names before it lead to. -/
theorem locate_last {links : Nat} {front : List String} {last : String} (name : isName last = true) {q : Place}
    (found : t.locate false links here (front ++ [last]) = .ok q) :
    ∃ r, t.locate true links here front = .ok r ∧ q.location = r.location ++ [last] := by
  induction links generalizing here front q with
  | zero => exact walk_before_last name (fun _ _ _ impossible => by cases impossible) found
  | succ links ih =>
    have jumps : ∀ here front q, t.locate false links here (front ++ [last]) = .ok q →
        ∃ r, t.locate true links here front = .ok r ∧ q.location = r.location ++ [last] := fun _ _ _ found => ih found
    exact walk_before_last name jumps found

theorem walk_through {follows : Location → List String → Except Errno Place} {more : List String} (further : more ≠ [])
    (here : ∃ links, t.walk follow follows place more = t.locate follow links place more)
    (jumps : ∀ start front, jump start front = .ok ⟨place, some .directory⟩ →
      ∃ links, follows start (front ++ more) = t.locate follow links place more)
    {start : Location} {front : List String} (reached : t.walk true jump start front = .ok ⟨place, some .directory⟩) :
    ∃ links, t.walk follow follows start (front ++ more) = t.locate follow links place more := by
  induction front generalizing start with
  | nil =>
    obtain ⟨rfl, -⟩ := Place.mk.inj (Except.ok.inj reached)
    exact here
  | cons n rest ih =>
    rw [List.cons_append]
    cases goes_of_walk reached with
    | dots dots next =>
      rw [walk_dots dots]
      exact ih next
    | down name directory next =>
      rw [walk_directory name directory]
      exact ih next
    | ends _ leaf _ arrived => exact absurd (Place.mk.inj arrived).2.symm leaf
    | jumps name target link _ next =>
      rw [walk_link name link (Or.inl (by simp [further])), ← List.append_assoc]
      exact jumps _ _ next

/-- Names behind a path that leads to a directory are followed from there. -/
theorem locate_through {more : List String} (further : more ≠ []) {links : Nat} {start : Location} {front : List String}
    (reached : t.locate true links start front = .ok ⟨place, some .directory⟩) (follow : Bool) :
    ∃ links', t.locate follow links start (front ++ more) = t.locate follow links' place more := by
  induction links generalizing start front with
  | zero => exact walk_through further ⟨0, rfl⟩ (fun _ _ impossible => by cases impossible) reached
  | succ links ih =>
    have jumps : ∀ start front, t.locate true links start front = .ok ⟨place, some .directory⟩ →
        ∃ links', t.locate follow links start (front ++ more) = t.locate follow links' place more := fun _ _ => ih
    exact walk_through further ⟨links + 1, rfl⟩ jumps reached

end FileTree

namespace Disk

/-- A change that leaves everything outside a place alone, and makes no new links. -/
structure Confined (place : Location) (d d' : Disk) : Prop where
  cwd : d'.cwd = d.cwd
  entries : ∀ k, ¬ place <+: k → d'.tree.get? k = d.tree.get? k
  directory : d.tree.get? place = some .directory → d'.tree.get? place = some .directory
  links : ∀ k target, d'.tree.get? k = some (.link target) → d.tree.get? k = some (.link target)

section Confined

variable {place l : Location} {d d' d'' : Disk}

theorem Confined.refl (place : Location) (d : Disk) : Confined place d d := ⟨rfl, fun _ _ => rfl, id, fun _ _ => id⟩

theorem Confined.trans (first : Confined place d d') (second : Confined place d' d'') : Confined place d d'' where
  cwd := second.cwd.trans first.cwd
  entries k outside := (second.entries k outside).trans (first.entries k outside)
  directory found := second.directory (first.directory found)
  links k target found := first.links k target (second.links k target found)

/-- Putting something that is no link into a place. -/
theorem confined_set (inside : place <+: l) {e : Entry} (plain : ∀ target, e ≠ .link target) :
    Confined place d { d with tree := d.tree.set l e } := by
  by_cases accepted : d.tree.Accepts l e
  · have entries := FileTree.get?_set accepted
    refine ⟨rfl, fun k outside => ?_, fun found => ?_, fun k target found => ?_⟩
    · rw [entries, if_neg]
      rintro rfl
      exact outside inside
    · rw [entries]
      split
      · rename_i here
        rw [accepted.2.2.2 (here ▸ found)]
      · exact found
    · rw [entries] at found
      split at found
      · exact absurd (Option.some.inj found) (plain target)
      · exact found
  · have same : d.tree.set l e = d.tree := by rw [FileTree.set, dif_neg accepted]
    rw [same]
    exact .refl place d

/-- Erasing something below a place. -/
theorem confined_erase {q : Location} (inside : place <+: q) (last : String) :
    Confined place d { d with tree := d.tree.erase (q ++ [last]) } := by
  have entries := FileTree.get?_erase d.tree (l := q ++ [last]) (by simp)
  have below : place <+: q ++ [last] := inside.trans (List.prefix_append q [last])
  refine ⟨rfl, fun k outside => ?_, fun found => ?_, fun k target found => ?_⟩
  · rw [entries, if_neg fun erased => outside (below.trans erased)]
  · rw [entries, if_neg, found]
    intro erased
    have shorter := (erased.trans inside).length_le
    rw [List.length_append, List.length_singleton] at shorter
    omega
  · rw [entries] at found
    split at found
    · cases found
    · exact found

end Confined

theorem workingLocation_named (d : Disk) : ∀ n ∈ d.workingLocation, isName n = true := by
  have whole : ∀ s ∈ Path.pieces d.cwd, '/' ∉ s.toList := fun s => Path.slash_not_mem_of_mem_pieces
  rw [workingLocation]
  split
  · rename_i q reached
    exact (FileTree.locate_holds (by simp) whole reached).named
  · exact Location.named_along (by simp) whole

/-- The working directory has a path without links. -/
theorem exists_working (d : Disk) : ∃ cwd, along [] (Path.pieces cwd) = d.workingLocation := by
  by_cases top : d.workingLocation = []
  · exact ⟨"", top.symm⟩
  · refine ⟨Path.ofPieces d.workingLocation, ?_⟩
    rw [Path.pieces_ofPieces_names top d.workingLocation_named, Location.along_names _ d.workingLocation_named]
    rfl

theorem holds_of_locate {d : Disk} {follow : Bool} {path : String} {q : Place} (found : d.locate follow path = .ok q) :
    d.tree.Holds q := by
  rw [locate] at found
  split at found
  · cases found
  · refine FileTree.locate_holds ?_ (fun s => Path.slash_not_mem_of_mem_pieces) found
    rw [start]
    split
    · simp
    · exact d.workingLocation_named

/-- A directory that the links in it do not lead out of. Whatever happens in it, a path leads to it, and the working
directory stays where another path leads without links. -/
structure Closed (d : Disk) (cwd root : String) (place : Location) : Prop where
  homing : d.tree.Homing place
  way : ∀ d', Confined place d d' → d'.locate true root = .ok ⟨place, some .directory⟩
  working : ∀ d', Confined place d d' → d'.workingLocation = along [] (Path.pieces cwd)

section Calls

variable {cwd root path : String} {place base names rest : Location} {d d' : Disk}

theorem Closed.confined (closed : d.Closed cwd root place) (confined : Confined place d d') :
    d'.Closed cwd root place where
  homing l target inside found := closed.homing l target inside (confined.links l target found)
  way d'' next := closed.way d'' (confined.trans next)
  working d'' next := closed.working d'' (confined.trans next)

theorem Closed.directory (closed : d.Closed cwd root place) : d.tree.get? place = some .directory :=
  (holds_of_locate (closed.way d (.refl place d))).entry.symm

theorem Closed.locate_eq (closed : d.Closed cwd root place) (leads : Path.Leads cwd path base names) (follow : Bool) :
    d.locate follow path = d.tree.locate follow linkLimit base names := by
  obtain ⟨ups, eq, dots, level⟩ := leads.split
  have start : d.start path = Path.startOf cwd path := by
    rw [Disk.start, Path.startOf, closed.working d (.refl place d)]
  rw [Disk.locate, if_neg leads.nonempty, start, eq, linkLimit, FileTree.locate, FileTree.walk_ups _ dots, level]

theorem Closed.locate_way (closed : d.Closed cwd root place) (way : Path.Leads cwd root base names) :
    d.tree.locate true linkLimit base names = .ok ⟨place, some .directory⟩ := by
  rw [← closed.locate_eq way]
  exact closed.way d (.refl place d)

/-- Names behind the way to a closed directory lead into it. -/
theorem Closed.locate_below (closed : d.Closed cwd root place) (way : Path.Leads cwd root base names)
    (named : ∀ n ∈ rest, isName n = true) {follow : Bool} (followed : rest = [] → follow = true) {q : Place}
    (found : d.tree.locate follow linkLimit base (names ++ rest) = .ok q) : place <+: q.location := by
  by_cases here : rest = []
  · rw [followed here, here, List.append_nil, closed.locate_way way] at found
    obtain rfl := Except.ok.inj found
    exact List.prefix_rfl
  · obtain ⟨links, through⟩ := FileTree.locate_through here (closed.locate_way way) follow
    have aims : Aims place place rest := by
      have noUp : ".." ∉ rest := fun up => by simpa [isName] using named _ up
      exact ⟨upFirst_of_not_mem noUp, Location.prefix_along noUp place⟩
    exact FileTree.locate_inside closed.directory closed.homing aims (through ▸ found)

theorem Closed.locate_inside (closed : d.Closed cwd root place) (way : Path.Leads cwd root base names)
    (leads : Path.Leads cwd path base (names ++ rest)) {q : Place} (found : d.locate true path = .ok q) :
    place <+: q.location := by
  rw [closed.locate_eq leads] at found
  exact closed.locate_below way (fun n member => leads.named n (List.mem_append_right _ member)) (fun _ => rfl) found

theorem Closed.confined_removeAll (closed : d.Closed cwd root place) (way : Path.Leads cwd root base names)
    {last : String} (leads : Path.Leads cwd path base (names ++ rest ++ [last])) :
    Confined place d (d.removeAll path) := by
  rw [removeAll]
  split
  · rename_i l e found
    rw [closed.locate_eq leads] at found
    obtain ⟨r, before, location⟩ := FileTree.locate_last (leads.named last (by simp)) found
    have inside := closed.locate_below way (fun n member => leads.named n (by simp [member])) (fun _ => rfl) before
    obtain rfl : l = r.location ++ [last] := location
    exact confined_erase inside last
  · exact .refl place d

theorem Closed.confined_writeFile (closed : d.Closed cwd root place) (way : Path.Leads cwd root base names)
    (leads : Path.Leads cwd path base (names ++ rest)) {content : Text.Bytes}
    (written : d.writeFile path content = .ok d') : Confined place d d' := by
  rw [writeFile] at written
  split at written
  · cases written
  · rename_i l e _ found
    obtain rfl := Except.ok.inj written
    exact confined_set (closed.locate_inside way leads found) (by simp)
  · cases written

theorem Closed.confined_makeDirectory (closed : d.Closed cwd root place) (way : Path.Leads cwd root base names)
    (leads : Path.Leads cwd path base (names ++ rest)) (further : rest ≠ []) (made : d.makeDirectory path = .ok d') :
    Confined place d d' := by
  rw [makeDirectory] at made
  split at made
  · rename_i l found
    obtain rfl := Except.ok.inj made
    rw [closed.locate_eq leads] at found
    have named : ∀ n ∈ rest, isName n = true := fun n member => leads.named n (List.mem_append_right _ member)
    exact confined_set (closed.locate_below way named (absurd · further) found) (by simp)
  · obtain rfl := Except.ok.inj made
    exact .refl place d
  · cases made
  · cases made

/-- Making directories on the way into a closed directory stops there. -/
theorem Closed.confined_makeDirectories (closed : d.Closed cwd root place) (way : Path.Leads cwd root base names)
    (leads : Path.Leads cwd path base (names ++ rest)) (made : d.makeDirectories path = .ok d') :
    Confined place d d' := by
  rw [makeDirectories] at made
  -- on the names behind the way there, from the last one up
  induction rest using List.reverseRecOn generalizing path d' with
  | nil =>
    rw [List.append_nil] at leads
    obtain ⟨others, list⟩ := makeUpward_head leads.nonempty
    have there : d.lookUp true path = .ok .directory := by rw [lookUp, closed.locate_eq leads, closed.locate_way way]
    rw [list, makeUpward, there] at made
    obtain rfl := Except.ok.inj made
    exact .refl place d
  | append_singleton rest last ih =>
    have list : ∃ others, (Path.ancestors path).reverse = path :: others ∧
        ∀ d₁, d.makeUpward others = .ok d₁ → Confined place d d₁ := by
      rw [← List.append_assoc] at leads
      rcases leads.ancestors_reverse with ⟨-, list⟩ | ⟨above, leadsAbove, list⟩
      · refine ⟨[], list, fun d₁ made => ?_⟩
        obtain rfl := Except.ok.inj made
        exact .refl place d
      · exact ⟨_, list, fun d₁ => ih leadsAbove⟩
    obtain ⟨others, list, madeAbove⟩ := list
    rw [list, makeUpward] at made
    split at made
    · obtain rfl := Except.ok.inj made
      exact .refl place d
    · cases made
    · split at made
      · rename_i d₁ madeOthers
        have confined := madeAbove d₁ madeOthers
        exact confined.trans ((closed.confined confined).confined_makeDirectory way leads (by simp) made)
      · cases made

end Calls

end Disk

end Distill
