import Mathlib.Data.List.Induction
import Distill.Disk

/-!
The segments of a path text. Splitting and joining at slashes undo each other; a normalised path leads up first, unless
it starts at the top, and then down through names (`normalSegments_shape`), and it leads to the same location as before
(`along_normalSegments`).
-/
namespace Distill

/-- A piece of a path that is no name: it stays, or it leads up. -/
def IsDots (s : String) : Prop := s = "" ∨ s = "." ∨ s = ".."

theorem isName_iff (s : String) : isName s = true ↔ ¬ IsDots s ∧ '/' ∉ s.toList := by
  simp [isName, IsDots, and_assoc]

theorem not_isDots_of_isName {s : String} (name : isName s = true) : ¬ IsDots s := ((isName_iff s).1 name).1

theorem not_isDots_of_length {s : String} (long : 3 ≤ s.length) : ¬ IsDots s := by
  rintro (rfl | rfl | rfl) <;> exact absurd long (by decide)

namespace Location

theorem along_append (here : Location) (a b : List String) : along here (a ++ b) = along (along here a) b := by
  induction a generalizing here with
  | nil => rfl
  | cons x xs ih =>
    rw [List.cons_append, along, along]
    split
    · exact ih here
    · split <;> exact ih _

theorem along_name (here : Location) {n : String} (name : ¬ IsDots n) : along here [n] = here ++ [n] := by
  have notStay : ¬ (n = "" ∨ n = ".") := fun stay => name (stay.elim Or.inl fun dot => Or.inr (Or.inl dot))
  have notUp : n ≠ ".." := fun up => name (Or.inr (Or.inr up))
  rw [along, if_neg notStay, if_neg notUp, along]

theorem along_names (here : Location) {ns : List String} (names : ∀ n ∈ ns, isName n = true) :
    along here ns = here ++ ns := by
  induction ns using List.reverseRecOn with
  | nil => simp [along]
  | append_singleton front last ih =>
    have name := not_isDots_of_isName (names last (by simp))
    rw [along_append, ih fun n member => names n (by simp [member]), along_name _ name, List.append_assoc]

/-- The locations that names lead down into on their way. -/
def entered : Location → List String → List Location
  | _, [] => []
  | here, name :: rest =>
    if name = "" ∨ name = "." then entered here rest
    else if name = ".." then entered here.dropLast rest
    else (here ++ [name]) :: entered (here ++ [name]) rest

theorem entered_append (here : Location) (a b : List String) :
    entered here (a ++ b) = entered here a ++ entered (along here a) b := by
  induction a generalizing here with
  | nil => rfl
  | cons x xs ih =>
    rw [List.cons_append, entered, entered, along]
    split
    · exact ih here
    · split
      · exact ih _
      · rw [ih, List.cons_append]

theorem entered_dots (here : Location) {ups : List String} (dots : ∀ s ∈ ups, IsDots s) : entered here ups = [] := by
  induction ups generalizing here with
  | nil => rfl
  | cons s ups ih =>
    have ih := fun place => ih place fun r member => dots r (by simp [member])
    rcases dots s (by simp) with rfl | rfl | rfl <;> simp [entered, ih]

theorem prefix_of_mem_entered {here k : Location} {ns : List String} (names : ∀ n ∈ ns, isName n = true)
    (member : k ∈ entered here ns) : k <+: here ++ ns := by
  induction ns generalizing here with
  | nil => cases member
  | cons n ns ih =>
    have notDots := not_isDots_of_isName (names n (by simp))
    have notStay : ¬ (n = "" ∨ n = ".") := fun stay => notDots (stay.elim Or.inl fun dot => Or.inr (Or.inl dot))
    have notUp : n ≠ ".." := fun up => notDots (Or.inr (Or.inr up))
    rw [entered, if_neg notStay, if_neg notUp, List.mem_cons] at member
    rw [← List.singleton_append, ← List.append_assoc]
    rcases member with rfl | member
    · exact List.prefix_append _ _
    · exact ih (fun m inside => names m (by simp [inside])) member

end Location

namespace Path

open Location (along)

theorem splitSlash_ne_nil (p : List Char) : splitSlash p ≠ [] := by
  cases p with
  | nil => simp [splitSlash]
  | cons c cs =>
    rw [splitSlash]
    split
    · simp
    · split <;> simp

theorem splitSlash_append (a b : List Char) : splitSlash (a ++ '/' :: b) = splitSlash a ++ splitSlash b := by
  induction a with
  | nil => simp [splitSlash]
  | cons c cs ih =>
    simp only [List.cons_append, splitSlash, ih]
    split
    · rfl
    · cases split : splitSlash cs with
      | nil => exact absurd split (splitSlash_ne_nil cs)
      | cons seg segs => rfl

theorem splitSlash_of_not_mem {p : List Char} (whole : '/' ∉ p) : splitSlash p = [p] := by
  induction p with
  | nil => rfl
  | cons c cs ih =>
    simp only [List.mem_cons, not_or] at whole
    rw [splitSlash, if_neg (Ne.symm whole.1), ih whole.2]

theorem not_mem_of_mem_splitSlash {p seg : List Char} (member : seg ∈ splitSlash p) : '/' ∉ seg := by
  induction p generalizing seg with
  | nil =>
    rw [splitSlash, List.mem_singleton] at member
    simp [member]
  | cons c cs ih =>
    rw [splitSlash] at member
    split at member
    · rcases List.mem_cons.1 member with rfl | member
      · simp
      · exact ih member
    · rename_i notSlash
      cases split : splitSlash cs with
      | nil => exact absurd split (splitSlash_ne_nil cs)
      | cons first rest =>
        simp only [split, List.mem_cons] at member
        rcases member with rfl | member
        · have inner : '/' ∉ first := ih (by simp [split])
          simp [Ne.symm notSlash, inner]
        · exact ih (by simp [split, member])

theorem joinSlash_cons (seg : List Char) {segs : List (List Char)} (more : segs ≠ []) :
    joinSlash (seg :: segs) = seg ++ '/' :: joinSlash segs := by
  cases segs with
  | nil => exact absurd rfl more
  | cons _ _ => rfl

theorem splitSlash_joinSlash {segs : List (List Char)} (some : segs ≠ []) (whole : ∀ seg ∈ segs, '/' ∉ seg) :
    splitSlash (joinSlash segs) = segs := by
  induction segs with
  | nil => exact absurd rfl some
  | cons seg segs ih =>
    have first := whole seg (by simp)
    by_cases last : segs = []
    · rw [last, joinSlash, splitSlash_of_not_mem first]
    · rw [joinSlash_cons seg last, splitSlash_append, splitSlash_of_not_mem first,
        ih last fun s member => whole s (by simp [member])]
      rfl

theorem joinSlash_append {a b : List (List Char)} (someA : a ≠ []) (someB : b ≠ []) :
    joinSlash (a ++ b) = joinSlash a ++ '/' :: joinSlash b := by
  induction a with
  | nil => exact absurd rfl someA
  | cons seg segs ih =>
    by_cases last : segs = []
    · rw [last, List.singleton_append, joinSlash_cons seg someB, joinSlash]
    · rw [List.cons_append, joinSlash_cons seg (by simp [last]), joinSlash_cons seg last, ih last]
      simp

theorem joinSlash_splitSlash (p : List Char) : joinSlash (splitSlash p) = p := by
  induction p with
  | nil => rfl
  | cons c cs ih =>
    rw [splitSlash]
    split
    · rename_i slash
      rw [joinSlash_cons _ (splitSlash_ne_nil cs), ih, slash, List.nil_append]
    · cases split : splitSlash cs with
      | nil => exact absurd split (splitSlash_ne_nil cs)
      | cons seg segs =>
        rw [split] at ih
        by_cases last : segs = []
        · rw [last, joinSlash] at ih ⊢
          rw [ih]
        · rw [joinSlash_cons _ last] at ih ⊢
          rw [List.cons_append, ih]

theorem pieces_ne_nil (p : String) : pieces p ≠ [] := by simp [pieces, splitSlash_ne_nil]

theorem pieces_append (a b : String) : pieces (a ++ "/" ++ b) = pieces a ++ pieces b := by
  simp [pieces, splitSlash_append]

theorem pieces_ofPieces {ps : List String} (some : ps ≠ []) (whole : ∀ s ∈ ps, '/' ∉ s.toList) :
    pieces (ofPieces ps) = ps := by
  rw [pieces, ofPieces, String.toList_ofList, splitSlash_joinSlash (by simpa using some)]
  · simp [Function.comp_def]
  · intro seg member
    obtain ⟨s, inside, rfl⟩ := List.mem_map.1 member
    exact whole s inside

theorem ofPieces_pieces (p : String) : ofPieces (pieces p) = p := by
  simp [ofPieces, pieces, Function.comp_def, joinSlash_splitSlash]

theorem slash_not_mem_of_mem_pieces {p s : String} (member : s ∈ pieces p) : '/' ∉ s.toList := by
  obtain ⟨seg, inside, rfl⟩ := List.mem_map.1 member
  simpa using not_mem_of_mem_splitSlash inside

/-- A segment that is no name. -/
private def Dots (seg : List Char) : Prop := seg = [] ∨ seg = ['.'] ∨ seg = ['.', '.']

private theorem isDots_ofList (seg : List Char) : IsDots (String.ofList seg) ↔ Dots seg := by
  have dot : String.ofList seg = "." ↔ seg = ['.'] := String.ofList_inj
  have up : String.ofList seg = ".." ↔ seg = ['.', '.'] := String.ofList_inj
  simp [IsDots, Dots, dot, up]

/-- What is kept of a path while it is normalised, the last segment first: names below the steps up. -/
private def Kept (rooted : Bool) (kept : List (List Char)) : Prop :=
  ∃ names k, kept = names ++ List.replicate k ['.', '.'] ∧ (∀ n ∈ names, ¬ Dots n) ∧ (rooted = true → k = 0)

private theorem pushSegment_kept {rooted : Bool} {kept : List (List Char)} (ok : Kept rooted kept) (seg : List Char) :
    Kept rooted (pushSegment rooted kept seg) := by
  obtain ⟨names, k, rfl, plain, top⟩ := ok
  rw [pushSegment.eq_def]
  split
  · exact ⟨names, k, rfl, plain, top⟩
  · rename_i notStay
    split
    · rename_i up
      cases names with
      | nil =>
        cases k with
        | zero =>
          cases rooted with
          | true => exact ⟨[], 0, rfl, by simp, fun _ => rfl⟩
          | false => exact ⟨[], 1, by simp [up], by simp, by simp⟩
        | succ k =>
          refine ⟨[], k + 2, ?_, by simp, fun rooted => absurd (top rooted) (by simp)⟩
          simp [List.replicate_succ, up]
      | cons n names =>
        have notUp : n ≠ ['.', '.'] := fun eq => plain n (by simp) (Or.inr (Or.inr eq))
        simp only [List.cons_append, if_neg notUp]
        exact ⟨names, k, rfl, fun m member => plain m (by simp [member]), top⟩
    · rename_i notUp
      refine ⟨seg :: names, k, rfl, ?_, top⟩
      intro m member
      rcases List.mem_cons.1 member with rfl | member
      · rintro (nil | dot | up)
        · exact notStay (Or.inl nil)
        · exact notStay (Or.inr dot)
        · exact notUp up
      · exact plain m member

private theorem foldl_kept {rooted : Bool} {kept : List (List Char)} (ok : Kept rooted kept)
    (segs : List (List Char)) : Kept rooted (segs.foldl (pushSegment rooted) kept) := by
  induction segs generalizing kept with
  | nil => exact ok
  | cons seg segs ih => exact ih (pushSegment_kept ok seg)

/-- A normalised path leads up first, unless it starts at the top, and then down through names. -/
theorem normalSegments_shape (rooted : Bool) (segs : List (List Char)) :
    ∃ k names, normalSegments rooted segs = List.replicate k ['.', '.'] ++ names ∧
      (∀ n ∈ names, ¬ IsDots (String.ofList n)) ∧ (rooted = true → k = 0) := by
  have start : Kept rooted [] := ⟨[], 0, rfl, by simp, fun _ => rfl⟩
  obtain ⟨names, k, eq, plain, top⟩ := foldl_kept start segs
  refine ⟨k, names.reverse, ?_, ?_, top⟩
  · rw [normalSegments, eq, List.reverse_append, List.reverse_replicate]
  · intro n member
    rw [isDots_ofList]
    exact plain n (List.mem_reverse.1 member)

theorem mem_of_mem_normalSegments {rooted : Bool} {segs : List (List Char)} {seg : List Char}
    (member : seg ∈ normalSegments rooted segs) : seg ∈ segs := by
  have step : ∀ (segs kept : List (List Char)), seg ∈ segs.foldl (pushSegment rooted) kept →
      seg ∈ kept ∨ seg ∈ segs := by
    intro segs
    induction segs with
    | nil => exact fun kept inside => Or.inl inside
    | cons first rest ih =>
      intro kept inside
      rcases ih _ inside with inside | inside
      · rw [pushSegment.eq_def] at inside
        grind
      · exact Or.inr (List.mem_cons_of_mem _ inside)
  simpa using step segs [] (List.mem_reverse.1 member)

private theorem along_pushSegment {rooted : Bool} {kept : List (List Char)} (ok : Kept rooted kept)
    {here : Location} (top : rooted = true → here = []) (seg : List Char) :
    along here ((pushSegment rooted kept seg).reverse.map String.ofList) =
      along here (kept.reverse.map String.ofList ++ [String.ofList seg]) := by
  rw [pushSegment.eq_def]
  split
  · rename_i stay
    rw [Location.along_append, Location.along, if_pos (by rcases stay with rfl | rfl <;> simp), Location.along]
  · split
    · rename_i up
      subst up
      have isUp (place : Location) : along place [String.ofList ['.', '.']] = place.dropLast := by
        simp [Location.along]
      cases kept with
      | nil =>
        cases rooted with
        | true => simp [top rfl, Location.along]
        | false => simp
      | cons first rest =>
        by_cases again : first = ['.', '.']
        · simp [again]
        · -- the last segment kept is a name, so the step up takes it back
          have name : ¬ IsDots (String.ofList first) := by
            rw [isDots_ofList]
            obtain ⟨names, k, eq, plain, -⟩ := ok
            cases names with
            | nil =>
              cases k with
              | zero => simp at eq
              | succ k =>
                rw [List.nil_append, List.replicate_succ, List.cons.injEq] at eq
                exact absurd eq.1 again
            | cons n names =>
              rw [List.cons_append, List.cons.injEq] at eq
              exact eq.1 ▸ plain n (by simp)
          simp only [if_neg again]
          rw [Location.along_append, isUp, List.reverse_cons, List.map_append, List.map_singleton,
            Location.along_append, Location.along_name _ name, List.dropLast_concat]
    · simp

/-- Normalising the segments of a path keeps the location it leads to. -/
theorem along_normalSegments (rooted : Bool) (here : Location) (top : rooted = true → here = [])
    (segs : List (List Char)) :
    along here ((normalSegments rooted segs).map String.ofList) = along here (segs.map String.ofList) := by
  have step : ∀ (segs kept : List (List Char)), Kept rooted kept →
      along here ((segs.foldl (pushSegment rooted) kept).reverse.map String.ofList) =
        along here (kept.reverse.map String.ofList ++ segs.map String.ofList) := by
    intro segs
    induction segs with
    | nil => intro kept _; simp
    | cons seg segs ih =>
      intro kept ok
      rw [List.foldl_cons, ih _ (pushSegment_kept ok seg), Location.along_append,
        along_pushSegment ok top, ← Location.along_append]
      simp
  rw [normalSegments, step segs [] ⟨[], 0, rfl, by simp, fun _ => rfl⟩]
  rfl

private theorem joinSlash_nil_split (segs : List (List Char)) (whole : ∀ seg ∈ segs, '/' ∉ seg) :
    splitSlash (joinSlash segs) = if segs = [] then [[]] else segs := by
  split
  · rename_i none
    rw [none]
    rfl
  · rename_i some
    exact splitSlash_joinSlash some whole

theorem normalSegments_whole (rooted : Bool) (p : List Char) :
    ∀ seg ∈ normalSegments rooted (splitSlash p), '/' ∉ seg := fun _ member =>
  not_mem_of_mem_splitSlash (mem_of_mem_normalSegments member)

/-- The segments of a normalised path. -/
theorem splitSlash_cleanChars (p : List Char) :
    splitSlash (cleanChars p) =
      let segs := normalSegments (isRooted p) (splitSlash p)
      if isRooted p then [] :: (if segs = [] then [[]] else segs)
      else if segs = [] then [['.']] else segs := by
  have whole := normalSegments_whole (isRooted p) p
  unfold cleanChars
  dsimp only
  split
  · rw [splitSlash, if_pos rfl, joinSlash_nil_split _ whole]
  · split
    · rfl
    · rename_i some
      exact splitSlash_joinSlash some whole

private theorem ne_nil_of_mem_normalSegments {rooted : Bool} {segs : List (List Char)} {seg : List Char}
    (member : seg ∈ normalSegments rooted segs) : seg ≠ [] := by
  intro nil
  obtain ⟨k, names, eq, plain, -⟩ := normalSegments_shape rooted segs
  rw [eq, List.mem_append] at member
  rcases member with up | name
  · rw [nil] at up
    simp at up
  · exact plain seg name (Or.inl (by simp [nil]))

theorem cleanChars_ne_nil (p : List Char) : cleanChars p ≠ [] := by
  intro nil
  have segments := splitSlash_cleanChars p
  rw [nil] at segments
  dsimp only at segments
  split at segments
  · split at segments <;> simp_all [splitSlash]
  · split at segments
    · simp [splitSlash] at segments
    · have member : [] ∈ normalSegments (isRooted p) (splitSlash p) := by simp [← segments, splitSlash]
      exact ne_nil_of_mem_normalSegments member rfl

private theorem isRooted_joinSlash {segs : List (List Char)} (some : segs ≠ []) (nonempty : ∀ seg ∈ segs, seg ≠ [])
    (whole : ∀ seg ∈ segs, '/' ∉ seg) : isRooted (joinSlash segs) = false := by
  cases segs with
  | nil => exact absurd rfl some
  | cons seg segs =>
    cases seg with
    | nil => exact absurd rfl (nonempty [] (by simp))
    | cons c cs =>
      have notSlash : c ≠ '/' := fun eq => whole (c :: cs) (by simp) (by simp [eq])
      cases segs <;> simp [joinSlash, isRooted, notSlash]

theorem isRooted_cleanChars (p : List Char) : isRooted (cleanChars p) = isRooted p := by
  unfold cleanChars
  dsimp only
  split
  · rename_i rooted
    rw [rooted]
    rfl
  · rename_i relative
    rw [Bool.not_eq_true] at relative
    rw [relative]
    split
    · rfl
    · rename_i some
      exact isRooted_joinSlash some (fun _ => ne_nil_of_mem_normalSegments) (normalSegments_whole _ p)

private theorem foldl_names (rooted : Bool) (kept : List (List Char)) {names : List (List Char)}
    (plain : ∀ n ∈ names, ¬ Dots n) : names.foldl (pushSegment rooted) kept = names.reverse ++ kept := by
  induction names generalizing kept with
  | nil => rfl
  | cons n names ih =>
    have name := plain n (by simp)
    have push : pushSegment rooted kept n = n :: kept := by
      rw [pushSegment.eq_def, if_neg fun stay => name (stay.elim Or.inl fun dot => Or.inr (Or.inl dot)),
        if_neg fun up => name (Or.inr (Or.inr up))]
    rw [List.foldl_cons, push, ih _ fun m member => plain m (by simp [member])]
    simp

private theorem foldl_stays (rooted : Bool) (kept : List (List Char)) {stays : List (List Char)}
    (stay : ∀ s ∈ stays, s = [] ∨ s = ['.']) : stays.foldl (pushSegment rooted) kept = kept := by
  induction stays with
  | nil => rfl
  | cons s stays ih =>
    rw [List.foldl_cons, pushSegment.eq_def, if_pos (stay s (by simp))]
    exact ih fun t member => stay t (by simp [member])

/-- Without names, only steps up are kept. -/
theorem eq_up_of_mem_normalSegments {rooted : Bool} {ups : List (List Char)}
    (dots : ∀ s ∈ ups, IsDots (String.ofList s)) {s : List Char} (member : s ∈ normalSegments rooted ups) :
    s = ['.', '.'] := by
  obtain ⟨k, names, eq, plain, -⟩ := normalSegments_shape rooted ups
  rw [eq, List.mem_append] at member
  rcases member with up | name
  · exact List.eq_of_mem_replicate up
  · have kept : s ∈ normalSegments rooted ups := eq ▸ List.mem_append_right _ name
    have inside : s ∈ ups := mem_of_mem_normalSegments kept
    exact absurd (dots s inside) (plain s name)

/-- Names are kept as they stand, and what stays is dropped. -/
theorem normalSegments_append (rooted : Bool) (ups : List (List Char)) {names stays : List (List Char)}
    (plain : ∀ n ∈ names, ¬ IsDots (String.ofList n)) (stay : ∀ s ∈ stays, s = [] ∨ s = ['.']) :
    normalSegments rooted (ups ++ names ++ stays) = normalSegments rooted ups ++ names := by
  rw [normalSegments, List.foldl_append, List.foldl_append,
    foldl_names _ _ fun n member => (isDots_ofList n).not.1 (plain n member), foldl_stays _ _ stay,
    List.reverse_append, List.reverse_reverse]
  rfl

private theorem foldl_ups (k : Nat) :
    (List.replicate k ['.', '.']).foldl (pushSegment false) [] = List.replicate k ['.', '.'] := by
  induction k with
  | zero => rfl
  | succ k ih =>
    rw [List.replicate_succ', List.foldl_append, ih]
    cases k with
    | zero => rfl
    | succ k => simp [pushSegment, List.replicate_succ, ← List.replicate_succ']

/-- The beginning of a path may be normalised first. -/
theorem normalSegments_normal_append (rooted : Bool) (segs more : List (List Char)) :
    normalSegments rooted (normalSegments rooted segs ++ more) = normalSegments rooted (segs ++ more) := by
  have again : (normalSegments rooted segs).foldl (pushSegment rooted) [] = segs.foldl (pushSegment rooted) [] := by
    obtain ⟨k, names, eq, plain, top⟩ := normalSegments_shape rooted segs
    have kept : segs.foldl (pushSegment rooted) [] = names.reverse ++ List.replicate k ['.', '.'] := by
      have reversed := congrArg List.reverse eq
      simpa [normalSegments] using reversed
    have ups : (List.replicate k ['.', '.']).foldl (pushSegment rooted) [] = List.replicate k ['.', '.'] := by
      cases rooted with
      | true => rw [top rfl]; rfl
      | false => exact foldl_ups k
    rw [eq, List.foldl_append, ups, kept, foldl_names _ _ fun n member => (isDots_ofList n).not.1 (plain n member)]
  rw [normalSegments, List.foldl_append, again, ← List.foldl_append]
  rfl

theorem normalSegments_stays_append (rooted : Bool) {stays : List (List Char)} (stay : ∀ s ∈ stays, s = [] ∨ s = ['.'])
    (more : List (List Char)) : normalSegments rooted (stays ++ more) = normalSegments rooted more := by
  rw [normalSegments, List.foldl_append, foldl_stays _ _ stay]
  rfl

end Path

end Distill
