import Mathlib.Data.List.Infix
import Distill.Proofs.Glob.Expand

/-!
Patterns made of letters, `?`, `*` and `**` only, and the locations they stand for. A pattern is compared with a location
segment by segment (`covers`) and a segment with a name character by character (`fits`); neither looks at a disk. The
expansion of such a pattern picks the locations that it covers (`picks_iff_covers`).
-/
namespace Distill.Glob

/-- Whether a text fits the pattern of a name: `*` stands for any run of characters and `?` for one. -/
def fits : List Char → List Char → Bool
  | [], text => text.isEmpty
  | c :: pattern, text =>
    if c = '*' then text.tails.any (fits pattern)
    else match text with
      | [] => false
      | d :: rest => (c = '?' || c = d) && fits pattern rest

/-- Whether a location fits a pattern given by its segments: `**` stands for any number of names. -/
def covers : List (List Char) → Location → Bool
  | [], l => l.isEmpty
  | segment :: segments, l =>
    if segment = ['*', '*'] then l.tails.any (covers segments)
    else match l with
      | [] => false
      | name :: rest => fits segment name.toList && covers segments rest

/-- How a segment is read: three or more stars at its end stand for at least one character. -/
def spelled : List Char → List Char
  | [] => []
  | c :: rest => if c = '*' ∧ 2 ≤ rest.length ∧ rest.all (· = '*') then ['?', '*'] else c :: spelled rest

/-- A pattern without classes, braces and escapes. -/
def Simple (pattern : List Char) : Prop := ∀ c ∈ pattern, c ∉ ['\\', '[', '\x7b', '\x7d']

instance (pattern : List Char) : Decidable (Simple pattern) := List.decidableBAll _ pattern

theorem Simple.tail {c : Char} {rest : List Char} (simple : Simple (c :: rest)) : Simple rest :=
  fun d member => simple d (by simp [member])

section Atoms

/-- What an atom may leave of a text. -/
def Atom.Leaves : Atom → List Char → List Char → Prop
  | .many, text, rest => rest <:+ text
  | a, text, rest => ∃ c, text = c :: rest ∧ a.takes c = true

/-- Atoms can take all of a text. -/
def Take : List Atom → List Char → Prop
  | [], text => text = []
  | a :: as, text => ∃ rest, a.Leaves text rest ∧ Take as rest

/-- What may be left of one name: each text is a suffix of the ones before it. -/
def Nested (texts : List (List Char)) : Prop := texts.Pairwise fun longer shorter => shorter <:+ longer

theorem mem_suffixes (rest text : List Char) : rest ∈ suffixes text ↔ rest <:+ text := by
  induction text with
  | nil => simp [suffixes]
  | cons c text ih => rw [suffixes, List.mem_cons, ih, List.suffix_cons_iff]

theorem suffixes_nested (text : List Char) : Nested (suffixes text) := by
  induction text with
  | nil => exact List.pairwise_singleton _ _
  | cons c text ih =>
    refine List.pairwise_cons.2 ⟨fun rest member => ?_, ih⟩
    exact ((mem_suffixes rest text).1 member).trans (List.suffix_cons c text)

private theorem leaves_of_ne_many {a : Atom} (single : a ≠ .many) (texts : List (List Char)) :
    a.leaves texts = texts.filterMap fun
      | c :: rest => if a.takes c then some rest else none
      | [] => none := by
  cases a <;> first | rfl | exact absurd rfl single

private theorem leaves_iff_of_ne_many {a : Atom} (single : a ≠ .many) (text rest : List Char) :
    a.Leaves text rest ↔ ∃ c, text = c :: rest ∧ a.takes c = true := by
  cases a <;> first | rfl | exact absurd rfl single

/-- One atom leaves what it can leave of any of the texts. -/
theorem mem_leaves (a : Atom) {texts : List (List Char)} (nested : Nested texts) (rest : List Char) :
    rest ∈ a.leaves texts ↔ ∃ text ∈ texts, a.Leaves text rest := by
  by_cases star : a = .many
  · subst star
    cases texts with
    | nil => simp [Atom.leaves]
    | cons text texts =>
      -- what is left of a shorter text is also left of the longest one
      have longest := (List.pairwise_cons.1 nested).1
      change rest ∈ suffixes text ↔ ∃ t ∈ text :: texts, rest <:+ t
      rw [mem_suffixes, List.exists_mem_cons_iff]
      refine ⟨.inl, fun left => left.elim id ?_⟩
      rintro ⟨t, member, suffix⟩
      exact suffix.trans (longest t member)
  · rw [leaves_of_ne_many star, List.mem_filterMap]
    refine exists_congr fun text => and_congr_right fun _ => ?_
    rw [leaves_iff_of_ne_many star]
    cases text with
    | nil => simp
    | cons c text =>
      by_cases takes : a.takes c = true
      · simp only [if_pos takes, Option.some.injEq, List.cons.injEq]
        constructor
        · rintro rfl
          exact ⟨c, ⟨rfl, rfl⟩, takes⟩
        · rintro ⟨d, ⟨-, same⟩, -⟩
          exact same
      · simp only [if_neg takes, reduceCtorEq, false_iff, List.cons.injEq, not_exists, not_and]
        rintro d ⟨rfl, -⟩
        exact takes

theorem leaves_nested (a : Atom) {texts : List (List Char)} (nested : Nested texts) : Nested (a.leaves texts) := by
  by_cases star : a = .many
  · subst star
    cases texts with
    | nil => exact List.Pairwise.nil
    | cons text texts => exact suffixes_nested text
  · rw [leaves_of_ne_many star]
    refine List.Pairwise.filterMap _ ?_ nested
    intro longer shorter suffix r left r' left'
    cases longer with
    | nil => simp at left
    | cons c longer =>
      cases shorter with
      | nil => simp at left'
      | cons c' shorter =>
        obtain ⟨-, rfl⟩ := by simpa using left
        obtain ⟨-, rfl⟩ := by simpa using left'
        rcases List.suffix_cons_iff.1 suffix with same | suffix
        · exact (List.cons.inj same).2 ▸ List.suffix_rfl
        · exact (List.suffix_cons c' shorter).trans suffix

theorem foldl_leaves (as : List Atom) {texts : List (List Char)} (nested : Nested texts) :
    (as.foldl (fun texts a => a.leaves texts) texts).contains [] = true ↔ ∃ text ∈ texts, Take as text := by
  induction as generalizing texts with
  | nil => simp [Take]
  | cons a as ih =>
    rw [List.foldl_cons, ih (leaves_nested a nested)]
    constructor
    · rintro ⟨rest, left, taken⟩
      obtain ⟨text, member, leaves⟩ := (mem_leaves a nested rest).1 left
      exact ⟨text, member, rest, leaves, taken⟩
    · rintro ⟨text, member, rest, leaves, taken⟩
      exact ⟨rest, (mem_leaves a nested rest).2 ⟨text, member, leaves⟩, taken⟩

/-- A name matches atoms if they can take all of it. -/
theorem matchAtoms_iff (as : List Atom) (name : List Char) : matchAtoms as name = true ↔ Take as name := by
  rw [matchAtoms, foldl_leaves as (List.pairwise_singleton _ _)]
  simp

end Atoms

section Names

theorem fits_star (pattern text : List Char) :
    fits ('*' :: pattern) text = true ↔ ∃ rest, rest <:+ text ∧ fits pattern rest = true := by
  rw [fits.eq_def]
  dsimp only
  rw [if_pos rfl, List.any_eq_true]
  simp only [List.mem_tails]

/-- One star is as good as two. -/
theorem fits_star_star (pattern text : List Char) : fits ('*' :: '*' :: pattern) text = fits ('*' :: pattern) text := by
  rw [Bool.eq_iff_iff, fits_star, fits_star]
  constructor
  · rintro ⟨rest, suffix, fitting⟩
    obtain ⟨last, suffixLast, fitting⟩ := (fits_star pattern rest).1 fitting
    exact ⟨last, suffixLast.trans suffix, fitting⟩
  · rintro ⟨rest, suffix, fitting⟩
    exact ⟨rest, suffix, (fits_star pattern rest).2 ⟨rest, List.suffix_rfl, fitting⟩⟩

theorem fits_of_ne_star {c : Char} (letter : c ≠ '*') (pattern text : List Char) :
    fits (c :: pattern) text = true ↔ ∃ d rest, text = d :: rest ∧ (c = '?' ∨ c = d) ∧ fits pattern rest = true := by
  cases text with
  | nil => simp [fits, letter]
  | cons d rest => simp [fits, letter]

theorem spelled_of_ne_star {c : Char} (letter : c ≠ '*') (rest : List Char) : spelled (c :: rest) = c :: spelled rest := by
  rw [spelled, if_neg fun run => letter run.1]

private theorem spelled_star {rest : List Char} (more : rest.dropWhile (· = '*') ≠ []) :
    spelled ('*' :: rest) = '*' :: spelled rest := by
  rw [spelled, if_neg]
  rintro ⟨-, -, stars⟩
  exact more (List.dropWhile_eq_nil_iff.2 (List.all_eq_true.1 stars))

private theorem spelled_eq_nil {segment : List Char} : spelled segment = [] ↔ segment = [] := by
  cases segment with
  | nil => simp [spelled]
  | cons c rest => rw [spelled]; split <;> simp

private theorem of_spelled_eq_star {segment more : List Char} (eq : spelled segment = '*' :: more) :
    ∃ rest, segment = '*' :: rest ∧ spelled rest = more := by
  cases segment with
  | nil => cases eq
  | cons c rest =>
    rw [spelled] at eq
    split at eq
    · cases eq
    · rw [List.cons.injEq] at eq
      exact ⟨rest, by rw [eq.1], eq.2⟩

theorem spelled_eq_double {segment : List Char} : spelled segment = ['*', '*'] ↔ segment = ['*', '*'] := by
  constructor
  · intro double
    obtain ⟨rest, rfl, single⟩ := of_spelled_eq_star double
    obtain ⟨last, rfl, none⟩ := of_spelled_eq_star single
    rw [spelled_eq_nil.1 none]
  · rintro rfl
    decide

/-- A run of stars before something else is one star. -/
private theorem fits_dropWhile {rest : List Char} (more : rest.dropWhile (· = '*') ≠ []) (text : List Char) :
    fits ('*' :: spelled rest) text = fits ('*' :: spelled (rest.dropWhile (· = '*'))) text := by
  induction rest with
  | nil => exact absurd rfl more
  | cons c rest ih =>
    by_cases star : c = '*'
    · subst star
      rw [List.dropWhile_cons_of_pos (by simp)] at more ⊢
      rw [spelled_star more, fits_star_star, ih more]
    · rw [List.dropWhile_cons_of_neg (by simpa using star)]

private theorem take_many_iff (text : List Char) : Take [.many] text ↔ fits ['*'] text = true := by
  rw [fits_star]
  exact exists_congr fun rest => and_congr_right fun _ => by simp [Take, fits]

private theorem take_single {a : Atom} (single : a ≠ .many) (as : List Atom) (text : List Char) :
    Take (a :: as) text ↔ ∃ c rest, text = c :: rest ∧ a.takes c = true ∧ Take as rest := by
  constructor
  · rintro ⟨rest, leaves, taken⟩
    obtain ⟨c, eq, takes⟩ := (leaves_iff_of_ne_many single text rest).1 leaves
    exact ⟨c, rest, eq, takes, taken⟩
  · rintro ⟨c, rest, eq, takes, taken⟩
    exact ⟨rest, (leaves_iff_of_ne_many single text rest).2 ⟨c, eq, takes⟩, taken⟩

private theorem atomsFrom_letter {c : Char} (star : c ≠ '*') (one : c ≠ '?') (simple : c ∉ ['\\', '[', '\x7b', '\x7d'])
    (fuel : Nat) (rest : List Char) :
    atomsFrom (fuel + 1) (c :: rest) = (atomsFrom fuel rest).map (.literal c :: ·) := by
  rw [atomsFrom.eq_def]
  simp only [List.mem_cons, not_or] at simple
  split <;> grind

/-- The atoms of a simple segment take the names that fit it. -/
theorem atomsFrom_simple {fuel : Nat} {segment : List Char} (short : segment.length ≤ fuel) (simple : Simple segment) :
    ∃ as, atomsFrom fuel segment = some as ∧ ∀ text, Take as text ↔ fits (spelled segment) text = true := by
  induction fuel generalizing segment with
  | zero =>
    obtain rfl := List.length_eq_zero_iff.1 (Nat.le_zero.1 short)
    exact ⟨[], rfl, by simp [Take, spelled, fits]⟩
  | succ fuel ih =>
    cases segment with
    | nil => exact ⟨[], rfl, by simp [Take, spelled, fits]⟩
    | cons c rest =>
      have shortRest : rest.length ≤ fuel := by simpa using short
      have simpleRest := simple.tail
      by_cases star : c = '*'
      · subst star
        rw [atomsFrom]
        cases run : rest.dropWhile (· = '*') with
        | nil =>
          refine ⟨_, rfl, fun text => ?_⟩
          have stars : rest.all (· = '*') = true := List.all_eq_true.2 (List.dropWhile_eq_nil_iff.1 run)
          by_cases long : 2 ≤ rest.length
          · rw [if_pos long, spelled, if_pos ⟨rfl, long, stars⟩, take_single (by simp), fits_of_ne_star (by decide)]
            simp only [Atom.takes, take_many_iff, true_or, true_and]
          · rw [if_neg long, take_many_iff]
            match rest, stars, long with
            | [], _, _ => rfl
            | [d], stars, _ =>
              obtain rfl : d = '*' := by simpa using stars
              rw [spelled_eq_double.2 rfl, fits_star_star]
            | _ :: _ :: _, _, long => exact absurd (by simp) long
        | cons d tail =>
          have more : rest.dropWhile (· = '*') ≠ [] := by simp [run]
          have shortTail : (rest.dropWhile (· = '*')).length ≤ fuel :=
            (List.length_dropWhile_le _ rest).trans shortRest
          have simpleTail : Simple (rest.dropWhile (· = '*')) :=
            fun d member => simpleRest d ((List.dropWhile_suffix _).subset member)
          obtain ⟨as, eq, taken⟩ := ih shortTail simpleTail
          refine ⟨.many :: as, by rw [run] at eq; simp only [eq, Option.map_some], fun text => ?_⟩
          rw [spelled_star more, fits_dropWhile more, fits_star]
          exact exists_congr fun left => and_congr_right fun _ => taken left
      · obtain ⟨as, eq, taken⟩ := ih shortRest simpleRest
        by_cases one : c = '?'
        · subst one
          refine ⟨.one :: as, by rw [atomsFrom, eq]; rfl, fun text => ?_⟩
          rw [spelled_of_ne_star star, take_single (by simp), fits_of_ne_star star]
          simp only [Atom.takes, taken, true_or, true_and]
        · refine ⟨.literal c :: as, by rw [atomsFrom_letter star one (simple c (by simp)), eq]; rfl, fun text => ?_⟩
          rw [spelled_of_ne_star star, take_single (by simp), fits_of_ne_star star]
          simp only [Atom.takes, taken, one, false_or, decide_eq_true_eq, eq_comm (a := c)]

/-- A simple segment is matched by the names that fit it. -/
theorem matchName_simple {segment : List Char} (simple : Simple segment) (name : List Char) :
    matchName segment name = some (fits (spelled segment) name) := by
  obtain ⟨as, eq, taken⟩ := atomsFrom_simple le_rfl simple
  rw [matchName, atoms?, eq, Option.some.injEq, Bool.eq_iff_iff, matchAtoms_iff, taken]

end Names

section Segments

theorem hasWildcard_simple {segment : List Char} (simple : Simple segment) :
    hasWildcard segment = segment.any fun c => c = '*' || c = '?' := by
  induction segment with
  | nil => rfl
  | cons c rest ih =>
    have plain := simple c (by simp)
    simp only [List.mem_cons, not_or] at plain
    rw [List.any_cons, ← ih simple.tail, hasWildcard.eq_def]
    split <;> grind

/-- A simple segment without wildcards is a text that fits only itself. -/
theorem fits_of_letters {segment : List Char} (simple : Simple segment) (letters : hasWildcard segment = false) :
    spelled segment = segment ∧ ∀ text, fits segment text = true ↔ text = segment := by
  induction segment with
  | nil => simp [spelled, fits]
  | cons c rest ih =>
    rw [hasWildcard_simple simple, List.any_cons, Bool.or_eq_false_iff, ← hasWildcard_simple simple.tail] at letters
    obtain ⟨letter, lettersRest⟩ := letters
    have letter : c ≠ '*' ∧ c ≠ '?' := by simpa using letter
    obtain ⟨same, only⟩ := ih simple.tail lettersRest
    refine ⟨by rw [spelled_of_ne_star letter.1, same], fun text => ?_⟩
    rw [fits_of_ne_star letter.1]
    constructor
    · rintro ⟨d, left, rfl, mark | rfl, fitting⟩
      · exact absurd mark letter.2
      · rw [(only left).1 fitting]
    · rintro rfl
      exact ⟨c, rest, rfl, .inr rfl, (only rest).2 rfl⟩

theorem covers_double (segments : List (List Char)) (l : Location) :
    covers (['*', '*'] :: segments) l = true ↔ ∃ rest, rest <:+ l ∧ covers segments rest = true := by
  rw [covers.eq_def]
  dsimp only
  rw [if_pos rfl, List.any_eq_true]
  simp only [List.mem_tails]

theorem covers_single {segment : List Char} (single : segment ≠ ['*', '*']) (segments : List (List Char)) (l : Location) :
    covers (segment :: segments) l = true ↔
      ∃ name rest, l = name :: rest ∧ fits segment name.toList = true ∧ covers segments rest = true := by
  cases l with
  | nil => simp [covers, single]
  | cons name rest => simp [covers, single]

/-- Segments without wildcards are names to be found letter for letter. -/
theorem covers_letters {fixed : List (List Char)} (simple : ∀ s ∈ fixed, Simple s)
    (letters : ∀ s ∈ fixed, hasWildcard s = false) (segments : List (List Char)) (l : Location) :
    covers ((fixed ++ segments).map spelled) l = true ↔
      ∃ rest, l = fixed.map String.ofList ++ rest ∧ covers (segments.map spelled) rest = true := by
  induction fixed generalizing l with
  | nil => simp
  | cons s fixed ih =>
    obtain ⟨same, only⟩ := fits_of_letters (simple s (by simp)) (letters s (by simp))
    have single : s ≠ ['*', '*'] := by
      intro stars
      have none := letters s (by simp)
      rw [stars] at none
      cases none
    rw [List.cons_append, List.map_cons, same, covers_single single]
    simp only [ih (fun t member => simple t (by simp [member])) (fun t member => letters t (by simp [member])), only]
    constructor
    · rintro ⟨name, left, rfl, rfl, rest, rfl, covered⟩
      exact ⟨rest, by simp, covered⟩
    · rintro ⟨rest, rfl, covered⟩
      exact ⟨String.ofList s, fixed.map String.ofList ++ rest, by simp, by simp, rest, rfl, covered⟩

/-- Segments lead down through the names that fit them. -/
theorem follows_iff {segments : List (List Char)} (simple : ∀ s ∈ segments, Simple s) (some : ∀ s ∈ segments, s ≠ [])
    (here l : Location) :
    Follows segments here l ↔ ∃ rest, l = here ++ rest ∧ covers (segments.map spelled) rest = true := by
  induction segments generalizing here with
  | nil => simp [Follows, covers]
  | cons segment segments ih =>
    have ih := ih (fun s member => simple s (by simp [member])) (fun s member => some s (by simp [member]))
    rw [Follows, if_neg (some segment (by simp)), List.map_cons]
    by_cases double : segment = ['*', '*']
    · rw [if_pos double, double, spelled_eq_double.2 rfl]
      simp only [ih, covers_double]
      constructor
      · rintro ⟨down, rest, rfl, covered⟩
        exact ⟨down ++ rest, by simp, rest, List.suffix_append _ _, covered⟩
      · rintro ⟨whole, rfl, rest, ⟨down, rfl⟩, covered⟩
        exact ⟨down, rest, by simp, covered⟩
    · rw [if_neg double]
      simp only [ih, covers_single (mt spelled_eq_double.1 double), matchName_simple (simple segment (by simp)),
        Option.some.injEq]
      constructor
      · rintro ⟨name, fitting, rest, rfl, covered⟩
        exact ⟨name :: rest, by simp, name, rest, rfl, fitting, covered⟩
      · rintro ⟨whole, rfl, name, rest, rfl, fitting, covered⟩
        exact ⟨name, fitting, rest, by simp, covered⟩

/-- Without escapes, a pattern is cut at every slash. -/
theorem splitSegments_simple {pattern : List Char} (simple : Simple pattern) :
    splitSegments false pattern = Path.splitSlash pattern := by
  induction pattern with
  | nil => rfl
  | cons c rest ih =>
    have plain : c ≠ '\\' := fun escape => simple c (by simp) (by simp [escape])
    rw [splitSegments, Path.splitSlash, decide_eq_false plain, ih simple.tail]
    cases Path.splitSlash rest <;> simp

theorem unescape_simple {pattern : List Char} (simple : Simple pattern) : unescape pattern = pattern := by
  induction pattern with
  | nil => rfl
  | cons c rest ih =>
    have plain : c ≠ '\\' := fun escape => simple c (by simp) (by simp [escape])
    rw [unescape.eq_def]
    split
    · rename_i eq
      exact absurd (List.cons.inj eq).1 plain
    · rename_i eq
      rw [List.cons.injEq] at eq
      rw [← eq.1, ← eq.2, ih simple.tail]
    · rename_i eq
      cases eq

theorem any_splitSlash {f : Char → Bool} (slash : f '/' = false) (p : List Char) :
    p.any f = (Path.splitSlash p).any fun s => s.any f := by
  induction p with
  | nil => rfl
  | cons c rest ih =>
    rw [List.any_cons, ih, Path.splitSlash]
    split
    · rename_i here
      rw [here, slash]
      rfl
    · split
      · rename_i none
        exact absurd none (Path.splitSlash_ne_nil rest)
      · rename_i s ss eq
        rw [eq, List.any_cons, List.any_cons, List.any_cons, Bool.or_assoc]

theorem Simple.of_mem_splitSlash {pattern s : List Char} (simple : Simple pattern) (member : s ∈ Path.splitSlash pattern) :
    Simple s := by
  intro c inside
  have notSlash : c ≠ '/' := fun slash => Path.not_mem_of_mem_splitSlash member (slash ▸ inside)
  have found : pattern.any (· = c) = true := by
    rw [any_splitSlash (decide_eq_false notSlash.symm), List.any_eq_true]
    exact ⟨s, member, List.any_eq_true.2 ⟨c, inside, by simp⟩⟩
  obtain ⟨d, memberD, eq⟩ := List.any_eq_true.1 found
  exact simple c (of_decide_eq_true eq ▸ memberD)

/-- The wildcards of a pattern are those of its segments. -/
theorem hasWildcard_splitSlash {pattern : List Char} (simple : Simple pattern) :
    hasWildcard pattern = (Path.splitSlash pattern).any hasWildcard := by
  rw [hasWildcard_simple simple, any_splitSlash (by decide), Bool.eq_iff_iff, List.any_eq_true, List.any_eq_true]
  refine exists_congr fun s => and_congr_right fun member => ?_
  rw [hasWildcard_simple (simple.of_mem_splitSlash member)]

end Segments

section Patterns

/-- The segments of a normalised pattern; the dot has none. -/
def segments (pattern : List Char) : List (List Char) := if pattern = ['.'] then [] else Path.splitSlash pattern

theorem directLocation?_joinSlash {ss : List (List Char)} (some : ss ≠ [])
    (named : ∀ s ∈ ss, isName (String.ofList s) = true) :
    directLocation? (Path.joinSlash ss) = .some (ss.map String.ofList) := by
  have whole : ∀ s ∈ ss, '/' ∉ s := fun s member => by
    simpa using Path.slash_not_mem_of_isName (named s member)
  have split := Path.splitSlash_joinSlash some whole
  have notDot : Path.joinSlash ss ≠ ['.'] := by
    intro dot
    rw [dot] at split
    exact absurd (named ['.'] (split ▸ by decide)) (by decide)
  have names : Path.pieces (String.ofList (Path.joinSlash ss)) = ss.map String.ofList := by
    rw [Path.pieces, String.toList_ofList, split]
  rw [directLocation?, if_neg notDot, names, if_pos]
  simpa using named

/-- A simple pattern whose segments can be names picks the locations that it covers. -/
theorem picks_iff_covers {pattern : List Char} (simple : Simple pattern)
    (named : ∀ s ∈ segments pattern, isName (String.ofList s) = true) (l : Location) :
    Picks pattern l ↔ covers ((segments pattern).map spelled) l = true := by
  by_cases dot : pattern = ['.']
  · subst dot
    have picks : Picks ['.'] l ↔ [] = l := by simp [Picks, hasWildcard, unescape, directLocation?]
    rw [picks, eq_comm]
    simp [segments, covers]
  · rw [segments, if_neg dot] at named ⊢
    have simpleAll : ∀ s ∈ Path.splitSlash pattern, Simple s := fun s => simple.of_mem_splitSlash
    rw [Picks, splitSegments_simple simple, unescape_simple simple]
    dsimp only
    by_cases wild : hasWildcard pattern = true
    · rw [if_pos wild]
      obtain ⟨rest, parts⟩ := List.takeWhile_prefix (l := Path.splitSlash pattern) fun s => !hasWildcard s
      have letters : ∀ s ∈ (Path.splitSlash pattern).takeWhile (fun s => !hasWildcard s), hasWildcard s = false :=
        fun s member => by simpa using List.mem_takeWhile_imp member
      generalize (Path.splitSlash pattern).takeWhile (fun s => !hasWildcard s) = fixed at parts letters ⊢
      rw [← parts, List.forall_mem_append] at named simpleAll
      have start : (if fixed = [] then some [] else directLocation? (Path.joinSlash fixed)) =
          some (fixed.map String.ofList) := by
        by_cases none : fixed = []
        · rw [if_pos none, none]
          rfl
        · rw [if_neg none, directLocation?_joinSlash none named.1]
      have nonempty : ∀ s ∈ rest, s ≠ [] := fun s member empty => by
        have name := named.2 s member
        rw [empty] at name
        exact absurd name (by decide)
      rw [start, ← parts, List.drop_left, covers_letters simpleAll.1 letters]
      simp only [Option.some.injEq, exists_eq_left', follows_iff simpleAll.2 nonempty]
    · have letters : ∀ s ∈ Path.splitSlash pattern, hasWildcard s = false := by
        simpa [hasWildcard_splitSlash simple] using wild
      have direct := directLocation?_joinSlash (Path.splitSlash_ne_nil pattern) named
      have covered := covers_letters simpleAll letters [] l
      rw [Path.joinSlash_splitSlash] at direct
      rw [List.append_nil] at covered
      rw [if_neg wild, direct, covered, Option.some.injEq]
      constructor
      · rintro rfl
        exact ⟨[], by simp, rfl⟩
      · rintro ⟨rest, rfl, none⟩
        have none : rest = [] := by simpa [covers] using none
        rw [none, List.append_nil]

theorem Simple.joinSlash {ss : List (List Char)} (simple : ∀ s ∈ ss, Simple s) : Simple (Path.joinSlash ss) := by
  induction ss with
  | nil => simp [Simple, Path.joinSlash]
  | cons s ss ih =>
    have rest := ih fun t member => simple t (by simp [member])
    by_cases none : ss = []
    · subst none
      exact simple s (by simp)
    · rw [Path.joinSlash_cons s none]
      intro c member
      rcases List.mem_append.1 member with member | member
      · exact simple s (by simp) c member
      · rcases List.mem_cons.1 member with rfl | member
        · decide
        · exact rest c member

/-- Normalising a pattern adds no character but slashes and the dot. -/
theorem Simple.clean {pattern : List Char} (simple : Simple pattern) : Simple (Path.cleanChars pattern) := by
  have joined : Simple (Path.joinSlash (Path.normalSegments (Path.isRooted pattern) (Path.splitSlash pattern))) :=
    .joinSlash fun s member => simple.of_mem_splitSlash (Path.mem_of_mem_normalSegments member)
  rw [Path.cleanChars]
  split
  · intro c member
    rcases List.mem_cons.1 member with rfl | member
    · decide
    · exact joined c member
  · split
    · decide
    · exact joined

/-- A simple pattern is plain. -/
theorem Simple.plain {pattern : List Char} (simple : Simple pattern) : Plain pattern := by
  refine ⟨fun member => simple _ member (by simp), fun s member => ?_⟩
  rw [splitSegments_simple simple] at member
  obtain ⟨as, eq, -⟩ := atomsFrom_simple le_rfl (simple.of_mem_splitSlash member)
  rw [atoms?, eq]
  rfl

end Patterns

end Distill.Glob
