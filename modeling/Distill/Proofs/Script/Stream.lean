import Distill.Script.Stream
import Distill.Proofs.Script.Token

/-!
What a stream of tokens shows of a text that was laid out as tokens with blanks between them: those tokens in that order,
and then the end (`shows_ofText`).
-/
namespace Distill.Script

/-- A token with the blanks in front of it. -/
structure Lexeme where
  before : List Char
  token : Token

def Lexeme.chars (l : Lexeme) : List Char := l.before ++ l.token.text.toList

/-- The text of some tokens, with the blanks in front of them. -/
def layout (ls : List Lexeme) : List Char := ls.flatMap Lexeme.chars

/-- A token that is found again, and that also separates what stands in front of it from the rest. -/
structure Lexeme.Readable (l : Lexeme) : Prop where
  stable : l.token.Stable
  blank : ∀ c ∈ l.before, c = ' ' ∨ c = '\n'
  separates : l.before ≠ [] ∨ l.token.text ∈ [",", ";", "\x7d"]

/-- A stream at the first of some tokens, with the others after it. No comment was kept, and there are as many characters
as tokens. -/
def Stream.Shows : Stream → List Token → Prop
  | _, [] => True
  | s, t :: ts => s.token = t ∧ s.notices = [] ∧ ts.length ≤ s.remaining ∧ s.advance.Shows ts

/-- The end of a text. -/
def Token.finish : Token := ⟨.finish, ""⟩

section Gaps

variable {blanks cs : List Char} {g : Gap} {fuel : Nat}

/-- A text that does not start with a gap. -/
def Solid (cs : List Char) : Prop := ∀ c ∈ cs.head?, startsGap c = false

theorem Solid.startsWith_eq (solid : Solid cs) {pattern : String} {c : Char} {more : List Char}
    (head : pattern.toList = c :: more) (gap : startsGap c = true) : startsWith pattern cs = false := by
  rw [startsWith, head]
  cases cs with
  | nil => rfl
  | cons d cs =>
    have other : c ≠ d := by
      rintro rfl
      rw [solid c rfl] at gap
      cases gap
    rw [List.isPrefixOf, beq_eq_false_iff_ne.2 other, Bool.false_and]

theorem skipGap_solid (solid : Solid g.rest.chars) : skipGap fuel g = g := by
  have other : ∀ c rest, g.rest.chars = c :: rest → startsGap c = false := by
    intro c rest text
    exact solid c (by rw [text]; rfl)
  cases fuel with
  | zero => rfl
  | succ fuel =>
    rw [skipGap]
    dsimp only
    split
    · rename_i text
      cases other _ _ text
    · rename_i text
      cases other _ _ text
    · rename_i text
      cases other _ _ text
    · rename_i c rest _ _ _ text
      have noGap := other c rest text
      rw [startsGap, Text.isBlank, Bool.or_eq_false_iff, Bool.or_eq_false_iff] at noGap
      rw [if_neg (by rw [noGap.1.1]; decide), if_neg (by rw [noGap.1.2]; decide), solid.startsWith_eq rfl (by decide),
        Bool.and_false, if_neg (by decide)]
    · rfl

theorem skipGap_blank (fuel : Nat) {c : Char} (text : g.rest.chars = c :: cs) (blank : c = ' ' ∨ c = '\n') :
    ∃ g', skipGap (fuel + 1) g = skipGap fuel g' ∧ g'.rest.chars = cs ∧ g'.notices = g.notices ∧ g'.closed = g.closed := by
  have dropped : (g.rest.drop 1).chars = cs := by rw [Text.Remainder.chars_drop, text, List.drop_one, List.tail_cons]
  rcases blank with rfl | rfl
  · refine ⟨{ g with rest := g.rest.drop 1 }, ?_, dropped, rfl, rfl⟩
    rw [skipGap, text]
    rfl
  · refine ⟨{ g with newline := true, atStart := true, rest := g.rest.drop 1 }, ?_, dropped, rfl, rfl⟩
    rw [skipGap, text]
    rfl

theorem skipGap_blanks (blank : ∀ c ∈ blanks, c = ' ' ∨ c = '\n') (solid : Solid cs)
    (text : g.rest.chars = blanks ++ cs) (enough : blanks.length < fuel) :
    (skipGap fuel g).rest.chars = cs ∧ (skipGap fuel g).notices = g.notices ∧ (skipGap fuel g).closed = g.closed := by
  induction blanks generalizing fuel g with
  | nil =>
    rw [skipGap_solid (by rw [text]; exact solid)]
    exact ⟨text, rfl, rfl⟩
  | cons c blanks ih =>
    obtain ⟨fuel, rfl⟩ := Nat.exists_eq_add_one.2 (Nat.zero_lt_of_lt enough)
    obtain ⟨g', skipped, rest, notices, closed⟩ := skipGap_blank fuel text (blank c (by simp))
    obtain ⟨restEnd, noticesEnd, closedEnd⟩ :=
      ih (fun d member => blank d (by simp [member])) rest (Nat.lt_of_succ_lt_succ enough)
    rw [skipped]
    exact ⟨restEnd, noticesEnd.trans notices, closedEnd.trans closed⟩

/-- The gap in front of a text is the blanks there. -/
theorem gap_blanks (blank : ∀ c ∈ blanks, c = ' ' ∨ c = '\n') (solid : Solid cs) {text : Text.Remainder}
    (chars : text.chars = blanks ++ cs) (atStart : Bool) :
    (gap atStart text).rest.chars = cs ∧ (gap atStart text).notices = [] ∧ (gap atStart text).closed = true :=
  skipGap_blanks blank solid chars (by rw [text.length_eq, chars, List.length_append]; omega)

end Gaps

section Streams

variable {s : Stream} {l : Lexeme} {ls : List Lexeme} {t : Token} {blanks cs : List Char}

theorem Token.Stable.solid (stable : t.Stable) (cs : List Char) : Solid (t.text.toList ++ cs) := by
  obtain ⟨c, rest, text, solid⟩ := stable.starts
  intro d head
  rw [text] at head
  obtain rfl : c = d := Option.some.inj head
  exact solid

/-- A stream with some text after its token. -/
structure Stream.Ahead (s : Stream) (cs : List Char) : Prop where
  rest : s.rest.chars = cs
  notices : s.notices = []
  plain : s.token.kind ≠ .number
  openings : Opening.substitution ∉ s.openings

theorem openAfter_plain (stable : t.Stable) {openings : List Opening} (plain : Opening.substitution ∉ openings) :
    Opening.substitution ∉ openAfter t openings := by
  have dropped : Opening.substitution ∉ openings.drop 1 := fun member => plain (List.mem_of_mem_drop member)
  rw [openAfter]
  rcases stable.kind with kind | kind | kind
  · simpa only [kind] using plain
  · simpa only [kind] using plain
  · simp only [kind]
    split
    · simpa using plain
    · split
      · exact dropped
      · exact plain

theorem scanned_stable (stable : t.Stable) (delimited : Delimited cs) {g : Gap} (closed : g.closed = true)
    (text : g.rest.chars = t.text.toList ++ cs) {openings : List Opening} (plain : Opening.substitution ∉ openings) :
    g.scanned openings = ⟨t, t.text.length⟩ := by
  have outside : openings.head? ≠ some .substitution := fun head => plain (List.mem_of_mem_head? head)
  rw [Gap.scanned, if_pos closed, scanInside, text, stable.scan_append cs delimited, if_neg fun both => outside both.1]

/-- What is ahead once a token was found after a gap. -/
theorem ahead_of_found (stable : t.Stable) {g : Gap} (text : g.rest.chars = t.text.toList ++ cs) {newline : Bool}
    {notices : List String} (none : notices = []) {openings : List Opening} (plain : Opening.substitution ∉ openings) :
    (Stream.mk t newline notices (openAfter t openings) (g.rest.drop t.text.length)).Ahead cs := by
  refine ⟨?_, none, ?_, openAfter_plain stable plain⟩
  · rw [Text.Remainder.chars_drop, text, ← String.length_toList, List.drop_left]
  · rcases stable.kind with kind | kind | kind <;> simp [kind]

theorem Stream.Ahead.advance (ahead : s.Ahead (l.chars ++ cs)) (readable : l.Readable) (delimited : Delimited cs) :
    s.advance.token = l.token ∧ s.advance.Ahead cs := by
  have chars : s.rest.chars = l.before ++ (l.token.text.toList ++ cs) := by
    rw [ahead.rest, Lexeme.chars, List.append_assoc]
  obtain ⟨rest, notices, closed⟩ := gap_blanks readable.blank (readable.stable.solid cs) chars false
  have found := scanned_stable readable.stable delimited closed rest ahead.openings
  have noNumber : ¬ (s.token.kind = .number ∧ l.token.kind = .word ∧ (gap false s.rest).rest.length = s.rest.length) :=
    fun both => ahead.plain both.1
  rw [Stream.advance]
  dsimp only
  rw [found, if_neg noNumber]
  exact ⟨rfl, ahead_of_found readable.stable rest (by rw [ahead.notices, notices]; rfl) ahead.openings⟩

theorem Stream.Ahead.advance_finish (ahead : s.Ahead blanks) (blank : ∀ c ∈ blanks, c = ' ' ∨ c = '\n') :
    s.advance.token = .finish ∧ s.advance.notices = [] := by
  have chars : s.rest.chars = blanks ++ [] := by rw [ahead.rest, List.append_nil]
  obtain ⟨rest, notices, closed⟩ := gap_blanks blank (fun c none => by cases none) chars false
  have found : (gap false s.rest).scanned s.openings = ⟨.finish, 0⟩ := by
    rw [Gap.scanned, if_pos closed, rest, scanInside, if_neg fun both => absurd both.2 (by decide)]
    rfl
  rw [Stream.advance]
  dsimp only
  rw [found, if_neg fun both => ahead.plain both.1]
  refine ⟨rfl, ?_⟩
  rw [ahead.notices, notices]
  rfl

theorem delimited_layout (readable : ∀ l ∈ ls, l.Readable) : Delimited (layout ls ++ ['\n']) := by
  intro c head
  cases ls with
  | nil =>
    obtain rfl : '\n' = c := Option.some.inj head
    decide
  | cons l ls =>
    have readable := readable l (by simp)
    rw [layout, List.flatMap_cons, Lexeme.chars] at head
    cases before : l.before with
    | cons d before =>
      rw [before] at head
      obtain rfl : d = c := Option.some.inj head
      rcases readable.blank d (by simp [before]) with rfl | rfl <;> decide
    | nil =>
      rw [before] at head
      have mark := readable.separates.resolve_left (fun some => some before)
      simp only [List.mem_cons, List.not_mem_nil, or_false] at mark
      rcases mark with text | text | text <;> rw [text] at head <;> obtain rfl := Option.some.inj head <;> decide

theorem length_le_layout (readable : ∀ l ∈ ls, l.Readable) : ls.length ≤ (layout ls).length := by
  induction ls with
  | nil => exact Nat.le_refl 0
  | cons l ls ih =>
    have rest := ih fun l member => readable l (by simp [member])
    obtain ⟨c, more, text, -⟩ := (readable l (by simp)).stable.starts
    rw [layout, List.flatMap_cons, ← layout, Lexeme.chars, text]
    simp only [List.length_append, List.length_cons]
    omega

/-- There are more characters from a token on than tokens after it. -/
theorem Stream.Ahead.length_le (ahead : s.Ahead (layout ls ++ ['\n'])) (readable : ∀ l ∈ ls, l.Readable) :
    (ls.map Lexeme.token ++ [Token.finish]).length ≤ s.remaining := by
  have chars := length_le_layout readable
  rw [Stream.remaining, s.rest.length_eq, ahead.rest]
  simp only [List.length_append, List.length_map, List.length_cons, List.length_nil]
  omega

theorem Stream.Ahead.shows_advance (ahead : s.Ahead (layout ls ++ ['\n'])) (readable : ∀ l ∈ ls, l.Readable) :
    s.advance.Shows (ls.map Lexeme.token ++ [.finish]) := by
  induction ls generalizing s with
  | nil =>
    obtain ⟨token, notices⟩ := ahead.advance_finish (by simp [layout])
    exact ⟨token, notices, Nat.zero_le _, trivial⟩
  | cons l ls ih =>
    have readableRest : ∀ l ∈ ls, l.Readable := fun l member => readable l (by simp [member])
    rw [layout, List.flatMap_cons, ← layout, List.append_assoc] at ahead
    obtain ⟨token, next⟩ := ahead.advance (readable l (by simp)) (delimited_layout readableRest)
    exact ⟨token, next.notices, next.length_le readableRest, ih next readableRest⟩

theorem ahead_ofText (stable : t.Stable) (delimited : Delimited cs) :
    (Stream.ofText (t.text.toList ++ cs)).token = t ∧ (Stream.ofText (t.text.toList ++ cs)).Ahead cs := by
  have solid := stable.solid cs
  have noInterpreter : interpreterLength (t.text.toList ++ cs) = 0 := by
    rw [interpreterLength, solid.startsWith_eq rfl (by decide), if_neg (by decide)]
  have chars : (Text.Remainder.ofList (t.text.toList ++ cs)).chars = [] ++ (t.text.toList ++ cs) := rfl
  obtain ⟨rest, notices, closed⟩ := gap_blanks (by simp) solid chars true
  have found : (gap true (.ofList (t.text.toList ++ cs))).scanned [] = ⟨t, t.text.length⟩ :=
    scanned_stable stable delimited closed rest (by simp)
  rw [Stream.ofText, noInterpreter, List.drop_zero]
  dsimp only
  rw [found]
  exact ⟨rfl, ahead_of_found stable rest (by rw [notices]; rfl) (by simp)⟩

/-- The stream of a text that was laid out shows its tokens and then the end. -/
theorem shows_ofText (stable : t.Stable) (readable : ∀ l ∈ ls, l.Readable) :
    (Stream.ofText (t.text.toList ++ (layout ls ++ ['\n']))).Shows (t :: (ls.map Lexeme.token ++ [.finish])) := by
  obtain ⟨token, ahead⟩ := ahead_ofText stable (delimited_layout readable)
  exact ⟨token, ahead.notices, ahead.length_le readable, ahead.shows_advance readable⟩

end Streams

section Found

/-- A token whose text is a word or a string if its kind says so. -/
structure Token.Sound (t : Token) : Prop where
  word : t.kind = .word → IsWord t.text.toList
  string : t.kind = .string → IsString t.text.toList

theorem scanContinuation_sound (cs : List Char) : (scanContinuation cs).token.Sound := by
  obtain ⟨noWord, noString⟩ := scanTemplate_kind cs
  rw [scanContinuation]
  split
  · exact ⟨nofun, nofun⟩
  · exact ⟨nofun, nofun⟩
  · exact ⟨fun word => absurd word noWord, fun string => absurd string noString⟩

theorem scanned_sound (g : Gap) (openings : List Opening) : (g.scanned openings).token.Sound := by
  rw [Gap.scanned]
  split
  · rw [scanInside]
    split
    · exact scanContinuation_sound _
    · exact ⟨isWord_of_scan, isString_of_scan⟩
  · exact ⟨nofun, nofun⟩

/-- What a stream goes on to is sound, whatever it was at. -/
theorem sound_advance (s : Stream) : s.advance.token.Sound := by
  rw [Stream.advance]
  dsimp only
  split
  · exact ⟨nofun, nofun⟩
  · exact scanned_sound _ _

end Found

end Distill.Script
