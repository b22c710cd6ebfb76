import Distill.Script.Token
import Mathlib.Data.List.TakeWhile

/-!
Tokens that the scanner finds again when their text is written down somewhere else, in front of something that separates
them from what follows (`Token.Stable`). The words and the strings that the scanner finds are such tokens
(`isWord_of_scan`, `isString_of_scan`), whatever followed them where they were found.
-/
namespace Distill

namespace Text

/-- Whether a range of codes has nothing in common with some others. -/
def isApart (ranges : Array (Nat × Nat)) (low high : Nat) : Bool := ranges.toList.all fun r => r.2 < low || high < r.1

theorem isIn_of_isApart {ranges : Array (Nat × Nat)} {low high : Nat} {c : Char} (apart : isApart ranges low high = true)
    (lower : low ≤ c.toNat) (upper : c.toNat ≤ high) : isIn ranges c = false := by
  rw [isIn, ← Array.any_toList, List.any_eq_false]
  intro r member
  have outside := List.all_eq_true.1 apart r member
  simp only [Bool.or_eq_true, decide_eq_true_eq] at outside
  simp only [Bool.and_eq_true, decide_eq_true_eq]
  omega

/-- The blanks and line ends beyond ASCII. -/
def blankRanges : List (Nat × Nat) :=
  [(0xa0, 0xa0), (0x1680, 0x1680), (0x2000, 0x200a), (0x2028, 0x2029), (0x202f, 0x202f), (0x205f, 0x205f),
    (0x3000, 0x3000), (0xfeff, 0xfeff)]

theorem blankRanges_isApart : ∀ r ∈ blankRanges, isApart letterRanges r.1 r.2 = true ∧
    isApart letterNumberRanges r.1 r.2 = true ∧ isApart otherStartRanges r.1 r.2 = true := by
  decide +kernel

/-- Blanks and line ends. -/
def isBlank (c : Char) : Bool := isSpace c || isLineEnd c

theorem isBlank_cases {c : Char} (blank : isBlank c = true) :
    c.toNat ≤ 0x20 ∨ ∃ r ∈ blankRanges, r.1 ≤ c.toNat ∧ c.toNat ≤ r.2 := by
  simp only [isBlank, isSpace, isLineEnd, Bool.or_eq_true, Bool.and_eq_true, decide_eq_true_eq, ← Char.toNat_inj,
    Char.reduceToNat] at blank
  simp only [blankRanges, List.mem_cons, List.not_mem_nil, or_false, exists_eq_or_imp, exists_eq_left]
  omega

/-- What starts an identifier is neither a blank nor a line end. -/
theorem isBlank_of_startsIdentifier {c : Char} (starts : startsIdentifier c = true) : isBlank c = false := by
  rw [Bool.eq_false_iff]
  intro blank
  rcases isBlank_cases blank with low | ⟨r, member, lower, upper⟩
  · have control : ∀ n ≤ 0x20, startsIdentifier (Char.ofNat n) = false := by decide +kernel
    rw [← Char.ofNat_toNat c, control _ low] at starts
    cases starts
  · obtain ⟨letters, numbers, others⟩ := blankRanges_isApart r member
    have beyond : ¬ c.toNat < 0x80 := by
      have above : ∀ r ∈ blankRanges, 0x80 ≤ r.1 := by decide
      exact Nat.not_lt.2 (Nat.le_trans (above r member) lower)
    rw [startsIdentifier, if_neg beyond, isIn_of_isApart letters lower upper, isIn_of_isApart numbers lower upper,
      isIn_of_isApart others lower upper] at starts
    cases starts

end Text

namespace Script

/-- What follows a token that it cannot run into: nothing, a blank, a comma, a semicolon or a closing brace. -/
def Delimited (cs : List Char) : Prop := ∀ c ∈ cs.head?, c ∈ [' ', '\n', ',', ';', '\x7d']

section Words

variable {cs e w : List Char} {c : Char} {fuel : Nat}

abbrev isHex (c : Char) : Bool := (Text.hexValue? c).isSome

/-- An escaped character of a word. -/
inductive Escape : List Char → Prop
  | braced {digits : List Char} (some : digits ≠ []) (hex : ∀ c ∈ digits, isHex c = true) :
    Escape ('\\' :: 'u' :: '\x7b' :: (digits ++ ['\x7d']))
  | four {digits : List Char} (length : digits.length = 4) (hex : ∀ c ∈ digits, isHex c = true) :
    Escape ('\\' :: 'u' :: digits)

theorem Escape.head (escape : Escape e) : ∃ rest, e = '\\' :: rest := by
  cases escape <;> exact ⟨_, rfl⟩

theorem escapeLength_braced (rest : List Char) : escapeLength ('\\' :: 'u' :: '\x7b' :: rest) =
    if rest.takeWhile isHex ≠ [] ∧ (rest.drop (rest.takeWhile isHex).length).head? = some '\x7d' then
      (rest.takeWhile isHex).length + 4
    else 0 := rfl

theorem escapeLength_four {rest : List Char} (unbraced : rest.head? ≠ some '\x7b') :
    escapeLength ('\\' :: 'u' :: rest) = if ((rest.take 4).takeWhile isHex).length = 4 then 6 else 0 := by
  rw [escapeLength]
  rintro more rfl
  exact unbraced rfl

theorem Escape.escapeLength_append (escape : Escape e) (cs : List Char) : escapeLength (e ++ cs) = e.length := by
  cases escape with
  | @braced digits some hex =>
    have taken : (digits ++ '\x7d' :: cs).takeWhile isHex = digits := by
      rw [List.takeWhile_append_of_pos hex, List.takeWhile_cons_of_neg (by decide), List.append_nil]
    rw [List.cons_append, List.cons_append, List.cons_append, List.append_assoc, List.singleton_append,
      escapeLength_braced, taken, if_pos ⟨some, by simp⟩]
    simp
  | @four digits length hex =>
    have unbraced : (digits ++ cs).head? ≠ some '\x7b' := by
      obtain ⟨c, rest, rfl⟩ := List.exists_cons_of_length_eq_add_one length
      intro brace
      obtain rfl : c = '\x7b' := by simpa using brace
      exact absurd (hex '\x7b' (by simp)) (by decide)
    have taken : ((digits ++ cs).take 4).takeWhile isHex = digits := by
      rw [List.take_left' length, List.takeWhile_eq_self_iff.2 hex]
    rw [List.cons_append, List.cons_append, escapeLength_four unbraced, taken, if_pos length]
    simp [length]

theorem escapeLength_shape (found : escapeLength cs ≠ 0) : ∃ rest, cs = '\\' :: 'u' :: rest := by
  rw [escapeLength.eq_def] at found
  split at found
  · exact ⟨_, rfl⟩
  · exact ⟨_, rfl⟩
  · exact absurd rfl found

/-- Where the scanner sees an escaped character there is one. -/
theorem escape_take (found : escapeLength cs ≠ 0) : Escape (cs.take (escapeLength cs)) := by
  obtain ⟨rest, rfl⟩ := escapeLength_shape found
  by_cases brace : rest.head? = some '\x7b'
  · obtain ⟨rest, rfl⟩ := List.head?_eq_some_iff.1 brace
    rw [escapeLength_braced] at found ⊢
    split at found
    · rename_i closed
      obtain ⟨more, close⟩ := List.head?_eq_some_iff.1 closed.2
      have taken : rest.take ((rest.takeWhile isHex).length + 1) = rest.takeWhile isHex ++ ['\x7d'] := by
        rw [List.take_add, ← List.prefix_iff_eq_take.1 (List.takeWhile_prefix isHex), close]
        rfl
      rw [if_pos closed, List.take_succ_cons, List.take_succ_cons, List.take_succ_cons, taken]
      exact .braced closed.1 fun c => List.mem_takeWhile_imp
    · exact absurd rfl found
  · rw [escapeLength_four brace] at found ⊢
    split at found
    · rename_i length
      have whole : (rest.take 4).takeWhile isHex = rest.take 4 :=
        (List.takeWhile_prefix isHex).eq_of_length_le (by rw [length]; exact List.length_take_le 4 rest)
      rw [if_pos length, List.take_succ_cons, List.take_succ_cons]
      rw [whole] at length
      exact .four length fun c member => List.mem_takeWhile_imp (whole ▸ member)
    · exact absurd rfl found

/-- The characters that go on a word. -/
inductive WordRest : List Char → Prop
  | nil : WordRest []
  | plain {c : Char} {w : List Char} (part : Text.isIdentifierPart c = true) (rest : WordRest w) : WordRest (c :: w)
  | escape {e w : List Char} (escape : Escape e) (rest : WordRest w) : WordRest (e ++ w)

/-- The characters of a word. -/
inductive IsWord : List Char → Prop
  | plain {c : Char} {w : List Char} (starts : Text.startsIdentifier c = true) (rest : WordRest w) : IsWord (c :: w)
  | escape {e w : List Char} (escape : Escape e) (rest : WordRest w) : IsWord (e ++ w)

theorem isIdentifierPart_of_startsIdentifier (starts : Text.startsIdentifier c = true) :
    Text.isIdentifierPart c = true := by
  rw [Text.isIdentifierPart, starts, Bool.true_or, Bool.true_or]

theorem IsWord.wordRest (word : IsWord w) : WordRest w := by
  cases word with
  | plain starts rest => exact .plain (isIdentifierPart_of_startsIdentifier starts) rest
  | escape escape rest => exact .escape escape rest

theorem wordLengthWith_plain (part : Text.isIdentifierPart c = true) :
    wordLengthWith (fuel + 1) (c :: cs) = wordLengthWith (fuel + 1) cs + 1 := by
  simp only [wordLengthWith, List.takeWhile_cons_of_pos part, List.length_cons, List.drop_succ_cons,
    Nat.add_right_comm _ 1]
  split
  · rfl
  · omega

theorem wordLengthWith_escape (none : cs.takeWhile Text.isIdentifierPart = []) :
    wordLengthWith (fuel + 1) cs =
      if escapeLength cs = 0 then 0 else escapeLength cs + wordLengthWith fuel (cs.drop (escapeLength cs)) := by
  simp only [wordLengthWith, none, List.length_nil, List.drop_zero, Nat.zero_add]

theorem wordRest_take (fuel : Nat) (cs : List Char) : WordRest (cs.take (wordLengthWith fuel cs)) := by
  -- the outer induction counts the escaped characters, the inner one is on the plain ones in between
  induction fuel generalizing cs with
  | zero => exact .nil
  | succ fuel ih =>
    induction cs with
    | nil =>
      rw [List.take_nil]
      exact .nil
    | cons c cs ihRest =>
      by_cases part : Text.isIdentifierPart c = true
      · rw [wordLengthWith_plain part, List.take_succ_cons]
        exact .plain part ihRest
      · rw [wordLengthWith_escape (List.takeWhile_cons_of_neg part)]
        split
        · exact .nil
        · rename_i found
          rw [List.take_add]
          exact .escape (escape_take found) (ih _)

theorem not_isIdentifierPart_backslash : Text.isIdentifierPart '\\' ≠ true := by decide

theorem Escape.takeWhile_eq (escape : Escape e) (cs : List Char) : (e ++ cs).takeWhile Text.isIdentifierPart = [] := by
  obtain ⟨rest, rfl⟩ := escape.head
  exact List.takeWhile_cons_of_neg not_isIdentifierPart_backslash

theorem Delimited.takeWhile_eq (delimited : Delimited cs) : cs.takeWhile Text.isIdentifierPart = [] := by
  cases cs with
  | nil => rfl
  | cons c cs =>
    have member := delimited c rfl
    refine List.takeWhile_cons_of_neg ?_
    simp only [List.mem_cons, List.not_mem_nil, or_false] at member
    rcases member with rfl | rfl | rfl | rfl | rfl <;> decide

theorem Delimited.escapeLength_eq (delimited : Delimited cs) : escapeLength cs = 0 := by
  by_contra found
  obtain ⟨rest, rfl⟩ := escapeLength_shape found
  exact absurd (delimited '\\' rfl) (by decide)

theorem WordRest.wordLengthWith_append (word : WordRest w) (delimited : Delimited cs) (enough : w.length < fuel) :
    wordLengthWith fuel (w ++ cs) = w.length := by
  induction word generalizing fuel with
  | nil =>
    obtain ⟨fuel, rfl⟩ := Nat.exists_eq_add_one.2 enough
    rw [List.nil_append, wordLengthWith_escape delimited.takeWhile_eq, if_pos delimited.escapeLength_eq]
    rfl
  | plain part rest ih =>
    obtain ⟨fuel, rfl⟩ := Nat.exists_eq_add_one.2 (Nat.zero_lt_of_lt enough)
    rw [List.cons_append, wordLengthWith_plain part, ih (Nat.lt_of_succ_lt enough), List.length_cons]
  | escape escape rest ih =>
    obtain ⟨fuel, rfl⟩ := Nat.exists_eq_add_one.2 (Nat.zero_lt_of_lt enough)
    obtain ⟨more, rfl⟩ := escape.head
    rw [List.length_append, List.length_cons] at enough
    rw [List.append_assoc, wordLengthWith_escape (escape.takeWhile_eq _), escape.escapeLength_append,
      if_neg (by simp), List.drop_left, ih (by omega), List.length_append]

theorem wordLength_eq (cs : List Char) : wordLength cs = wordLengthWith (cs.length + 1) cs := by
  rw [wordLength]
  split
  · rfl
  · rename_i plain
    have none : escapeLength (cs.drop (cs.takeWhile Text.isIdentifierPart).length) = 0 := by
      by_contra found
      obtain ⟨rest, shape⟩ := escapeLength_shape found
      exact plain (by rw [shape]; rfl)
    rw [wordLengthWith, none]
    rfl

theorem isWord_take (starts : startsWord cs = true) : IsWord (cs.take (wordLength cs)) := by
  rw [wordLength_eq]
  rw [startsWord, Bool.or_eq_true] at starts
  rcases starts with starts | found
  · cases cs with
    | nil => cases starts
    | cons c cs =>
      have starts : Text.startsIdentifier c = true := starts
      rw [wordLengthWith_plain (isIdentifierPart_of_startsIdentifier starts), List.take_succ_cons]
      exact .plain starts (wordRest_take _ _)
  · have found : escapeLength cs ≠ 0 := by simpa using found
    have none : cs.takeWhile Text.isIdentifierPart = [] := by
      obtain ⟨rest, rfl⟩ := escapeLength_shape found
      exact List.takeWhile_cons_of_neg not_isIdentifierPart_backslash
    rw [wordLengthWith_escape none, if_neg found, List.take_add]
    exact .escape (escape_take found) (wordRest_take _ _)

theorem IsWord.startsWord_append (word : IsWord w) (cs : List Char) : startsWord (w ++ cs) = true := by
  rw [startsWord, Bool.or_eq_true]
  cases word with
  | plain starts _ => exact .inl starts
  | escape escape _ =>
    right
    obtain ⟨rest, rfl⟩ := escape.head
    rw [List.append_assoc, escape.escapeLength_append]
    rfl

/-- A word is found again in front of what separates it from the rest. -/
theorem IsWord.scan_append (word : IsWord w) (delimited : Delimited cs) :
    scan (w ++ cs) = ⟨⟨.word, String.ofList w⟩, w.length⟩ := by
  have starts := word.startsWord_append cs
  have length : wordLength (w ++ cs) = w.length := by
    rw [wordLength_eq]
    exact word.wordRest.wordLengthWith_append delimited (by rw [List.length_append]; omega)
  cases text : w ++ cs with
  | nil =>
    rw [text] at starts
    cases starts
  | cons c rest =>
    rw [text] at starts length
    rw [scan, if_pos starts, Scanned.of, length, ← text, List.take_left]

end Words

section Strings

variable {quote : Char} {cs inner rest : List Char} {n : Nat}

/-- The inside of a string literal: read up to its end, whatever follows but a line feed, which a carriage return there
would take in. -/
def Inside (quote : Char) (inner : List Char) : Prop :=
  ∀ cs, cs.head? ≠ some '\n' → stringLength quote (inner ++ cs) = stringLength.plus inner.length (stringLength quote cs)

theorem plus_zero (r : Except Nat Nat) : stringLength.plus 0 r = r := by
  cases r <;> simp [stringLength.plus]

theorem plus_plus (a b : Nat) (r : Except Nat Nat) :
    stringLength.plus a (stringLength.plus b r) = stringLength.plus (a + b) r := by
  cases r <;> simp [stringLength.plus, Nat.add_assoc]

theorem plus_eq_ok {a m : Nat} {r : Except Nat Nat} (ok : stringLength.plus a r = .ok m) : ∃ n, r = .ok n ∧ m = a + n := by
  cases r with
  | ok n => exact ⟨n, rfl, (Except.ok.inj ok).symm⟩
  | error => cases ok

theorem stringLength_escape {c : Char} (alone : c = '\r' → cs.head? ≠ some '\n') :
    stringLength quote ('\\' :: c :: cs) = stringLength.plus 2 (stringLength quote cs) := by
  rw [stringLength]
  rintro rest rfl rfl
  exact alone rfl rfl

theorem stringLength_plain {c : Char} (escape : c ≠ '\\') (other : c ≠ quote) (inLine : ¬ (c = '\n' ∨ c = '\r')) :
    stringLength quote (c :: cs) = stringLength.plus 1 (stringLength quote cs) := by
  rw [stringLength, if_neg other, if_neg inLine]
  · rintro rest rfl
    exact absurd rfl escape
  · rintro _ rest rfl
    exact absurd rfl escape

theorem inside_nil (quote : Char) : Inside quote [] := fun _ _ => (plus_zero _).symm

/-- The closing quote of a string ends what is inside of it. -/
theorem inside_take (found : stringLength quote cs = .ok n) :
    ∃ inner, Inside quote inner ∧ cs.take n = inner ++ [quote] := by
  fun_induction stringLength quote cs generalizing n with
  | case1 => cases found
  | case2 rest ih =>
    obtain ⟨m, ok, rfl⟩ := plus_eq_ok found
    obtain ⟨inner, inside, taken⟩ := ih ok
    refine ⟨'\\' :: '\r' :: '\n' :: inner, fun cs head => ?_, ?_⟩
    · rw [List.cons_append, List.cons_append, List.cons_append, stringLength, inside cs head, plus_plus, Nat.add_comm]
      rfl
    · rw [Nat.add_comm, List.take_succ_cons, List.take_succ_cons, List.take_succ_cons, taken]
      rfl
  | case3 c rest alone ih =>
    obtain ⟨m, ok, rfl⟩ := plus_eq_ok found
    obtain ⟨inner, inside, taken⟩ := ih ok
    refine ⟨'\\' :: c :: inner, fun cs head => ?_, ?_⟩
    · -- what follows an escaped carriage return was no line feed, and is none now
      have alone : c = '\r' → (inner ++ cs).head? ≠ some '\n' := by
        intro cr feed
        cases inner with
        | nil => exact head feed
        | cons d inner =>
          obtain rfl : d = '\n' := by simpa using feed
          have whole := List.take_append_drop m rest
          rw [taken] at whole
          exact alone _ cr whole.symm
      rw [List.cons_append, List.cons_append, stringLength_escape alone, inside cs head, plus_plus, Nat.add_comm]
      rfl
    · rw [Nat.add_comm, List.take_succ_cons, List.take_succ_cons, taken]
      rfl
  | case4 =>
    obtain rfl := Except.ok.inj found
    exact ⟨[], inside_nil quote, rfl⟩
  | case5 => cases found
  | case6 c rest _ escape other inLine ih =>
    obtain ⟨m, ok, rfl⟩ := plus_eq_ok found
    obtain ⟨inner, inside, taken⟩ := ih ok
    have plain : c ≠ '\\' := by
      intro backslash
      cases rest with
      | nil => cases ok
      | cons d rest => exact escape d rest backslash rfl
    refine ⟨c :: inner, fun cs head => ?_, ?_⟩
    · rw [List.cons_append, stringLength_plain plain other inLine, inside cs head, plus_plus, Nat.add_comm]
      rfl
    · rw [Nat.add_comm, List.take_succ_cons, taken]
      rfl

theorem inside_append {more : List Char} (inside : Inside quote inner) (insideMore : Inside quote more)
    (head : more.head? ≠ some '\n') : Inside quote (inner ++ more) := by
  intro cs headRest
  have headMore : (more ++ cs).head? ≠ some '\n' := by
    cases more with
    | nil => exact headRest
    | cons => exact head
  rw [List.append_assoc, inside _ headMore, insideMore cs headRest, plus_plus, List.length_append]

/-- The characters of a string literal. -/
inductive IsString : List Char → Prop
  | quoted {quote : Char} {inner : List Char} (isQuote : quote = '"' ∨ quote = '\'') (inside : Inside quote inner) :
    IsString (quote :: inner ++ [quote])

/-- A string literal is found again in front of anything. -/
theorem IsString.scan_append {s : List Char} (string : IsString s) (cs : List Char) :
    scan (s ++ cs) = ⟨⟨.string, String.ofList s⟩, s.length⟩ := by
  cases string with
  | @quoted quote inner isQuote inside =>
    have escape : quote ≠ '\\' := by rcases isQuote with rfl | rfl <;> decide
    have closes : stringLength quote (quote :: cs) = .ok 1 := by
      rw [stringLength, if_pos rfl]
      · rintro rest rfl
        exact absurd rfl escape
      · rintro _ rest rfl
        exact absurd rfl escape
    have length : stringLength quote (inner ++ quote :: cs) = .ok (inner.length + 1) := by
      rw [inside _ (by rcases isQuote with rfl | rfl <;> simp), closes]
      rfl
    have noWord : startsWord (quote :: (inner ++ quote :: cs)) = false := by
      rcases isQuote with rfl | rfl <;> rfl
    have noOctal : isLegacyOctal (quote :: (inner ++ quote :: cs)) = false := by
      rcases isQuote with rfl | rfl <;> rfl
    have noNumber : startsNumber (quote :: (inner ++ quote :: cs)) = false := by
      rcases isQuote with rfl | rfl <;> rfl
    have mark : (decide (quote = '"') || decide (quote = '\'')) = true := by simpa using isQuote
    have text : quote :: inner ++ [quote] ++ cs = quote :: (inner ++ quote :: cs) := by simp
    have whole : (quote :: inner ++ [quote]).length = inner.length + 1 + 1 := by simp
    rw [text, scan, noWord, noOctal, noNumber, mark, length]
    change Scanned.of .string (quote :: (inner ++ quote :: cs)) (inner.length + 1 + 1) = _
    rw [Scanned.of, ← text, List.take_left' whole, whole]

theorem scanTemplate_kind (cs : List Char) :
    (scanTemplate cs).token.kind ≠ .word ∧ (scanTemplate cs).token.kind ≠ .string := by
  unfold scanTemplate
  split
  · decide
  · split
    · rename_i more _
      cases more <;> exact ⟨nofun, nofun⟩
    · exact ⟨nofun, nofun⟩

/-- What the scanner finds is a word, a string, or neither of them. -/
theorem scan_cases (cs : List Char) :
    startsWord cs = true ∧ scan cs = .of .word cs (wordLength cs) ∨
      (∃ quote rest n, cs = quote :: rest ∧ (quote = '"' ∨ quote = '\'') ∧ stringLength quote rest = .ok n ∧
        scan cs = .of .string cs (n + 1)) ∨
      (scan cs).token.kind ≠ .word ∧ (scan cs).token.kind ≠ .string := by
  cases cs with
  | nil => exact .inr (.inr (by decide))
  | cons c rest =>
    generalize found : scan (c :: rest) = r
    rw [scan] at found
    split at found
    · rename_i word
      exact .inl ⟨word, found.symm⟩
    · split at found
      · subst found
        exact .inr (.inr ⟨nofun, nofun⟩)
      · split at found
        · split at found <;> subst found <;> exact .inr (.inr ⟨nofun, nofun⟩)
        · split at found
          · rename_i mark
            split at found
            · rename_i n length
              exact .inr (.inl ⟨c, rest, n, rfl, by simpa using mark, length, found.symm⟩)
            · subst found
              exact .inr (.inr ⟨nofun, nofun⟩)
          · split at found
            · subst found
              exact .inr (.inr (scanTemplate_kind _))
            · split at found
              · split at found <;> subst found <;> exact .inr (.inr ⟨nofun, nofun⟩)
              · split at found <;> subst found <;> exact .inr (.inr ⟨nofun, nofun⟩)

theorem isWord_of_scan (kind : (scan cs).token.kind = .word) : IsWord (scan cs).token.text.toList := by
  rcases scan_cases cs with ⟨starts, found⟩ | ⟨_, _, _, _, _, _, found⟩ | ⟨noWord, -⟩
  · rw [found, Scanned.of, String.toList_ofList]
    exact isWord_take starts
  · rw [found] at kind
    cases kind
  · exact absurd kind noWord

theorem isString_of_scan (kind : (scan cs).token.kind = .string) : IsString (scan cs).token.text.toList := by
  rcases scan_cases cs with ⟨_, found⟩ | ⟨quote, rest, n, rfl, isQuote, length, found⟩ | ⟨-, noString⟩
  · rw [found] at kind
    cases kind
  · obtain ⟨inner, inside, taken⟩ := inside_take length
    rw [found, Scanned.of, String.toList_ofList, List.take_succ_cons, taken]
    exact .quoted isQuote inside
  · exact absurd kind noString

end Strings

/-- Whether a blank, a comment or a line that names an interpreter can start with a character. -/
def startsGap (c : Char) : Bool := Text.isBlank c || c ∈ ['/', '<', '-', '#']

/-- A token that is found again in front of what separates it from the rest. -/
structure Token.Stable (t : Token) : Prop where
  kind : t.kind = .word ∨ t.kind = .string ∨ t.kind = .punctuator
  starts : ∃ c rest, t.text.toList = c :: rest ∧ startsGap c = false
  scan_append : ∀ cs, Delimited cs → scan (t.text.toList ++ cs) = ⟨t, t.text.length⟩

theorem stable_of_isWord {text : String} (word : IsWord text.toList) : (Token.mk .word text).Stable := by
  refine ⟨.inl rfl, ?_, fun cs delimited => ?_⟩
  · generalize text.toList = w at word
    cases word with
    | @plain c rest starts _ =>
      refine ⟨c, rest, rfl, ?_⟩
      rw [startsGap, Text.isBlank_of_startsIdentifier starts, Bool.false_or, decide_eq_false_iff_not]
      simp only [List.mem_cons, List.not_mem_nil, or_false]
      rintro (rfl | rfl | rfl | rfl) <;> exact absurd starts (by decide)
    | escape escape _ =>
      obtain ⟨rest, rfl⟩ := escape.head
      exact ⟨_, _, rfl, by decide⟩
  · rw [word.scan_append delimited, String.ofList_toList, String.length_toList]

theorem stable_of_isString {text : String} (string : IsString text.toList) : (Token.mk .string text).Stable := by
  refine ⟨.inr (.inl rfl), ?_, fun cs _ => ?_⟩
  · generalize text.toList = s at string
    cases string with
    | quoted isQuote _ => exact ⟨_, _, rfl, by rcases isQuote with rfl | rfl <;> decide⟩
  · rw [string.scan_append, String.ofList_toList, String.length_toList]

/-- The punctuators of import and export lists. -/
theorem stable_of_punctuator {p : String} (member : p ∈ ["\x7b", "\x7d", ",", ";", "*"]) :
    (Token.mk .punctuator p).Stable := by
  simp only [List.mem_cons, List.not_mem_nil, or_false] at member
  rcases member with rfl | rfl | rfl | rfl | rfl
  all_goals refine ⟨.inr (.inr rfl), ⟨_, _, rfl, by decide⟩, fun cs delimited => ?_⟩
  · rfl
  · rfl
  · rfl
  · rfl
  · -- no second star and no equals sign follow
    cases cs with
    | nil => rfl
    | cons c cs =>
      have next := delimited c rfl
      simp only [List.mem_cons, List.not_mem_nil, or_false] at next
      rcases next with rfl | rfl | rfl | rfl | rfl <;> rfl

end Script

end Distill
