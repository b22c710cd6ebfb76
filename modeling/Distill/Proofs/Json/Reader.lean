import Mathlib.Data.List.TakeWhile
import Distill.Json

/-!
Reading JSON. A text is one value with blanks around its tokens; numbers are whole, and a string may hold any character
but a control character, as it is or as an escape. What is written is read back (`ofText?_render`), and nothing in it
needs an escape where it stands (`isSafe_render`).
-/
namespace Distill.Json

def isBlank (c : Char) : Bool := c == ' ' || c == '\t' || c == '\n' || c == '\r'

def skipBlanks (cs : List Char) : List Char := cs.dropWhile isBlank

/-- The number that four hexadecimal digits stand for. -/
def unit? (a b c d : Char) : Option Nat := do
  return (((← Text.hexValue? a) * 16 + (← Text.hexValue? b)) * 16 + (← Text.hexValue? c)) * 16 + (← Text.hexValue? d)

/-- The number that four hexadecimal digits stand for, and what follows. -/
def readUnit : List Char → Option (Nat × List Char)
  | a :: b :: c :: d :: rest => (unit? a b c d).map fun n => (n, rest)
  | _ => none

/-- The second half of a character above U+FFFF, after its first half. -/
def readLowHalf (high : Nat) : List Char → Option (Char × List Char)
  | '\\' :: 'u' :: rest => do
    let (low, rest) ← readUnit rest
    if high < 0xDC00 ∧ 0xDC00 ≤ low ∧ low < 0xE000 then
      return (Char.ofNat (0x10000 + (high - 0xD800) * 0x400 + (low - 0xDC00)), rest)
    else none
  | _ => none

/-- The characters that stand for others after a backslash. -/
def shortEscapes : List (Char × Char) :=
  [('"', '"'), ('\\', '\\'), ('/', '/'), ('b', Char.ofNat 0x08), ('f', Char.ofNat 0x0C), ('n', '\n'), ('r', '\r'),
    ('t', '\t')]

/-- The character that an escape stands for, after the backslash. -/
def readEscape : List Char → Option (Char × List Char)
  | [] => none
  | e :: rest =>
    if e = 'u' then do
      let (n, rest) ← readUnit rest
      if n < 0xD800 ∨ 0xE000 ≤ n then return (Char.ofNat n, rest) else readLowHalf n rest
    else (shortEscapes.lookup e).map fun c => (c, rest)

/-- The characters of a string up to the quote that ends it, and what follows, within a number of steps. -/
def readChars : Nat → List Char → Option (List Char × List Char)
  | 0, _ => none
  | _ + 1, [] => none
  | n + 1, c :: rest =>
    if c = '"' then some ([], rest)
    else if c = '\\' then
      match readEscape rest with
      | some (c, rest) => (readChars n rest).map fun r => (c :: r.1, r.2)
      | none => none
    else if c.toNat < 0x20 then none
    else (readChars n rest).map fun r => (c :: r.1, r.2)

/-- A number without a sign: digits, the first of which is zero only if it is the only one. -/
def readNat (cs : List Char) : Option (Nat × List Char) :=
  let digits := cs.takeWhile Char.isDigit
  if digits = [] ∨ digits.head? = some '0' ∧ digits.length ≠ 1 then none
  else some (Nat.ofDigitChars 10 digits 0, cs.dropWhile Char.isDigit)

def readInt : List Char → Option (Int × List Char)
  | [] => none
  | c :: rest =>
    if c = '-' then (readNat rest).map fun r => (-(r.1 : Int), r.2) else (readNat (c :: rest)).map fun r => (r.1, r.2)

/-- The values that are written as words. -/
def words : List (String × Json) := [("null", null), ("true", bool true), ("false", bool false)]

/-- A value that is written as a word or a number. -/
def readSimple (cs : List Char) : Option (Json × List Char) :=
  match words.find? fun w => w.1.toList.isPrefixOf cs with
  | some w => some (w.2, cs.drop w.1.toList.length)
  | none => (readInt cs).map fun r => (int r.1, r.2)

/-- The name of a field and the colon after it. -/
def readKey (n : Nat) (cs : List Char) : Option (String × List Char) :=
  match skipBlanks cs with
  | [] => none
  | c :: rest =>
    if c = '"' then
      match readChars n rest with
      | some (key, rest) =>
        if (skipBlanks rest).head? = some ':' then some (String.ofList key, (skipBlanks rest).tail) else none
      | none => none
    else none

mutual

/-- A value and what follows it, within a number of steps. -/
def readValue : Nat → List Char → Option (Json × List Char)
  | 0, _ => none
  | n + 1, cs =>
    match skipBlanks cs with
    | [] => none
    | c :: rest =>
      if c = '"' then (readChars n rest).map fun r => (str (String.ofList r.1), r.2)
      else if c = '[' then
        if (skipBlanks rest).head? = some ']' then some (arr [], (skipBlanks rest).tail)
        else (readItems n rest).map fun r => (arr r.1, r.2)
      else if c = '\x7b' then
        if (skipBlanks rest).head? = some '\x7d' then some (obj [], (skipBlanks rest).tail)
        else (readFields n rest).map fun r => (obj r.1, r.2)
      else readSimple (c :: rest)

/-- The items of a list up to its end, at least one. -/
def readItems : Nat → List Char → Option (List Json × List Char)
  | 0, _ => none
  | n + 1, cs =>
    match readValue n cs with
    | none => none
    | some (item, rest) =>
      match skipBlanks rest with
      | [] => none
      | c :: rest =>
        if c = ']' then some ([item], rest)
        else if c = ',' then (readItems n rest).map fun r => (item :: r.1, r.2)
        else none

/-- The fields of an object up to its end, at least one. -/
def readFields : Nat → List Char → Option (List (String × Json) × List Char)
  | 0, _ => none
  | n + 1, cs =>
    match readKey n cs with
    | none => none
    | some (key, rest) =>
      match readValue n rest with
      | none => none
      | some (value, rest) =>
        match skipBlanks rest with
        | [] => none
        | c :: rest =>
          if c = '\x7d' then some ([(key, value)], rest)
          else if c = ',' then (readFields n rest).map fun r => ((key, value) :: r.1, r.2)
          else none

end

/-- The value of a text. Every step reads at least one character, so there are enough of them. -/
def ofText? (text : String) : Option Json :=
  match readValue text.length text.toList with
  | some (value, rest) => if skipBlanks rest = [] then some value else none
  | none => none

/-- Lists and objects follow from their parts. -/
theorem induct {P : Json → Prop} (null : P .null) (bool : ∀ b, P (.bool b)) (int : ∀ n, P (.int n)) (str : ∀ s, P (.str s))
    (arr : ∀ items, (∀ v ∈ items, P v) → P (.arr items)) (obj : ∀ fields, (∀ f ∈ fields, P f.2) → P (.obj fields))
    (v : Json) : P v :=
  @Json.rec P (fun items => ∀ v ∈ items, P v) (fun fields => ∀ f ∈ fields, P f.2) (fun field => P field.2)
    null bool int str arr obj (by simp) (fun _ _ first others => List.forall_mem_cons.2 ⟨first, others⟩)
    (by simp) (fun _ _ first others => List.forall_mem_cons.2 ⟨first, others⟩) (fun _ _ value => value) v

section Strings

variable {rest : List Char}

theorem skipBlanks_cons {c : Char} (solid : isBlank c = false) (rest : List Char) : skipBlanks (c :: rest) = c :: rest := by
  rw [skipBlanks, List.dropWhile_cons_of_neg (by simp [solid])]

theorem readUnit_append {cs : List Char} {n : Nat} (read : readUnit cs = some (n, [])) (rest : List Char) :
    readUnit (cs ++ rest) = some (n, rest) := by
  rw [readUnit.eq_def] at read
  split at read
  · obtain ⟨m, value, same⟩ := Option.map_eq_some_iff.1 read
    obtain ⟨rfl, rfl⟩ := Prod.mk.inj same
    simp [readUnit, value]
  · cases read

/-- Never written as it is. -/
def IsEscaped (c : Char) : Prop :=
  c.toNat < 0x20 ∨ c = '<' ∨ c = '>' ∨ c = '&' ∨ c.toNat = 0x2028 ∨ c.toNat = 0x2029

theorem readUnit_hex {c : Char} (escaped : IsEscaped c) (rest : List Char) :
    readUnit ((Text.hex 4 c.toNat).toList ++ rest) = some (c.toNat, rest) := by
  have low : ∀ n < 0x20, readUnit (Text.hex 4 n).toList = some (n, []) := by decide +kernel
  apply readUnit_append
  rcases escaped with control | rfl | rfl | rfl | line | paragraph
  · exact low _ control
  · decide
  · decide
  · decide
  · rw [line]
    decide
  · rw [paragraph]
    decide

theorem readChars_escape {c : Char} {cs : List Char} (escape : readEscape cs = some (c, rest)) (n : Nat) :
    readChars (n + 1) ('\\' :: cs) = (readChars n rest).map fun r => (c :: r.1, r.2) := by
  rw [readChars, if_neg (by decide), if_pos rfl, escape]

theorem readChars_short {c e : Char} (short : readEscape [e] = some (c, [])) (n : Nat) (rest : List Char) :
    readChars (n + 1) (['\\', e] ++ rest) = (readChars n rest).map fun r => (c :: r.1, r.2) := by
  apply readChars_escape
  rw [readEscape] at short
  split at short
  · cases short
  · rename_i other
    obtain ⟨d, found, same⟩ := Option.map_eq_some_iff.1 short
    obtain ⟨rfl, -⟩ := Prod.mk.inj same
    simp [readEscape, other, found]

theorem readChars_plain {c : Char} (notQuote : c ≠ '"') (notSlash : c ≠ '\\') (high : ¬ c.toNat < 0x20) (n : Nat)
    (rest : List Char) : readChars (n + 1) (c :: rest) = (readChars n rest).map fun r => (c :: r.1, r.2) := by
  rw [readChars, if_neg notQuote, if_neg notSlash, if_neg high]

/-- An escaped character is read back in one step. -/
theorem readChars_escapedChar (c : Char) (n : Nat) (rest : List Char) :
    readChars (n + 1) ((escapedChar c).toList ++ rest) = (readChars n rest).map fun r => (c :: r.1, r.2) := by
  rw [escapedChar.eq_def]
  split
  · exact readChars_short (by decide) n rest
  · exact readChars_short (by decide) n rest
  · exact readChars_short (by decide) n rest
  · exact readChars_short (by decide) n rest
  · exact readChars_short (by decide) n rest
  · rename_i notQuote notSlash _ _ _
    split
    · rename_i back
      have same : c = Char.ofNat 0x08 := by rw [← back, Char.ofNat_toNat]
      subst same
      exact readChars_short (by decide) n rest
    · split
      · rename_i feed
        have same : c = Char.ofNat 0x0C := by rw [← feed, Char.ofNat_toNat]
        subst same
        exact readChars_short (by decide) n rest
      · split
        · rename_i escaped
          have small : c.toNat < 0xD800 := by
            rcases escaped with low | rfl | rfl | rfl | line | paragraph
            · omega
            · decide
            · decide
            · decide
            · omega
            · omega
          have escape : readEscape ('u' :: ((Text.hex 4 c.toNat).toList ++ rest)) = some (c, rest) := by
            simp [readEscape, readUnit_hex escaped, small, Char.ofNat_toNat]
          rw [String.toList_append]
          exact readChars_escape escape n
        · rename_i plain
          rw [String.toList_singleton]
          exact readChars_plain notQuote notSlash (fun low => plain (.inl low)) n rest

/-- A string is read back up to the quote that ends it. -/
theorem readChars_string (cs rest : List Char) {n : Nat} (enough : cs.length < n) :
    readChars n (cs.flatMap (fun c => (escapedChar c).toList) ++ '"' :: rest) = some (cs, rest) := by
  induction cs generalizing n with
  | nil =>
    obtain ⟨m, rfl⟩ := Nat.exists_eq_succ_of_ne_zero (Nat.ne_of_gt enough)
    rfl
  | cons c cs ih =>
    obtain ⟨m, rfl⟩ := Nat.exists_eq_succ_of_ne_zero (Nat.ne_zero_of_lt enough)
    rw [List.flatMap_cons, List.append_assoc, readChars_escapedChar, ih (Nat.lt_of_succ_lt_succ enough)]
    rfl

theorem toList_renderString (s : String) :
    (renderString s).toList = '"' :: (s.toList.flatMap (fun c => (escapedChar c).toList) ++ ['"']) := by
  simp [renderString, String.toList_join, List.flatMap_map]

theorem escapedChar_ne_nil (c : Char) : (escapedChar c).toList ≠ [] := by
  intro nil
  have quote := readChars_escapedChar c 1 ['"']
  rw [nil] at quote
  cases quote

theorem length_escaped (cs : List Char) : cs.length ≤ (cs.flatMap fun c => (escapedChar c).toList).length := by
  induction cs with
  | nil => exact Nat.zero_le _
  | cons c cs ih =>
    have some := List.length_pos_iff.2 (escapedChar_ne_nil c)
    rw [List.flatMap_cons, List.length_append, List.length_cons]
    omega

end Strings

section Numbers

/-- What follows a number does not go on with it. -/
def Stops (rest : List Char) : Prop := ∀ c ∈ rest.head?, c.isDigit = false

theorem head_toDigits {n : Nat} (positive : 0 < n) : (Nat.toDigits 10 n).head? ≠ some '0' := by
  induction n using Nat.strongRecOn with
  | ind n ih =>
    by_cases small : n < 10
    · rw [Nat.toDigits_of_lt_base small]
      have digits : ∀ k < 10, 0 < k → k.digitChar ≠ '0' := by decide
      simpa using digits n small positive
    · rw [Nat.toDigits_of_base_le (by decide) (Nat.not_lt.1 small), List.head?_append,
        Option.or_of_isSome (by simp [Nat.toDigits_ne_nil])]
      exact ih (n / 10) (by omega) (by omega)

theorem readNat_toDigits (n : Nat) {rest : List Char} (stops : Stops rest) :
    readNat (Nat.toDigits 10 n ++ rest) = some (n, rest) := by
  have digits : ∀ c ∈ Nat.toDigits 10 n, c.isDigit = true := fun c => Nat.isDigit_of_mem_toDigits (by decide) (by decide)
  have none : rest.takeWhile Char.isDigit = [] ∧ rest.dropWhile Char.isDigit = rest := by
    cases rest with
    | nil => exact ⟨rfl, rfl⟩
    | cons c rest =>
      have off := stops c rfl
      exact ⟨List.takeWhile_cons_of_neg (by simp [off]), List.dropWhile_cons_of_neg (by simp [off])⟩
  rw [readNat, List.takeWhile_append_of_pos digits, List.dropWhile_append_of_pos digits, none.1, none.2, List.append_nil]
  have proper : ¬ (Nat.toDigits 10 n = [] ∨ (Nat.toDigits 10 n).head? = some '0' ∧ (Nat.toDigits 10 n).length ≠ 1) := by
    rintro (empty | ⟨zero, long⟩)
    · exact Nat.toDigits_ne_nil empty
    · by_cases positive : 0 < n
      · exact head_toDigits positive zero
      · obtain rfl : n = 0 := by omega
        exact long (by decide)
  rw [if_neg proper, Nat.ofDigitChars_toDigits (by decide) (by decide)]

theorem toList_toString (n : Int) :
    (toString n).toList = (if n < 0 then ['-'] else []) ++ Nat.toDigits 10 n.natAbs := by
  cases n with
  | ofNat m =>
    have text : (toString (Int.ofNat m)).toList = Nat.toDigits 10 m := Nat.toList_repr
    have notNegative : ¬ Int.ofNat m < 0 := Int.not_lt.2 (Int.natCast_nonneg m)
    rw [text, if_neg notNegative]
    rfl
  | negSucc m =>
    have text : (toString (Int.negSucc m)).toList = '-' :: Nat.toDigits 10 (m + 1) := by
      rw [← Nat.toList_repr]
      exact String.toList_append
    rw [text, if_pos (Int.negSucc_lt_zero m)]
    rfl

theorem readInt_toString (n : Int) {rest : List Char} (stops : Stops rest) :
    readInt ((toString n).toList ++ rest) = some (n, rest) := by
  rw [toList_toString]
  split
  · rename_i negative
    rw [List.cons_append, List.nil_append, List.cons_append, readInt, if_pos rfl, readNat_toDigits _ stops]
    simp only [Option.map_some]
    rw [show -(n.natAbs : Int) = n by omega]
  · rename_i positive
    rw [List.nil_append]
    have read := readNat_toDigits n.natAbs stops
    cases digits : Nat.toDigits 10 n.natAbs with
    | nil => exact absurd digits Nat.toDigits_ne_nil
    | cons c cs =>
      have digit : c.isDigit = true :=
        Nat.isDigit_of_mem_toDigits (b := 10) (n := n.natAbs) (by decide) (by decide) (digits ▸ List.mem_cons_self)
      have notMinus : c ≠ '-' := by
        rintro rfl
        exact absurd digit (by decide)
      rw [digits] at read
      rw [List.cons_append, readInt, if_neg notMinus, ← List.cons_append, read]
      simp only [Option.map_some]
      rw [show (n.natAbs : Int) = n by omega]

/-- A number starts with a digit or a sign. -/
theorem exists_toString (n : Int) : ∃ c cs, (toString n).toList = c :: cs ∧ (c.isDigit = true ∨ c = '-') := by
  rw [toList_toString]
  split
  · exact ⟨'-', _, rfl, .inr rfl⟩
  · cases digits : Nat.toDigits 10 n.natAbs with
    | nil => exact absurd digits Nat.toDigits_ne_nil
    | cons c cs =>
      refine ⟨c, cs, rfl, .inl ?_⟩
      exact Nat.isDigit_of_mem_toDigits (b := 10) (n := n.natAbs) (by decide) (by decide) (digits ▸ List.mem_cons_self)

end Numbers

section Values

variable {rest : List Char}

theorem isBlank_of_isDigit {c : Char} (digit : c.isDigit = true) : isBlank c = false := by
  rw [Bool.eq_false_iff]
  intro blank
  simp only [isBlank, Bool.or_eq_true, beq_iff_eq, or_assoc] at blank
  rcases blank with rfl | rfl | rfl | rfl <;> exact absurd digit (by decide)

theorem readSimple_word {w : String × Json} (member : w ∈ words) (rest : List Char) :
    readSimple (w.1.toList ++ rest) = some (w.2, rest) := by
  simp only [words, List.mem_cons, List.not_mem_nil, or_false] at member
  rcases member with rfl | rfl | rfl <;> simp [readSimple, words]

theorem readSimple_int (n : Int) (stops : Stops rest) : readSimple ((toString n).toList ++ rest) = some (int n, rest) := by
  obtain ⟨c, cs, text, first⟩ := exists_toString n
  have noWord : (words.find? fun w => w.1.toList.isPrefixOf ((toString n).toList ++ rest)) = none := by
    have off : ∀ d ∈ ['n', 't', 'f'], d ≠ c := by
      intro d member same
      subst same
      simp only [List.mem_cons, List.not_mem_nil, or_false] at member
      rcases member with rfl | rfl | rfl <;> revert first <;> decide
    rw [text]
    simp [words, off]
  rw [readSimple, noWord, readInt_toString n stops]
  rfl

/-- A value starts with a character that is no blank and closes nothing. -/
theorem exists_render (v : Json) : ∃ c cs, v.render.toList = c :: cs ∧ isBlank c = false ∧ c ≠ ']' ∧ c ≠ '\x7d' := by
  cases v with
  | null => exact ⟨'n', _, rfl, by decide, by decide, by decide⟩
  | bool b => cases b with
    | true => exact ⟨'t', _, rfl, by decide, by decide, by decide⟩
    | false => exact ⟨'f', _, rfl, by decide, by decide, by decide⟩
  | int n =>
    obtain ⟨c, cs, text, digit | rfl⟩ := exists_toString n
    · refine ⟨c, cs, by rw [render, text], isBlank_of_isDigit digit, ?_, ?_⟩
      · rintro rfl
        exact absurd digit (by decide)
      · rintro rfl
        exact absurd digit (by decide)
    · exact ⟨'-', cs, by rw [render, text], by decide, by decide, by decide⟩
  | str s => exact ⟨'"', _, by rw [render, toList_renderString], by decide, by decide, by decide⟩
  | arr items =>
    exact ⟨'[', (renderItems items ++ "]").toList, by rw [render, String.append_assoc]; exact String.toList_append,
      by decide, by decide, by decide⟩
  | obj fields =>
    exact ⟨'\x7b', (renderFields fields ++ "\x7d").toList, by rw [render, String.append_assoc]; exact String.toList_append,
      by decide, by decide, by decide⟩

theorem readKey_renderString (key : String) {n : Nat} (enough : key.toList.length < n) (rest : List Char) :
    readKey n ((renderString key).toList ++ ':' :: rest) = some (key, rest) := by
  rw [toList_renderString, List.cons_append, readKey, skipBlanks_cons (by decide)]
  simp only [if_true, List.append_assoc, List.cons_append, List.nil_append, readChars_string _ _ enough,
    skipBlanks_cons (c := ':') (by decide), List.head?_cons, List.tail_cons, String.ofList_toList]

theorem readValue_simple {c : Char} {cs : List Char} (solid : isBlank c = false) (notQuote : c ≠ '"') (notList : c ≠ '[')
    (notObject : c ≠ '\x7b') (n : Nat) : readValue (n + 1) (c :: cs) = readSimple (c :: cs) := by
  rw [readValue, skipBlanks_cons solid]
  dsimp only
  rw [if_neg notQuote, if_neg notList, if_neg notObject]

theorem readValue_quote (n : Nat) (cs : List Char) :
    readValue (n + 1) ('"' :: cs) = (readChars n cs).map fun r => (str (String.ofList r.1), r.2) := by
  rw [readValue, skipBlanks_cons (by decide)]
  dsimp only
  rw [if_pos rfl]

theorem readValue_list {c : Char} (solid : isBlank c = false) (notEnd : c ≠ ']') (n : Nat) (cs : List Char) :
    readValue (n + 1) ('[' :: c :: cs) = (readItems n (c :: cs)).map fun r => (arr r.1, r.2) := by
  rw [readValue, skipBlanks_cons (by decide)]
  dsimp only
  rw [if_neg (by decide), if_pos rfl, skipBlanks_cons solid, if_neg (by simpa using notEnd)]

theorem readValue_object {c : Char} (solid : isBlank c = false) (notEnd : c ≠ '\x7d') (n : Nat) (cs : List Char) :
    readValue (n + 1) ('\x7b' :: c :: cs) = (readFields n (c :: cs)).map fun r => (obj r.1, r.2) := by
  rw [readValue, skipBlanks_cons (by decide)]
  dsimp only
  rw [if_neg (by decide), if_neg (by decide), if_pos rfl, skipBlanks_cons solid, if_neg (by simpa using notEnd)]

theorem renderItems_more (item next : Json) (items : List Json) :
    (renderItems (item :: next :: items)).toList = item.render.toList ++ ',' :: (renderItems (next :: items)).toList := by
  rw [renderItems, String.append_assoc, String.toList_append, String.toList_append]
  · rfl
  · simp

/-- Some items start as the first of them does. -/
theorem exists_renderItems {items : List Json} (nonempty : items ≠ []) :
    ∃ c cs, (renderItems items).toList = c :: cs ∧ isBlank c = false ∧ c ≠ ']' := by
  obtain ⟨item, items, rfl⟩ := List.exists_cons_of_ne_nil nonempty
  obtain ⟨c, cs, text, solid, notEnd, -⟩ := exists_render item
  cases items with
  | nil => exact ⟨c, cs, by rw [renderItems, text], solid, notEnd⟩
  | cons next items =>
    rw [renderItems_more, text]
    exact ⟨c, _, rfl, solid, notEnd⟩

theorem renderFields_one (key : String) (value : Json) :
    (renderFields [(key, value)]).toList = (renderString key).toList ++ ':' :: value.render.toList := by
  rw [renderFields, String.append_assoc, String.toList_append, String.toList_append]
  rfl

theorem renderFields_more (key : String) (value : Json) (next : String × Json) (fields : List (String × Json)) :
    (renderFields ((key, value) :: next :: fields)).toList =
      (renderString key).toList ++ ':' :: (value.render.toList ++ ',' :: (renderFields (next :: fields)).toList) := by
  rw [renderFields, String.append_assoc, String.append_assoc, String.append_assoc, String.toList_append,
    String.toList_append, String.toList_append, String.toList_append]
  · rfl
  · simp

theorem exists_renderFields {fields : List (String × Json)} (nonempty : fields ≠ []) :
    ∃ cs, (renderFields fields).toList = '"' :: cs := by
  obtain ⟨⟨key, value⟩, fields, rfl⟩ := List.exists_cons_of_ne_nil nonempty
  cases fields with
  | nil =>
    rw [renderFields_one, toList_renderString]
    exact ⟨_, rfl⟩
  | cons next fields =>
    rw [renderFields_more, toList_renderString]
    exact ⟨_, rfl⟩

theorem length_key (key : String) : key.toList.length + 2 ≤ (renderString key).toList.length := by
  rw [toList_renderString, List.length_cons, List.length_append]
  exact Nat.succ_le_succ (Nat.succ_le_succ (length_escaped key.toList))

theorem readItems_last {item : Json} {n : Nat} {cs : List Char} (read : readValue n cs = some (item, ']' :: rest)) :
    readItems (n + 1) cs = some ([item], rest) := by
  rw [readItems, read]
  dsimp only
  rw [skipBlanks_cons (by decide)]
  rfl

theorem readItems_more {item : Json} {items : List Json} {n : Nat} {cs more : List Char}
    (read : readValue n cs = some (item, ',' :: more)) (others : readItems n more = some (items, rest)) :
    readItems (n + 1) cs = some (item :: items, rest) := by
  rw [readItems, read]
  dsimp only
  rw [skipBlanks_cons (by decide)]
  simp [others]

theorem readFields_last {key : String} {value : Json} {n : Nat} {cs cs' : List Char} (name : readKey n cs = some (key, cs'))
    (read : readValue n cs' = some (value, '\x7d' :: rest)) : readFields (n + 1) cs = some ([(key, value)], rest) := by
  rw [readFields, name]
  dsimp only
  rw [read]
  dsimp only
  rw [skipBlanks_cons (by decide)]
  rfl

theorem readFields_more {key : String} {value : Json} {fields : List (String × Json)} {n : Nat} {cs cs' more : List Char}
    (name : readKey n cs = some (key, cs')) (read : readValue n cs' = some (value, ',' :: more))
    (others : readFields n more = some (fields, rest)) : readFields (n + 1) cs = some ((key, value) :: fields, rest) := by
  rw [readFields, name]
  dsimp only
  rw [read]
  dsimp only
  rw [skipBlanks_cons (by decide)]
  simp [others]

theorem stops_cons {c : Char} (off : c.isDigit = false) (rest : List Char) : Stops (c :: rest) := by
  intro d member
  obtain rfl := Option.some.inj member
  exact off

/-- A value is read back, whatever follows it, in at most as many steps as there are characters. -/
def ReadsBack (v : Json) : Prop :=
  ∀ rest n, Stops rest → v.render.toList.length ≤ n → readValue n (v.render.toList ++ rest) = some (v, rest)

theorem exists_succ {v : Json} {n : Nat} (enough : v.render.toList.length ≤ n) : ∃ m, n = m + 1 := by
  obtain ⟨c, cs, text, -⟩ := exists_render v
  rw [text, List.length_cons] at enough
  exact ⟨n - 1, by omega⟩

theorem readsBack_word {w : String × Json} (member : w ∈ words) (text : w.2.render = w.1) : ReadsBack w.2 := by
  intro rest n _ enough
  obtain ⟨m, rfl⟩ := exists_succ enough
  rw [text, ← readSimple_word member rest]
  simp only [words, List.mem_cons, List.not_mem_nil, or_false] at member
  rcases member with rfl | rfl | rfl <;> exact readValue_simple (by decide) (by decide) (by decide) (by decide) m

theorem readsBack_int (k : Int) : ReadsBack (int k) := by
  intro rest n stops enough
  obtain ⟨m, rfl⟩ := exists_succ enough
  obtain ⟨c, cs, text, first⟩ := exists_toString k
  rw [render, ← readSimple_int k stops, text, List.cons_append]
  rcases first with digit | rfl
  · have ne {d : Char} (off : d.isDigit = false) : c ≠ d := by
      rintro rfl
      rw [digit] at off
      cases off
    exact readValue_simple (isBlank_of_isDigit digit) (ne (by decide)) (ne (by decide)) (ne (by decide)) m
  · exact readValue_simple (by decide) (by decide) (by decide) (by decide) m

theorem readsBack_str (s : String) : ReadsBack (str s) := by
  intro rest n _ enough
  obtain ⟨m, rfl⟩ := exists_succ enough
  have long := length_key s
  rw [render] at enough ⊢
  rw [toList_renderString, List.cons_append, readValue_quote, List.append_assoc, List.singleton_append,
    readChars_string _ _ (by omega)]
  simp

theorem readItems_render {items : List Json} (nonempty : items ≠ []) (each : ∀ v ∈ items, ReadsBack v) {n : Nat}
    (enough : (renderItems items).toList.length < n) (rest : List Char) :
    readItems n ((renderItems items).toList ++ ']' :: rest) = some (items, rest) := by
  induction items generalizing n with
  | nil => exact absurd rfl nonempty
  | cons item items ih =>
    obtain ⟨m, rfl⟩ := Nat.exists_eq_succ_of_ne_zero (Nat.ne_zero_of_lt enough)
    have first := each item (by simp)
    cases items with
    | nil =>
      rw [renderItems] at enough ⊢
      exact readItems_last (first _ m (stops_cons (by decide) rest) (Nat.le_of_lt_succ enough))
    | cons next items =>
      rw [renderItems_more] at enough ⊢
      rw [List.length_append, List.length_cons] at enough
      rw [List.append_assoc]
      exact readItems_more (first _ m (stops_cons (by decide) _) (by omega))
        (ih (by simp) (fun v member => each v (by simp [member])) (by omega))

theorem readFields_render {fields : List (String × Json)} (nonempty : fields ≠ []) (each : ∀ f ∈ fields, ReadsBack f.2)
    {n : Nat} (enough : (renderFields fields).toList.length < n) (rest : List Char) :
    readFields n ((renderFields fields).toList ++ '\x7d' :: rest) = some (fields, rest) := by
  induction fields generalizing n with
  | nil => exact absurd rfl nonempty
  | cons field fields ih =>
    obtain ⟨m, rfl⟩ := Nat.exists_eq_succ_of_ne_zero (Nat.ne_zero_of_lt enough)
    obtain ⟨key, value⟩ := field
    have first : ReadsBack value := each (key, value) (by simp)
    have long := length_key key
    cases fields with
    | nil =>
      rw [renderFields_one] at enough ⊢
      rw [List.length_append, List.length_cons] at enough
      rw [List.append_assoc]
      exact readFields_last (readKey_renderString key (by omega) _) (first _ m (stops_cons (by decide) rest) (by omega))
    | cons next fields =>
      rw [renderFields_more] at enough ⊢
      rw [List.length_append, List.length_cons, List.length_append, List.length_cons] at enough
      rw [List.append_assoc, List.cons_append, List.append_assoc]
      exact readFields_more (readKey_renderString key (by omega) _) (first _ m (stops_cons (by decide) _) (by omega))
        (ih (by simp) (fun f member => each f (by simp [member])) (by omega))

theorem readsBack_arr {items : List Json} (each : ∀ v ∈ items, ReadsBack v) : ReadsBack (arr items) := by
  intro rest n _ enough
  obtain ⟨m, rfl⟩ := exists_succ enough
  by_cases none : items = []
  · subst none
    rfl
  · obtain ⟨c, cs, text, solid, notEnd⟩ := exists_renderItems none
    have shown : (arr items).render.toList = '[' :: ((renderItems items).toList ++ [']']) := by simp [render]
    rw [shown] at enough ⊢
    rw [List.length_cons, List.length_append, List.length_singleton] at enough
    rw [List.cons_append, List.append_assoc, List.singleton_append, text, List.cons_append, readValue_list solid notEnd,
      ← List.cons_append, ← text, readItems_render none each (by omega)]
    rfl

theorem readsBack_obj {fields : List (String × Json)} (each : ∀ f ∈ fields, ReadsBack f.2) : ReadsBack (obj fields) := by
  intro rest n _ enough
  obtain ⟨m, rfl⟩ := exists_succ enough
  by_cases none : fields = []
  · subst none
    rfl
  · obtain ⟨cs, text⟩ := exists_renderFields none
    have shown : (obj fields).render.toList = '\x7b' :: ((renderFields fields).toList ++ ['\x7d']) := by simp [render]
    rw [shown] at enough ⊢
    rw [List.length_cons, List.length_append, List.length_singleton] at enough
    rw [List.cons_append, List.append_assoc, List.singleton_append, text, List.cons_append,
      readValue_object (by decide) (by decide), ← List.cons_append, ← text, readFields_render none each (by omega)]
    rfl

theorem readsBack (v : Json) : ReadsBack v :=
  v.induct (readsBack_word (w := ("null", null)) (by simp [words]) rfl)
    (fun b => by
      cases b with
      | true => exact readsBack_word (w := ("true", bool true)) (by simp [words]) rfl
      | false => exact readsBack_word (w := ("false", bool false)) (by simp [words]) rfl)
    readsBack_int readsBack_str (fun _ => readsBack_arr) (fun _ => readsBack_obj)

/-- The text of a value gives the value back, also with blanks after it. -/
theorem ofText?_render (v : Json) {blanks : String} (blank : ∀ c ∈ blanks.toList, isBlank c = true) :
    ofText? (v.render ++ blanks) = some v := by
  have stops : Stops blanks.toList := by
    intro c first
    rw [Bool.eq_false_iff]
    intro digit
    have isBlank := blank c (List.mem_of_mem_head? first)
    rw [isBlank_of_isDigit digit] at isBlank
    cases isBlank
  have enough : v.render.toList.length ≤ (v.render ++ blanks).length := by
    rw [String.length_append, String.length_toList]
    exact Nat.le_add_right _ _
  have read := readsBack v blanks.toList _ stops enough
  have nothing : skipBlanks blanks.toList = [] := List.dropWhile_eq_nil_iff.2 blank
  rw [ofText?, String.toList_append, read]
  simp [nothing]

end Values

section Safety

instance (c : Char) : Decidable (IsEscaped c) :=
  inferInstanceAs (Decidable (c.toNat < 0x20 ∨ c = '<' ∨ c = '>' ∨ c = '&' ∨ c.toNat = 0x2028 ∨ c.toNat = 0x2029))

/-- No character needs an escape where it stands. -/
def IsSafe (cs : List Char) : Prop := ∀ c ∈ cs, ¬ IsEscaped c

instance (cs : List Char) : Decidable (IsSafe cs) := List.decidableBAll (fun c => ¬ IsEscaped c) cs

theorem isSafe_append {cs ds : List Char} : IsSafe (cs ++ ds) ↔ IsSafe cs ∧ IsSafe ds := List.forall_mem_append

theorem isSafe_cons {c : Char} {cs : List Char} : IsSafe (c :: cs) ↔ ¬ IsEscaped c ∧ IsSafe cs := List.forall_mem_cons

theorem isSafe_hex {c : Char} (escaped : IsEscaped c) : IsSafe (Text.hex 4 c.toNat).toList := by
  have low : ∀ n < 0x20, IsSafe (Text.hex 4 n).toList := by decide +kernel
  rcases escaped with control | rfl | rfl | rfl | line | paragraph
  · exact low _ control
  · decide
  · decide
  · decide
  · rw [line]
    decide
  · rw [paragraph]
    decide

theorem isSafe_escapedChar (c : Char) : IsSafe (escapedChar c).toList := by
  rw [escapedChar.eq_def]
  split
  · decide
  · decide
  · decide
  · decide
  · decide
  · split
    · decide
    · split
      · decide
      · split
        · rename_i escaped
          rw [String.toList_append]
          exact isSafe_append.2 ⟨by decide, isSafe_hex escaped⟩
        · rename_i plain
          rw [String.toList_singleton]
          exact List.forall_mem_singleton.2 plain

theorem isSafe_renderString (s : String) : IsSafe (renderString s).toList := by
  have chars : IsSafe (s.toList.flatMap fun c => (escapedChar c).toList) := by
    intro c member
    obtain ⟨d, -, inside⟩ := List.mem_flatMap.1 member
    exact isSafe_escapedChar d c inside
  rw [toList_renderString]
  exact isSafe_cons.2 ⟨by decide, isSafe_append.2 ⟨chars, by decide⟩⟩

theorem isSafe_toString (n : Int) : IsSafe (toString n).toList := by
  have digit : ∀ c, c.isDigit = true → ¬ IsEscaped c := by
    intro c digit escaped
    have low : ∀ n < 0x20, (Char.ofNat n).isDigit = false := by decide
    rw [← Char.ofNat_toNat c] at digit
    rcases escaped with control | rfl | rfl | rfl | line | paragraph
    · rw [low _ control] at digit
      cases digit
    · exact absurd digit (by decide)
    · exact absurd digit (by decide)
    · exact absurd digit (by decide)
    · rw [line] at digit
      exact absurd digit (by decide)
    · rw [paragraph] at digit
      exact absurd digit (by decide)
  have digits : IsSafe (Nat.toDigits 10 n.natAbs) :=
    fun c member => digit c (Nat.isDigit_of_mem_toDigits (by decide) (by decide) member)
  rw [toList_toString]
  refine isSafe_append.2 ⟨?_, digits⟩
  split <;> decide

theorem isSafe_renderItems {items : List Json} (each : ∀ v ∈ items, IsSafe v.render.toList) :
    IsSafe (renderItems items).toList := by
  induction items with
  | nil => decide
  | cons item items ih =>
    have first := each item (by simp)
    cases items with
    | nil => exact first
    | cons next items =>
      rw [renderItems_more]
      exact isSafe_append.2 ⟨first, isSafe_cons.2 ⟨by decide, ih fun v member => each v (by simp [member])⟩⟩

theorem isSafe_renderFields {fields : List (String × Json)} (each : ∀ f ∈ fields, IsSafe f.2.render.toList) :
    IsSafe (renderFields fields).toList := by
  induction fields with
  | nil => decide
  | cons field fields ih =>
    obtain ⟨key, value⟩ := field
    have first : IsSafe value.render.toList := each (key, value) (by simp)
    cases fields with
    | nil =>
      rw [renderFields_one]
      exact isSafe_append.2 ⟨isSafe_renderString key, isSafe_cons.2 ⟨by decide, first⟩⟩
    | cons next fields =>
      rw [renderFields_more]
      have others := ih fun f member => each f (by simp [member])
      exact isSafe_append.2 ⟨isSafe_renderString key, isSafe_cons.2 ⟨by decide, isSafe_append.2 ⟨first,
        isSafe_cons.2 ⟨by decide, others⟩⟩⟩⟩

/-- The text of a value can stand inside a page, on one line. -/
theorem isSafe_render (v : Json) : IsSafe v.render.toList := by
  induction v using induct with
  | null => decide
  | bool b => cases b <;> decide
  | int n => exact isSafe_toString n
  | str s => exact isSafe_renderString s
  | arr items each =>
    rw [render, String.toList_append, String.toList_append]
    exact isSafe_append.2 ⟨isSafe_append.2 ⟨by decide, isSafe_renderItems each⟩, by decide⟩
  | obj fields each =>
    rw [render, String.toList_append, String.toList_append]
    exact isSafe_append.2 ⟨isSafe_append.2 ⟨by decide, isSafe_renderFields each⟩, by decide⟩

end Safety

end Distill.Json
