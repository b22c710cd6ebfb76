import Distill.Proofs.Text.Utf8

/-!
Lossy decoding as a repair of bytes. What is well-formed is said by a table of byte ranges, and where a text is
ill-formed, by its maximal subparts: at a place where no character begins, the longest beginning of one, or else a single
byte. Every sequence of bytes is divided into characters and such subparts in exactly one way (`exists_divides`,
`Divides.unique`), and decoding keeps the characters and writes one replacement for each subpart (`Divides.decode`).
Decoding may be done piece by piece if no piece starts inside of a character (`decodeFrom_append`).
-/
namespace Distill.Text

/-- Whether there are as many bytes as ranges, and each byte lies in its range. -/
def fits : List (UInt8 × UInt8) → Bytes → Bool
  | [], [] => true
  | (low, high) :: row, b :: bs => low ≤ b && b ≤ high && fits row bs
  | _, _ => false

/-- The well-formed sequences of bytes for one character. Longer forms than needed, surrogates and what lies above the
last code point are left out by the range of the second byte. -/
def table : List (List (UInt8 × UInt8)) :=
  [[(0x00, 0x7F)],
   [(0xC2, 0xDF), (0x80, 0xBF)],
   [(0xE0, 0xE0), (0xA0, 0xBF), (0x80, 0xBF)],
   [(0xE1, 0xEC), (0x80, 0xBF), (0x80, 0xBF)],
   [(0xED, 0xED), (0x80, 0x9F), (0x80, 0xBF)],
   [(0xEE, 0xEF), (0x80, 0xBF), (0x80, 0xBF)],
   [(0xF0, 0xF0), (0x90, 0xBF), (0x80, 0xBF), (0x80, 0xBF)],
   [(0xF1, 0xF3), (0x80, 0xBF), (0x80, 0xBF), (0x80, 0xBF)],
   [(0xF4, 0xF4), (0x80, 0x8F), (0x80, 0xBF), (0x80, 0xBF)]]

/-- The bytes of one character. -/
def IsCharacter (bs : Bytes) : Prop := ∃ row ∈ table, fits row bs = true

instance (bs : Bytes) : Decidable (IsCharacter bs) := inferInstanceAs (Decidable (∃ row ∈ table, _))

/-- Characters one after the other. -/
inductive WellFormed : Bytes → Prop where
  | nil : WellFormed []
  | cons {c rest : Bytes} (character : IsCharacter c) (wellFormed : WellFormed rest) : WellFormed (c ++ rest)

/-- A byte that can only stand inside of a character. -/
def IsTail (b : UInt8) : Prop := 0x80 ≤ b ∧ b ≤ 0xBF

instance (b : UInt8) : Decidable (IsTail b) := inferInstanceAs (Decidable (_ ∧ _))

/-- At the start of `x` no character stands, and `bs` is the longest part there that could still have become one, or
else a single byte. -/
structure MaximalSubpart (bs x : Bytes) : Prop where
  front : bs <+: x
  nonempty : bs ≠ []
  unconvertible : ∀ cs, cs <+: x → ¬ IsCharacter cs
  begins : (∃ more, IsCharacter (bs ++ more)) ∨ bs.length = 1
  longest : ∀ cs, cs <+: x → (∃ more, IsCharacter (cs ++ more)) → cs.length ≤ bs.length

inductive Part where
  | character (bs : Bytes)
  | subpart (bs : Bytes)
deriving DecidableEq, Repr

/-- What is written for a part. -/
def Part.written : Part → Bytes
  | character bs => bs
  | subpart _ => String.utf8EncodeChar replacement

/-- The bytes are, from the first on, characters and maximal subparts of what is none. -/
inductive Divides : Bytes → List Part → Prop where
  | nil : Divides [] []
  | character {bs rest : Bytes} {parts : List Part} (whole : IsCharacter bs) (divides : Divides rest parts) :
    Divides (bs ++ rest) (.character bs :: parts)
  | subpart {bs rest : Bytes} {parts : List Part} (maximal : MaximalSubpart bs (bs ++ rest))
    (divides : Divides rest parts) : Divides (bs ++ rest) (.subpart bs :: parts)

section Characters

variable {a b c d : UInt8}

theorem isCharacter_one : IsCharacter [a] ↔ a.toNat < 0x80 := by
  simp [IsCharacter, table, fits, UInt8.le_iff_toNat_le]
  omega

theorem isCharacter_two : IsCharacter [a, b] ↔ (0xC2 ≤ a.toNat ∧ a.toNat < 0xE0) ∧ 0x80 ≤ b.toNat ∧ b.toNat ≤ 0xBF := by
  simp [IsCharacter, table, fits, UInt8.le_iff_toNat_le]
  omega

theorem isCharacter_three : IsCharacter [a, b, c] ↔ (0xE0 ≤ a.toNat ∧ a.toNat < 0xF0) ∧
    (0x80 ≤ b.toNat ∧ b.toNat ≤ 0xBF) ∧ (a.toNat = 0xE0 → 0xA0 ≤ b.toNat) ∧ (a.toNat = 0xED → b.toNat ≤ 0x9F) ∧
    0x80 ≤ c.toNat ∧ c.toNat ≤ 0xBF := by
  simp [IsCharacter, table, fits, UInt8.le_iff_toNat_le]
  omega

theorem isCharacter_four : IsCharacter [a, b, c, d] ↔ (0xF0 ≤ a.toNat ∧ a.toNat < 0xF5) ∧
    (0x80 ≤ b.toNat ∧ b.toNat ≤ 0xBF) ∧ (a.toNat = 0xF0 → 0x90 ≤ b.toNat) ∧ (a.toNat = 0xF4 → b.toNat ≤ 0x8F) ∧
    (0x80 ≤ c.toNat ∧ c.toNat ≤ 0xBF) ∧ 0x80 ≤ d.toNat ∧ d.toNat ≤ 0xBF := by
  simp [IsCharacter, table, fits, UInt8.le_iff_toNat_le]
  omega

/-- No character takes more than four bytes. -/
theorem length_of_isCharacter {bs : Bytes} (character : IsCharacter bs) : bs.length ∈ [1, 2, 3, 4] := by
  have length : ∀ (row : List (UInt8 × UInt8)) (bs : Bytes), fits row bs = true → bs.length = row.length := by
    intro row bs fit
    fun_induction fits row bs with
    | case1 => rfl
    | case2 low high row b bs ih =>
      simp only [Bool.and_eq_true] at fit
      simp [ih fit.2]
    | case3 => cases fit
  obtain ⟨row, member, fit⟩ := character
  rw [length row bs fit]
  have rows : ∀ row ∈ table, row.length ∈ [1, 2, 3, 4] := by decide
  exact rows row member

theorem ne_nil_of_isCharacter {bs : Bytes} (character : IsCharacter bs) : bs ≠ [] := by
  rintro rfl
  exact absurd character (by decide)

/-- Only a character of a single byte has a byte below 0x80. -/
theorem single_or_above {bs : Bytes} (character : IsCharacter bs) : (∃ a, bs = [a]) ∨ ∀ b ∈ bs, ¬ b < 0x80 := by
  have length := length_of_isCharacter character
  simp only [UInt8.lt_iff_toNat_lt, UInt8.reduceToNat]
  rcases bs with _ | ⟨a, _ | ⟨b, _ | ⟨c, _ | ⟨d, _ | ⟨e, more⟩⟩⟩⟩⟩
  · simp at length
  · exact Or.inl ⟨a, rfl⟩
  · rw [isCharacter_two] at character
    refine Or.inr ?_
    simp only [List.mem_cons, List.not_mem_nil, or_false, forall_eq_or_imp, forall_eq]
    omega
  · rw [isCharacter_three] at character
    refine Or.inr ?_
    simp only [List.mem_cons, List.not_mem_nil, or_false, forall_eq_or_imp, forall_eq]
    omega
  · rw [isCharacter_four] at character
    refine Or.inr ?_
    simp only [List.mem_cons, List.not_mem_nil, or_false, forall_eq_or_imp, forall_eq]
    omega
  · simp at length

theorem isCharacter_utf8EncodeChar (c : Char) : IsCharacter (String.utf8EncodeChar c) := by
  have valid : c.val.toNat < 0xD800 ∨ 0xDFFF < c.val.toNat ∧ c.val.toNat < 0x110000 := c.valid
  rw [String.utf8EncodeChar]
  generalize c.val.toNat = v at valid
  split
  · rw [isCharacter_one, toNat_byte (by omega)]
    omega
  · split
    · rw [isCharacter_two, toNat_byte (by omega), toNat_byte (by omega)]
      omega
    · split
      · rw [isCharacter_three, toNat_byte (by omega), toNat_byte (by omega), toNat_byte (by omega)]
        omega
      · rw [isCharacter_four, toNat_byte (by omega), toNat_byte (by omega), toNat_byte (by omega), toNat_byte (by omega)]
        omega

/-- The bytes of a character encode one. -/
theorem exists_utf8EncodeChar {bs : Bytes} (character : IsCharacter bs) : ∃ c, String.utf8EncodeChar c = bs := by
  have byte {n : Nat} {x : UInt8} (eq : n = x.toNat) : UInt8.ofNat n = x := by rw [eq, UInt8.ofNat_toNat]
  have code {v : Nat} (valid : v < 0xD800 ∨ 0xDFFF < v ∧ v < 0x110000) : (Char.ofNat v).val.toNat = v := by
    rw [Char.ofNat, dif_pos (show v.isValidChar from valid)]
    rfl
  have length := length_of_isCharacter character
  rcases bs with _ | ⟨a, _ | ⟨b, _ | ⟨c, _ | ⟨d, _ | ⟨e, more⟩⟩⟩⟩⟩
  · simp at length
  · rw [isCharacter_one] at character
    refine ⟨Char.ofNat a.toNat, ?_⟩
    rw [String.utf8EncodeChar, code (by omega), if_pos (by omega), byte rfl]
  · rw [isCharacter_two] at character
    refine ⟨Char.ofNat ((a.toNat - 0xC0) * 64 + (b.toNat - 0x80)), ?_⟩
    rw [String.utf8EncodeChar, code (by omega), if_neg (by omega), if_pos (by omega), byte (x := a) (by omega),
      byte (x := b) (by omega)]
  · rw [isCharacter_three] at character
    refine ⟨Char.ofNat (((a.toNat - 0xE0) * 64 + (b.toNat - 0x80)) * 64 + (c.toNat - 0x80)), ?_⟩
    rw [String.utf8EncodeChar, code (by omega), if_neg (by omega), if_neg (by omega), if_pos (by omega),
      byte (x := a) (by omega), byte (x := b) (by omega), byte (x := c) (by omega)]
  · rw [isCharacter_four] at character
    refine ⟨Char.ofNat ((((a.toNat - 0xF0) * 64 + (b.toNat - 0x80)) * 64 + (c.toNat - 0x80)) * 64 + (d.toNat - 0x80)), ?_⟩
    rw [String.utf8EncodeChar, code (by omega), if_neg (by omega), if_neg (by omega), if_neg (by omega),
      byte (x := a) (by omega), byte (x := b) (by omega), byte (x := c) (by omega), byte (x := d) (by omega)]
  · simp at length

theorem wellFormed_encodeChars (cs : List Char) : WellFormed (encodeChars cs) := by
  induction cs with
  | nil => exact .nil
  | cons c cs ih => exact .cons (isCharacter_utf8EncodeChar c) ih

theorem WellFormed.eq_encodeChars {x : Bytes} (wellFormed : WellFormed x) : ∃ cs, x = encodeChars cs := by
  induction wellFormed with
  | nil => exact ⟨[], rfl⟩
  | cons character _ ih =>
    obtain ⟨c, rfl⟩ := exists_utf8EncodeChar character
    obtain ⟨cs, rfl⟩ := ih
    exact ⟨c :: cs, rfl⟩

/-- No character begins another one. -/
theorem eq_of_isCharacter {bs cs x y : Bytes} (first : IsCharacter bs) (second : IsCharacter cs) (eq : bs ++ x = cs ++ y) :
    bs = cs := by
  obtain ⟨b, rfl⟩ := exists_utf8EncodeChar first
  obtain ⟨c, rfl⟩ := exists_utf8EncodeChar second
  have decoded := congrArg (decodeFrom .start) eq
  rw [decodeFrom_utf8EncodeChar, decodeFrom_utf8EncodeChar, List.cons.injEq] at decoded
  rw [decoded.1]

end Characters

section Unfinished

/-- The ranges of the bytes that are missing. -/
def DecodeState.row : DecodeState → List (UInt8 × UInt8)
  | .start => []
  | .within missing low high _ => (low, high) :: List.replicate missing (0x80, 0xBF)

/-- The bytes `p` begin a character, and after them decoding is in the state `s`. -/
structure Pending (p : Bytes) (s : DecodeState) : Prop where
  reads : ∀ x, decodeFrom .start (p ++ x) = decodeFrom s x
  completes : ∀ more, IsCharacter (p ++ more) ↔ fits s.row more = true
  begins : ∃ more, IsCharacter (p ++ more)
  unfinished : ∀ cs, cs <+: p → ¬ IsCharacter cs
  nonempty : p ≠ []

/-- What the rows of the table leave after a first byte. -/
private def rowsAfter (a : UInt8) : List (List (UInt8 × UInt8)) :=
  table.filterMap fun
    | [] => none
    | (low, high) :: row => if low ≤ a ∧ a ≤ high then some row else none

private theorem isCharacter_cons (a : UInt8) (more : Bytes) :
    IsCharacter (a :: more) ↔ ∃ row ∈ rowsAfter a, fits row more = true := by
  simp only [IsCharacter, rowsAfter, List.mem_filterMap]
  constructor
  · rintro ⟨_ | ⟨⟨low, high⟩, row⟩, member, fit⟩
    · cases fit
    · simp only [fits, Bool.and_eq_true, decide_eq_true_eq] at fit
      exact ⟨row, ⟨_, member, if_pos fit.1⟩, fit.2⟩
  · rintro ⟨row, ⟨_ | ⟨⟨low, high⟩, rest⟩, member, left⟩, fit⟩
    · cases left
    · dsimp only at left
      split at left
      · rename_i inside
        rw [Option.some.injEq] at left
        exact ⟨_, member, by simp [fits, inside, left, fit]⟩
      · cases left

/-- The table and the decoder agree on the first byte of a character. -/
private theorem rowsAfter_eq (a : UInt8) :
    rowsAfter a = if a < 0x80 then [[]] else if a < 0xC2 ∨ 0xF5 ≤ a then [] else [(DecodeState.lead a).2.row] := by
  have all : ∀ n < 256, rowsAfter (UInt8.ofNat n) = if UInt8.ofNat n < 0x80 then [[]]
      else if UInt8.ofNat n < 0xC2 ∨ 0xF5 ≤ UInt8.ofNat n then [] else [(DecodeState.lead (UInt8.ofNat n)).2.row] := by
    decide +kernel
  simpa using all a.toNat a.toNat_lt

private theorem fits_replicate (n : Nat) : fits (List.replicate n (0x80, 0xBF)) (List.replicate n 0x80) = true := by
  induction n with
  | zero => rfl
  | succ n ih => simp [List.replicate_succ, fits, ih]

theorem pending_lead {a : UInt8} (above : 0xC2 ≤ a) (below : a < 0xF5) : Pending [a] (DecodeState.lead a).2 := by
  rw [UInt8.le_iff_toNat_le] at above
  rw [UInt8.lt_iff_toNat_lt] at below
  simp only [UInt8.reduceToNat] at above below
  have silent : (DecodeState.lead a).1 = [] := by
    rcases Nat.lt_or_ge a.toNat 0xE0 with two | more
    · rw [lead_two above two]
    · rcases Nat.lt_or_ge a.toNat 0xF0 with three | four
      · rw [lead_three more three]
      · rw [lead_four four below]
  have completes (more : Bytes) : IsCharacter ([a] ++ more) ↔ fits (DecodeState.lead a).2.row more = true := by
    rw [List.singleton_append, isCharacter_cons, rowsAfter_eq, if_neg, if_neg]
    · simp
    · simp only [UInt8.lt_iff_toNat_lt, UInt8.le_iff_toNat_le, UInt8.reduceToNat]
      omega
    · simp only [UInt8.lt_iff_toNat_lt, UInt8.reduceToNat]
      omega
  have lowest : ∀ n < 256, fits (DecodeState.lead (UInt8.ofNat n)).2.row
      ((DecodeState.lead (UInt8.ofNat n)).2.row.map Prod.fst) = true := by decide +kernel
  have lowest := lowest a.toNat a.toNat_lt
  rw [UInt8.ofNat_toNat] at lowest
  refine ⟨fun x => ?_, completes, ⟨_, (completes _).2 lowest⟩, fun cs front => ?_, by simp⟩
  · rw [List.singleton_append, decodeFrom_cons, DecodeState.step, silent, List.nil_append]
  · rcases List.prefix_cons_iff.1 front with rfl | ⟨more, rfl, empty⟩
    · decide
    · rw [List.prefix_nil.1 empty, isCharacter_one]
      omega

variable {p : Bytes} {missing bits : Nat} {low high b : UInt8}

theorem Pending.more (pending : Pending p (.within (missing + 1) low high bits)) (inside : low ≤ b ∧ b ≤ high) :
    Pending (p ++ [b]) (.within missing 0x80 0xBF (bits * 64 + (b.toNat - 0x80))) := by
  have completes (more : Bytes) :
      IsCharacter (p ++ [b] ++ more) ↔ fits (List.replicate (missing + 1) (0x80, 0xBF)) more = true := by
    rw [List.append_assoc, List.singleton_append, pending.completes, DecodeState.row, fits]
    simp [inside]
  refine ⟨fun x => ?_, completes, ⟨_, (completes _).2 (fits_replicate _)⟩, fun cs front => ?_, by simp⟩
  · rw [List.append_assoc, List.singleton_append, pending.reads, decodeFrom_cons, step_more inside, List.nil_append]
  · rcases List.prefix_concat_iff.1 front with rfl | front
    · rw [← List.append_nil (p ++ [b]), completes]
      simp [List.replicate_succ, fits]
    · exact pending.unfinished cs front

theorem Pending.ne_start {s : DecodeState} (pending : Pending p s) : s ≠ .start := by
  rintro rfl
  have character : IsCharacter (p ++ []) := (pending.completes []).2 rfl
  exact pending.unfinished (p ++ []) (by simp) character

/-- A byte that cannot follow is read again as the first of something. -/
theorem decodeFrom_outside (outside : ¬ (low ≤ b ∧ b ≤ high)) (x : Bytes) :
    decodeFrom (.within missing low high bits) (b :: x) = replacement :: decodeFrom .start (b :: x) := by
  have step : DecodeState.step (.within missing low high bits) b =
      (replacement :: (DecodeState.lead b).1, (DecodeState.lead b).2) := by rw [DecodeState.step, if_neg outside]
  rw [decodeFrom_cons, decodeFrom_cons, step]
  rfl

/-- A byte that cannot follow ends what is unfinished. -/
theorem Pending.maximal {s : DecodeState} (pending : Pending p s) {x : Bytes}
    (stuck : ∀ b rest, x = b :: rest → ∀ more, fits s.row (b :: more) = false) : MaximalSubpart p (p ++ x) := by
  -- a part that could still become a character does not reach beyond the bytes read so far
  have within (cs : Bytes) (front : cs <+: p ++ x) (begins : ∃ more, IsCharacter (cs ++ more)) : cs <+: p := by
    rcases List.prefix_or_prefix_of_prefix front (List.prefix_append p x) with inside | ⟨t, rfl⟩
    · exact inside
    · cases t with
      | nil => simp
      | cons b t =>
        obtain ⟨more, character⟩ := begins
        obtain ⟨rest, eq⟩ := (List.prefix_append_right_inj p).1 front
        rw [List.append_assoc, List.cons_append, pending.completes, stuck b _ eq.symm] at character
        cases character
  refine ⟨List.prefix_append p x, pending.nonempty, fun cs front character => ?_, Or.inl pending.begins,
    fun cs front begins => (within cs front begins).length_le⟩
  exact pending.unfinished cs (within cs front ⟨[], by simpa using character⟩) character

/-- What begins as a character becomes one, or its longest part that could have is replaced. -/
theorem Pending.split {s : DecodeState} (pending : Pending p s) (x : Bytes) :
    (∃ t rest, x = t ++ rest ∧ IsCharacter (p ++ t)) ∨
      ∃ t rest, x = t ++ rest ∧ MaximalSubpart (p ++ t) (p ++ x) ∧
        decodeFrom s x = replacement :: decodeFrom .start rest := by
  cases s with
  | start => exact absurd rfl pending.ne_start
  | within missing low high bits =>
    induction x generalizing p missing low high bits with
    | nil => exact Or.inr ⟨[], [], rfl, by simpa using pending.maximal (x := []) (by simp), rfl⟩
    | cons b xs ih =>
      by_cases inside : low ≤ b ∧ b ≤ high
      · cases missing with
        | zero => exact Or.inl ⟨[b], xs, rfl, (pending.completes [b]).2 (by simp [DecodeState.row, fits, inside])⟩
        | succ missing =>
          rcases ih _ _ _ _ (pending.more inside) with ⟨t, rest, rfl, character⟩ | ⟨t, rest, rfl, maximal, decoded⟩
          · exact Or.inl ⟨b :: t, rest, rfl, by simpa using character⟩
          · refine Or.inr ⟨b :: t, rest, rfl, by simpa using maximal, ?_⟩
            rw [decodeFrom_cons, step_more inside, List.nil_append, decoded]
      · refine Or.inr ⟨[], b :: xs, rfl, ?_, decodeFrom_outside inside xs⟩
        rw [List.append_nil]
        refine pending.maximal fun c rest eq more => ?_
        rw [List.cons.injEq] at eq
        have unfit : (decide (low ≤ b) && decide (b ≤ high)) = false := by
          rw [← Bool.decide_and, decide_eq_false inside]
        rw [DecodeState.row, fits, ← eq.1, unfit, Bool.false_and]

end Unfinished

section Division

variable {a : UInt8} {x : Bytes}

theorem lead_stray (notOne : ¬ a < 0x80) (stray : a < 0xC2 ∨ 0xF5 ≤ a) :
    DecodeState.lead a = ([replacement], .start) := by
  simp only [UInt8.lt_iff_toNat_lt, UInt8.le_iff_toNat_le, UInt8.reduceToNat] at notOne stray
  simp only [DecodeState.lead, UInt8.lt_iff_toNat_lt, UInt8.reduceToNat]
  rw [if_neg notOne]
  split
  · rfl
  · rw [if_neg (by omega), if_neg (by omega), if_neg (by omega)]

/-- A byte with which no character starts is a subpart of its own. -/
theorem maximal_stray (notOne : ¬ a < 0x80) (stray : a < 0xC2 ∨ 0xF5 ≤ a) (x : Bytes) : MaximalSubpart [a] (a :: x) := by
  have never (more : Bytes) : ¬ IsCharacter (a :: more) := by
    rw [isCharacter_cons, rowsAfter_eq, if_neg notOne, if_pos stray]
    simp
  have nothing (cs : Bytes) (front : cs <+: a :: x) (begins : ∃ more, IsCharacter (cs ++ more)) : cs = [] := by
    rcases List.prefix_cons_iff.1 front with rfl | ⟨t, rfl, -⟩
    · rfl
    · obtain ⟨more, character⟩ := begins
      exact absurd character (never _)
  refine ⟨by simp, by simp, fun cs front character => ?_, Or.inr rfl, fun cs front begins => ?_⟩
  · have empty := nothing cs front ⟨[], by simpa using character⟩
    rw [empty] at character
    exact absurd character (by decide)
  · simp [nothing cs front begins]

/-- What stands at the start of some bytes is a character or is replaced. -/
theorem first_part (some : x ≠ []) :
    (∃ bs rest, x = bs ++ rest ∧ IsCharacter bs) ∨
      ∃ bs rest, x = bs ++ rest ∧ MaximalSubpart bs x ∧ decodeFrom .start x = replacement :: decodeFrom .start rest := by
  cases x with
  | nil => exact absurd rfl some
  | cons a x =>
    by_cases one : a < 0x80
    · refine Or.inl ⟨[a], x, rfl, isCharacter_one.2 ?_⟩
      simpa [UInt8.lt_iff_toNat_lt] using one
    · by_cases stray : a < 0xC2 ∨ 0xF5 ≤ a
      · refine Or.inr ⟨[a], x, rfl, maximal_stray one stray x, ?_⟩
        rw [decodeFrom_cons, DecodeState.step, lead_stray one stray]
        rfl
      · simp only [UInt8.lt_iff_toNat_lt, UInt8.le_iff_toNat_le, UInt8.reduceToNat] at stray
        have pending : Pending [a] (DecodeState.lead a).2 := by
          apply pending_lead
          · simp only [UInt8.le_iff_toNat_le, UInt8.reduceToNat]
            omega
          · simp only [UInt8.lt_iff_toNat_lt, UInt8.reduceToNat]
            omega
        rcases pending.split x with ⟨t, rest, rfl, character⟩ | ⟨t, rest, rfl, maximal, decoded⟩
        · exact Or.inl ⟨a :: t, rest, rfl, character⟩
        · exact Or.inr ⟨a :: t, rest, rfl, maximal, (pending.reads _).trans decoded⟩

/-- Bytes can be divided into characters and maximal subparts, and decoding writes what is written for these. -/
theorem exists_divides (x : Bytes) :
    ∃ parts, Divides x parts ∧ encodeChars (decodeFrom .start x) = parts.flatMap Part.written := by
  induction length : x.length using Nat.strongRecOn generalizing x with
  | ind n ih =>
    by_cases none : x = []
    · exact ⟨[], none ▸ .nil, none ▸ rfl⟩
    · rcases first_part none with ⟨bs, rest, rfl, character⟩ | ⟨bs, rest, rfl, maximal, decoded⟩
      · have shorter : rest.length < n := by
          have size := List.length_pos_iff.2 (ne_nil_of_isCharacter character)
          rw [← length, List.length_append]
          omega
        obtain ⟨parts, divides, written⟩ := ih _ shorter rest rfl
        obtain ⟨c, rfl⟩ := exists_utf8EncodeChar character
        refine ⟨_, .character character divides, ?_⟩
        rw [decodeFrom_utf8EncodeChar, List.flatMap_cons, ← written]
        rfl
      · have shorter : rest.length < n := by
          have size := List.length_pos_iff.2 maximal.nonempty
          rw [← length, List.length_append]
          omega
        obtain ⟨parts, divides, written⟩ := ih _ shorter rest rfl
        refine ⟨_, .subpart maximal divides, ?_⟩
        rw [decoded, List.flatMap_cons, ← written]
        rfl

theorem MaximalSubpart.length_le {bs cs : Bytes} (first : MaximalSubpart bs x) (second : MaximalSubpart cs x) :
    bs.length ≤ cs.length := by
  rcases first.begins with begins | single
  · exact second.longest bs first.front begins
  · rw [single]
    exact List.length_pos_iff.2 second.nonempty

theorem Divides.cases {ps : List Part} (divides : Divides x ps) :
    (x = [] ∧ ps = []) ∨
      (∃ bs rest parts, x = bs ++ rest ∧ ps = .character bs :: parts ∧ IsCharacter bs ∧ Divides rest parts) ∨
      ∃ bs rest parts, x = bs ++ rest ∧ ps = .subpart bs :: parts ∧ MaximalSubpart bs x ∧ Divides rest parts := by
  cases divides with
  | nil => exact Or.inl ⟨rfl, rfl⟩
  | character whole divides => exact Or.inr (Or.inl ⟨_, _, _, rfl, rfl, whole, divides⟩)
  | subpart maximal divides => exact Or.inr (Or.inr ⟨_, _, _, rfl, rfl, maximal, divides⟩)

/-- There is one way to divide bytes. -/
theorem Divides.unique {ps qs : List Part} (first : Divides x ps) (second : Divides x qs) : ps = qs := by
  induction first generalizing qs with
  | nil =>
    rcases second.cases with ⟨-, rfl⟩ | ⟨bs, rest, parts, eq, -, whole, -⟩ | ⟨bs, rest, parts, eq, -, maximal, -⟩
    · rfl
    · exact absurd (List.append_eq_nil_iff.1 eq.symm).1 (ne_nil_of_isCharacter whole)
    · exact absurd (List.append_eq_nil_iff.1 eq.symm).1 maximal.nonempty
  | @character bs rest parts whole divides ih =>
    rcases second.cases with ⟨eq, -⟩ | ⟨cs, more, others, eq, rfl, character, left⟩ | ⟨cs, more, others, eq, -, maximal, -⟩
    · exact absurd (List.append_eq_nil_iff.1 eq).1 (ne_nil_of_isCharacter whole)
    · obtain rfl := eq_of_isCharacter whole character eq
      rw [ih (List.append_cancel_left eq ▸ left)]
    · exact absurd whole (maximal.unconvertible bs (List.prefix_append bs rest))
  | @subpart bs rest parts maximal divides ih =>
    rcases second.cases with ⟨eq, -⟩ | ⟨cs, more, others, eq, -, character, -⟩ | ⟨cs, more, others, eq, rfl, other, left⟩
    · exact absurd (List.append_eq_nil_iff.1 eq).1 maximal.nonempty
    · exact absurd character (maximal.unconvertible cs (eq ▸ List.prefix_append cs more))
    · have same : bs.length = cs.length := Nat.le_antisymm (maximal.length_le other) (other.length_le maximal)
      obtain ⟨rfl, rest⟩ := List.append_inj eq same
      rw [ih (rest ▸ left)]

/-- No subpart has a byte below 0x80. -/
theorem MaximalSubpart.above {bs : Bytes} (maximal : MaximalSubpart bs x) : ∀ b ∈ bs, ¬ b < 0x80 := by
  rcases maximal.begins with ⟨more, character⟩ | single
  · rcases single_or_above character with ⟨a, eq⟩ | above
    · rcases List.append_eq_singleton_iff.1 eq with ⟨none, -⟩ | ⟨-, none⟩
      · exact absurd none maximal.nonempty
      · rw [none, List.append_nil] at character
        exact absurd character (maximal.unconvertible bs maximal.front)
    · exact fun b member => above b (by simp [member])
  · obtain ⟨a, rfl⟩ := List.length_eq_one_iff.1 single
    intro b member below
    rw [List.mem_singleton.1 member, UInt8.lt_iff_toNat_lt] at below
    exact maximal.unconvertible [a] maximal.front (isCharacter_one.2 below)

/-- A part keeps its bytes below 0x80, and has no others of these. -/
theorem Divides.ascii {parts : List Part} (divides : Divides x parts) :
    (parts.flatMap Part.written).filter (· < 0x80) = x.filter (· < 0x80) := by
  induction divides with
  | nil => rfl
  | character whole divides ih => rw [List.flatMap_cons, List.filter_append, List.filter_append, ih, Part.written]
  | @subpart bs rest parts maximal divides ih =>
    have none : bs.filter (· < 0x80) = [] := by
      rw [List.filter_eq_nil_iff]
      exact fun b member => by simpa using maximal.above b member
    have written : (String.utf8EncodeChar replacement).filter (· < 0x80) = [] := by decide +kernel
    rw [List.flatMap_cons, List.filter_append, List.filter_append, ih, Part.written, none, written]

end Division

section Pieces

/-- The bytes that can come next inside of a character are tails. -/
def DecodeState.Bounded : DecodeState → Prop
  | .start => True
  | .within _ low high _ => 0x80 ≤ low ∧ high ≤ 0xBF

instance : DecidablePred DecodeState.Bounded
  | .start => inferInstanceAs (Decidable True)
  | .within .. => inferInstanceAs (Decidable (_ ∧ _))

theorem bounded_lead (a : UInt8) : (DecodeState.lead a).2.Bounded := by
  have all : ∀ n < 256, (DecodeState.lead (UInt8.ofNat n)).2.Bounded := by decide +kernel
  simpa using all a.toNat a.toNat_lt

theorem bounded_step (s : DecodeState) (b : UInt8) : (s.step b).2.Bounded := by
  cases s with
  | start => exact bounded_lead b
  | within missing low high bits =>
    rw [DecodeState.step]
    split
    · cases missing with
      | zero => trivial
      | succ missing => exact ⟨UInt8.le_refl _, UInt8.le_refl _⟩
    · exact bounded_lead b

/-- Decoding may be done piece by piece, if the second piece does not start inside of a character. -/
theorem decodeFrom_append {s : DecodeState} (bounded : s.Bounded) (a : Bytes) {b : Bytes}
    (outside : ∀ first ∈ b.head?, ¬ IsTail first) : decodeFrom s (a ++ b) = decodeFrom s a ++ decodeFrom .start b := by
  induction a generalizing s with
  | nil =>
    cases s with
    | start => rfl
    | within missing low high bits =>
      cases b with
      | nil => rfl
      | cons first b =>
        have notInside : ¬ (low ≤ first ∧ first ≤ high) := fun inside =>
          outside first rfl ⟨UInt8.le_trans bounded.1 inside.1, UInt8.le_trans inside.2 bounded.2⟩
        exact decodeFrom_outside notInside b
  | cons x a ih => rw [List.cons_append, decodeFrom_cons, decodeFrom_cons, ih (bounded_step s x), List.append_assoc]

end Pieces

/-- The bytes of the text that some bytes are decoded to. -/
def repaired (x : Bytes) : Bytes := encode (decodeLossy x)

theorem repaired_eq (x : Bytes) : repaired x = encodeChars (decodeFrom .start x) := by
  rw [repaired, encode, decodeLossy, String.toList_ofList]
  rfl

theorem repaired_append (a : Bytes) {b : Bytes} (outside : ∀ first ∈ b.head?, ¬ IsTail first) :
    repaired (a ++ b) = repaired a ++ repaired b := by
  rw [repaired_eq, repaired_eq, repaired_eq, decodeFrom_append (s := .start) trivial a outside, encodeChars,
    List.flatMap_append]
  rfl

theorem repaired_of_wellFormed {x : Bytes} (wellFormed : WellFormed x) : repaired x = x := by
  obtain ⟨cs, rfl⟩ := wellFormed.eq_encodeChars
  have text := decodeLossy_encode (String.ofList cs)
  rw [encode, String.toList_ofList] at text
  rw [repaired, text, encode, String.toList_ofList]

theorem wellFormed_repaired (x : Bytes) : WellFormed (repaired x) := repaired_eq x ▸ wellFormed_encodeChars _

/-- A byte below 0x80 stays where it is between what the bytes on its two sides become. -/
theorem repaired_append_cons (a b : Bytes) {c : UInt8} (ascii : c < 0x80) :
    repaired (a ++ c :: b) = repaired a ++ c :: repaired b := by
  have number : c.toNat < 0x80 := by simpa [UInt8.lt_iff_toNat_lt] using ascii
  have outside : ∀ first ∈ (c :: b).head?, ¬ IsTail first := by
    rintro first ⟨⟩ ⟨above, -⟩
    simp only [UInt8.le_iff_toNat_le, UInt8.reduceToNat] at above
    omega
  obtain ⟨char, eq⟩ := exists_utf8EncodeChar (isCharacter_one.2 number)
  have decoded := decodeFrom_utf8EncodeChar char b
  rw [eq, List.singleton_append] at decoded
  rw [repaired_append a outside, repaired_eq (c :: b), decoded, encodeChars, List.flatMap_cons, eq, repaired_eq b]
  rfl

/-- Decoding repairs bytes: the result is well-formed, what is well-formed stays as it is, and pieces that do not start
inside of a character are repaired on their own. The bytes below 0x80 stay in their places, and no others come up. In the
one way to divide the bytes, characters are kept and each maximal subpart is written as one replacement character. -/
theorem repaired_exact (x : Bytes) :
    WellFormed (repaired x) ∧ (repaired x = x ↔ WellFormed x) ∧ repaired (repaired x) = repaired x ∧
      (∀ a b, x = a ++ b → (∀ first ∈ b.head?, ¬ IsTail first) → repaired x = repaired a ++ repaired b) ∧
      (∀ a c b, x = a ++ c :: b → c < 0x80 → repaired x = repaired a ++ c :: repaired b) ∧
      (repaired x).filter (· < 0x80) = x.filter (· < 0x80) ∧
      ∃ parts, Divides x parts ∧ (∀ others, Divides x others → others = parts) ∧
        repaired x = parts.flatMap Part.written := by
  obtain ⟨parts, divides, written⟩ := exists_divides x
  rw [← repaired_eq] at written
  refine ⟨wellFormed_repaired x, ⟨fun same => same ▸ wellFormed_repaired x, repaired_of_wellFormed⟩,
    repaired_of_wellFormed (wellFormed_repaired x), ?_, ?_, ?_, parts, divides, fun others other => other.unique divides,
    written⟩
  · rintro a b rfl outside
    exact repaired_append a outside
  · rintro a c b rfl ascii
    exact repaired_append_cons a b ascii
  · rw [written, divides.ascii]

/-- A mark of the byte order stays, a character that is cut short by a letter is replaced, and so is each byte of a
surrogate. -/
theorem repaired_exact_sample :
    ¬ IsTail 0xED ∧ (0x61 : UInt8) < 0x80 ∧
      repaired ([0xEF, 0xBB, 0xBF, 0xE2, 0x82] ++ 0x61 :: [0xED, 0xA0, 0x80]) =
        [0xEF, 0xBB, 0xBF, 0xEF, 0xBF, 0xBD] ++ 0x61 :: [0xEF, 0xBF, 0xBD, 0xEF, 0xBF, 0xBD, 0xEF, 0xBF, 0xBD] ∧
      repaired ([0xEF, 0xBB, 0xBF, 0xE2, 0x82, 0x61] ++ [0xED, 0xA0, 0x80]) =
        repaired [0xEF, 0xBB, 0xBF, 0xE2, 0x82, 0x61] ++ repaired [0xED, 0xA0, 0x80] := by
  have first : repaired [0xEF, 0xBB, 0xBF, 0xE2, 0x82] = [0xEF, 0xBB, 0xBF, 0xEF, 0xBF, 0xBD] := by decide +kernel
  have last : repaired [0xED, 0xA0, 0x80] = [0xEF, 0xBF, 0xBD, 0xEF, 0xBF, 0xBD, 0xEF, 0xBF, 0xBD] := by decide +kernel
  obtain ⟨-, -, -, pieces, letters, -⟩ := repaired_exact [0xEF, 0xBB, 0xBF, 0xE2, 0x82, 0x61, 0xED, 0xA0, 0x80]
  have middle := letters [0xEF, 0xBB, 0xBF, 0xE2, 0x82] 0x61 [0xED, 0xA0, 0x80] rfl (by decide)
  rw [first, last] at middle
  exact ⟨by decide, by decide, middle,
    pieces [0xEF, 0xBB, 0xBF, 0xE2, 0x82, 0x61] [0xED, 0xA0, 0x80] rfl (by decide +kernel)⟩

end Distill.Text
