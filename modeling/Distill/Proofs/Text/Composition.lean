import Distill.Text.Composition

/-!
Which texts can come up by composing characters. Characters below 0x80 are neither composed nor what others are taken
apart to, but for three of them that others stand for. So a text of such characters is the composed form of itself only
(`eq_of_composed`).
-/
namespace Distill.Text

/-- A character that others may be composed to or taken apart to. -/
def isForeign (n : Nat) : Bool := 0x80 ≤ n || n ∈ [';'.toNat, 'K'.toNat, '\x60'.toNat]

theorem isForeign_of_le {n : Nat} (above : 0x80 ≤ n) : isForeign n = true := by simp [isForeign, above]

section Tables

private theorem foreign_ofList (cs : List Char) (foreign : cs.all (fun c => isForeign c.toNat) = true) :
    ∀ c ∈ (String.ofList cs).toList, isForeign c.toNat = true := by
  rw [String.toList_ofList]
  exact List.all_eq_true.1 foreign

-- The texts of the tables are compared with lists of characters row by row, which is much faster than to evaluate them.
private theorem foreign_compositions : ∀ row ∈ compositions, ∀ c ∈ row.2.2.toList, isForeign c.toNat = true := by
  unfold compositions
  repeat refine List.forall_mem_cons.2 ⟨foreign_ofList _ (by decide +kernel), ?_⟩
  exact List.forall_mem_nil _

set_option maxRecDepth 20000 in
private theorem foreign_singletons : ∀ row ∈ singletons, ∀ c ∈ row.2.toList, isForeign c.toNat = true := by
  unfold singletons
  repeat refine List.forall_mem_cons.2 ⟨foreign_ofList _ (by decide +kernel), ?_⟩
  exact List.forall_mem_nil _

private theorem marks_above : ∀ row ∈ compositions ++ decompositions, 0x80 ≤ row.1 := by decide +kernel

private theorem mem_pairsOf {table : List (Nat × String × String)} {whole base mark : Nat}
    (member : (whole, base, mark) ∈ pairsOf table) :
    ∃ row ∈ table, row.1 = mark ∧ ∃ c ∈ row.2.2.toList, c.toNat = whole := by
  obtain ⟨⟨m, bases, wholes⟩, inside, member⟩ := List.mem_flatMap.1 member
  obtain ⟨⟨b, w⟩, pair, eq⟩ := List.mem_map.1 member
  simp only [Prod.mk.injEq] at eq
  exact ⟨_, inside, eq.2.2, w, (List.of_mem_zip pair).2, eq.1⟩

/-- What a character stands for has a part of this kind. -/
theorem foreign_of_decomposites {c : Nat} {parts : List Nat} (member : (c, parts) ∈ decomposites) :
    ∃ p ∈ parts, isForeign p = true := by
  rcases List.mem_append.1 member with pairs | single
  · obtain ⟨⟨whole, base, mark⟩, inside, eq⟩ := List.mem_map.1 pairs
    have row : ∃ row ∈ compositions ++ decompositions, row.1 = mark := by
      rcases List.mem_append.1 inside with inside | inside
      · obtain ⟨row, found, same, -⟩ := mem_pairsOf inside
        exact ⟨row, List.mem_append_left _ found, same⟩
      · obtain ⟨row, found, same, -⟩ := mem_pairsOf inside
        exact ⟨row, List.mem_append_right _ found, same⟩
    obtain ⟨row, found, same⟩ := row
    rw [Prod.mk.injEq] at eq
    exact ⟨mark, by simp [← eq.2], isForeign_of_le (same ▸ marks_above row found)⟩
  · obtain ⟨⟨first, targets⟩, inside, single⟩ := List.mem_flatMap.1 single
    obtain ⟨⟨target, i⟩, listed, eq⟩ := List.mem_map.1 single
    rw [Prod.mk.injEq] at eq
    have target_mem : target ∈ targets.toList := List.fst_mem_of_mem_zipIdx listed
    exact ⟨target.toNat, by simp [← eq.2], foreign_singletons _ inside target target_mem⟩

theorem foreign_of_composed? {a b both : Nat} (composed : composed? a b = some both) : isForeign both = true := by
  rw [composed?] at composed
  split at composed
  · rw [Option.some.injEq] at composed
    apply isForeign_of_le
    simp only [firstSyllable] at composed
    omega
  · split at composed
    · rename_i syllable
      rw [Option.some.injEq] at composed
      apply isForeign_of_le
      simp only [firstSyllable] at syllable
      omega
    · obtain ⟨⟨whole, base, mark⟩, found, rfl⟩ := Option.map_eq_some_iff.1 composed
      obtain ⟨row, inside, -, c, member, rfl⟩ := mem_pairsOf (List.mem_of_find?_eq_some found)
      exact foreign_compositions row inside c member

end Tables

section Steps

theorem foreign_of_parts? {c : Nat} {parts : List Nat} (apart : parts? c = some parts) :
    ∃ p ∈ parts, isForeign p = true := by
  rw [parts?] at apart
  split at apart
  · rename_i syllable
    rw [syllableParts?] at syllable
    split at syllable
    · rw [Option.some.injEq] at apart syllable
      rw [← apart, ← syllable]
      refine ⟨_, List.mem_append_left _ List.mem_cons_self, isForeign_of_le ?_⟩
      exact Nat.le_trans (by decide) (Nat.le_add_right firstLead _)
    · cases syllable
  · obtain ⟨before, after, eq, -⟩ := List.lookup_eq_some_iff.1 apart
    exact foreign_of_decomposites (c := c) (by simp [eq])

/-- Taking such a character apart leaves one. -/
theorem foreign_of_takenApart (steps : Nat) {c : Nat} (foreign : isForeign c = true) :
    ∃ p ∈ takenApart steps c, isForeign p = true := by
  induction steps generalizing c with
  | zero => exact ⟨c, by simp [takenApart], foreign⟩
  | succ steps ih =>
    rw [takenApart]
    split
    · rename_i parts apart
      obtain ⟨p, member, foreign⟩ := foreign_of_parts? apart
      obtain ⟨q, inside, foreign⟩ := ih foreign
      exact ⟨q, List.mem_flatMap.2 ⟨p, member, inside⟩, foreign⟩
    · exact ⟨c, by simp, foreign⟩

theorem mem_insertMark (mark m : Nat × Nat) (marks : List (Nat × Nat)) :
    m ∈ insertMark mark marks ↔ m = mark ∨ m ∈ marks := by
  induction marks with
  | nil => simp [insertMark]
  | cons first rest ih =>
    rw [insertMark]
    split
    · simp only [List.mem_cons, ih]
      grind
    · simp

/-- Putting marks in order keeps all characters. -/
theorem mem_inOrder {c : Nat} (marks : List (Nat × Nat)) {cs : List Nat}
    (member : (∃ k, (c, k) ∈ marks) ∨ c ∈ cs) : ∃ k, (c, k) ∈ inOrder marks cs := by
  induction cs generalizing marks with
  | nil => exact member.resolve_right (by simp)
  | cons first rest ih =>
    rw [inOrder]
    split
    · rcases member with ⟨k, inside⟩ | inside
      · exact ⟨k, List.mem_append_left _ inside⟩
      · rcases List.mem_cons.1 inside with rfl | inside
        · exact ⟨0, by simp⟩
        · obtain ⟨k, later⟩ := ih [] (Or.inr inside)
          exact ⟨k, by simp [later]⟩
    · apply ih
      rcases member with ⟨k, inside⟩ | inside
      · exact Or.inl ⟨k, (mem_insertMark _ _ _).2 (Or.inr inside)⟩
      · rcases List.mem_cons.1 inside with rfl | inside
        · exact Or.inl ⟨_, (mem_insertMark _ _ _).2 (Or.inl rfl)⟩
        · exact Or.inr inside

/-- Composing leaves such a character where there was one: it stays, or it becomes part of another one. -/
theorem foreign_of_composing (letter : Option Nat) (marks : List Nat) (last : Nat) {cs : List (Nat × Nat)}
    (foreign : (∃ c ∈ letter, isForeign c = true) ∨ (∃ c ∈ marks, isForeign c = true) ∨ ∃ c ∈ cs, isForeign c.1 = true) :
    ∃ c ∈ composing letter marks last cs, isForeign c = true := by
  induction cs generalizing letter marks last with
  | nil =>
    rcases foreign with ⟨c, member, foreign⟩ | ⟨c, member, foreign⟩ | ⟨c, member, -⟩
    · exact ⟨c, by simp [composing, Option.mem_def.1 member], foreign⟩
    · exact ⟨c, by simp [composing, member], foreign⟩
    · cases member
  | cons first rest ih =>
    obtain ⟨c, k⟩ := first
    rw [composing]
    split
    · rename_i both eq
      apply ih
      split at eq
      · cases eq
      · obtain ⟨a, -, composed⟩ := Option.bind_eq_some_iff.1 eq
        exact Or.inl ⟨both, rfl, foreign_of_composed? composed⟩
    · split
      · rcases foreign with ⟨d, member, foreign⟩ | ⟨d, member, foreign⟩ | ⟨d, member, foreign⟩
        · exact ⟨d, by simp [Option.mem_def.1 member], foreign⟩
        · exact ⟨d, by simp [member], foreign⟩
        · have later : ∃ x ∈ composing (some c) [] 0 rest, isForeign x = true := by
            apply ih
            rcases List.mem_cons.1 member with rfl | member
            · exact Or.inl ⟨c, rfl, foreign⟩
            · exact Or.inr (Or.inr ⟨d, member, foreign⟩)
          obtain ⟨x, inside, foreign⟩ := later
          exact ⟨x, List.mem_append_right _ inside, foreign⟩
      · apply ih
        rcases foreign with letter | ⟨d, member, foreign⟩ | ⟨d, member, foreign⟩
        · exact Or.inl letter
        · exact Or.inr (Or.inl ⟨d, List.mem_cons_of_mem _ member, foreign⟩)
        · rcases List.mem_cons.1 member with rfl | member
          · exact Or.inr (Or.inl ⟨c, List.mem_cons_self, foreign⟩)
          · exact Or.inr (Or.inr ⟨d, member, foreign⟩)

end Steps

/-- A text of characters that others are neither composed to nor taken apart to is composed of itself only. -/
theorem eq_of_composed {s t : String} (plain : ∀ c ∈ t.toList, isForeign c.toNat = false ∧ c.toNat ≠ 0)
    (eq : composed s = t) : s = t := by
  rw [composed] at eq
  split at eq
  · exact eq
  · rename_i low
    -- some character is above the limit, and what it becomes is not in the text
    simp only [List.all_map, List.all_eq_true, Function.comp_apply, decide_eq_true_eq, Classical.not_forall] at low
    obtain ⟨c, member, above⟩ := low
    have foreign : isForeign c.toNat = true := isForeign_of_le (by omega)
    obtain ⟨p, apart, foreign⟩ := foreign_of_takenApart 4 foreign
    have listed : p ∈ (s.toList.map Char.toNat).flatMap (takenApart 4) :=
      List.mem_flatMap.2 ⟨c.toNat, List.mem_map_of_mem member, apart⟩
    obtain ⟨k, ordered⟩ := mem_inOrder [] (Or.inr listed)
    obtain ⟨n, left, foreign⟩ := foreign_of_composing none [] 0
      (Or.inr (Or.inr ⟨(p, k), ordered, foreign⟩))
    have inside : Char.ofNat n ∈ t.toList := by
      rw [← eq, String.toList_ofList]
      exact List.mem_map_of_mem left
    obtain ⟨notForeign, notZero⟩ := plain _ inside
    have number : (Char.ofNat n).toNat = n ∨ (Char.ofNat n).toNat = 0 := by
      by_cases valid : n.isValidChar
      · have eq : Char.ofNat n = Char.ofNatAux n valid := dif_pos valid
        exact Or.inl (by rw [eq]; rfl)
      · have eq : Char.ofNat n = '\x00' := dif_neg valid
        exact Or.inr (by rw [eq]; rfl)
    rcases number with number | number
    · rw [number, foreign] at notForeign
      cases notForeign
    · exact absurd number notZero

end Distill.Text
