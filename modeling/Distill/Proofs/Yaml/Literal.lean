import Distill.Proofs.Text.Composition
import Distill.Yaml.Literal

/-!
What a scalar can stand for (`Fits`, `fits_of_ofScalar?`), and the texts that are read as themselves only (`IsWord`).
-/
namespace Distill.Yaml

/-- The first characters of what is named by no text: absence, truth values and numbers. -/
def marks : List Char := ['n', 't', 'f', 'N', '+', '-', '0']

/-- A text that is a name under one key only: no other characters are composed to it, and no number, truth value or
absence is written with it. -/
structure IsWord (t : String) : Prop where
  plain : ∀ c ∈ t.toList, Text.isForeign c.toNat = false ∧ c.toNat ≠ 0
  kind : Kind.ofText t = .text
  start : ∀ c ∈ t.toList.head?, c ∉ marks

theorem IsWord.of_all {t : String} (plain : t.toList.all (fun c => !Text.isForeign c.toNat && c.toNat != 0) = true)
    (kind : Kind.ofText t = .text) (start : t.toList.head?.all (fun c => !marks.contains c) = true) : IsWord t := by
  refine ⟨fun c member => ?_, kind, fun c first => ?_⟩
  · simpa using List.all_eq_true.1 plain c member
  · rw [Option.mem_def.1 first] at start
    simpa using start

theorem IsWord.ne {t s : String} (word : IsWord t) {c : Char} (first : s.toList.head? = some c)
    (other : c ∈ marks) : s ≠ t := by
  rintro rfl
  exact word.start c first other

theorem IsWord.composed {t : String} (word : IsWord t) : Text.composed t = t := by
  have low : (t.toList.map Char.toNat).all (· < 0x300) = true := by
    simp only [List.all_map, List.all_eq_true, Function.comp_apply, decide_eq_true_eq]
    intro c member
    have notForeign := (word.plain c member).1
    by_cases above : 0x80 ≤ c.toNat
    · rw [Text.isForeign_of_le above] at notForeign
      cases notForeign
    · omega
  rw [Text.composed, if_pos low]

namespace Kind

theorem intOf?_ne_float {sign : Option Bool} {n : Nat} {name : Option String} : intOf? sign n ≠ some (.float name) := by
  rw [intOf?.eq_def]
  split
  · split <;> simp
  · split <;> simp
  · split
    · simp
    · split <;> simp

theorem int?_ne_float {cs : List Char} {name : Option String} : int? cs ≠ some (.float name) := by
  have bind (n : Option Nat) (sign : Option Bool) : n.bind (intOf? sign) ≠ some (.float name) := by
    cases n with
    | none => simp
    | some n => exact intOf?_ne_float
  unfold int?
  dsimp only
  split
  · rename_i k found
    intro same
    exact bind _ _ (found.trans same)
  · split
    · split
      · exact bind _ _
      · simp
    · simp

/-- What is named without digits is an infinity or no number. -/
theorem name_of_ofText {s name : String} (kind : ofText s = .float (some name)) : name ∈ ["NaN", "+Inf", "-Inf"] := by
  have pointed (cs : List Char) : ofPointed cs ≠ .float (some name) := by
    rw [ofPointed]
    split <;> simp
  have numeric : ofNumeric s ≠ .float (some name) := by
    rw [ofNumeric]
    split
    · rename_i k found
      rintro rfl
      exact int?_ne_float found
    · split <;> simp
  simp only [ofText] at kind
  split at kind
  · cases kind
  split at kind
  · cases kind
  split at kind
  · cases kind
  split at kind
  · cases kind
    simp
  split at kind
  · cases kind
    simp
  split at kind
  · cases kind
    simp
  split at kind
  · cases kind
  split at kind
  · exact absurd kind (pointed _)
  split at kind
  · exact absurd kind numeric
  · cases kind

end Kind

namespace Literal

/-- Digits that are the text of a scalar, or that start as no word does. -/
def Numeral (s digits : String) : Prop := digits = s ∨ ∃ c, digits.toList.head? = some c ∧ c ∈ marks

/-- What a scalar with a text and a tag can stand for. -/
inductive Fits (s : String) (tag : Option String) : Literal → Prop
  | null : Kind.ofText s ≠ .text → Fits s tag .null
  | bool {b : Bool} : Kind.ofText s ≠ .text → Fits s tag (.bool b)
  | text : Fits s tag (.text s)
  | bytes {b : Text.Bytes} : tag = some "tag:yaml.org,2002:binary" → Fits s tag (.bytes b)
  | number {negative : Bool} {digits : String} :
    Kind.ofText s ≠ .text → (negative = false → Numeral s digits) → Fits s tag (.number negative digits)

section Numbers

variable {s u : String} {tag : Option String}

theorem numeral_of_float {name : Option String} (kind : Kind.ofText s = .float name) : Numeral s (name.getD s) := by
  cases name with
  | none => exact Or.inl rfl
  | some name =>
    have member := Kind.name_of_ofText kind
    simp only [List.mem_cons, List.not_mem_nil, or_false] at member
    rcases member with rfl | rfl | rfl
    · exact Or.inr ⟨'N', by simp, by simp [marks]⟩
    · exact Or.inr ⟨'+', by simp, by simp [marks]⟩
    · exact Or.inr ⟨'-', by simp, by simp [marks]⟩

theorem fits_ofDigits (kind : Kind.ofText s ≠ .text) (numeral : Numeral s u) : Fits s tag (ofDigits u) := by
  rw [ofDigits]
  split
  · exact .number kind fun positive => by cases positive
  · exact .number kind fun _ => numeral

theorem fits_ofInt (kind : Kind.ofText s ≠ .text) : Fits s tag (ofInt s) := by
  rw [ofInt]
  split
  · split
    · exact fits_ofDigits kind (Or.inr ⟨'0', by simp, by simp [marks]⟩)
    · exact fits_ofDigits kind (Or.inl rfl)
  · exact fits_ofDigits kind (Or.inl rfl)

theorem fits_ofFloat {asked : Bool} (kind : Kind.ofText s ≠ .text) (numeral : Numeral s u) :
    Fits s tag (ofFloat u asked) := by
  rw [ofFloat]
  split
  · exact fits_ofDigits kind (Or.inr ⟨'f', by simp, by simp [marks]⟩)
  · exact fits_ofDigits kind numeral

end Numbers

theorem fits_of_ofText? {s : String} {tag : Option String} {l : Literal} (literal : ofText? s = some l) : Fits s tag l := by
  rw [ofText?] at literal
  split at literal
  · cases literal
    exact .text
  · cases literal

theorem fits_of_ofKind? {s : String} {tag : Option String} {l : Literal} {k : Kind} (kind : Kind.ofText s = k)
    (literal : ofKind? s k = some l) : Fits s tag l := by
  cases k with
  | text => exact fits_of_ofText? literal
  | null => cases literal; exact .null (by simp [kind])
  | bool b => cases literal; exact .bool (by simp [kind])
  | int signed => cases literal; exact fits_ofInt (by simp [kind])
  | float name => cases literal; exact fits_ofFloat (by simp [kind]) (numeral_of_float kind)

theorem fits_of_ofScalar? {s : String} {plain : Bool} {tag : Option String} {l : Literal}
    (literal : ofScalar? s plain tag = some l) : Fits s tag l := by
  rw [ofScalar?.eq_def] at literal
  split at literal
  · split at literal
    · exact fits_of_ofKind? rfl literal
    · exact fits_of_ofText? literal
  · split at literal
    · exact fits_of_ofText? literal
    · obtain ⟨b, -, rfl⟩ := Option.map_eq_some_iff.1 literal
      exact .bytes rfl
    · split at literal
      · cases literal
        exact .text
      · cases literal
    · rename_i kind
      cases literal
      exact .null (by simp [kind])
    · rename_i kind
      cases literal
      exact .bool (by simp [kind])
    · rename_i kind
      cases literal
      exact fits_ofInt (by simp [kind])
    · rename_i kind
      cases literal
      exact fits_ofFloat (by simp [kind]) (numeral_of_float kind)
    · rename_i kind
      cases literal
      exact fits_ofFloat (by simp [kind]) (Or.inl rfl)
    · cases literal

end Literal

end Distill.Yaml
