import Distill.Specifier

/-!
The rule for specifiers, on their text and on literals. A literal is a text between two equal quotes, or else a text as
it stands (`IsLiteral`), and making it explicit keeps the quotes (`explicitLiteral_eq`). No text needs the rule a second
time (`not_incomplete_explicit`).
-/
namespace Distill.Specifier

theorem explicit_of_bare {s : String} (relative : ['.'] <+: s.toList) (notTs : ¬ ['.', 't', 's'] <:+ s.toList)
    (notJs : ¬ ['.', 'j', 's'] <:+ s.toList) : explicit s = s ++ ".js" := by
  have isRelative : isRelative s.toList = true := List.isPrefixOf_iff_prefix.2 relative
  have bare : hasExtension s.toList = false := by
    rw [hasExtension, Bool.or_eq_false_iff, ← Bool.not_eq_true, ← Bool.not_eq_true, List.isSuffixOf_iff_suffix,
      List.isSuffixOf_iff_suffix]
    exact ⟨notTs, notJs⟩
  apply String.toList_inj.1
  rw [explicit, explicitChars, isRelative, bare, String.toList_ofList, String.toList_append]
  rfl

theorem explicit_of_js (t : String) : explicit (t ++ ".js") = t ++ ".js" := by
  have extended : hasExtension (t ++ ".js").toList = true := by
    rw [hasExtension, Bool.or_eq_true, List.isSuffixOf_iff_suffix, List.isSuffixOf_iff_suffix, String.toList_append]
    exact Or.inr (List.suffix_append _ _)
  rw [explicit, explicitChars, extended, Bool.not_true, Bool.and_false, if_neg (by simp), String.ofList_toList]

/-- A relative specifier that ends neither in `.ts` nor in `.js`. -/
structure Incomplete (text : String) : Prop where
  relative : ['.'] <+: text.toList
  notTs : ¬ ['.', 't', 's'] <:+ text.toList
  notJs : ¬ ['.', 'j', 's'] <:+ text.toList

theorem Incomplete.explicit_eq {text : String} (incomplete : Incomplete text) : explicit text = text ++ ".js" :=
  explicit_of_bare incomplete.relative incomplete.notTs incomplete.notJs

theorem explicit_of_complete {text : String} (complete : ¬ Incomplete text) : explicit text = text := by
  rw [explicit, explicitChars, if_neg, String.ofList_toList]
  intro applies
  rw [Bool.and_eq_true, Bool.not_eq_true', hasExtension, Bool.or_eq_false_iff, ← Bool.not_eq_true, ← Bool.not_eq_true,
    List.isSuffixOf_iff_suffix, List.isSuffixOf_iff_suffix, isRelative, List.isPrefixOf_iff_prefix] at applies
  exact complete ⟨applies.1, applies.2.1, applies.2.2⟩

theorem not_incomplete_explicit (text : String) : ¬ Incomplete (explicit text) := by
  intro incomplete
  by_cases before : Incomplete text
  · rw [before.explicit_eq] at incomplete
    exact incomplete.notJs (by rw [String.toList_append]; exact List.suffix_append _ _)
  · rw [explicit_of_complete before] at incomplete
    exact before incomplete

theorem explicit_explicit (text : String) : explicit (explicit text) = explicit text :=
  explicit_of_complete (not_incomplete_explicit text)

def IsQuote (quote : String) : Prop := quote = "\"" ∨ quote = "'"

/-- A literal with its quote and the text inside. If it is not between two equal quotes, it is the text itself. -/
inductive IsLiteral (raw : String) : (quote text : String) → Prop
  | quoted {quote text : String} : IsQuote quote → raw = quote ++ text ++ quote → IsLiteral raw quote text
  | bare : (∀ quote text, IsQuote quote → raw ≠ quote ++ text ++ quote) → IsLiteral raw "" raw

variable {raw quote text : String}

theorem IsLiteral.eq (literal : IsLiteral raw quote text) : raw = quote ++ text ++ quote := by
  cases literal with
  | quoted _ eq => exact eq
  | bare => simp

theorem isQuote_ofList {q : Char} : IsQuote (String.ofList [q]) ↔ q = '"' ∨ q = '\'' := by
  have double : "\"" = String.ofList ['"'] := rfl
  have single : "'" = String.ofList ['\''] := rfl
  rw [IsQuote, double, single, String.ofList_inj, String.ofList_inj]
  simp

theorem unquote?_eq_some {cs inner : List Char} {q : Char} :
    unquote? cs = some (q, inner) ↔ (q = '"' ∨ q = '\'') ∧ cs = q :: (inner ++ [q]) := by
  cases cs with
  | nil => simp [unquote?]
  | cons c rest =>
    rw [unquote?]
    constructor
    · intro found
      split at found
      · rename_i quotes
        obtain ⟨rfl, rfl⟩ := Prod.mk.inj (Option.some.inj found)
        obtain ⟨front, rfl⟩ := List.getLast?_eq_some_iff.1 quotes.2
        exact ⟨quotes.1, by rw [List.dropLast_concat]⟩
      · cases found
    · rintro ⟨isQuote, eq⟩
      obtain ⟨rfl, rfl⟩ := List.cons.inj eq
      rw [if_pos ⟨isQuote, List.getLast?_concat⟩, List.dropLast_concat]

/-- The quotes of a literal are found. -/
theorem isLiteral_iff : IsLiteral raw quote text ↔
    (∃ q inner, unquote? raw.toList = some (q, inner) ∧ quote = String.ofList [q] ∧ text = String.ofList inner) ∨
      unquote? raw.toList = none ∧ quote = "" ∧ text = raw := by
  have between {q : Char} {inner : List Char} : unquote? raw.toList = some (q, inner) ↔
      IsQuote (String.ofList [q]) ∧ raw = String.ofList [q] ++ String.ofList inner ++ String.ofList [q] := by
    rw [unquote?_eq_some, isQuote_ofList, ← String.toList_inj]
    simp
  constructor
  · intro literal
    cases literal with
    | quoted isQuote eq =>
      obtain ⟨q, rfl⟩ : ∃ q, quote = String.ofList [q] := by rcases isQuote with rfl | rfl <;> exact ⟨_, rfl⟩
      exact .inl ⟨q, text.toList, between.2 ⟨isQuote, by rw [String.ofList_toList]; exact eq⟩, rfl, by simp⟩
    | bare unquoted =>
      refine .inr ⟨?_, rfl, rfl⟩
      rw [Option.eq_none_iff_forall_ne_some]
      rintro ⟨q, inner⟩ found
      obtain ⟨isQuote, eq⟩ := between.1 found
      exact unquoted _ _ isQuote eq
  · rintro (⟨q, inner, found, rfl, rfl⟩ | ⟨unquoted, rfl, rfl⟩)
    · obtain ⟨isQuote, eq⟩ := between.1 found
      exact .quoted isQuote eq
    · refine .bare fun quote text isQuote eq => ?_
      obtain ⟨q, rfl⟩ : ∃ q, quote = String.ofList [q] := by rcases isQuote with rfl | rfl <;> exact ⟨_, rfl⟩
      have found := between.2 ⟨isQuote, by rw [String.ofList_toList]; exact eq⟩
      rw [unquoted] at found
      cases found

theorem exists_isLiteral (raw : String) : ∃ quote text, IsLiteral raw quote text := by
  cases found : unquote? raw.toList with
  | none => exact ⟨"", raw, isLiteral_iff.2 (.inr ⟨found, rfl, rfl⟩)⟩
  | some inside => exact ⟨_, _, isLiteral_iff.2 (.inl ⟨inside.1, inside.2, found, rfl, rfl⟩)⟩

theorem IsLiteral.unique {quote' text' : String} (literal : IsLiteral raw quote text)
    (other : IsLiteral raw quote' text') : quote = quote' ∧ text = text' := by
  rcases isLiteral_iff.1 literal with ⟨q, inner, found, rfl, rfl⟩ | ⟨found, rfl, rfl⟩ <;>
    rcases isLiteral_iff.1 other with ⟨q', inner', found', rfl, rfl⟩ | ⟨found', rfl, rfl⟩ <;>
    simp_all

/-- The rule is applied inside the quotes. -/
theorem explicitLiteral_eq (literal : IsLiteral raw quote text) :
    explicitLiteral raw = quote ++ explicit text ++ quote := by
  apply String.toList_inj.1
  rw [explicitLiteral, explicitLiteralChars, String.toList_ofList]
  rcases isLiteral_iff.1 literal with ⟨q, inner, found, rfl, rfl⟩ | ⟨found, rfl, rfl⟩
  · rw [found]
    simp [explicit]
  · rw [found]
    simp [explicit]

theorem explicitLiteral_of_incomplete (literal : IsLiteral raw quote text) (incomplete : Incomplete text) :
    explicitLiteral raw = quote ++ text ++ ".js" ++ quote := by
  rw [explicitLiteral_eq literal, incomplete.explicit_eq, ← String.append_assoc]

theorem explicitLiteral_ne_iff (literal : IsLiteral raw quote text) : explicitLiteral raw ≠ raw ↔ Incomplete text := by
  constructor
  · intro changed
    refine Classical.byContradiction fun complete => changed ?_
    rw [explicitLiteral_eq literal, explicit_of_complete complete, ← literal.eq]
  · intro incomplete same
    have longer := explicitLiteral_of_incomplete literal incomplete
    rw [same, literal.eq] at longer
    have length := congrArg String.length longer
    have three : ".js".length = 3 := rfl
    simp only [String.length_append] at length
    omega

/-- A literal that was made explicit has the quotes that it had. -/
theorem isLiteral_explicitLiteral (literal : IsLiteral raw quote text) :
    IsLiteral (explicitLiteral raw) quote (explicit text) := by
  rw [explicitLiteral_eq literal]
  cases literal with
  | quoted isQuote _ => exact .quoted isQuote rfl
  | bare unquoted =>
    by_cases incomplete : Incomplete raw
    · -- a text that starts with a dot does not start with a quote
      obtain ⟨rest, dot⟩ := incomplete.relative
      rw [incomplete.explicit_eq, String.empty_append, String.append_empty]
      refine .bare fun quote text isQuote eq => ?_
      have chars := congrArg String.toList eq
      rw [String.toList_append, ← dot] at chars
      rcases isQuote with rfl | rfl <;> simp at chars
    · rw [explicit_of_complete incomplete]
      simpa using IsLiteral.bare unquoted

theorem explicitLiteral_explicitLiteral (raw : String) : explicitLiteral (explicitLiteral raw) = explicitLiteral raw := by
  obtain ⟨quote, text, literal⟩ := exists_isLiteral raw
  rw [explicitLiteral_eq (isLiteral_explicitLiteral literal), explicit_explicit, ← explicitLiteral_eq literal]

end Distill.Specifier
