import Distill.Module.Basic
import Distill.Proofs.Specifier

/-!
Making a module explicit touches the specifiers of imports and of re-exports other than a plain star, where they are
relative and lack an extension, and nothing else (`explicit_changes`). Doing it again changes nothing.
-/
namespace Distill.Module

open Specifier (IsLiteral Incomplete)

/-- The list of `export * from`: a star that gets no name. -/
def IsStar (names : List Alias) : Prop :=
  ∃ a, names = [a] ∧ (a.binding = some "*" ∨ a.name = some "*" ∧ (a.binding = none ∨ a.binding = some ""))

theorem exportsAll_iff (names : List Alias) : exportsAll names = true ↔ IsStar names := by
  rw [exportsAll.eq_def]
  split
  · rename_i a
    constructor
    · intro star
      refine ⟨a, rfl, ?_⟩
      cases binding : a.binding <;> simp_all
    · rintro ⟨b, same, star⟩
      obtain rfl := (List.cons.inj same).1
      cases binding : a.binding <;> simp_all
  · rename_i several
    simp only [Bool.false_eq_true, false_iff]
    rintro ⟨a, rfl, -⟩
    exact several a rfl

/-- An item that names a module, with the literal that names it. A star re-export binds nothing and does not count. -/
inductive Item.Refers : Item → String → Prop
  | importing (default : Option String) (bindings : Option (List Alias)) (raw : String) :
    Refers (.importing default bindings (some raw)) raw
  | exporting {names : List Alias} (raw : String) : ¬ IsStar names → Refers (.exporting names (some raw)) raw

/-- An item with another specifier and all else as it was. -/
def Item.withSource : Item → Option String → Item
  | importing default bindings _, source => importing default bindings source
  | exporting names _, source => exporting names source
  | item, _ => item

section Item

variable {item : Item} {raw : String}

theorem Item.Refers.source?_eq (refers : item.Refers raw) : item.source? = some raw := by
  cases refers <;> rfl

theorem Item.Refers.explicit_eq (refers : item.Refers raw) :
    item.explicit = item.withSource (some (Specifier.explicitLiteral raw)) := by
  cases refers with
  | importing => rfl
  | exporting raw several => rw [explicit, if_neg fun star => several ((exportsAll_iff _).1 star)]; rfl

theorem Item.Refers.withSource (refers : item.Refers raw) (source : String) :
    (item.withSource (some source)).Refers source := by
  cases refers with
  | importing default bindings => exact .importing default bindings source
  | exporting _ several => exact .exporting source several

theorem Item.withSource_source? (item : Item) : item.withSource item.source? = item := by
  cases item <;> rfl

/-- Without a specifier to look at, an item stays as it is. -/
theorem Item.explicit_of_not_refers (none : ∀ raw, ¬ item.Refers raw) : item.explicit = item := by
  cases item with
  | importing default bindings source =>
    cases source with
    | none => rfl
    | some raw => exact absurd (.importing default bindings raw) (none raw)
  | exporting names source =>
    rw [explicit]
    split
    · rfl
    · rename_i several
      cases source with
      | none => rfl
      | some raw => exact absurd (.exporting raw fun star => several ((exportsAll_iff _).2 star)) (none raw)
  | exportDeclaration | statement => rfl

/-- An item keeps its kind and all but its specifier, and what it refers to is made explicit. -/
theorem Item.explicit_cases (item : Item) :
    (∃ raw, item.Refers raw ∧ item.explicit = item.withSource (some (Specifier.explicitLiteral raw))) ∨
      (∀ raw, ¬ item.Refers raw) ∧ item.explicit = item := by
  by_cases some : ∃ raw, item.Refers raw
  · obtain ⟨raw, refers⟩ := some
    exact .inl ⟨raw, refers, refers.explicit_eq⟩
  · have none : ∀ raw, ¬ item.Refers raw := not_exists.1 some
    exact .inr ⟨none, explicit_of_not_refers none⟩

theorem Item.Refers.unique {other : String} (refers : item.Refers raw) (refers' : item.Refers other) : raw = other :=
  Option.some.inj (refers.source?_eq.symm.trans refers'.source?_eq)

/-- How an item comes out when its module is made explicit. -/
structure Item.Becomes (item item' : Item) : Prop where
  kept : item' = item.withSource item'.source?
  changed_iff : item'.source? ≠ item.source? ↔
    ∃ raw quote text, item.Refers raw ∧ IsLiteral raw quote text ∧ Incomplete text
  extended : ∀ raw quote text, item.Refers raw → IsLiteral raw quote text → Incomplete text →
    item'.source? = some (quote ++ text ++ ".js" ++ quote)

theorem Item.becomes_explicit (item : Item) : item.Becomes item.explicit := by
  rcases item.explicit_cases with ⟨raw, refers, eq⟩ | ⟨none, eq⟩
  · have source : item.explicit.source? = some (Specifier.explicitLiteral raw) := by
      rw [eq, (refers.withSource _).source?_eq]
    refine ⟨by rw [source, eq], ?_, ?_⟩
    · rw [source, refers.source?_eq, ne_eq, Option.some.injEq]
      constructor
      · intro changed
        obtain ⟨quote, text, literal⟩ := Specifier.exists_isLiteral raw
        exact ⟨raw, quote, text, refers, literal, (Specifier.explicitLiteral_ne_iff literal).1 changed⟩
      · rintro ⟨other, quote, text, refers', literal, incomplete⟩
        obtain rfl := refers.unique refers'
        exact (Specifier.explicitLiteral_ne_iff literal).2 incomplete
    · intro other quote text refers' literal incomplete
      obtain rfl := refers.unique refers'
      rw [source, Specifier.explicitLiteral_of_incomplete literal incomplete]
  · rw [eq]
    refine ⟨item.withSource_source?.symm, ⟨fun changed => absurd rfl changed, ?_⟩, ?_⟩
    · rintro ⟨raw, quote, text, refers, -⟩
      exact absurd refers (none raw)
    · intro raw quote text refers
      exact absurd refers (none raw)

/-- What an explicit item refers to needs no extension. -/
theorem Item.complete_explicit {quote text : String} (refers : item.explicit.Refers raw)
    (literal : IsLiteral raw quote text) : ¬ Incomplete text := by
  rcases item.explicit_cases with ⟨before, refersBefore, eq⟩ | ⟨none, eq⟩
  · rw [eq] at refers
    obtain rfl := (refersBefore.withSource _).unique refers
    obtain ⟨quote', text', literalBefore⟩ := Specifier.exists_isLiteral before
    obtain ⟨-, rfl⟩ := literal.unique (Specifier.isLiteral_explicitLiteral literalBefore)
    exact Specifier.not_incomplete_explicit text'
  · rw [eq] at refers
    exact absurd refers (none raw)

theorem Item.explicit_explicit (item : Item) : item.explicit.explicit = item.explicit := by
  rcases item.explicit_cases with ⟨raw, refers, eq⟩ | ⟨none, eq⟩
  · rw [eq, (refers.withSource _).explicit_eq, Specifier.explicitLiteral_explicitLiteral]
    cases item <;> rfl
  · rw [eq, eq]

end Item

theorem explicit_explicit (m : Module) : m.explicit.explicit = m.explicit := by
  rw [explicit, explicit, List.map_map]
  exact List.map_congr_left fun item _ => item.explicit_explicit

/-- Making a module explicit changes exactly the specifiers that need it, and leaves none that does. -/
theorem explicit_changes (m : Module) :
    m.explicit.length = m.length ∧
      (∀ (i : Nat) (item : Item), m[i]? = some item →
        ∃ item', m.explicit[i]? = some item' ∧ item.Becomes item') ∧
      (∀ item ∈ m.explicit, ∀ raw quote text, item.Refers raw → IsLiteral raw quote text → ¬ Incomplete text) ∧
      m.explicit.explicit = m.explicit ∧ m.explicit.explicit.emit = m.explicit.emit := by
  refine ⟨List.length_map _, ?_, ?_, explicit_explicit m, by rw [explicit_explicit]⟩
  · intro i item found
    exact ⟨item.explicit, by rw [explicit, List.getElem?_map, found]; rfl, item.becomes_explicit⟩
  · intro item member raw quote text refers literal
    obtain ⟨before, -, rfl⟩ := List.mem_map.1 member
    exact Item.complete_explicit refers literal

end Distill.Module
