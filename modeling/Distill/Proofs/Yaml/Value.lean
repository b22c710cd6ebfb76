import Mathlib.Data.List.Forall2
import Distill.Proofs.Yaml.Literal
import Distill.Proofs.Yaml.Node
import Distill.Yaml.Value

/-!
The values of nodes where they are texts, lists and mappings. A key gives a field a word as its name only if it is that
text (`name_eq_iff`), and the value of a document whose root has such keys holds its fields one by one
(`ofDocument?_mapping`).
-/
namespace Distill.Yaml

/-- A key that is a scalar for its own text: it takes nothing over from other mappings, and it is not asked to be bytes. -/
def Node.isOrdinary : Node → Bool
  | n@(scalar _ _ tag _) => !Value.isMerge n && tag ≠ some "tag:yaml.org,2002:binary"
  | _ => false

theorem Node.string?_scalar {text s : String} {plain : Bool} {tag : Option String} (line : Nat) :
    (scalar text plain tag line).string? = some s ↔ Literal.ofScalar? text plain tag = some (.text s) := by
  rw [string?, Option.bind_eq_some_iff]
  constructor
  · rintro ⟨l, literal, text⟩
    cases l with
    | text t =>
      cases text
      exact literal
    | _ => cases text
  · exact fun literal => ⟨_, literal, rfl⟩

theorem Node.isMerge_of_isOrdinary {n : Node} (ordinary : n.isOrdinary = true) : Value.isMerge n = false := by
  cases n with
  | scalar text plain tag line =>
    simp only [isOrdinary, Bool.and_eq_true, Bool.not_eq_true'] at ordinary
    exact ordinary.1
  | _ => rfl

/-- An ordinary key that stands for a text is written with it. -/
theorem Node.text?_of_string? {n : Node} {s : String} (ordinary : n.isOrdinary = true) (string : n.string? = some s) :
    n.text? = some s := by
  cases n with
  | scalar text plain tag line =>
    cases Literal.fits_of_ofScalar? ((string?_scalar line).1 string)
    rfl
  | _ => cases ordinary

namespace Value

section Names

variable {t : String} {key : Node}

/-- Under ordinary keys, a name that is a word comes from that text. -/
theorem fieldName?_eq_iff (word : IsWord t) (ordinary : key.isOrdinary = true) :
    fieldName? key = some t ↔ key.string? = some t := by
  cases key with
  | scalar text plain tag line =>
    simp only [Node.isOrdinary, Bool.and_eq_true, decide_eq_true_eq, Bool.not_eq_true'] at ordinary
    rw [fieldName?, Node.string?_scalar, Option.bind_eq_some_iff]
    constructor
    · rintro ⟨l, literal, name⟩
      cases Literal.fits_of_ofScalar? literal with
      | null kind => exact absurd (Option.some.inj name) (word.ne (c := 'n') (by simp) (by simp [marks]))
      | @bool b kind =>
        cases b with
        | false => exact absurd (Option.some.inj name) (word.ne (c := 'f') (by simp) (by simp [marks]))
        | true => exact absurd (Option.some.inj name) (word.ne (c := 't') (by simp) (by simp [marks]))
      | text => rw [← Option.some.inj name, literal]
      | bytes asked => exact absurd asked ordinary.2
      | @number negative digits kind numeral =>
        rw [nameOf?] at name
        split at name
        · cases name
        · rename_i positive
          cases name
          -- the digits are the text of the key, which is no word, or they start otherwise
          rcases numeral (Bool.eq_false_iff.2 positive) with rfl | ⟨c, first, other⟩
          · exact absurd word.kind kind
          · exact absurd other (word.start c first)
    · exact fun literal => ⟨_, literal, rfl⟩
  | _ => cases ordinary

theorem name_eq_iff (word : IsWord t) (ordinary : key.isOrdinary = true) {name : String}
    (named : fieldName? key = some name) :
    (if isBareName name then name else Text.composed name) = t ↔ key.string? = some t := by
  rw [← fieldName?_eq_iff word ordinary, named, Option.some.injEq]
  split
  · exact Iff.rfl
  · exact ⟨Text.eq_of_composed word.plain, fun same => same ▸ word.composed⟩

end Names

/-- A scalar is no collection. -/
theorem ofLiteral?_ne {l : Literal} {v : Value} (value : ofLiteral? l = some v) :
    (∀ vs, v ≠ .list vs) ∧ ∀ entries, v ≠ .mapping entries := by
  cases l with
  | number negative digits =>
    obtain ⟨m, -, rfl⟩ := Option.map_eq_some_iff.1 value
    simp
  | _ =>
    cases value
    simp

/-- A value is that of a node, where what is taken over through the name of an anchor is what `latest` gives. -/
def Stands (latest : String → Option Node) (n : Node) (v : Value) : Prop :=
  ∃ w, ofNode? (relinked latest n) = some w ∧ withComposedNames w = v

section Stands

variable {latest : String → Option Node} {n : Node} {v : Value}

theorem Stands.reference {name : String} {line : Nat} (stands : Stands latest (.reference name n line) v) :
    Stands latest n v :=
  stands

theorem Stands.scalar {text : String} {plain : Bool} {tag : Option String} {line : Nat}
    (stands : Stands latest (.scalar text plain tag line) v) :
    ∃ l, Literal.ofScalar? text plain tag = some l ∧ ofLiteral? l = some v := by
  obtain ⟨w, value, rfl⟩ := stands
  obtain ⟨l, literal, value⟩ := Option.bind_eq_some_iff.1 value
  refine ⟨l, literal, ?_⟩
  cases l with
  | number negative digits =>
    obtain ⟨m, -, rfl⟩ := Option.map_eq_some_iff.1 value
    exact value
  | _ =>
    cases value
    rfl

theorem forall₂_ofNodes? {items : List Node} {ws : List Value}
    (values : ofNode?.ofNodes? (relinked.relinkAll latest items) = some ws) :
    List.Forall₂ (Stands latest) items (withComposedNames.inItems ws) := by
  induction items generalizing ws with
  | nil =>
    cases values
    exact .nil
  | cons item items ih =>
    simp only [relinked.relinkAll, ofNode?.ofNodes?, Option.bind_eq_bind, Option.bind_eq_some_iff, Option.pure_def,
      Option.some.injEq] at values
    obtain ⟨u, first, us, rest, rfl⟩ := values
    exact .cons ⟨u, first, rfl⟩ (ih rest)

theorem Stands.sequence {items : List Node} {line : Nat} (stands : Stands latest (.sequence items line) v) :
    ∃ vs, v = .list vs ∧ List.Forall₂ (Stands latest) items vs := by
  obtain ⟨w, value, rfl⟩ := stands
  obtain ⟨ws, values, rfl⟩ := Option.map_eq_some_iff.1 value
  exact ⟨_, rfl, forall₂_ofNodes? values⟩

theorem Stands.mapping {fields : List (Node × Node)} {line : Nat} (stands : Stands latest (.mapping fields line) v) :
    ∃ entries, v = .mapping entries := by
  obtain ⟨w, value, rfl⟩ := stands
  obtain ⟨ws, -, rfl⟩ := Option.map_eq_some_iff.1 value
  exact ⟨_, rfl⟩

/-- The value of a node is a text exactly if the node stands for it. -/
theorem Stands.str_iff (stands : Stands latest n v) (s : String) : v = .str s ↔ n.string? = some s := by
  fun_induction Node.string? n with
  | case1 text plain tag line =>
    obtain ⟨l, literal, value⟩ := stands.scalar
    rw [literal, Option.bind_some]
    cases l with
    | number negative digits =>
      obtain ⟨m, -, rfl⟩ := Option.map_eq_some_iff.1 value
      simp [Literal.text?]
    | _ =>
      cases value
      simp [Literal.text?]
  | case2 name n line ih => exact ih stands.reference
  | case3 n notScalar notReference =>
    cases n with
    | scalar text plain tag line => exact absurd rfl (notScalar _ _ _ _)
    | reference name n line => exact absurd rfl (notReference _ _ _)
    | sequence items line =>
      obtain ⟨vs, rfl, -⟩ := stands.sequence
      simp
    | mapping fields line =>
      obtain ⟨entries, rfl⟩ := stands.mapping
      simp

/-- The value of a node is a list exactly if the node stands for a sequence, and then the items have their values. -/
theorem Stands.list (stands : Stands latest n v) :
    (∃ items vs, n.listing = .items (items.map Node.string?) ∧ v = .list vs ∧ List.Forall₂ (Stands latest) items vs) ∨
      n.listing = .other ∧ ∀ vs, v ≠ .list vs := by
  fun_induction Node.listing n with
  | case1 items line =>
    obtain ⟨vs, eq, values⟩ := stands.sequence
    exact Or.inl ⟨items, vs, rfl, eq, values⟩
  | case2 name n line ih => exact ih stands.reference
  | case3 n notSequence notReference =>
    refine Or.inr ⟨rfl, ?_⟩
    cases n with
    | sequence items line => exact absurd rfl (notSequence _ _)
    | reference name n line => exact absurd rfl (notReference _ _ _)
    | scalar text plain tag line =>
      obtain ⟨l, -, value⟩ := stands.scalar
      exact (ofLiteral?_ne value).1
    | mapping fields line =>
      obtain ⟨entries, rfl⟩ := stands.mapping
      simp

theorem Stands.ne_mapping (stands : Stands latest n v) (top : ∀ fields line, n ≠ .mapping fields line)
    (direct : n.isReference = false) : ∀ entries, v ≠ .mapping entries := by
  cases n with
  | scalar text plain tag line =>
    obtain ⟨l, -, value⟩ := stands.scalar
    exact (ofLiteral?_ne value).2
  | sequence items line =>
    obtain ⟨vs, rfl, -⟩ := stands.sequence
    simp
  | mapping fields line => exact absurd rfl (top _ _)
  | reference name n line => cases direct

end Stands

section Fields

variable {latest : String → Option Node} {fields : List (Node × Node)}

/-- A field of a value is that of a mapping. -/
def FieldStands (latest : String → Option Node) (field : Node × Node) (entry : String × Value) : Prop :=
  (∃ name, fieldName? field.1 = some name ∧ entry.1 = if isBareName name then name else Text.composed name) ∧
    Stands latest field.2 entry.2

theorem named_of_forall₂ {entries : List (String × Value)} (stand : List.Forall₂ (FieldStands latest) fields entries) :
    ∀ f ∈ fields, ∃ name, fieldName? f.1 = some name := by
  induction stand with
  | nil => simp
  | cons stands _ ih =>
    obtain ⟨⟨name, named, -⟩, -⟩ := stands
    exact List.forall_mem_cons.2 ⟨⟨name, named⟩, ih⟩

/-- Without merges, every field is added at the end. -/
theorem forall₂_addFields? (plain : ∀ f ∈ fields, isMerge f.1 = false) {seen entries : List (String × Value)}
    (added : ofNode?.addFields? false (relinked.relinkFields latest fields) seen = some entries) :
    ∃ own, entries = seen ++ own ∧ List.Forall₂ (FieldStands latest) fields (withComposedNames.inFields own) := by
  induction fields generalizing seen with
  | nil =>
    cases added
    exact ⟨[], by simp, .nil⟩
  | cons field fields ih =>
    obtain ⟨key, n⟩ := field
    obtain ⟨notMerge, plain⟩ := List.forall_mem_cons.1 plain
    simp only [relinked.relinkFields, ofNode?.addFields?, notMerge, Bool.false_eq_true, if_false, Option.bind_eq_bind,
      Option.bind_eq_some_iff] at added
    obtain ⟨name, named, v, value, added⟩ := added
    obtain ⟨own, rfl, rest⟩ := ih plain added
    exact ⟨(name, v) :: own, by simp, .cons ⟨⟨name, named, rfl⟩, v, value, rfl⟩ rest⟩

/-- The value of a document whose root is a mapping without merges holds its fields in order. -/
theorem ofDocument?_mapping {d : Document} {line : Nat} {v : Value} (root : d.root = .mapping fields line)
    (plain : ∀ f ∈ fields, isMerge f.1 = false) (value : ofDocument? d = some v) :
    ∃ latest entries, v = .mapping entries ∧ List.Forall₂ (FieldStands latest) fields entries := by
  rw [ofDocument?, root] at value
  obtain ⟨w, mapped, rfl⟩ := Option.map_eq_some_iff.1 value
  obtain ⟨entries, added, rfl⟩ := Option.map_eq_some_iff.1 mapped
  obtain ⟨own, rfl, stand⟩ := forall₂_addFields? plain added
  exact ⟨_, _, rfl, stand⟩

end Fields

end Value

end Distill.Yaml
