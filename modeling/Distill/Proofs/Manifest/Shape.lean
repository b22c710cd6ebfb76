import Distill.Manifest
import Distill.Proofs.Yaml.Value

/-!
The shape that a manifest has to have, as far as its two keys tell, and what is at fault where it has another one. The
first look at a manifest accepts that shape and no other (`ofFields_outcome`).
-/
namespace Distill.Manifest

open Yaml (Node Value Listing)

/-- Fields whose keys are scalars for their own texts, which all differ. -/
structure Ordinary (fields : List (Node × Node)) : Prop where
  keys : ∀ f ∈ fields, f.1.isOrdinary = true
  distinct : (fields.map (·.1.text?)).Nodup

instance (fields : List (Node × Node)) : Decidable (Ordinary fields) :=
  decidable_of_iff ((∀ f ∈ fields, f.1.isOrdinary = true) ∧ (fields.map (·.1.text?)).Nodup)
    ⟨fun ⟨keys, distinct⟩ => ⟨keys, distinct⟩, fun ⟨keys, distinct⟩ => ⟨keys, distinct⟩⟩

/-- What the value of a key is as a list of texts. -/
def field? (name : String) (fields : List (Node × Node)) : Option Listing :=
  (fields.find? fun f => f.1.string? = some name).map (·.2.listing)

theorem field?_cons (name : String) (f : Node × Node) (fields : List (Node × Node)) :
    field? name (f :: fields) = if f.1.string? = some name then some f.2.listing else field? name fields := by
  rw [field?, List.find?_cons]
  by_cases named : f.1.string? = some name
  · simp [named]
  · simp [named, field?]

/-- The manifest that the values of the two keys hold. -/
def Holds (packages skipped : Option Listing) (m : Manifest) : Prop :=
  packages = some (.ofTexts m.packages) ∧ (skipped = none ∧ m.skipped = [] ∨ skipped = some (.ofTexts m.skipped))

/-- What is at fault with the value of a key: the value, which is no list, or its first item that is no text. -/
inductive Culprit (key : String) : Listing → String → Prop
  | whole : Culprit key .other key
  | item (before : List String) (after : List (Option String)) :
    Culprit key (.items (before.map some ++ none :: after)) (key ++ "." ++ toString before.length)

/-- What is to blame for the values of the two keys. -/
inductive Blames : (packages skipped : Option Listing) → String → Prop
  | missing (skipped : Option Listing) : Blames none skipped "packages"
  | packages {value : Listing} {key : String} (skipped : Option Listing) :
    Culprit "packages" value key → Blames (some value) skipped key
  | skipped (ss : List String) {value : Listing} {key : String} :
    Culprit "skip-ts" value key → Blames (some (.ofTexts ss)) (some value) key

theorem not_culprit_ofTexts {key blamed : String} {ss : List String} : ¬ Culprit key (.ofTexts ss) blamed := by
  intro culprit
  generalize eq : Listing.ofTexts ss = value at culprit
  cases culprit with
  | whole => cases eq
  | item before after =>
    have member : none ∈ ss.map some := by
      rw [Listing.items.inj eq]
      simp
    simp at member

/-- What holds a manifest is not to blame. -/
theorem not_blames_of_holds {packages skipped : Option Listing} {m : Manifest} {key : String}
    (holds : Holds packages skipped m) : ¬ Blames packages skipped key := by
  obtain ⟨rfl, skips⟩ := holds
  intro blamed
  generalize eq : some (Listing.ofTexts m.packages) = packages at blamed
  cases blamed with
  | missing => cases eq
  | packages skipped culprit =>
    cases eq
    exact not_culprit_ofTexts culprit
  | skipped ss culprit =>
    rcases skips with ⟨none, -⟩ | skips
    · cases none
    · cases skips
      exact not_culprit_ofTexts culprit

theorem holds_unique {packages skipped : Option Listing} {m m' : Manifest} (holds : Holds packages skipped m)
    (holds' : Holds packages skipped m') : m = m' := by
  obtain ⟨rfl, skips⟩ := holds
  obtain ⟨same, skips'⟩ := holds'
  have packages : m.packages = m'.packages := Listing.ofTexts_inj.1 (Option.some.inj same)
  have skipped : m.skipped = m'.skipped := by
    rcases skips with ⟨rfl, skips⟩ | rfl
    · rcases skips' with ⟨-, skips'⟩ | skips'
      · rw [skips, skips']
      · cases skips'
    · rcases skips' with ⟨none, -⟩ | skips'
      · cases none
      · exact Listing.ofTexts_inj.1 (Option.some.inj skips')
  cases m
  cases m'
  simp_all

theorem culprit_unique {key blamed blamed' : String} {value : Listing} (culprit : Culprit key value blamed)
    (culprit' : Culprit key value blamed') : blamed = blamed' := by
  -- the texts in front of the first item that is none
  have front (before : List String) (after : List (Option String)) :
      ((before.map some ++ none :: after).takeWhile Option.isSome).length = before.length := by
    rw [List.takeWhile_append_of_pos (by simp)]
    simp
  generalize same : value = value' at culprit'
  cases culprit with
  | whole =>
    cases culprit' with
    | whole => rfl
    | item before after => cases same
  | item before after =>
    cases culprit' with
    | whole => cases same
    | item before' after' =>
      have length : before.length = before'.length := by
        rw [← front before after, Listing.items.inj same, front]
      rw [length]

theorem blames_unique {packages skipped : Option Listing} {key key' : String} (blames : Blames packages skipped key)
    (blames' : Blames packages skipped key') : key = key' := by
  generalize same : packages = packages', same' : skipped = skipped' at blames'
  cases blames with
  | missing =>
    cases blames' with
    | missing => rfl
    | packages _ _ => cases same
    | skipped _ _ => cases same
  | packages _ culprit =>
    cases blames' with
    | missing => cases same
    | packages _ culprit' =>
      cases same
      exact culprit_unique culprit culprit'
    | skipped ss _ =>
      cases same
      exact absurd culprit not_culprit_ofTexts
  | skipped ss culprit =>
    cases blames' with
    | missing => cases same
    | packages _ culprit' =>
      cases same
      exact absurd culprit' not_culprit_ofTexts
    | skipped _ culprit' =>
      cases same'
      exact culprit_unique culprit culprit'

section Outcome

variable {latest : String → Option Node}

theorem textsFrom_outcome (key : String) (first : Nat) {items : List Node} {vs : List Value}
    (stand : List.Forall₂ (Value.Stands latest) items vs) :
    (∃ ss : List String, items.map Node.string? = ss.map some ∧ textsFrom key first vs = .ok ss) ∨
      ∃ (before : List String) (after : List (Option String)) (v : Value),
        items.map Node.string? = before.map some ++ none :: after ∧
        textsFrom key first vs = .error (.notText key (first + before.length) v) := by
  induction stand generalizing first with
  | nil => exact Or.inl ⟨[], rfl, rfl⟩
  | @cons item v items vs stands _ ih =>
    cases string : item.string? with
    | none =>
      have other : ∀ s, v ≠ .str s := by
        intro s same
        rw [(stands.str_iff s).1 same] at string
        cases string
      refine Or.inr ⟨[], items.map Node.string?, v, by simp [string], ?_⟩
      cases v with
      | str s => exact absurd rfl (other s)
      | _ => rfl
    | some s =>
      rw [(stands.str_iff s).2 string, textsFrom, List.map_cons, string]
      rcases ih (first + 1) with ⟨ss, strings, ok⟩ | ⟨before, after, v, strings, error⟩
      · exact Or.inl ⟨s :: ss, by simp [strings], by rw [ok]; rfl⟩
      · refine Or.inr ⟨s :: before, after, v, by simp [strings], ?_⟩
        rw [error, List.length_cons, Nat.add_assoc, Nat.add_comm 1]
        rfl

/-- The texts of a value are those of its node, or the node is to blame. -/
theorem texts_outcome (key : String) {n : Node} {v : Value} (stands : Value.Stands latest n v) :
    (∃ ss, n.listing = .ofTexts ss ∧ texts key v = .ok ss) ∨ ∃ p, texts key v = .error p ∧ Culprit key n.listing p.key := by
  rcases stands.list with ⟨items, vs, list, rfl, stand⟩ | ⟨none, other⟩
  · rw [texts, list]
    rcases textsFrom_outcome key 0 stand with ⟨ss, strings, ok⟩ | ⟨before, after, v, strings, error⟩
    · exact Or.inl ⟨ss, by rw [strings]; rfl, ok⟩
    · rw [Nat.zero_add] at error
      exact Or.inr ⟨_, error, strings ▸ .item before after⟩
  · refine Or.inr ⟨.notList key v, ?_, none ▸ .whole⟩
    cases v with
    | list vs => exact absurd rfl (other vs)
    | _ => rfl

/-- The fields of a value are found as those of its mapping are. -/
theorem lookup_outcome {t : String} (word : Yaml.IsWord t) {fields : List (Node × Node)} {entries : List (String × Value)}
    (stand : List.Forall₂ (Value.FieldStands latest) fields entries) (ordinary : ∀ f ∈ fields, f.1.isOrdinary = true) :
    (field? t fields = none ∧ entries.lookup t = none) ∨
      ∃ n v, field? t fields = some n.listing ∧ entries.lookup t = some v ∧ Value.Stands latest n v := by
  induction stand with
  | nil => exact Or.inl ⟨rfl, rfl⟩
  | @cons f e fields entries stands _ ih =>
    obtain ⟨isOrdinary, ordinary⟩ := List.forall_mem_cons.1 ordinary
    obtain ⟨⟨raw, named, name⟩, stands⟩ := stands
    have found := Value.name_eq_iff word isOrdinary named
    rw [← name] at found
    rw [field?_cons, List.lookup_cons]
    by_cases same : e.1 = t
    · exact Or.inr ⟨f.2, e.2, by rw [if_pos (found.1 same)], by simp [same], stands⟩
    · rw [if_neg fun string => same (found.2 string), beq_false_of_ne (Ne.symm same)]
      exact ih ordinary

theorem isWord_packages : Yaml.IsWord "packages" := .of_all (by decide) (by decide) (by decide)

theorem isWord_skipped : Yaml.IsWord "skip-ts" := .of_all (by decide) (by decide) (by decide)

/-- The first look at a mapping finds the manifest that its two keys hold, or blames one of them. -/
theorem ofFields_outcome {fields : List (Node × Node)} {entries : List (String × Value)}
    (stand : List.Forall₂ (Value.FieldStands latest) fields entries) (ordinary : ∀ f ∈ fields, f.1.isOrdinary = true) :
    (∃ m, ofFields entries = .ok m ∧ Holds (field? "packages" fields) (field? "skip-ts" fields) m) ∨
      ∃ p, ofFields entries = .error p ∧ Blames (field? "packages" fields) (field? "skip-ts" fields) p.key := by
  rw [ofFields]
  rcases lookup_outcome isWord_packages stand ordinary with ⟨none, absent⟩ | ⟨n, v, found, lookup, stands⟩
  · rw [none, absent]
    exact Or.inr ⟨.noPackages, rfl, .missing _⟩
  · rw [found, lookup]
    rcases texts_outcome "packages" stands with ⟨ss, strings, ok⟩ | ⟨p, error, culprit⟩
    · rcases lookup_outcome isWord_skipped stand ordinary with ⟨none, absent⟩ | ⟨k, w, found', lookup', stands'⟩
      · rw [none, absent, strings]
        refine Or.inl ⟨⟨ss, []⟩, ?_, rfl, Or.inl ⟨rfl, rfl⟩⟩
        simp only [ok]
        rfl
      · rw [found', lookup', strings]
        rcases texts_outcome "skip-ts" stands' with ⟨ss', strings', ok'⟩ | ⟨p, error, culprit⟩
        · refine Or.inl ⟨⟨ss, ss'⟩, ?_, rfl, Or.inr (by rw [strings'])⟩
          simp only [ok, ok']
          rfl
        · refine Or.inr ⟨p, ?_, .skipped ss culprit⟩
          simp only [ok, error]
          rfl
    · refine Or.inr ⟨p, ?_, .packages _ culprit⟩
      simp only [error]
      rfl

end Outcome

end Distill.Manifest
