import Distill.Proofs.Manifest.Reading

/-!
Which manifests are accepted, and what is blamed otherwise (`ofBytes_exact`). The first look at a manifest and the reading
of its keys agree as long as the keys at the top are ordinary ones; a key through a reference is taken for two different
names (`ofText_key_by_reference`).
-/
namespace Distill.Manifest

open Yaml (Node Document Value Listing)

/-- Documents that bytes hold, in which the values of every name agree. -/
def Accepted (bytes : Text.Bytes) (ds : List Document) : Prop :=
  Yaml.documents? bytes = some ds ∧ ∀ d ∈ ds, (Value.coherent? d).isSome = true

/-- The fields at the top of the only document. -/
def topLevel? : List Document → Option (List (Node × Node))
  | [⟨.mapping fields _, _⟩] => some fields
  | _ => none

section Reading

variable {fields : List (Node × Node)}

theorem field?_of_mem (ordinary : Ordinary fields) {f : Node × Node} (member : f ∈ fields) {name : String}
    (string : f.1.string? = some name) : field? name fields = some f.2.listing := by
  induction fields with
  | nil => cases member
  | cons g fields ih =>
    obtain ⟨isOrdinary, keys⟩ := List.forall_mem_cons.1 ordinary.keys
    obtain ⟨isNew, distinct⟩ := List.nodup_cons.1 ordinary.distinct
    rw [field?_cons]
    rcases List.mem_cons.1 member with rfl | member
    · rw [if_pos string]
    · have other : g.1.string? ≠ some name := by
        intro again
        have sameText := (Node.text?_of_string? (keys f member) string).trans (Node.text?_of_string? isOrdinary again).symm
        exact isNew (List.mem_map.2 ⟨f, member, sameText⟩)
      rw [if_neg other]
      exact ih ⟨keys, distinct⟩ member

/-- Where the two keys hold a manifest, every field can be read. -/
theorem readable_of_holds {m : Manifest} (ordinary : Ordinary fields)
    (holds : Holds (field? "packages" fields) (field? "skip-ts" fields) m)
    (named : ∀ f ∈ fields, ∃ name, Value.fieldName? f.1 = some name) : ∀ f ∈ fields, Reading.Readable f := by
  intro f member
  refine ⟨named f member, fun t two string => ?_⟩
  have found := field?_of_mem ordinary member string
  simp only [List.mem_cons, List.not_mem_nil, or_false] at two
  rcases two with rfl | rfl
  · exact ⟨m.packages, Option.some.inj (found.symm.trans holds.1)⟩
  · rcases holds.2 with ⟨none, -⟩ | skips
    · rw [none] at found
      cases found
    · exact ⟨m.skipped, Option.some.inj (found.symm.trans skips)⟩

theorem kept_of_holds {m : Manifest} (holds : Holds (field? "packages" fields) (field? "skip-ts" fields) m) :
    Reading.kept ⟨[], []⟩ fields = m := by
  obtain ⟨packages, skips⟩ := holds
  rw [Reading.kept, packages]
  rcases skips with ⟨none, empty⟩ | skips
  · simp [none, ← empty]
  · simp [skips]

/-- A document of ordinary keys gives what its two keys hold unless that is read through references nearly everywhere, or
one of the two is blamed. -/
theorem ofDocument_outcome {d : Document} {line : Nat} (root : d.root = .mapping fields line) (ordinary : Ordinary fields)
    (coherent : (Value.coherent? d).isSome = true) :
    (∃ m, Holds (field? "packages" fields) (field? "skip-ts" fields) m ∧
      ofDocument d = if Excessive (visits fields) then .error .aliased else .ok m) ∨
    ∃ p, Blames (field? "packages" fields) (field? "skip-ts" fields) p.key ∧ ofDocument d = .error p := by
  obtain ⟨v, value⟩ := Option.isSome_iff_exists.1 coherent
  have plain : ∀ f ∈ fields, Value.isMerge f.1 = false := fun f member => Node.isMerge_of_isOrdinary (ordinary.keys f member)
  obtain ⟨latest, entries, rfl, stand⟩ := Value.ofDocument?_mapping root plain (Option.mem_filter_iff.1 value).1
  rw [ofDocument, value]
  rcases ofFields_outcome stand ordinary.keys with ⟨m, ok, holds⟩ | ⟨p, error, blames⟩
  · refine Or.inl ⟨m, holds, ?_⟩
    have readable := readable_of_holds ordinary holds (Value.named_of_forall₂ stand)
    have reads := Reading.reads_document ordinary readable line 0 0
    rw [kept_of_holds holds] at reads
    have start : (⟨(⟨[], []⟩ : Manifest).packages, (⟨[], []⟩ : Manifest).skipped, [], 0, 0⟩ : Draft) = .empty := rfl
    rw [start] at reads
    simp only [ofValue, ok, root]
    by_cases excessive : Excessive (visits fields)
    · rw [(tolerates_eq_false_iff _).2 excessive] at reads
      rw [if_pos excessive]
      simp only [bind, Except.bind, reads]
      rfl
    · rw [(tolerates_eq_true_iff _).2 excessive] at reads
      rw [if_neg excessive]
      simp only [bind, Except.bind, reads]
      rfl
  · refine Or.inr ⟨p, blames, ?_⟩
    simp only [ofValue, error]
    rfl

end Reading

section Bytes

variable {bytes : Text.Bytes} {ds : List Document}

/-- Where the top is no mapping, nothing else is looked at. -/
theorem ofBytes_notMapping (accepted : Accepted bytes ds) (top : topLevel? ds = none) :
    ofBytes bytes = .error .notMapping := by
  obtain ⟨read, coherent⟩ := accepted
  have all : ds.all (fun d => (Value.coherent? d).isSome) = true := List.all_eq_true.2 coherent
  have direct := Yaml.isReference_root read
  rw [ofBytes, read]
  dsimp only
  rw [ofDocuments.eq_def]
  split
  · rename_i d
    obtain ⟨v, value⟩ := Option.isSome_iff_exists.1 (coherent d (List.mem_singleton_self d))
    obtain ⟨w, node, eq⟩ := Option.map_eq_some_iff.1 (Option.mem_filter_iff.1 value).1
    have noMapping : ∀ fields line, d.root ≠ .mapping fields line := by
      obtain ⟨root, anchors⟩ := d
      rintro fields line rfl
      cases top
    have other := Value.Stands.ne_mapping ⟨w, node, eq⟩ noMapping (direct d (List.mem_singleton_self d))
    rw [ofDocument, value]
    cases v with
    | mapping entries => exact absurd rfl (other entries)
    | _ => rfl
  · rw [if_pos all]

theorem ofBytes_outcome (accepted : Accepted bytes ds) {fields : List (Node × Node)} (top : topLevel? ds = some fields)
    (ordinary : Ordinary fields) :
    (∃ m, Holds (field? "packages" fields) (field? "skip-ts" fields) m ∧
      ofBytes bytes = if Excessive (visits fields) then .error .aliased else .ok m) ∨
    ∃ p, Blames (field? "packages" fields) (field? "skip-ts" fields) p.key ∧ ofBytes bytes = .error p := by
  obtain ⟨read, coherent⟩ := accepted
  rw [topLevel?.eq_def] at top
  split at top
  · rename_i own line anchors
    cases top
    rw [ofBytes, read]
    exact ofDocument_outcome rfl ordinary (coherent _ (List.mem_singleton_self _))
  · cases top

/-- A mapping is accepted as what its two keys hold. -/
theorem ofBytes_eq_ok_iff (accepted : Accepted bytes ds) {fields : List (Node × Node)} (top : topLevel? ds = some fields)
    (ordinary : Ordinary fields) (m : Manifest) :
    ofBytes bytes = .ok m ↔ Holds (field? "packages" fields) (field? "skip-ts" fields) m ∧ ¬ Excessive (visits fields) := by
  rcases ofBytes_outcome accepted top ordinary with ⟨own, holds, outcome⟩ | ⟨p, blames, outcome⟩
  · rw [outcome]
    split
    · rename_i excessive
      simp [excessive]
    · rename_i moderate
      rw [Except.ok.injEq, and_iff_left moderate]
      exact ⟨fun same => same ▸ holds, holds_unique holds⟩
  · rw [outcome]
    constructor
    · intro impossible
      cases impossible
    · rintro ⟨holds, -⟩
      exact absurd blames (not_blames_of_holds holds)

/-- Another mapping is refused for what is to blame, or because it is given up. -/
theorem ofBytes_eq_error_iff (accepted : Accepted bytes ds) {fields : List (Node × Node)} (top : topLevel? ds = some fields)
    (ordinary : Ordinary fields) (key : String) :
    (∃ p, ofBytes bytes = .error p ∧ p.key = key) ↔
      Blames (field? "packages" fields) (field? "skip-ts" fields) key ∨
        key = "" ∧ Excessive (visits fields) ∧ ∃ m, Holds (field? "packages" fields) (field? "skip-ts" fields) m := by
  rcases ofBytes_outcome accepted top ordinary with ⟨m, holds, outcome⟩ | ⟨p, blames, outcome⟩
  · have blameless : ¬ Blames _ _ key := not_blames_of_holds holds
    rw [outcome]
    split
    · rename_i excessive
      constructor
      · rintro ⟨p, same, rfl⟩
        cases same
        exact Or.inr ⟨rfl, excessive, m, holds⟩
      · rintro (blames | ⟨rfl, -, -⟩)
        · exact absurd blames blameless
        · exact ⟨.aliased, rfl, rfl⟩
    · rename_i moderate
      simp [blameless, moderate]
  · rw [outcome]
    constructor
    · rintro ⟨q, same, rfl⟩
      cases same
      exact Or.inl blames
    · rintro (blames' | ⟨-, -, m, holds⟩)
      · exact ⟨p, rfl, blames_unique blames blames'⟩
      · exact absurd blames (not_blames_of_holds holds)

end Bytes

/-- More than a hundred nodes have to be read through references before a manifest is given up. -/
theorem not_excessive {visits : List Bool} (few : visits.count true ≤ 100) : ¬ Excessive visits := by
  rintro ⟨front, isFront, aliased⟩
  have fewer := isFront.sublist.count_le true
  simp only [Draft.isAliased, Bool.and_eq_true, decide_eq_true_eq] at aliased
  omega

/-- A manifest whose keys are ordinary is accepted exactly if `packages` is a list of texts and `skip-ts` is one too or is
missing, and then it holds those texts. Otherwise it fails for the file, and the failure names the key that is missing or
no list, or the first item that is no text; no key is named only where the top is no mapping, or where the reading is given
up. Other fields count for nothing but that. -/
theorem ofBytes_exact (file : String) {bytes : Text.Bytes} {ds : List Document} (accepted : Accepted bytes ds) :
    let parsed (bytes : Text.Bytes) := (ofBytes bytes).mapError (Problem.failure file)
    (topLevel? ds = none → parsed bytes = .error (.bare (.manifest file "" "top level must be a mapping"))) ∧
    ∀ fields, topLevel? ds = some fields → Ordinary fields →
      let packages := field? "packages" fields
      let skipped := field? "skip-ts" fields
      (∀ m, parsed bytes = .ok m ↔ Holds packages skipped m ∧ ¬ Excessive (visits fields)) ∧
      (∀ key, (∃ problem, parsed bytes = .error (.bare (.manifest file key problem))) ↔
        Blames packages skipped key ∨ key = "" ∧ Excessive (visits fields) ∧ ∃ m, Holds packages skipped m) ∧
      (∀ f, parsed bytes = .error f → ∃ key problem, f = .bare (.manifest file key problem)) ∧
      (Excessive (visits fields) → 100 < (visits fields).count true) ∧
      ∀ bytes' ds' fields', Accepted bytes' ds' → topLevel? ds' = some fields' → Ordinary fields' →
        field? "packages" fields' = packages → field? "skip-ts" fields' = skipped →
        (Excessive (visits fields') ↔ Excessive (visits fields)) → ∀ m, parsed bytes' = .ok m ↔ parsed bytes = .ok m := by
  have ok (bytes : Text.Bytes) (m : Manifest) :
      (ofBytes bytes).mapError (Problem.failure file) = .ok m ↔ ofBytes bytes = .ok m := by
    cases ofBytes bytes <;> simp [Except.mapError]
  have error (bytes : Text.Bytes) (f : Failure) :
      (ofBytes bytes).mapError (Problem.failure file) = .error f ↔ ∃ p, ofBytes bytes = .error p ∧ p.failure file = f := by
    cases ofBytes bytes <;> simp [Except.mapError]
  dsimp only
  refine ⟨fun top => ?_, fun fields top ordinary => ⟨fun m => ?_, fun key => ?_, fun f => ?_, ?_, ?_⟩⟩
  · rw [ofBytes_notMapping accepted top]
    rfl
  · rw [ok, ofBytes_eq_ok_iff accepted top ordinary]
  · rw [← ofBytes_eq_error_iff accepted top ordinary]
    simp only [error, Problem.failure]
    constructor
    · rintro ⟨problem, p, failed, same⟩
      cases same
      exact ⟨p, failed, rfl⟩
    · rintro ⟨p, failed, rfl⟩
      exact ⟨p.message, p, failed, rfl⟩
  · intro failed
    obtain ⟨p, -, rfl⟩ := (error bytes f).1 failed
    exact ⟨p.key, p.message, rfl⟩
  · intro excessive
    by_contra few
    exact not_excessive (Nat.not_lt.1 few) excessive
  · intro bytes' ds' fields' accepted' top' ordinary' samePackages sameSkipped sameVisits m
    rw [ok, ok, ofBytes_eq_ok_iff accepted' top' ordinary', ofBytes_eq_ok_iff accepted top ordinary, samePackages,
      sameSkipped, sameVisits]

namespace Sample

/-- A manifest with references, and with a merge below another key. -/
def shared : String := "x: &x lib\npackages: [*x, 'app-*']\nskip-ts: &s ['test']\nother: \x7b<<: \x7bk: 1\x7d\x7d\n"

/-- A manifest with a number among the texts of one of its keys. -/
def mixed : String := "name: 1\npackages: [a]\nskip-ts: [b, 3, c]\n"

/-- A mapping whose second key refers to a text; the name of the reference is not that text. -/
def renamed : String := "x: &packages other\n*packages : [a]\n"

/-- A mapping with two such keys. -/
def crossed : String := "x: &packages other\ny: &p packages\n*packages : [a]\n*p : abcdefghijkl\n"

/-- The documents of a text are accepted, and the fields at the top pass a test. -/
def passes (p : List (Node × Node) → Bool) (text : String) : Bool :=
  (Yaml.documents? (Text.encode text)).any fun ds =>
    ds.all (fun d => (Value.coherent? d).isSome) && (topLevel? ds).any p

theorem exists_of_passes {p : List (Node × Node) → Bool} {text : String} (passed : passes p text = true) :
    ∃ ds fields, Accepted (Text.encode text) ds ∧ topLevel? ds = some fields ∧ p fields = true := by
  obtain ⟨ds, read, passed⟩ := (Option.any_eq_true _ _).1 passed
  obtain ⟨coherent, passed⟩ := Bool.and_eq_true_iff.1 passed
  obtain ⟨fields, top, passed⟩ := (Option.any_eq_true _ _).1 passed
  exact ⟨ds, fields, ⟨read, List.all_eq_true.1 coherent⟩, top, passed⟩

end Sample

open Sample in
theorem ofBytes_exact_sample :
    (ofBytes (Text.encode shared)).mapError (Problem.failure "m") = .ok ⟨["lib", "app-*"], ["test"]⟩ ∧
      ∃ problem, (ofBytes (Text.encode mixed)).mapError (Problem.failure "m") =
        .error (.bare (.manifest "m" "skip-ts.1" problem)) := by
  have accepts : passes (fun fields => decide (Ordinary fields ∧ ¬ Excessive (visits fields) ∧
      field? "packages" fields = some (.ofTexts ["lib", "app-*"]) ∧ field? "skip-ts" fields = some (.ofTexts ["test"])))
      shared = true := by decide +kernel
  have refuses : passes (fun fields => decide (Ordinary fields ∧ field? "packages" fields = some (.ofTexts ["a"]) ∧
      field? "skip-ts" fields = some (.items [some "b", none, some "c"]))) mixed = true := by decide +kernel
  constructor
  · obtain ⟨ds, fields, accepted, top, facts⟩ := exists_of_passes accepts
    obtain ⟨ordinary, moderate, packages, skipped⟩ := of_decide_eq_true facts
    obtain ⟨ok, -⟩ := (ofBytes_exact "m" accepted).2 fields top ordinary
    exact (ok _).2 ⟨⟨packages, Or.inr skipped⟩, moderate⟩
  · obtain ⟨ds, fields, accepted, top, facts⟩ := exists_of_passes refuses
    obtain ⟨ordinary, packages, skipped⟩ := of_decide_eq_true facts
    obtain ⟨-, error, -⟩ := (ofBytes_exact "m" accepted).2 fields top ordinary
    refine (error "skip-ts.1").2 (Or.inl ?_)
    rw [packages, skipped]
    exact .skipped ["a"] (.item ["b"] [some "c"])

open Sample in
/-- Through a reference, the first look takes a key by the name of its anchor and the reading by its text. So a mapping
without the key `packages` is accepted, and one whose value under it is no list gets past the first look. -/
theorem ofText_key_by_reference :
    (∃ ds fields, Accepted (Text.encode renamed) ds ∧ topLevel? ds = some fields ∧
      fields.map (·.1.string?) = [some "x", some "other"]) ∧
    ofText renamed = .ok ⟨[], []⟩ ∧
    (∃ ds fields, Accepted (Text.encode crossed) ds ∧ topLevel? ds = some fields ∧
      fields.map (fun f => (f.1.string?, f.2.listing)) =
        [(some "x", .other), (some "y", .other), (some "other", .items [some "a"]), (some "packages", .other)]) ∧
    (ofText crossed).mapError (Problem.failure "m") = .error (.bare (.manifest "m" ""
      "decoding yaml: yaml: unmarshal errors:\n  line 4: cannot unmarshal !!str \x60abcdefg...\x60 into []string")) := by
  have accepts : passes (fun fields => decide (fields.map (·.1.string?) = [some "x", some "other"])) renamed = true := by
    decide +kernel
  have crosses : passes (fun fields => decide (fields.map (fun f => (f.1.string?, f.2.listing)) =
      [(some "x", .other), (some "y", .other), (some "other", .items [some "a"]), (some "packages", .other)]))
      crossed = true := by decide +kernel
  refine ⟨?_, ?_, ?_, by decide +kernel⟩
  · obtain ⟨ds, fields, accepted, top, facts⟩ := exists_of_passes accepts
    exact ⟨ds, fields, accepted, top, of_decide_eq_true facts⟩
  · have found : (ofText renamed).toOption = some ⟨[], []⟩ := by decide +kernel
    cases outcome : ofText renamed with
    | ok m =>
      rw [outcome] at found
      rw [Option.some.inj found]
    | error p =>
      rw [outcome] at found
      cases found
  · obtain ⟨ds, fields, accepted, top, facts⟩ := exists_of_passes crosses
    exact ⟨ds, fields, accepted, top, of_decide_eq_true facts⟩

end Distill.Manifest
