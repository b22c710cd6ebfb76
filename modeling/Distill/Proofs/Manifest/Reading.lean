import Distill.Proofs.Manifest.Shape

/-!
How a manifest of the right shape is read key by key: the reading finds no fault and keeps the texts of the two keys,
unless it is given up because nearly all of it goes through references (`document_outcome`).
-/
namespace Distill.Manifest

open Yaml (Node Value Literal Listing)

/-- Some beginning of the nodes that are read has nearly all of them behind references; `true` stands for one that is. -/
def Excessive (visits : List Bool) : Prop :=
  ∃ front, front <+: visits ∧ Draft.isAliased ⟨[], [], [], front.length, front.count true⟩ = true

/-- The nodes that are read for a text, each with whether it stands behind a reference. -/
def textVisits (inside : Bool) : Node → List Bool
  | .reference _ n _ => inside :: textVisits true n
  | _ => [inside]

/-- The nodes that are read for a list of texts. -/
def listVisits (inside : Bool) : Node → List Bool
  | .reference _ n _ => inside :: listVisits true n
  | .sequence items _ => inside :: items.flatMap (textVisits inside)
  | _ => [inside]

/-- The nodes that are read for a field: its key, and its value if the key is one of the two. -/
def fieldVisits (field : Node × Node) : List Bool :=
  false :: if field.1.string? ∈ [some "packages", some "skip-ts"] then listVisits false field.2 else []

/-- The nodes that are read for a document with some fields. -/
def visits (fields : List (Node × Node)) : List Bool := false :: false :: fields.flatMap fieldVisits

/-- Whether so many nodes may be read after others, of which `through` of `seen` were behind references. -/
def tolerates (seen through : Nat) : List Bool → Bool
  | [] => true
  | b :: bs => !Draft.isAliased ⟨[], [], [], seen + 1, through + b.toNat⟩ && tolerates (seen + 1) (through + b.toNat) bs

theorem tolerates_append (seen through : Nat) (first rest : List Bool) :
    tolerates seen through (first ++ rest) =
      (tolerates seen through first && tolerates (seen + first.length) (through + first.count true) rest) := by
  induction first generalizing seen through with
  | nil => simp [tolerates]
  | cons b first ih =>
    have count : through + (b :: first).count true = through + b.toNat + first.count true := by
      cases b with
      | false => simp
      | true => simp [Nat.add_comm, Nat.add_left_comm]
    rw [List.cons_append, tolerates, ih, tolerates, count, Bool.and_assoc, List.length_cons,
      Nat.add_assoc seen, Nat.add_comm 1]

theorem tolerates_eq_false (seen through : Nat) (visits : List Bool) :
    tolerates seen through visits = false ↔ ∃ front, front <+: visits ∧ front ≠ [] ∧
      Draft.isAliased ⟨[], [], [], seen + front.length, through + front.count true⟩ = true := by
  induction visits generalizing seen through with
  | nil =>
    simp only [tolerates, List.prefix_nil]
    constructor
    · intro impossible
      cases impossible
    · rintro ⟨front, rfl, some, -⟩
      exact absurd rfl some
  | cons b bs ih =>
    have count (front : List Bool) : through + (b :: front).count true = through + b.toNat + front.count true := by
      cases b with
      | false => simp
      | true => simp [Nat.add_comm, Nat.add_left_comm]
    have length (front : List Bool) : seen + (b :: front).length = seen + 1 + front.length := by
      rw [List.length_cons, Nat.add_assoc seen, Nat.add_comm 1]
    rw [tolerates, Bool.and_eq_false_iff, Bool.not_eq_false', ih]
    constructor
    · rintro (now | ⟨front, isFront, -, later⟩)
      · exact ⟨[b], by simp, by simp, by simpa [count, length] using now⟩
      · exact ⟨b :: front, by simpa using isFront, by simp, by rwa [count, length]⟩
    · rintro ⟨front, isFront, some, aliased⟩
      obtain ⟨c, front, rfl⟩ := List.exists_cons_of_ne_nil some
      obtain ⟨rfl, shorter⟩ := List.cons_prefix_cons.1 isFront
      rw [count, length] at aliased
      by_cases last : front = []
      · subst last
        exact Or.inl (by simpa using aliased)
      · exact Or.inr ⟨front, shorter, last, aliased⟩

/-- Visits are tolerated from the start unless some beginning of them is excessive. -/
theorem tolerates_eq_false_iff (visits : List Bool) : tolerates 0 0 visits = false ↔ Excessive visits := by
  rw [tolerates_eq_false]
  constructor
  · rintro ⟨front, isFront, -, aliased⟩
    exact ⟨front, isFront, by simpa using aliased⟩
  · rintro ⟨front, isFront, aliased⟩
    refine ⟨front, isFront, ?_, by simpa using aliased⟩
    rintro rfl
    cases aliased

theorem tolerates_eq_true_iff (visits : List Bool) : tolerates 0 0 visits = true ↔ ¬ Excessive visits := by
  rw [← tolerates_eq_false_iff, Bool.not_eq_false]

instance (visits : List Bool) : Decidable (Excessive visits) := decidable_of_iff _ (tolerates_eq_false_iff visits)

namespace Reading

/-- Reading takes a manifest to another one and gives a result, after some visits that have to be tolerated. -/
def Reads {α : Type} (act : Reading α) (visits : List Bool) (a : α) (m m' : Manifest) : Prop :=
  ∀ seen through, act.run ⟨m.packages, m.skipped, [], seen, through⟩ =
    if tolerates seen through visits then
      .ok (a, ⟨m'.packages, m'.skipped, [], seen + visits.length, through + visits.count true⟩)
    else .error .aliased

section Rules

variable {α β : Type} {m m' m'' : Manifest}

theorem reads_pure (a : α) (m : Manifest) : Reads (pure a) [] a m m := by
  intro seen through
  rfl

theorem reads_bind {act : Reading α} {k : α → Reading β} {first rest : List Bool} {a : α} {b : β}
    (before : Reads act first a m m') (after : Reads (k a) rest b m' m'') : Reads (act >>= k) (first ++ rest) b m m'' := by
  intro seen through
  rw [StateT.run_bind, before seen through, tolerates_append]
  cases tolerates seen through first with
  | false => rfl
  | true =>
    simp only [if_true, Bool.true_and, List.length_append, List.count_append, ← Nat.add_assoc]
    exact after _ _

/-- Reading starts with one node. -/
theorem reads_step {act : Reading α} {k : α → Reading β} {inside : Bool} {rest : List Bool} {a : α} {b : β}
    (before : Reads act [inside] a m m') (after : Reads (k a) rest b m' m'') : Reads (act >>= k) (inside :: rest) b m m'' :=
  reads_bind before after

theorem reads_visit (inside : Bool) (m : Manifest) : Reads (visit inside) [inside] () m m := by
  intro seen through
  have count : (if inside then through + 1 else through) = through + [inside].count true := by cases inside <;> rfl
  have number : [inside].count true = inside.toNat := by cases inside <;> rfl
  simp only [visit, StateT.run_bind, StateT.run_modify, StateT.run_get, pure_bind, count, tolerates, Bool.and_true, number]
  cases aliased : Draft.isAliased ⟨[], [], [], seen + 1, through + inside.toNat⟩ with
  | false =>
    have same : Draft.isAliased ⟨m.packages, m.skipped, [], seen + 1, through + inside.toNat⟩ = false := aliased
    rw [same]
    rfl
  | true =>
    have same : Draft.isAliased ⟨m.packages, m.skipped, [], seen + 1, through + inside.toNat⟩ = true := aliased
    rw [same]
    rfl

theorem reads_map {act : Reading α} {f : α → β} {visits : List Bool} {a : α} (before : Reads act visits a m m') :
    Reads (do return f (← act)) visits (f a) m m' := by
  have mapped := reads_bind (k := fun a => pure (f a)) before (reads_pure (f a) m')
  rwa [List.append_nil] at mapped

end Rules

section Lists

variable (inside : Bool) (m : Manifest)

/-- A node that stands for a text is read as that text. -/
theorem reads_text? {n : Node} {s : String} (string : n.string? = some s) :
    Reads (text? inside n) (textVisits inside n) (some s) m m := by
  fun_induction Node.string? n generalizing inside with
  | case1 text plain tag line =>
    have literal := (Node.string?_scalar line).1 string
    cases Literal.fits_of_ofScalar? literal
    rw [text?, literal]
    exact reads_step (reads_visit inside m) (reads_pure (some s) m)
  | case2 name n line ih => exact reads_step (reads_visit inside m) (ih true string)
  | case3 n => cases string

theorem reads_texts {items : List Node} {ss : List String} (strings : items.map Node.string? = ss.map some) :
    Reads (texts inside items) (items.flatMap (textVisits inside)) ss m m := by
  induction items generalizing ss with
  | nil =>
    rw [List.map_eq_nil_iff.1 strings.symm]
    exact reads_pure [] m
  | cons item items ih =>
    obtain ⟨s, rest, rfl, first, strings⟩ := List.map_eq_cons_iff.1 strings.symm
    rw [texts, List.flatMap_cons]
    exact reads_bind (reads_text? inside m first.symm) (reads_map (ih strings.symm))

/-- A node that stands for a list of texts is read as that list. -/
theorem reads_list {n : Node} {ss : List String} (strings : n.listing = .ofTexts ss) :
    Reads (list inside n) (listVisits inside n) ss m m := by
  fun_induction Node.listing n generalizing inside with
  | case1 items line => exact reads_step (reads_visit inside m) (reads_texts inside m (Listing.items.inj strings))
  | case2 name n line ih => exact reads_step (reads_visit inside m) (ih true strings)
  | case3 n => cases strings

end Lists

section Fields

/-- The key of a field is read as a word exactly if it stands for that text. -/
theorem reads_key {key : Node} {name : String} (ordinary : key.isOrdinary = true) (named : Value.fieldName? key = some name)
    (m : Manifest) :
    ∃ r, Reads (text? false key) [false] r m m ∧ ∀ t, Yaml.IsWord t → (r = some t ↔ key.string? = some t) := by
  cases key with
  | scalar text plain tag line =>
    obtain ⟨l, literal, -⟩ := Option.bind_eq_some_iff.1 named
    simp only [Node.isOrdinary, Bool.and_eq_true, decide_eq_true_eq] at ordinary
    simp only [text?, Node.string?, literal, Option.bind_some]
    have own : Reads (do visit false; return some text) [false] (some text) m m :=
      reads_step (reads_visit false m) (reads_pure _ m)
    have differs {t : String} (word : Yaml.IsWord t) (kind : Yaml.Kind.ofText text ≠ .text) : text ≠ t := by
      rintro rfl
      exact kind word.kind
    cases Literal.fits_of_ofScalar? literal with
    | null kind => exact ⟨none, reads_step (reads_visit false m) (reads_pure none m), fun t word => by simp [Literal.text?]⟩
    | bool kind => exact ⟨some text, own, fun t word => by simp [Literal.text?, differs word kind]⟩
    | text => exact ⟨some text, own, fun t word => by simp [Literal.text?]⟩
    | bytes asked => exact absurd asked ordinary.2
    | number kind numeral => exact ⟨some text, own, fun t word => by simp [Literal.text?, differs word kind]⟩
  | _ => cases ordinary

theorem isMerge_of_isOrdinary {key : Node} (ordinary : key.isOrdinary = true) : isMerge key = false := by
  cases key with
  | scalar text plain tag line =>
    simp only [Node.isOrdinary, Value.isMerge, Bool.and_eq_true, Bool.not_eq_true'] at ordinary
    rw [isMerge]
    grind
  | _ => cases ordinary

/-- The manifest after some fields are read. -/
def kept (m : Manifest) (fields : List (Node × Node)) : Manifest :=
  ⟨((field? "packages" fields).map Listing.texts).getD m.packages,
    ((field? "skip-ts" fields).map Listing.texts).getD m.skipped⟩

/-- A field can be read: its key gives it a name, and under the two keys there are texts. -/
def Readable (field : Node × Node) : Prop :=
  (∃ name, Value.fieldName? field.1 = some name) ∧
    ∀ t ∈ ["packages", "skip-ts"], field.1.string? = some t → ∃ ss, field.2.listing = .ofTexts ss

/-- The manifest after the list of one of the two keys is set. -/
def put (m : Manifest) (name : String) (ss : List String) : Manifest :=
  if name = "packages" then { m with packages := ss } else { m with skipped := ss }

theorem reads_modify (f : Draft → Draft) {m m' : Manifest}
    (changes : ∀ seen through, f ⟨m.packages, m.skipped, [], seen, through⟩ = ⟨m'.packages, m'.skipped, [], seen, through⟩) :
    Reads (modify f) [] () m m' := by
  intro seen through
  rw [StateT.run_modify, changes]
  rfl

theorem reads_set {name : String} {n : Node} {ss : List String} (two : name ∈ ["packages", "skip-ts"])
    (strings : n.listing = .ofTexts ss) (m : Manifest) :
    Reads (set false name n) (listVisits false n) () m (put m name ss) := by
  rw [← List.append_nil (listVisits false n)]
  simp only [List.mem_cons, List.not_mem_nil, or_false] at two
  rcases two with rfl | rfl
  · exact reads_bind (reads_list false m strings) (reads_modify _ fun _ _ => rfl)
  · exact reads_bind (reads_list false m strings) (reads_modify _ fun _ _ => rfl)

theorem field?_eq_none {name : String} {fields : List (Node × Node)} (others : ∀ f ∈ fields, f.1.string? ≠ some name) :
    field? name fields = none := by
  simp only [field?, Option.map_eq_none_iff, List.find?_eq_none, decide_eq_true_eq]
  exact others

theorem kept_put {key n : Node} {fields : List (Node × Node)} {name : String} {ss : List String}
    (two : name ∈ ["packages", "skip-ts"]) (string : key.string? = some name) (strings : n.listing = .ofTexts ss)
    (others : ∀ f ∈ fields, f.1.string? ≠ some name) (m : Manifest) :
    kept (put m name ss) fields = kept m ((key, n) :: fields) := by
  have none := field?_eq_none others
  simp only [List.mem_cons, List.not_mem_nil, or_false] at two
  rcases two with rfl | rfl
  · simp [kept, put, field?_cons, string, none, strings]
  · simp [kept, put, field?_cons, string, none, strings]

theorem reads_addFields {fields : List (Node × Node)} (ordinary : Ordinary fields) (readable : ∀ f ∈ fields, Readable f)
    (all : List (Node × Node)) (done : List String) (fresh : ∀ f ∈ fields, ∀ t ∈ done, f.1.string? ≠ some t) (m : Manifest) :
    Reads (addFields false all done none fields) (fields.flatMap fieldVisits) none m (kept m fields) := by
  induction fields generalizing done m with
  | nil => exact reads_pure none m
  | cons field fields ih =>
    obtain ⟨key, n⟩ := field
    obtain ⟨isOrdinary, keys⟩ := List.forall_mem_cons.1 ordinary.keys
    obtain ⟨isNew, distinct⟩ := List.nodup_cons.1 ordinary.distinct
    obtain ⟨⟨⟨name, named⟩, texts⟩, readable⟩ := List.forall_mem_cons.1 readable
    obtain ⟨notDone, fresh⟩ := List.forall_mem_cons.1 fresh
    obtain ⟨r, readsKey, same⟩ := reads_key isOrdinary named m
    rw [addFields, if_neg (by simp [isMerge_of_isOrdinary isOrdinary]), List.flatMap_cons]
    by_cases two : key.string? ∈ [some "packages", some "skip-ts"]
    · obtain ⟨t, isTwo, string⟩ : ∃ t ∈ ["packages", "skip-ts"], key.string? = some t := by simpa using two
      have word : Yaml.IsWord t := by
        simp only [List.mem_cons, List.not_mem_nil, or_false] at isTwo
        rcases isTwo with rfl | rfl
        · exact isWord_packages
        · exact isWord_skipped
      obtain ⟨ss, strings⟩ := texts t isTwo string
      -- no other field has the same key
      have others : ∀ f ∈ fields, f.1.string? ≠ some t := by
        intro f member again
        have sameText := (Node.text?_of_string? (keys f member) again).trans (Node.text?_of_string? isOrdinary string).symm
        exact isNew (List.mem_map.2 ⟨f, member, sameText⟩)
      have notTaken : t ∉ done := fun taken => notDone t taken string
      have fresh' : ∀ f ∈ fields, ∀ u ∈ t :: done, f.1.string? ≠ some u := fun f member =>
        List.forall_mem_cons.2 ⟨others f member, fresh f member⟩
      rw [(same t word).2 string] at readsKey
      rw [fieldVisits, if_pos two, ← kept_put isTwo string strings others]
      refine reads_step readsKey ?_
      simp only [Option.any_none, Bool.false_eq_true, if_false, if_pos isTwo, if_neg notTaken, Option.map_none]
      exact reads_bind (reads_set isTwo strings m) (ih ⟨keys, distinct⟩ readable (t :: done) fresh' _)
    · have notPackages : key.string? ≠ some "packages" := fun string => two (by simp [string])
      have notSkipped : key.string? ≠ some "skip-ts" := fun string => two (by simp [string])
      have rest := ih ⟨keys, distinct⟩ readable done fresh m
      have kept_eq : kept m ((key, n) :: fields) = kept m fields := by
        simp [kept, field?_cons, notPackages, notSkipped]
      rw [fieldVisits, if_neg two, kept_eq]
      refine reads_step readsKey ?_
      cases r with
      | none => exact rest
      | some u =>
        have other : u ∉ ["packages", "skip-ts"] := by
          rintro member
          simp only [List.mem_cons, List.not_mem_nil, or_false] at member
          rcases member with rfl | rfl
          · exact notPackages ((same _ isWord_packages).1 rfl)
          · exact notSkipped ((same _ isWord_skipped).1 rfl)
        simp only [Option.any_none, Bool.false_eq_true, if_false, if_neg other, Option.map_none]
        exact rest

/-- Keys with different texts do not repeat each other. -/
theorem repeats_eq_nil {fields : List (Node × Node)} (ordinary : Ordinary fields) : repeats fields = [] := by
  induction fields with
  | nil => rfl
  | cons field fields ih =>
    obtain ⟨isOrdinary, keys⟩ := List.forall_mem_cons.1 ordinary.keys
    obtain ⟨isNew, distinct⟩ := List.nodup_cons.1 ordinary.distinct
    obtain ⟨key, n⟩ := field
    cases key with
    | scalar text plain tag line =>
      have others : fields.filter (fun f => identity f.1 = some (false, text)) = [] := by
        rw [List.filter_eq_nil_iff]
        intro f member
        obtain ⟨other, k⟩ := f
        cases other with
        | scalar u plain tag line =>
          have differs : u ≠ text := by
            rintro rfl
            exact isNew (List.mem_map.2 ⟨_, member, rfl⟩)
          simp [identity, differs]
        | _ => cases keys _ member
      have self : identity (.scalar text plain tag line) = some (false, text) := rfl
      simp only [repeats, self, others, ih ⟨keys, distinct⟩, List.map_nil, List.append_nil]
    | _ => cases isOrdinary

/-- The reading of a document whose two keys hold texts. -/
theorem reads_document {fields : List (Node × Node)} (ordinary : Ordinary fields) (readable : ∀ f ∈ fields, Readable f)
    (line : Nat) : Reads (document (.mapping fields line)) (visits fields) () ⟨[], []⟩ (kept ⟨[], []⟩ fields) := by
  have added := reads_addFields ordinary readable fields [] (by simp) ⟨[], []⟩
  refine reads_step (reads_visit false _) (reads_step (reads_visit false _) ?_)
  rw [unlessRepeated, repeats_eq_nil ordinary]
  exact reads_map (f := fun _ => ()) (reads_map (f := fun (taken : Option (List String)) => taken.getD []) added)

end Fields

end Reading

end Distill.Manifest
