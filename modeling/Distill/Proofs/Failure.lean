import Distill.Output

/-!
The codes of failures. Which kinds occur in a failure is said layer by layer (`Occurs`). The error code is that of the
first of them in the order of priority, however deep it lies and whatever lies around it (`code_of_first`), and the exit
code is the outermost one (`exitCode?_eq_some`).
-/
namespace Distill.Failure

/-- A kind occurs in a failure: the outermost layer is of that kind, or it occurs in the cause. -/
inductive Occurs : Kind → Failure → Prop
  | noRoot : Occurs .noRoot (.fault .noRoot)
  | outside (root path : String) : Occurs .outside (.fault (.outside root path))
  | malformed (file : String) (line column : Int) (message : String) :
    Occurs .malformed (.fault (.malformed file line column message))
  | output (path problem : String) : Occurs .output (.fault (.output path problem))
  | bareManifest (file key problem : String) : Occurs .manifest (.bare (.manifest file key problem))
  | manifest (file key problem : String) (cause : Failure) : Occurs .manifest (.within (.manifest file key problem) cause)
  | bareAccess (action path : String) : Occurs .access (.bare (.access action path))
  | access (action path : String) (cause : Failure) : Occurs .access (.within (.access action path) cause)
  | cause {k : Kind} {f : Failure} (w : Wrapper) (inner : Occurs k f) : Occurs k (.within w f)

/-- The kinds with their codes. The first of them that occurs decides. -/
def verdicts : List (Kind × String) :=
  [(.noRoot, "E005"), (.manifest, "E201"), (.outside, "E202"), (.malformed, "E204"), (.output, "E205"), (.access, "E203")]

/-- A failure with more layers around it, the outermost first. -/
def around (ws : List Wrapper) (f : Failure) : Failure := ws.foldr within f

/-- A layer that is of no kind: one that carries an exit code, or a note. -/
inductive IsPlain : Wrapper → Prop
  | exit (code : Int) (message : String) : IsPlain (.exit code message)
  | note (message : String) : IsPlain (.note message)

/-- The outermost layer with an exit code has this one. -/
inductive EndsWith : Failure → Int → Prop
  | bare (code : Int) (message : String) : EndsWith (.bare (.exit code message)) code
  | within (code : Int) (message : String) (cause : Failure) : EndsWith (.within (.exit code message) cause) code
  | cause {w : Wrapper} {f : Failure} {code : Int} (silent : ∀ c message, w ≠ .exit c message) (inner : EndsWith f code) :
    EndsWith (.within w f) code

section Kinds

variable {f g : Failure} {k : Kind} {w : Wrapper}

theorem occurs_within : Occurs k (.within w f) ↔ Layer.kind? (.wrapper w) = some k ∨ Occurs k f := by
  constructor
  · intro occurs
    cases occurs with
    | manifest => exact .inl rfl
    | access => exact .inl rfl
    | cause _ inner => exact .inr inner
  · rintro (own | inner)
    · cases w with
      | manifest file key problem =>
        obtain rfl := Option.some.inj own
        exact .manifest file key problem f
      | access action path =>
        obtain rfl := Option.some.inj own
        exact .access action path f
      | exit code message => cases own
      | note message => cases own
    · exact .cause w inner

theorem has_within : (within w f).has k = (decide (Layer.kind? (.wrapper w) = some k) || f.has k) := rfl

/-- Looking through all the layers finds the kinds that occur. -/
theorem has_iff : f.has k = true ↔ Occurs k f := by
  induction f with
  | fault x =>
    constructor
    · intro has
      have own : Layer.kind? (.fault x) = some k := by simpa [has, Failure.has, layers] using has
      cases x <;> cases own <;> constructor
    · intro occurs
      cases occurs <;> rfl
  | bare w =>
    constructor
    · intro has
      have own : Layer.kind? (.wrapper w) = some k := by simpa [has, Failure.has, layers] using has
      cases w <;> cases own <;> constructor
    · intro occurs
      cases occurs <;> rfl
  | within w f ih => rw [has_within, Bool.or_eq_true, decide_eq_true_iff, ih, occurs_within]

theorem verdicts_eq : verdicts = Kind.byPriority.map fun k => (k, k.code) := rfl

/-- The first kind that occurs decides the code. -/
theorem code_of_first {before after : List (Kind × String)} {c : String} (order : verdicts = before ++ (k, c) :: after)
    (occurs : Occurs k f) (first : ∀ v ∈ before, ¬ Occurs v.1 f) : f.code = c := by
  rw [verdicts_eq, List.map_eq_append_iff] at order
  obtain ⟨earlier, others, split, rfl, rest⟩ := order
  obtain ⟨j, later, rfl, own, -⟩ := List.map_eq_cons_iff.1 rest
  obtain ⟨rfl, rfl⟩ := Prod.mk.inj own
  have found : f.leadingKind? = some j := by
    rw [leadingKind?, split, List.find?_append, List.find?_eq_none.2, List.find?_cons_of_pos (has_iff.2 occurs)]
    · rfl
    · intro i member has
      exact first (i, i.code) (List.mem_map_of_mem member) (has_iff.1 has)
  rw [code, found]
  rfl

theorem code_of_none (none : ∀ v ∈ verdicts, ¬ Occurs v.1 f) : f.code = "E001" := by
  have nothing : f.leadingKind? = .none := by
    rw [leadingKind?, List.find?_eq_none]
    intro k member has
    refine none (k, k.code) ?_ (has_iff.1 has)
    rw [verdicts_eq]
    exact List.mem_map_of_mem member
  rw [code, nothing]
  rfl

/-- Failures in which the same kinds occur have the same code. -/
theorem code_congr (same : ∀ k, Occurs k g ↔ Occurs k f) : g.code = f.code := by
  have has : g.has = f.has := by
    funext k
    rw [Bool.eq_iff_iff, has_iff, has_iff, same k]
  rw [code, code, leadingKind?, leadingKind?, has]

theorem occurs_plain (plain : IsPlain w) : Occurs k (.within w f) ↔ Occurs k f := by
  rw [occurs_within]
  cases plain <;> simp [Layer.kind?]

theorem occurs_around (ws : List Wrapper) :
    Occurs k (around ws f) ↔ (∃ w ∈ ws, Layer.kind? (.wrapper w) = some k) ∨ Occurs k f := by
  induction ws with
  | nil => simp [around]
  | cons w ws ih =>
    have step : around (w :: ws) f = .within w (around ws f) := rfl
    rw [step, occurs_within, ih]
    simp [or_assoc]

/-- An exit code or a note makes no difference to the code, wherever it is put. -/
theorem code_around_plain (ws : List Wrapper) (plain : IsPlain w) :
    (around ws (.within w f)).code = (around ws f).code := by
  apply code_congr
  intro k
  rw [occurs_around, occurs_around, occurs_plain plain]

end Kinds

section ExitCodes

variable {f : Failure} {w : Wrapper} {code : Int}

/-- Going through the layers from the outside finds the outermost exit code. -/
theorem exitCode?_eq_some : f.exitCode? = some code ↔ EndsWith f code := by
  induction f with
  | fault x =>
    constructor
    · intro found
      cases found
    · intro ends
      cases ends
  | bare w =>
    constructor
    · intro found
      cases w <;> cases found
      constructor
    · intro ends
      cases ends
      rfl
  | within w f ih =>
    constructor
    · intro found
      cases w with
      | exit c message =>
        obtain rfl := Option.some.inj found
        exact .within c message f
      | _ => exact .cause (fun _ _ => by simp) (ih.1 found)
    · intro ends
      cases ends with
      | within => rfl
      | cause silent inner =>
        cases w with
        | exit c message => exact absurd rfl (silent c message)
        | _ => exact ih.2 inner

theorem exitCode_of_endsWith (ends : EndsWith f code) : f.exitCode = code := by
  rw [exitCode, exitCode?_eq_some.2 ends]
  rfl

theorem exitCode_of_none (none : ∀ code, ¬ EndsWith f code) : f.exitCode = 1 := by
  have silent : f.exitCode? = .none := by
    rw [Option.eq_none_iff_forall_ne_some]
    exact fun code found => none code (exitCode?_eq_some.1 found)
  rw [exitCode, silent]
  rfl

end ExitCodes

/-- The code of a failure is that of the first kind that occurs in it, and a general one if none does. So failures in which
the same kinds occur have the same code, and adding an exit code or a note anywhere does not change it. A failed run ends
with exit code 2 and keeps the code; in general the exit code is the outermost one, and 1 if there is none. -/
theorem code_of_kinds (f : Failure) :
    (∀ before k c after, verdicts = before ++ (k, c) :: after → Occurs k f → (∀ v ∈ before, ¬ Occurs v.1 f) → f.code = c) ∧
    ((∀ k, ¬ Occurs k f) → f.code = "E001") ∧
    (∀ g, (∀ k, Occurs k g ↔ Occurs k f) → g.code = f.code) ∧
    (∀ ws w, IsPlain w → (around ws (.within w f)).code = (around ws f).code) ∧
    (∀ o : Output, (o.runFailure f).2.exitCode = 2 ∧ (o.runFailure f).2.code = f.code) ∧
    (∀ code, EndsWith f code → f.exitCode = code) ∧
    ((∀ code, ¬ EndsWith f code) → f.exitCode = 1) := by
  refine ⟨fun _ _ _ _ => code_of_first, fun none => code_of_none fun v _ => none v.1, fun g => code_congr,
    fun ws w => code_around_plain ws, fun o => ⟨?_, ?_⟩, fun code => exitCode_of_endsWith, exitCode_of_none⟩
  · exact exitCode_of_endsWith (.within 2 f.code f)
  · exact code_around_plain [] (.exit 2 f.code)

namespace Sample

/-- A source that is no module, found while a file was read for a manifest that is at fault as well. -/
def deep : Failure :=
  .within (.access "read" "a.ts") (.within (.exit 7 "inner")
    (.within (.manifest "m" "" "p") (.fault (.malformed "a.ts" 1 1 "bad"))))

end Sample

theorem code_of_kinds_deep : Sample.deep.code = "E201" ∧ Sample.deep.exitCode = 7 ∧
    (around [.exit 3 "outer"] (.within (.note "again") Sample.deep)).code = (around [.exit 3 "outer"] Sample.deep).code := by
  obtain ⟨first, -, -, plain, -, ends, -⟩ := code_of_kinds Sample.deep
  have manifest : Occurs .manifest Sample.deep := .cause _ (.cause _ (.manifest "m" "" "p" _))
  refine ⟨first [(.noRoot, "E005")] .manifest "E201" _ rfl manifest ?_, ?_, plain _ _ (.note "again")⟩
  · intro v member occurs
    obtain rfl := List.mem_singleton.1 member
    exact absurd (has_iff.2 occurs) (by decide)
  · exact ends 7 (.cause (fun _ _ => by simp) (.within 7 "inner" _))

end Distill.Failure
