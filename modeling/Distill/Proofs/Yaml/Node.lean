import Distill.Yaml.Literal
import Distill.Yaml.Node

/-!
What a node of a document means as a text and as a list of texts, and what stands at the root of a document: never a
reference, since no anchor is known there (`isReference_root`).
-/
namespace Distill.Yaml

namespace Literal

def text? : Literal → Option String
  | text s => some s
  | _ => none

end Literal

/-- What a value is as a list of texts: something else, or items that are texts or something else. -/
inductive Listing where
  | other
  | items (texts : List (Option String))
deriving DecidableEq, Repr

/-- The list of some texts. -/
def Listing.ofTexts (ss : List String) : Listing := .items (ss.map some)

/-- The texts among the items of a list. -/
def Listing.texts : Listing → List String
  | other => []
  | items texts => texts.filterMap id

@[simp] theorem Listing.texts_ofTexts (ss : List String) : (ofTexts ss).texts = ss := by
  simp [ofTexts, texts, List.filterMap_map]

theorem Listing.ofTexts_inj {ss ts : List String} : ofTexts ss = ofTexts ts ↔ ss = ts := by
  constructor
  · intro same
    rw [← texts_ofTexts ss, same, texts_ofTexts]
  · rintro rfl
    rfl

namespace Node

/-- The text that a scalar is written with. -/
def text? : Node → Option String
  | scalar text _ _ _ => some text
  | _ => none

/-- The text that a node stands for. -/
def string? : Node → Option String
  | scalar text plain tag _ => (Literal.ofScalar? text plain tag).bind Literal.text?
  | reference _ n _ => n.string?
  | _ => none

/-- What a node stands for as a list of texts. -/
def listing : Node → Listing
  | sequence items _ => .items (items.map string?)
  | reference _ n _ => n.listing
  | _ => .other

def isReference : Node → Bool
  | reference .. => true
  | _ => false

end Node

namespace Read

variable {α β : Type} {s t : Reading}

theorem run_bind {act : Read α} {k : α → Read β} {b : β} :
    (act >>= k).run s = some (b, t) ↔ ∃ a u, act.run s = some (a, u) ∧ (k a).run u = some (b, t) := by
  rw [StateT.run_bind, Option.bind_eq_bind, Option.bind_eq_some_iff]
  exact ⟨fun ⟨(a, u), first, rest⟩ => ⟨a, u, first, rest⟩, fun ⟨a, u, first, rest⟩ => ⟨(a, u), first, rest⟩⟩

theorem run_pure {a b : α} : (pure a : Read α).run s = some (b, t) ↔ a = b ∧ s = t := by
  simp [StateT.run_pure]

/-- What a read gives is so, whenever it gives something. -/
def Yields (P : α → Prop) (act : Read α) : Prop := ∀ s a t, act.run s = some (a, t) → P a

/-- What a read gives is so, at least where no anchor is known. -/
def YieldsFresh (P : α → Prop) (act : Read α) : Prop := ∀ s a t, s.anchors = [] → act.run s = some (a, t) → P a

section Rules

variable {P : β → Prop} {Q : α → Prop} {act : Read α} {k : α → Read β}

theorem Yields.pure {b : β} (holds : P b) : Yields P (Pure.pure b) := by
  intro s a t read
  exact (run_pure.1 read).1 ▸ holds

theorem Yields.failure : Yields P failure := by
  intro s b t read
  cases read

theorem Yields.bindOf (first : Yields Q act) (rest : ∀ a, Q a → Yields P (k a)) : Yields P (act >>= k) := by
  intro s b t read
  obtain ⟨a, u, before, after⟩ := run_bind.1 read
  exact rest a (first s a u before) u b t after

theorem Yields.bind (rest : ∀ a, Yields P (k a)) : Yields P (act >>= k) :=
  Yields.bindOf (Q := fun _ => True) (fun _ _ _ _ => trivial) fun a _ => rest a

/-- A read that may be left out comes first. -/
theorem Yields.when {c : Prop} [Decidable c] {act : Read PUnit} {k : PUnit → Read β} (rest : ∀ u, Yields P (k u)) :
    Yields P (if c then act >>= k else k ⟨⟩) := by
  split
  · exact Yields.bind rest
  · exact rest _

theorem Yields.either {c : Prop} [Decidable c] {other : Read α} (rest : ∀ a, Yields P (k a)) :
    Yields P (if c then act >>= k else other >>= k) := by
  split
  · exact Yields.bind rest
  · exact Yields.bind rest

theorem Yields.fresh {act : Read β} (holds : Yields P act) : YieldsFresh P act := fun s a t _ read => holds s a t read

theorem YieldsFresh.bindOf (first : YieldsFresh Q act) (rest : ∀ a, Q a → Yields P (k a)) : YieldsFresh P (act >>= k) := by
  intro s b t none read
  obtain ⟨a, u, before, after⟩ := run_bind.1 read
  exact rest a (first s a u none before) u b t after

/-- A read that leaves the anchors alone may come first. -/
theorem YieldsFresh.bind (keeps : ∀ s a t, act.run s = some (a, t) → t.anchors = s.anchors)
    (rest : ∀ a, YieldsFresh P (k a)) : YieldsFresh P (act >>= k) := by
  intro s b t none read
  obtain ⟨a, u, before, after⟩ := run_bind.1 read
  exact rest a u b t ((keeps s a u before).trans none) after

theorem Yields.modify {f : Reading → Reading} {k : PUnit → Read β} (none : ∀ s, (f s).anchors = [])
    (rest : ∀ u, YieldsFresh P (k u)) : Yields P (modify f >>= k) := by
  intro s b t read
  obtain ⟨_, u, before, after⟩ := run_bind.1 read
  simp only [StateT.run_modify, Option.pure_def, Option.some.injEq, Prod.mk.injEq] at before
  exact rest _ u b t (before.2 ▸ none s) after

end Rules

section Anchors

theorem anchors_peek (s : Reading) (next : Option Lexeme) (t : Reading) (read : peek.run s = some (next, t)) :
    t.anchors = s.anchors := by
  simp only [peek, StateT.run_bind, StateT.run_get, StateT.run_pure, Option.pure_def, Option.bind_eq_bind,
    Option.bind_some, Option.some.injEq, Prod.mk.injEq] at read
  rw [read.2]

theorem anchors_line (s : Reading) (n : Nat) (t : Reading) (read : line.run s = some (n, t)) : t.anchors = s.anchors := by
  simp only [line, StateT.run_bind, StateT.run_get, StateT.run_pure, Option.pure_def, Option.bind_eq_bind,
    Option.bind_some, Option.some.injEq, Prod.mk.injEq] at read
  rw [read.2]

theorem anchors_skip (s : Reading) (u : Unit) (t : Reading) (read : skip.run s = some (u, t)) : t.anchors = s.anchors := by
  simp only [skip, StateT.run_modify, Option.pure_def, Option.some.injEq, Prod.mk.injEq] at read
  rw [← read.2]

theorem anchors_bind {act : Read α} {k : α → Read β} (first : ∀ s a t, act.run s = some (a, t) → t.anchors = s.anchors)
    (rest : ∀ a s b t, (k a).run s = some (b, t) → t.anchors = s.anchors) (s : Reading) (b : β) (t : Reading)
    (read : (act >>= k).run s = some (b, t)) : t.anchors = s.anchors := by
  obtain ⟨a, u, before, after⟩ := run_bind.1 read
  exact (rest a u b t after).trans (first s a u before)

theorem anchors_pure (a : α) (s : Reading) (b : α) (t : Reading) (read : (pure a : Read α).run s = some (b, t)) :
    t.anchors = s.anchors := by
  rw [(run_pure.1 read).2]

theorem anchors_accept (lexeme : Lexeme) (s : Reading) (b : Bool) (t : Reading)
    (read : (accept lexeme).run s = some (b, t)) : t.anchors = s.anchors := by
  refine anchors_bind anchors_peek (fun next => ?_) s b t read
  split
  · exact anchors_bind anchors_skip fun _ => anchors_pure _
  · exact anchors_pure _

theorem anchors_expect (lexeme : Lexeme) (s : Reading) (u : Unit) (t : Reading)
    (read : (expect lexeme).run s = some (u, t)) : t.anchors = s.anchors := by
  refine anchors_bind (anchors_accept lexeme) (fun found => ?_) s u t read
  split
  · intro s b t read
    cases read
  · exact anchors_pure _

theorem anchors_atDirective (s : Reading) (b : Bool) (t : Reading) (read : atDirective.run s = some (b, t)) :
    t.anchors = s.anchors :=
  anchors_bind anchors_peek (fun _ => anchors_pure _) s b t read

theorem anchors_endsBefore (ends : List Lexeme) (s : Reading) (b : Bool) (t : Reading)
    (read : (endsBefore ends).run s = some (b, t)) : t.anchors = s.anchors :=
  anchors_bind anchors_peek (fun _ => anchors_pure _) s b t read

end Anchors

/-- A node that is no reference. -/
def Direct (n : Node) : Prop := n.isReference = false

theorem yields_named {name : Option String} {read : Read Node} (direct : Yields Direct read) :
    Yields Direct (named name read) := by
  cases name with
  | none => exact direct
  | some name =>
    exact Yields.bind fun _ => Yields.bind fun _ => Yields.bindOf direct fun _ holds =>
      Yields.bind fun _ => Yields.pure holds

/-- Where no anchor is known, no node is a reference. -/
theorem yieldsFresh_node (fuel : Nat) (layout bareDashes : Bool) : YieldsFresh Direct (node fuel layout bareDashes) := by
  cases fuel with
  | zero => exact Yields.failure.fresh
  | succ fuel =>
    rw [node]
    refine YieldsFresh.bind anchors_line fun line => YieldsFresh.bind anchors_peek fun next => ?_
    split
    · -- the name of a reference is looked up among no anchors
      intro s n t none read
      obtain ⟨m, u, found, -⟩ := run_bind.1 read
      obtain ⟨_, v, got, found⟩ := run_bind.1 found
      simp only [StateT.run_get, Option.pure_def, Option.some.injEq, Prod.mk.injEq] at got
      rw [← got.1, none] at found
      cases found
    · refine Yields.fresh (Yields.bind fun properties => yields_named (Yields.bind fun next => ?_))
      split
      · split
        · exact Yields.bind fun _ => Yields.pure rfl
        · split
          · exact Yields.pure rfl
          · exact Yields.failure
      · exact Yields.bind fun _ => Yields.pure rfl
      · exact Yields.bind fun _ => Yields.bind fun _ => Yields.pure rfl
      · exact Yields.bind fun _ => Yields.bind fun _ => Yields.pure rfl
      · split
        · exact Yields.bind fun _ => Yields.bind fun _ => Yields.pure rfl
        · exact Yields.failure
      · split
        · exact Yields.bind fun _ => Yields.bind fun _ => Yields.pure rfl
        · exact Yields.failure
      · split
        · exact Yields.pure rfl
        · exact Yields.failure

theorem yields_documents (fuel : Nat) (first : Bool) :
    Yields (fun ds => ∀ d ∈ ds, Direct d.root) (documents fuel first) := by
  induction fuel generalizing first with
  | zero => exact Yields.failure
  | succ fuel ih =>
    have rest (root : Node) (direct : Direct root) : Yields (fun ds => ∀ d ∈ ds, Direct d.root) (do
        let _ ← accept .documentEnd
        let anchors := (← get).anchors.filterMap fun a => a.2.map (a.1, ·)
        return ⟨root, anchors⟩ :: (← documents fuel false)) := by
      refine Yields.bind fun _ => Yields.bind fun s => Yields.bindOf (ih false) fun ds others => Yields.pure ?_
      exact List.forall_mem_cons.2 ⟨direct, others⟩
    rw [documents]
    dsimp only
    refine Yields.when fun _ => Yields.bind fun _ => ?_
    split
    · exact Yields.pure (List.forall_mem_nil _)
    · refine Yields.bind fun _ => Yields.bind fun _ => Yields.either fun own => Yields.modify (fun _ => rfl) fun _ => ?_
      split
      · exact YieldsFresh.bindOf (yieldsFresh_node _ _ _) rest
      · refine YieldsFresh.bind (anchors_expect _) fun _ => YieldsFresh.bind anchors_line fun line => ?_
        refine YieldsFresh.bind anchors_atDirective fun _ => YieldsFresh.bind (anchors_endsBefore _) fun _ => ?_
        split
        · exact Yields.fresh (rest (.absent line) rfl)
        · exact YieldsFresh.bindOf (yieldsFresh_node _ _ _) rest

end Read

/-- No document has a reference at its root. -/
theorem isReference_root {bytes : Text.Bytes} {ds : List Document} (read : documents? bytes = some ds) :
    ∀ d ∈ ds, d.root.isReference = false := by
  simp only [documents?, Option.bind_eq_bind, Option.bind_eq_some_iff, Option.pure_def, Option.some.injEq] at read
  obtain ⟨cs, -, tokens, -, ⟨found, t⟩, read, rfl⟩ := read
  exact Read.yields_documents _ _ _ _ _ read

end Distill.Yaml
