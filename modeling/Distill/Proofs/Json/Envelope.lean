import Mathlib.Data.List.Forall2
import Distill.Output
import Distill.Proofs.Json.Reader

/-!
What is printed as JSON. Sorting the fields of a payload keeps its value (`alike_sortFields`), and a printed envelope is
one line that gives back what was to be said: the status, the payload unless null, the code and the message of an error,
and the run it belongs to.
-/
namespace Distill

namespace Json

/-- The same value: equal but for the order of the fields in its objects. -/
inductive Alike : Json → Json → Prop
  | null : Alike null null
  | bool (b : Bool) : Alike (bool b) (bool b)
  | int (n : Int) : Alike (int n) (int n)
  | str (s : String) : Alike (str s) (str s)
  | arr {items others : List Json} (each : List.Forall₂ Alike items others) : Alike (arr items) (arr others)
  | obj {fields moved others : List (String × Json)} (names : fields.map Prod.fst = moved.map Prod.fst)
    (values : List.Forall₂ Alike (fields.map Prod.snd) (moved.map Prod.snd)) (order : moved.Perm others) :
    Alike (obj fields) (obj others)

theorem insertField_perm (field : String × Json) (fields : List (String × Json)) :
    (insertField field fields).Perm (field :: fields) := by
  induction fields with
  | nil => exact .refl _
  | cons other fields ih =>
    rw [insertField]
    split
    · exact .refl _
    · exact (ih.cons other).trans (.swap field other fields)

theorem sortItems_eq (items : List Json) : sortItems items = items.map sortFields := by
  induction items with
  | nil => rw [sortItems, List.map_nil]
  | cons item items ih => rw [sortItems, ih, List.map_cons]

theorem sortEach_perm (fields : List (String × Json)) :
    (fields.map fun f => (f.1, f.2.sortFields)).Perm (sortEach fields) := by
  induction fields with
  | nil =>
    rw [sortEach]
    exact .refl _
  | cons field fields ih =>
    rw [sortEach, List.map_cons]
    exact (ih.cons _).trans (insertField_perm _ _).symm

theorem alike_sortFields (v : Json) : Alike v v.sortFields := by
  induction v using induct with
  | null => exact .null
  | bool b => exact .bool b
  | int n => exact .int n
  | str s => exact .str s
  | arr items each =>
    rw [sortFields, sortItems_eq]
    exact .arr (List.forall₂_map_right_iff.2 (List.forall₂_same.2 each))
  | obj fields each =>
    rw [sortFields]
    refine .obj ?_ ?_ (sortEach_perm fields)
    · rw [List.map_map]
      rfl
    · rw [List.map_map, List.forall₂_map_left_iff, List.forall₂_map_right_iff, List.forall₂_same]
      exact each

theorem sortFields_eq_null {v : Json} : v.sortFields = null ↔ v = null := by
  cases v <;> simp [sortFields]

/-- The value of a field of an object. -/
def field? (name : String) : Json → Option Json
  | obj fields => fields.lookup name
  | _ => none

theorem field?_cons_self (name : String) (value : Json) (fields : List (String × Json)) :
    field? name (obj ((name, value) :: fields)) = some value := by
  rw [field?, List.lookup_cons_self]

theorem field?_cons_ne {name key : String} (other : name ≠ key) (value : Json) (fields : List (String × Json)) :
    field? name (obj ((key, value) :: fields)) = field? name (obj fields) := by
  rw [field?, List.lookup_cons, beq_false_of_ne other, field?]

theorem field?_append {name : String} {fields : List (String × Json)} (absent : ∀ f ∈ fields, f.1 ≠ name)
    (others : List (String × Json)) : field? name (obj (fields ++ others)) = field? name (obj others) := by
  have none : fields.lookup name = none := by
    rw [List.lookup_eq_none_iff]
    intro f member
    exact bne_iff_ne.2 (absent f member).symm
  rw [field?, List.lookup_append, none, Option.none_or, field?]

/-- An object that has no two fields of one name. -/
def IsRecord : Json → Prop
  | obj fields => (fields.map Prod.fst).Nodup
  | _ => False

instance (v : Json) : Decidable v.IsRecord :=
  match v with
  | obj fields => inferInstanceAs (Decidable (fields.map Prod.fst).Nodup)
  | null | bool _ | int _ | str _ | arr _ => inferInstanceAs (Decidable False)

/-- One line that reads as the value, with no character in it that would need an escape. -/
structure Prints (text : String) (v : Json) : Prop where
  line : ∃ body, text.toList = body ++ ['\n'] ∧ IsSafe body
  reads : ofText? text = some v

end Json

namespace Output

open Json

/-- A payload is left out when it is null, and stands as it is otherwise. -/
inductive Carries : Json → Option Json → Prop
  | absent : Carries .null none
  | present {payload found : Json} (something : payload ≠ .null) (same : Alike payload found) : Carries payload (some found)

theorem prints_envelope (status : String) (fields : List (String × Json)) :
    Prints (envelope status fields) (.obj (("status", .str status) :: fields)) where
  line := ⟨_, String.toList_append, isSafe_render _⟩
  reads := by
    apply ofText?_render
    intro c member
    rw [List.mem_singleton.1 member]
    decide

theorem optional_sortFields {payload : Json} (something : payload ≠ .null) (name : String) :
    optional name payload.sortFields = [(name, payload.sortFields)] := by
  rw [optional]
  exact fun null => something (sortFields_eq_null.1 null)

theorem names_optional (name : String) (payload : Json) : ∀ f ∈ optional name payload, f.1 = name := by
  intro f member
  rw [optional.eq_def] at member
  split at member
  · cases member
  · rw [List.mem_singleton.1 member]

theorem nodup_optional (name : String) (payload : Json) : ((optional name payload).map Prod.fst).Nodup := by
  rw [optional.eq_def]
  split
  · exact List.nodup_nil
  · exact List.nodup_cons.2 ⟨List.not_mem_nil, List.nodup_nil⟩

/-- A payload is under its name before other fields, if it is there at all. -/
theorem carries_optional (payload : Json) {name : String} {others : List (String × Json)}
    (apart : field? name (.obj others) = none) :
    Carries payload (field? name (.obj (optional name payload.sortFields ++ others))) := by
  by_cases absent : payload = .null
  · subst absent
    rw [sortFields, optional, List.nil_append, apart]
    · exact .absent
    all_goals simp
  · rw [optional_sortFields absent, List.singleton_append, field?_cons_self]
    exact .present absent (alike_sortFields payload)

theorem field?_optional_ne {name other : String} (apart : name ≠ other) (payload : Json) (others : List (String × Json)) :
    field? other (.obj (optional name payload ++ others)) = field? other (.obj others) := by
  apply field?_append
  intro f member
  rwa [names_optional name payload f member]

theorem field?_runField_ne (o : Output) {name : String} (other : name ≠ "run_id") :
    field? name (.obj o.runField) = none := by
  rw [runField]
  split
  · rfl
  · rw [field?_cons_ne other]
    rfl

theorem isRecord_error (code message : String) (details : Json) :
    IsRecord (.obj (("code", .str code) :: ("message", .str message) :: optional "details" details)) := by
  have names : ∀ name, name ≠ "details" → name ∉ (optional "details" details).map Prod.fst := by
    intro name other member
    obtain ⟨f, inside, rfl⟩ := List.mem_map.1 member
    exact other (names_optional _ _ f inside)
  rw [IsRecord, List.map_cons, List.map_cons, List.nodup_cons, List.nodup_cons, List.mem_cons, not_or]
  dsimp only
  exact ⟨⟨by decide, names _ (by decide)⟩, names _ (by decide), nodup_optional _ _⟩

/-- An envelope with a status and the run that it belongs to, if any. -/
structure IsEnvelope (o : Output) (status : String) (v : Json) : Prop where
  record : v.IsRecord
  status : v.field? "status" = some (.str status)
  run : v.field? "run_id" = if o.runId = "" then none else some (.str o.runId)

theorem isEnvelope_obj (o : Output) (status : String) {fields : List (String × Json)}
    (distinct : (fields.map Prod.fst).Nodup) (apart : ∀ f ∈ fields, f.1 ≠ "status" ∧ f.1 ≠ "run_id") :
    IsEnvelope o status (.obj (("status", .str status) :: (fields ++ o.runField))) where
  record := by
    have run : o.runField.map Prod.fst = if o.runId = "" then [] else ["run_id"] := by
      rw [runField]
      split <;> rfl
    rw [IsRecord, List.map_cons, List.map_append, run, List.nodup_cons, List.nodup_append]
    refine ⟨?_, distinct, by split <;> decide, ?_⟩
    · simp only [List.mem_append, List.mem_map, not_or, not_exists, not_and]
      exact ⟨fun f member => (apart f member).1, by split <;> decide⟩
    · intro a inside b other same
      obtain ⟨f, member, rfl⟩ := List.mem_map.1 inside
      split at other
      · cases other
      · exact (apart f member).2 (same.trans (List.mem_singleton.1 other))
  status := field?_cons_self _ _ _
  run := by
    rw [field?_cons_ne (by decide), field?_append fun f member => (apart f member).2, runField]
    split <;> rfl

namespace Sample

/-- Names out of order, an empty list, and characters that may not stand as they are. -/
def payload : Json := .obj [("n", .int (-7)), ("m", .obj [("<b>", .null), ("a", .arr [])]), ("line\u2028", .str "x\ty\"&")]

def output : Output := { format := .json, verbose := false, runId := "run\n1" }

end Sample

/-- A result is printed on one line that reads as an envelope with its payload, and an error likewise with its code, its
message and its payload. -/
theorem printed_of_json {o : Output} (json : o.format = .json) (code message : String) (payload : Json) :
    (∃ v, Prints (o.success payload) v ∧ IsEnvelope o "ok" v ∧ Carries payload (v.field? "data") ∧
      v.field? "error" = none) ∧
    ∃ v e, Prints (o.error code message payload) v ∧ IsEnvelope o "error" v ∧ v.field? "data" = none ∧
      v.field? "error" = some e ∧ e.IsRecord ∧ e.field? "code" = some (.str code) ∧
      e.field? "message" = some (.str message) ∧ Carries payload (e.field? "details") := by
  constructor
  · have shown : o.success payload = envelope "ok" (optional "data" payload.sortFields ++ o.runField) := by
      rw [success, result, json]
    rw [shown]
    refine ⟨_, prints_envelope _ _, isEnvelope_obj o "ok" (nodup_optional _ _) ?_, ?_, ?_⟩
    · intro f member
      rw [names_optional _ _ f member]
      decide
    · rw [field?_cons_ne (by decide)]
      exact carries_optional payload (field?_runField_ne o (by decide))
    · rw [field?_cons_ne (by decide), field?_optional_ne (by decide)]
      exact field?_runField_ne o (by decide)
  · let record := Json.obj (("code", .str code) :: ("message", .str message) :: optional "details" payload.sortFields)
    have shown : o.error code message payload = envelope "error" ([("error", record)] ++ o.runField) := by
      rw [error, json]
      rfl
    rw [shown]
    have names : ([("error", record)].map Prod.fst).Nodup := List.nodup_cons.2 ⟨List.not_mem_nil, List.nodup_nil⟩
    refine ⟨_, record, prints_envelope _ _, isEnvelope_obj o "error" names ?_, ?_, ?_, ?_, ?_, ?_, ?_⟩
    · intro f member
      rw [List.mem_singleton.1 member]
      dsimp only
      decide
    · rw [field?_cons_ne (by decide), List.singleton_append, field?_cons_ne (by decide)]
      exact field?_runField_ne o (by decide)
    · rw [field?_cons_ne (by decide), List.singleton_append, field?_cons_self]
    · exact isRecord_error code message _
    · exact field?_cons_self _ _ _
    · rw [field?_cons_ne (by decide), field?_cons_self]
    · rw [field?_cons_ne (by decide), field?_cons_ne (by decide), ← List.append_nil (optional _ _)]
      exact carries_optional payload rfl

theorem printed_of_json_nested :
    Sample.output.format = .json ∧
    ∃ v e found, Prints (Sample.output.error "E<1>" "two\nlines" Sample.payload) v ∧ v.IsRecord ∧
      v.field? "status" = some (.str "error") ∧ v.field? "run_id" = some (.str "run\n1") ∧ v.field? "error" = some e ∧
      e.field? "code" = some (.str "E<1>") ∧ e.field? "message" = some (.str "two\nlines") ∧
      e.field? "details" = some found ∧ Alike Sample.payload found := by
  refine ⟨rfl, ?_⟩
  obtain ⟨-, v, e, prints, envelope, -, inside, -, code, message, details⟩ :=
    printed_of_json (o := Sample.output) rfl "E<1>" "two\nlines" Sample.payload
  generalize shown : e.field? "details" = found at details
  cases details with
  | present something same =>
    exact ⟨v, e, _, prints, envelope.record, envelope.status, envelope.run, inside, code, message, shown, same⟩

end Output

end Distill
