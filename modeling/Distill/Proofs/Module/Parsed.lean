import Distill.Module.Parse
import Distill.Proofs.Module.Clause

/-!
What the parser of modules accepts: an import or an export list that it returns is made of tokens that it found, and can
be printed with them (`clause_of_parse`).
-/
namespace Distill

namespace Script.Parse

variable {α β : Type} {p : Parse α} {f : α → Parse β} {a : α} {b : β} {st st' : State}

theorem bind_ok (ok : p st = .ok (a, st')) : (p >>= f) st = f a st' := by
  simp only [bind, StateT.bind, ok, Except.bind]

theorem of_bind_ok (ok : (p >>= f) st = .ok (b, st')) : ∃ a mid, p st = .ok (a, mid) ∧ f a mid = .ok (b, st') := by
  cases first : p st with
  | error e =>
    simp only [bind, StateT.bind, first, Except.bind] at ok
    cases ok
  | ok r =>
    obtain ⟨a, mid⟩ := r
    rw [bind_ok first] at ok
    exact ⟨a, mid, rfl, ok⟩

theorem sees_eq (punctuator : String) (st : State) : sees punctuator st = .ok (st.stream.isPunctuator punctuator, st) :=
  rfl

theorem stream_eq (st : State) : stream st = .ok (st.stream, st) := rfl

theorem isOver_eq (st : State) : isOver st = .ok (st.stream.isOver, st) := rfl

/-- The state with the next token. -/
def next (st : State) : State := { st with stream := st.stream.advance }

theorem eatWord_of {word : String} (sees : st.stream.isWord word = true) : eatWord word st = .ok (true, next st) := by
  have seen : seesWord word st = .ok (true, st) := by rw [← sees]; rfl
  rw [eatWord, bind_ok seen]
  rfl

theorem eatWord_of_not {word : String} (other : st.stream.isWord word = false) : eatWord word st = .ok (false, st) := by
  have seen : seesWord word st = .ok (false, st) := by rw [← other]; rfl
  rw [eatWord, bind_ok seen]
  rfl

/-- A parser that gives nothing but what has some property. -/
def Yields (p : Parse α) (property : α → Prop) : Prop := ∀ st a st', p st = .ok (a, st') → property a

theorem yields_bind {property : β → Prop} (each : ∀ a, (f a).Yields property) : (p >>= f).Yields property := by
  intro st b st' ok
  obtain ⟨a, mid, -, rest⟩ := of_bind_ok ok
  exact each a mid b st' rest

theorem yields_pure {property : α → Prop} (held : property a) : (pure a : Parse α).Yields property := by
  intro st b st' ok
  obtain ⟨rfl, -⟩ := Prod.mk.inj (Except.ok.inj ok)
  exact held

theorem yields_return {property : β → Prop} {g : α → β} (held : ∀ a, property (g a)) :
    (p >>= fun a => pure (g a)).Yields property := yields_bind fun a => yields_pure (held a)

theorem yields_ite {property : α → Prop} {c : Prop} [Decidable c] {p q : Parse α} (left : p.Yields property)
    (right : q.Yields property) : (if c then p else q).Yields property := by
  split
  · exact left
  · exact right

theorem yields_throw {property : α → Prop} (e : SyntaxError) : (throw e : Parse α).Yields property := by
  intro st b st' ok
  cases ok

theorem yields_fail {property : α → Prop} (context : String) (expected : List String) :
    (fail context expected : Parse α).Yields property := yields_bind fun _ => yields_throw _

/-- What a repeated parser gives has the property of what the parser gives. -/
theorem yields_many {property : α → Prop} {p : Parse (Option α)} (each : p.Yields fun r => ∀ a ∈ r, property a) :
    (many p).Yields fun as => ∀ a ∈ as, property a := by
  have go : ∀ fuel, (many.go p fuel).Yields fun as => ∀ a ∈ as, property a := by
    intro fuel
    induction fuel with
    | zero => exact yields_pure (List.forall_mem_nil _)
    | succ fuel ih =>
      intro st as st' ok
      rw [many.go] at ok
      obtain ⟨r, mid, first, rest⟩ := of_bind_ok ok
      cases r with
      | none =>
        obtain ⟨rfl, -⟩ := Prod.mk.inj (Except.ok.inj rest)
        exact List.forall_mem_nil _
      | some a =>
        obtain ⟨as', mid', later, last⟩ := of_bind_ok rest
        obtain ⟨rfl, -⟩ := Prod.mk.inj (Except.ok.inj last)
        rw [List.forall_mem_cons]
        exact ⟨each _ _ _ first a rfl, ih _ _ _ later⟩
  rw [many]
  exact yields_bind fun _ => go _

end Script.Parse

namespace Module

open Script (Stream SyntaxError Token Lexeme State Parse Grammar)

theorem of_bind_ok {α β : Type} {x : Except SyntaxError α} {f : α → Except SyntaxError β} {b : β}
    (ok : x >>= f = .ok b) : ∃ a, x = .ok a ∧ f a = .ok b := by
  cases x with
  | error e => cases ok
  | ok a => exact ⟨a, rfl, ok⟩

section Lists

variable {s s' : Stream} {a : Alias} {as : List Alias}

theorem named_of (sound : s.token.Sound) (named : isNameOrString s = true) : Named s.token := by
  rw [isNameOrString, Bool.or_eq_true, decide_eq_true_eq, decide_eq_true_eq] at named
  rcases named with word | string
  · exact .word word (sound.word word)
  · exact .string string (sound.string string)

theorem bindable_of (sound : s.token.Sound) (bindable : isBindable s = true) : Bindable s.token := by
  simp only [isBindable, isName, Bool.and_eq_true, Bool.or_eq_true, decide_eq_true_eq, Bool.not_eq_true',
    List.contains_eq_mem, decide_eq_false_iff_not] at bindable
  exact ⟨bindable.1, sound.word bindable.1, bindable.2⟩

theorem literal_of (sound : s.token.Sound) (string : s.token.kind = .string) : Literal s.token :=
  ⟨string, sound.string string⟩

theorem expectWord_eq_ok {context w : String} (ok : expectWord context w s = .ok s') : s' = s.advance := by
  rw [expectWord] at ok
  split at ok
  · exact (Except.ok.inj ok).symm
  · cases ok

theorem expectPunctuator_eq_ok {context p : String} (ok : expectPunctuator context p s = .ok s') : s' = s.advance := by
  rw [expectPunctuator] at ok
  split at ok
  · exact (Except.ok.inj ok).symm
  · cases ok

theorem source_eq_ok {context text : String} (sound : s.token.Sound) (ok : source context s = .ok (text, s')) :
    ∃ t, Literal t ∧ text = t.text := by
  rw [source] at ok
  split at ok
  · rename_i string
    obtain ⟨rfl, -⟩ := Prod.mk.inj (Except.ok.inj ok)
    exact ⟨s.token, literal_of sound string, rfl⟩
  · cases ok

/-- A parser of entries that accepts none but those of a list, and goes on to a token that was found. -/
def Takes (entry : Stream → Except SyntaxError (Alias × Stream)) (allowed : Token → Prop) : Prop :=
  ∀ s a s', s.token.Sound → isNameOrString s = true → entry s = .ok (a, s') →
    (∃ ts, Entry allowed a ts) ∧ s'.token.Sound

theorem importAlias_takes : Takes importAlias Bindable := by
  intro s a s' sound named ok
  rw [importAlias] at ok
  dsimp only at ok
  split at ok
  · split at ok
    · rename_i bindable
      obtain ⟨rfl, rfl⟩ := Prod.mk.inj (Except.ok.inj ok)
      have binds := bindable_of (Script.sound_advance _) bindable
      exact ⟨⟨_, .renamed (named_of sound named) binds⟩, Script.sound_advance _⟩
    · cases ok
  · split at ok
    · rename_i bindable
      obtain ⟨rfl, rfl⟩ := Prod.mk.inj (Except.ok.inj ok)
      exact ⟨⟨_, .plain (bindable_of sound bindable)⟩, Script.sound_advance _⟩
    · cases ok

theorem exportAlias_takes : Takes exportAlias Named := by
  intro s a s' sound named ok
  rw [exportAlias] at ok
  dsimp only at ok
  split at ok
  · split at ok
    · rename_i namedTarget
      obtain ⟨rfl, rfl⟩ := Prod.mk.inj (Except.ok.inj ok)
      have binds := named_of (Script.sound_advance _) namedTarget
      exact ⟨⟨_, .renamed (named_of sound named) binds⟩, Script.sound_advance _⟩
    · cases ok
  · obtain ⟨rfl, rfl⟩ := Prod.mk.inj (Except.ok.inj ok)
    exact ⟨⟨_, .plain (named_of sound named)⟩, Script.sound_advance _⟩

theorem entries_cons {allowed : Token → Prop} {ts : List Token} (entry : Entry allowed a ts)
    (rest : as = [] ∨ ∃ ls, Entries allowed as ls) : ∃ ls, Entries allowed (a :: as) ls := by
  rcases rest with rfl | ⟨ls, entries⟩
  · exact ⟨_, .last entry⟩
  · exact ⟨_, .cons entry entries⟩

theorem aliases_eq_ok {context : String} {entry : Stream → Except SyntaxError (Alias × Stream)} {allowed : Token → Prop}
    (takes : Takes entry allowed) {fuel : Nat} (sound : s.token.Sound)
    (ok : aliases context entry fuel s = .ok (as, s')) : as = [] ∨ ∃ ls, Entries allowed as ls := by
  induction fuel generalizing s as s' with
  | zero => cases ok
  | succ fuel ih =>
    rw [aliases] at ok
    split at ok
    · rename_i named
      obtain ⟨⟨a, after⟩, first, ok⟩ := of_bind_ok ok
      obtain ⟨⟨ts, entry⟩, soundAfter⟩ := takes _ _ _ sound named first
      dsimp only at ok
      split at ok
      · split at ok
        · obtain ⟨rfl, -⟩ := Prod.mk.inj (Except.ok.inj ok)
          exact .inr ⟨_, .trailing entry⟩
        · obtain ⟨⟨rest, last⟩, later, ok⟩ := of_bind_ok ok
          obtain ⟨rfl, -⟩ := Prod.mk.inj (Except.ok.inj ok)
          exact .inr (entries_cons entry (ih (Script.sound_advance _) later))
      · obtain ⟨⟨rest, last⟩, later, ok⟩ := of_bind_ok ok
        obtain ⟨rfl, -⟩ := Prod.mk.inj (Except.ok.inj ok)
        exact .inr (entries_cons entry (ih soundAfter later))
    · obtain ⟨last, -, ok⟩ := of_bind_ok ok
      obtain ⟨rfl, -⟩ := Prod.mk.inj (Except.ok.inj ok)
      exact .inl rfl

theorem braced_of_aliases {context : String} {entry : Stream → Except SyntaxError (Alias × Stream)}
    {allowed : Token → Prop} (takes : Takes entry allowed) {fuel : Nat} (sound : s.token.Sound)
    (ok : aliases context entry fuel s = .ok (as, s')) : ∃ ls, Braced allowed as ls := by
  rcases aliases_eq_ok takes sound ok with rfl | ⟨ls, entries⟩
  · exact ⟨_, .empty⟩
  · exact ⟨_, .full entries⟩

end Lists

section Items

variable {s s' : Stream} {it : Item}

theorem importBindings_eq_ok {as : List Alias} (ok : importBindings s = .ok (some as, s')) :
    ∃ ls, Bindings as ls := by
  rw [importBindings] at ok
  split at ok
  · obtain ⟨after, word, ok⟩ := of_bind_ok ok
    obtain rfl := expectWord_eq_ok word
    split at ok
    · rename_i bindable
      obtain ⟨same, -⟩ := Prod.mk.inj (Except.ok.inj ok)
      obtain rfl := Option.some.inj same
      exact ⟨_, .star (bindable_of (Script.sound_advance _) bindable)⟩
    · cases ok
  · split at ok
    · obtain ⟨⟨as', after⟩, list, ok⟩ := of_bind_ok ok
      obtain ⟨same, -⟩ := Prod.mk.inj (Except.ok.inj ok)
      obtain rfl := Option.some.inj same
      obtain ⟨ls, braced⟩ := braced_of_aliases importAlias_takes (Script.sound_advance _) list
      exact ⟨ls, .list braced⟩
    · cases ok

theorem importSource_eq_ok {default : Option String} {bindings : Option (List Alias)}
    (ok : importSource default bindings s = .ok (it, s')) :
    ∃ t, Literal t ∧ it = .importing default bindings (some t.text) := by
  rw [importSource] at ok
  obtain ⟨after, word, ok⟩ := of_bind_ok ok
  obtain rfl := expectWord_eq_ok word
  obtain ⟨⟨text, after⟩, string, ok⟩ := of_bind_ok ok
  obtain ⟨t, literal, rfl⟩ := source_eq_ok (Script.sound_advance _) string
  obtain ⟨rfl, -⟩ := Prod.mk.inj (Except.ok.inj ok)
  exact ⟨t, literal, rfl⟩

theorem importItem_eq_ok (sound : s.token.Sound) (ok : importItem s = .ok (it, s')) : ∃ ls, Clause it ls := by
  rw [importItem] at ok
  split at ok
  · rename_i string
    obtain ⟨rfl, -⟩ := Prod.mk.inj (Except.ok.inj ok)
    exact ⟨_, .effect (literal_of sound string)⟩
  · split at ok
    · rename_i bindable
      have binds := bindable_of sound bindable
      dsimp only at ok
      split at ok
      · obtain ⟨⟨as, after⟩, list, ok⟩ := of_bind_ok ok
        cases as with
        | none => cases ok
        | some as =>
          obtain ⟨ls, bindings⟩ := importBindings_eq_ok list
          obtain ⟨t, literal, rfl⟩ := importSource_eq_ok ok
          exact ⟨_, .both binds bindings literal⟩
      · obtain ⟨t, literal, rfl⟩ := importSource_eq_ok ok
        exact ⟨_, .default binds literal⟩
    · obtain ⟨⟨as, after⟩, list, ok⟩ := of_bind_ok ok
      cases as with
      | none => cases ok
      | some as =>
        obtain ⟨ls, bindings⟩ := importBindings_eq_ok list
        obtain ⟨t, literal, rfl⟩ := importSource_eq_ok ok
        exact ⟨_, .bindings bindings literal⟩

theorem exportSource_eq_ok {names : List Alias} (ok : exportSource names s = .ok (it, s')) :
    (∃ t, Literal t ∧ it = .exporting names (some t.text)) ∨ s.isWord "from" = false ∧ it = .exporting names none := by
  rw [exportSource] at ok
  split at ok
  · obtain ⟨⟨text, after⟩, string, ok⟩ := of_bind_ok ok
    obtain ⟨t, literal, rfl⟩ := source_eq_ok (Script.sound_advance _) string
    obtain ⟨rfl, -⟩ := Prod.mk.inj (Except.ok.inj ok)
    exact .inl ⟨t, literal, rfl⟩
  · rename_i other
    obtain ⟨rfl, -⟩ := Prod.mk.inj (Except.ok.inj ok)
    exact .inr ⟨Bool.eq_false_iff.2 other, rfl⟩

theorem exportList_eq_ok (ok : exportList s = .ok (it, s')) : ∃ ls, Clause it ls := by
  rw [exportList] at ok
  split at ok
  · dsimp only at ok
    split at ok
    · split at ok
      · cases ok
      · rename_i named
        split at ok
        · cases ok
        · rename_i word
          rcases exportSource_eq_ok ok with ⟨t, literal, rfl⟩ | ⟨other, -⟩
          · exact ⟨_, .exportAs (named_of (Script.sound_advance _) (by simpa using named)) literal⟩
          · exact absurd other (by simpa using word)
    · split at ok
      · cases ok
      · rename_i word
        rcases exportSource_eq_ok ok with ⟨t, literal, rfl⟩ | ⟨other, -⟩
        · exact ⟨_, .exportAll literal⟩
        · exact absurd other (by simpa using word)
  · obtain ⟨after, brace, ok⟩ := of_bind_ok ok
    obtain rfl := expectPunctuator_eq_ok brace
    obtain ⟨⟨names, after⟩, list, ok⟩ := of_bind_ok ok
    obtain ⟨ls, braced⟩ := braced_of_aliases exportAlias_takes (Script.sound_advance _) list
    rcases exportSource_eq_ok ok with ⟨t, literal, rfl⟩ | ⟨-, rfl⟩
    · exact ⟨_, .reexport braced literal⟩
    · exact ⟨_, .exportOwn braced⟩

/-- Whether an item is an import or an export list, and not a declaration or a statement. -/
def Item.isList : Item → Bool
  | .importing .. | .exporting .. => true
  | _ => false

open Script.Parse (bind_ok eatWord_of eatWord_of_not sees_eq yields_bind yields_pure yields_return yields_ite yields_throw
  yields_fail)

theorem importCall_yields (g : Grammar) : (importCall g).Yields fun it => it.isList = false := by
  rw [importCall]
  refine yields_bind fun _ => yields_bind fun _ => ?_
  exact yields_ite (yields_bind fun _ => yields_pure rfl) (yields_pure rfl)

theorem exportDeclaration_yields (g : Grammar) : (exportDeclaration g).Yields fun it => it.isList = false := by
  rw [exportDeclaration]
  dsimp only
  -- the three kinds of variables
  refine yields_bind fun _ => yields_ite (yields_bind fun _ => yields_return fun _ => rfl) ?_
  refine yields_bind fun _ => yields_ite (yields_bind fun _ => yields_return fun _ => rfl) ?_
  refine yields_bind fun _ => yields_ite (yields_bind fun _ => yields_return fun _ => rfl) ?_
  -- functions, asynchronous functions, classes, the default
  refine yields_bind fun _ => yields_ite (yields_return fun _ => rfl) ?_
  refine yields_bind fun _ => yields_ite ?_ ?_
  · refine yields_bind fun _ => yields_bind fun _ => ?_
    exact yields_ite (yields_bind fun _ => yields_return fun _ => rfl) (yields_return fun _ => rfl)
  refine yields_bind fun _ => yields_ite (yields_return fun _ => rfl) ?_
  exact yields_bind fun _ => yields_ite (yields_return fun _ => rfl) (yields_fail _ _)

theorem onStream_eq_ok {p : Stream → Except SyntaxError (Item × Stream)} {st st' : State}
    (ok : onStream p st = .ok (it, st')) : ∃ s', p st.stream = .ok (it, s') := by
  rw [onStream] at ok
  split at ok
  · rename_i item stream parsed
    obtain ⟨rfl, -⟩ := Prod.mk.inj (Except.ok.inj ok)
    exact ⟨stream, parsed⟩
  · cases ok

theorem item_yields (g : Grammar) : (item g).Yields fun it => it.isList = true → ∃ ls, Clause it ls := by
  intro st it st' ok list
  rw [item] at ok
  cases isImport : st.stream.isWord "import" with
  | true =>
    rw [bind_ok (eatWord_of isImport), if_pos rfl, bind_ok (sees_eq _ _)] at ok
    split at ok
    · rw [importCall_yields g _ _ _ ok] at list
      cases list
    · obtain ⟨s', parsed⟩ := onStream_eq_ok ok
      exact importItem_eq_ok (Script.sound_advance _) parsed
  | false =>
    rw [bind_ok (eatWord_of_not isImport), if_neg Bool.false_ne_true] at ok
    cases isExport : st.stream.isWord "export" with
    | true =>
      rw [bind_ok (eatWord_of isExport), if_pos rfl, bind_ok (sees_eq _ _), bind_ok (sees_eq _ _)] at ok
      split at ok
      · obtain ⟨s', parsed⟩ := onStream_eq_ok ok
        exact exportList_eq_ok parsed
      · obtain ⟨-, _, -, ok⟩ := Script.Parse.of_bind_ok ok
        obtain ⟨declared, _, parsed, ok⟩ := Script.Parse.of_bind_ok ok
        obtain ⟨-, _, -, ok⟩ := Script.Parse.of_bind_ok ok
        obtain ⟨-, _, -, ok⟩ := Script.Parse.of_bind_ok ok
        obtain ⟨rfl, -⟩ := Prod.mk.inj (Except.ok.inj ok)
        rw [exportDeclaration_yields g _ _ _ parsed] at list
        cases list
    | false =>
      rw [bind_ok (eatWord_of_not isExport), if_neg Bool.false_ne_true] at ok
      obtain ⟨statement, st₁, -, ok⟩ := Script.Parse.of_bind_ok ok
      obtain ⟨rfl, -⟩ := Prod.mk.inj (Except.ok.inj ok)
      cases list

theorem items_yields (g : Grammar) : (items g).Yields fun its => ∀ it ∈ its, it.isList = true → ∃ ls, Clause it ls := by
  rw [items]
  refine Script.Parse.yields_many (yields_bind fun _ => yields_ite (yields_pure nofun) ?_)
  intro st r st' ok it member
  obtain ⟨parsed, st₁, first, ok⟩ := Script.Parse.of_bind_ok ok
  obtain ⟨rfl, -⟩ := Prod.mk.inj (Except.ok.inj ok)
  obtain rfl := Option.some.inj member
  exact item_yields g _ _ _ first

theorem parseItems_yields (g : Grammar) :
    (parseItems g).Yields fun m => ∀ it ∈ m, it.isList = true → ∃ ls, Clause it ls := by
  intro st m st' ok it member list
  obtain ⟨its, st₁, first, ok⟩ := Script.Parse.of_bind_ok ok
  let Shape (m : Module) : Prop := ∃ notices : List String, m = notices.map Item.statement ++ its
  have shape : Shape m := by
    refine @yields_bind _ _ _ _ Shape (fun s => ?_) st₁ m st' ok
    split
    · exact yields_throw _
    · exact yields_pure ⟨_, rfl⟩
  obtain ⟨notices, rfl⟩ := shape
  rcases List.mem_append.1 member with notice | member
  · obtain ⟨text, -, rfl⟩ := List.mem_map.1 notice
    cases list
  · exact items_yields _ _ _ _ first it member list

/-- An import or an export list in a module that was parsed can be printed with the tokens that were found. -/
theorem clause_of_parse {text : String} {m : Module} (parsed : parse text = .ok m) (member : it ∈ m)
    (list : it.isList = true) : ∃ ls, Clause it ls := by
  rw [parse] at parsed
  split at parsed
  · rename_i m' st' ok
    obtain rfl := Except.ok.inj parsed
    exact parseItems_yields _ _ _ _ ok it member list
  · cases parsed

end Items

end Module

end Distill
