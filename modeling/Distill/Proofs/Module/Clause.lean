import Distill.Module.Basic
import Distill.Proofs.Module.Explicit
import Distill.Proofs.Script.Stream
import Distill.Script.Token

/-!
The grammar of imports and of export lists as they are printed: which tokens an item has after its first word, and with
which blanks in front of them (`Clause`). Such an item is printed as these tokens (`Clause.render_eq`), which can be found
again (`Clause.readable`), and still is such an item once it is explicit (`Clause.explicit`).
-/
namespace Distill.Module

open Script (Token Lexeme layout IsWord IsString)

def spaced (t : Token) : Lexeme := ⟨[' '], t⟩

def tight (t : Token) : Lexeme := ⟨[], t⟩

def wordToken (w : String) : Token := ⟨.word, w⟩

def mark (p : String) : Token := ⟨.punctuator, p⟩

/-- A string that can name a module. -/
structure Literal (t : Token) : Prop where
  kind : t.kind = .string
  text : IsString t.text.toList

/-- A token that can stand in a list: a word or a string. -/
inductive Named (t : Token) : Prop
  | word (kind : t.kind = .word) (text : IsWord t.text.toList)
  | string (kind : t.kind = .string) (text : IsString t.text.toList)

/-- A word that an import can bind. -/
structure Bindable (t : Token) : Prop where
  kind : t.kind = .word
  text : IsWord t.text.toList
  free : t.text = "yield" ∨ t.text ∉ Script.reservedWords

/-- An entry of a list with its tokens; what it binds must be allowed. -/
inductive Entry (allowed : Token → Prop) : Alias → List Token → Prop
  | plain {t : Token} (binds : allowed t) : Entry allowed ⟨none, some t.text⟩ [t]
  | renamed {t u : Token} (named : Named t) (binds : allowed u) :
    Entry allowed ⟨some t.text, some u.text⟩ [t, wordToken "as", u]

/-- One entry or more. After a last comma there is an empty one. -/
inductive Entries (allowed : Token → Prop) : List Alias → List Lexeme → Prop
  | last {a : Alias} {ts : List Token} (entry : Entry allowed a ts) : Entries allowed [a] (ts.map spaced)
  | trailing {a : Alias} {ts : List Token} (entry : Entry allowed a ts) :
    Entries allowed [a, ⟨none, none⟩] (ts.map spaced ++ [tight (mark ",")])
  | cons {a : Alias} {ts : List Token} {as : List Alias} {ls : List Lexeme} (entry : Entry allowed a ts)
    (rest : Entries allowed as ls) : Entries allowed (a :: as) (ts.map spaced ++ tight (mark ",") :: ls)

/-- A list in braces. -/
inductive Braced (allowed : Token → Prop) : List Alias → List Lexeme → Prop
  | empty : Braced allowed [] [spaced (mark "\x7b"), tight (mark "\x7d")]
  | full {as : List Alias} {ls : List Lexeme} (entries : Entries allowed as ls) :
    Braced allowed as (spaced (mark "\x7b") :: ls ++ [spaced (mark "\x7d")])

/-- What an import binds besides its default. -/
inductive Bindings : List Alias → List Lexeme → Prop
  | star {t : Token} (binds : Bindable t) :
    Bindings [⟨some "*", some t.text⟩] [spaced (mark "*"), spaced (wordToken "as"), spaced t]
  | list {as : List Alias} {ls : List Lexeme} (braced : Braced Bindable as ls) : Bindings as ls

/-- The module that an item refers to, and its end. -/
def fromModule (t : Token) : List Lexeme := [spaced (wordToken "from"), spaced t, tight (mark ";")]

/-- An import or an export list with what stands after its first word. -/
inductive Clause : Item → List Lexeme → Prop
  | effect {t : Token} (literal : Literal t) :
    Clause (.importing none none (some t.text)) [spaced t, tight (mark ";")]
  | default {d t : Token} (binds : Bindable d) (literal : Literal t) :
    Clause (.importing (some d.text) none (some t.text)) (spaced d :: fromModule t)
  | bindings {as : List Alias} {ls : List Lexeme} {t : Token} (bindings : Bindings as ls) (literal : Literal t) :
    Clause (.importing none (some as) (some t.text)) (ls ++ fromModule t)
  | both {d t : Token} {as : List Alias} {ls : List Lexeme} (binds : Bindable d) (bindings : Bindings as ls)
    (literal : Literal t) :
    Clause (.importing (some d.text) (some as) (some t.text)) (spaced d :: tight (mark ",") :: (ls ++ fromModule t))
  | exportAll {t : Token} (literal : Literal t) :
    Clause (.exporting [⟨none, some "*"⟩] (some t.text)) (spaced (mark "*") :: fromModule t)
  | exportAs {n t : Token} (named : Named n) (literal : Literal t) :
    Clause (.exporting [⟨some "*", some n.text⟩] (some t.text))
      (spaced (mark "*") :: spaced (wordToken "as") :: spaced n :: fromModule t)
  | exportOwn {names : List Alias} {ls : List Lexeme} (braced : Braced Named names ls) :
    Clause (.exporting names none) (ls ++ [tight (mark ";")])
  | reexport {names : List Alias} {ls : List Lexeme} {t : Token} (braced : Braced Named names ls) (literal : Literal t) :
    Clause (.exporting names (some t.text)) (ls ++ fromModule t)

/-- The first word of an import or an export list. -/
def Item.keyword : Item → String
  | .importing .. => "import"
  | _ => "export"

section Tokens

variable {t : Token}

theorem Literal.stable (literal : Literal t) : t.Stable := by
  obtain ⟨kind, text⟩ := t
  obtain rfl : kind = .string := literal.kind
  exact Script.stable_of_isString literal.text

theorem Named.stable (named : Named t) : t.Stable := by
  cases named with
  | word kind text =>
    obtain ⟨_, _⟩ := t
    obtain rfl := kind
    exact Script.stable_of_isWord text
  | string kind text => exact Literal.stable ⟨kind, text⟩

theorem Bindable.named (binds : Bindable t) : Named t := .word binds.kind binds.text

theorem stable_keyword {w : String} (member : w ∈ ["import", "export", "from", "as"]) : (wordToken w).Stable := by
  apply Script.stable_of_isWord
  simp only [List.mem_cons, List.not_mem_nil, or_false] at member
  rcases member with rfl | rfl | rfl | rfl
  · exact @Script.isWord_of_scan "import".toList rfl
  · exact @Script.isWord_of_scan "export".toList rfl
  · exact @Script.isWord_of_scan "from".toList rfl
  · exact @Script.isWord_of_scan "as".toList rfl

/-- A word or a string is no star. -/
theorem Named.text_ne (named : Named t) : t.text ≠ "*" := by
  intro star
  have scanned := named.stable.scan_append [] (fun c none => by cases none)
  rw [star] at scanned
  have kind : Script.Kind.punctuator = t.kind := congrArg (fun s => s.token.kind) scanned
  cases named with
  | word word | string string => simp_all

end Tokens

section Readable

variable {allowed : Token → Prop} {a : Alias} {as : List Alias} {t : Token} {ts : List Token} {ls : List Lexeme}
  {item : Item}

theorem readable_spaced (stable : t.Stable) : (spaced t).Readable :=
  ⟨stable, by simp [spaced], .inl (by simp [spaced])⟩

theorem readable_tight {p : String} (member : p ∈ [",", ";", "\x7d"]) : (tight (mark p)).Readable := by
  have known : ∀ p ∈ [",", ";", "\x7d"], p ∈ ["\x7b", "\x7d", ",", ";", "*"] := by decide
  exact ⟨Script.stable_of_punctuator (known p member), by simp [tight], .inr member⟩

theorem Entry.readable (entry : Entry allowed a ts) (names : ∀ t, allowed t → Named t) :
    ∀ l ∈ ts.map spaced, l.Readable := by
  have stable : ∀ t ∈ ts, t.Stable := by
    cases entry with
    | plain binds => simpa using (names _ binds).stable
    | renamed named binds => simpa using ⟨named.stable, stable_keyword (by simp), (names _ binds).stable⟩
  intro l member
  obtain ⟨t, memberT, rfl⟩ := List.mem_map.1 member
  exact readable_spaced (stable t memberT)

theorem Entries.readable (entries : Entries allowed as ls) (names : ∀ t, allowed t → Named t) : ∀ l ∈ ls, l.Readable := by
  induction entries with
  | last entry => exact entry.readable names
  | trailing entry =>
    rw [List.forall_mem_append, List.forall_mem_singleton]
    exact ⟨entry.readable names, readable_tight (by simp)⟩
  | cons entry rest ih =>
    rw [List.forall_mem_append, List.forall_mem_cons]
    exact ⟨entry.readable names, readable_tight (by simp), ih⟩

theorem readable_mark {p : String} (member : p ∈ ["\x7b", "\x7d", "*"]) : (spaced (mark p)).Readable := by
  have known : ∀ p ∈ ["\x7b", "\x7d", "*"], p ∈ ["\x7b", "\x7d", ",", ";", "*"] := by decide
  exact readable_spaced (Script.stable_of_punctuator (known p member))

theorem Braced.readable (braced : Braced allowed as ls) (names : ∀ t, allowed t → Named t) : ∀ l ∈ ls, l.Readable := by
  cases braced with
  | empty =>
    rw [List.forall_mem_cons, List.forall_mem_singleton]
    exact ⟨readable_mark (by simp), readable_tight (by simp)⟩
  | full entries =>
    rw [List.forall_mem_append, List.forall_mem_cons, List.forall_mem_singleton]
    exact ⟨⟨readable_mark (by simp), entries.readable names⟩, readable_mark (by simp)⟩

theorem Bindings.readable (bindings : Bindings as ls) : ∀ l ∈ ls, l.Readable := by
  cases bindings with
  | star binds =>
    rw [List.forall_mem_cons, List.forall_mem_cons, List.forall_mem_singleton]
    exact ⟨readable_mark (by simp), readable_spaced (stable_keyword (by simp)), readable_spaced binds.named.stable⟩
  | list braced => exact braced.readable fun _ => Bindable.named

theorem readable_fromModule (literal : Literal t) : ∀ l ∈ fromModule t, l.Readable := by
  rw [fromModule, List.forall_mem_cons, List.forall_mem_cons, List.forall_mem_singleton]
  exact ⟨readable_spaced (stable_keyword (by simp)), readable_spaced literal.stable, readable_tight (by simp)⟩

/-- What is printed of an item can be found again. -/
theorem Clause.readable (clause : Clause item ls) : ∀ l ∈ ls, l.Readable := by
  cases clause with
  | effect literal =>
    rw [List.forall_mem_cons, List.forall_mem_singleton]
    exact ⟨readable_spaced literal.stable, readable_tight (by simp)⟩
  | default binds literal =>
    rw [List.forall_mem_cons]
    exact ⟨readable_spaced binds.named.stable, readable_fromModule literal⟩
  | bindings bindings literal =>
    rw [List.forall_mem_append]
    exact ⟨bindings.readable, readable_fromModule literal⟩
  | both binds bindings literal =>
    rw [List.forall_mem_cons, List.forall_mem_cons, List.forall_mem_append]
    exact ⟨readable_spaced binds.named.stable, readable_tight (by simp), bindings.readable, readable_fromModule literal⟩
  | exportAll literal =>
    rw [List.forall_mem_cons]
    exact ⟨readable_mark (by simp), readable_fromModule literal⟩
  | exportAs named literal =>
    rw [List.forall_mem_cons, List.forall_mem_cons, List.forall_mem_cons]
    exact ⟨readable_mark (by simp), readable_spaced (stable_keyword (by simp)), readable_spaced named.stable,
      readable_fromModule literal⟩
  | exportOwn braced =>
    rw [List.forall_mem_append, List.forall_mem_singleton]
    exact ⟨braced.readable fun _ => id, readable_tight (by simp)⟩
  | reexport braced literal =>
    rw [List.forall_mem_append]
    exact ⟨braced.readable fun _ => id, readable_fromModule literal⟩

end Readable

section Printed

variable {allowed : Token → Prop} {a : Alias} {as : List Alias} {ts : List Token} {ls : List Lexeme} {item : Item}

@[simp] theorem layout_nil : layout [] = [] := rfl

@[simp] theorem layout_cons (l : Lexeme) (ls : List Lexeme) : layout (l :: ls) = l.chars ++ layout ls :=
  List.flatMap_cons

@[simp] theorem layout_append (ls ls' : List Lexeme) : layout (ls ++ ls') = layout ls ++ layout ls' :=
  List.flatMap_append

@[simp] theorem chars_spaced (t : Token) : (spaced t).chars = ' ' :: t.text.toList := rfl

@[simp] theorem chars_tight (t : Token) : (tight t).chars = t.text.toList := rfl

theorem Entry.entry_eq (entry : Entry allowed a ts) : layout (ts.map spaced) = (renderAliases.entry a).toList := by
  cases entry with
  | plain => simp [renderAliases.entry, Alias.render]
  | renamed => simp [renderAliases.entry, Alias.render, wordToken]

theorem Entries.ne_nil (entries : Entries allowed as ls) : as ≠ [] := by
  cases entries <;> exact List.cons_ne_nil _ _

theorem renderAliases_cons (some : as ≠ []) :
    renderAliases (a :: as) = renderAliases.entry a ++ "," ++ renderAliases as := by
  cases as with
  | nil => exact absurd rfl some
  | cons => rfl

theorem Entries.render_eq (entries : Entries allowed as ls) : layout ls = (renderAliases as).toList := by
  induction entries with
  | last entry => rw [entry.entry_eq, renderAliases]
  | trailing entry =>
    rw [renderAliases_cons (by simp), renderAliases, layout_append, entry.entry_eq]
    simp [renderAliases.entry, mark]
  | cons entry rest ih =>
    rw [renderAliases_cons rest.ne_nil, layout_append, entry.entry_eq, layout_cons, ih]
    simp [mark]

theorem Braced.render_eq (braced : Braced allowed as ls) : layout ls = (renderList as).toList := by
  cases braced with
  | empty => rfl
  | full entries =>
    rw [renderList, if_neg entries.ne_nil]
    simp [entries.render_eq, mark]

/-- The only entry of a list is no star. -/
theorem Braced.single (braced : Braced allowed [a] ls) (names : ∀ t, allowed t → Named t) :
    a.name ≠ some "*" ∧ a.binding ≠ some "*" := by
  obtain ⟨ts, entry⟩ : ∃ ts, Entry allowed a ts := by
    cases braced with
    | full entries =>
      cases entries with
      | last entry => exact ⟨_, entry⟩
      | cons entry => exact ⟨_, entry⟩
  cases entry with
  | plain binds => simpa using (names _ binds).text_ne
  | renamed named binds => simpa using ⟨named.text_ne, (names _ binds).text_ne⟩

theorem Bindings.render_eq (bindings : Bindings as ls) : layout ls = (renderBindings as).toList := by
  cases bindings with
  | star => simp [renderBindings, Alias.render, mark, wordToken]
  | list braced =>
    rw [braced.render_eq, renderBindings.eq_def]
    split
    · rw [if_neg (braced.single fun _ => Bindable.named).1]
    · rfl

theorem Braced.names_eq (braced : Braced Named as ls) : layout ls = (renderNames as).toList := by
  rw [braced.render_eq, renderNames.eq_def]
  split
  · obtain ⟨name, binding⟩ := braced.single fun _ => id
    rw [if_neg (by simp [name, binding])]
  · rfl

/-- What is printed of an item. -/
theorem Clause.render_eq (clause : Clause item ls) : item.render.toList = item.keyword.toList ++ layout ls := by
  cases clause with
  | effect => simp [Item.render, Item.keyword, mark]
  | default => simp [Item.render, Item.keyword, fromModule, mark, wordToken]
  | bindings bindings => simp [Item.render, Item.keyword, fromModule, mark, wordToken, bindings.render_eq]
  | both _ bindings => simp [Item.render, Item.keyword, fromModule, mark, wordToken, bindings.render_eq]
  | exportAll => simp [Item.render, Item.keyword, renderNames, Alias.render, fromModule, mark, wordToken]
  | exportAs => simp [Item.render, Item.keyword, renderNames, Alias.render, fromModule, mark, wordToken]
  | exportOwn braced => simp [Item.render, Item.keyword, mark, braced.names_eq]
  | reexport braced => simp [Item.render, Item.keyword, fromModule, mark, wordToken, braced.names_eq]

end Printed

section Explicit

variable {t : Token} {ls : List Lexeme} {item : Item}

theorem inside_extension {quote : Char} (isQuote : quote = '"' ∨ quote = '\'') : Script.Inside quote ".js".toList := by
  intro cs _
  change Script.stringLength quote ('.' :: 'j' :: 's' :: cs) = _
  rcases isQuote with rfl | rfl
  all_goals
    rw [Script.stringLength_plain (by decide) (by decide) (by decide),
      Script.stringLength_plain (by decide) (by decide) (by decide),
      Script.stringLength_plain (by decide) (by decide) (by decide), Script.plus_plus, Script.plus_plus]
    rfl

/-- A literal stays one when an extension is put before its last quote. -/
theorem Literal.explicit (literal : Literal t) : Literal ⟨.string, Specifier.explicitLiteral t.text⟩ := by
  refine ⟨rfl, ?_⟩
  have string := literal.text
  generalize chars : t.text.toList = cs at string
  cases string with
  | @quoted quote inner isQuote inside =>
    have quoted : Specifier.IsLiteral t.text (String.ofList [quote]) (String.ofList inner) :=
      .quoted (Specifier.isQuote_ofList.2 isQuote) (String.toList_inj.1 (by simp [chars]))
    have extended : ∃ inner', Script.Inside quote inner' ∧
        Specifier.explicit (String.ofList inner) = String.ofList inner' := by
      by_cases incomplete : Specifier.Incomplete (String.ofList inner)
      · refine ⟨inner ++ ".js".toList, Script.inside_append inside (inside_extension isQuote) (by decide), ?_⟩
        rw [incomplete.explicit_eq, String.ofList_append, String.ofList_toList]
      · exact ⟨inner, inside, Specifier.explicit_of_complete incomplete⟩
    obtain ⟨inner', inside', text⟩ := extended
    have whole : (Specifier.explicitLiteral t.text).toList = quote :: inner' ++ [quote] := by
      rw [Specifier.explicitLiteral_eq quoted, text]
      simp
    change IsString (Specifier.explicitLiteral t.text).toList
    rw [whole]
    exact .quoted isQuote inside'

/-- An item stays what it is when it is made explicit. -/
theorem Clause.explicit (clause : Clause item ls) : ∃ ls', Clause item.explicit ls' := by
  cases clause with
  | effect literal => exact ⟨_, .effect literal.explicit⟩
  | default binds literal => exact ⟨_, .default binds literal.explicit⟩
  | bindings bindings literal => exact ⟨_, .bindings bindings literal.explicit⟩
  | both binds bindings literal => exact ⟨_, .both binds bindings literal.explicit⟩
  | exportAll literal => exact ⟨_, .exportAll literal⟩
  | exportAs named literal =>
    rw [Item.explicit]
    split
    · exact ⟨_, .exportAs named literal⟩
    · exact ⟨_, .exportAs named literal.explicit⟩
  | exportOwn braced =>
    rw [Item.explicit]
    split <;> exact ⟨_, .exportOwn braced⟩
  | reexport braced literal =>
    rw [Item.explicit]
    split
    · exact ⟨_, .reexport braced literal⟩
    · exact ⟨_, .reexport braced literal.explicit⟩

/-- A re-export is a plain star exactly if it is printed as one. -/
theorem Clause.exportsAll_iff {names : List Alias} {raw : String} (clause : Clause (.exporting names (some raw)) ls) :
    exportsAll names = true ↔ ∃ rest, (Item.exporting names (some raw)).render = "export * from " ++ rest := by
  have printed : (∃ rest, (Item.exporting names (some raw)).render = "export * from " ++ rest) ↔
      " * from ".toList <+: layout ls := by
    have whole : (Item.exporting names (some raw)).render.toList = "export".toList ++ layout ls := clause.render_eq
    have lead : "export * from ".toList = "export".toList ++ " * from ".toList := by decide
    constructor
    · rintro ⟨rest, eq⟩
      rw [eq, String.toList_append, lead, List.append_assoc] at whole
      exact ⟨rest.toList, List.append_cancel_left whole⟩
    · rintro ⟨rest, eq⟩
      have chars : (String.ofList rest).toList = rest := String.toList_ofList
      refine ⟨String.ofList rest, String.toList_inj.1 ?_⟩
      rw [whole, ← eq, String.toList_append, lead, List.append_assoc, chars]
  rw [printed, Module.exportsAll_iff]
  cases clause with
  | exportAll =>
    have star : IsStar [⟨none, some "*"⟩] := ⟨_, rfl, .inl rfl⟩
    simp [star, fromModule, mark, wordToken]
  | @exportAs n _ named =>
    have several : ¬ IsStar [⟨some "*", some n.text⟩] := by
      obtain ⟨c, rest, text, -⟩ := named.stable.starts
      rintro ⟨a, same, star⟩
      obtain rfl := (List.cons.inj same).1
      rcases star with star | ⟨-, star | star⟩
      · exact named.text_ne (Option.some.inj star)
      · cases star
      · rw [Option.some.inj star] at text
        cases text
    simp [several, fromModule, mark, wordToken]
  | reexport braced =>
    have several : ¬ IsStar names := by
      rintro ⟨a, rfl, star⟩
      obtain ⟨name, binding⟩ := braced.single fun _ => id
      rcases star with star | star
      · exact binding star
      · exact name star.1
    cases braced <;> simp [several, mark]

/-- A re-export is left alone for being a plain star exactly if it is then printed as one. -/
theorem Clause.kept_iff {names : List Alias} {raw : String} (clause : Clause (.exporting names (some raw)) ls) :
    exportsAll names = true ∧ (Item.exporting names (some raw)).explicit = .exporting names (some raw) ↔
      ∃ rest, (Item.exporting names (some raw)).explicit.render = "export * from " ++ rest := by
  by_cases star : exportsAll names = true
  · have kept : (Item.exporting names (some raw)).explicit = .exporting names (some raw) := if_pos star
    rw [kept, ← clause.exportsAll_iff]
    exact and_iff_left rfl
  · have changed : (Item.exporting names (some raw)).explicit =
        .exporting names (some (Specifier.explicitLiteral raw)) := if_neg star
    obtain ⟨_, clauseExplicit⟩ := clause.explicit
    rw [changed] at clauseExplicit
    rw [changed, ← clauseExplicit.exportsAll_iff]
    exact ⟨fun both => absurd both.1 star, fun isStar => absurd isStar star⟩

end Explicit

end Distill.Module
