import Distill.Compiler
import Distill.Proofs.Module.Parsed
import Distill.Proofs.Text.Utf8

/-!
Printed modules are read back as they are. From a stream that shows the tokens of an item, the parser gets that item, and
goes on to what stands after it (`item_reads`). So the text of a module of imports and export lists holds that module, and
is what it compiles to (`compile_emit`).
-/
namespace Distill.Module

open Script (Stream SyntaxError Token Lexeme State Parse Grammar layout)

section Current

variable {s : Stream} {t : Token} {ts : List Token} {p w : String}

theorem isPunctuator_mark (here : s.token = mark p) (q : String) : s.isPunctuator q = decide (p = q) := by
  simp [Stream.isPunctuator, here, mark]

theorem isWord_wordToken (here : s.token = wordToken w) (v : String) : s.isWord v = decide (w = v) := by
  simp [Stream.isWord, here, wordToken]

theorem isPunctuator_wordToken (here : s.token = wordToken w) (q : String) : s.isPunctuator q = false := by
  simp [Stream.isPunctuator, here, wordToken]

theorem isWord_mark (here : s.token = mark p) (v : String) : s.isWord v = false := by
  simp [Stream.isWord, here, mark]

theorem isNameOrString_mark (here : s.token = mark p) : isNameOrString s = false := by
  simp [isNameOrString, here, mark]

theorem Named.isNameOrString_eq (named : Named t) (here : s.token = t) : isNameOrString s = true := by
  cases named with
  | word kind _ => simp [isNameOrString, here, kind]
  | string kind _ => simp [isNameOrString, here, kind]

theorem Named.isPunctuator_eq (named : Named t) (here : s.token = t) (q : String) : s.isPunctuator q = false := by
  cases named with
  | word kind _ => simp [Stream.isPunctuator, here, kind]
  | string kind _ => simp [Stream.isPunctuator, here, kind]

theorem Bindable.isBindable_eq (binds : Bindable t) (here : s.token = t) : isBindable s = true := by
  simpa [isBindable, isName, here, binds.kind] using binds.free

theorem Bindable.kind_ne (binds : Bindable t) (here : s.token = t) : s.token.kind ≠ .string := by
  rw [here, binds.kind]
  decide

/-- There are no more tokens than characters and the end. -/
theorem length_of_shows (shows : s.Shows ts) : ts.length ≤ s.remaining + 1 := by
  cases ts with
  | nil => exact Nat.zero_le _
  | cons t ts => exact Nat.succ_le_succ shows.2.2.1

end Current

section Lists

variable {s : Stream} {allowed : Token → Prop} {a : Alias} {as : List Alias} {ls : List Lexeme} {rest : List Token}

/-- A parser of entries that reads back those of a list. -/
def Gives (entry : Stream → Except SyntaxError (Alias × Stream)) (allowed : Token → Prop) : Prop :=
  ∀ s a ts p rest, Entry allowed a ts → s.Shows (ts ++ mark p :: rest) →
    ∃ s', entry s = .ok (a, s') ∧ s'.Shows (mark p :: rest)

theorem importAlias_gives : Gives importAlias Bindable := by
  intro s a ts p rest entry shows
  cases entry with
  | plain binds =>
    obtain ⟨here, -, -, after⟩ := shows
    refine ⟨s.advance, ?_, after⟩
    rw [importAlias]
    dsimp only
    rw [isWord_mark after.1, if_neg Bool.false_ne_true, if_pos (binds.isBindable_eq here), here]
  | renamed named binds =>
    obtain ⟨here, -, -, word, -, -, target, -, -, after⟩ := shows
    refine ⟨s.advance.advance.advance, ?_, after⟩
    rw [importAlias]
    dsimp only
    rw [isWord_wordToken word, if_pos (by decide), if_pos (binds.isBindable_eq target), here, target]

theorem exportAlias_gives : Gives exportAlias Named := by
  intro s a ts p rest entry shows
  cases entry with
  | plain binds =>
    obtain ⟨here, -, -, after⟩ := shows
    refine ⟨s.advance, ?_, after⟩
    rw [exportAlias]
    dsimp only
    rw [isWord_mark after.1, if_neg Bool.false_ne_true, here]
  | renamed named binds =>
    obtain ⟨here, -, -, word, -, -, target, -, -, after⟩ := shows
    refine ⟨s.advance.advance.advance, ?_, after⟩
    rw [exportAlias]
    dsimp only
    rw [isWord_wordToken word, if_pos (by decide), if_pos (binds.isNameOrString_eq target), here, target]

theorem map_token_spaced (ts : List Token) : (ts.map spaced).map Lexeme.token = ts := by
  rw [List.map_map]
  exact List.map_id ts

theorem Entry.head {ts : List Token} (entry : Entry allowed a ts) (names : ∀ t, allowed t → Named t) :
    ∃ t more, ts = t :: more ∧ Named t := by
  cases entry with
  | plain binds => exact ⟨_, _, rfl, names _ binds⟩
  | renamed named => exact ⟨_, _, rfl, named⟩

theorem Entries.head (entries : Entries allowed as ls) (names : ∀ t, allowed t → Named t) :
    ∃ t more, ls.map Lexeme.token = t :: more ∧ Named t := by
  cases entries with
  | last entry | trailing entry | cons entry =>
    obtain ⟨t, more, rfl, named⟩ := entry.head names
    exact ⟨t, _, rfl, named⟩

theorem Entries.length_le (entries : Entries allowed as ls) (names : ∀ t, allowed t → Named t) :
    as.length ≤ ls.length := by
  induction entries with
  | last entry | trailing entry =>
    obtain ⟨t, more, rfl, -⟩ := entry.head names
    simp
  | cons entry _ ih =>
    obtain ⟨t, more, rfl, -⟩ := entry.head names
    simp
    omega

variable {context : String} {entry : Stream → Except SyntaxError (Alias × Stream)} {fuel : Nat}

theorem aliases_close (here : s.token = mark "\x7d") : aliases context entry (fuel + 1) s = .ok ([], s.advance) := by
  rw [aliases, isNameOrString_mark here, if_neg Bool.false_ne_true, expectPunctuator, isPunctuator_mark here,
    if_pos (by decide)]
  rfl

/-- A list from its first entry on. -/
theorem aliases_entry {after : Stream} (named : isNameOrString s = true) (first : entry s = .ok (a, after)) :
    aliases context entry (fuel + 1) s =
      if after.isPunctuator "," then
        if after.advance.isPunctuator "\x7d" then .ok ([a, ⟨none, none⟩], after.advance.advance)
        else (aliases context entry fuel after.advance).map fun r => (a :: r.1, r.2)
      else (aliases context entry fuel after).map fun r => (a :: r.1, r.2) := by
  rw [aliases, if_pos named, first]
  rfl

theorem Entries.reads (entries : Entries allowed as ls) (gives : Gives entry allowed)
    (names : ∀ t, allowed t → Named t) (shows : s.Shows (ls.map Lexeme.token ++ mark "\x7d" :: rest))
    (enough : as.length < fuel) : ∃ s', aliases context entry fuel s = .ok (as, s') ∧ s'.Shows rest := by
  obtain ⟨fuel, rfl⟩ := Nat.exists_eq_add_one.2 (Nat.zero_lt_of_lt enough)
  -- an entry is followed by the brace, by a comma and the brace, or by a comma and an entry
  induction entries generalizing s fuel with
  | last first =>
    obtain ⟨t, more, rfl, named⟩ := first.head names
    rw [map_token_spaced] at shows
    have isName := named.isNameOrString_eq shows.1
    obtain ⟨after, parsed, here, -, -, close⟩ := gives _ _ _ _ _ first shows
    obtain ⟨fuel, rfl⟩ := Nat.exists_eq_add_one.2 (Nat.lt_of_succ_lt_succ enough)
    refine ⟨after.advance, ?_, close⟩
    rw [aliases_entry isName parsed, isPunctuator_mark here, if_neg (by decide), aliases_close here]
    rfl
  | trailing first =>
    obtain ⟨t, more, rfl, named⟩ := first.head names
    rw [List.map_append, map_token_spaced, List.append_assoc] at shows
    have isName := named.isNameOrString_eq shows.1
    obtain ⟨after, parsed, comma, -, -, brace, -, -, close⟩ := gives _ _ _ _ _ first shows
    refine ⟨after.advance.advance, ?_, close⟩
    rw [aliases_entry isName parsed, isPunctuator_mark comma, if_pos (by decide), isPunctuator_mark brace,
      if_pos (by decide)]
  | @cons a ts as ls first entries ih =>
    obtain ⟨t, more, rfl, named⟩ := first.head names
    obtain ⟨u, others, tokens, namedNext⟩ := entries.head names
    rw [List.map_append, map_token_spaced, List.append_assoc] at shows
    have isName := named.isNameOrString_eq shows.1
    obtain ⟨after, parsed, comma, -, -, next⟩ := gives _ _ _ _ _ first shows
    have noBrace : after.advance.isPunctuator "\x7d" = false := by
      rw [tokens] at next
      exact namedNext.isPunctuator_eq next.1 _
    obtain ⟨fuel, rfl⟩ := Nat.exists_eq_add_one.2 (Nat.zero_lt_of_lt (Nat.lt_of_succ_lt_succ enough))
    obtain ⟨s', later, close⟩ := ih next fuel (Nat.lt_of_succ_lt_succ enough)
    refine ⟨s', ?_, close⟩
    rw [aliases_entry isName parsed, isPunctuator_mark comma, if_pos (by decide), noBrace, if_neg Bool.false_ne_true, later]
    rfl

/-- The tokens of a list in braces after the first brace. -/
theorem Braced.reads (context : String) (braced : Braced allowed as ls) (gives : Gives entry allowed)
    (names : ∀ t, allowed t → Named t) : ∃ inner, ls.map Lexeme.token = mark "\x7b" :: inner ∧
      ∀ s rest fuel, s.Shows (inner ++ rest) → inner.length ≤ fuel →
        ∃ s', aliases context entry fuel s = .ok (as, s') ∧ s'.Shows rest := by
  cases braced with
  | empty =>
    refine ⟨[mark "\x7d"], rfl, fun s rest fuel shows enough => ?_⟩
    obtain ⟨fuel, rfl⟩ := Nat.exists_eq_add_one.2 enough
    exact ⟨s.advance, aliases_close shows.1, shows.2.2.2⟩
  | @full as ls entries =>
    refine ⟨ls.map Lexeme.token ++ [mark "\x7d"], by simp [spaced], fun s rest fuel shows enough => ?_⟩
    rw [List.append_assoc] at shows
    have length := entries.length_le names
    refine entries.reads gives names shows ?_
    rw [List.length_append, List.length_map] at enough
    exact Nat.lt_of_lt_of_le (Nat.lt_succ_of_le length) enough

end Lists

section Items

variable {s : Stream} {as : List Alias} {ls : List Lexeme} {it : Item} {t : Token} {rest : List Token}

theorem Bindings.reads (bindings : Bindings as ls) (shows : s.Shows (ls.map Lexeme.token ++ rest)) :
    ∃ s', importBindings s = .ok (some as, s') ∧ s'.Shows rest := by
  cases bindings with
  | star binds =>
    obtain ⟨star, -, -, word, -, -, here, -, -, after⟩ := shows
    refine ⟨_, ?_, after⟩
    rw [importBindings, isPunctuator_mark star, if_pos (by decide), expectWord, isWord_wordToken word, if_pos (by decide)]
    change (if isBindable s.advance.advance then _ else _) = _
    rw [if_pos (binds.isBindable_eq here), here]
    rfl
  | list braced =>
    obtain ⟨inner, tokens, reads⟩ := braced.reads "import statement" importAlias_gives fun _ => Bindable.named
    rw [tokens, List.cons_append] at shows
    obtain ⟨brace, -, length, after⟩ := shows
    have enough : inner.length ≤ s.remaining + 1 := by
      rw [List.length_append] at length
      omega
    obtain ⟨s', parsed, close⟩ := reads _ _ _ after enough
    refine ⟨s', ?_, close⟩
    rw [importBindings, isPunctuator_mark brace, if_neg (by decide), isPunctuator_mark brace, if_pos (by decide), parsed]
    rfl

theorem Bindings.head (bindings : Bindings as ls) : ∃ p more, ls.map Lexeme.token = mark p :: more ∧ p ≠ "(" := by
  cases bindings with
  | star => exact ⟨_, _, rfl, by decide⟩
  | list braced => cases braced <;> exact ⟨_, _, rfl, by decide⟩

theorem source_of_literal (context : String) (literal : Literal t) (here : s.token = t) :
    source context s = .ok (t.text, s.advance) := by
  rw [source, here, if_pos literal.kind]

theorem dropSemicolon_mark (here : s.token = mark ";") : dropSemicolon s = s.advance := by
  rw [dropSemicolon, isPunctuator_mark here, if_pos (by decide)]

theorem importSource_reads (default : Option String) (bindings : Option (List Alias)) (literal : Literal t)
    (shows : s.Shows ((fromModule t).map Lexeme.token ++ rest)) :
    ∃ s', importSource default bindings s = .ok (.importing default bindings (some t.text), s') ∧ s'.Shows rest := by
  obtain ⟨word, -, -, here, -, -, semicolon, -, -, after⟩ := shows
  refine ⟨_, ?_, after⟩
  rw [importSource, expectWord, isWord_wordToken word, if_pos (by decide)]
  change (source "import statement" s.advance >>= _) = _
  rw [source_of_literal _ literal here]
  change Except.ok (_, dropSemicolon s.advance.advance) = _
  rw [dropSemicolon_mark semicolon]

theorem exportSource_reads (names : List Alias) (literal : Literal t)
    (shows : s.Shows ((fromModule t).map Lexeme.token ++ rest)) :
    ∃ s', exportSource names s = .ok (.exporting names (some t.text), s') ∧ s'.Shows rest := by
  obtain ⟨word, -, -, here, -, -, semicolon, -, -, after⟩ := shows
  refine ⟨_, ?_, after⟩
  rw [exportSource, isWord_wordToken word, if_pos (by decide), source_of_literal _ literal here]
  change Except.ok (_, dropSemicolon s.advance.advance) = _
  rw [dropSemicolon_mark semicolon]

theorem exportSource_end (names : List Alias) (shows : s.Shows (mark ";" :: rest)) :
    ∃ s', exportSource names s = .ok (.exporting names none, s') ∧ s'.Shows rest := by
  refine ⟨_, ?_, shows.2.2.2⟩
  rw [exportSource, isWord_mark shows.1, if_neg Bool.false_ne_true, dropSemicolon_mark shows.1]
  rfl

/-- An import, read from its second token on, which is no parenthesis. -/
theorem importItem_reads {default : Option String} {bindings : Option (List Alias)} {source : Option String}
    (clause : Clause (.importing default bindings source) ls) (shows : s.Shows (ls.map Lexeme.token ++ rest)) :
    s.isPunctuator "(" = false ∧
      ∃ s', importItem s = .ok (.importing default bindings source, s') ∧ s'.Shows rest := by
  cases clause with
  | effect literal =>
    obtain ⟨here, -, -, semicolon, -, -, after⟩ := shows
    have kind : s.token.kind = .string := by rw [here]; exact literal.kind
    refine ⟨(Named.string literal.kind literal.text).isPunctuator_eq here _, _, ?_, after⟩
    rw [importItem, if_pos kind, dropSemicolon_mark semicolon, here]
    rfl
  | default binds literal =>
    obtain ⟨here, -, -, after⟩ := shows
    have kind := binds.kind_ne here
    obtain ⟨s', parsed, close⟩ := importSource_reads _ none literal after
    refine ⟨binds.named.isPunctuator_eq here _, s', ?_, close⟩
    rw [importItem, if_neg kind, if_pos (binds.isBindable_eq here)]
    dsimp only
    rw [isPunctuator_wordToken after.1, if_neg Bool.false_ne_true, parsed, here]
    rfl
  | bindings bindings literal =>
    rw [List.map_append, List.append_assoc] at shows
    obtain ⟨p, more, tokens, noParenthesis⟩ := bindings.head
    have here : s.token = mark p := by
      rw [tokens] at shows
      exact shows.1
    have kind : s.token.kind ≠ .string := by simp [here, mark]
    have notBound : isBindable s = false := by simp [isBindable, isName, here, mark]
    obtain ⟨after, list, showsAfter⟩ := bindings.reads shows
    obtain ⟨s', parsed, close⟩ := importSource_reads none _ literal showsAfter
    refine ⟨by rw [isPunctuator_mark here, decide_eq_false noParenthesis], s', ?_, close⟩
    rw [importItem, if_neg kind, notBound, if_neg Bool.false_ne_true, list]
    exact parsed
  | both binds bindings literal =>
    rw [List.map_cons, List.map_cons, List.map_append, List.cons_append, List.cons_append, List.append_assoc] at shows
    obtain ⟨here, -, -, comma, -, -, rest⟩ := shows
    have kind := binds.kind_ne here
    obtain ⟨after, list, showsAfter⟩ := bindings.reads rest
    obtain ⟨s', parsed, close⟩ := importSource_reads _ _ literal showsAfter
    refine ⟨binds.named.isPunctuator_eq here _, s', ?_, close⟩
    rw [importItem, if_neg kind, if_pos (binds.isBindable_eq here)]
    dsimp only
    rw [isPunctuator_mark comma, if_pos (by decide), list, here]
    exact parsed

theorem exportList_braced {names : List Alias} (braced : Braced Named names ls)
    (shows : s.Shows (ls.map Lexeme.token ++ rest)) : (s.isPunctuator "*" || s.isPunctuator "\x7b") = true ∧
      ∃ after, exportList s = exportSource names after ∧ after.Shows rest := by
  obtain ⟨inner, tokens, reads⟩ := braced.reads "export statement" exportAlias_gives fun _ => id
  rw [tokens, List.cons_append] at shows
  obtain ⟨brace, -, -, inside⟩ := shows
  have enough : inner.length ≤ s.advance.remaining + 1 := by
    have length := length_of_shows inside
    rw [List.length_append] at length
    omega
  obtain ⟨after, parsed, close⟩ := reads _ _ _ inside enough
  have isBrace : s.isPunctuator "\x7b" = true := by rw [isPunctuator_mark brace]; rfl
  refine ⟨by rw [isBrace, Bool.or_true], after, ?_, close⟩
  rw [exportList, isPunctuator_mark brace, if_neg (by decide), expectPunctuator, if_pos isBrace]
  change (aliases "export statement" exportAlias (s.advance.remaining + 1) s.advance >>= _) = _
  rw [parsed]
  rfl

/-- An export list, read from its second token on, which is a star or a brace. -/
theorem exportList_reads {names : List Alias} {source : Option String}
    (clause : Clause (.exporting names source) ls) (shows : s.Shows (ls.map Lexeme.token ++ rest)) :
    (s.isPunctuator "*" || s.isPunctuator "\x7b") = true ∧
      ∃ s', exportList s = .ok (.exporting names source, s') ∧ s'.Shows rest := by
  cases clause with
  | exportAll literal =>
    obtain ⟨star, -, -, after⟩ := shows
    obtain ⟨s', parsed, close⟩ := exportSource_reads [⟨none, some "*"⟩] literal after
    have isStar : s.isPunctuator "*" = true := by rw [isPunctuator_mark star]; rfl
    refine ⟨by rw [isStar, Bool.true_or], s', ?_, close⟩
    rw [exportList, if_pos isStar]
    dsimp only
    rw [isWord_wordToken after.1, if_neg (by decide), isWord_wordToken after.1, if_neg (by decide)]
    exact parsed
  | exportAs named literal =>
    obtain ⟨star, -, -, word, -, -, here, -, -, after⟩ := shows
    obtain ⟨s', parsed, close⟩ := exportSource_reads [⟨some "*", some _⟩] literal after
    have isStar : s.isPunctuator "*" = true := by rw [isPunctuator_mark star]; rfl
    refine ⟨by rw [isStar, Bool.true_or], s', ?_, close⟩
    rw [exportList, if_pos isStar]
    dsimp only
    rw [isWord_wordToken word, if_pos (by decide), named.isNameOrString_eq here, if_neg (by decide),
      isWord_wordToken after.1, if_neg (by decide), here]
    exact parsed
  | exportOwn braced =>
    rw [List.map_append, List.append_assoc] at shows
    obtain ⟨isBrace, after, list, showsAfter⟩ := exportList_braced braced shows
    rw [list]
    exact ⟨isBrace, exportSource_end names showsAfter⟩
  | reexport braced literal =>
    rw [List.map_append, List.append_assoc] at shows
    obtain ⟨isBrace, after, list, showsAfter⟩ := exportList_braced braced shows
    rw [list]
    exact ⟨isBrace, exportSource_reads names literal showsAfter⟩

end Items

section Modules

variable {it : Item} {m : Module} {ls : List Lexeme} {rest : List Token} {st : State}

open Script.Parse (bind_ok eatWord_of eatWord_of_not sees_eq isOver_eq stream_eq next)

theorem onStream_reads {p : Stream → Except SyntaxError (Item × Stream)} {s' : Stream}
    (parsed : p st.stream = .ok (it, s')) : onStream p st = .ok (it, { st with stream := s' }) := by
  rw [onStream, parsed]

/-- An item is read back from its tokens, whatever follows. -/
theorem item_reads (g : Grammar) (clause : Clause it ls)
    (shows : st.stream.Shows (wordToken it.keyword :: (ls.map Lexeme.token ++ rest))) :
    ∃ st', item g st = .ok (it, st') ∧ st'.stream.Shows rest := by
  obtain ⟨here, -, -, after⟩ := shows
  cases it with
  | importing =>
    have isImport : st.stream.isWord "import" = true := by rw [isWord_wordToken here]; rfl
    obtain ⟨noCall, s', parsed, close⟩ := importItem_reads clause after
    have noCall : (next st).stream.isPunctuator "(" = false := noCall
    refine ⟨{ next st with stream := s' }, ?_, close⟩
    rw [item, bind_ok (eatWord_of isImport), if_pos rfl, bind_ok (sees_eq _ _), noCall, if_neg Bool.false_ne_true]
    exact onStream_reads parsed
  | exporting =>
    have noImport : st.stream.isWord "import" = false := by rw [isWord_wordToken here]; rfl
    have isExport : st.stream.isWord "export" = true := by rw [isWord_wordToken here]; rfl
    obtain ⟨isList, s', parsed, close⟩ := exportList_reads clause after
    have isList : ((next st).stream.isPunctuator "*" || (next st).stream.isPunctuator "\x7b") = true := isList
    refine ⟨{ next st with stream := s' }, ?_, close⟩
    rw [item, bind_ok (eatWord_of_not noImport), if_neg Bool.false_ne_true, bind_ok (eatWord_of isExport), if_pos rfl,
      bind_ok (sees_eq _ _), bind_ok (sees_eq _ _), isList, if_pos rfl]
    exact onStream_reads parsed
  | exportDeclaration | statement => cases clause

/-- The items of a module with their tokens; each is on a line of its own. -/
inductive Written : Module → List Lexeme → Prop
  | nil : Written [] []
  | cons {it : Item} {ls : List Lexeme} {m : Module} {ls' : List Lexeme} (clause : Clause it ls) (rest : Written m ls') :
    Written (it :: m) (⟨['\n'], wordToken it.keyword⟩ :: (ls ++ ls'))

theorem exists_written (clauses : ∀ it ∈ m, ∃ ls, Clause it ls) : ∃ ls, Written m ls := by
  induction m with
  | nil => exact ⟨[], .nil⟩
  | cons it m ih =>
    rw [List.forall_mem_cons] at clauses
    obtain ⟨ls, clause⟩ := clauses.1
    obtain ⟨ls', rest⟩ := ih clauses.2
    exact ⟨_, .cons clause rest⟩

theorem stable_keyword_of (it : Item) : (wordToken it.keyword).Stable := by
  cases it <;> exact stable_keyword (by simp [Item.keyword])

theorem Written.readable (written : Written m ls) : ∀ l ∈ ls, l.Readable := by
  induction written with
  | nil => exact List.forall_mem_nil _
  | @cons it ls m ls' clause rest ih =>
    rw [List.forall_mem_cons, List.forall_mem_append]
    exact ⟨⟨stable_keyword_of it, by simp, .inl (by simp)⟩, clause.readable, ih⟩

theorem Written.length_le (written : Written m ls) : m.length ≤ ls.length := by
  induction written with
  | nil => exact Nat.le_refl 0
  | cons _ _ ih =>
    simp only [List.length_cons, List.length_append]
    omega

/-- The next item, unless the text is over. -/
def item? (g : Grammar) : Parse (Option Item) := do
  if ← Parse.isOver then return none
  return some (← item g)

theorem items_eq (g : Grammar) : items g = Parse.many (item? g) := rfl

theorem item?_finish (g : Grammar) (here : st.stream.token = .finish) : item? g st = .ok (none, st) := by
  have isOver : st.stream.isOver = true := by rw [Stream.isOver, here]; rfl
  rw [item?, bind_ok (isOver_eq st), if_pos isOver]
  rfl

theorem item?_reads (g : Grammar) (clause : Clause it ls)
    (shows : st.stream.Shows (wordToken it.keyword :: (ls.map Lexeme.token ++ rest))) :
    ∃ st', item? g st = .ok (some it, st') ∧ st'.stream.Shows rest := by
  have goesOn : ¬ st.stream.isOver = true := by
    rw [Stream.isOver, shows.1]
    exact Bool.false_ne_true
  obtain ⟨st', parsed, close⟩ := item_reads g clause shows
  refine ⟨st', ?_, close⟩
  rw [item?, bind_ok (isOver_eq st), if_neg goesOn, bind_ok parsed]
  rfl

/-- The items of a module are read back one by one, up to the end. -/
theorem Written.reads (g : Grammar) (written : Written m ls)
    (shows : st.stream.Shows (ls.map Lexeme.token ++ [.finish])) {fuel : Nat} (enough : m.length ≤ fuel) :
    ∃ st', Parse.many.go (item? g) fuel st = .ok (m, st') ∧ st'.stream.Shows [.finish] := by
  induction written generalizing st fuel with
  | nil =>
    refine ⟨st, ?_, shows⟩
    cases fuel with
    | zero => rfl
    | succ fuel =>
      rw [Parse.many.go, bind_ok (item?_finish g shows.1)]
      rfl
  | @cons it ls m ls' clause rest ih =>
    obtain ⟨fuel, rfl⟩ := Nat.exists_eq_add_one.2 (Nat.zero_lt_of_lt enough)
    rw [List.map_cons, List.map_append, List.cons_append, List.append_assoc] at shows
    obtain ⟨st₁, first, showsRest⟩ := item?_reads g clause shows
    obtain ⟨st₂, later, close⟩ := ih showsRest (Nat.le_of_succ_le_succ enough)
    refine ⟨st₂, ?_, close⟩
    rw [Parse.many.go, bind_ok first]
    dsimp only
    rw [bind_ok later]
    rfl

theorem Written.parseItems_eq (g : Grammar) (written : Written m ls)
    (shows : st.stream.Shows (ls.map Lexeme.token ++ [.finish])) : ∃ st', parseItems g st = .ok (m, st') := by
  have enough : m.length ≤ st.stream.remaining + 1 := by
    have tokens := length_of_shows shows
    have items := written.length_le
    rw [List.length_append, List.length_map] at tokens
    omega
  obtain ⟨st', parsed, here, notices, -, -⟩ := written.reads g shows enough
  have read : Parse.many (item? g) st = .ok (m, st') := parsed
  refine ⟨st', ?_⟩
  rw [parseItems, items_eq, bind_ok read, bind_ok (stream_eq st'), here, notices]
  rfl

theorem Written.parse_eq (written : Written m ls) {text : String}
    (shows : (Stream.ofText text.toList).Shows (ls.map Lexeme.token ++ [.finish])) : parse text = .ok m := by
  let start : State := { stream := Stream.ofText text.toList, scopes := [{ isFunction := true }] }
  have shows : start.stream.Shows (ls.map Lexeme.token ++ [.finish]) := shows
  obtain ⟨st', parsed⟩ := written.parseItems_eq (Script.grammar (2 * text.toList.length + 8)) shows
  rw [parse, parsed]

/-- The text of a module after its first item. -/
theorem Written.renderItems_eq (written : Written m ls) (it : Item) :
    (renderItems (it :: m)).toList = it.render.toList ++ layout ls := by
  induction written generalizing it with
  | nil => simp [renderItems]
  | @cons it' ls m ls' clause rest ih =>
    have line : renderItems (it :: it' :: m) = it.render ++ "\n" ++ renderItems (it' :: m) := rfl
    rw [line, String.toList_append, String.toList_append, ih, clause.render_eq]
    simp [Lexeme.chars, wordToken]

/-- The text of a module holds that module. -/
theorem Written.parse_emit (written : Written m ls) : parse m.emit = .ok m := by
  apply written.parse_eq
  cases written with
  | nil => exact ⟨rfl, rfl, Nat.le_refl 0, trivial⟩
  | @cons it ls m ls' clause rest =>
    have text : (emit (it :: m)).toList = (wordToken it.keyword).text.toList ++ (layout (ls ++ ls') ++ ['\n']) := by
      have chars : (renderItems (it :: m)).toList = it.keyword.toList ++ layout (ls ++ ls') := by
        rw [rest.renderItems_eq, clause.render_eq, layout_append, List.append_assoc]
      have some : renderItems (it :: m) ≠ "" := by
        obtain ⟨c, more, start, -⟩ := (stable_keyword_of it).starts
        have start : it.keyword.toList = c :: more := start
        intro none
        rw [none, start] at chars
        cases chars
      rw [emit, if_neg some, String.toList_append, chars, List.append_assoc]
      rfl
    have readable : ∀ l ∈ ls ++ ls', l.Readable := by
      rw [List.forall_mem_append]
      exact ⟨clause.readable, rest.readable⟩
    rw [text, List.map_cons, List.cons_append]
    exact Script.shows_ofText (stable_keyword_of it) readable

theorem written_explicit (written : Written m ls) : ∃ ls', Written m.explicit ls' := by
  induction written with
  | nil => exact ⟨[], .nil⟩
  | cons clause _ ih =>
    obtain ⟨ls, clause⟩ := clause.explicit
    obtain ⟨ls', rest⟩ := ih
    exact ⟨_, .cons clause rest⟩

end Modules

theorem parse_verbatim {file source : String} {m : Module} :
    Compiler.parse .verbatim file source = .ok m ↔ parse source = .ok m := by
  simp only [Compiler.parse, Stripper.verbatim, bind, Except.bind]
  cases parse source with
  | ok m' =>
    change Except.ok m' = .ok m ↔ _
    rw [Except.ok.injEq, Except.ok.injEq]
  | error p =>
    constructor
    · intro impossible
      cases impossible
    · intro impossible
      cases impossible

theorem compile_of_parse {strip : Stripper} {file source : String} {m : Module}
    (parsed : Compiler.parse strip file source = .ok m) : Compiler.compile strip file source = .ok m.explicit.emit := by
  rw [Compiler.compile, parsed]
  rfl

theorem compileFile_encode {strip : Stripper} {file source text : String}
    (compiled : Compiler.compile strip file source = .ok text) :
    Compiler.compileFile strip file (.ok (Text.encode source)) = .ok (Text.encode text) := by
  change (Compiler.compile strip file (Text.decodeLossy (Text.encode source)) >>= _) = _
  rw [Text.decodeLossy_encode, compiled]
  rfl

/-- A module of imports and export lists, once it is explicit and printed, is read back and compiles to itself. A
re-export in it is left alone for being a plain star exactly if it is printed as one. -/
theorem compile_emit (file source : String) (m : Module) (accepted : Compiler.parse .verbatim file source = .ok m)
    (lists : ∀ it ∈ m, it.isList = true) :
    Compiler.compile .verbatim file source = .ok m.explicit.emit ∧
      Compiler.parse .verbatim file m.explicit.emit = .ok m.explicit ∧
      Compiler.compileFile .verbatim file (.ok (Text.encode m.explicit.emit)) = .ok (Text.encode m.explicit.emit) ∧
      ∀ names raw, Item.exporting names (some raw) ∈ m →
        (exportsAll names = true ∧ (Item.exporting names (some raw)).explicit = .exporting names (some raw) ↔
          ∃ rest, (Item.exporting names (some raw)).explicit.render = "export * from " ++ rest) := by
  have clauses : ∀ it ∈ m, ∃ ls, Clause it ls := fun it member =>
    clause_of_parse (parse_verbatim.1 accepted) member (lists it member)
  obtain ⟨ls, written⟩ := exists_written clauses
  obtain ⟨ls', writtenExplicit⟩ := written_explicit written
  have again : Compiler.parse .verbatim file m.explicit.emit = .ok m.explicit :=
    parse_verbatim.2 writtenExplicit.parse_emit
  have same : Compiler.compile .verbatim file m.explicit.emit = .ok m.explicit.emit := by
    rw [compile_of_parse again, explicit_explicit]
  refine ⟨compile_of_parse accepted, again, compileFile_encode same, fun names raw member => ?_⟩
  obtain ⟨_, clause⟩ := clauses _ member
  exact clause.kept_iff

namespace Sample

def lists : String :=
  "import d, \x7b x as y, z, \x7d from './b'\nimport \x7b\x7d from '../c.ts'; export * from './e'\n" ++
    "export * as ns from './e'; export \x7b p as q \x7d from \"..\"\nexport \x7b p \x7d"

def listed : Module := [
  .importing (some "d") (some [⟨some "x", some "y"⟩, ⟨none, some "z"⟩, ⟨none, none⟩]) (some "'./b'"),
  .importing none (some []) (some "'../c.ts'"),
  .exporting [⟨none, some "*"⟩] (some "'./e'"),
  .exporting [⟨some "*", some "ns"⟩] (some "'./e'"),
  .exporting [⟨some "p", some "q"⟩] (some "\"..\""),
  .exporting [⟨none, some "p"⟩] none]

theorem parse_lists : Compiler.parse .verbatim "f.ts" lists = .ok listed := by
  have found : (parse lists).toOption = some listed := by decide +kernel
  rw [parse_verbatim]
  cases parsed : parse lists with
  | ok m =>
    rw [parsed] at found
    exact congrArg _ (Option.some.inj found)
  | error =>
    rw [parsed] at found
    cases found

def listsText : String :=
  "import d, \x7b x as y, z, \x7d from './b.js';\nimport \x7b\x7d from '../c.ts';\nexport * from './e';\n" ++
    "export * as ns from './e.js';\nexport \x7b p as q \x7d from \"...js\";\nexport \x7b p \x7d;\n"

end Sample

theorem compile_emit_lists : (∀ it ∈ Sample.listed, it.isList = true) ∧
    Compiler.compile .verbatim "f.ts" Sample.lists = .ok Sample.listsText ∧
    Compiler.compileFile .verbatim "f.ts" (.ok (Text.encode Sample.listsText)) = .ok (Text.encode Sample.listsText) := by
  have lists : ∀ it ∈ Sample.listed, it.isList = true := by decide
  have text : (explicit Sample.listed).emit = Sample.listsText := by decide +kernel
  obtain ⟨compiled, -, again, -⟩ := compile_emit "f.ts" Sample.lists Sample.listed Sample.parse_lists lists
  rw [text] at compiled again
  exact ⟨lists, compiled, again⟩

end Distill.Module
