import Distill.Concrete.Reader
import Distill.TypeScript.Parse

/-!
Which parts a token can begin, and the lists that parts stand in. A token that fits into no list around it is skipped; one
that fits into an outer list ends all the lists inside of that.
-/
namespace Distill.Concrete

def seesLiteralName : Read Bool := do
  let t ← token
  return t.isMemberName || t.kind = .string || t.kind = .number

def seesModifier : Read Bool := do
  let t ← token
  return t.kind = .word && isModifier t.text

/-- The words and marks that begin a type. -/
def typeStarts : List String := [
  "any", "unknown", "string", "number", "bigint", "boolean", "readonly", "symbol", "unique", "void", "undefined", "null",
  "this", "typeof", "never", "\x7b", "[", "<", "|", "&", "new", "true", "false", "object", "*", "?", "!", "...", "infer",
  "import", "asserts"]

mutual

/-- Whether a type begins here. -/
def seesType : (fuel : Nat) → (inParameter : Bool) → Read Bool
  | 0, _ => return false
  | fuel + 1, inParameter => do
    let t ← token
    if t.isOneOf typeStarts || t.kind = .string || t.kind = .number || t.kind = .bigInteger || t.kind = .template ||
      t.kind = .templateHead then return true
    else if t.is "function" then return !inParameter
    else if t.is "-" then
      if inParameter then return false else nextIs false fun t => t.kind = .number || t.kind = .bigInteger
    else if t.is "(" then
      if inParameter then return false
      else lookAhead do
        next
        if ← sees ")" then return true
        if ← seesParameter fuel then return true
        seesType fuel false
    else seesName

/-- Whether a parameter begins here. -/
def seesParameter : (fuel : Nat) → Read Bool
  | 0 => return false
  | fuel + 1 => do
    if ← sees "..." then return true
    if ← seesBinding then return true
    if ← seesModifier then return true
    if ← sees "@" then return true
    seesType fuel true

end

/-- Enough fuel for looking at the tokens that are left. -/
def plenty : Read Nat := return 2 * (← get).left + 4

/-- Whether a call or a member of the whole module `import` comes. -/
def seesImportCall : Read Bool := nextIs false fun t => t.isOneOf ["(", "<", "."]

/-- Whether an expression begins here that can be called. -/
def seesOperand : Read Bool := do
  let t ← token
  if t.isOneOf ["this", "super", "null", "true", "false", "(", "[", "\x7b", "function", "class", "new", "/", "/="] then
    return true
  else match t.kind with
    | .number | .bigInteger | .string | .template | .templateHead => return true
    | _ => if t.is "import" then seesImportCall else seesName

/-- The binding strength of a binary operator; larger ones bind more tightly. -/
def strength? (operator : String) : Option Nat :=
  if operator = "as" ∨ operator = "satisfies" then some TypeScript.Level.compare else TypeScript.operatorLevel? operator

/-- Whether the current token is a binary operator. -/
def seesOperator : Read Bool := do
  let s ← get
  if s.setting.withoutIn && s.token.is "in" then return false
  return (s.token.kind = .mark || s.token.kind = .word) && (strength? s.token.text).isSome

/-- Whether an expression begins here. An operator counts, so that a missing operand is read before it. -/
def seesExpression : Read Bool := do
  if ← seesOperand then return true
  let t ← token
  if t.isOneOf ["+", "-", "~", "!", "delete", "typeof", "void", "++", "--", "<", "await", "yield", "@"] ||
    t.kind = .privateName then return true
  if ← seesOperator then return true
  seesName

/-- Whether a declaration begins here. -/
def seesDeclarationFrom : (fuel : Nat) → Read Bool
  | 0 => return false
  | fuel + 1 => do
    let t ← token
    if t.isOneOf ["var", "let", "const", "function", "class", "enum"] then return true
    else if t.isOneOf ["interface", "type"] then nextIsName true
    else if t.isOneOf ["module", "namespace"] then
      if ← nextIsName true then return true
      nextIs true fun t => t.kind = .string
    else if t.isOneOf ["abstract", "accessor", "async", "declare", "private", "protected", "public", "readonly"] then
      next
      if (← token).newline then return false
      seesDeclarationFrom fuel
    else if t.is "global" then
      nextIs false fun t => t.is "\x7b" || t.is "export" || t.kind = .word && !isKeyword t.text
    else if t.is "import" then
      nextIs false fun t => t.kind = .string || t.is "*" || t.is "\x7b" || t.isMemberName
    else if t.is "export" then
      next
      let after ← if ← sees "type" then lookAhead (do next; token) else token
      if after.isOneOf ["=", "*", "\x7b", "default", "as"] then return true
      seesDeclarationFrom fuel
    else if t.is "static" then
      next
      seesDeclarationFrom fuel
    else return false

def seesDeclaration : Read Bool := do
  let fuel ← plenty
  lookAhead (seesDeclarationFrom fuel)

/-- Whether a statement begins here. -/
def seesStatement : Read Bool := do
  let t ← token
  if t.isOneOf ["@", ";", "\x7b", "var", "let", "function", "class", "enum", "if", "do", "while", "for", "continue",
    "break", "return", "with", "switch", "throw", "try", "debugger", "catch", "finally", "async", "declare", "interface",
    "module", "namespace", "type", "global"] then return true
  else if t.is "import" then
    if ← seesDeclaration then return true
    seesImportCall
  else if t.isOneOf ["const", "export"] then seesDeclaration
  else if t.isOneOf ["accessor", "public", "private", "protected", "static", "readonly"] then
    if ← seesDeclaration then return true
    return !(← nextIs true Token.isMemberName)
  else seesExpression

/-- Skips modifiers; tells whether there were any. -/
def skipModifiers : (fuel : Nat) → Read Bool
  | 0 => return false
  | fuel + 1 => do
    if ← seesModifier then
      next
      discard (skipModifiers fuel)
      return true
    return false

/-- Whether a member of a type begins here. -/
def seesTypeMember : Read Bool := do
  let fuel ← plenty
  lookAhead do
    if ← seesOneOf ["(", "<", "get", "set"] then return true
    let hasModifier ← skipModifiers fuel
    if ← sees "[" then return true
    let hasName ← seesLiteralName
    if hasName then next
    if hasModifier || hasName then
      if ← seesOneOf ["(", "<", "?", ":", ","] then return true
      canEnd
    else return false

/-- Reads on behind the modifiers before a member of a class. Nothing if it is sure that one begins here; else the last
modifier, if there is any. -/
def lastModifier : (fuel : Nat) → (last : Option Token) → Read (Option (Option Token))
  | 0, last => return some last
  | fuel + 1, last => do
    if ← seesModifier then
      let t ← token
      if t.isOneOf ["public", "private", "protected", "readonly", "override", "static", "accessor"] then return none
      next
      lastModifier fuel (some t)
    else return some last

/-- Whether a member of a class begins here. -/
def seesClassMember : Read Bool := do
  let fuel ← plenty
  lookAhead do
    if ← sees "@" then return true
    match ← lastModifier fuel none with
    | none => return true
    | some last =>
      if ← sees "*" then return true
      let name ← if ← seesLiteralName then
          let t ← token
          next
          pure (some t)
        else pure last
      if ← sees "[" then return true
      match name with
      | none => return false
      | some t =>
        if t.kind ≠ .word || !isKeyword t.text || t.is "set" || t.is "get" then return true
        if ← seesOneOf ["(", "<", "!", ":", "=", "?"] then return true
        canEnd

/-- Whether what looks like the body of a class is an object that it extends. -/
def seesHeritageObject : Read Bool := lookAhead do
  next
  if ← sees "\x7d" then nextIs false fun t => t.isOneOf [",", "\x7b", "extends", "implements"]
  else return true

/-- Whether the word comes that begins what a class extends or implements, and not a name. -/
def seesHeritageWord : Read Bool := do
  if ← seesOneOf ["extends", "implements"] then
    lookAhead do
      next
      seesExpression
  else return false

namespace ListKind

/-- Whether an entry of a list begins here. -/
def seesEntry (kind : ListKind) (recovers : Bool) : Read Bool := do
  let t ← token
  match kind with
  | .file | .block | .clauseBody => if t.is ";" && recovers then return false else seesStatement
  | .clauses => return t.is "case" || t.is "default"
  | .typeMembers => seesTypeMember
  | .classMembers =>
    if ← seesClassMember then return true
    return t.is ";" && !recovers
  | .enumMembers => if t.is "[" then return true else seesLiteralName
  | .objectMembers => if t.isOneOf ["[", "*", "...", "."] then return true else seesLiteralName
  | .objectPattern => if t.is "[" || t.is "..." then return true else seesLiteralName
  | .importOptions => return t.isMemberName || t.kind = .string
  | .heritageTypes =>
    if t.is "\x7b" then seesHeritageObject
    else if ← (if recovers then seesName else seesOperand) then return !(← seesHeritageWord)
    else return false
  | .declarators => seesBinding
  | .arrayPattern => if t.is "," || t.is "..." then return true else seesBinding
  | .typeParameters => if t.is "in" then return true else seesName
  | .arrayItems => if t.isOneOf [",", ".", "..."] then return true else seesExpression
  | .arguments => if t.is "..." then return true else seesExpression
  | .parameters => seesParameter (← plenty)
  | .typeArguments | .tupleTypes => if t.is "," then return true else seesType (← plenty) false
  | .heritage => return t.is "extends" || t.is "implements"
  | .specifiers =>
    if t.is "from" then
      if ← nextIs false fun t => t.kind = .string then return false
    return t.isMemberName

/-- Whether a list ends here. -/
def seesEnd (kind : ListKind) : Read Bool := do
  let t ← token
  if t.kind = .finish then return true
  match kind with
  | .file => return false
  | .block | .clauses | .typeMembers | .classMembers | .enumMembers | .objectMembers | .objectPattern | .specifiers
  | .importOptions => return t.is "\x7d"
  | .clauseBody => return t.isOneOf ["\x7d", "case", "default"]
  | .heritageTypes => return t.isOneOf ["\x7b", "extends", "implements"]
  | .declarators => if ← canEnd then return true else return t.isOneOf ["in", "of", "=>"]
  | .typeParameters => return t.isOneOf [">", "(", "\x7b", "extends", "implements"]
  | .arguments => return t.isOneOf [")", ";"]
  | .arrayItems | .tupleTypes | .arrayPattern => return t.is "]"
  | .parameters => return t.isOneOf [")", "]"]
  | .typeArguments => return !t.is ","
  | .heritage => return t.isOneOf ["\x7b", "\x7d"]

end ListKind

/-- Whether one of some lists takes the current token. -/
def fitsIn : List ListKind → Read Bool
  | [] => return false
  | kind :: rest => do
    if ← kind.seesEntry true then return true
    if ← kind.seesEnd then return true
    fitsIn rest

/-- Ends the list if the current token fits into a list around it, and skips the token otherwise. -/
def endsOrSkips : Read Bool := do
  fault
  if ← fitsIn (← get).lists then return true
  next
  return false

/-- Takes some steps inside a list. -/
def insideList (kind : ListKind) (p : Read α) : Read α := do
  let lists := (← get).lists
  modify fun s => { s with lists := if lists.contains kind then lists else kind :: lists }
  let a ← p
  modify fun s => { s with lists }
  return a

/-- The entries of a list that nothing divides. -/
def entriesOf (kind : ListKind) (entry : Read α) : (fuel : Nat) → Read (List α)
  | 0 => return []
  | fuel + 1 => do
    if ← kind.seesEnd then return []
    if ← kind.seesEntry false then
      let a ← entry
      return a :: (← entriesOf kind entry fuel)
    if ← endsOrSkips then return []
    entriesOf kind entry fuel

/-- A list that nothing divides. -/
def readList (kind : ListKind) (entry : Read α) : Read (Listing × List α) := do
  let before ← position
  let items ← insideList kind (entriesOf kind entry (← plenty))
  return (⟨← extentFrom before, false⟩, items)

/-- The entries of a list with commas between them, and whether a comma ends it. Nothing if an entry cannot be read. -/
def dividedEntries (kind : ListKind) (entry : Read (Option α)) :
    (fuel : Nat) → (afterComma : Bool) → Read (Option (List α × Bool))
  | 0, afterComma => return some ([], afterComma)
  | fuel + 1, afterComma => do
    if ← kind.seesEntry false then
      let before ← position
      match ← entry with
      | none => return none
      | some a =>
        let more (afterComma : Bool) : Read (Option (List α × Bool)) := do
          return (← dividedEntries kind entry fuel afterComma).map fun (rest, ends) => (a :: rest, ends)
        if ← optional "," then more true
        else if ← kind.seesEnd then return some ([a], false)
        else
          fault
          if kind = .objectMembers || kind = .importOptions then
            if (← sees ";") && !(← token).newline then next
          if before = (← position) then next
          more false
    else if ← kind.seesEnd then return some ([], afterComma)
    else if ← endsOrSkips then return some ([], afterComma)
    else dividedEntries kind entry fuel afterComma

/-- A list with commas between its entries. Nothing if an entry cannot be read. -/
def readDivided? (kind : ListKind) (entry : Read (Option α)) : Read (Option (Listing × List α)) := do
  let before ← position
  match ← insideList kind (dividedEntries kind entry (← plenty) false) with
  | none => return none
  | some (items, hasComma) => return some (⟨← extentFrom before, hasComma⟩, items)

/-- A list with commas between its entries. -/
def readDivided (kind : ListKind) (entry : Read α) : Read (Listing × List α) := do
  match ← readDivided? kind (some <$> entry) with
  | some list => return list
  | none => return (⟨← extentFrom (← position), false⟩, [])

/-- A list in brackets with commas between its entries. It is missing if the first bracket is. -/
def readBracketed (kind : ListKind) (entry : Read α) (open_ close : String) : Read (Listing × List α) := do
  if ← expected open_ then
    let list ← readDivided kind entry
    expect close
    return list
  else
    let at_ ← position
    return (⟨⟨at_, at_, false⟩, false⟩, [])

end Distill.Concrete
