import Distill.Concrete.Statement

/-!
Imports and exports, the choice between statements, and whole files.
-/
namespace Distill.Concrete

namespace Grammar

variable (g : Grammar)

/-- The name of a module. Any expression can stand there. -/
def originOf : Read Tree := do
  if ← seesKind .string then literalOf .string else g.expression

/-- An entry of the options of an import. -/
def importOption : Read Tree := do
  let from_ ← start
  let name ← if ← seesKind .string then literalOf .string else readMemberName
  expect ":"
  let value ← g.assignment true
  build from_ (.entry name value)

/-- The options of an import, if they come on the same line. -/
def importOptions : Read (Option Tree) := do
  if (← sees "assert") && !(← token).newline then
    let from_ ← start
    next
    if ← expected "\x7b" then
      let (list, items) ← readDivided .importOptions (importOption g)
      expect "\x7d"
      return some (← build from_ (.importOptions list items))
    else return some (← build from_ (.importOptions ⟨← extentFrom (← position), false⟩ []))
  else return none

/-- An entry of a list of imports or exports. The words `type` and `as` can be names as well. -/
def specifierOf : Read Tree := do
  let from_ ← start
  let first ← readMemberName
  let plain (isType : Bool) (property : Option Tree) (name : Tree) : Read Tree :=
    build from_ (.specifier isType property name)
  let renamed (isType : Bool) (name : Tree) : Read Tree := do
    if ← optional "as" then plain isType (some name) (← readMemberName) else plain isType none name
  let marked (property : Option Tree) (name : Tree) : Read Tree := do
    erase
    plain true property name
  if nameText first ≠ "type" then renamed false first
  else if ← sees "as" then
    let firstAs ← readMemberName
    if ← sees "as" then
      let secondAs ← readMemberName
      if (← token).isMemberName then marked (some firstAs) (← readMemberName)
      else plain false (some first) secondAs
    else if (← token).isMemberName then plain false (some first) (← readMemberName)
    else
      erase
      renamed true firstAs
  else if (← token).isMemberName then
    let name ← readMemberName
    erase
    renamed true name
  else renamed false first

/-- A list of imports or exports in braces. -/
def entriesOfModule : Read Tree := do
  let from_ ← start
  let (list, items) ← readBracketed .specifiers specifierOf "\x7b" "\x7d"
  build from_ (.entries list items)

/-- The name of a member of a namespace, with all its parts. -/
def pointedText : (fuel : Nat) → Read (List String)
  | 0 => return []
  | fuel + 1 => do
    if ← optional "." then
      let name ← nameAfterPoint false false
      return nameText name :: (← pointedText fuel)
    return []

/-- An import that is an assignment, after its name. -/
def importAliasOf (from_ : Start) (words : List Tree) (name : Tree) (isType : Bool) : Read Tree := do
  expect "="
  erase
  let isModule ← if ← sees "require" then nextIs false (·.is "(") else pure false
  if isModule then
    next
    expect "("
    discard (originOf g)
    expect ")"
    endStatement
    build from_ (.importAlias (← valueModifiers words) isType name none)
  else
    let root ← readName
    let parts ← pointedText (← plenty)
    endStatement
    let text := parts.foldl (fun text part => text ++ "." ++ part) (nameText root)
    build from_ (.importAlias (← valueModifiers words) isType name (some (.mk .made true (.name text))))

/-- What an import binds. -/
def importClauseOf (from_ : Start) (name : Option Tree) (isType : Bool) : Read Tree := do
  let hasBindings ← if name.isSome then optional "," else pure true
  let bindings ← if !hasBindings then pure none
    else if ← sees "*" then do
      let from_ ← start
      next
      expect "as"
      let name ← readName
      some <$> build from_ (.wholeImport name)
    else some <$> entriesOfModule
  build from_ (.importClause isType name bindings)

/-- An import after its modifiers. -/
def importOf (from_ : Start) (words : List Tree) : Read Tree := do
  next
  let clauseFrom ← start
  let name ← if ← seesName then some <$> readName else pure none
  let isType ← if (name.map nameText) = some "type" && !(← sees "from") then
      if ← seesName then pure true else seesOneOf ["*", "\x7b"]
    else pure false
  if isType then erase
  let name ← if !isType then pure name else if ← seesName then some <$> readName else pure none
  let isAlias ← if name.isSome then pure !(← seesOneOf [",", "from"]) else pure false
  match isAlias, name with
  | true, some name => importAliasOf g from_ words name isType
  | _, _ =>
    let clause ← if name.isSome || (← seesOneOf ["*", "\x7b"]) then do
        let clause ← importClauseOf clauseFrom name isType
        expect "from"
        pure (some clause)
      else pure none
    let origin ← originOf g
    let options ← importOptions g
    endStatement
    build from_ (.importing clause origin options)

/-- A list of exports, or the export of a whole module, after the word `export`. -/
def exportOf (from_ : Start) : Read Tree := within (fun s => { s with inAwait := true }) do
  let isType ← optional "type"
  if isType then erase
  let wholeFrom ← start
  let (clause, origin) ←
    if ← optional "*" then do
      let clause ← if ← optional "as" then do
          let name ← readMemberName
          some <$> build wholeFrom (.wholeExport name)
        else pure none
      expect "from"
      let origin ← originOf g
      pure (clause, some origin)
    else do
      let clause ← entriesOfModule
      let t ← token
      if t.is "from" || t.kind = .string && !t.newline then
        expect "from"
        let origin ← originOf g
        pure (some clause, some origin)
      else pure (some clause, none)
  let options ← if origin.isSome then importOptions g else pure none
  endStatement
  build from_ (.exporting isType clause origin options)

/-- What a module gives by default, after the word `export`. -/
def exportDefaultOf (from_ : Start) : Read Tree := within (fun s => { s with inAwait := true }) do
  let isEquals ← optional "="
  if !isEquals then expect "default"
  let value ← g.assignment true
  endStatement
  build from_ (.exportDefault isEquals value)

/-- A declaration with its modifiers. -/
def declarationOf : Read Tree := do
  let from_ ← start
  let decorators ← readDecorators g (← plenty)
  let words ← modifiers {}
  let t ← token
  if t.isOneOf ["var", "let", "const"] then variablesOf g from_ words
  else if t.is "function" then functionOf g from_ words
  else if t.is "class" then
    let c ← classOf g from_ decorators words
    if hasWord "declare" words then leftOut from_ words else return c
  else if t.is "interface" then interfaceOf g from_ words
  else if t.is "type" then typeAliasOf g from_ words
  else if t.is "enum" then enumOf g from_ words
  else if t.isOneOf ["global", "module", "namespace"] then namespaceOf g from_ words
  else if t.is "import" then importOf g from_ words
  else if t.is "export" then
    next
    if ← seesOneOf ["default", "="] then exportDefaultOf g from_
    else if ← optional "as" then
      expect "namespace"
      discard readName
      endStatement
      leftOut from_ []
    else exportOf g from_
  else
    fault
    finish from_ (.nothing false)

/-- A statement. -/
def readStatement : Read Tree := do
  let from_ ← start
  let t ← token
  if t.is ";" then
    next
    build from_ .empty
  else if t.is "\x7b" then blockOf g
  else if t.is "var" then variablesOf g from_ []
  else if t.is "let" then
    let isDeclaration ← lookAhead do
      next
      if ← seesBindingName then return true
      seesOneOf ["\x7b", "["]
    if isDeclaration then variablesOf g from_ [] else expressionStatement g
  else if t.is "function" then functionOf g from_ []
  else if t.is "class" then classOf g from_ [] []
  else if t.is "if" then branchOf g
  else if t.is "do" then loopOnceOf g
  else if t.is "while" then
    next
    let test ← testOf g
    let body ← g.statement
    build from_ (.loop test body)
  else if t.is "for" then forOf g
  else if t.isOneOf ["continue", "break"] then
    wordStatement (.jump t.text) (do if ← canEnd then return none else return some (← readName))
  else if t.is "return" then wordStatement .giveBack (valueBeforeEnd g)
  else if t.is "with" then
    next
    let object ← testOf g
    let body ← g.statement
    build from_ (.withScope object body)
  else if t.is "switch" then switchOf g
  else if t.is "throw" then throwOf g
  else if t.isOneOf ["try", "catch", "finally"] then attemptOf g
  else if t.is "debugger" then wordStatement (fun _ => .debugger) (return none)
  else if t.is "@" then declarationOf g
  else if t.isOneOf ["async", "interface", "type", "module", "namespace", "declare", "const", "enum", "export", "import",
    "private", "protected", "public", "abstract", "accessor", "static", "readonly", "global"] then
    if ← seesDeclaration then declarationOf g else expressionStatement g
  else expressionStatement g

end Grammar

/-- The readers for parts that are nested at most so deeply. -/
def Grammar.ofDepth : Nat → Grammar
  | 0 => .empty
  | depth + 1 =>
    let g := Grammar.ofDepth depth
    { type := g.readType
      expression := g.readExpression
      assignment := g.readAssignment
      unary := g.readUnary
      operand := g.readOperand
      binding := g.readBinding
      parameter := g.readParameter
      memberName := g.readKey
      functionBody := g.readFunctionBody
      statement := g.readStatement
      functionExpression := g.readFunctionExpression
      classExpression := g.readClassExpression
      objectMember := g.readObjectMember }

/-- Whether a statement of one part makes its file a module. -/
def Tree.isModuleMark (t : Tree) : Bool :=
  match t.node with
  | .importing .. | .exporting .. | .exportDefault .. => true
  | .importAlias words _ _ value => value.isNone || hasWord "export" words
  | .variables words _ | .function words .. | .classLike words .. => hasWord "export" words
  | .nothing marksModule => marksModule
  | _ => false

/-- Whether a statement makes its file a module. -/
def Tree.marksModule (t : Tree) : Bool :=
  match t.node with
  | .series items => items.any Tree.isModuleMark
  | _ => t.isModuleMark

/-- A file: its statements, and whether it is a module. -/
structure File where
  list : Listing
  body : List Tree
  isModule : Bool
  /-- Whether something in it is decorated. -/
  isDecorated : Bool := false
deriving Inhabited

/-- Reads a file. With `inAwait`, `await` is an operator outside of functions. -/
def File.readAs (text : List Char) (length : Nat) (inAwait : Bool) : File :=
  let g := Grammar.ofDepth (4 * length + 32)
  let p : Read File := do
    nextFirst
    let (list, body) ← readList .file g.statement
    let s ← get
    return {
      list, isDecorated := s.isDecorated, isModule := body.any Tree.marksModule || s.hasMeta
      body := Grammar.declaring s.valueNames s.classVariables body }
  (p.run (State.initial text length { inAwait })).1

/-- Reads a file. In a module, `await` is an operator everywhere. -/
def File.read (text : List Char) : File :=
  let length := text.length
  let file := File.readAs text length false
  if file.isModule then File.readAs text length true else file

end Distill.Concrete
