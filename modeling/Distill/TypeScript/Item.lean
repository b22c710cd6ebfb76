import Distill.TypeScript.Member

/-!
Imports and exports, and the declarations that only speak of types.
-/
namespace Distill.TypeScript

/-- The file name in a path without its extension; for an index file the name of its folder. -/
def fileStem (path : List Char) : List Char :=
  let isSlash (c : Char) : Bool := c = '/' || c = '\\'
  let split (path : List Char) : List Char × List Char :=
    let backwards := path.reverse.dropWhile isSlash
    let name := (backwards.takeWhile fun c => !isSlash c).reverse
    let folder := (backwards.dropWhile fun c => !isSlash c).drop 1
    (folder.reverse, name)
  let stem (name : List Char) : List Char :=
    if name.contains '.' then ((name.reverse.dropWhile (· ≠ '.')).drop 1).reverse else name
  let (folder, name) := split path
  let base := stem name
  let folderBase := stem (split folder).2
  if base = "index".toList && !folderBase.isEmpty then folderBase else base

/-- A name out of the letters and digits of a text, with a low line for what stands between them. -/
def nameOutOf (text : List Char) : String :=
  let isLetter (c : Char) : Bool := c.isAlpha
  let (name, _) := text.foldl (fun (name, needsGap) c =>
      if isLetter c || !name.isEmpty && c.isDigit then
        (name ++ (if needsGap then ['_', c] else [c]), false)
      else (name, !name.isEmpty)) (([] : List Char), false)
  if name.isEmpty then "_" else String.ofList name

namespace Grammar

open Parse

/-- The attributes of an import after the literal that names the module, if there are any. -/
def attributes? : Parse (Option Attributes) := do
  if !((← seesKeyword "with") || (← seesWord "assert") && !(← newlineBefore)) then return none
  let word ← take
  expect "\x7b"
  let (entries, _) ← listed "\x7d" do
    let t ← token
    let key ← if ← seesMemberName then pure t.text
      else if t.kind = .string then
        checkEscapes 1 1
        pure (String.ofList ((contentOf t.text).map Char.ofNat))
      else refuse "identifier"
    advance
    expect ":"
    if ← seesKind .string then checkEscapes 1 1
    let value ← expectString
    return (key, t, value)
  expect "\x7d"
  let what := if word = "assert" then "assertion" else "attribute"
  let rec repeated (seen : List String) : List (String × Token × String) → Parse Unit
    | [] => return
    | (key, t, _) :: rest => do
      if seen.contains key then note t.place ("Duplicate import " ++ what ++ " " ++ Text.quoted key)
      repeated (key :: seen) rest
  repeated [] entries
  return some ⟨word, entries.map fun (_, t, value) => (t.raw, value)⟩

/-- The literal that names a module. -/
def origin : Parse Origin := do
  if !((← seesKind .string) || (← seesKind .template)) then refuse "string"
  checkEscapes 1 1
  let text ← take
  return ⟨text, ← attributes?⟩

/-- The rest of a statement that ends with the literal that names a module. -/
def fromOrigin : Parse Origin := do
  expectWord "from"
  let o ← origin
  endStatement
  return o

/-- A name in a list, which may be a keyword or a string. The flag tells whether it is a string. -/
def clauseName (what : String) : Parse (String × Bool) := do
  let t ← token
  if t.kind = .string then
    checkEscapes 1 1
    let points := contentOf t.text
    if let some lone := points.find? fun p => 0xD800 ≤ p && p < 0xE000 then
      note t.place ("This " ++ what ++ " alias is invalid because it contains the unpaired Unicode surrogate U+" ++
        upperHex 0 lone)
    advance
    return (String.ofList (points.map Char.ofNat), true)
  if !(← seesMemberName) then refuse "identifier"
  advance
  return (t.text, false)

def seesEnd : Parse Bool := do return (← sees ",") || (← sees "\x7d")

/-- An entry of an import list; nothing if it imports a type. -/
def importEntry : Parse (Option Entry) := do
  let isName ← seesName
  let start ← place
  let (name, isQuoted) ← clauseName "import"
  let bound : Parse (Option Entry) := do
    let at_ ← place
    return some { name, newName := ← expectName, place := at_, isQuoted }
  if name = "type" && !(← seesEnd) then
    if ← eatWord "as" then
      if ← seesWord "as" then
        let at_ ← place
        advance
        if ← seesName then
          advance
          return none
        return some { name, newName := "as", place := at_, isQuoted }
      if ← seesName then bound else return none
    else
      let isName ← seesName
      let _ ← clauseName "import"
      if ← eatWord "as" then
        let _ ← expectName
      else if !isName then refuseMark "as"
      return none
  else
    let entry ← if ← eatWord "as" then bound
      else if !isName then refuseMark "as"
      else pure (some { name, newName := name, place := start, isQuoted })
    if let some e := entry then
      if e.newName = "eval" || e.newName = "arguments" then
        note e.place ("Cannot use " ++ Text.quoted e.newName ++ " as an identifier here:")
    return entry

/-- An entry of an export list, and what is written if its name is a keyword or a string; nothing if it exports a
type. -/
def exportEntry : Parse (Option Entry × Option Token) := do
  let t ← token
  let odd := if t.kind = .name then none else some t
  let (name, isQuoted) ← clauseName "export"
  let renamed : Parse (Option Entry × Option Token) := do
    let at_ ← place
    let (newName, isQuoted') ← clauseName "export"
    return (some { name, newName, place := at_, isQuoted := isQuoted || isQuoted' }, odd)
  if name = "type" && !(← seesEnd) then
    if ← eatWord "as" then
      if ← seesWord "as" then
        let at_ ← place
        advance
        if ← seesEnd then return (some { name, newName := "as", place := at_, isQuoted }, odd)
        let _ ← clauseName "export"
        return (none, odd)
      if ← seesEnd then return (none, odd)
      renamed
    else
      let _ ← clauseName "export"
      if ← eatWord "as" then
        let _ ← clauseName "export"
      return (none, odd)
  else
    if ← eatWord "as" then return ← renamed
    return (some { name, newName := name, place := t.place, isQuoted }, odd)

/-- An import list after its opening brace. -/
def importList : Parse (List Entry) := do
  let (entries, _) ← listed "\x7d" importEntry
  expect "\x7d"
  return entries.filterMap id

/-- The name of a whole module, after its star. -/
def importStar : Parse (String × Place) := do
  expectWord "as"
  let at_ ← place
  return (← expectName, at_)

/-- Declares what an import binds. -/
def importing (start : Place) (default star : Option (String × Place)) (entries : Option (List Entry)) (origin : Origin) :
    Parse Stmt := do
  let path := (contentOf origin.text).map Char.ofNat
  let declared (name : String × Place) : Parse Declared := do
    return { name := name.1, place := name.2, symbol := ← declare .imported name.1 name.2 }
  let star ← star.mapM declared
  let space ← match star with
    | some d => pure d.symbol
    | none => generate .lexical ("import_" ++ nameOutOf (fileStem path))
  let default ← default.mapM declared
  let entries ← entries.mapM fun list => list.mapM fun e => do
    return { e with symbol := some (← declare .imported e.newName e.place) }
  return .mk start (.importing { default, star, entries, origin, space })

/-- An import that is an assignment, from its equals sign on. -/
def importAssignment (start : Place) (p : StatementPlace) (isType : Bool) (name : String) (namePlace : Place) :
    Parse Stmt := do
  expect "="
  let t ← token
  let first ← expectName
  let root : Expr := .plain t.place (.name first)
  let value ← if first = "require" && (← sees "(") then
      advance
      if ← seesKind .string then checkEscapes 1 1
      let at_ ← place
      let path ← expectString
      expect ")"
      pure (.plain t.place (.call root false {} [.plain at_ (.string path)]))
    else
      let names ← many do if ← eat "." then return some (← expectName) else return none
      pure (names.foldl (fun e n => .plain t.place (.dot e false n)) root)
  endStatement
  if isType || (← get).inDeclare then return .mk start .typeOnly
  let _ ← declare .constant name namePlace
  let target : Expr := .plain namePlace (.name name)
  let head : DeclarationHead := { binder := .constant, isExported := p.isExported, isAlias := true }
  return .mk start (.declaration head [.plain namePlace (.binary "=" target value)])

/-- An import of types only, after the word `type`; nothing if it is none. -/
def typeImport? (start : Place) (p : StatementPlace) : Parse (Option Stmt) := do
  let only : Parse (Option Stmt) := do
    let _ ← fromOrigin
    return some (.mk start .typeOnly)
  if ← seesName then
    let before ← get
    let t ← token
    advance
    if ← sees "=" then return some (← importAssignment start p true t.text t.place)
    if (← seesKind .string) && t.text = "from" then
      set before
      return none
    return ← only
  if ← eat "*" then
    let _ ← importStar
    return ← only
  if ← eat "\x7b" then
    let _ ← importList
    return ← only
  return none

/-- An import statement after the word `import`, which no expression follows. -/
def importStatement (start : Place) (p : StatementPlace) : Parse Stmt := do
  let inDeclare := (← get).inDeclare
  let inValues := p.inNamespace && !inDeclare
  if (p.isExported || inValues) && !(← seesName) then refuse "identifier"
  let allowsPath := p.inModule || p.inNamespace && inDeclare
  let before ← get
  modify fun s => { s with hasImport := true }
  if ← seesKind .string then
    if !allowsPath then unexpected
    let o ← origin
    endStatement
    return ← importing start none none none o
  if ← sees "*" then
    if !allowsPath then unexpected
    advance
    let star ← importStar
    return ← importing start none (some star) none (← fromOrigin)
  if ← sees "\x7b" then
    if !allowsPath then unexpected
    advance
    let entries ← importList
    return ← importing start none none (some entries) (← fromOrigin)
  if !(← seesName) || !(p.inModule || p.inNamespace) then unexpected
  let t ← token
  advance
  if t.text = "type" then
    if let some s ← typeImport? start p then return s
  if (← sees "=") || p.isExported || inValues then
    modify fun s => { s with hasImport := before.hasImport }
    return ← importAssignment start p false t.text t.place
  let default := some (t.text, t.place)
  if ← eat "," then
    if ← eat "*" then
      let star ← importStar
      return ← importing start default (some star) none (← fromOrigin)
    if ← eat "\x7b" then
      let entries ← importList
      return ← importing start default none (some entries) (← fromOrigin)
    unexpected
  importing start default none none (← fromOrigin)

/-- An export list after its opening brace; without origin its names have to be plain. -/
def exportList : Parse (List Entry × Option Origin) := do
  let (entries, _) ← listed "\x7d" exportEntry
  expect "\x7d"
  let names := entries.filterMap (·.1)
  if ← seesWord "from" then return (names, some (← fromOrigin))
  if let some t := entries.findSome? (·.2) then
    failAt t.place ("Expected identifier but found " ++ Text.quoted t.raw)
  endStatement
  return (names, none)

/-- Takes the name of a type. -/
def typeName (p : StatementPlace) : Parse Unit := do
  let name ← expectName
  if p.inModule then modify fun s => { s with types := name :: s.types }

/-- A type alias from its name on. -/
def typeAlias (g : Grammar) (p : StatementPlace) : Parse Unit := do
  typeName p
  g.skipTypeParameters { allowsConst := false, allowsVariance := true, allowsNone := true }
  expect "="
  g.plainType
  endStatement

/-- An interface from its name on. -/
def interface (g : Grammar) (p : StatementPlace) : Parse Unit := do
  typeName p
  g.skipTypeParameters { allowsConst := false, allowsVariance := true, allowsNone := true }
  if ← eatKeyword "extends" then g.typeList
  if ← eatWord "implements" then g.typeList
  g.objectType

/-- An export of types only, after the word `type`. -/
def typeExport (g : Grammar) (p : StatementPlace) : Parse Unit := do
  if ← eat "\x7b" then
    let _ ← exportList
  else if ← eat "*" then
    if ← eatWord "as" then
      let _ ← clauseName "export"
    let _ ← fromOrigin
  else g.typeAlias p

/-- A default export, after the word `default` at the second place. -/
def defaultExport (g : Grammar) (start keyword : Place) (p : StatementPlace) : Parse Stmt := do
  let wrapped (s : Stmt) : Stmt := match s.node with
    | .typeOnly => s
    | _ => .mk start (.exportDefault keyword s)
  let place : StatementPlace :=
    { declarations := .allowed, isDefault := true, inModule := p.inModule, isPure := p.isPure }
  let value (e : Expr) : Parse Stmt := do
    endStatement
    return wrapped (.mk start (.expression e))
  let t ← token
  if ← seesWord "async" then
    let before ← get
    advance
    if (← seesKeyword "function") && !(← newlineBefore) then
      advance
      return wrapped (← g.functionStatement start place true)
    set before
  if ← eatKeyword "function" then return wrapped (← g.functionStatement t.place place false)
  if ← seesKeyword "class" then
    return wrapped (← g.classStatement t.place { place with decorators := p.decorators })
  if ← sees "@" then
    if !p.decorators.isEmpty then note t.place "Decorators are not valid here"
    let ds ← g.decorators
    return wrapped (← g.classStatement t.place { place with decorators := p.decorators ++ ds })
  if ← seesWord "interface" then
    let before ← get
    advance
    if ← seesName then
      g.interface place
      return .mk start .typeOnly
    set before
  let e ← g.value Level.comma
  if t.raw = "abstract" && (e.node matches .name _) && (← seesKeyword "class") && !(← newlineBefore) then
    return wrapped (← g.classStatement start { place with decorators := p.decorators })
  value e

/-- An export statement from the word `export` on. -/
def exportStatement (g : Grammar) (start : Place) (p : StatementPlace) : Parse Stmt := do
  if !p.inModule && !p.inNamespace then unexpected
  let before ← get
  if p.inModule then modify fun s => { s with hasExport := true }
  advance
  let t ← token
  let allowsList := p.inModule || p.inNamespace && (← get).inDeclare
  if ← eat "*" then
    if !allowsList then unexpected
    if ← eatWord "as" then
      let at_ ← place
      let (name, isQuoted) ← clauseName "export"
      return .mk start (.exportStar (some { name, newName := name, place := at_, isQuoted }) (← fromOrigin))
    return .mk start (.exportStar none (← fromOrigin))
  if ← sees "\x7b" then
    if !allowsList then unexpected
    advance
    let (entries, origin) ← exportList
    return .mk start (.exporting entries origin)
  if ← eat "=" then
    modify fun s => { s with hasExport := before.hasExport }
    let e ← g.value Level.lowest
    endStatement
    return .mk start (.exportWhole e)
  let exported := { p with isExported := true }
  if ← sees "@" then return ← g.statement exported
  match t.kind, t.raw with
  | .keyword, "class" | .keyword, "const" | .keyword, "function" | .keyword, "var" | .keyword, "enum"
  | .keyword, "import" | .name, "let" => g.statement exported
  | .keyword, "default" =>
    if !allowsList then unexpected
    advance
    g.defaultExport start t.place p
  | .name, "as" =>
    advance
    expectWord "namespace"
    let _ ← expectName
    endStatement
    return .mk start .typeOnly
  | .name, "async" =>
    advance
    if ← newlineBefore then failAt (t.place - 5) "Unexpected newline after \"async\""
    expectKeyword "function"
    g.functionStatement start exported true
  | .name, "type" =>
    advance
    if ← newlineBefore then failAt (t.place - 4) "Unexpected newline after \"type\""
    g.typeExport p
    return .mk start .typeOnly
  | .name, "namespace" | .name, "abstract" | .name, "module" | .name, "interface" | .name, "declare" =>
    g.statement exported
  | _, _ => unexpected

end Grammar

end Distill.TypeScript
