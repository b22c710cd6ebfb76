import Distill.TypeScript.Grammar

/-!
Names and patterns that are bound. A pattern is read as such where a declaration needs one; the parameters of an arrow
function are read as expressions and checked once the arrow is seen.
-/
namespace Distill.TypeScript

mutual

/-- The names that a pattern binds, each with its place. -/
def Expr.boundNames : Expr → List (String × Place)
  | .mk place _ node => node.boundNames place

def Node.boundNames (place : Place) : Node → List (String × Place)
  | .name text => [(text, place)]
  | .array _ items => boundInItems items
  | .object _ members => boundInMembers members
  | .spread value => value.boundNames
  | .binary _ target _ => target.boundNames
  | .group inner => inner.boundNames
  | .assertion _ inner => inner.boundNames
  | _ => []

def boundInItems : List Expr → List (String × Place)
  | [] => []
  | e :: rest => e.boundNames ++ boundInItems rest

def Member.boundNames : Member → List (String × Place)
  | .mk place _ _ node => node.boundNames place

def MemberNode.boundNames (place : Place) : MemberNode → List (String × Place)
  | .entry _ value => value.boundNames
  | .shorthand name _ => [(name, place)]
  | .spread value => value.boundNames
  | _ => []

def boundInMembers : List Member → List (String × Place)
  | [] => []
  | m :: rest => m.boundNames ++ boundInMembers rest

end

/-- What keeps an expression from being a pattern. -/
structure PatternFaults where
  /-- Places of what no pattern can hold. -/
  invalid : List Place := []
  /-- Places of default values of rest elements. -/
  restDefaults : List Place := []
deriving DecidableEq, Repr

namespace PatternFaults

def append (a b : PatternFaults) : PatternFaults := ⟨a.invalid ++ b.invalid, a.restDefaults ++ b.restDefaults⟩

def ofComma (layout : Layout) : PatternFaults := { invalid := layout.commaAfterRest.toList }

end PatternFaults

mutual

/-- The faults of an expression as a pattern. -/
def Expr.patternFaults : Expr → PatternFaults
  | .mk place _ node => node.patternFaults place

def Node.patternFaults (place : Place) : Node → PatternFaults
  | .name _ | .hole => {}
  | .array layout items => (PatternFaults.ofComma layout).append (faultsInItems items)
  | .object layout members => (PatternFaults.ofComma layout).append (faultsInMembers members)
  | .group inner => inner.patternFaults
  | .assertion _ inner => inner.patternFaults
  | _ => { invalid := [place] }

/-- The faults of an element that may have a default. -/
def Expr.elementFaults (isRest : Bool) : Expr → PatternFaults
  | .mk place _ node => node.elementFaults isRest place

def Node.elementFaults (isRest : Bool) (place : Place) : Node → PatternFaults
  | .binary op target value =>
    if op = "=" then
      target.patternFaults.append { restDefaults := if isRest then [value.place] else [] }
    else { invalid := [place] }
  | .spread value => value.elementFaults true
  | .name _ | .hole => {}
  | .array layout items => (PatternFaults.ofComma layout).append (faultsInItems items)
  | .object layout members => (PatternFaults.ofComma layout).append (faultsInMembers members)
  | .group inner => inner.elementFaults isRest
  | .assertion _ inner => inner.elementFaults isRest
  | _ => { invalid := [place] }

def faultsInItems : List Expr → PatternFaults
  | [] => {}
  | e :: rest => (e.elementFaults false).append (faultsInItems rest)

def Member.patternFaults : Member → PatternFaults
  | .mk _ _ _ node => node.patternFaults

def MemberNode.patternFaults : MemberNode → PatternFaults
  | .entry _ value => value.elementFaults false
  | .spread value => value.elementFaults false
  | .method _ key _ => { invalid := [key.place] }
  | _ => {}

def faultsInMembers : List Member → PatternFaults
  | [] => {}
  | m :: rest => m.patternFaults.append (faultsInMembers rest)

end

namespace Parse

/-- Refuses the words `await` and `yield` where they are no names. -/
def checkName (name : String) (place : Place) : Parse Unit := do
  let setting := (← get).setting
  if name = "await" && setting.await ≠ .name || name = "yield" && setting.yield ≠ .name then
    note place ("Cannot use " ++ Text.quoted name ++ " as an identifier here:")

/-- Declares the names of a pattern. -/
def declareAll (kind : SymbolKind) (pattern : Expr) : Parse Unit :=
  pattern.boundNames.forM fun (name, place) => do
    let _ ← declare kind name place

/-- The comments before the current token, which a statement in front of it does not leave to an expression. -/
def dropComments : Parse Unit := modify fun s => { s with token := { s.token with comments := [] } }

/-- A literal that is a string; it is taken. -/
def stringLiteral : Parse Expr := do
  let t ← token
  let comments ← commentsHere
  checkEscapes 1 1
  advance
  return .mk t.place comments (.string t.text)

end Parse

namespace Grammar

open Parse

/-- A key that is a literal or stands in brackets, if there is one. -/
def literalKey? (g : Grammar) : Parse (Option Expr) := do
  let t ← token
  match t.kind with
  | .string => return some (← stringLiteral)
  | .number =>
    advance
    return some (.plain t.place (.number t.text))
  | .bigInteger =>
    advance
    return some (.plain t.place (.bigInteger t.text))
  | _ =>
    if !(← eat "[") then return none
    let e ← g.value Level.comma
    expect "]"
    return some (.plain e.place (.computed e))

/-- A value after an equals sign, with the target before it. -/
def withDefault (g : Grammar) (target : Expr) : Parse Expr := do
  if ← eat "=" then return .plain target.place (.binary "=" target (← g.value Level.comma))
  return target

/-- Refuses a comma after a rest element. -/
def noCommaAfterRest : Parse Unit := do
  if ← sees "," then failAt (← place) "Unexpected \",\" after rest pattern"

/-- A name or pattern. -/
def pattern (g : Grammar) : (fuel : Nat) → Parse Expr
  | 0 => unexpected
  | fuel + 1 => do
    let t ← token
    if ← seesName then
      checkName t.text t.place
      advance
      return .plain t.place (.name t.text)
    if ← eat "[" then
      let (items, isMultiLine) ← allowingIn true <| listed "]" do
        let at_ ← place
        if ← sees "," then return .plain at_ .hole
        if ← eat "..." then
          let e ← pattern g fuel
          noCommaAfterRest
          return .plain at_ (.spread e)
        g.withDefault (← pattern g fuel)
      let closing ← commentsHere
      expect "]"
      return .plain t.place (.array { isMultiLine, closing } items)
    if ← eat "\x7b" then
      let (members, isMultiLine) ← allowingIn true <| listed "\x7d" do
        let start ← token
        let comments ← commentsHere
        let member (node : MemberNode) : Member := .mk start.place comments [] node
        if ← eat "..." then
          let at_ ← place
          let name ← expectName
          noCommaAfterRest
          return member (.spread (.plain at_ (.name name)))
        let key ← match ← g.literalKey? with
          | some key => pure key
          | none =>
            if !(← seesMemberName) then refuse "identifier"
            advance
            if !(← seesAny [":", "("]) then
              checkName start.text start.place
              let init ← if ← eat "=" then pure (some (← g.value Level.comma)) else pure none
              return member (.shorthand start.text init)
            pure (.plain start.place (.name start.text))
        expect ":"
        return member (.entry key (← g.withDefault (← pattern g fuel)))
      let closing ← commentsHere
      expect "\x7d"
      return .plain t.place (.object { isMultiLine, closing } members)
    refuse "identifier"

def binding (g : Grammar) : Parse Expr := do
  g.pattern ((← place) + 1)

end Grammar

end Distill.TypeScript
