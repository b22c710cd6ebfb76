import Distill.Yaml.Encoding
import Distill.Yaml.Token

/-!
YAML documents as trees. A reference keeps the name of its anchor beside the node that the anchor stands at. An anchor
is known only after its node is complete, so no node refers to itself.
-/
namespace Distill.Yaml

inductive Node where
  /-- A scalar with its text; `plain` tells whether it stands without quotes. -/
  | scalar (text : String) (plain : Bool) (tag : Option String) (line : Nat)
  | sequence (items : List Node) (line : Nat)
  | mapping (fields : List (Node × Node)) (line : Nat)
  | reference (name : String) (target : Node) (line : Nat)
deriving Repr

/-- The scalar that an empty place stands for. -/
def Node.absent (line : Nat) : Node := .scalar "" true none line

/-- A document with the nodes of its anchors, the latest of a name first. -/
structure Document where
  root : Node
  anchors : List (String × Node)
deriving Repr

/-- The line on which a node starts. -/
def Node.line : Node → Nat
  | scalar _ _ _ line => line
  | sequence _ line => line
  | mapping _ line => line
  | reference _ _ line => line

/-- What is known while the nodes of a document are read. -/
structure Reading where
  tokens : List Token
  /-- The anchors, the latest first, with their nodes once those are complete. -/
  anchors : List (String × Option Node)
  /-- The meanings of handles. -/
  handles : List (String × String)

/-- Reading nodes off tokens; it fails where the tokens are no document. -/
abbrev Read := StateT Reading Option

namespace Read

/-- The next token. -/
def peek : Read (Option Lexeme) := do return (← get).tokens.head?.map (·.lexeme)

/-- The line of the next token. -/
def line : Read Nat := do return ((← get).tokens.head?.map (·.line)).getD 0

def skip : Read Unit := modify fun s => { s with tokens := s.tokens.drop 1 }

/-- Whether one of some tokens comes next, or none at all. -/
def endsBefore (ends : List Lexeme) : Read Bool := do
  return match ← peek with
    | none => true
    | some t => ends.contains t

/-- Consumes a token if it comes next. -/
def accept (t : Lexeme) : Read Bool := do
  if (← peek) = some t then
    skip
    return true
  else return false

/-- Consumes a token that has to come next. -/
def expect (t : Lexeme) : Read Unit := do
  if !(← accept t) then failure

/-- The tag that a handle and a suffix write. -/
def meaning (handle suffix : String) : Read String := do
  if handle.isEmpty then return suffix
  else match (← get).handles.lookup handle with
    | some start => return start ++ suffix
    | none => failure

/-- The anchor in front of a node, if one comes next. -/
def anchor? : Read (Option String) := do
  match ← peek with
  | some (.anchor name) =>
    skip
    return some name
  | _ => return none

/-- The tag in front of a node, if one comes next. -/
def tag? : Read (Option String) := do
  match ← peek with
  | some (.tag handle suffix) =>
    let t ← meaning handle suffix
    skip
    return some t
  | _ => return none

/-- The anchor and the tag in front of a node, in either order. -/
def properties : Read (Option String × Option String) := do
  match ← anchor? with
  | some name => return (some name, ← tag?)
  | none =>
    let tag ← tag?
    if tag.isSome then return (← anchor?, tag) else return (none, none)

/-- Reads the node of an anchor. While it is read the anchor has no node. -/
def named (name : Option String) (read : Read Node) : Read Node :=
  match name with
  | none => read
  | some name => do
    let place := (← get).anchors.length
    modify fun s => { s with anchors := (name, none) :: s.anchors }
    let n ← read
    modify fun s => { s with anchors := s.anchors.modify (s.anchors.length - 1 - place) fun a => (a.1, some n) }
    return n

/-- The node that a reference means. -/
def target (name : String) : Read Node := do
  match (← get).anchors.lookup name with
  | some (some n) => return n
  | _ => failure

mutual

/-- A node. `layout` tells whether it may be laid out by indentation, and `bareDashes` whether a sequence may start
without a deeper indentation. Nothing at all is an empty scalar if properties stand in front of it. -/
def node : (fuel : Nat) → (layout bareDashes : Bool) → Read Node
  | 0, _, _ => failure
  | fuel + 1, layout, bareDashes => do
    let line ← line
    match ← peek with
    | some (.reference name) =>
      let n ← target name
      skip
      return .reference name n line
    | _ =>
      let (name, tag) ← properties
      let read : Read Node := do
        match ← peek with
        | some .dash =>
          if bareDashes then return .sequence (← bareItems fuel) line
          else if name.isSome || tag.isSome then return .scalar "" true tag line
          else failure
        | some (.scalar text plain) =>
          skip
          return .scalar text plain tag line
        | some .openBracket =>
          skip
          return .sequence (← flowItems fuel true) line
        | some .openBrace =>
          skip
          return .mapping (← flowFields fuel true) line
        | some .sequenceStart =>
          if layout then
            skip
            return .sequence (← items fuel) line
          else failure
        | some .mappingStart =>
          if layout then
            skip
            return .mapping (← fields fuel) line
          else failure
        | _ => if name.isSome || tag.isSome then return .scalar "" true tag line else failure
      named name read

/-- A node that is empty if one of some tokens comes next. -/
def nodeUnless : (fuel : Nat) → (ends : List Lexeme) → (layout bareDashes : Bool) → (line : Nat) → Read Node
  | 0, _, _, _, _ => failure
  | fuel + 1, ends, layout, bareDashes, line => do
    match ← peek with
    | some t => if ends.contains t then return .absent line else node fuel layout bareDashes
    | none => node fuel layout bareDashes

/-- The items of a sequence that is laid out by indentation. -/
def items : (fuel : Nat) → Read (List Node)
  | 0 => failure
  | fuel + 1 => do
    let line ← line
    if ← accept .dash then
      let item ← nodeUnless fuel [.dash, .blockEnd] true false line
      return item :: (← items fuel)
    else
      expect .blockEnd
      return []

/-- The items of a sequence whose dashes stand in the column of the key. -/
def bareItems : (fuel : Nat) → Read (List Node)
  | 0 => failure
  | fuel + 1 => do
    let line ← line
    if ← accept .dash then
      let item ← nodeUnless fuel [.dash, .key, .value, .blockEnd] true false line
      return item :: (← bareItems fuel)
    else return []

/-- The fields of a mapping that is laid out by indentation. -/
def fields : (fuel : Nat) → Read (List (Node × Node))
  | 0 => failure
  | fuel + 1 => do
    let keyLine ← line
    if ← accept .key then
      let key ← nodeUnless fuel [.key, .value, .blockEnd] true true keyLine
      let valueLine ← line
      let value ←
        if ← accept .value then nodeUnless fuel [.key, .value, .blockEnd] true true valueLine
        else pure (.absent valueLine)
      return (key, value) :: (← fields fuel)
    else
      expect .blockEnd
      return []

/-- The items of a sequence in brackets. An item with a key is a mapping of one field; a question mark needs its key. -/
def flowItems : (fuel : Nat) → (first : Bool) → Read (List Node)
  | 0, _ => failure
  | fuel + 1, first => do
    if ← accept .closeBracket then return []
    else
      if !first then expect .comma
      if ← accept .closeBracket then return []
      else
        let line ← line
        let item ←
          if ← accept .key then
            if ← endsBefore [.value, .comma, .closeBracket] then
              skip
              pure (.mapping [(.absent line, ← flowValue fuel [.comma, .closeBracket])] line)
            else
              let key ← node fuel false false
              pure (.mapping [(key, ← flowValue fuel [.comma, .closeBracket])] line)
          else node fuel false false
        return item :: (← flowItems fuel false)

/-- The value of a field in brackets, which may be missing. -/
def flowValue : (fuel : Nat) → (ends : List Lexeme) → Read Node
  | 0, _ => failure
  | fuel + 1, ends => do
    if ← accept .value then nodeUnless fuel ends false false (← line)
    else return .absent (← line)

/-- The fields of a mapping in braces. -/
def flowFields : (fuel : Nat) → (first : Bool) → Read (List (Node × Node))
  | 0, _ => failure
  | fuel + 1, first => do
    if ← accept .closeBrace then return []
    else
      if !first then expect .comma
      if ← accept .closeBrace then return []
      else
        let field ←
          if ← accept .key then
            let key ← nodeUnless fuel [.value, .comma, .closeBrace] false false (← line)
            pure (key, ← flowValue fuel [.comma, .closeBrace])
          else
            let key ← node fuel false false
            pure (key, .absent (← line))
        return field :: (← flowFields fuel false)

end

/-- What every document starts with: the meanings of the two short handles. -/
def shortHandles : List (String × String) := [("!", "!"), ("!!", "tag:yaml.org,2002:")]

/-- The directives in front of a document: at most one version, and every handle at most once. -/
def directives : (fuel : Nat) → (versioned : Bool) → (own : List (String × String)) → Read (List (String × String))
  | 0, _, _ => failure
  | fuel + 1, versioned, own => do
    match ← peek with
    | some (.directive (.version major minor)) =>
      if versioned || major ≠ 1 || minor ≠ 1 then failure
      else
        skip
        directives fuel true own
    | some (.directive (.handle name meaning)) =>
      if (own.lookup name).isSome then failure
      else
        skip
        directives fuel versioned ((name, meaning) :: own)
    | _ => return own

/-- Whether a directive comes next. -/
def atDirective : Read Bool := do
  return match ← peek with
    | some (.directive _) => true
    | _ => false

/-- Skips the markers that end documents. -/
def skipEnds : (fuel : Nat) → Read Unit
  | 0 => return
  | fuel + 1 => do
    if ← accept .documentEnd then skipEnds fuel

/-- The documents from a place on. All but the first one start with a marker, and so does one with directives. -/
def documents : (fuel : Nat) → (first : Bool) → Read (List Document)
  | 0, _ => failure
  | fuel + 1, first => do
    if !first then skipEnds fuel
    if (← get).tokens.isEmpty then return []
    else
      let bare := first && !(← atDirective) && (← peek) ≠ some .documentStart
      let own ← if bare then pure [] else directives fuel false []
      modify fun s => { s with anchors := [], handles := own ++ shortHandles }
      let root ←
        if bare then node (3 * fuel + 3) true false
        else
          expect .documentStart
          let line ← line
          if (← atDirective) || (← endsBefore [.documentStart, .documentEnd]) then pure (.absent line)
          else node (3 * fuel + 3) true false
      let _ ← accept .documentEnd
      let anchors := (← get).anchors.filterMap fun (name, n) => n.map (name, ·)
      return ⟨root, anchors⟩ :: (← documents fuel false)

end Read

/-- The documents that the bytes of a stream hold. -/
def documents? (bytes : Text.Bytes) : Option (List Document) := do
  let tokens ← tokens? (← characters? bytes)
  let (documents, _) ← (Read.documents (tokens.length + 1) true).run ⟨tokens, [], []⟩
  return documents

end Distill.Yaml
