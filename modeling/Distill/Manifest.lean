import Distill.Disk
import Distill.Yaml.Value

/-!
The workspace manifest: the patterns of the packages, and the patterns that are skipped. A manifest is a YAML mapping;
the keys `packages` and `skip-ts` hold lists of texts, and all other keys are left alone.

A manifest is read twice: first for its shape, as a value with all references followed, and then field by field. Each
reading has its own problems, and the shape comes first. Of a text that is no YAML only this much is said; the place and
the reason are left out.
-/
namespace Distill

structure Manifest where
  packages : List String
  skipped : List String
deriving DecidableEq, Repr

namespace Manifest

/-- The name of the manifest at the workspace root. -/
def defaultName : String := "pnpm-workspace.yaml"

/-- Whether a pattern is listed among the skipped ones, letter for letter. -/
def skips (m : Manifest) (pattern : String) : Bool := m.skipped.contains pattern

/-- The patterns that are not skipped, in order. -/
def patterns (m : Manifest) : List String := m.packages.filter fun p => !m.skips p

/-- What is wrong with a key or a value when a mapping is read as a manifest. -/
inductive Fault where
  /-- A key that occurs twice. -/
  | repeated (name : String) (first later : Nat)
  /-- A key that means the same as an earlier one. -/
  | alreadySet (name : String) (line : Nat)
  /-- A node that is not of a type. -/
  | unfit (tag : String) (text : Option String) (type : String) (line : Nat)
deriving DecidableEq, Repr

namespace Fault

/-- The first bytes of a text. Each byte of a character that is cut off shows as a replacement character. -/
def firstBytes : (limit : Nat) → List Char → List Char
  | _, [] => []
  | limit, c :: cs =>
    if c.utf8Size ≤ limit then c :: firstBytes (limit - c.utf8Size) cs else List.replicate limit Text.replacement

/-- A text of more than ten bytes is cut after seven of them. -/
def excerpt (s : String) : String :=
  if 10 < s.utf8ByteSize then String.ofList (firstBytes 7 s.toList) ++ "..." else s

def message : Fault → String
  | repeated name first later =>
    "line " ++ toString later ++ ": mapping key " ++ Text.quoted name ++ " already defined at line " ++ toString first
  | alreadySet name line =>
    "line " ++ toString line ++ ": field " ++ name ++ " already set in type workspace.Manifest"
  | unfit tag text type line =>
    let shown := match text with
      | some s => " \x60" ++ excerpt s ++ "\x60"
      | none => ""
    "line " ++ toString line ++ ": cannot unmarshal " ++ tag ++ shown ++ " into " ++ type

end Fault

/-- What is wrong with a manifest. -/
inductive Problem where
  | malformed
  | notMapping
  | noPackages
  /-- The value of a key is no list. -/
  | notList (key : String) (value : Yaml.Value)
  /-- An item of a list is no text. -/
  | notText (key : String) (index : Nat) (value : Yaml.Value)
  /-- The mapping has the right shape, but some of its keys are at fault. -/
  | faulty (faults : List Fault)
  /-- A mapping takes over the fields of what is none. -/
  | badMerge
  /-- Nearly all of the document is read through references. -/
  | aliased

/-- How a value fails to be of a type. A scalar comes before the type it should have, a collection after it. -/
def conflict (value : Yaml.Value) (type kind : String) : String :=
  let words (a b ka kb : String) : String :=
    "conflicting values " ++ a ++ " and " ++ b ++ " (mismatched types " ++ ka ++ " and " ++ kb ++ ")"
  match value with
  | .list _ => words type value.render kind value.kind
  | .mapping _ => words type value.render kind value.kind
  | _ => words value.evaluated.render type value.kind kind

namespace Problem

/-- The key that a problem concerns; empty if it is the whole manifest. -/
def key : Problem → String
  | malformed => ""
  | notMapping => ""
  | noPackages => "packages"
  | notList key _ => key
  | notText key index _ => key ++ "." ++ toString index
  | faulty _ => ""
  | badMerge => ""
  | aliased => ""

def message : Problem → String
  | malformed => "malformed yaml"
  | notMapping => "top level must be a mapping"
  | noPackages => "couldn't find packages"
  | notList key value => "\x60" ++ key ++ "\x60 must be a sequence of strings: " ++ conflict value "[...string]" "list"
  | notText key _ value => "item in \x60" ++ key ++ "\x60 key wasn't a string: " ++ conflict value "string" "string"
  | faulty faults =>
    "decoding yaml: yaml: unmarshal errors:" ++ String.join (faults.map fun f => "\n  " ++ f.message)
  | badMerge => "decoding yaml: yaml: map merge requires map or sequence of maps as the value"
  | aliased => "decoding yaml: yaml: document contains excessive aliasing"

end Problem

/-- The texts in a list of values; an item that is no text is a problem. -/
def textsFrom (key : String) : (index : Nat) → List Yaml.Value → Except Problem (List String)
  | _, [] => .ok []
  | index, .str s :: rest => (textsFrom key (index + 1) rest).map (s :: ·)
  | index, value :: _ => .error (.notText key index value)

/-- The value of a key as a list of texts. -/
def texts (key : String) : Yaml.Value → Except Problem (List String)
  | .list items => textsFrom key 0 items
  | value => .error (.notList key value)

/-- The manifest in a mapping. -/
def ofFields (fields : List (String × Yaml.Value)) : Except Problem Manifest :=
  match fields.lookup "packages" with
  | none => .error .noPackages
  | some packages => do
    let packages ← texts "packages" packages
    let skipped ← match fields.lookup "skip-ts" with
      | none => .ok []
      | some skipped => texts "skip-ts" skipped
    return ⟨packages, skipped⟩

/-- The manifest that a value holds. -/
def ofValue : Yaml.Value → Except Problem Manifest
  | .mapping fields => ofFields fields
  | _ => .error .notMapping

/-- A manifest while its mapping is read, with the faults found so far. `visits` counts the nodes that were read, and
`indirect` those of them that were reached through a reference. -/
structure Draft where
  packages : List String
  skipped : List String
  faults : List Fault
  visits : Nat
  indirect : Nat

namespace Draft

def empty : Draft := ⟨[], [], [], 0, 0⟩

/-- Whether nearly all nodes were reached through references: of up to 400000 nodes ninety-nine in a hundred, of ten
times as many ten in a hundred, and in between a share that falls evenly. -/
def isAliased (d : Draft) : Bool :=
  let share :=
    if d.visits ≤ 400000 then 99 * 3600000
    else if 4000000 ≤ d.visits then 10 * 3600000
    else 99 * 3600000 - 89 * (d.visits - 400000)
  100 < d.indirect && 1000 < d.visits && d.visits * share < d.indirect * 100 * 3600000

end Draft

/-- A step of reading a manifest from its mapping. -/
abbrev Reading := StateT Draft (Except Problem)

namespace Reading

def blame (f : Fault) : Reading Unit := modify fun d => { d with faults := d.faults ++ [f] }

/-- Counts a node; `inside` tells whether it stands in what a reference refers to. -/
def visit (inside : Bool) : Reading Unit := do
  modify fun d => { d with visits := d.visits + 1, indirect := if inside then d.indirect + 1 else d.indirect }
  if (← get).isAliased then throw .aliased

/-- The tag of the type that a scalar has. -/
def tagOf (text : String) (plain : Bool) : Option String → String
  | some tag => "!!" ++ String.ofList (tag.toList.drop "tag:yaml.org,2002:".length)
  | none =>
    if !plain then "!!str"
    else if text = "<<" then "!!merge"
    else match Yaml.Kind.ofText text with
      | .null => "!!null"
      | .bool _ => "!!bool"
      | .int _ => "!!int"
      | .float _ => "!!float"
      | .text => if Yaml.Timestamp.accepts text then "!!timestamp" else "!!str"

/-- Whether a key takes over the fields of other mappings. -/
def isMerge : Yaml.Node → Bool
  | .scalar text plain tag _ =>
    text = "<<" && (plain && (tag.isNone || tag = some "!") || tag = some "tag:yaml.org,2002:merge")
  | _ => false

/-- What tells two keys apart: the text of a scalar, or the name of a reference. -/
def identity : Yaml.Node → Option (Bool × String)
  | .scalar text _ _ _ => some (false, text)
  | .reference name _ _ => some (true, name)
  | _ => none

/-- Every pair of places with the same key. -/
def repeats : List (Yaml.Node × Yaml.Node) → List Fault
  | [] => []
  | (key, _) :: rest =>
    match identity key with
    | none => repeats rest
    | some id =>
      (rest.filter fun f => identity f.1 = some id).map (fun f => .repeated id.2 key.line f.1.line) ++ repeats rest

/-- Blames a mapping for its type, or for its keys if one of them occurs twice. -/
def blameMapping (fields : List (Yaml.Node × Yaml.Node)) (type : String) (line : Nat) : Reading Unit :=
  match repeats fields with
  | [] => blame (.unfit "!!map" none type line)
  | faults => faults.forM blame

/-- A node as a text. Nothing at all is left out, and a collection is a fault. -/
def text? (inside : Bool) : Yaml.Node → Reading (Option String)
  | .scalar text plain tag _ => do
    visit inside
    match Yaml.Literal.ofScalar? text plain tag with
    | some .null => return none
    | some (.bytes b) => return some (Text.decodeLossy b)
    | _ => return some text
  | .sequence _ line => do
    visit inside
    blame (.unfit "!!seq" none "string" line)
    return none
  | .mapping fields line => do
    visit inside
    blameMapping fields "string" line
    return none
  | .reference _ target _ => do
    visit inside
    text? true target

/-- The items of a sequence as texts. -/
def texts (inside : Bool) : List Yaml.Node → Reading (List String)
  | [] => return []
  | n :: ns => do
    let s ← text? inside n
    return s.toList ++ (← texts inside ns)

/-- A node as a list of texts. -/
def list (inside : Bool) : Yaml.Node → Reading (List String)
  | .scalar text plain tag line => do
    visit inside
    match Yaml.Literal.ofScalar? text plain tag with
    | some .null => return []
    | _ =>
      blame (.unfit (tagOf text plain tag) (some text) "[]string" line)
      return []
  | .sequence items _ => do
    visit inside
    texts inside items
  | .mapping fields line => do
    visit inside
    blameMapping fields "[]string" line
    return []
  | .reference _ target _ => do
    visit inside
    list true target

/-- Sets the field of a key. -/
def set (inside : Bool) (name : String) (n : Yaml.Node) : Reading Unit := do
  if name = "packages" then
    let packages ← list inside n
    modify fun d => { d with packages }
  else if name = "skip-ts" then
    let skipped ← list inside n
    modify fun d => { d with skipped }

/-- Counts a key. -/
def visitKey (inside : Bool) : Yaml.Node → Reading Unit
  | .reference _ target _ => do
    visit inside
    visitKey true target
  | _ => visit inside

/-- The text of a key. -/
def keyName : Yaml.Node → Option String
  | .scalar text plain tag _ =>
    match Yaml.Literal.ofScalar? text plain tag with
    | some (.bytes b) => some (Text.decodeLossy b)
    | _ => some text
  | .reference _ target _ => keyName target
  | _ => none

/-- The texts of the keys of a mapping. -/
def names (inside : Bool) : List (Yaml.Node × Yaml.Node) → Reading (List String)
  | [] => return []
  | (key, _) :: rest => do
    visitKey inside key
    return (keyName key).toList ++ (← names inside rest)

/-- Reads a mapping, unless one of its keys occurs twice. -/
def unlessRepeated (fields : List (Yaml.Node × Yaml.Node)) (taken : List String) (read : Reading (List String)) :
    Reading (List String) :=
  match repeats fields with
  | [] => read
  | faults => do
    faults.forM blame
    return taken

/-- Reads the fields of a mapping in order, in which `done` were set. `taken` holds the names that the mappings before
have set, if this one is merged into them; such names keep their values. What a key `<<` brings in comes last: it may set
what neither these mappings nor, in the outermost one, any of its fields in `all` has set. -/
def addFields (inside : Bool) (all : List (Yaml.Node × Yaml.Node)) (done : List String) (taken : Option (List String)) :
    List (Yaml.Node × Yaml.Node) → Reading (Option (List String))
  | [] => return taken
  | (key, n) :: rest =>
    if isMerge key then do
      match ← addFields inside all done taken rest with
      | some names => some <$> merge inside names n
      | none =>
        let own ← names inside all
        let _ ← merge inside own n
        return none
    else do
      match ← text? inside key with
      | none => addFields inside all done taken rest
      | some name =>
        if taken.any (·.contains name) then addFields inside all done taken rest
        else if name ∈ ["packages", "skip-ts"] then
          if name ∈ done then
            blame (.alreadySet name key.line)
            addFields inside all done (taken.map (name :: ·)) rest
          else
            set inside name n
            addFields inside all (name :: done) (taken.map (name :: ·)) rest
        else addFields inside all done (taken.map (name :: ·)) rest
where
  /-- Takes over the fields of a mapping, or of several, whose names are not taken. -/
  merge (inside : Bool) (taken : List String) : Yaml.Node → Reading (List String)
    | .mapping fields _ => do
      visit inside
      unlessRepeated fields taken (do return (← addFields inside fields [] (some taken) fields).getD taken)
    | .reference _ (.mapping fields _) _ => do
      visit inside
      visit true
      unlessRepeated fields taken (do return (← addFields true fields [] (some taken) fields).getD taken)
    | .sequence items _ => mergeAll inside taken items
    | _ => throw .badMerge
  mergeAll (inside : Bool) (taken : List String) : List Yaml.Node → Reading (List String)
    | [] => return taken
    | .sequence _ _ :: _ => throw .badMerge
    | n :: rest => do
      let taken ← merge inside taken n
      mergeAll inside taken rest

/-- Reads a document. -/
def document : Yaml.Node → Reading Unit
  | .mapping fields _ => do
    visit false
    visit false
    let _ ← unlessRepeated fields [] (do return (← addFields false fields [] none fields).getD [])
  | _ => return

end Reading

/-- The manifest that a document holds. Its shape is looked at first; then its keys are read one by one. -/
def ofDocument (d : Yaml.Document) : Except Problem Manifest :=
  match Yaml.Value.coherent? d with
  | none => .error .malformed
  | some value => do
    let _ ← ofValue value
    let (_, draft) ← (Reading.document d.root).run Draft.empty
    if draft.faults.isEmpty then return ⟨draft.packages, draft.skipped⟩ else throw (.faulty draft.faults)

/-- The manifest in a stream of documents, which has to be a single one. -/
def ofDocuments : List Yaml.Document → Except Problem Manifest
  | [d] => ofDocument d
  | ds => if ds.all fun d => (Yaml.Value.coherent? d).isSome then .error .notMapping else .error .malformed

/-- The manifest in the bytes of a file. -/
def ofBytes (bytes : Text.Bytes) : Except Problem Manifest :=
  match Yaml.documents? bytes with
  | some documents => ofDocuments documents
  | none => .error .malformed

/-- The manifest in a text. -/
def ofText (text : String) : Except Problem Manifest := ofBytes (Text.encode text)

def Problem.failure (file : String) (p : Problem) : Failure := .bare (.manifest file p.key p.message)

/-- Reads the manifest at a path. -/
def load (d : Disk) (path : String) : Except Failure Manifest :=
  let file := Path.base path
  match d.contents path with
  | .ok bytes => (ofBytes bytes).mapError (Problem.failure file)
  | .error f =>
    let problem := match f with
      | .system _ _ .noEntry => "manifest not found"
      | _ => "reading manifest: " ++ f.message
    .error (.within (.manifest file "" problem) (.fault f))

end Manifest

end Distill
