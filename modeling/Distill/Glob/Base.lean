import Distill.Disk
import Distill.Glob.Segment

/-!
Patterns for paths against the directories below a base. A pattern is a path whose segments may hold wildcards; a
segment `**` stands for any number of directories. Here are the patterns without braces: what they lead to comes in the
order in which directories are listed.
-/
namespace Distill.Glob

/-- Whether a pattern is more than a path: it holds a wildcard, a class or a brace. -/
def hasWildcard : List Char → Bool
  | [] => false
  | '\\' :: rest =>
    match rest with
    | [] => false
    | _ :: rest => hasWildcard rest
  | c :: rest => c = '*' || c = '?' || c = '[' || c = '\x7b' || hasWildcard rest

/-- The path a pattern without wildcards stands for. -/
def unescape : List Char → List Char
  | '\\' :: c :: rest =>
    if c ∈ ['*', '?', '[', ']', '\x7b', '\x7d'] then c :: unescape rest else '\\' :: unescape (c :: rest)
  | c :: rest => c :: unescape rest
  | [] => []

/-- Cuts a pattern at its slashes; a slash after a `\` does not count. -/
def splitSegments : (escaped : Bool) → List Char → List (List Char)
  | _, [] => [[]]
  | escaped, c :: cs =>
    if c = '/' ∧ ¬ escaped then [] :: splitSegments false cs
    else match splitSegments (c = '\\') cs with
      | [] => [[c]]
      | seg :: segs => (c :: seg) :: segs

/-- The location below the base that a path text names directly: no empty segment, no `.`, no `..`. -/
def directLocation? (path : List Char) : Option Location :=
  if path = ['.'] then some []
  else
    let names := Path.pieces (String.ofList path)
    if names.all isName then some names else none

/-- The text of a location below the base. -/
def text (l : Location) : String := if l = [] then "." else Path.ofPieces l

/-- A directory of a disk against which patterns are expanded. -/
structure Base where
  disk : Disk
  root : String

namespace Base

/-- The path of a location. An empty root names no directory, and nothing is below it. -/
def path (b : Base) (l : Location) : String := if b.root = "" then "" else b.root ++ "/" ++ text l

def isDirectory (b : Base) (l : Location) : Bool := b.disk.isDirectory (b.path l)

/-- The names in a directory below the base. -/
def names? (b : Base) (l : Location) : Option (List String) := b.disk.names? (b.path l)

/-- A directory and everything below it, each directory followed by what it holds; the files are left out
unless asked for. -/
def descend (b : Base) (withFiles : Bool) : (depth : Nat) → Location → List Location
  | 0, _ => []
  | depth + 1, here =>
    match b.names? here with
    | none => []
    | some names =>
      here :: names.flatMap fun name =>
        let there := here ++ [name]
        if b.isDirectory there then descend b withFiles depth there
        else if withFiles then [there] else []

/-- No chain of directories is longer, links counted. -/
def depthLimit (b : Base) : Nat := (Disk.linkLimit + 1) * (b.disk.tree.entries.length + 1)

/-- The entries of a directory whose names match a segment; the files are left out unless asked for. -/
def listMatching (b : Base) (withFiles : Bool) (segment : List Char) (here : Location) : Option (List Location) :=
  if segment = [] then some (if b.isDirectory here then [here] else [])
  else if segment = ['*', '*'] then some (b.descend withFiles b.depthLimit here)
  else do
    let matching ← ((b.names? here).getD []).filterM fun name => matchName segment name.toList
    return (matching.map fun name => here ++ [name]).filter fun there => withFiles || b.isDirectory there

/-- One segment further from each of some directories, in order. -/
def step (b : Base) (withFiles : Bool) (segment : List Char) (heres : List Location) : Option (List Location) :=
  (heres.mapM (b.listMatching withFiles segment)).map List.flatten

/-- Whether a location leads to something. -/
def contains (b : Base) (l : Location) : Bool :=
  match b.disk.lookUp true (b.path l) with
  | .ok _ => true
  | .error _ => false

/-- What a path without wildcards names. -/
def literal (b : Base) (pattern : List Char) : List Location :=
  match directLocation? (unescape pattern) with
  | some l => if b.contains l then [l] else []
  | none => []

/-- Follows segments; only the last one may lead to files. -/
def steps (b : Base) (withFiles : Bool) : List (List Char) → List Location → Option (List Location)
  | [], heres => some heres
  | [segment], heres => b.step withFiles segment heres
  | segment :: segments, heres => do b.steps withFiles segments (← b.step false segment heres)

/-- Expands a pattern without braces: the segments before the first wildcard name one place, letter for letter. -/
def expandPlain (b : Base) (withFiles : Bool) (pattern : List Char) : Option (List Location) :=
  if hasWildcard pattern then
    let segments := splitSegments false pattern
    let fixed := segments.takeWhile fun s => !hasWildcard s
    let start := if fixed = [] then some [] else directLocation? (Path.joinSlash fixed)
    b.steps withFiles (segments.drop fixed.length) start.toList
  else some (b.literal pattern)

end Base

end Distill.Glob
