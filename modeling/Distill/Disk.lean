import Distill.Failure
import Distill.FileTree
import Distill.Path

/-!
A file tree with a working directory, and the calls a program makes on it by path text: looking up, reading, listing,
writing, creating and removing. Paths are followed name by name: a link is replaced by its target, and `..` leads to
the directory that really holds the current one.

Names are texts, not arbitrary bytes. Nobody owns an entry and nothing is forbidden: a call fails only for what stands on
its path, so a directory can always be read, listed and removed.
-/
namespace Distill

structure Disk where
  tree : FileTree
  /-- The absolute path of the working directory. -/
  cwd : String

/-- Where a path leads. Without an entry, the path names something that its directory does not have. -/
structure Place where
  location : Location
  entry : Option Entry
deriving DecidableEq, Repr

/-- Where names lead from a location by their text alone. -/
def Location.along : Location → List String → Location
  | here, [] => here
  | here, name :: rest =>
    if name = "" ∨ name = "." then along here rest
    else if name = ".." then along here.dropLast rest
    else along (here ++ [name]) rest

namespace FileTree

/-- The location at which the target of a link in the directory `here` starts. -/
def linkStart (here : Location) (target : String) : Location :=
  if Path.isAbsolute target then [] else here

/-- Follows names from the directory `here`, in which nothing is found if it was removed. A link that has to be followed
is left to `jump`, with the directory its target starts in and the names still to follow. A link in the last place is
followed only on request. -/
def walk (t : FileTree) (follow : Bool) (jump : Location → List String → Except Errno Place) :
    Location → List String → Except Errno Place
  | here, [] => .ok ⟨here, t.get? here⟩
  | here, name :: rest =>
    if name = "" ∨ name = "." then walk t follow jump here rest
    else if name = ".." then walk t follow jump here.dropLast rest
    else
      let there := here ++ [name]
      match t.get? there with
      | none => if rest = [] ∧ t.get? here = some .directory then .ok ⟨there, none⟩ else .error .noEntry
      | some .directory => walk t follow jump there rest
      | some (.file content) =>
        if rest = [] then .ok ⟨there, some (.file content)⟩ else .error .notDirectory
      | some (.link target) =>
        if rest = [] ∧ ¬ follow then .ok ⟨there, some (.link target)⟩
        else jump (linkStart here target) (Path.pieces target ++ rest)

/-- Follows names and at most `links` links. -/
def locate (t : FileTree) (follow : Bool) : (links : Nat) → Location → List String → Except Errno Place
  | 0 => walk t follow fun _ _ => .error .tooManyLinks
  | links + 1 => walk t follow (locate t follow links)

end FileTree

namespace Disk

/-- How many links a path may lead through. -/
def linkLimit : Nat := 40

/-- The location of the working directory. It stays what it was if the directory is removed. -/
def workingLocation (d : Disk) : Location :=
  match d.tree.locate true linkLimit [] (Path.pieces d.cwd) with
  | .ok place => place.location
  | .error _ => Location.along [] (Path.pieces d.cwd)

/-- The location from which a path is followed. -/
def start (d : Disk) (path : String) : Location := if Path.isAbsolute path then [] else d.workingLocation

/-- Where a path leads, seen from the working directory. -/
def locate (d : Disk) (follow : Bool) (path : String) : Except Errno Place :=
  if path = "" then .error .noEntry else d.tree.locate follow linkLimit (d.start path) (Path.pieces path)

/-- The entry a path leads to. -/
def lookUp (d : Disk) (follow : Bool) (path : String) : Except Errno Entry :=
  match d.locate follow path with
  | .ok ⟨_, some e⟩ => .ok e
  | .ok ⟨_, none⟩ => .error .noEntry
  | .error e => .error e

def isDirectory (d : Disk) (path : String) : Bool :=
  match d.lookUp true path with
  | .ok .directory => true
  | _ => false

/-- The names in the directory a path leads to, in byte order. -/
def names? (d : Disk) (path : String) : Option (List String) :=
  match d.locate true path with
  | .ok ⟨l, some .directory⟩ => some (d.tree.children l)
  | _ => none

def contents (d : Disk) (path : String) : Except Fault Text.Bytes :=
  match d.lookUp true path with
  | .ok (.file content) => .ok content
  | .ok .directory => .error (.system "read" path .isDirectory)
  | .ok (.link _) => .error (.system "open" path .tooManyLinks)
  | .error e => .error (.system "open" path e)

/-- Gives a file a new content, or creates it. -/
def writeFile (d : Disk) (path : String) (content : Text.Bytes) : Except Fault Disk :=
  match d.locate true path with
  | .ok ⟨_, some .directory⟩ => .error (.system "open" path .isDirectory)
  | .ok ⟨l, _⟩ => .ok { d with tree := d.tree.set l (.file content) }
  | .error e => .error (.system "open" path e)

/-- Creates the directory that a path names. One that is there already is left alone. -/
def makeDirectory (d : Disk) (path : String) : Except Fault Disk :=
  match d.locate false path with
  | .ok ⟨l, none⟩ => .ok { d with tree := d.tree.set l .directory }
  | .ok ⟨_, some .directory⟩ => .ok d
  | .ok ⟨_, some _⟩ => .error (.system "mkdir" path .alreadyExists)
  | .error e => .error (.system "mkdir" path e)

/-- Makes sure that the first of some paths leads to a directory; each of the others is the path above the one before.
Only what is above a path that leads nowhere is looked at. -/
def makeUpward (d : Disk) : List String → Except Fault Disk
  | [] => .ok d
  | path :: above =>
    match d.lookUp true path with
    | .ok .directory => .ok d
    | .ok _ => .error (.system "mkdir" path .notDirectory)
    | .error _ =>
      match makeUpward d above with
      | .ok d => d.makeDirectory path
      | .error f => .error f

/-- Makes sure that a path leads to a directory, creating what is missing above it as well. -/
def makeDirectories (d : Disk) (path : String) : Except Fault Disk := d.makeUpward (Path.ancestors path).reverse

/-- Removes what a path names, with everything below it; links are not followed. -/
def removeAll (d : Disk) (path : String) : Disk :=
  match d.locate false path with
  | .ok ⟨l, some _⟩ => { d with tree := d.tree.erase l }
  | _ => d

end Disk

end Distill
