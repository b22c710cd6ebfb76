/-!
Failures. A failure is a fault, possibly inside wrappers that say what was being done. Which error code and which
exit code a failure gets depends only on the layers it is made of.
-/
namespace Distill

/-- What the operating system answers when a call on a path is refused. -/
inductive Errno where
  | noEntry
  | notDirectory
  | isDirectory
  | alreadyExists
  | tooManyLinks
  | invalidName
deriving DecidableEq, Repr

def Errno.message : Errno → String
  | noEntry => "no such file or directory"
  | notDirectory => "not a directory"
  | isDirectory => "is a directory"
  | alreadyExists => "file exists"
  | tooManyLinks => "too many levels of symbolic links"
  | invalidName => "invalid argument"

/-- The innermost reason of a failure. -/
inductive Fault where
  /-- A pattern that leaves the workspace root. -/
  | outside (root path : String)
  /-- A source text that is not a module; `line` 0 or below means that the place is unknown. -/
  | malformed (file : String) (line column : Int) (message : String)
  /-- An output location that cannot be used. -/
  | output (path problem : String)
  | noRoot
  | canceled
  | deadline
  | denied
  /-- A refused call of the operating system. -/
  | system (call path : String) (errno : Errno)
  | other (message : String)
deriving DecidableEq, Repr

/-- A layer around a failure. -/
inductive Wrapper where
  /-- The manifest is missing or wrong; `key` is empty when the whole file is at fault. -/
  | manifest (file key problem : String)
  /-- A file could not be accessed while building a package. -/
  | access (action path : String)
  /-- The process is to end with `code`. -/
  | exit (code : Int) (message : String)
  | note (message : String)
deriving DecidableEq, Repr

/-- A fault, a wrapper without a cause, or a wrapper around a failure. -/
inductive Failure where
  | fault (f : Fault)
  | bare (w : Wrapper)
  | within (w : Wrapper) (cause : Failure)
deriving DecidableEq, Repr

def Fault.message : Fault → String
  | outside root path => path ++ " wasn't nested in " ++ root
  | malformed file line column message =>
    if 0 < line then file ++ ":" ++ toString line ++ ":" ++ toString column ++ ": " ++ message
    else file ++ ": " ++ message
  | output path problem => path ++ " " ++ problem
  | noRoot => "no git root found"
  | canceled => "context canceled"
  | deadline => "context deadline exceeded"
  | denied => "permission denied"
  | system call path errno => call ++ " " ++ path ++ ": " ++ errno.message
  | other message => message

/-- The text of a wrapper, given the text of its cause if it has one. -/
def Wrapper.message (w : Wrapper) (cause : Option String) : String :=
  match w with
  | manifest file key problem =>
    if key = "" then "manifest error in " ++ file ++ ": " ++ problem
    else "manifest error in " ++ file ++ ": " ++ key ++ ": " ++ problem
  | access action path => action ++ " " ++ path ++ ": " ++ cause.getD "<nil>"
  | exit _ message =>
    match cause with
    | some text => message ++ ": " ++ text
    | none => message
  | note message => message ++ ": " ++ cause.getD "%!w(<nil>)"

namespace Failure

def message : Failure → String
  | fault f => f.message
  | bare w => w.message none
  | within w cause => w.message (some cause.message)

/-- One layer of a failure. -/
inductive Layer where
  | fault (f : Fault)
  | wrapper (w : Wrapper)
deriving DecidableEq, Repr

/-- The layers from the outermost to the innermost. -/
def layers : Failure → List Layer
  | fault f => [.fault f]
  | bare w => [.wrapper w]
  | within w cause => .wrapper w :: cause.layers

/-- The kinds of failure that have an error code of their own. -/
inductive Kind where
  | noRoot
  | manifest
  | outside
  | malformed
  | output
  | access
deriving DecidableEq, Repr

def Layer.kind? : Layer → Option Kind
  | .fault .noRoot => some .noRoot
  | .fault (.outside ..) => some .outside
  | .fault (.malformed ..) => some .malformed
  | .fault (.output ..) => some .output
  | .wrapper (.manifest ..) => some .manifest
  | .wrapper (.access ..) => some .access
  | _ => none

/-- Whether some layer is of the given kind. -/
def has (f : Failure) (k : Kind) : Bool := f.layers.any fun l => l.kind? = some k

/-- The kinds, the one that decides the error code first. -/
def Kind.byPriority : List Kind := [.noRoot, .manifest, .outside, .malformed, .output, .access]

/-- The kind of highest priority among the layers. -/
def leadingKind? (f : Failure) : Option Kind := Kind.byPriority.find? f.has

def Kind.code : Kind → String
  | noRoot => "E005"
  | manifest => "E201"
  | outside => "E202"
  | access => "E203"
  | malformed => "E204"
  | output => "E205"

/-- The error code shown to the user. -/
def code (f : Failure) : String := (f.leadingKind?.map Kind.code).getD "E001"

def isMalformed (f : Failure) : Bool := f.has .malformed

/-- Whether the failure comes from a cancelled run. -/
def isCanceled (f : Failure) : Bool := f.layers.contains (.fault .canceled)

/-- The exit code of the outermost layer that carries one. -/
def exitCode? (f : Failure) : Option Int :=
  f.layers.findSome? fun
    | .wrapper (.exit code _) => some code
    | _ => none

/-- The exit code of a process that ends with this failure. -/
def exitCode (f : Failure) : Int := f.exitCode?.getD 1

end Failure

end Distill
