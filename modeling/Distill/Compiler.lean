import Distill.Failure
import Distill.Module.Parse
import Distill.Text.Quoted
import Distill.Text.Utf8
import Distill.TypeScript.Normal
import Distill.TypeScript.Written

/-!
Compiling one source file: its bytes are decoded, its types are stripped, and what is left is parsed as a module whose
relative specifiers are made explicit.
-/
namespace Distill

/-- Removes the types from the text of a file, leaving JavaScript. The name of the file is for messages and
for the name that a default export without one has inside. -/
abbrev Stripper := (file source : String) → Except Failure String

/-- Leaves the text as it is. -/
def Stripper.verbatim : Stripper := fun _ source => .ok source

/-- A stripper out of a function on texts. -/
def Stripper.of (strip : (file text : String) → Except TypeScript.Problem String) : Stripper := fun file source =>
  match strip file source with
  | .ok text => .ok text
  | .error p => .error (.fault (.malformed file p.position.line p.position.column p.message))

/-- The names of the strippers. -/
def Stripper.names : List String := ["esbuild", "tsc"]

/-- The stripper of a name; the empty name stands for the first. With `elide`, imports that no value needs are
dropped. -/
def Stripper.named (name : String) (elide : Bool) : Except Failure Stripper :=
  if name = "" ∨ name = "esbuild" then .ok (.of (TypeScript.stripNormal elide))
  else if name = "tsc" then .ok (.of (TypeScript.stripWritten elide))
  else
    .error (.fault (.other
      ("unknown transpiler " ++ Text.quoted name ++ ": must be one of [" ++ Script.joined " " names ++ "]")))

namespace Compiler

/-- The module that is left of a source text without its types. -/
def parse (strip : Stripper) (file source : String) : Except Failure Module := do
  match Module.parse (← strip file source) with
  | .ok m => return m
  | .error p => throw (.fault (.malformed file p.position.line p.position.column p.message))

/-- The JavaScript that a source text compiles to. -/
def compile (strip : Stripper) (file source : String) : Except Failure String := do
  return (← parse strip file source).explicit.emit

/-- The text of a source file, given what reading it gave. Bytes that are no text are replaced, never refused. -/
def readSource (read : Except Fault Text.Bytes) : Except Failure String :=
  match read with
  | .ok bytes => .ok (Text.decodeLossy bytes)
  | .error f => .error (.within (.note "reading source") (.fault f))

/-- The output of compiling a file, given its path and what reading it gave. -/
def compileFile (strip : Stripper) (path : String) (read : Except Fault Text.Bytes) : Except Failure Text.Bytes := do
  return Text.encode (← compile strip path (← readSource read))

end Compiler

end Distill
