import Distill.Glob
import Distill.Text.Quoted

/-!
The directories of a workspace that a pattern names. A pattern that leads out of the workspace root by its text is
refused before the disk is looked at.
-/
namespace Distill.Workspace

/-- Whether a normalised pattern leads out of the root it is relative to. -/
def leavesRoot (pattern : List Char) : Bool :=
  match pattern with
  | '/' :: _ => true
  | ['.', '.'] => true
  | '.' :: '.' :: '/' :: _ => true
  | _ => false

/-- The directories below `root` that match a pattern, as paths relative to `root`. -/
def expand (d : Disk) (root pattern : String) : Except Failure (List String) :=
  let normal := Path.cleanChars pattern.toList
  if leavesRoot normal then .error (.fault (.outside root pattern))
  else match Glob.Base.directories? ⟨d, root⟩ normal with
    | some locations => .ok (locations.map Glob.text)
    | none =>
      .error (.within (.note ("expanding " ++ Text.quoted pattern)) (.fault (.other "syntax error in pattern")))

end Distill.Workspace
