import Distill.Path

/-!
A package: a directory below the workspace root, with its output directory `dist`.
-/
namespace Distill

structure Package where
  /-- The workspace root, absolute or relative to the working directory. -/
  workspaceRoot : String
  /-- The package directory relative to the workspace root. -/
  packageRoot : String
deriving DecidableEq, Repr

namespace Package

def dir (p : Package) : String := Path.join [p.workspaceRoot, p.packageRoot]

/-- The output directory relative to the workspace root. -/
def outputRoot (p : Package) : String := p.packageRoot ++ "/dist"

def outputDir (p : Package) : String := Path.join [p.workspaceRoot, p.outputRoot]

/-- Where the output of a source goes, relative to the output directory. -/
def outputName (source : String) : String := Path.withExtension source ".js"

end Package

end Distill
