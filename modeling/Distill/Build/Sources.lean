import Distill.Glob
import Distill.Text.Sorted

/-!
The sources of a package: the files below its directory whose names end in `.ts`.
-/
namespace Distill.Build

def isSourceName (name : String) : Bool := [ '.', 't', 's' ].isSuffixOf name.toList

/-- The entries of a directory that are sources. Everything but a directory counts as a file. -/
def sourcesIn (b : Glob.Base) (here : Location) : List Location :=
  (((b.names? here).getD []).filter isSourceName).map (fun name => here ++ [name]) |>.filter
    fun there => !b.isDirectory there

/-- The sources below a directory as paths relative to it, in byte order. Without the directory there are none. -/
def sources (d : Disk) (dir : String) : List String :=
  let b : Glob.Base := ⟨d, dir⟩
  Text.sorted (((b.descend false b.depthLimit []).flatMap (sourcesIn b)).map Glob.text)

end Distill.Build
