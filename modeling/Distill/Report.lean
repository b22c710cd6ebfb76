import Distill.Json
import Distill.Package
import Distill.Timing

/-!
The report of a finished run, for people and as JSON. Both show the same times.
-/
namespace Distill

/-- One compiled package with the times of its files. -/
structure PackageTimings where
  package : Package
  timings : List Timing
deriving DecidableEq, Repr

structure Report where
  /-- From the start to the end of the run. -/
  wall : Duration
  /-- Over all files. -/
  total : Total
  packages : List PackageTimings
deriving DecidableEq, Repr

namespace Report

def text (r : Report) : String :=
  "total    : " ++ r.wall.seconds ++ " seconds\n\n" ++
  "compiled : " ++ toString r.total.files ++ " files\n" ++
  "elapsed  : " ++ r.total.elapsed.seconds ++ " seconds\n"

def json (r : Report) : Json :=
  .obj [
    ("wall_elapsed_ms", .int r.wall.milliseconds),
    ("files", .int r.total.files),
    ("elapsed_ms", .int r.total.elapsed.milliseconds),
    ("packages", .arr (r.packages.map fun p =>
      .obj [("root", .str p.package.packageRoot), ("files", .int p.timings.length)]))]

end Report

end Distill
