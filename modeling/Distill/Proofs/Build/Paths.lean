import Distill.Build.Package
import Distill.Proofs.Build.Sources
import Distill.Proofs.Path.Extension

/-!
Where the paths of a package lead. The directory of a package has a location, its `site`; the output directory is
`dist` there, sources lie below the site and outputs below `dist`.
-/
namespace Distill

/-- The location of the directory of a package. Without any path it is the top: the output then goes to `/dist`. -/
def Package.site (cwd : String) (p : Package) : Location := if p.dir = "" then [] else Path.location cwd p.dir

namespace Build

/-- The directory of a package, if it has a path, and its output directory lead down through the same names. -/
structure Located (cwd : String) (p : Package) (base names : Location) : Prop where
  output : Path.Leads cwd p.outputDir base (names ++ ["dist"])
  dir : p.dir ≠ "" → Path.Leads cwd p.dir base names

theorem Located.of_dir {cwd : String} {p : Package} {base names : Location} (leads : Path.Leads cwd p.dir base names) :
    Located cwd p base names :=
  ⟨Package.leads_outputDir leads, fun _ => leads⟩

theorem Located.location_outputDir {cwd : String} {p : Package} {base names : Location}
    (located : Located cwd p base names) : Path.location cwd p.outputDir = base ++ names ++ ["dist"] := by
  rw [located.output.location_eq, List.append_assoc]

theorem exists_leads_dir {p : Package} (some : p.dir ≠ "") (cwd : String) :
    ∃ base names, Path.Leads cwd p.dir base names := by
  obtain ⟨path, -, dir, -⟩ := Package.exists_path (Package.dir_eq_empty_iff.not.1 some)
  rw [dir]
  exact Path.leads_clean cwd path

/-- Every package has a site. -/
theorem exists_located (cwd : String) (p : Package) :
    ∃ base names, Located cwd p base names ∧ p.site cwd = base ++ names := by
  by_cases none : p.dir = ""
  · refine ⟨[], [], ⟨?_, fun some => absurd none some⟩, by rw [Package.site, if_pos none]; rfl⟩
    rw [Package.outputDir_of_dir_eq_empty none]
    exact ⟨by decide, by decide, [""], by decide, by simp [IsDots],
      by simp [Path.startOf, Path.isAbsolute, Path.isRooted, Location.along]⟩
  · obtain ⟨base, names, leads⟩ := exists_leads_dir none cwd
    exact ⟨base, names, .of_dir leads, by rw [Package.site, if_neg none, leads.location_eq]⟩

/-- The location of the output of a source, below the output directory. -/
def outputOf (s : String) : Location := Path.pieces (Package.outputName s)

theorem outputOf_ne_nil (s : String) : outputOf s ≠ [] := Path.pieces_ne_nil _

private theorem isName_swap {stem : String} (name : isName (stem ++ ".ts") = true) : isName (stem ++ ".js") = true := by
  obtain ⟨-, whole⟩ := (isName_iff _).1 name
  rw [String.toList_append, List.mem_append, not_or] at whole
  refine (isName_iff _).2 ⟨?_, ?_⟩
  · have three : ".js".length = 3 := by decide
    exact not_isDots_of_length (by rw [String.length_append]; omega)
  · rw [String.toList_append, List.mem_append, not_or]
    exact ⟨whole.1, by decide⟩

/-- The output of a source has its names, but for the extension of the last one. -/
theorem outputOf_eq {s : String} {front : Location} {stem : String} (eq : Path.pieces s = front ++ [stem ++ ".ts"])
    (named : ∀ n ∈ Path.pieces s, isName n = true) :
    outputOf s = front ++ [stem ++ ".js"] ∧ ∀ n ∈ outputOf s, isName n = true := by
  rw [eq] at named
  have namedOut : ∀ n ∈ front ++ [stem ++ ".js"], isName n = true := by
    intro n member
    rcases List.mem_append.1 member with member | member
    · exact named n (List.mem_append_left _ member)
    · rw [List.mem_singleton.1 member]
      exact isName_swap (named _ (by simp))
  have out : outputOf s = front ++ [stem ++ ".js"] := by
    rw [outputOf, ← Path.ofPieces_pieces s, eq, Path.ofPieces_concat_append, Package.outputName_append,
      ← Path.ofPieces_concat_append, Path.pieces_ofPieces_names (by simp) namedOut]
  exact ⟨out, out ▸ namedOut⟩

theorem IsSource.exists_stem {r : Location} (source : IsSource r) : ∃ front stem, r = front ++ [stem ++ ".ts"] := by
  obtain ⟨front, n, rfl, ends⟩ := source
  obtain ⟨stem, rfl⟩ := (isSourceName_iff n).1 ends
  exact ⟨front, stem, rfl⟩

/-- Different sources have different outputs. -/
theorem outputOf_injective {r s : String} (sourceR : IsSource (Path.pieces r)) (sourceS : IsSource (Path.pieces s))
    (namedR : ∀ n ∈ Path.pieces r, isName n = true) (namedS : ∀ n ∈ Path.pieces s, isName n = true)
    (same : outputOf r = outputOf s) : r = s := by
  obtain ⟨frontR, stemR, eqR⟩ := sourceR.exists_stem
  obtain ⟨frontS, stemS, eqS⟩ := sourceS.exists_stem
  rw [(outputOf_eq eqR namedR).1, (outputOf_eq eqS namedS).1] at same
  obtain ⟨fronts, lasts⟩ := List.append_inj' same rfl
  rw [List.cons.injEq, String.append_left_inj] at lasts
  rw [← Path.ofPieces_pieces r, ← Path.ofPieces_pieces s, eqR, eqS, fronts, lasts.1]

variable {cwd : String} {p : Package} {base names : Location} {s : String}

theorem leads_sourcePath (leads : Path.Leads cwd p.dir base names) (named : ∀ n ∈ Path.pieces s, isName n = true) :
    Path.Leads cwd (sourcePath p s) base (names ++ Path.pieces s) := by
  have joined := leads.join (Path.pieces_ne_nil s) named
  rwa [Path.ofPieces_pieces] at joined

theorem leads_outputPath (located : Located cwd p base names) (source : IsSource (Path.pieces s))
    (named : ∀ n ∈ Path.pieces s, isName n = true) :
    Path.Leads cwd (outputPath p s) base (names ++ ["dist"] ++ outputOf s) := by
  obtain ⟨front, stem, eq⟩ := source.exists_stem
  have joined := located.output.join (outputOf_ne_nil s) (outputOf_eq eq named).2
  rwa [outputOf, Path.ofPieces_pieces] at joined

end Build

end Distill
