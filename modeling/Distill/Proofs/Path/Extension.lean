import Distill.Package
import Distill.Proofs.Path.Leads

/-!
Normalised paths with something added: a further path (`clean_clean_append`), or an extension of the last name
(`clean_append_extension`). The output directory of a package is `dist` in its directory, and the output name of a
source swaps its extension and nothing else.
-/
namespace Distill

namespace Path

private theorem clean_congr {p q : String} (rooted : isRooted p.toList = isRooted q.toList)
    (same : normalSegments (isRooted q.toList) (splitSlash p.toList) =
      normalSegments (isRooted q.toList) (splitSlash q.toList)) : clean p = clean q := by
  rw [clean, clean, cleanChars, cleanChars, rooted, same]

theorem clean_ne_empty (path : String) : clean path ≠ "" :=
  fun empty => cleanChars_ne_nil path.toList (by simpa [clean] using empty)

/-- The first part of a path may be normalised beforehand. -/
theorem clean_clean_append {x : String} (some : x ≠ "") (y : String) :
    clean (clean x ++ "/" ++ y) = clean (x ++ "/" ++ y) := by
  have rootedX : isRooted (x ++ "/" ++ y).toList = isRooted x.toList := by
    rw [String.append_assoc]
    exact isAbsolute_append some ("/" ++ y)
  have rootedClean : isRooted (clean x ++ "/" ++ y).toList = isRooted x.toList := by
    rw [String.append_assoc]
    refine (isAbsolute_append (clean_ne_empty x) ("/" ++ y)).trans ?_
    rw [isAbsolute, clean, String.toList_ofList, isRooted_cleanChars]
  have splitX : splitSlash (x ++ "/" ++ y).toList = splitSlash x.toList ++ splitSlash y.toList := by
    simp [splitSlash_append]
  have splitClean : splitSlash (clean x ++ "/" ++ y).toList = splitSlash (cleanChars x.toList) ++ splitSlash y.toList := by
    simp [splitSlash_append, clean]
  refine clean_congr (rootedClean.trans rootedX.symm) ?_
  rw [rootedX, splitX, splitClean, splitSlash_cleanChars,
    ← normalSegments_normal_append _ (splitSlash x.toList)]
  generalize normalSegments (isRooted x.toList) (splitSlash x.toList) = segs
  dsimp only
  split
  · split
    · rename_i none
      rw [none]
      exact normalSegments_stays_append _ (by simp) _
    · exact normalSegments_stays_append _ (show ∀ s ∈ [[]], s = [] ∨ s = ['.'] by simp) _
  · split
    · rename_i none
      rw [none]
      exact normalSegments_stays_append _ (by simp) _
    · rfl

theorem ofPieces_concat_append (front : List String) (last ext : String) :
    ofPieces (front ++ [last ++ ext]) = ofPieces (front ++ [last]) ++ ext := by
  apply String.toList_inj.1
  by_cases none : front = []
  · simp [ofPieces, none, joinSlash]
  · have some : front.map String.toList ≠ [] := by simpa using none
    simp [ofPieces, joinSlash_append some, joinSlash]

theorem pieces_append_extension {path : String} {front : List String} {last : String}
    (eq : pieces path = front ++ [last]) {ext : String} (whole : '/' ∉ ext.toList) :
    pieces (path ++ ext) = front ++ [last ++ ext] := by
  have wholeAll : ∀ s ∈ front ++ [last ++ ext], '/' ∉ s.toList := by
    intro s member
    rcases List.mem_append.1 member with member | member
    · exact slash_not_mem_of_mem_pieces (p := path) (eq ▸ List.mem_append_left _ member)
    · rw [List.mem_singleton.1 member, String.toList_append, List.mem_append, not_or]
      exact ⟨slash_not_mem_of_mem_pieces (p := path) (eq ▸ by simp), whole⟩
  have some : front ++ [last ++ ext] ≠ [] := by simp
  rw [← pieces_ofPieces some wholeAll, ofPieces_concat_append, ← eq, ofPieces_pieces]

/-- An extension of a last name stays where it is when the path is normalised. -/
theorem clean_append_extension {path : String} {front : List String} {last : String}
    (eq : pieces path = front ++ [last]) (name : ¬ IsDots last) {ext : String} (whole : '/' ∉ ext.toList)
    (nameExt : ¬ IsDots (last ++ ext)) : clean (path ++ ext) = clean path ++ ext := by
  have some : path ≠ "" := by
    intro empty
    have single : pieces "" = [""] := by decide
    rw [empty, single] at eq
    have lasts := congrArg List.getLast? eq
    rw [List.getLast?_concat, List.getLast?_singleton, Option.some.injEq] at lasts
    exact name (Or.inl lasts.symm)
  have segments {p : String} {l : String} (split : pieces p = front ++ [l]) (nameL : ¬ IsDots l)
      (rooted : Bool) : normalSegments rooted (splitSlash p.toList) =
        normalSegments rooted (front.map String.toList) ++ [l.toList] := by
    have split : splitSlash p.toList = front.map String.toList ++ [l.toList] ++ [] := by
      have mapped := congrArg (List.map String.toList) split
      simpa [pieces, Function.comp_def] using mapped
    rw [split, normalSegments_append rooted _ (by simpa using nameL) (by simp)]
  have rooted : isRooted (path ++ ext).toList = isRooted path.toList := isAbsolute_append some ext
  have join (kept : List (List Char)) : joinSlash (kept ++ [(last ++ ext).toList]) =
      joinSlash (kept ++ [last.toList]) ++ ext.toList := by
    have text := String.toList_inj.2 (ofPieces_concat_append (kept.map String.ofList) last ext)
    simpa [ofPieces, Function.comp_def] using text
  apply String.toList_inj.1
  rw [String.toList_append, clean, clean, String.toList_ofList, String.toList_ofList, cleanChars, cleanChars, rooted,
    segments eq name, segments (pieces_append_extension eq whole) nameExt]
  split
  · rw [join, List.cons_append]
  · rw [if_neg (by simp), if_neg (by simp), join]

private theorem upToLastSlash_append_afterLastSlash (p : List Char) : upToLastSlash p ++ afterLastSlash p = p := by
  rw [upToLastSlash, afterLastSlash, ← List.reverse_append, List.takeWhile_append_dropWhile, List.reverse_reverse]

theorem upToLastSlash_append_extension (x : List Char) {ext : List Char} (whole : '/' ∉ ext) :
    upToLastSlash (x ++ ext) = upToLastSlash x := by
  have all : ∀ c ∈ ext.reverse, (c != '/') = true := by
    intro c member
    simpa using fun eq : c = '/' => whole (eq ▸ List.mem_reverse.1 member)
  rw [upToLastSlash, List.reverse_append, List.dropWhile_append_of_pos all, upToLastSlash]

private theorem afterLastSlash_append_extension (x : List Char) {ext : List Char} (whole : '/' ∉ ext) :
    afterLastSlash (x ++ ext) = afterLastSlash x ++ ext := by
  have all : ∀ c ∈ ext.reverse, (c != '/') = true := by
    intro c member
    simpa using fun eq : c = '/' => whole (eq ▸ List.mem_reverse.1 member)
  rw [afterLastSlash, List.reverse_append, List.takeWhile_append_of_pos all, List.reverse_append, List.reverse_reverse,
    afterLastSlash]

/-- A text with an extension at its end is split there. -/
theorem splitExtension_append (x : List Char) {ext : List Char} (whole : '/' ∉ ext) (single : '.' ∉ ext) :
    splitExtension (x ++ '.' :: ext) = (x, '.' :: ext) := by
  have wholeDot : '/' ∉ '.' :: ext := by simp [whole]
  have all : ∀ c ∈ ext.reverse, (c != '.') = true := by
    intro c member
    simpa using fun eq : c = '.' => single (eq ▸ List.mem_reverse.1 member)
  have name : (afterLastSlash (x ++ '.' :: ext)).reverse = ext.reverse ++ '.' :: (afterLastSlash x).reverse := by
    rw [afterLastSlash_append_extension x wholeDot]
    simp
  rw [splitExtension, name, List.dropWhile_append_of_pos all, List.takeWhile_append_of_pos all,
    upToLastSlash_append_extension x wholeDot]
  simp [upToLastSlash_append_afterLastSlash]

end Path

namespace Package

/-- The directory of a package and its output directory are normalised from one path, unless the package has none. -/
theorem exists_path {p : Package} (some : ¬ (p.workspaceRoot = "" ∧ p.packageRoot = "")) :
    ∃ path, path ≠ "" ∧ p.dir = Path.clean path ∧ p.outputDir = Path.clean (path ++ "/" ++ "dist") := by
  by_cases noRoot : p.workspaceRoot = ""
  · have somePackage : p.packageRoot ≠ "" := fun empty => some ⟨noRoot, empty⟩
    refine ⟨p.packageRoot, somePackage, ?_, ?_⟩
    · rw [dir, noRoot, Path.join, if_pos rfl, Path.join, if_neg somePackage, Path.clean]
      rfl
    · rw [outputDir, noRoot, Path.join, if_pos rfl, Path.join, if_neg (by simp [outputRoot]), Path.clean, outputRoot,
        String.append_assoc]
      rfl
  · refine ⟨p.workspaceRoot ++ "/" ++ p.packageRoot, by simp, Path.join_eq_clean noRoot _, ?_⟩
    rw [outputDir, Path.join_eq_clean noRoot, outputRoot]
    congr 1
    simp [String.append_assoc]

theorem dir_eq_empty_iff {p : Package} : p.dir = "" ↔ p.workspaceRoot = "" ∧ p.packageRoot = "" := by
  constructor
  · intro none
    by_contra some
    obtain ⟨path, -, dir, -⟩ := exists_path some
    exact Path.clean_ne_empty path (dir ▸ none)
  · rintro ⟨noRoot, noPackage⟩
    rw [dir, noRoot, noPackage]
    rfl

/-- The slash before `dist` is all that is left of a package without a path. -/
theorem outputDir_of_dir_eq_empty {p : Package} (none : p.dir = "") : p.outputDir = "/dist" := by
  obtain ⟨noRoot, noPackage⟩ := dir_eq_empty_iff.1 none
  rw [outputDir, outputRoot, noRoot, noPackage]
  decide

/-- The output directory of a package is `dist` in its directory. -/
theorem outputDir_eq_join {p : Package} (some : p.dir ≠ "") : p.outputDir = Path.join [p.dir, "dist"] := by
  obtain ⟨path, nonempty, dir, out⟩ := exists_path (dir_eq_empty_iff.not.1 some)
  rw [Path.join_eq_clean some, out, dir, Path.clean_clean_append nonempty]

/-- However its root and its own path are spelt, the output directory of a package is `dist` in its directory. Only a
package without a path has no directory, and then the output directory is at the top. -/
theorem outputDir_spelt (root package : String) :
    (¬ (root = "" ∧ package = "") →
      (Package.mk root package).outputDir = Path.join [(Package.mk root package).dir, "dist"]) ∧
    (Package.mk "" "").outputDir = "/dist" ∧ (Package.mk "" "").dir = "" := by
  have none : (Package.mk "" "").dir = "" := dir_eq_empty_iff.2 ⟨rfl, rfl⟩
  refine ⟨fun some => ?_, outputDir_of_dir_eq_empty none, none⟩
  exact outputDir_eq_join (dir_eq_empty_iff.not.2 some)

theorem outputDir_spelt_upward :
    ¬ ("a//.." = "" ∧ "./../b/.." = "") ∧ (Package.mk "a//.." "./../b/..").dir = ".." ∧
    (Package.mk "a//.." "./../b/..").outputDir = "../dist" ∧
    (Package.mk "a//.." "./../b/..").outputDir = Path.join [(Package.mk "a//.." "./../b/..").dir, "dist"] :=
  ⟨by decide, by decide, by decide, (outputDir_spelt "a//.." "./../b/..").1 (by decide)⟩

theorem leads_outputDir {p : Package} {cwd : String} {base names : Location}
    (leads : Path.Leads cwd p.dir base names) : Path.Leads cwd p.outputDir base (names ++ ["dist"]) := by
  rw [outputDir_eq_join leads.nonempty]
  have joined : Path.Leads cwd (Path.join [p.dir, Path.ofPieces ["dist"]]) base (names ++ ["dist"]) :=
    leads.join (by simp) (by decide)
  exact joined

/-- A source keeps its name but for the extension. -/
theorem outputName_append (stem : String) : outputName (stem ++ ".ts") = stem ++ ".js" := by
  rw [outputName, Path.withExtension, String.toList_append]
  have split := Path.splitExtension_append stem.toList (show '/' ∉ ['t', 's'] by decide) (by decide)
  have ts : ".ts".toList = ['.', 't', 's'] := by decide
  rw [ts, split, String.ofList_toList]

end Package

end Distill
