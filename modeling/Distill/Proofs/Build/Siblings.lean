import Distill.Proofs.Build.Output
import Distill.Proofs.Specifier

/-!
Emitted files import their emitted siblings: the specifier that is written into an output leads from it to the output of
the source that was meant. Adding `.js` to a specifier and swapping the extension of a source commute with normalising.
-/
namespace Distill

namespace Build

theorem parent_outputName {r : String} (source : IsSource (Path.pieces r)) :
    Path.parent (Package.outputName r) = Path.parent r := by
  obtain ⟨front, stem, eq⟩ := source.exists_stem
  have text : r = Path.ofPieces (front ++ [stem]) ++ ".ts" := by
    rw [← Path.ofPieces_concat_append, ← eq, Path.ofPieces_pieces]
  rw [text, Package.outputName_append, Path.parent, Path.parent, String.toList_append, String.toList_append,
    Path.upToLastSlash_append_extension _ (by decide), Path.upToLastSlash_append_extension _ (by decide)]

/-- Adding `.js` to the way from one source to another leads to the output of the other. -/
theorem clean_explicit {r t : String} (source : IsSource (Path.pieces r))
    (named : ∀ n ∈ (Path.pieces t).getLast?, ¬ IsDots n) :
    Path.clean (Path.parent (Package.outputName r) ++ "/" ++ (t ++ ".js")) =
      Package.outputName (Path.clean (Path.parent r ++ "/" ++ t) ++ ".ts") := by
  obtain ⟨front, last, split⟩ : ∃ front last, Path.pieces t = front ++ [last] :=
    ⟨_, _, (List.dropLast_concat_getLast (Path.pieces_ne_nil t)).symm⟩
  have name : ¬ IsDots last := named last (by rw [split, List.getLast?_concat]; rfl)
  have pieces : Path.pieces (Path.parent r ++ "/" ++ t) = Path.pieces (Path.parent r) ++ front ++ [last] := by
    rw [Path.pieces_append, split, List.append_assoc]
  have nameJs : ¬ IsDots (last ++ ".js") := by
    have three : ".js".length = 3 := by decide
    exact not_isDots_of_length (by rw [String.length_append]; omega)
  rw [parent_outputName source, Package.outputName_append, ← String.append_assoc,
    Path.clean_append_extension pieces name (by decide) nameJs]

variable {c : ModuleCompiler} {p : Package} {w w' : World} {timings : List Timing} {d₀ : Disk}

/-- Every source that was listed has its output when the package is built. -/
theorem contents_outputPath (free : w.disk.tree.LinkFree) (success : buildPackage c p w = (.ok timings, w'))
    (cleaned : clean w.disk p.outputDir = .ok d₀) {s : String} (member : s ∈ sources d₀ p.dir) :
    ∃ content, w'.disk.contents (outputPath p s) = .ok content := by
  have some : p.dir ≠ "" := by
    intro empty
    rw [empty, sources_empty] at member
    cases member
  obtain ⟨base, names, leads⟩ := exists_leads_dir some w.disk.cwd
  obtain ⟨cwd, made, all, -, -, layout⟩ := buildPackage_layout free leads success
  rw [clean_eq_ok free (.of_dir leads) cleaned] at member
  have pending := pending_of_mem_sources free leads member
  obtain ⟨x, inMade, rfl⟩ := List.mem_map.1 (all ▸ member)
  have leadsOut := leads_outputPath (.of_dir leads) pending.source pending.named
  refine ⟨x.2, Disk.contents_of_get? layout.linkFree (cwd ▸ leadsOut) ?_⟩
  simpa only [List.append_assoc] using layout.files x inMade

/-- From the output of a source, the specifier that is written for another source leads to the output of that one. -/
theorem buildPackage_siblings (free : w.disk.tree.LinkFree) (success : buildPackage c p w = (.ok timings, w'))
    (cleaned : clean w.disk p.outputDir = .ok d₀) {r : String} (member : r ∈ sources d₀ p.dir) :
    (∀ s : String, ['.'] <+: s.toList → ¬ ['.', 't', 's'] <:+ s.toList → ¬ ['.', 'j', 's'] <:+ s.toList →
      (∀ n ∈ (Path.pieces s).getLast?, ¬ IsDots n) →
      Path.clean (Path.parent r ++ "/" ++ s) ++ ".ts" ∈ sources d₀ p.dir →
        let target := Package.outputName (Path.clean (Path.parent r ++ "/" ++ s) ++ ".ts")
        Path.clean (Path.parent (Package.outputName r) ++ "/" ++ Specifier.explicit s) = target ∧
          ∃ content, w'.disk.contents (Path.join [p.outputDir, target]) = .ok content) ∧
    (∀ t : String, ['.'] <+: (t ++ ".js").toList → (∀ n ∈ (Path.pieces t).getLast?, ¬ IsDots n) →
      Path.clean (Path.parent r ++ "/" ++ t) ++ ".ts" ∈ sources d₀ p.dir →
        let target := Package.outputName (Path.clean (Path.parent r ++ "/" ++ t) ++ ".ts")
        Specifier.explicit (t ++ ".js") = t ++ ".js" ∧
          Path.clean (Path.parent (Package.outputName r) ++ "/" ++ Specifier.explicit (t ++ ".js")) = target ∧
          ∃ content, w'.disk.contents (Path.join [p.outputDir, target]) = .ok content) := by
  have source : IsSource (Path.pieces r) := by
    have some : p.dir ≠ "" := by
      intro empty
      rw [empty, sources_empty] at member
      cases member
    obtain ⟨base, names, leads⟩ := exists_leads_dir some w.disk.cwd
    rw [clean_eq_ok free (.of_dir leads) cleaned] at member
    exact (pending_of_mem_sources free leads member).source
  refine ⟨?_, ?_⟩
  · intro s relative notTs notJs named listed
    rw [Specifier.explicit_of_bare relative notTs notJs]
    exact ⟨clean_explicit source named, contents_outputPath free success cleaned listed⟩
  · intro t _ named listed
    rw [Specifier.explicit_of_js]
    exact ⟨rfl, clean_explicit source named, contents_outputPath free success cleaned listed⟩

theorem buildPackage_siblings_sample :
    ∃ timings w' d₀, buildPackage Sample.compiler ⟨"/", "a"⟩ Sample.world = (.ok timings, w') ∧
      clean Sample.world.disk (Package.mk "/" "a").outputDir = .ok d₀ ∧
      "sub.ts/y.d.ts" ∈ sources d₀ (Package.mk "/" "a").dir ∧
      Path.clean (Path.parent (Package.outputName "sub.ts/y.d.ts") ++ "/" ++ Specifier.explicit "./../x") =
        Package.outputName (Path.clean (Path.parent "sub.ts/y.d.ts" ++ "/" ++ "./../x") ++ ".ts") ∧
      Path.clean (Path.parent (Package.outputName "sub.ts/y.d.ts") ++ "/" ++ Specifier.explicit ("./y.d" ++ ".js")) =
        Package.outputName (Path.clean (Path.parent "sub.ts/y.d.ts" ++ "/" ++ "./y.d") ++ ".ts") := by
  have free : Sample.tree.LinkFree := by decide +kernel
  have success : (buildPackage Sample.compiler ⟨"/", "a"⟩ Sample.world).1 =
      .ok [⟨"/a/.ts", 1⟩, ⟨"/a/sub.ts/y.d.ts", 1⟩, ⟨"/a/x.ts", 1⟩] := by decide +kernel
  have listed : (clean Sample.world.disk (Package.mk "/" "a").outputDir).toOption.map
      (fun d => sources d (Package.mk "/" "a").dir) = some [".ts", "sub.ts/y.d.ts", "x.ts"] := by decide +kernel
  rcases built : buildPackage Sample.compiler ⟨"/", "a"⟩ Sample.world with ⟨result, w'⟩
  rw [built] at success
  dsimp only at success
  subst success
  rcases cleaned : clean Sample.world.disk (Package.mk "/" "a").outputDir with f | d₀
  · rw [cleaned] at listed
    cases listed
  · rw [cleaned] at listed
    have sources : sources d₀ (Package.mk "/" "a").dir = [".ts", "sub.ts/y.d.ts", "x.ts"] := Option.some.inj listed
    have member : "sub.ts/y.d.ts" ∈ Build.sources d₀ (Package.mk "/" "a").dir := by rw [sources]; decide
    obtain ⟨bare, extended⟩ := buildPackage_siblings free built cleaned member
    have targetX : Path.clean (Path.parent "sub.ts/y.d.ts" ++ "/" ++ "./../x") ++ ".ts" = "x.ts" := by decide +kernel
    have targetY : Path.clean (Path.parent "sub.ts/y.d.ts" ++ "/" ++ "./y.d") ++ ".ts" = "sub.ts/y.d.ts" := by
      decide +kernel
    refine ⟨_, w', d₀, rfl, rfl, member, (bare "./../x" (by decide) (by decide) (by decide) ?_ ?_).1,
      (extended "./y.d" (by decide) ?_ ?_).2.1⟩
    · simp [show Path.pieces "./../x" = [".", "..", "x"] by decide, IsDots]
    · rw [targetX, sources]
      decide
    · simp [show Path.pieces "./y.d" = [".", "y.d"] by decide, IsDots]
    · rw [targetY]
      exact member

end Build

end Distill
