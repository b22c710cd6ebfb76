import Distill.Proofs.Build.Paths

/-!
What building a package sees of a tree and what it changes there. Two trees agree for a site if they have the same way
to it, the same output directory and the same sources; the same change in the output directory keeps them so
(`Agree.overlaid`).
-/
namespace Distill.Build

/-- Two trees that agree on what leads to a site, on its output directory and on the sources below it. -/
structure Agree (site : Location) (t u : FileTree) : Prop where
  above : ∀ k, k <+: site → t.get? k = u.get? k
  output : ∀ k, site ++ ["dist"] <+: k → t.get? k = u.get? k
  sources : ∀ r content, IsSource r →
    (t.get? (site ++ r) = some (.file content) ↔ u.get? (site ++ r) = some (.file content))

theorem Agree.refl (site : Location) (t : FileTree) : Agree site t t := ⟨fun _ _ => rfl, fun _ _ => rfl, fun _ _ _ => .rfl⟩

theorem Agree.symm {site : Location} {t u : FileTree} (agree : Agree site t u) : Agree site u t :=
  ⟨fun k above => (agree.above k above).symm, fun k below => (agree.output k below).symm,
    fun r content source => (agree.sources r content source).symm⟩

/-- The way to something in the output directory first leads to the site. -/
theorem above_or_below_output {site rest k : Location} (way : k <+: site ++ ["dist"] ++ rest) :
    k <+: site ∨ site ++ ["dist"] <+: k := by
  by_cases short : k.length ≤ site.length
  · left
    exact List.prefix_of_prefix_length_le way (by simp [List.append_assoc]) short
  · right
    refine List.prefix_of_prefix_length_le (List.prefix_append _ _) way ?_
    rw [List.length_append, List.length_singleton]
    omega

theorem Agree.way {site : Location} {t u : FileTree} (agree : Agree site t u) {rest : Location} :
    ∀ k, k <+: site ++ ["dist"] ++ rest → t.get? k = u.get? k := by
  intro k way
  rcases above_or_below_output way with above | below
  · exact agree.above k above
  · exact agree.output k below

/-- The entries at and below a location have become those of a table, where it has some; all else is as before. -/
structure Overlaid (t t' : FileTree) (out : Location) (table : Location → Option (Option Entry)) : Prop where
  linkFree : t'.LinkFree
  entries : ∀ k, t'.get? k = if out <+: k then (table k).getD (t.get? k) else t.get? k

theorem Overlaid.frame {t t' : FileTree} {out : Location} {table : Location → Option (Option Entry)}
    (overlaid : Overlaid t t' out table) {k : Location} (outside : ¬ out <+: k) : t'.get? k = t.get? k := by
  rw [overlaid.entries, if_neg outside]

theorem not_output_of_above {site k : Location} (above : k <+: site) : ¬ site ++ ["dist"] <+: k := by
  intro below
  have length := (below.trans above).length_le
  rw [List.length_append, List.length_singleton] at length
  omega

/-- The same change in the output directory keeps the agreement. -/
theorem Agree.overlaid {site : Location} {t t' u u' : FileTree} {table : Location → Option (Option Entry)}
    (agree : Agree site t u) (changeT : Overlaid t t' (site ++ ["dist"]) table)
    (changeU : Overlaid u u' (site ++ ["dist"]) table) : Agree site t' u' := by
  refine ⟨?_, ?_, ?_⟩
  · intro k above
    rw [changeT.frame (not_output_of_above above), changeU.frame (not_output_of_above above), agree.above k above]
  · intro k below
    rw [changeT.entries, changeU.entries, agree.output k below]
  · intro r content source
    rw [changeT.entries, changeU.entries]
    split
    · rename_i below
      rw [agree.output _ below]
    · exact agree.sources r content source

theorem overlaid_erase {t : FileTree} (free : t.LinkFree) {out : Location} (below : out ≠ []) :
    Overlaid t (t.erase out) out fun _ => some none := by
  refine ⟨free.erase out, ?_⟩
  intro k
  rw [FileTree.get?_erase t below]
  rfl

theorem overlaid_grown {site rest : Location} {t t' : FileTree} (directory : t.get? site = some .directory)
    (grown : Disk.Grown t t' (site ++ ["dist"] ++ rest)) :
    Overlaid t t' (site ++ ["dist"]) fun k =>
      if k <+: site ++ ["dist"] ++ rest then some (some .directory) else none := by
  refine ⟨grown.1, ?_⟩
  intro k
  rw [grown.2]
  by_cases way : k <+: site ++ ["dist"] ++ rest
  · rw [if_pos way, if_pos way]
    split
    · rfl
    · rename_i notBelow
      have above := (above_or_below_output way).resolve_right notBelow
      rw [FileTree.directory_above directory above]
  · rw [if_neg way, if_neg way]
    split <;> rfl

theorem overlaid_set {t : FileTree} (free : t.LinkFree) {out rest : Location} {content : Text.Bytes}
    (accepted : t.Accepts (out ++ rest) (.file content)) :
    Overlaid t (t.set (out ++ rest) (.file content)) out fun k =>
      if k = out ++ rest then some (some (.file content)) else none := by
  refine ⟨free.set _ (by simp), ?_⟩
  intro k
  rw [FileTree.get?_set accepted]
  by_cases here : k = out ++ rest
  · rw [if_pos here, if_pos here, if_pos (here ▸ List.prefix_append _ _)]
    rfl
  · rw [if_neg here, if_neg here]
    split <;> rfl

/-- A source that is to be built: a file below the site, outside the output directory. -/
structure Pending (t : FileTree) (site : Location) (s : String) : Prop where
  source : IsSource (Path.pieces s)
  outside : ¬ site ++ ["dist"] <+: site ++ Path.pieces s
  found : ∃ content, t.get? (site ++ Path.pieces s) = some (.file content)

section Pending

variable {t u : FileTree} {site : Location} {s : String}

theorem Pending.named (pending : Pending t site s) : ∀ n ∈ Path.pieces s, isName n = true := by
  obtain ⟨content, found⟩ := pending.found
  exact FileTree.isName_below found

theorem Pending.directory (pending : Pending t site s) : t.get? site = some .directory := by
  obtain ⟨content, found⟩ := pending.found
  exact FileTree.get?_above _ found (Path.pieces_ne_nil s)

theorem Pending.agree (pending : Pending t site s) (agree : Agree site t u) : Pending u site s := by
  obtain ⟨content, found⟩ := pending.found
  exact ⟨pending.source, pending.outside, content, (agree.sources _ content pending.source).1 found⟩

/-- What happens in the output directory leaves a source alone. -/
theorem Pending.frame (pending : Pending t site s)
    (frame : ∀ k, ¬ site ++ ["dist"] <+: k → u.get? k = t.get? k) : Pending u site s := by
  obtain ⟨content, found⟩ := pending.found
  exact ⟨pending.source, pending.outside, content, by rw [frame _ pending.outside, found]⟩

end Pending

end Distill.Build
