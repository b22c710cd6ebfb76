import Distill.Proofs.Build.Output

/-!
Building a package once more. What is built depends only on what can be seen from the package once its output directory
is gone, so a package that was built can be built again with the same result (`buildPackage_again`).
-/
namespace Distill.Build

section Lockstep

variable {site : Location} {w v : World}

/-- Actions that go in lockstep do so one after the other. -/
theorem Lockstep.andThen {α β γ δ : Type} {view : α → β} {view' : γ → δ} {a b : Action α} {f g : α → Action γ}
    (first : Lockstep view site w (a w) (b v))
    (next : ∀ x y w₁ v₁, a w = (.ok x, w₁) → view x = view y → SameView site w₁ v₁ → Framed site w w₁ →
      Lockstep view' site w₁ (f x w₁) (g y v₁)) :
    Lockstep view' site w (a.andThen f w) (b.andThen g v) := by
  obtain ⟨result, same, framed⟩ := first
  rw [Action.andThen, Action.andThen]
  rcases left : a w with ⟨e | x, w₁⟩ <;> rcases right : b v with ⟨e' | y, v₁⟩ <;>
    rw [left, right] at result same <;> rw [left] at framed
  · exact ⟨by simpa [Except.map] using result, same, framed⟩
  · simp [Except.map] at result
  · simp [Except.map] at result
  · have views : view x = view y := by simpa [Except.map] using result
    obtain ⟨resultNext, sameNext, framedNext⟩ := next x y w₁ v₁ left views same framed
    exact ⟨resultNext, sameNext, framed.trans framedNext⟩

end Lockstep

section Again

variable {c : ModuleCompiler} {p : Package} {base names : Location} {w v : World}

theorem compileFile_lockstep {s : String} (leads : Path.Leads w.disk.cwd p.dir base names)
    (same : SameView (base ++ names) w v) (pending : Pending w.disk.tree (base ++ names) s) :
    Lockstep Timing.file (base ++ names) w (compileFile c p s w) (compileFile c p s v) := by
  have located : Located w.disk.cwd p base names := .of_dir leads
  refine (prepare_lockstep located same pending).andThen fun watch watch' w₁ v₁ prepared files same₁ framed₁ => ?_
  obtain ⟨-, -, cwd₁, grown⟩ := prepare_eq_ok same.linkFree located pending prepared
  have pending₁ := pending.frame framed₁.entries
  have made : w₁.disk.tree.get? (base ++ names ++ ["dist"] ++ (outputOf s).dropLast) = some .directory := by
    rw [grown.2, if_pos List.prefix_rfl]
  refine (compileSource_lockstep c (cwd₁ ▸ leads) same₁ pending₁).andThen fun output output' w₂ v₂ compiled eq same₂ _ => ?_
  have disk₂ := (compileSource_eq_ok compiled).2
  rw [← disk₂] at pending₁ made cwd₁
  rw [show output = output' from eq]
  exact store_lockstep (cwd₁ ▸ located) same₂ pending₁ made files output'

theorem compileFiles_lockstep {todo : List String} (leads : Path.Leads w.disk.cwd p.dir base names)
    (same : SameView (base ++ names) w v) (pending : ∀ s ∈ todo, Pending w.disk.tree (base ++ names) s) :
    Lockstep (List.map Timing.file) (base ++ names) w (compileFiles c p todo w) (compileFiles c p todo v) := by
  induction todo generalizing w v with
  | nil => exact ⟨rfl, same, .refl _ _⟩
  | cons s todo ih =>
    refine (compileFile_lockstep leads same (pending s (by simp))).andThen
      fun timing timing' w₁ v₁ _ files same₁ framed₁ => ?_
    have pending₁ : ∀ r ∈ todo, Pending w₁.disk.tree (base ++ names) r :=
      fun r member => (pending r (by simp [member])).frame framed₁.entries
    refine (ih (framed₁.cwd ▸ leads) same₁ pending₁).andThen fun timings timings' w₂ v₂ _ filesRest same₂ _ => ?_
    exact ⟨by simp [Except.map, files, filesRest], same₂, .refl _ _⟩

theorem clean_of_site {d : Disk} (free : d.tree.LinkFree) (located : Located d.cwd p base names)
    (there : d.tree.get? (base ++ names) = some .directory)
    (notFile : ∀ content, d.tree.get? (base ++ names ++ ["dist"]) ≠ some (.file content)) :
    clean d p.outputDir = .ok { d with tree := d.tree.erase (base ++ names ++ ["dist"]) } := by
  have success : ∃ d', clean d p.outputDir = .ok d' := by
    rw [clean]
    cases found : d.tree.get? (base ++ names ++ ["dist"]) with
    | none =>
      rw [Disk.lookUp_of_none free located.output there found]
      exact ⟨_, rfl⟩
    | some e =>
      cases e with
      | directory =>
        rw [Disk.lookUp_of_get? free located.output (by rw [← List.append_assoc]; exact found)]
        exact ⟨_, rfl⟩
      | file content => exact absurd found (notFile content)
      | link target => exact absurd found (free _ _)
  obtain ⟨d', eq⟩ := success
  rw [eq, clean_eq_ok free located eq]

/-- Once the output directory is gone, what is built depends only on what can be seen from the package. -/
theorem compileListed_lockstep (leads : Path.Leads w.disk.cwd p.dir base names) (same : SameView (base ++ names) w v)
    (gone : w.disk.tree.get? (base ++ names ++ ["dist"]) = none) :
    Lockstep (List.map Timing.file) (base ++ names) w ((listSources p).andThen (compileFiles c p) w)
      ((listSources p).andThen (compileFiles c p) v) := by
  refine (listSources_lockstep (.of_dir leads) same).andThen fun found found' w₁ v₁ listed eq same₁ framed => ?_
  obtain ⟨rfl, disk⟩ := listSources_eq_ok listed
  have pending : ∀ s ∈ sources w.disk p.dir, Pending w₁.disk.tree (base ++ names) s := by
    intro s member
    obtain ⟨source, content, found⟩ := (mem_sources_iff same.linkFree leads s).1 member
    rw [← disk] at found gone
    refine ⟨source, fun below => ?_, content, found⟩
    rw [FileTree.missing_below gone below] at found
    cases found
  rw [← show sources w.disk p.dir = found' from eq]
  exact compileFiles_lockstep (framed.cwd ▸ leads) same₁ pending

/-- Building a package changes its output directory at most. -/
theorem buildPackage_framed {w' : World} {timings : List Timing} (free : w.disk.tree.LinkFree)
    (leads : Path.Leads w.disk.cwd p.dir base names) (success : buildPackage c p w = (.ok timings, w')) :
    Framed (base ++ names) w w' := by
  obtain ⟨_, w₁, removed, built⟩ := Action.andThen_eq_ok success
  have change := (removeOutput_lockstep (.of_dir leads) (.refl free)).framed
  rw [removed] at change
  have gone : w₁.disk.tree.get? (base ++ names ++ ["dist"]) = none := by
    rw [removeOutput_eq_ok free (.of_dir leads) removed]
    simpa using get?_erase_below w.disk.tree (show base ++ names ++ ["dist"] ≠ [] by simp) []
  have free₁ : w₁.disk.tree.LinkFree := by
    rw [removeOutput_eq_ok free (.of_dir leads) removed]
    exact free.erase _
  have rest := (compileListed_lockstep (c := c) (change.cwd ▸ leads) (.refl free₁) gone).framed
  rw [built] at rest
  exact change.trans rest

/-- A package that was built can be built in any world from which its sources look the same, with the same result. -/
theorem buildPackage_again {w' : World} {timings : List Timing} (free : w.disk.tree.LinkFree)
    (leads : Path.Leads w.disk.cwd p.dir base names) (success : buildPackage c p w = (.ok timings, w'))
    (running : w'.canceled = false) (cwd : v.disk.cwd = w.disk.cwd) (runningV : v.canceled = false)
    (freeV : v.disk.tree.LinkFree) (there : v.disk.tree.get? (base ++ names) = some .directory)
    (notFile : ∀ content, v.disk.tree.get? (base ++ names ++ ["dist"]) ≠ some (.file content))
    (agree : Agree (base ++ names) (v.disk.tree.erase (base ++ names ++ ["dist"]))
      (w.disk.tree.erase (base ++ names ++ ["dist"]))) :
    ∃ timings' v', buildPackage c p v = (.ok timings', v') ∧ timings'.map Timing.file = timings.map Timing.file ∧
      v'.canceled = false ∧ v'.disk.cwd = v.disk.cwd ∧
      ∀ k, v'.disk.tree.get? k = if base ++ names ++ ["dist"] <+: k then w'.disk.tree.get? k else v.disk.tree.get? k := by
  have leadsV : Path.Leads v.disk.cwd p.dir base names := cwd ▸ leads
  have below : base ++ names ++ ["dist"] ≠ [] := by simp
  obtain ⟨_, w₁, removed, built⟩ := Action.andThen_eq_ok success
  have removed := removeOutput_eq_ok free (.of_dir leads) removed
  have disk₁ : w₁.disk = ⟨w.disk.tree.erase (base ++ names ++ ["dist"]), w.disk.cwd⟩ := by rw [removed]
  have free₁ : w₁.disk.tree.LinkFree := by rw [removed]; exact free.erase _
  obtain ⟨v₁, removedV, diskV, canceledV⟩ : ∃ v₁, removeOutput p v = (.ok (), v₁) ∧
      v₁.disk = ⟨v.disk.tree.erase (base ++ names ++ ["dist"]), v.disk.cwd⟩ ∧ v₁.canceled = v.canceled :=
    ⟨{ v with disk := ⟨v.disk.tree.erase (base ++ names ++ ["dist"]), v.disk.cwd⟩ },
      by rw [removeOutput, clean_of_site freeV (.of_dir leadsV) there notFile], rfl, rfl⟩
  have running₁ : w₁.canceled = false := by
    rw [removed]
    exact (buildPackage_framed free leads success).canceled running
  have same : SameView (base ++ names) v₁ w₁ := by
    refine ⟨?_, by rw [canceledV, runningV, running₁], ?_, free₁, ?_⟩
    · rw [diskV, disk₁]
      exact cwd
    · rw [diskV]
      exact freeV.erase _
    · rw [diskV, disk₁]
      exact agree
  have gone : v₁.disk.tree.get? (base ++ names ++ ["dist"]) = none := by
    rw [diskV]
    simpa using get?_erase_below v.disk.tree below []
  have lockstep := compileListed_lockstep (c := c) (by rw [diskV]; exact leadsV) same gone
  rw [built] at lockstep
  rcases builtV : (listSources p).andThen (compileFiles c p) v₁ with ⟨f | timings', v'⟩
  · rw [builtV] at lockstep
    have result := lockstep.result
    simp [Except.map] at result
  · rw [builtV] at lockstep
    obtain ⟨result, sameEnd, framed⟩ := lockstep
    refine ⟨timings', v', ?_, by simpa [Except.map] using result, sameEnd.canceled.trans running, ?_, ?_⟩
    · rw [buildPackage, Action.andThen, removedV]
      exact builtV
    · rw [framed.cwd, diskV]
    · intro k
      split
      · rename_i inside
        exact sameEnd.agree.output k inside
      · rename_i outside
        rw [framed.entries k outside, diskV, FileTree.get?_erase _ below, if_neg outside]

/-- A package without sources and without output leaves everything as it is. -/
theorem buildPackage_nothing (free : v.disk.tree.LinkFree) (leads : Path.Leads v.disk.cwd p.dir base names)
    (there : v.disk.tree.get? (base ++ names) = some .directory)
    (gone : v.disk.tree.get? (base ++ names ++ ["dist"]) = none) (none : sources v.disk p.dir = []) :
    ∃ v', buildPackage c p v = (.ok [], v') ∧ v'.disk = v.disk ∧ v'.canceled = v.canceled := by
  have cleaned : clean v.disk p.outputDir = .ok v.disk := by
    rw [clean_of_site free (.of_dir leads) there (by rw [gone]; simp), FileTree.erase_eq_self gone]
  refine ⟨(listSources p v).2, ?_, rfl, rfl⟩
  have removed : removeOutput p v = (.ok (), v) := by rw [removeOutput, cleaned]
  rw [buildPackage, Action.andThen, removed]
  dsimp only
  rw [Action.andThen, listSources, none]
  rfl

end Again

end Distill.Build
