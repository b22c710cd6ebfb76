import Distill.Proofs.Build.Interrupted

/-!
Old output. A build reads neither the log nor the time of day (`compileFiles_alike`), and it removes the output directory
before it looks for sources. So what was there makes no difference (`SameOutside.build`), and building a package
once more gives the same result, also after a failure.
-/
namespace Distill.Build

/-- Two worlds that differ only in what a build does not depend on: the time, the log and the records handed in. -/
structure Alike (w v : World) : Prop where
  disk : v.disk = w.disk
  canceled : v.canceled = w.canceled
  step : v.clock.step = w.clock.step

section Alike

variable {c : ModuleCompiler} {p : Package} {s : String} {w v : World}

theorem between_add (now : Instant) (step : Int) : Duration.between now (now + step) = Duration.between 0 step := by
  rw [Duration.between, Duration.between, Int.add_comm now, Int.add_sub_cancel, Int.sub_zero]

/-- A source takes one step of the clock, whatever the time is. -/
theorem compileFile_alike (alike : Alike w v) :
    (compileFile c p s v).1 = (compileFile c p s w).1 ∧ Alike (compileFile c p s w).2 (compileFile c p s v).2 := by
  obtain ⟨disk, ⟨now, step⟩, wall, canceled, log, collector⟩ := w
  obtain ⟨disk', ⟨now', step'⟩, wall', canceled', log', collector'⟩ := v
  obtain ⟨rfl, rfl, rfl⟩ := alike
  rw [compileFile, Action.andThen, Action.andThen]
  cases canceled' with
  | true => exact ⟨rfl, rfl, rfl, rfl⟩
  | false =>
    cases made : disk'.makeDirectories (Path.parent (outputPath p s)) with
    | error g =>
      simp only [prepare, made]
      exact ⟨rfl, rfl, rfl, rfl⟩
    | ok d =>
      simp only [prepare, made, Bool.false_eq_true, if_false, Action.andThen, compileSource]
      cases c.compile (sourcePath p s) (d.contents (sourcePath p s)) with
      | error f =>
        by_cases passed : (f.isMalformed || f.isCanceled) = true
        · simp only [if_pos passed]
          exact ⟨trivial, rfl, rfl, rfl⟩
        · simp only [if_neg passed]
          exact ⟨trivial, rfl, rfl, rfl⟩
      | ok output =>
        simp only [store]
        cases d.writeFile (outputPath p s) output with
        | error g => exact ⟨rfl, rfl, rfl, rfl⟩
        | ok d' =>
          refine ⟨?_, rfl, rfl, rfl⟩
          simp only [Stopwatch.start, Stopwatch.stop, Clock.read, between_add]

theorem andThen_alike {α β : Type} {a : Action α} {next : α → Action β}
    (first : (a v).1 = (a w).1 ∧ Alike (a w).2 (a v).2)
    (rest : ∀ x w₁ v₁, Alike w₁ v₁ → (next x v₁).1 = (next x w₁).1 ∧ Alike (next x w₁).2 (next x v₁).2) :
    (a.andThen next v).1 = (a.andThen next w).1 ∧ Alike (a.andThen next w).2 (a.andThen next v).2 := by
  rw [Action.andThen, Action.andThen]
  rcases resultW : a w with ⟨f | x, w₁⟩ <;> rcases resultV : a v with ⟨g | y, v₁⟩ <;> rw [resultW, resultV] at first
  · exact ⟨by simpa using first.1, first.2⟩
  · simp at first
  · simp at first
  · obtain rfl : y = x := by simpa using first.1
    exact rest y w₁ v₁ first.2

theorem compileFiles_alike {todo : List String} (alike : Alike w v) :
    (compileFiles c p todo v).1 = (compileFiles c p todo w).1 ∧
      Alike (compileFiles c p todo w).2 (compileFiles c p todo v).2 := by
  induction todo generalizing w v with
  | nil => exact ⟨rfl, alike⟩
  | cons s todo ih =>
    refine andThen_alike (compileFile_alike alike) fun timing w₁ v₁ alike₁ => ?_
    exact andThen_alike (ih alike₁) fun timings w₂ v₂ alike₂ => ⟨rfl, alike₂⟩

theorem buildPackage_alike (c : ModuleCompiler) (p : Package) (alike : Alike w v) :
    (buildPackage c p v).1 = (buildPackage c p w).1 ∧ Alike (buildPackage c p w).2 (buildPackage c p v).2 := by
  refine andThen_alike ?_ fun _ w₁ v₁ alike₁ => andThen_alike ?_ fun found w₂ v₂ alike₂ => compileFiles_alike alike₂
  · rw [removeOutput, removeOutput, alike.disk]
    split
    · exact ⟨rfl, rfl, alike.canceled, alike.step⟩
    · exact ⟨rfl, alike⟩
  · rw [listSources, listSources, alike₁.disk]
    exact ⟨rfl, alike₁.disk, alike₁.canceled, alike₁.step⟩

end Alike

section Stale

variable {c : ModuleCompiler} {p : Package} {base names : Location} {w v : World}

/-- Two worlds that differ at most in the output of a package, which is missing or a directory in both. -/
structure SameOutside (p : Package) (w v : World) : Prop where
  cwd : v.disk.cwd = w.disk.cwd
  canceled : v.canceled = w.canceled
  step : v.clock.step = w.clock.step
  linkFree : w.disk.tree.LinkFree
  linkFree' : v.disk.tree.LinkFree
  entries : ∀ k, ¬ Path.location w.disk.cwd p.outputDir <+: k → v.disk.tree.get? k = w.disk.tree.get? k
  old : w.disk.tree.get? (Path.location w.disk.cwd p.outputDir) = none ∨
    w.disk.tree.get? (Path.location w.disk.cwd p.outputDir) = some .directory
  old' : v.disk.tree.get? (Path.location w.disk.cwd p.outputDir) = none ∨
    v.disk.tree.get? (Path.location w.disk.cwd p.outputDir) = some .directory

private theorem notFile_of_old {e : Option Entry} (old : e = none ∨ e = some .directory) (content : Text.Bytes) :
    e ≠ some (.file content) := by
  rcases old with rfl | rfl <;> simp

/-- What is removed makes no difference. -/
theorem SameOutside.build (c : ModuleCompiler) (same : SameOutside p w v) :
    (buildPackage c p v).1 = (buildPackage c p w).1 ∧ Alike (buildPackage c p w).2 (buildPackage c p v).2 := by
  obtain ⟨base, names, located, -⟩ := exists_located w.disk.cwd p
  have out := located.location_outputDir
  have below : base ++ names ++ ["dist"] ≠ [] := by simp
  obtain ⟨cwd, canceled, step, freeW, freeV, entries, oldW, oldV⟩ := same
  rw [out] at entries oldW oldV
  have erased : v.disk.tree.erase (base ++ names ++ ["dist"]) = w.disk.tree.erase (base ++ names ++ ["dist"]) := by
    refine FileTree.ext_get? fun k => ?_
    rw [FileTree.get?_erase _ below, FileTree.get?_erase _ below]
    split
    · rfl
    · rename_i outside
      exact entries k outside
  by_cases gone : w.disk.tree.get? (base ++ names ++ ["dist"]) = none ∧
      v.disk.tree.get? (base ++ names ++ ["dist"]) = none
  · rw [FileTree.erase_eq_self gone.1, FileTree.erase_eq_self gone.2] at erased
    refine buildPackage_alike c p ⟨?_, canceled, step⟩
    rw [show v.disk = ⟨v.disk.tree, v.disk.cwd⟩ from rfl, erased, cwd]
  · -- one of them has a directory there, so the package is there in both
    have site : ¬ base ++ names ++ ["dist"] <+: base ++ names := not_output_of_above List.prefix_rfl
    have thereW : w.disk.tree.get? (base ++ names) = some .directory := by
      rcases oldW with noneW | directory
      · rcases oldV with noneV | directory
        · exact absurd ⟨noneW, noneV⟩ gone
        · rw [← entries _ site]
          exact FileTree.get?_above ["dist"] directory (by simp)
      · exact FileTree.get?_above ["dist"] directory (by simp)
    have thereV : v.disk.tree.get? (base ++ names) = some .directory := by rw [entries _ site, thereW]
    have cleanW := clean_of_site freeW located thereW (notFile_of_old oldW)
    have cleanV := clean_of_site freeV (cwd ▸ located) thereV (notFile_of_old oldV)
    obtain ⟨w₁, diskW, canceledW, clockW, builtW⟩ := buildPackage_of_clean cleanW
    obtain ⟨v₁, diskV, canceledV, clockV, builtV⟩ := buildPackage_of_clean cleanV
    rw [erased, cwd] at diskV builtV
    rw [builtW, builtV]
    exact compileFiles_alike ⟨by rw [diskV, diskW], by rw [canceledV, canceledW, canceled], by rw [clockV, clockW, step]⟩

private theorem old_of_notFile {t : FileTree} {k : Location} (free : t.LinkFree)
    (notFile : ∀ content, t.get? k ≠ some (.file content)) : t.get? k = none ∨ t.get? k = some .directory := by
  cases found : t.get? k with
  | none => exact .inl rfl
  | some entry =>
    cases entry with
    | directory => exact .inr rfl
    | file content => exact absurd found (notFile content)
    | link target => exact absurd found (free k target)

theorem old_of_clean {d d' : Disk} (free : d.tree.LinkFree) (located : Located d.cwd p base names)
    (cleaned : clean d p.outputDir = .ok d') :
    d.tree.get? (base ++ names ++ ["dist"]) = none ∨ d.tree.get? (base ++ names ++ ["dist"]) = some .directory := by
  refine old_of_notFile free fun content found => ?_
  rw [List.append_assoc] at found
  rw [clean, Disk.lookUp_of_get? free located.output found] at cleaned
  cases cleaned

/-- Once the old output could be removed, no file is in its place in the end. -/
theorem old_of_built {d : Disk} (c : ModuleCompiler) (free : w.disk.tree.LinkFree)
    (located : Located w.disk.cwd p base names) (cleaned : clean w.disk p.outputDir = .ok d) :
    (buildPackage c p w).2.disk.tree.get? (base ++ names ++ ["dist"]) = none ∨
      (buildPackage c p w).2.disk.tree.get? (base ++ names ++ ["dist"]) = some .directory := by
  have empty := get?_erase_below w.disk.tree (show base ++ names ++ ["dist"] ≠ [] by simp)
  have out := located.location_outputDir
  have freeEnd := (buildPackage_confined c free located).2
  rcases built : buildPackage c p w with ⟨result, w'⟩
  rw [built] at freeEnd
  refine old_of_notFile freeEnd fun content found => ?_
  dsimp only at found
  rw [← List.append_nil (base ++ names ++ ["dist"])] at found
  by_cases none : p.dir = ""
  · obtain ⟨v, disk, -, -, compiled⟩ := buildPackage_of_clean cleaned
    rw [compiled, none, sources_empty, compileFiles, Prod.mk.injEq] at built
    rw [← built.2, disk, clean_eq_ok free located cleaned, empty] at found
    cases found
  · cases result with
    | ok timings =>
      obtain ⟨-, made, -, -, -, layout⟩ := buildPackage_layout free (located.dir none) built
      obtain ⟨x, -, eq, -⟩ := (layout.file_iff empty [] content).1 found
      exact outputOf_ne_nil x.1 eq.symm
    | error f =>
      obtain ⟨done, s, rest, interrupted⟩ := interrupted_of_clean free (located.dir none) cleaned built
      rw [← out] at found
      obtain ⟨r, -, eq⟩ := (interrupted.files []).1 ⟨content, found⟩
      exact outputOf_ne_nil r eq.symm

/-- Old output never shows in what is built: it may be replaced by any other before a build, and a build may be done
over again, also if it failed. -/
theorem buildPackage_stale (c : ModuleCompiler) (p : Package) {w : World} (free : w.disk.tree.LinkFree) :
    (∀ v, SameOutside p w v → (buildPackage c p v).1 = (buildPackage c p w).1 ∧
      (buildPackage c p v).2.disk = (buildPackage c p w).2.disk) ∧
    ∀ v : World, v.disk = (buildPackage c p w).2.disk → v.canceled = w.canceled → v.clock.step = w.clock.step →
      (buildPackage c p v).1 = (buildPackage c p w).1 ∧ (buildPackage c p v).2.disk = v.disk := by
  refine ⟨fun v same => ⟨(same.build c).1, (same.build c).2.disk⟩, ?_⟩
  intro v disk canceled step
  obtain ⟨base, names, located, -⟩ := exists_located w.disk.cwd p
  have out := located.location_outputDir
  rcases cleaned : clean w.disk p.outputDir with f | d
  · -- nothing was done the first time
    rw [buildPackage_of_clean_error cleaned] at disk
    obtain ⟨result, alike⟩ := buildPackage_alike c p ⟨disk, canceled, step⟩
    refine ⟨result, ?_⟩
    rw [alike.disk, buildPackage_of_clean_error cleaned, disk]
  · obtain ⟨framed, freeEnd⟩ := buildPackage_confined c free located
    have same : SameOutside p w v := by
      refine ⟨by rw [disk, framed.cwd], canceled, step, free, disk ▸ freeEnd, ?_, ?_, ?_⟩
      · rw [disk, out]
        exact framed.entries
      · rw [out]
        exact old_of_clean free located cleaned
      · rw [disk, out]
        exact old_of_built c free located cleaned
    obtain ⟨result, alike⟩ := same.build c
    exact ⟨result, by rw [alike.disk, disk]⟩

namespace Sample

/-- The same package without any output. -/
def fresh : World := { conflict with disk := { conflict.disk with tree := conflict.disk.tree.erase ["a", "dist"] } }

theorem fresh_sameOutside : SameOutside ⟨"/", "a"⟩ conflict fresh := by
  have out : Path.location conflict.disk.cwd (Package.mk "/" "a").outputDir = ["a", "dist"] := by decide +kernel
  refine ⟨rfl, rfl, rfl, by decide +kernel, by decide +kernel, ?_, ?_, ?_⟩ <;> rw [out]
  · intro k outside
    exact (FileTree.get?_erase _ (by simp) k).trans (if_neg outside)
  · decide +kernel
  · decide +kernel

end Sample

theorem buildPackage_stale_sample :
    Sample.conflict.disk.tree.LinkFree ∧ SameOutside ⟨"/", "a"⟩ Sample.conflict Sample.fresh ∧
      (buildPackage Sample.compiler ⟨"/", "a"⟩ Sample.fresh).2.disk =
        (buildPackage Sample.compiler ⟨"/", "a"⟩ Sample.conflict).2.disk ∧
      ∃ v : World, v.disk = (buildPackage Sample.compiler ⟨"/", "a"⟩ Sample.conflict).2.disk ∧
        (buildPackage Sample.compiler ⟨"/", "a"⟩ v).1 =
          .error (.within (.access "write" "/a/dist/a.js") (.fault (.system "open" "/a/dist/a.js" .isDirectory))) ∧
        (buildPackage Sample.compiler ⟨"/", "a"⟩ v).2.disk = v.disk := by
  have free : Sample.conflict.disk.tree.LinkFree := by decide +kernel
  have failure : (buildPackage Sample.compiler ⟨"/", "a"⟩ Sample.conflict).1 =
      .error (.within (.access "write" "/a/dist/a.js") (.fault (.system "open" "/a/dist/a.js" .isDirectory))) := by
    decide +kernel
  have stale := buildPackage_stale Sample.compiler ⟨"/", "a"⟩ free
  rcases after : (buildPackage Sample.compiler ⟨"/", "a"⟩ Sample.conflict).2 with
    ⟨disk, clock, wall, canceled, log, collector⟩
  rw [after] at stale
  have again := stale.2 ⟨disk, .stepping 1, none, false, [], .empty⟩ rfl rfl rfl
  exact ⟨free, Sample.fresh_sameOutside, (stale.1 _ Sample.fresh_sameOutside).2,
    ⟨disk, .stepping 1, none, false, [], .empty⟩, rfl, again.1.trans failure, again.2⟩

end Stale

end Distill.Build
