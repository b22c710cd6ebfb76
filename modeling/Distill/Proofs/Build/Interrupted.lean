import Distill.Proofs.Build.Repeat

/-!
What is left of a package that could not be built. Sources are compiled in order until one of them stops the build
(`compileFiles_eq_error`). The ones before it have their outputs by then; it has no output itself, but directories may
have been made for one (`Reached`). Whatever the result is, only the output directory is changed
(`buildPackage_confined`).
-/
namespace Distill.Build

theorem Action.andThen_eq_error {α β : Type} {a : Action α} {next : α → Action β} {w w'' : World} {f : Failure}
    (failed : a.andThen next w = (.error f, w'')) :
    a w = (.error f, w'') ∨ ∃ x w', a w = (.ok x, w') ∧ next x w' = (.error f, w'') := by
  rw [Action.andThen] at failed
  split at failed
  · rename_i x w' first
    exact .inr ⟨x, w', first, failed⟩
  · rename_i g w' first
    rw [Prod.mk.injEq, Except.error.injEq] at failed
    rw [first, failed.1, failed.2]
    exact .inl rfl

/-- Why an old output is not removed: something else is in its place, or the way there is blocked. -/
inductive Refused (d : Disk) (dir : String) : Failure → Prop
  | occupied {e : Entry} : d.lookUp false dir = .ok e → e ≠ .directory →
    Refused d dir (.fault (.output dir "exists, but is not a directory"))
  | stat {e : Errno} : d.lookUp false dir = .error e → e ≠ .noEntry →
    Refused d dir (.within (.access "stat" dir) (.fault (.system "lstat" dir e)))

theorem clean_eq_error {d : Disk} {dir : String} {f : Failure} : clean d dir = .error f ↔ Refused d dir f := by
  constructor
  · intro failed
    rw [clean] at failed
    split at failed
    · cases failed
    · rename_i e other look
      cases failed
      exact .occupied look other
    · cases failed
    · rename_i e other look
      cases failed
      exact .stat look other
  · rintro (⟨look, other⟩ | ⟨look, other⟩)
    · rw [clean, look]
      split <;> simp_all
    · rw [clean, look]
      split <;> simp_all

/-- Some of the directories on the way to a location were made, or none. -/
structure Reached (t t' : FileTree) (way : Location) : Prop where
  linkFree : t'.LinkFree
  entries : ∀ k, t'.get? k = t.get? k ∨ k <+: way ∧ t.get? k = none ∧ t'.get? k = some .directory

section Reached

variable {t t' : FileTree} {way k : Location}

theorem Reached.refl (free : t.LinkFree) (way : Location) : Reached t t way := ⟨free, fun _ => .inl rfl⟩

theorem Reached.of_grown (free : t.LinkFree)
    (clear : ∀ k content, k <+: way → t.get? k ≠ some (.file content)) (grown : Disk.Grown t t' way) :
    Reached t t' way := by
  refine ⟨grown.1, fun k => ?_⟩
  by_cases inside : k <+: way
  · rw [grown.2, if_pos inside]
    cases found : t.get? k with
    | none => exact .inr ⟨inside, rfl, rfl⟩
    | some entry =>
      cases entry with
      | directory => exact .inl rfl
      | file content => exact absurd found (clear k content inside)
      | link target => exact absurd found (free k target)
  · rw [grown.2, if_neg inside]
    exact .inl rfl

theorem Reached.file_iff (reached : Reached t t' way) (content : Text.Bytes) :
    t'.get? k = some (.file content) ↔ t.get? k = some (.file content) := by
  rcases reached.entries k with same | ⟨-, before, after⟩
  · rw [same]
  · simp [before, after]

theorem Reached.directory (reached : Reached t t' way) (found : t.get? k = some .directory) :
    t'.get? k = some .directory := by
  rcases reached.entries k with same | ⟨-, before, after⟩
  · rw [same, found]
  · exact after

theorem Reached.directory_or (reached : Reached t t' way) (found : t'.get? k = some .directory) :
    t.get? k = some .directory ∨ k <+: way := by
  rcases reached.entries k with same | ⟨inside, -, -⟩
  · exact .inl (same ▸ found)
  · exact .inr inside

end Reached

section Canceled

variable {c : ModuleCompiler} {p : Package} {s : String} {w w' : World}

/-- Whether a run is canceled once some sources of a package were compiled. -/
def canceledAfter (c : ModuleCompiler) (p : Package) (w : World) (done : List String) : Bool :=
  w.canceled || done.any fun s => c.cancels (sourcePath p s)

theorem prepare_running {watch : Stopwatch} (success : prepare p s w = (.ok watch, w')) :
    w.canceled = false ∧ w'.canceled = false := by
  rw [prepare] at success
  split at success
  · simp at success
  · rename_i running
    have running : w.canceled = false := by simpa using running
    dsimp only at success
    split at success
    · rw [Prod.mk.injEq] at success
      exact ⟨running, success.2 ▸ running⟩
    · simp at success

theorem compileSource_canceled (c : ModuleCompiler) (p : Package) (s : String) (w : World) :
    (compileSource c p s w).2.canceled = (w.canceled || c.cancels (sourcePath p s)) := by
  rw [compileSource]
  dsimp only
  split
  · rfl
  · split <;> rfl

theorem store_canceled (p : Package) (s : String) (watch : Stopwatch) (output : Text.Bytes) (w : World) :
    (store p s watch output w).2.canceled = w.canceled := by
  rw [store]
  dsimp only
  split <;> rfl

/-- A source is compiled only while the run goes on; it may be canceled meanwhile. -/
theorem compileFile_running {timing : Timing} (success : compileFile c p s w = (.ok timing, w')) :
    w.canceled = false ∧ w'.canceled = c.cancels (sourcePath p s) := by
  obtain ⟨watch, w₁, prepared, success⟩ := Action.andThen_eq_ok success
  obtain ⟨output, w₂, compiled, stored⟩ := Action.andThen_eq_ok success
  obtain ⟨running, running₁⟩ := prepare_running prepared
  have canceled₂ := compileSource_canceled c p s w₁
  have canceled₃ := store_canceled p s watch output w₂
  rw [compiled, running₁, Bool.false_or] at canceled₂
  rw [stored] at canceled₃
  exact ⟨running, canceled₃.trans canceled₂⟩

theorem compileFiles_running {done : List String} {timings : List Timing}
    (success : compileFiles c p done w = (.ok timings, w')) :
    w'.canceled = canceledAfter c p w done ∧
      ∀ front r back, done = front ++ r :: back → canceledAfter c p w front = false := by
  induction done generalizing w timings with
  | nil =>
    rw [compileFiles, Prod.mk.injEq] at success
    exact ⟨by rw [← success.2]; simp [canceledAfter], by simp⟩
  | cons s done ih =>
    obtain ⟨timing, w₁, first, success⟩ := Action.andThen_eq_ok success
    obtain ⟨later, w₂, rest, success⟩ := Action.andThen_eq_ok success
    obtain rfl : w₂ = w' := (Prod.mk.inj success).2
    obtain ⟨running, canceled₁⟩ := compileFile_running first
    have shift (front : List String) : canceledAfter c p w (s :: front) = canceledAfter c p w₁ front := by
      rw [canceledAfter, canceledAfter, running, canceled₁, Bool.false_or, List.any_cons]
    obtain ⟨canceled, before⟩ := ih rest
    refine ⟨by rw [shift, canceled], ?_⟩
    intro front r back eq
    cases front with
    | nil => simpa [canceledAfter] using running
    | cons first front =>
      rw [List.cons_append, List.cons.injEq] at eq
      rw [← eq.1, shift]
      exact before front r back eq.2

end Canceled

/-- Why a source stops the build: `canceled` says whether the run was canceled before it, `content` is what reading it
gives, and `left` is the disk that is left. -/
inductive Halts (c : ModuleCompiler) (p : Package) (s : String) (canceled : Bool) (content : Except Fault Text.Bytes)
    (left : Disk) : Failure → Prop
  | canceled : canceled = true → Halts c p s canceled content left (.fault .canceled)
  | mkdir {g : Fault} : canceled = false → left.makeDirectories (Path.parent (outputPath p s)) = .error g →
    Halts c p s canceled content left (.within (.access "mkdir" (Path.parent (outputPath p s))) (.fault g))
  | compile {g : Failure} : canceled = false → c.compile (sourcePath p s) content = .error g →
    Halts c p s canceled content left
      (if g.isMalformed || g.isCanceled then g else .within (.access "read" (sourcePath p s)) g)
  | write {output : Text.Bytes} {g : Fault} : canceled = false → c.compile (sourcePath p s) content = .ok output →
    left.writeFile (outputPath p s) output = .error g →
    Halts c p s canceled content left (.within (.access "write" (outputPath p s)) (.fault g))

section Stop

variable {c c' : ModuleCompiler} {p : Package} {base names : Location} {s : String} {todo : List String} {w w' : World}
  {f : Failure}

theorem prepare_eq_error (content : Except Fault Text.Bytes) (failed : prepare p s w = (.error f, w')) :
    w'.disk = w.disk ∧ Halts c p s w.canceled content w.disk f := by
  rw [prepare] at failed
  split at failed
  · rename_i canceled
    rw [Prod.mk.injEq, Except.error.injEq] at failed
    obtain ⟨rfl, rfl⟩ := failed
    exact ⟨rfl, .canceled canceled⟩
  · rename_i running
    dsimp only at failed
    split at failed
    · simp at failed
    · rename_i made
      rw [Prod.mk.injEq, Except.error.injEq] at failed
      obtain ⟨rfl, rfl⟩ := failed
      exact ⟨rfl, .mkdir (by simpa using running) made⟩

theorem compileSource_eq_error (failed : compileSource c p s w = (.error f, w')) :
    w'.disk = w.disk ∧ ∃ g, c.compile (sourcePath p s) (w.disk.contents (sourcePath p s)) = .error g ∧
      f = if g.isMalformed || g.isCanceled then g else .within (.access "read" (sourcePath p s)) g := by
  rw [compileSource] at failed
  dsimp only at failed
  split at failed
  · simp at failed
  · rename_i g refused
    split at failed
    · rename_i passed
      rw [Prod.mk.injEq, Except.error.injEq] at failed
      obtain ⟨rfl, rfl⟩ := failed
      exact ⟨rfl, _, refused, by rw [if_pos passed]⟩
    · rename_i wrapped
      rw [Prod.mk.injEq, Except.error.injEq] at failed
      obtain ⟨rfl, rfl⟩ := failed
      exact ⟨rfl, _, refused, by rw [if_neg wrapped]⟩

theorem store_eq_error {watch : Stopwatch} {output : Text.Bytes} (failed : store p s watch output w = (.error f, w')) :
    w'.disk = w.disk ∧ ∃ g, w.disk.writeFile (outputPath p s) output = .error g ∧
      f = .within (.access "write" (outputPath p s)) (.fault g) := by
  rw [store] at failed
  dsimp only at failed
  split at failed
  · simp at failed
  · rename_i g refused
    rw [Prod.mk.injEq, Except.error.injEq] at failed
    obtain ⟨rfl, rfl⟩ := failed
    exact ⟨rfl, g, refused, rfl⟩

/-- A source is read as before, whatever happens in the output directory. -/
theorem contents_frame {v : World} (free : w.disk.tree.LinkFree) (freeV : v.disk.tree.LinkFree)
    (leads : Path.Leads w.disk.cwd p.dir base names) (cwd : v.disk.cwd = w.disk.cwd)
    (pending : Pending w.disk.tree (base ++ names) s)
    (frame : ∀ k, ¬ base ++ names ++ ["dist"] <+: k → v.disk.tree.get? k = w.disk.tree.get? k) :
    v.disk.contents (sourcePath p s) = w.disk.contents (sourcePath p s) := by
  obtain ⟨content, found⟩ := pending.found
  rw [contents_of_pending free leads pending found]
  refine contents_of_pending freeV (cwd ▸ leads) (pending.frame frame) ?_
  rw [frame _ pending.outside, found]

/-- A source that stops the build leaves at most directories. -/
theorem compileFile_eq_error (free : w.disk.tree.LinkFree) (leads : Path.Leads w.disk.cwd p.dir base names)
    (pending : Pending w.disk.tree (base ++ names) s) (failed : compileFile c p s w = (.error f, w')) :
    Halts c p s w.canceled (w.disk.contents (sourcePath p s)) w'.disk f ∧
      Reached w.disk.tree w'.disk.tree (base ++ names ++ ["dist"] ++ (outputOf s).dropLast) := by
  rcases Action.andThen_eq_error failed with prepared | ⟨watch, w₁, prepared, failed⟩
  · obtain ⟨disk, halts⟩ := prepare_eq_error (w.disk.contents (sourcePath p s)) prepared
    rw [disk]
    exact ⟨halts, .refl free _⟩
  · obtain ⟨running, -⟩ := prepare_running prepared
    obtain ⟨-, clear, cwd₁, grown⟩ := prepare_eq_ok free (.of_dir leads) pending prepared
    have reached := Reached.of_grown free clear grown
    have read : w₁.disk.contents (sourcePath p s) = w.disk.contents (sourcePath p s) :=
      contents_frame free grown.1 leads cwd₁ pending fun k => (overlaid_grown pending.directory grown).frame
    rcases Action.andThen_eq_error failed with compiled | ⟨output, w₂, compiled, stored⟩
    · obtain ⟨disk, g, refused, rfl⟩ := compileSource_eq_error compiled
      rw [disk]
      exact ⟨.compile running (read ▸ refused), reached⟩
    · obtain ⟨compiled, disk₂⟩ := compileSource_eq_ok compiled
      obtain ⟨disk, g, refused, rfl⟩ := store_eq_error stored
      rw [disk]
      exact ⟨.write running (read ▸ compiled) refused, disk₂ ▸ reached⟩

/-- A build fails at the first source that cannot be compiled. -/
theorem compileFiles_eq_error : compileFiles c p todo w = (.error f, w') ↔
    ∃ done s rest timings v, todo = done ++ s :: rest ∧ compileFiles c p done w = (.ok timings, v) ∧
      compileFile c p s v = (.error f, w') := by
  induction todo generalizing w with
  | nil => simp [compileFiles]
  | cons r todo ih =>
    rw [compileFiles, Action.andThen]
    rcases first : compileFile c p r w with ⟨g | timing, w₁⟩
    · dsimp only
      constructor
      · rintro ⟨⟩
        exact ⟨[], r, todo, [], w, rfl, rfl, first⟩
      · rintro ⟨done, s, rest, timings, v, eq, before, failed⟩
        cases done with
        | nil =>
          rw [compileFiles, Prod.mk.injEq] at before
          rw [List.nil_append, List.cons.injEq] at eq
          rw [← eq.1, ← before.2, first] at failed
          simpa using failed
        | cons r' done =>
          rw [List.cons_append, List.cons.injEq] at eq
          obtain ⟨timing, w₁, ok, -⟩ := Action.andThen_eq_ok before
          rw [← eq.1, first] at ok
          simp at ok
    · dsimp only
      have later : (compileFiles c p todo).andThen (fun timings w => (.ok (timing :: timings), w)) w₁ = (.error f, w') ↔
          compileFiles c p todo w₁ = (.error f, w') := by
        rw [Action.andThen]
        split <;> rename_i result <;> simp [result]
      rw [later, ih]
      constructor
      · rintro ⟨done, s, rest, timings, v, rfl, before, failed⟩
        refine ⟨r :: done, s, rest, timing :: timings, v, rfl, ?_, failed⟩
        rw [compileFiles, Action.andThen, first]
        dsimp only
        rw [Action.andThen, before]
      · rintro ⟨done, s, rest, timings, v, eq, before, failed⟩
        cases done with
        | nil =>
          rw [compileFiles, Prod.mk.injEq] at before
          rw [List.nil_append, List.cons.injEq] at eq
          rw [← eq.1, ← before.2, first] at failed
          simp at failed
        | cons r' done =>
          rw [List.cons_append, List.cons.injEq] at eq
          obtain ⟨timing', w₁', ok, before⟩ := Action.andThen_eq_ok before
          rw [← eq.1, first, Prod.mk.injEq] at ok
          obtain ⟨later, w₂, before, result⟩ := Action.andThen_eq_ok before
          rw [← ok.2] at before
          rw [Prod.mk.injEq] at result
          exact ⟨done, s, rest, later, v, eq.2, result.2 ▸ before, failed⟩

theorem compileFile_congr (compile : c'.compile (sourcePath p s) = c.compile (sourcePath p s))
    (cancels : c'.cancels (sourcePath p s) = c.cancels (sourcePath p s)) : compileFile c' p s = compileFile c p s := by
  have same : compileSource c' p s = compileSource c p s := by
    funext w
    rw [compileSource, compileSource, compile, cancels]
  rw [compileFile, compileFile, same]

theorem compileFiles_congr (same : ∀ r ∈ todo, c'.compile (sourcePath p r) = c.compile (sourcePath p r) ∧
    c'.cancels (sourcePath p r) = c.cancels (sourcePath p r)) : compileFiles c' p todo = compileFiles c p todo := by
  induction todo with
  | nil => rfl
  | cons s todo ih =>
    obtain ⟨compile, cancels⟩ := same s (by simp)
    rw [compileFiles, compileFiles, compileFile_congr compile cancels, ih fun r member => same r (by simp [member])]

/-- What is left when one of the sources stops the build. -/
theorem compileFiles_stopped (free : w.disk.tree.LinkFree) (leads : Path.Leads w.disk.cwd p.dir base names)
    (pending : ∀ s ∈ todo, Pending w.disk.tree (base ++ names) s) (distinct : todo.Nodup)
    (failed : compileFiles c p todo w = (.error f, w')) :
    ∃ (done : List String) (s : String) (rest : List String) (t : FileTree) (made : List (String × Text.Bytes)),
      todo = done ++ s :: rest ∧ made.map Prod.fst = done ∧
      (∀ x ∈ made, c.compile (sourcePath p x.1) (w.disk.contents (sourcePath p x.1)) = .ok x.2) ∧
      Layout w.disk.tree t (base ++ names ++ ["dist"]) made ∧
      Reached t w'.disk.tree (base ++ names ++ ["dist"] ++ (outputOf s).dropLast) ∧
      (∀ front r back, done = front ++ r :: back → canceledAfter c p w front = false) ∧
      Halts c p s (canceledAfter c p w done) (w.disk.contents (sourcePath p s)) w'.disk f ∧
      ∀ c' : ModuleCompiler, (∀ r ∈ done ++ [s], c'.compile (sourcePath p r) = c.compile (sourcePath p r) ∧
        c'.cancels (sourcePath p r) = c.cancels (sourcePath p r)) → compileFiles c' p todo w = (.error f, w') := by
  obtain ⟨done, s, rest, timings, v, rfl, before, failed⟩ := compileFiles_eq_error.1 failed
  have pendingDone : ∀ r ∈ done, Pending w.disk.tree (base ++ names) r :=
    fun r member => pending r (List.mem_append_left _ member)
  have pendingS := pending s (by simp)
  obtain ⟨-, cwd, made, all, outputs, layout⟩ :=
    compileFiles_layout leads (.nil free _) pendingDone (List.nodup_append.1 distinct).1 (by simp) before
  have framed := (compileFiles_lockstep (c := c) leads (.refl free) pendingDone).framed
  rw [before] at framed
  have pendingV := pendingS.frame framed.entries
  obtain ⟨halts, reached⟩ := compileFile_eq_error layout.linkFree (cwd ▸ leads) pendingV failed
  obtain ⟨canceled, running⟩ := compileFiles_running before
  have read : v.disk.contents (sourcePath p s) = w.disk.contents (sourcePath p s) :=
    contents_frame free layout.linkFree leads cwd pendingS framed.entries
  refine ⟨done, s, rest, v.disk.tree, made, rfl, all, ?_, layout, reached, running, canceled ▸ read ▸ halts, ?_⟩
  · intro x member
    obtain ⟨content, found, compiled⟩ := outputs x member
    rw [contents_of_pending free leads (pendingDone x.1 (all ▸ List.mem_map_of_mem member)) found, compiled]
  · intro c' same
    obtain ⟨compile, cancels⟩ := same s (by simp)
    refine compileFiles_eq_error.2 ⟨done, s, rest, timings, v, rfl, ?_, by rw [compileFile_congr compile cancels, failed]⟩
    rw [compileFiles_congr fun r member => same r (List.mem_append_left _ member), before]

end Stop

section Package

variable {c : ModuleCompiler} {p : Package} {base names : Location} {w w' : World}

theorem buildPackage_of_clean_error {f : Failure} (refused : clean w.disk p.outputDir = .error f) :
    buildPackage c p w = (.error f, w) := by
  rw [buildPackage, Action.andThen, removeOutput, refused]

/-- Once the old output is gone, the sources that are found are compiled. -/
theorem buildPackage_of_clean {d : Disk} (cleaned : clean w.disk p.outputDir = .ok d) :
    ∃ v : World, v.disk = d ∧ v.canceled = w.canceled ∧ v.clock = w.clock ∧
      ∀ c, buildPackage c p w = compileFiles c p (sources d p.dir) v := by
  refine ⟨(listSources p { w with disk := d }).2, rfl, rfl, rfl, fun c => ?_⟩
  rw [buildPackage, Action.andThen, removeOutput, cleaned]
  rfl

/-- Building a package changes its output directory at most, also if it fails. -/
theorem buildPackage_confined (c : ModuleCompiler) (free : w.disk.tree.LinkFree)
    (located : Located w.disk.cwd p base names) :
    Framed (base ++ names) w (buildPackage c p w).2 ∧ (buildPackage c p w).2.disk.tree.LinkFree := by
  rcases cleaned : clean w.disk p.outputDir with f | d
  · rw [buildPackage_of_clean_error cleaned]
    exact ⟨.refl _ _, free⟩
  · obtain rfl := clean_eq_ok free located cleaned
    obtain ⟨v, disk, canceled, -, built⟩ := buildPackage_of_clean cleaned
    have change := overlaid_erase free (show base ++ names ++ ["dist"] ≠ [] by simp)
    have removed : Framed (base ++ names) w v := by
      refine ⟨by rw [disk], fun running => canceled ▸ running, fun k outside => ?_⟩
      rw [disk]
      exact change.frame outside
    have freeV : v.disk.tree.LinkFree := by rw [disk]; exact free.erase _
    rw [built]
    by_cases none : p.dir = ""
    · rw [none, sources_empty]
      exact ⟨removed, freeV⟩
    · have leads := located.dir none
      have pending : ∀ s ∈ sources v.disk p.dir, Pending v.disk.tree (base ++ names) s := by
        rw [disk]
        exact fun s => pending_of_mem_sources free leads
      have compiled := compileFiles_lockstep (c := c) (removed.cwd ▸ leads) (.refl freeV) pending
      rw [disk] at compiled
      exact ⟨removed.trans compiled.framed, compiled.same.linkFree⟩

/-- What is left of a package that failed with `f` once its old output was removed: the sources `done` were compiled,
and `s` was not. The world before is `w` and the one after is `w'`. -/
structure Interrupted (c : ModuleCompiler) (p : Package) (w w' : World) (f : Failure) (done : List String) (s : String)
    (rest : List String) : Prop where
  listed : ∃ d, clean w.disk p.outputDir = .ok d ∧ sources d p.dir = done ++ s :: rest
  sorted : (done ++ s :: rest).Pairwise (· < ·)
  files : ∀ k, (∃ content, w'.disk.tree.get? (Path.location w.disk.cwd p.outputDir ++ k) = some (.file content)) ↔
    ∃ r ∈ done, k = Path.pieces (Package.outputName r)
  contents : ∀ r ∈ done, ∃ content, c.compile (sourcePath p r) (w.disk.contents (sourcePath p r)) = .ok content ∧
    w'.disk.tree.get? (Path.location w.disk.cwd p.outputDir ++ Path.pieces (Package.outputName r)) = some (.file content)
  above : ∀ r ∈ done, ∀ k, k <+: Path.pieces (Package.outputName r) → k ≠ Path.pieces (Package.outputName r) →
    w'.disk.tree.get? (Path.location w.disk.cwd p.outputDir ++ k) = some .directory
  /-- Any other directory is on the way to the output that was to come next. -/
  directories : ∀ k, w'.disk.tree.get? (Path.location w.disk.cwd p.outputDir ++ k) = some .directory →
    ∃ r ∈ done ++ [s], k <+: Path.pieces (Package.outputName r) ∧ k ≠ Path.pieces (Package.outputName r)
  linkFree : w'.disk.tree.LinkFree
  running : ∀ front r back, done = front ++ r :: back → canceledAfter c p w front = false
  halts : Halts c p s (canceledAfter c p w done) (w.disk.contents (sourcePath p s)) w'.disk f
  /-- It makes no difference what the compiler does with any other source, so it has not been asked. -/
  unused : ∀ c' : ModuleCompiler, (∀ r ∈ done ++ [s], c'.compile (sourcePath p r) = c.compile (sourcePath p r) ∧
    c'.cancels (sourcePath p r) = c.cancels (sourcePath p r)) → buildPackage c' p w = (.error f, w')

/-- A directory on the way to an output is above it. -/
private theorem above_output {s : String} {k : Location} (way : k <+: (outputOf s).dropLast) :
    k <+: outputOf s ∧ k ≠ outputOf s := by
  refine ⟨way.trans (List.dropLast_prefix _), ?_⟩
  intro same
  have shorter := way.length_le
  have some := List.length_pos_iff.2 (outputOf_ne_nil s)
  rw [same, List.length_dropLast] at shorter
  omega

/-- A package that fails after its old output was removed is interrupted at one of its sources. -/
theorem interrupted_of_clean {f : Failure} {d : Disk} (free : w.disk.tree.LinkFree)
    (leads : Path.Leads w.disk.cwd p.dir base names) (cleaned : clean w.disk p.outputDir = .ok d)
    (failed : buildPackage c p w = (.error f, w')) : ∃ done s rest, Interrupted c p w w' f done s rest := by
  have located : Located w.disk.cwd p base names := .of_dir leads
  have out := located.location_outputDir
  have empty := get?_erase_below w.disk.tree (show base ++ names ++ ["dist"] ≠ [] by simp)
  obtain rfl := clean_eq_ok free located cleaned
  obtain ⟨v, disk, canceled, -, built⟩ := buildPackage_of_clean cleaned
  have pending := fun s => pending_of_mem_sources (s := s) free leads
  have freeV : v.disk.tree.LinkFree := by rw [disk]; exact free.erase _
  have leadsV : Path.Leads v.disk.cwd p.dir base names := by rw [disk]; exact leads
  have sorted : (sources ⟨w.disk.tree.erase (base ++ names ++ ["dist"]), w.disk.cwd⟩ p.dir).Pairwise (· < ·) :=
    sources_sorted (free.erase _) leads
  have distinct := sources_nodup (d := ⟨w.disk.tree.erase (base ++ names ++ ["dist"]), w.disk.cwd⟩) (free.erase _) leads
  have stopped := failed
  rw [built c] at stopped
  obtain ⟨done, s, rest, t, made, eq, all, outputs, layout, reached, running, halts, unused⟩ :=
    compileFiles_stopped freeV leadsV (by rw [disk]; exact pending) distinct stopped
  rw [disk] at layout
  -- the sources are read as they were before the output was removed
  have read : ∀ r ∈ done ++ s :: rest, v.disk.contents (sourcePath p r) = w.disk.contents (sourcePath p r) := by
    intro r member
    have pendingR : Pending v.disk.tree (base ++ names) r := by
      rw [← eq] at member
      rw [disk]
      exact pending r member
    refine (contents_frame freeV free leadsV (by rw [disk]) pendingR fun k outside => ?_).symm
    rw [disk]
    exact ((FileTree.get?_erase _ (by simp) k).trans (if_neg outside)).symm
  have after (front : List String) : canceledAfter c p v front = canceledAfter c p w front := by
    rw [canceledAfter, canceledAfter, canceled]
  have mem_made {r : String} (member : r ∈ done) : ∃ x ∈ made, x.1 = r := by
    rw [← all] at member
    exact List.mem_map.1 member
  have mem_done {x : String × Text.Bytes} (member : x ∈ made) : x.1 ∈ done := all ▸ List.mem_map_of_mem member
  refine ⟨done, s, rest, ?_⟩
  constructor
  case listed => exact ⟨_, cleaned, eq⟩
  case sorted => exact eq ▸ sorted
  case files =>
    intro k
    rw [out]
    constructor
    · rintro ⟨content, found⟩
      obtain ⟨x, member, same, -⟩ := (layout.file_iff empty k content).1 ((reached.file_iff content).1 found)
      exact ⟨x.1, mem_done member, same⟩
    · rintro ⟨r, member, same⟩
      obtain ⟨x, inMade, rfl⟩ := mem_made member
      exact ⟨x.2, (reached.file_iff x.2).2 ((layout.file_iff empty k x.2).2 ⟨x, inMade, same, rfl⟩)⟩
  case contents =>
    intro r member
    obtain ⟨x, inMade, rfl⟩ := mem_made member
    rw [← read x.1 (List.mem_append_left _ (mem_done inMade)), out]
    exact ⟨x.2, outputs x inMade, (reached.file_iff x.2).2 (layout.files x inMade)⟩
  case above =>
    intro r member k way notFile
    obtain ⟨x, inMade, rfl⟩ := mem_made member
    rw [out]
    exact reached.directory ((layout.directory_iff empty k).2 ⟨x, inMade, way, notFile⟩)
  case directories =>
    intro k found
    rw [out] at found
    rcases reached.directory_or found with before | way
    · obtain ⟨x, member, way⟩ := (layout.directory_iff empty k).1 before
      exact ⟨x.1, List.mem_append_left _ (mem_done member), way⟩
    · exact ⟨s, by simp, above_output ((List.prefix_append_right_inj _).1 way)⟩
  case linkFree => exact reached.linkFree
  case running =>
    intro front r back split
    rw [← after]
    exact running front r back split
  case halts =>
    rw [← after, ← read s (by simp)]
    exact halts
  case unused =>
    intro c' same
    rw [built]
    exact unused c' same

/-- Building a package changes nothing outside its output directory. If it fails, then either the old output could not
be removed and everything is as it was, or the output directory holds what was built up to one of the sources. -/
theorem buildPackage_interrupted {result : Except Failure (List Timing)} (free : w.disk.tree.LinkFree)
    (built : buildPackage c p w = (result, w')) :
    (∀ k, ¬ Path.location w.disk.cwd p.outputDir <+: k → w'.disk.tree.get? k = w.disk.tree.get? k) ∧
      w'.disk.cwd = w.disk.cwd ∧
      ∀ f, result = .error f → Refused w.disk p.outputDir f ∧ w'.disk = w.disk ∨
        ∃ done s rest, Interrupted c p w w' f done s rest := by
  obtain ⟨base, names, located, -⟩ := exists_located w.disk.cwd p
  have framed := (buildPackage_confined c free located).1
  rw [built] at framed
  refine ⟨?_, framed.cwd, ?_⟩
  · rw [located.location_outputDir]
    exact framed.entries
  · rintro f rfl
    rcases cleaned : clean w.disk p.outputDir with g | d
    · rw [buildPackage_of_clean_error cleaned, Prod.mk.injEq, Except.error.injEq] at built
      exact .inl ⟨clean_eq_error.1 (by rw [cleaned, built.1]), by rw [built.2]⟩
    · refine .inr (interrupted_of_clean free (located.dir fun none => ?_) cleaned built)
      -- without a directory there are no sources, and nothing could fail
      obtain ⟨v, -, -, -, compiled⟩ := buildPackage_of_clean cleaned
      rw [compiled, none, sources_empty] at built
      cases built

namespace Sample

/-- The output of the last source is in the place of a directory that the one before it needs. -/
def conflict : World :=
  ⟨⟨[(["a"], Entry.directory), (["a", "0.ts"], .file [1]), (["a", "a.js"], .directory),
    (["a", "a.js", "b.ts"], .file [2]), (["a", "a.ts"], .file [3]), (["a", "dist"], .directory),
    (["a", "dist", "old.ts"], .file [4])].foldl (fun t x => t.set x.1 x.2) .empty, "/"⟩,
    .stepping 1, none, false, [], .empty⟩

end Sample

theorem buildPackage_interrupted_sample :
    Sample.conflict.disk.tree.LinkFree ∧
      ∃ w', buildPackage Sample.compiler ⟨"/", "a"⟩ Sample.conflict =
          (.error (.within (.access "write" "/a/dist/a.js") (.fault (.system "open" "/a/dist/a.js" .isDirectory))), w') ∧
        (∀ k, ¬ ["a", "dist"] <+: k → w'.disk.tree.get? k = Sample.conflict.disk.tree.get? k) ∧
        ∃ done s rest, Interrupted Sample.compiler ⟨"/", "a"⟩ Sample.conflict w'
          (.within (.access "write" "/a/dist/a.js") (.fault (.system "open" "/a/dist/a.js" .isDirectory))) done s rest ∧
          done ++ s :: rest = ["0.ts", "a.js/b.ts", "a.ts"] := by
  have free : Sample.conflict.disk.tree.LinkFree := by decide +kernel
  have failure : (buildPackage Sample.compiler ⟨"/", "a"⟩ Sample.conflict).1 =
      .error (.within (.access "write" "/a/dist/a.js") (.fault (.system "open" "/a/dist/a.js" .isDirectory))) := by
    decide +kernel
  have listed : (clean Sample.conflict.disk (Package.mk "/" "a").outputDir).toOption.map
      (fun d => sources d (Package.mk "/" "a").dir) = some ["0.ts", "a.js/b.ts", "a.ts"] := by decide +kernel
  have out : Path.location Sample.conflict.disk.cwd (Package.mk "/" "a").outputDir = ["a", "dist"] := by decide +kernel
  rcases built : buildPackage Sample.compiler ⟨"/", "a"⟩ Sample.conflict with ⟨result, w'⟩
  rw [built] at failure
  dsimp only at failure
  subst failure
  obtain ⟨frame, -, left⟩ := buildPackage_interrupted free built
  rw [out] at frame
  refine ⟨free, w', rfl, frame, ?_⟩
  rcases left _ rfl with ⟨refused, -⟩ | ⟨done, s, rest, interrupted⟩
  · rw [clean_eq_error.2 refused] at listed
    cases listed
  · obtain ⟨d, cleaned, eq⟩ := interrupted.listed
    rw [cleaned] at listed
    exact ⟨done, s, rest, interrupted, eq.symm.trans (Option.some.inj listed)⟩

end Package

end Distill.Build
