import Mathlib.Algebra.Ring.Int.Defs
import Mathlib.Data.List.Induction
import Distill.Timing

/-!
Clocks that move by one step with every reading, and the records that are timed with them. However records overlap, each
measures as many steps as there are readings from its opening to its closing (`elapsed_of_run`).
-/
namespace Distill

namespace Duration

/-- A number of nanoseconds, clamped to what a duration can hold. -/
def clamped (n : Int) : Int := max Int64.minValue.toInt (min Int64.maxValue.toInt n)

theorem toInt_between (earlier later : Instant) : (between earlier later).toInt = clamped (later - earlier) := by
  have low : -2 ^ 63 ≤ clamped (later - earlier) := Int64.toInt_minValue ▸ Int.le_max_left _ _
  have high : clamped (later - earlier) < 2 ^ 63 := by
    rw [clamped, Int64.toInt_minValue, Int64.toInt_maxValue]
    omega
  exact Int64.toInt_ofInt_of_le low high

theorem clamped_toInt (d : Duration) : clamped d.toInt = d.toInt := by
  rw [clamped, Int.min_eq_right (Int64.toInt_le d), Int.max_eq_right (Int64.minValue_le_toInt d)]

end Duration

namespace Clock

/-- The clock after some readings. -/
def after (c : Clock) (readings : Nat) : Clock := { c with now := c.now + readings * c.step.toInt }

theorem after_zero (c : Clock) : c.after 0 = c := by simp [after]

theorem read_after (c : Clock) (n : Nat) : (c.after n).read = (c.now + n * c.step.toInt, c.after (n + 1)) := by
  have next : c.now + n * c.step.toInt + c.step.toInt = c.now + (n + 1 : Nat) * c.step.toInt := by
    rw [Int.add_assoc, Int.natCast_succ, Int.add_mul, Int.one_mul]
  simp only [read, after, next]

theorem read_eq (c : Clock) : c.read.2 = c.after 1 := by simp [read, after]

theorem after_after (c : Clock) (m n : Nat) : (c.after m).after n = c.after (m + n) := by
  simp only [after, Int.natCast_add, Int.add_mul, Int.add_assoc]

/-- The difference between two readings. -/
theorem between_after (c : Clock) (i j : Nat) :
    (Duration.between (c.after i).now (c.after j).now).toInt = Duration.clamped ((j - i) * c.step.toInt) := by
  have difference : (c.after j).now - (c.after i).now = ((j : Int) - i) * c.step.toInt := by
    dsimp only [after]
    rw [Int.sub_mul, Int.add_sub_add_left]
  rw [Duration.toInt_between, difference]

end Clock

/-- One use of a clock: it is read, a record is opened, or the record that was opened as the `k`-th one is closed. -/
inductive ClockUse where
  | look
  | start (file : String)
  | stop (k : Nat)
deriving DecidableEq, Repr

/-- A clock in use, with the records that were opened, in order, and the ones that closing gave. -/
structure Bench where
  clock : Clock
  opened : List Stopwatch
  closed : List Timing
deriving DecidableEq, Repr

namespace Bench

def fresh (c : Clock) : Bench := ⟨c, [], []⟩

/-- Makes one use of the clock. Only records that were opened can be closed, and as often as one likes. -/
def use (b : Bench) : ClockUse → Option Bench
  | .look => some { b with clock := b.clock.read.2 }
  | .start file =>
    let (watch, clock) := Stopwatch.start b.clock file
    some { b with clock, opened := b.opened ++ [watch] }
  | .stop k =>
    b.opened[k]?.map fun watch =>
      let (timing, clock) := watch.stop b.clock
      { b with clock, closed := b.closed ++ [timing] }

/-- Makes some uses of the clock, one after another. -/
def run (b : Bench) (uses : List ClockUse) : Option Bench := uses.foldlM use b

/-- How many records are opened. -/
def starts (uses : List ClockUse) : Nat := uses.countP fun | .start _ => true | _ => false

/-- How many records are closed. -/
def stops (uses : List ClockUse) : Nat := uses.countP fun | .stop _ => true | _ => false

/-- What some uses of a clock leave. -/
structure Kept (c : Clock) (uses : List ClockUse) (b : Bench) : Prop where
  clock : b.clock = c.after uses.length
  opened_length : b.opened.length = starts uses
  closed_length : b.closed.length = stops uses
  opened : ∀ i file, uses[i]? = some (.start file) → b.opened[starts (uses.take i)]? = some ⟨file, (c.after i).now⟩
  closed : ∀ j k, uses[j]? = some (.stop k) → ∃ watch, b.opened[k]? = some watch ∧
    b.closed[stops (uses.take j)]? = some ⟨watch.file, Duration.between watch.opened (c.after j).now⟩

section Run

variable {c : Clock} {uses : List ClockUse} {u : ClockUse} {b b' : Bench}

theorem run_concat : (fresh c).run (uses ++ [u]) = ((fresh c).run uses).bind fun b => b.use u := by
  rw [run, List.foldlM_append]
  cases run : List.foldlM use (fresh c) uses <;> simp [Bench.run, run]

theorem starts_concat : starts (uses ++ [u]) = starts uses + starts [u] := List.countP_append

theorem stops_concat : stops (uses ++ [u]) = stops uses + stops [u] := List.countP_append

/-- A use of a list with one more is one of the others or the last. -/
theorem getElem?_concat {i : Nat} {v : ClockUse} (found : (uses ++ [u])[i]? = some v) :
    uses[i]? = some v ∧ (uses ++ [u]).take i = uses.take i ∨ i = uses.length ∧ u = v ∧ (uses ++ [u]).take i = uses := by
  rcases Nat.lt_trichotomy i uses.length with before | rfl | beyond
  · rw [List.getElem?_append_left before] at found
    exact .inl ⟨found, List.take_append_of_le_length (Nat.le_of_lt before)⟩
  · rw [List.getElem?_concat_length] at found
    exact .inr ⟨rfl, Option.some.inj found, List.take_left⟩
  · rw [List.getElem?_eq_none (by simpa using Nat.succ_le_of_lt beyond)] at found
    cases found

theorem kept_fresh (c : Clock) : Kept c [] (fresh c) where
  clock := c.after_zero.symm
  opened_length := rfl
  closed_length := rfl
  opened _ _ none := by cases none
  closed _ _ none := by cases none

theorem getElem?_append_of_some {α : Type} {xs ys : List α} {i : Nat} {x : α} (found : xs[i]? = some x) :
    (xs ++ ys)[i]? = some x := by
  rw [List.getElem?_append_left (List.getElem?_eq_some_iff.1 found).1, found]

/-- What was opened and closed before is kept when more comes behind it. -/
theorem Kept.extend (kept : Kept c uses b) {more : List Stopwatch} {ended : List Timing}
    (opens : more.length = starts [u]) (closes : ended.length = stops [u])
    (new : ∀ file, u = .start file → more = [⟨file, (c.after uses.length).now⟩])
    (last : ∀ k, u = .stop k → ∃ watch, b.opened[k]? = some watch ∧
      ended = [⟨watch.file, Duration.between watch.opened (c.after uses.length).now⟩]) :
    Kept c (uses ++ [u]) ⟨c.after (uses.length + 1), b.opened ++ more, b.closed ++ ended⟩ where
  clock := by rw [List.length_append, List.length_singleton]
  opened_length := by rw [List.length_append, kept.opened_length, opens, starts_concat]
  closed_length := by rw [List.length_append, kept.closed_length, closes, stops_concat]
  opened i file found := by
    rcases getElem?_concat found with ⟨old, front⟩ | ⟨rfl, start, front⟩
    · rw [front]
      exact getElem?_append_of_some (kept.opened i file old)
    · rw [front, ← kept.opened_length, List.getElem?_append_right (Nat.le_refl _), Nat.sub_self, new file start]
      rfl
  closed j k found := by
    rcases getElem?_concat found with ⟨old, front⟩ | ⟨rfl, stop, front⟩
    · obtain ⟨watch, opened, closed⟩ := kept.closed j k old
      rw [front]
      exact ⟨watch, getElem?_append_of_some opened, getElem?_append_of_some closed⟩
    · obtain ⟨watch, opened, rfl⟩ := last k stop
      refine ⟨watch, getElem?_append_of_some opened, ?_⟩
      rw [front, ← kept.closed_length, List.getElem?_append_right (Nat.le_refl _), Nat.sub_self]
      rfl

/-- Each use reads the clock once. -/
theorem Kept.use (kept : Kept c uses b) (used : b.use u = some b') : Kept c (uses ++ [u]) b' := by
  have reading : b.clock.read = ((c.after uses.length).now, c.after (uses.length + 1)) := by
    rw [kept.clock, Clock.read_after]
    rfl
  cases u with
  | look =>
    have result : b' = ⟨c.after (uses.length + 1), b.opened ++ [], b.closed ++ []⟩ := by
      rw [List.append_nil, List.append_nil, ← Option.some.inj used, reading]
    rw [result]
    exact kept.extend rfl rfl (fun _ other => by cases other) (fun _ other => by cases other)
  | start file =>
    have started : Stopwatch.start b.clock file = (⟨file, (c.after uses.length).now⟩, c.after (uses.length + 1)) := by
      rw [Stopwatch.start, reading]
    rw [Bench.use, started] at used
    obtain rfl := Option.some.inj used
    have extended : Kept c (uses ++ [.start file])
        ⟨c.after (uses.length + 1), b.opened ++ [⟨file, (c.after uses.length).now⟩], b.closed ++ []⟩ :=
      kept.extend rfl rfl (fun other same => by cases same; rfl) (fun _ other => by cases other)
    rwa [List.append_nil] at extended
  | stop k =>
    obtain ⟨watch, opened, rfl⟩ := Option.map_eq_some_iff.1 used
    rw [Stopwatch.stop, reading]
    have extended : Kept c (uses ++ [.stop k]) ⟨c.after (uses.length + 1), b.opened ++ [],
        b.closed ++ [⟨watch.file, Duration.between watch.opened (c.after uses.length).now⟩]⟩ :=
      kept.extend rfl rfl (fun _ other => by cases other) fun other same => by cases same; exact ⟨watch, opened, rfl⟩
    rwa [List.append_nil] at extended

theorem kept_of_run (ran : (fresh c).run uses = some b) : Kept c uses b := by
  induction uses using List.reverseRecOn generalizing b with
  | nil =>
    obtain rfl := Option.some.inj ran
    exact kept_fresh c
  | append_singleton front last ih =>
    rw [run_concat, Option.bind_eq_some_iff] at ran
    obtain ⟨before, ranBefore, used⟩ := ran
    exact (ih ranBefore).use used

/-- A record that is opened at one reading and closed at a later one measures the steps between them. -/
theorem elapsed_of_run (ran : (fresh c).run uses = some b) {i j : Nat} {file : String}
    (opened : uses[i]? = some (.start file)) (closed : uses[j]? = some (.stop (starts (uses.take i)))) :
    ∃ timing, b.closed[stops (uses.take j)]? = some timing ∧ timing.file = file ∧
      timing.elapsed.toInt = Duration.clamped ((j - i) * c.step.toInt) := by
  have kept := kept_of_run ran
  obtain ⟨watch, found, timing⟩ := kept.closed j _ closed
  rw [kept.opened i file opened] at found
  obtain rfl := Option.some.inj found
  exact ⟨_, timing, rfl, c.between_after i j⟩

end Run

end Bench

end Distill
