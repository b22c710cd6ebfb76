import Mathlib.Data.List.Basic
import Distill.Proofs.Json.Envelope
import Distill.Report

/-!
Reports, read back from what is printed. Durations are shown as seconds with three decimals (`Duration.isFixed_seconds`);
read as milliseconds they are what the JSON report has, and both forms of a report give the same figures
(`Report.ofText?_text`, `Report.ofEnvelope?_json`).
-/
namespace Distill

namespace Text

/-- The digits of a number before and behind its dot: no zero in front of other digits, and three decimals. -/
structure IsFixed (whole places : List Char) : Prop where
  nonempty : whole ≠ []
  digits : ∀ c ∈ whole, c.isDigit = true
  plain : whole.head? = some '0' → whole = ['0']
  three : places.length = 3
  decimals : ∀ c ∈ places, c.isDigit = true

/-- A number with three decimals, as a number of thousandths, and what follows it. -/
def readThousandths (cs : List Char) : Option (Nat × List Char) := do
  let (whole, rest) ← Json.readNat cs
  let places := (rest.drop 1).take 3
  if rest.head? = some '.' ∧ places.length = 3 ∧ places.all Char.isDigit = true then
    return (whole * 1000 + Nat.ofDigitChars 10 places 0, rest.drop 4)
  else none

/-- The number of thousandths that a text stands for. -/
def thousandths? (s : String) : Option Nat :=
  match readThousandths s.toList with
  | some (n, []) => some n
  | _ => none

theorem readThousandths_toDigits (n : Nat) {places : List Char} (three : places.length = 3)
    (digits : ∀ c ∈ places, c.isDigit = true) (rest : List Char) :
    readThousandths (Nat.toDigits 10 n ++ '.' :: (places ++ rest)) =
      some (n * 1000 + Nat.ofDigitChars 10 places 0, rest) := by
  have taken : ((places ++ rest).take 3) = places := by rw [← three, List.take_left]
  have left : ((places ++ rest).drop 3) = rest := by rw [← three, List.drop_left]
  rw [readThousandths, Json.readNat_toDigits n (Json.stops_cons (by decide) _)]
  simp only [Option.bind_eq_bind, Option.bind_some, List.drop_succ_cons, List.drop_zero, List.head?_cons, taken, left]
  rw [if_pos ⟨trivial, three, List.all_eq_true.2 digits⟩]
  rfl

theorem plain_toDigits {n : Nat} (zero : (Nat.toDigits 10 n).head? = some '0') : Nat.toDigits 10 n = ['0'] := by
  by_cases positive : 0 < n
  · exact absurd zero (Json.head_toDigits positive)
  · obtain rfl : n = 0 := by omega
    exact Nat.toDigits_zero 10

/-- A number that fits into a width is shown in exactly as many digits. -/
theorem paddedInt_of_length_le {width n : Nat} (fits : (Nat.toDigits 10 n).length ≤ width) :
    (paddedInt width n).toList.length = width ∧ (∀ c ∈ (paddedInt width n).toList, c.isDigit = true) ∧
      Nat.ofDigitChars 10 (paddedInt width n).toList 0 = n := by
  have shown : (paddedInt width n).toList =
      List.replicate (width - (Nat.toDigits 10 n).length) '0' ++ Nat.toDigits 10 n := by
    rw [paddedInt, if_neg (by omega), Int.natAbs_natCast, String.toList_ofList]
  rw [shown]
  refine ⟨?_, ?_, ?_⟩
  · rw [List.length_append, List.length_replicate]
    omega
  · intro c member
    rcases List.mem_append.1 member with zero | digit
    · rw [List.eq_of_mem_replicate zero]
      decide
    · exact Nat.isDigit_of_mem_toDigits (by decide) (by decide) digit
  · rw [Nat.ofDigitChars_append, Nat.ofDigitChars_replicate_zero, Nat.mul_zero, Nat.ofDigitChars_ten_toDigits]

end Text

namespace Duration

open Text

/-- A time that is not negative is shown by its whole seconds and three digits for the milliseconds of the rest. -/
theorem exists_seconds {d : Duration} (nonneg : 0 ≤ d) : ∃ n places, d.seconds.toList = Nat.toDigits 10 n ++ '.' :: places ∧
    places.length = 3 ∧ (∀ c ∈ places, c.isDigit = true) ∧
    d.milliseconds = (n * 1000 + Nat.ofDigitChars 10 places 0 : Nat) := by
  obtain ⟨t, value⟩ := Int.eq_ofNat_of_zero_le (Int64.le_iff_toInt_le.1 nonneg)
  have whole : (t : Int).tdiv 1000000000 = (t / 1000000000 : Nat) := rfl
  have part : ((t : Int).tmod 1000000000).tdiv 1000000 = (t % 1000000000 / 1000000 : Nat) := rfl
  have all : (t : Int).tdiv 1000000 = (t / 1000000 : Nat) := rfl
  have sum : t / 1000000 = t / 1000000000 * 1000 + t % 1000000000 / 1000000 := by omega
  have small : t % 1000000000 / 1000000 < 10 ^ 3 := by omega
  obtain ⟨three, decimals, read⟩ :=
    paddedInt_of_length_le ((Nat.length_toDigits_le_iff (by decide) (by decide)).2 small)
  refine ⟨t / 1000000000, _, ?_, three, decimals, ?_⟩
  · rw [seconds, value, whole, part, String.toList_append, String.toList_append, Json.toList_toString,
      if_neg (by omega), Int.natAbs_natCast, List.nil_append, List.append_assoc]
    rfl
  · rw [milliseconds, value, all, read, sum]

theorem isFixed_seconds {d : Duration} (nonneg : 0 ≤ d) : ∃ whole places, d.seconds.toList = whole ++ '.' :: places ∧
    IsFixed whole places ∧ (Nat.ofDigitChars 10 (whole ++ places) 0 : Nat) = d.milliseconds := by
  obtain ⟨n, places, shown, three, decimals, value⟩ := exists_seconds nonneg
  refine ⟨_, places, shown, ⟨Nat.toDigits_ne_nil, ?_, plain_toDigits, three, decimals⟩, ?_⟩
  · exact fun c => Nat.isDigit_of_mem_toDigits (by decide) (by decide)
  · rw [value, Nat.ofDigitChars_append, Nat.ofDigitChars_ten_toDigits, Nat.ofDigitChars_eq_ofDigitChars_zero, three]
    omega

theorem readThousandths_seconds {d : Duration} (nonneg : 0 ≤ d) (rest : List Char) :
    readThousandths (d.seconds.toList ++ rest) = some (d.milliseconds.toNat, rest) := by
  obtain ⟨n, places, shown, three, decimals, value⟩ := exists_seconds nonneg
  rw [shown, List.append_assoc, List.cons_append, readThousandths_toDigits n three decimals, value, Int.toNat_natCast]

theorem thousandths?_seconds {d : Duration} (nonneg : 0 ≤ d) : thousandths? d.seconds = some d.milliseconds.toNat := by
  have read := readThousandths_seconds nonneg []
  rw [List.append_nil] at read
  rw [thousandths?, read]

theorem milliseconds_nonneg {d : Duration} (nonneg : 0 ≤ d) : 0 ≤ d.milliseconds := by
  obtain ⟨n, places, -, -, -, value⟩ := exists_seconds nonneg
  rw [value]
  exact Int.natCast_nonneg _

theorem milliseconds_mono {d e : Duration} (longer : d ≤ e) : d.milliseconds ≤ e.milliseconds :=
  Int.tdiv_le_tdiv (by decide) (Int64.le_iff_toInt_le.1 longer)

end Duration

namespace Json

/-- The number under a name. -/
def int? (name : String) (v : Json) : Option Int :=
  match v.field? name with
  | some (.int n) => some n
  | _ => none

end Json

namespace Report

open Text

/-- The figures of a report, times in milliseconds. -/
structure Figures where
  wall : Int
  files : Int
  elapsed : Int
deriving DecidableEq, Repr

def figures (r : Report) : Figures := ⟨r.wall.milliseconds, r.total.files, r.total.elapsed.milliseconds⟩

/-- A number between its label and its unit, and what follows. -/
def readEntry {α : Type} (label unit : String) (read : List Char → Option (α × List Char)) (cs : List Char) :
    Option (α × List Char) := do
  let (n, rest) ← read (← cs.dropPrefix? label.toList)
  return (n, ← rest.dropPrefix? unit.toList)

/-- The figures that a report for people shows. -/
def ofText? (text : String) : Option Figures := do
  let (wall, rest) ← readEntry "total    : " " seconds\n\n" readThousandths text.toList
  let (files, rest) ← readEntry "compiled : " " files\n" Json.readInt rest
  let (elapsed, rest) ← readEntry "elapsed  : " " seconds\n" readThousandths rest
  if rest = [] then return ⟨wall, files, elapsed⟩ else none

/-- The figures in the envelope of a report. -/
def ofEnvelope? (line : String) : Option Figures := do
  let data ← (← Json.ofText? line).field? "data"
  return ⟨← data.int? "wall_elapsed_ms", ← data.int? "files", ← data.int? "elapsed_ms"⟩

theorem readEntry_append {α : Type} {label unit : String} {read : List Char → Option (α × List Char)} {n : α}
    {shown rest : List Char} (reads : read (shown ++ (unit.toList ++ rest)) = some (n, unit.toList ++ rest)) :
    readEntry label unit read (label.toList ++ (shown ++ (unit.toList ++ rest))) = some (n, rest) := by
  have dropped (cs more : List Char) : (cs ++ more).dropPrefix? cs = some more :=
    List.dropPrefix?_append_of_beq more (beq_self_eq_true cs)
  simp only [readEntry, dropped, reads, Option.bind_eq_bind, Option.bind_some]
  rfl

theorem toList_text (r : Report) : r.text.toList =
    "total    : ".toList ++ (r.wall.seconds.toList ++ (" seconds\n\n".toList ++
      ("compiled : ".toList ++ ((toString r.total.files).toList ++ (" files\n".toList ++
        ("elapsed  : ".toList ++ (r.total.elapsed.seconds.toList ++ (" seconds\n".toList ++ [])))))))) := by
  -- not by the equation of `text`: deriving it would evaluate the literals
  delta text
  simp only [String.toList_append, List.append_assoc, List.append_nil]

theorem ofText?_text {r : Report} (wall : 0 ≤ r.wall) (elapsed : 0 ≤ r.total.elapsed) : ofText? r.text = some r.figures := by
  have files (rest : List Char) : Json.readInt ((toString r.total.files).toList ++ (" files\n".toList ++ rest)) =
      some (r.total.files, " files\n".toList ++ rest) :=
    Json.readInt_toString _ (Json.stops_cons (by decide) _)
  rw [ofText?, toList_text, readEntry_append (Duration.readThousandths_seconds wall _)]
  simp only [Option.bind_eq_bind, Option.bind_some]
  rw [readEntry_append (files _)]
  simp only [Option.bind_some]
  rw [readEntry_append (Duration.readThousandths_seconds elapsed _)]
  simp only [Option.bind_some, if_true, Int.toNat_of_nonneg (Duration.milliseconds_nonneg wall),
    Int.toNat_of_nonneg (Duration.milliseconds_nonneg elapsed)]
  rfl

theorem ofEnvelope?_json {r : Report} {o : Output} (json : o.format = .json) :
    ofEnvelope? (o.result r.text r.json) = some r.figures := by
  have printed : o.result r.text r.json = Output.envelope "ok" (("data", r.json) :: o.runField) := by
    rw [Output.result, json]
    rfl
  have wall : r.json.int? "wall_elapsed_ms" = some r.wall.milliseconds := by
    rw [Json.int?, Report.json, Json.field?_cons_self]
  have files : r.json.int? "files" = some r.total.files := by
    rw [Json.int?, Report.json, Json.field?_cons_ne (by decide), Json.field?_cons_self]
  have elapsed : r.json.int? "elapsed_ms" = some r.total.elapsed.milliseconds := by
    rw [Json.int?, Report.json, Json.field?_cons_ne (by decide), Json.field?_cons_ne (by decide), Json.field?_cons_self]
  rw [ofEnvelope?, printed, (Output.prints_envelope _ _).reads]
  simp only [Option.bind_eq_bind, Option.bind_some]
  rw [Json.field?_cons_ne (by decide), Json.field?_cons_self]
  simp only [Option.bind_some, wall, files, elapsed]
  rfl

namespace Sample

/-- The longest time there is, and one just short of a second. -/
def report : Report := ⟨Int64.maxValue, ⟨-3, 999999999⟩, []⟩

def output : Output := { format := .json, verbose := false, runId := "r" }

end Sample

/-- A time that is not negative is shown as seconds with three decimals, which read as milliseconds are the number in the
JSON report; so a longer time is never shown as a smaller number. Whatever else is asked of the output, both forms of a
report without negative times show the same figures. -/
theorem renderings_agree :
    (∀ d : Duration, 0 ≤ d → ∃ whole places, d.seconds.toList = whole ++ '.' :: places ∧ IsFixed whole places ∧
      (Nat.ofDigitChars 10 (whole ++ places) 0 : Nat) = d.milliseconds ∧
      thousandths? d.seconds = some d.milliseconds.toNat) ∧
    (∀ d e : Duration, 0 ≤ d → d ≤ e → ∃ m n, thousandths? d.seconds = some m ∧ thousandths? e.seconds = some n ∧ m ≤ n) ∧
    ∀ (r : Report) (o : Output), 0 ≤ r.wall → 0 ≤ r.total.elapsed →
      ofText? ({ o with format := .text }.result r.text r.json) = some r.figures ∧
      ofEnvelope? ({ o with format := .json }.result r.text r.json) = some r.figures := by
  refine ⟨fun d nonneg => ?_, fun d e nonneg longer => ?_, fun r o wall elapsed => ?_⟩
  · obtain ⟨whole, places, shown, fixed, value⟩ := Duration.isFixed_seconds nonneg
    exact ⟨whole, places, shown, fixed, value, Duration.thousandths?_seconds nonneg⟩
  · have nonnegE : 0 ≤ e := Int64.le_trans nonneg longer
    exact ⟨_, _, Duration.thousandths?_seconds nonneg, Duration.thousandths?_seconds nonnegE,
      Int.toNat_le_toNat (Duration.milliseconds_mono longer)⟩
  · exact ⟨ofText?_text wall elapsed, ofEnvelope?_json rfl⟩

theorem renderings_agree_longest :
    Sample.report.wall.seconds = "9223372036.854" ∧ Sample.report.total.elapsed.seconds = "0.999" ∧
    Text.thousandths? Sample.report.wall.seconds = some 9223372036854 ∧
    ofText? ({ Sample.output with format := .text }.result Sample.report.text Sample.report.json) =
      some ⟨9223372036854, -3, 999⟩ ∧
    ofEnvelope? ({ Sample.output with format := .json }.result Sample.report.text Sample.report.json) =
      some ⟨9223372036854, -3, 999⟩ := by
  obtain ⟨single, -, both⟩ := renderings_agree
  obtain ⟨-, -, -, -, -, read⟩ := single Int64.maxValue (by decide)
  exact ⟨by decide, by decide, read, both Sample.report Sample.output (by decide) (by decide)⟩

end Report

end Distill
