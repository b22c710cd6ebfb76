/-!
Dates, with or without a time of day, as YAML writes them.
-/
namespace Distill.Yaml.Timestamp

/-- A number of one or two digits. -/
def number? : List Char → Option (Nat × List Char)
  | a :: b :: rest =>
    if !a.isDigit then none
    else if b.isDigit then some ((a.toNat - 48) * 10 + (b.toNat - 48), rest)
    else some (a.toNat - 48, b :: rest)
  | [a] => if a.isDigit then some (a.toNat - 48, []) else none
  | [] => none

/-- The text after a character that has to come first. -/
def after? (x : Char) : List Char → Option (List Char)
  | c :: rest => if c = x then some rest else none
  | [] => none

def isLeap (year : Nat) : Bool := year % 4 = 0 && (year % 100 ≠ 0 || year % 400 = 0)

def daysIn (year month : Nat) : Nat :=
  if month = 2 then (if isLeap year then 29 else 28) else if month ∈ [4, 6, 9, 11] then 30 else 31

/-- A date, and the text after it. -/
def afterDate? (cs : List Char) : Option (List Char) := do
  let year := cs.takeWhile Char.isDigit
  if year.length ≠ 4 then none
  else
    let (month, rest) ← number? (← after? '-' (cs.drop 4))
    let (day, rest) ← number? (← after? '-' rest)
    let year := year.foldl (fun n c => n * 10 + (c.toNat - 48)) 0
    if 1 ≤ month ∧ month ≤ 12 ∧ 1 ≤ day ∧ day ≤ daysIn year month then some rest else none

/-- A time of day, whose seconds may have a fraction, and the text after it. -/
def afterTime? (cs : List Char) : Option (List Char) := do
  let (hour, rest) ← number? cs
  let (minute, rest) ← number? (← after? ':' rest)
  let (second, rest) ← number? (← after? ':' rest)
  if 24 ≤ hour ∨ 60 ≤ minute ∨ 60 ≤ second then none
  else match rest with
    | p :: d :: more =>
      if (p = '.' ∨ p = ',') ∧ d.isDigit then some (more.dropWhile Char.isDigit) else some rest
    | _ => some rest

/-- Whether a text is a zone: `Z`, or a sign, hours and minutes. -/
def isZone : List Char → Bool
  | ['Z'] => true
  | [sign, a, b, ':', c, d] =>
    (sign = '+' || sign = '-') && [a, b, c, d].all Char.isDigit &&
      (a.toNat - 48) * 10 + (b.toNat - 48) ≤ 24 && (c.toNat - 48) * 10 + (d.toNat - 48) ≤ 60
  | _ => false

/-- Whether a text is a date, a date and a time with a zone, or a date and a time after blanks. -/
def accepts (text : String) : Bool :=
  match afterDate? text.toList with
  | none => false
  | some [] => true
  | some (c :: rest) =>
    if c = 'T' ∨ c = 't' then (afterTime? rest).any isZone
    else c = ' ' && afterTime? (rest.dropWhile (· = ' ')) = some []

end Distill.Yaml.Timestamp
