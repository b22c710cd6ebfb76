import Distill.Text.Quoted
import Distill.Timing

/-!
Log records and their lines: level, message, then named values.
-/
namespace Distill.Log

inductive Level where
  | debug
  | info
  | warn
  | error
deriving DecidableEq, Repr

def Level.name : Level → String
  | debug => "DEBUG"
  | info => "INFO"
  | warn => "WARN"
  | error => "ERROR"

def Level.rank : Level → Nat
  | debug => 0
  | info => 1
  | warn => 2
  | error => 3

inductive Value where
  | text (s : String)
  | count (n : Nat)
  | time (d : Duration)
deriving DecidableEq, Repr

def Value.render : Value → String
  | text s => Text.logValue s
  | count n => toString n
  | time d => Text.logValue d.text

structure Record where
  level : Level
  message : String
  values : List (String × Value)
deriving DecidableEq, Repr

/-- A named value, after a blank. -/
def field (named : String × Value) : String := " " ++ named.1 ++ "=" ++ named.2.render

/-- The line of a record; the values of `context` come before those of the record. -/
def Record.line (r : Record) (context : List (String × Value)) : String :=
  "level=" ++ r.level.name ++ " msg=" ++ Text.logValue r.message ++
    String.join ((context ++ r.values).map field)

/-- The lines of the records at or above a level. -/
def lines (least : Level) (context : List (String × Value)) (rs : List Record) : List String :=
  (rs.filter fun r => least.rank ≤ r.level.rank).map (·.line context)

end Distill.Log
