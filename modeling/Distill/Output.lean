import Distill.Failure
import Distill.Json

/-!
What a command prints: a result or an error, as text or as one JSON envelope on a line of its own.
-/
namespace Distill

inductive OutputFormat where
  | text
  | json
deriving DecidableEq, Repr

/-- Any name but `json` asks for text. -/
def OutputFormat.ofName (name : String) : OutputFormat := if name = "json" then .json else .text

structure Output where
  format : OutputFormat
  verbose : Bool
  /-- Stamped on every envelope unless empty. -/
  runId : String
deriving DecidableEq, Repr

namespace Output

/-- A field unless its value is null. -/
def optional (name : String) : Json → List (String × Json)
  | .null => []
  | value => [(name, value)]

def runField (o : Output) : List (String × Json) :=
  if o.runId = "" then [] else [("run_id", .str o.runId)]

def envelope (status : String) (fields : List (String × Json)) : String :=
  (Json.obj (("status", .str status) :: fields)).render ++ "\n"

/-- A result, which has a text of its own besides its data. -/
def result (o : Output) (text : String) (data : Json) : String :=
  match o.format with
  | .json => envelope "ok" (optional "data" data ++ o.runField)
  | .text => text

/-- A result that is only data. -/
def success (o : Output) (payload : Json) : String :=
  let payload := payload.sortFields
  o.result payload.plain payload

/-- An error record. Details are shown as text only on request. -/
def error (o : Output) (code message : String) (details : Json) : String :=
  let details := details.sortFields
  match o.format with
  | .json =>
    envelope "error"
      (("error", .obj ([("code", .str code), ("message", .str message)] ++ optional "details" details)) ::
        o.runField)
  | .text =>
    let shown := "Error [" ++ code ++ "]: " ++ message ++ "\n"
    match details with
    | .null => shown
    | _ => if o.verbose then shown ++ "Details: " ++ details.plain ++ "\n" else shown

/-- The record of a failed run, and the failure the command ends with. -/
def runFailure (o : Output) (f : Failure) : String × Failure :=
  (o.error f.code f.message .null, .within (.exit 2 f.code) f)

end Output

end Distill
