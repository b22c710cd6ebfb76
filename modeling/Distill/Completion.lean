import Distill.Options

/-!
Completion of a command line that is still being typed. A shell asks for it by a command of its own, followed by the
arguments so far; the last of them is the word that is to be completed. Only names of flags can be offered. Everything
else is left to the shell, which may then offer files.
-/
namespace Distill

/-- What the shell may offer besides the choices. -/
inductive Directive where
  | files
  | noFiles
deriving DecidableEq, Repr

namespace Directive

/-- The number that the shell reads. -/
def code : Directive → Nat
  | files => 0
  | noFiles => 4

/-- The name that people read. -/
def name : Directive → String
  | files => "ShellCompDirectiveDefault"
  | noFiles => "ShellCompDirectiveNoFileComp"

end Directive

/-- Why nothing can be completed. -/
inductive CompletionProblem where
  /-- The arguments before the word are refused. -/
  | arguments (args : List String) (problem : OptionProblem)
  /-- The word is the value of a flag that does not exist. -/
  | unknownFlag (name : String)
deriving DecidableEq, Repr

def CompletionProblem.message : CompletionProblem → String
  | arguments args problem =>
    "Error while parsing flags from args [" ++ Script.joined " " args ++ "]: " ++ problem.message
  | unknownFlag name => "Subcommand '" ++ Options.command ++ "' does not support flag '" ++ name ++ "'"

/-- What is offered for a word. -/
structure Completion where
  /-- The words that can stand there, with what they are for. -/
  choices : List (String × String) := []
  directive : Directive := .files
  problem : Option CompletionProblem := none
deriving DecidableEq, Repr

namespace Completion

/-- What a shell asks for: completions of the last argument, with or without what they are for. -/
structure Request where
  isDescribed : Bool
  args : List String
deriving DecidableEq, Repr

/-- Whether an argument is a flag that takes the next argument. Flags that are not known count as such, and so does the
flag for help. -/
def takesNext (arg : String) : Bool :=
  let isSwitch (p : Flag → Bool) : Bool := flags.any fun f => f.isSwitch && f.name ≠ "help" && p f
  match arg.toList with
  | '-' :: '-' :: name => !name.contains '=' && !isSwitch fun f => f.name.toList = name
  | ['-', c] => c ≠ '=' && c.toNat < 128 && !isSwitch fun f => f.letter = some c
  | _ => false

/-- The first argument that is neither a flag nor its value. -/
def firstWord? : List String → Option String
  | [] => none
  | "--" :: _ => none
  | arg :: rest =>
    if takesNext arg then
      match rest with
      | _ :: next :: more => firstWord? (next :: more)
      | _ => none
    else if arg = "" || arg.toList.head? = some '-' then firstWord? rest
    else some arg

/-- The arguments without the first one that is a word, neither a flag nor its value. -/
def withoutWord (word : String) : List String → List String
  | [] => []
  | "--" :: rest => "--" :: rest
  | arg :: rest =>
    if takesNext arg then
      match rest with
      | value :: more => arg :: value :: withoutWord word more
      | [] => [arg]
    else if arg = word then rest
    else arg :: withoutWord word rest

/-- The request that the arguments of the command stand for. -/
def request? (args : List String) : Option Request := do
  let word ← firstWord? args
  match word with
  | "__complete" => some ⟨true, withoutWord word args⟩
  | "__completeNoDesc" => some ⟨false, withoutWord word args⟩
  | _ => none

/-- The last letter, if it is one that a flag can have. -/
def lastLetter (cs : List Char) : List Char :=
  cs.getLast?.toList.map fun c => if c.toNat < 128 then c else '\uFFFD'

/-- The name of the flag that an argument ends with, if it is a flag: the whole name or the last letter. -/
def flagName (arg : List Char) : List Char :=
  match arg with
  | ['-'] | ['-', '-'] => []
  | '-' :: '-' :: name => name
  | '-' :: cluster => lastLetter cluster
  | _ => []

/-- The flag with a name or a letter. -/
def flagNamed? : List Char → Option Flag
  | [c] => flags.find? fun f => f.letter = some c
  | name => flags.find? fun f => f.name.toList = name

/-- What is known about the word that is to be completed. -/
structure Spot where
  /-- The flag whose value it is. -/
  flag : Option Flag := none
  /-- The arguments before it, without that flag. -/
  args : List String
  /-- The name of a flag that does not exist and whose value it would be. -/
  unknown : Option String := none

/-- Where a word stands after other arguments: it is the value of a flag if it says so itself or if the argument before it
is a flag that takes a value. -/
def Spot.of (args : List String) (word : String) : Spot :=
  let cs := word.toList
  let isFlag := cs.head? = some '-'
  let hasValue := isFlag && cs.contains '='
  let own := match cs.takeWhile (· ≠ '=') with
    | '-' :: '-' :: name => name
    | before => lastLetter before
  let previous := ((args.getLast?.map String.toList).filter fun arg => !arg.contains '=').elim [] flagName
  let (name, before) :=
    if hasValue && own ≠ [] then (own, args)
    else if (isFlag && !hasValue) || previous = [] then ([], args)
    else (previous, args.dropLast)
  match name, flagNamed? name with
  | [], _ => { args }
  | _, none => { args, unknown := some (String.ofList name) }
  | _, some f => if f.isSwitch && !hasValue then { args } else { flag := some f, args := before }

/-- Whether a flag can stand after arguments: two more dashes would not count as an argument. -/
def canTakeFlag (args others : List String) : Bool :=
  match Options.read (args.length + 2) {} (args ++ ["--"]) with
  | .ok (_, more) => more.length ≤ others.length
  | .error _ => true

/-- The ways to write the flags that are not set yet, as far as they start with a word. -/
def flagChoices (given : List String) (word : String) : List (String × String) :=
  (flags.filter fun f => !given.contains f.name).flatMap fun f =>
    let ways := ("--" ++ f.name) :: f.letter.toList.map fun c => "-" ++ String.singleton c
    (ways.filter fun way => word.toList.isPrefixOf way.toList).map fun way => (way, f.purpose)

/-- What is offered for a word after other arguments. After a flag for help there is nothing more to say. -/
def of (args : List String) (word : String) : Completion :=
  let spot := Spot.of args word
  match Options.read (spot.args.length + 1) {} spot.args with
  | .error p => { problem := some (.arguments spot.args p) }
  | .ok (o, others) =>
    let isOpen := canTakeFlag spot.args others
    match spot.unknown.filter fun _ => isOpen with
    | some name => { problem := some (.unknownFlag name) }
    | none =>
      if o.given.contains "help" then { directive := .noFiles }
      else if spot.flag.isNone && word.toList.head? = some '-' && !word.toList.contains '=' && isOpen then
        { choices := flagChoices o.given word, directive := .noFiles }
      else {}

/-- What the shell reads: a line for each choice, and the number of the directive. -/
def text (isDescribed : Bool) (c : Completion) : String :=
  String.join (c.choices.map fun (word, purpose) => word ++ (if isDescribed then "\t" ++ purpose else "") ++ "\n") ++
    ":" ++ toString c.directive.code ++ "\n"

/-- What people read. -/
def remark (c : Completion) : String := "Completion ended with directive: " ++ c.directive.name

/-- What is answered to a request. -/
def Request.answer (r : Request) : Except OptionProblem Completion :=
  match r.args.getLast? with
  | some word => .ok (.of r.args.dropLast word)
  | none => .error .nothingToComplete

end Completion

end Distill
