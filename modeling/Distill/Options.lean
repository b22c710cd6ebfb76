import Distill.Compiler
import Distill.Manifest
import Distill.Text.Integer
import Distill.Text.Quoted
import Distill.Text.Utf8

/-!
The options of the command. Arguments are read from left to right and the first error counts; after that come the
checks of the options as a whole.
-/
namespace Distill

structure Options where
  verbose : Bool := false
  format : String := "text"
  /-- The workspace root; if empty it is searched for. -/
  root : String := ""
  manifest : String := Manifest.defaultName
  jobs : Int := 1
  transpiler : String := "esbuild"
  elide : Bool := false
  help : Bool := false
  /-- The names of the flags that were set. -/
  given : List String := []
deriving DecidableEq, Repr

/-- Why the arguments are refused. -/
inductive OptionProblem where
  | unknownFlag (name : String)
  /-- The letter and what is left of the cluster from it on. -/
  | unknownLetter (letter : Char) (cluster : List Char)
  | noArgument (flag : String)
  | noLetterArgument (letter : Char) (cluster : List Char)
  | badFlag (text : String)
  | badArgument (value flag reason : String)
  | unknownCommand (name : String)
  | badFormat (name : String)
  | badTranspiler (name : String)
  | badJobs (n : Int)
  /-- There is no word to complete. -/
  | nothingToComplete
deriving DecidableEq, Repr

/-- The name that the command goes by. -/
def Options.command : String := "gkc"

/-- The names of the output formats. -/
def Options.formats : List String := ["text", "json"]

/-- A letter in messages: in single quotes. -/
def quotedLetter (c : Char) : String :=
  if c = '\'' then "'\\''" else if c = '"' then "'\"'" else "'" ++ Text.quotedChar c ++ "'"

def OptionProblem.message : OptionProblem → String
  | unknownFlag name => "unknown flag: --" ++ name
  | unknownLetter letter cluster =>
    "unknown shorthand flag: " ++ quotedLetter letter ++ " in -" ++ String.ofList cluster
  | noArgument flag => "flag needs an argument: " ++ flag
  | noLetterArgument letter cluster =>
    "flag needs an argument: " ++ quotedLetter letter ++ " in -" ++ String.ofList cluster
  | badFlag text => "bad flag syntax: " ++ text
  | badArgument value flag reason =>
    "invalid argument " ++ Text.quoted value ++ " for " ++ Text.quoted flag ++ " flag: " ++ reason
  | unknownCommand name => "unknown command " ++ Text.quoted name ++ " for " ++ Text.quoted Options.command
  | badFormat name =>
    "invalid format " ++ Text.quoted name ++ ": must be one of [" ++ Script.joined " " Options.formats ++ "]"
  | badTranspiler name =>
    "invalid transpiler " ++ Text.quoted name ++ ": must be one of [" ++ Script.joined " " Stripper.names ++ "]"
  | badJobs n => "invalid jobs " ++ toString n ++ ": must be at least 1"
  | nothingToComplete => "requires at least 1 arg(s), only received 0"

/-- What an option takes, and where the options hold it. -/
inductive Setter where
  | switch (set : Bool → Options → Options)
  | text (get : Options → String) (set : String → Options → Options)
  | number (get : Options → Int) (set : Int → Options → Options)

structure Flag where
  name : String
  letter : Option Char
  /-- What the flag is for. -/
  purpose : String
  setter : Setter

/-- How messages name a flag. -/
def Flag.title (f : Flag) : String :=
  match f.letter with
  | some c => "-" ++ String.singleton c ++ ", --" ++ f.name
  | none => "--" ++ f.name

/-- Whether a flag can stand without an argument. -/
def Flag.isSwitch (f : Flag) : Bool :=
  match f.setter with
  | .switch _ => true
  | _ => false

/-- The options that can be set, in the order of their names. -/
def flags : List Flag := [
  ⟨"elide-unused-imports", none, "drop imports that are unused after type stripping",
    .switch fun b o => { o with elide := b }⟩,
  ⟨"format", none, "output format (json|text)", .text Options.format fun s o => { o with format := s }⟩,
  ⟨"help", some 'h', "help for " ++ Options.command, .switch fun b o => { o with help := b }⟩,
  ⟨"jobs", some 'j', "packages to compile concurrently", .number Options.jobs fun n o => { o with jobs := n }⟩,
  ⟨"manifest", none, "workspace manifest file name", .text Options.manifest fun s o => { o with manifest := s }⟩,
  ⟨"root", none, "workspace root (default: nearest ancestor containing .git)",
    .text Options.root fun s o => { o with root := s }⟩,
  ⟨"transpiler", none, "type stripper (esbuild|tsc)", .text Options.transpiler fun s o => { o with transpiler := s }⟩,
  ⟨"verbose", some 'v', "verbose output", .switch fun b o => { o with verbose := b }⟩]

/-- The words for the two positions of a switch. -/
def switchPosition? (text : String) : Option Bool :=
  if text ∈ ["1", "t", "T", "TRUE", "true", "True"] then some true
  else if text ∈ ["0", "f", "F", "FALSE", "false", "False"] then some false
  else none

/-- The options with a flag set to the value that a text stands for. -/
def Flag.set (f : Flag) (value : String) (o : Options) : Except OptionProblem Options :=
  let refuse (reader reason : String) : OptionProblem :=
    .badArgument value f.title ("strconv." ++ reader ++ ": parsing " ++ Text.quoted value ++ ": " ++ reason)
  let o := { o with given := f.name :: o.given }
  match f.setter with
  | .text _ set => .ok (set value o)
  | .switch set =>
    match switchPosition? value with
    | some b => .ok (set b o)
    | none => .error (refuse "ParseBool" "invalid syntax")
  | .number _ set =>
    match Text.integer? value with
    | .ok n => .ok (set n o)
    | .error p => .error (refuse "ParseInt" p.message)

/-- Reads an argument that starts with two dashes, given what follows it. -/
def Options.readLong (o : Options) (arg : String) (rest : List String) : Except OptionProblem (Options × List String) := do
  let body := arg.toList.drop 2
  let name := body.takeWhile (· ≠ '=')
  if name = [] || name.head? = some '-' then throw (.badFlag arg)
  match flags.find? fun f => f.name.toList = name with
  | none => throw (.unknownFlag (String.ofList name))
  | some f =>
    if name.length < body.length then return (← f.set (String.ofList (body.drop (name.length + 1))) o, rest)
    if f.isSwitch then return (← f.set "true" o, rest)
    match rest with
    | value :: rest => return (← f.set value o, rest)
    | [] => throw (.noArgument arg)

/-- The letter that a cluster starts with, byte by byte. -/
def firstLetter (c : Char) : Char :=
  match Text.encodeChars [c] with
  | b :: _ => Char.ofNat b.toNat
  | [] => c

/-- Reads a cluster of letters, given the arguments that follow it. A letter that takes an argument takes the rest of the
cluster or the next argument. -/
def Options.readCluster : (cluster : List Char) → Options → List String → Except OptionProblem (Options × List String)
  | [], o, rest => .ok (o, rest)
  | c :: cluster, o, rest =>
    if "test.".toList.isPrefixOf (c :: cluster) then .ok (o, rest)
    else
      match flags.find? fun f => f.letter = some c with
      | none => .error (.unknownLetter (firstLetter c) (c :: cluster))
      | some f =>
        match cluster with
        | '=' :: d :: value => do return (← f.set (String.ofList (d :: value)) o, rest)
        | _ =>
          if f.isSwitch then do readCluster cluster (← f.set "true" o) rest
          else if cluster ≠ [] then do return (← f.set (String.ofList cluster) o, rest)
          else
            match rest with
            | value :: rest => do return (← f.set value o, rest)
            | [] => .error (.noLetterArgument c [c])

/-- Reads the arguments: the options and what stands among them that is no flag. After two dashes nothing is a flag. -/
def Options.read : (fuel : Nat) → Options → List String → Except OptionProblem (Options × List String)
  | 0, o, _ => .ok (o, [])
  | _ + 1, o, [] => .ok (o, [])
  | fuel + 1, o, arg :: rest =>
    match arg.toList with
    | ['-', '-'] => .ok (o, rest)
    | '-' :: '-' :: _ => do
      let (o, rest) ← o.readLong arg rest
      read fuel o rest
    | '-' :: c :: cluster => do
      let (o, rest) ← o.readCluster (c :: cluster) rest
      read fuel o rest
    | _ => do
      let (o, others) ← read fuel o rest
      return (o, arg :: others)

/-- The checks of the options as a whole. -/
def Options.check (o : Options) (others : List String) : Except OptionProblem Unit := do
  if let name :: _ := others then throw (.unknownCommand name)
  if o.format ∉ formats then throw (.badFormat o.format)
  if o.transpiler ∉ Stripper.names then throw (.badTranspiler o.transpiler)
  if o.jobs < 1 then throw (.badJobs o.jobs)

/-- The options that the arguments stand for; a request for help makes the other checks unnecessary. -/
def Options.ofArguments (args : List String) : Except OptionProblem Options := do
  let (o, others) ← Options.read (args.length + 1) {} args
  if !o.help then o.check others
  return o

/-- What help shows of a flag: how it is written, and what it is for. -/
def Flag.helpColumns (f : Flag) : String × String :=
  let start := match f.letter with
    | some c => "  -" ++ String.singleton c ++ ", --" ++ f.name
    | none => "      --" ++ f.name
  let withDefault (text : String) : String := f.purpose ++ " (default " ++ text ++ ")"
  match f.setter with
  | .switch _ => (start, f.purpose)
  | .text get _ => (start ++ " string", if get {} = "" then f.purpose else withDefault (Text.quoted (get {})))
  | .number get _ => (start ++ " int", withDefault (toString (get {})))

/-- The flags one below the other, with what they are for in a column of its own. -/
def Options.flagTable : String :=
  let rows := flags.map Flag.helpColumns
  let width := rows.foldl (fun w r => max w r.1.length) 0
  String.join (rows.map fun (left, right) =>
    left ++ String.ofList (List.replicate (width + 3 - left.length) ' ') ++ right ++ "\n")

/-- What the command says about itself. -/
def Options.helpText : String :=
  "Compile every package listed in the workspace manifest.\n\n" ++
  "For each package, dist/ is deleted and every **/*.ts file is compiled to\n" ++
  "dist/<same path>.js with types stripped and relative import specifiers\n" ++
  "given an explicit .js extension.\n\n" ++
  "Usage:\n  " ++ command ++ " [flags]\n\n" ++
  "Flags:\n" ++ flagTable

end Distill
