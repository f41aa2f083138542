import GradedReading.CommandLine.Given
import GradedReading.Number.Reader

/-!
# GradedReading.CommandLine.Invocation

Command lines: options, a command, and the options and operands of the command.
-/

namespace GradedReading.CommandLine

open Format Number

/-- What both commands can be told. -/
structure CommonOptions where
  language : Language
  keywords : List String
  /-- Weights of constructions, in the order in which they were given. -/
  weights : List (String × Float)
  /-- Constructions whose documents are dropped. -/
  disabled : List String
  disabledLevels : List Level
  keywordWeight : Option Float
  lengthWeight : Option Float
  /-- Documents with fewer words are dropped. -/
  minWords : Option Nat
  json : Bool
  /-- The number of documents that are printed. -/
  top : Option Nat
  noProgress : Bool
deriving Repr, Inhabited

/-- What is to be done. -/
inductive Task where
  | search (query corpus : String) (results : Nat) (restricted : Bool)
      (restrictedDirs : List String) (more : Option Nat)
  | parse (paths : List String)
deriving Repr, Inhabited

/-- A command line that makes sense. -/
structure Invocation where
  verbose : Bool
  /-- The settings file that was named. -/
  config : Option String
  task : Task
  common : CommonOptions
deriving Repr, Inhabited

/-- Results of a search when no number is given. -/
def standardResults : Nat := 20

/-- The float that a text was checked to be. -/
def floatOf (s : String) : Option Float := (readFloat s).toOption

namespace Given

/-- The options of both commands. -/
def commonOptions (g : Given) : CommonOptions :=
  { language := ((g.value? .lang).bind Language.ofUser?).getD .english
    keywords := g.values .keywords
    weights := (g.values .weight).filterMap fun s => (readWeight s).toOption
    disabled := g.values .disable
    disabledLevels := (g.values .disableLevel).filterMap Level.ofTyped?
    keywordWeight := (g.value? .keywordWeight).bind floatOf
    lengthWeight := (g.value? .lengthWeight).bind floatOf
    minWords := (g.value? .minWords).bind readNat64
    json := g.has .json
    top := (g.value? .top).bind readNat64
    noProgress := g.has .noProgress }

/-- What a command is to do. -/
def task (g : Given) : Command → Task
  | .search =>
    .search ((g.value? .query).getD "") ((g.value? .corpus).getD "")
      (((g.value? .results).bind readNat64).getD standardResults) (g.has .restricted)
      (g.values .restrictedDir) ((g.value? .more).bind readNat64)
  | .parse => .parse (g.values .paths)

end Given

/-- The invocation that was given before and after a command. An option that may stand on either
side counts after the command if it stands on both. -/
def Invocation.of (before after : Given) (c : Command) : Invocation :=
  { verbose := before.has .verbose || after.has .verbose
    config := (after.value? .config).or (before.value? .config)
    task := after.task c
    common := after.commonOptions }

/-- Asking for the help of a command, by words after the word `help`. -/
def helpFor : List String → UsageError
  | [] => .help
  | [name] => if name == "help" || (Command.ofName? name).isSome then .help else .unknownCommand
  | _ => .unknownCommand

/-- Read the arguments after a command and put the invocation together. -/
def readCommand (before : Given) (c : Command) (args : List String) :
    Except UsageError Invocation := do
  let after ← readAfter c .nothing false none 0 args
  if (Param.required c).all after.has then
    let before ← before.settle
    pure (.of before after c)
  else .error .missingArgument

/-- An argument that is no option, where a command is expected. -/
def notACommand (optionsOver : Bool) (arg : String) : UsageError :=
  if optionsOver && (arg == "help" || (Command.ofName? arg).isSome) then .unknownArgument
  else .unknownCommand

/-- Read the arguments up to the command, and then those after it. -/
def readBefore (g : Given) (optionsOver : Bool) (next : Option Param) :
    List String → Except UsageError Invocation
  | [] => do
    let g ← g.settle
    .error (if g.settled.isEmpty then .nothingGiven else .missingCommand)
  | arg :: rest =>
    if optionsOver then .error (notACommand true arg)
    else
      match Shape.of arg with
      | .noMoreOptions => readBefore g true next rest
      | .long body => do
        let (g, next) ← readLong none g body
        readBefore g false next rest
      | .short letters => do
        let (g, next) ← readShort none g letters
        readBefore g false next rest
      | .plain =>
        if next.isSome then readBefore (g.addValue arg) false none rest
        else if arg == "help" then .error (helpFor rest)
        else
          match Command.ofName? arg with
          | some c => readCommand g c rest
          | none => .error (notACommand false arg)

/-- Read a command line, without the name of the program. -/
def Invocation.ofArgs (args : List String) : Except UsageError Invocation :=
  readBefore .nothing false none args

end GradedReading.CommandLine
