import GradedReading.Format.Weight
import GradedReading.Language
import GradedReading.Level

/-!
# GradedReading.CommandLine.Option

The options and operands of the command line, and what may be given for them.
-/

namespace GradedReading.CommandLine

open Format Number

/-- Why a command line is not carried out. -/
inductive UsageError where
  /-- Help was asked for. -/
  | help
  /-- Nothing was given at all. -/
  | nothingGiven
  | missingCommand
  | unknownCommand
  | unknownArgument
  | missingArgument
  /-- Something that may be given once was given twice. -/
  | givenTwice
  /-- A value is missing or not among those that are possible. -/
  | invalidValue
  /-- A value cannot be read. -/
  | unreadableValue
  /-- A flag was given a value. -/
  | unexpectedValue
deriving DecidableEq, Repr, Inhabited

/-- The exit code of the program: asking for help is no mistake. -/
def UsageError.exitCode : UsageError → Nat
  | .help => 0
  | _ => 2

/-- The wording of a usage error. -/
def UsageError.message : UsageError → String
  | .help => "search a corpus or parse files, and rank the documents by readability"
  | .nothingGiven | .missingCommand => "a command is missing: search or parse"
  | .unknownCommand => "unknown command"
  | .unknownArgument => "unexpected argument"
  | .missingArgument => "a required argument is missing"
  | .givenTwice => "an argument was given twice"
  | .invalidValue => "a value is missing or not possible"
  | .unreadableValue => "a value cannot be read"
  | .unexpectedValue => "a value was given to a flag"

/-- What the program is asked to do. -/
inductive Command where
  | search
  | parse
deriving DecidableEq, Repr, Inhabited

namespace Command

/-- All commands. -/
def all : List Command := [.search, .parse]

/-- The word for a command. -/
def name : Command → String
  | .search => "search"
  | .parse => "parse"

/-- The command with this name. -/
def ofName? (s : String) : Option Command := all.find? (·.name == s)

end Command

/-- Options, and the operands `query` and `paths`, which are given by their place. -/
inductive Param where
  | help
  | verbose
  | config
  | query
  | corpus
  | results
  | restricted
  | restrictedDir
  | more
  | paths
  | lang
  | keywords
  | weight
  | disable
  | disableLevel
  | keywordWeight
  | lengthWeight
  | minWords
  | json
  | top
  | noProgress
deriving DecidableEq, Repr, Inhabited

/-- How many values stand after an option. -/
inductive Arity where
  | flag
  | one
  /-- All arguments up to the next option, at least one. -/
  | many
deriving DecidableEq, Repr

namespace Param

/-- Options that can be given before and after the command. -/
def everywhere : List Param := [.help, .verbose, .config]

/-- Options of both commands. -/
def common : List Param :=
  [.lang, .keywords, .weight, .disable, .disableLevel, .keywordWeight, .lengthWeight, .minWords,
   .json, .top, .noProgress]

/-- The options that are known after a command, or before it. -/
def known : Option Command → List Param
  | none => everywhere
  | some .search =>
    [.corpus, .results, .restricted, .restrictedDir, .more] ++ common ++ everywhere
  | some .parse => common ++ everywhere

/-- The word of an option, which stands after two dashes. -/
def long : Param → String
  | .help => "help"
  | .verbose => "verbose"
  | .config => "config"
  | .query => "query"
  | .corpus => "corpus"
  | .results => "results"
  | .restricted => "restricted"
  | .restrictedDir => "restricted-dir"
  | .more => "more"
  | .paths => "paths"
  | .lang => "lang"
  | .keywords => "keywords"
  | .weight => "weight"
  | .disable => "disable"
  | .disableLevel => "disable-level"
  | .keywordWeight => "keyword-weight"
  | .lengthWeight => "length-weight"
  | .minWords => "min-words"
  | .json => "json"
  | .top => "top"
  | .noProgress => "no-progress"

/-- The letter of an option, which stands after one dash. -/
def short? : Param → Option Char
  | .help => some 'h'
  | .verbose => some 'v'
  | .results => some 'n'
  | .lang => some 'L'
  | .keywords => some 'k'
  | _ => none

/-- How many values a parameter takes. -/
def arity : Param → Arity
  | .help | .verbose | .restricted | .json | .noProgress => .flag
  | .restrictedDir | .keywords | .paths => .many
  | _ => .one

/-- The parameter may be given again, and its values add up. -/
def repeatable : Param → Bool
  | .restrictedDir | .keywords | .paths | .weight | .disable | .disableLevel => true
  | _ => false

/-- What must be given for a command. -/
def required : Command → List Param
  | .search => [.query, .corpus]
  | .parse => [.paths]

/-- Check a value: paths are not empty, names are among those that are known, and numbers can be
read. -/
def check (p : Param) (value : String) : Except UsageError Unit :=
  let demand (e : UsageError) (b : Bool) : Except UsageError Unit := if b then .ok () else .error e
  match p with
  | .config | .corpus | .restrictedDir | .paths => demand .invalidValue (!value.isEmpty)
  | .lang => demand .invalidValue (Language.ofUser? value).isSome
  | .disableLevel => demand .invalidValue (Level.ofTyped? value).isSome
  | .results | .more | .minWords | .top => demand .unreadableValue (readNat64 value).isSome
  | .keywordWeight | .lengthWeight => demand .unreadableValue (readFloat value).isOk
  | .weight => demand .unreadableValue (readWeight value).isOk
  | _ => .ok ()

end Param

end GradedReading.CommandLine
