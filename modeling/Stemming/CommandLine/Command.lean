import Stemming.Stemmer

set_option autoImplicit false

namespace Stemming.CommandLine

/-- Why a command line asks for nothing that can be done. -/
inductive UsageError where
  | missingValue (option : String)
  | unknownOption (argument : String)
  | unusableLanguage (unknown : UnknownLanguage)
  deriving DecidableEq, Repr

def UsageError.message : UsageError → String
  | .missingValue option => option ++ " requires a value"
  | .unknownOption argument => "unknown option " ++ argument
  | .unusableLanguage unknown => "failed to create stemmer: " ++ unknown.message

/-- The environment variable for the language, which counts if no option gives one. -/
def languageVariable : String :=
  "SNOWBALL_LANGUAGE"

/-- The arguments of a command line with the language options taken out. -/
structure Arguments where
  language : Option String
  others : List String
  deriving DecidableEq, Repr

namespace Arguments

def withOther (argument : String) (arguments : Arguments) : Arguments :=
  { arguments with others := argument :: arguments.others }

/-- Arguments after a language option; a later option overrides it. -/
def withLanguage (value : String) (arguments : Arguments) : Arguments :=
  { arguments with language := arguments.language.or (some value) }

/-- The start of a language option that holds its value. -/
def languageLead : String :=
  "--language="

/-- The value that a language option holds, if the argument is one of that kind. -/
def heldLanguage? (argument : String) : Option String :=
  if languageLead.toList.isPrefixOf argument.toList then
    some (String.ofList (argument.toList.drop languageLead.length))
  else
    none

/-- Whether an argument is a language option whose value is the next argument. -/
def isLanguageOption (argument : String) : Bool :=
  argument == "--language" || argument == "-l"

/-- Takes the language options out of a list of arguments. -/
def ofList : List String → Except UsageError Arguments
  | [] => .ok ⟨none, []⟩
  | argument :: rest =>
    match heldLanguage? argument with
    | some value => (ofList rest).map (withLanguage value)
    | none =>
      if isLanguageOption argument then
        match rest with
        | [] => .error (.missingValue argument)
        | value :: rest => (ofList rest).map (withLanguage value)
      else
        (ofList rest).map (withOther argument)

end Arguments

def wantsHelp (arguments : List String) : Bool :=
  arguments.any fun argument => argument == "--help" || argument == "-h"

def frequencyOption : String :=
  "--freq"

/-- Whether an argument has the form of an option and is not the one there is. A single hyphen is a
word. -/
def isUnknownOption (argument : String) : Bool :=
  argument.toList.head? == some '-' && argument != "-" && argument != frequencyOption

/-- The stemmer for the language given by an option, or else by the environment. A blank value
stands for Norwegian, and so does no value. -/
def chooseStemmer (option environment : Option String) : Except UsageError Stemmer :=
  match (option.or environment).filter fun code => !(Text.trim code.toList).isEmpty with
  | none => .ok ⟨.norwegian⟩
  | some code => (Stemmer.ofCode code).mapError .unusableLanguage

structure Job where
  stemmer : Stemmer
  counting : Bool
  /-- The words; if there are none, the input is read. -/
  words : List String
  deriving DecidableEq, Repr

inductive Command where
  | help
  | perform (job : Job)
  deriving DecidableEq, Repr

/-- What the arguments ask for, with the language that the environment gives. -/
def Command.ofArguments (environment : Option String) (arguments : List String) :
    Except UsageError Command := do
  let ⟨language, others⟩ ← Arguments.ofList arguments
  if wantsHelp others then
    return .help
  else
    match others.find? isUnknownOption with
    | some argument => throw (.unknownOption argument)
    | none =>
      let stemmer ← chooseStemmer language environment
      return .perform
        ⟨stemmer, others.contains frequencyOption, others.filter (· != frequencyOption)⟩

end Stemming.CommandLine
