import Stemming.CommandLine.Command
import Stemming.StemCount
import Stemming.Text.Lines

set_option autoImplicit false

namespace Stemming.CommandLine

/-- What a run leaves: its exit code and the text on both of its outputs. -/
structure Report where
  code : Nat
  stdout : String
  stderr : String
  deriving DecidableEq, Repr

/-- Lines as one text, each with its ending. -/
def textOfLines (lines : List String) : String :=
  String.join (lines.map (· ++ "\n"))

def helpLines : List String :=
  ["snowball-stem: Snowball stemmer.",
   "",
   "Usage: snowball-stem [-l LANG] [--freq] [WORD...]",
   "",
   "If WORD arguments are given, stems each word.",
   "Otherwise reads words from stdin (one per line).",
   "",
   "Options:",
   "  -l, --language CODE   Language code (default: $" ++ languageVariable ++ ", then \"no\")",
   "      --freq            Read running text and print stem frequencies",
   "  -h, --help            Print this help"]

def stemLine (stemmer : Stemmer) (word : String) : String :=
  word ++ "\t" ++ stemmer.stem word

def frequencyLine (row : String × Nat) : String :=
  toString row.2 ++ "\t" ++ row.1

def frequencyLines (stemmer : Stemmer) (texts : List String) : List String :=
  (StemCount.ofTexts stemmer texts).rows.map frequencyLine

/-- The word on a line of input, if the line is not blank. -/
def wordOfLine? (line : String) : Option String :=
  let word := String.ofList (Text.trim line.toList)
  if word.isEmpty then none else some word

/-- What is written about input that could not be read to its end. -/
def readErrorLine : String :=
  "error reading stdin: stream did not contain valid UTF-8"

namespace Job

def readsInput (job : Job) : Bool :=
  job.words.isEmpty

def linesOfWords (job : Job) : List String :=
  if job.counting then frequencyLines job.stemmer job.words
  else job.words.map (stemLine job.stemmer)

def linesOfInput (job : Job) (lines : List String) : List String :=
  if job.counting then frequencyLines job.stemmer lines
  else (lines.filterMap wordOfLine?).map (stemLine job.stemmer)

def report (job : Job) (input : List UInt8) : Report :=
  if job.readsInput then
    let reading := Text.readStream input
    { code := 0
      stdout := textOfLines (job.linesOfInput reading.lines)
      stderr := textOfLines (if reading.complete then [] else [readErrorLine]) }
  else
    { code := 0, stdout := textOfLines job.linesOfWords, stderr := "" }

end Job

namespace Command

def readsInput : Command → Bool
  | .help => false
  | .perform job => job.readsInput

def report (input : List UInt8) : Command → Report
  | .help => { code := 0, stdout := textOfLines helpLines, stderr := "" }
  | .perform job => job.report input

end Command

def UsageError.report (error : UsageError) : Report where
  code := 1
  stdout := ""
  stderr := textOfLines ["error: " ++ error.message]

/-- What a run leaves, for its arguments, the language in its environment, and its input. -/
def run (environment : Option String) (arguments : List String) (input : List UInt8) : Report :=
  match Command.ofArguments environment arguments with
  | .error error => error.report
  | .ok command => command.report input

end Stemming.CommandLine
