import Stemming.Proofs.CommandLine.Inputs
import Stemming.Proofs.CommandLine.Refusals
import Stemming.Proofs.Text.BrokenLines

set_option autoImplicit false

namespace Stemming.CommandLine

open Stemming.Text

/-- What is written about the lines of a text: the rows of its frequency list, or the words on the
lines that are not blank with their stems. -/
def outputLines (counting : Bool) (lines : List String) : List String :=
  if counting then
    (StemCount.ofTexts ⟨.norwegian⟩ lines).rows.map fun row => toString row.2 ++ "\t" ++ row.1
  else
    ((lines.map fun line => String.ofList (trim line.toList)).filter (!·.isEmpty)).map fun word =>
      word ++ "\t" ++ Stemmer.stem ⟨.norwegian⟩ word

theorem filterMap_wordOfLine? (lines : List String) :
    lines.filterMap wordOfLine? =
      (lines.map fun line => String.ofList (trim line.toList)).filter (!·.isEmpty) := by
  induction lines with
  | nil => rfl
  | cons line rest ih =>
      simp only [List.filterMap_cons, List.map_cons, List.filter_cons, wordOfLine?, ih]
      by_cases blank : (String.ofList (trim line.toList)).isEmpty = true
      · simp only [blank, ↓reduceIte, Bool.not_true, Bool.false_eq_true]
      · simp only [blank, Bool.not_false, Bool.false_eq_true, ↓reduceIte]

theorem Job.linesOfInput_eq (counting : Bool) (lines : List String) :
    linesOfInput ⟨⟨.norwegian⟩, counting, []⟩ lines = outputLines counting lines := by
  cases counting with
  | true => rfl
  | false =>
      simp only [linesOfInput, outputLines, Bool.false_eq_true, ↓reduceIte, filterMap_wordOfLine?]
      rfl

theorem Job.report_readable (counting : Bool) {input : List UInt8} {lines : List String}
    (clean : readStream (readable input) = ⟨lines, true⟩)
    (whole : readStream input = ⟨lines, (firstBroken? input).isNone⟩) :
    report ⟨⟨.norwegian⟩, counting, []⟩ (readable input) =
        ⟨0, textOfLines (outputLines counting lines), ""⟩ ∧
      report ⟨⟨.norwegian⟩, counting, []⟩ input =
        ⟨0, textOfLines (outputLines counting lines),
          textOfLines (if (firstBroken? input).isSome then [readErrorLine] else [])⟩ := by
  rw [← linesOfInput_eq]
  refine ⟨report_of_read clean, ?_⟩
  show Report.mk 0 (textOfLines (linesOfInput _ (readStream input).lines))
    (textOfLines (if (readStream input).complete = true then _ else _)) = _
  rw [whole]
  cases firstBroken? input <;> rfl

section

variable {environment : Option String} {arguments : List String}

theorem ofArguments_of_wordless (accepted : ¬ Refused environment arguments)
    (wordless : ∀ argument ∈ (scan arguments).others, argument = frequencyOption) :
    Command.ofArguments environment arguments =
      .ok (.perform ⟨⟨.norwegian⟩, (scan arguments).others.contains frequencyOption, []⟩) := by
  have noHelp : wantsHelp (scan arguments).others = false := by
    rw [wantsHelp_eq_false_iff]
    exact ⟨fun member => absurd (wordless _ member) (by decide),
      fun member => absurd (wordless _ member) (by decide)⟩
  have none : (scan arguments).others.filter (· != frequencyOption) = [] := by
    refine List.filter_eq_nil_iff.mpr fun argument member => ?_
    rw [wordless argument member, bne_self_eq_false]
    exact Bool.false_ne_true
  rw [ofArguments_of_not_refused accepted noHelp, none]

/-- A run that reads its input, whatever bytes that is. On the lines before the first that is not
UTF-8 the run ends with exit code 0 and no error, and it writes about the lines of their text. On
the whole input it ends with the same code and the same output; it reports that the input could not
be read, once, if there is such a line. No word is without a stem to write. -/
theorem run_eq_run_readable (accepted : ¬ Refused environment arguments)
    (wordless : ∀ argument ∈ (scan arguments).others, argument = frequencyOption)
    (input : List UInt8) :
    (∃ text lines stdout, bytes text = readable input ∧
      Lined text.toList (lines.map String.toList) ∧
      stdout = textOfLines (outputLines ((scan arguments).others.contains frequencyOption) lines) ∧
      run environment arguments (readable input) = ⟨0, stdout, ""⟩ ∧
      run environment arguments input =
        ⟨0, stdout, textOfLines (if (firstBroken? input).isSome then [readErrorLine] else [])⟩) ∧
    ∀ (stemmer : Stemmer) (word : String), stemmer.tryStem word = .ok (stemmer.stem word) := by
  refine ⟨?_, Stemmer.tryStem_eq_stem⟩
  obtain ⟨text, lines, encoded, lined, clean, whole⟩ := exists_lined_readable input
  rw [run, run, ofArguments_of_wordless accepted wordless]
  exact ⟨text, lines, _, encoded, lined, rfl, Job.report_readable _ clean whole⟩

end

/-- Two lines, a line that is not UTF-8, and one more line. -/
def brokenInput : List UInt8 :=
  bytes "katten\nkatter\n" ++ [255, lineFeed] ++ bytes "huset\n"

/-- Both ways to write about the input, with each word's stem and with the frequency list. -/
theorem run_eq_run_readable_katten :
    run none ["-l", "nb"] brokenInput =
      ⟨0, "katten\tkatt\nkatter\tkatt\n", textOfLines [readErrorLine]⟩ ∧
    run none ["--freq"] brokenInput = ⟨0, "2\tkatt\n", textOfLines [readErrorLine]⟩ := by
  have before : readable brokenInput = bytes "katten\nkatter\n" := by decide
  have broken : (firstBroken? brokenInput).isSome = true := by decide
  have onLines {text : String} {lines : List String} (encoded : bytes text = readable brokenInput)
      (lined : Lined text.toList (lines.map String.toList)) : lines = ["katten", "katter"] := by
    have read := lined.readStream_encode
    have two : readStream (bytes "katten\nkatter\n") = ⟨["katten", "katter"], true⟩ := by decide
    rw [← bytes_ofList, String.ofList_toList, encoded, before, two] at read
    simpa [Function.comp_def] using (congrArg Reading.lines read).symm
  constructor
  · obtain ⟨⟨text, lines, stdout, encoded, lined, rfl, _, read⟩, _⟩ :=
      @run_eq_run_readable none ["-l", "nb"] (by decide) (by decide) brokenInput
    obtain rfl := onLines encoded lined
    rw [read, broken]
    decide +kernel
  · obtain ⟨⟨text, lines, stdout, encoded, lined, rfl, _, read⟩, _⟩ :=
      @run_eq_run_readable none ["--freq"] (by decide) (by decide) brokenInput
    obtain rfl := onLines encoded lined
    -- the count is a hash map, so its rows are found by the stems that were met
    have met : StemCount.stems ⟨.norwegian⟩ ["katten", "katter"] = ["katt", "katt"] := by
      decide +kernel
    have rows := (StemCount.counts_ofTexts ⟨.norwegian⟩ ["katten", "katter"]).rows_perm
    rw [met] at rows
    have single : (StemCount.ofTexts ⟨.norwegian⟩ ["katten", "katter"]).rows = [("katt", 2)] :=
      List.perm_singleton.mp rows
    rw [read, broken, outputLines, single]
    decide

end Stemming.CommandLine
