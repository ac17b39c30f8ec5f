import Stemming.CommandLine.Report
import Stemming.Proofs.CommandLine.Arguments
import Stemming.Proofs.StemCount
import Stemming.Proofs.Text.Lines

set_option autoImplicit false

namespace Stemming.CommandLine

open Stemming.Text

theorem toList_textOfLines_cons (first : String) (rest : List String) :
    (textOfLines (first :: rest)).toList = first.toList ++ '\n' :: (textOfLines rest).toList := by
  simp [textOfLines]

theorem runs_textOfLines {accepted : Char → Bool} (feed : accepted '\n' = false)
    (lines : List String) :
    runs accepted (textOfLines lines).toList = lines.flatMap (runs accepted ·.toList) := by
  induction lines with
  | nil => rfl
  | cons first rest ih => rw [toList_textOfLines_cons, runs_append_cons feed, ih, List.flatMap_cons]

theorem lined_textOfLines {lines : List String} (unbroken : ∀ line ∈ lines, '\n' ∉ line.toList) :
    Lined (textOfLines lines).toList (lines.map (withoutEndReturn ·.toList)) := by
  induction lines with
  | nil => exact .empty
  | cons first rest ih =>
      obtain ⟨unbroken, others⟩ := List.forall_mem_cons.mp unbroken
      rw [toList_textOfLines_cons]
      exact .ended unbroken (ih others)

/-- All lines are read back from their text, each without a carriage return at its end. -/
theorem readStream_textOfLines {lines : List String}
    (unbroken : ∀ line ∈ lines, '\n' ∉ line.toList) :
    readStream (bytes (textOfLines lines)) =
      ⟨lines.map fun line => String.ofList (withoutEndReturn line.toList), true⟩ := by
  have read := (lined_textOfLines unbroken).readStream_encode
  rwa [← bytes_ofList, String.ofList_toList, List.map_map] at read

theorem flatMap_words (lines : List String) :
    lines.flatMap Text.words = (lines.flatMap (runs isAlphabetic ·.toList)).map String.ofList :=
  List.map_flatMap.symm

/-- Whatever lines hold, their text is read to its end, and the words of what is read are the words
of the lines. -/
theorem exists_readStream_textOfLines (lines : List String) :
    ∃ read, readStream (bytes (textOfLines lines)) = ⟨read, true⟩ ∧
      read.flatMap Text.words = lines.flatMap Text.words := by
  obtain ⟨parts, lined⟩ := exists_lined (textOfLines lines).toList
  refine ⟨parts.map String.ofList, ?_, ?_⟩
  · rw [← lined.readStream_encode, ← bytes_ofList, String.ofList_toList]
  · -- a carriage return that is dropped takes no letter of a word with it
    have feed : isAlphabetic '\n' = false := by decide +kernel
    have carriage : isAlphabetic '\r' = false := by decide +kernel
    rw [flatMap_words, flatMap_words, ← runs_textOfLines feed lines,
      ← lined.flatMap_runs feed carriage, List.flatMap_map]
    simp only [String.toList_ofList]

/-- A frequency list depends on the texts only through their words, in order. -/
theorem frequencyLines_eq (stemmer : Stemmer) {texts others : List String}
    (same : texts.flatMap Text.words = others.flatMap Text.words) :
    frequencyLines stemmer texts = frequencyLines stemmer others := by
  have stems : StemCount.stems stemmer texts = StemCount.stems stemmer others :=
    congrArg (List.map stemmer.stem) same
  rw [frequencyLines, frequencyLines, StemCount.rows_ofTexts_eq (.of_eq stems)]

/-- A word that is a line of input as it stands: no white space at either end, and no line ends in
it. -/
structure StandsAlone (word : String) : Prop where
  nonempty : word ≠ ""
  unbroken : '\n' ∉ word.toList
  start : word.toList.head?.any isBlank = false
  stop : word.toList.getLast?.any isBlank = false

instance (word : String) : Decidable (StandsAlone word) :=
  decidable_of_iff
    (word ≠ "" ∧ '\n' ∉ word.toList ∧ word.toList.head?.any isBlank = false ∧
      word.toList.getLast?.any isBlank = false)
    ⟨fun ⟨nonempty, unbroken, start, stop⟩ => ⟨nonempty, unbroken, start, stop⟩,
      fun alone => ⟨alone.nonempty, alone.unbroken, alone.start, alone.stop⟩⟩

theorem dropWhile_isBlank_of_head {letters : List Char}
    (start : letters.head?.any isBlank = false) :
    letters.dropWhile isBlank = letters := by
  cases letters with
  | nil => rfl
  | cons first rest => exact List.dropWhile_cons_of_neg (by simpa using start)

theorem trim_of_ends {letters : List Char} (start : letters.head?.any isBlank = false)
    (stop : letters.getLast?.any isBlank = false) : trim letters = letters := by
  rw [trim, dropWhile_isBlank_of_head start,
    dropWhile_isBlank_of_head (by rwa [List.head?_reverse]), List.reverse_reverse]

section

variable {word : String}

theorem StandsAlone.withoutEndReturn_eq (alone : StandsAlone word) :
    withoutEndReturn word.toList = word.toList := by
  refine if_neg fun ends => ?_
  have stop := alone.stop
  rw [ends] at stop
  exact absurd stop (by decide)

theorem StandsAlone.wordOfLine?_eq (alone : StandsAlone word) : wordOfLine? word = some word := by
  simp [wordOfLine?, trim_of_ends alone.start alone.stop, String.ofList_toList, alone.nonempty]

end

theorem readStream_of_standsAlone {words : List String} (alone : ∀ word ∈ words, StandsAlone word) :
    readStream (bytes (textOfLines words)) = ⟨words, true⟩ := by
  have same : words.map (fun word => String.ofList (withoutEndReturn word.toList)) = words.map id :=
    List.map_congr_left fun word member => by
      rw [(alone word member).withoutEndReturn_eq, String.ofList_toList, id]
  rw [readStream_textOfLines fun word member => (alone word member).unbroken, same, List.map_id]

theorem filterMap_wordOfLine?_of_standsAlone {words : List String}
    (alone : ∀ word ∈ words, StandsAlone word) : words.filterMap wordOfLine? = words := by
  have same : words.filterMap wordOfLine? = words.map id :=
    List.filterMap_eq_map_iff_forall_eq_some.mpr fun word member =>
      (alone word member).wordOfLine?_eq
  rw [same, List.map_id]

namespace Job

variable {stemmer : Stemmer} {words : List String}

theorem report_of_words {counting : Bool} (nonempty : words ≠ []) (input : List UInt8) :
    report ⟨stemmer, counting, words⟩ input =
      ⟨0, textOfLines (linesOfWords ⟨stemmer, counting, words⟩), ""⟩ := by
  rw [report, if_neg (by simpa [readsInput] using nonempty)]

theorem report_of_read {counting : Bool} {input : List UInt8} {lines : List String}
    (read : readStream input = ⟨lines, true⟩) :
    report ⟨stemmer, counting, []⟩ input =
      ⟨0, textOfLines (linesOfInput ⟨stemmer, counting, []⟩ lines), ""⟩ := by
  show Report.mk 0 _ _ = _
  rw [read]
  rfl

theorem report_frequencies (nonempty : words ≠ []) (input : List UInt8) :
    report ⟨stemmer, true, words⟩ input =
      report ⟨stemmer, true, []⟩ (bytes (textOfLines words)) := by
  obtain ⟨lines, read, same⟩ := exists_readStream_textOfLines words
  rw [report_of_words nonempty, report_of_read read]
  simp only [linesOfWords, linesOfInput, ↓reduceIte, frequencyLines_eq stemmer same]

theorem report_stems (nonempty : words ≠ []) (alone : ∀ word ∈ words, StandsAlone word)
    (input : List UInt8) :
    report ⟨stemmer, false, words⟩ input =
      report ⟨stemmer, false, []⟩ (bytes (textOfLines words)) := by
  rw [report_of_words nonempty, report_of_read (readStream_of_standsAlone alone)]
  simp only [linesOfWords, linesOfInput, Bool.false_eq_true, ↓reduceIte,
    filterMap_wordOfLine?_of_standsAlone alone]

end Job

theorem words_withoutWords (line : List Part) : words (withoutWords line) = [] := by
  refine List.filterMap_eq_nil_iff.mpr fun part member => ?_
  exact Option.isNone_iff_eq_none.mp (List.mem_filter.mp member).2

theorem lastCode?_withoutWords (line : List Part) :
    lastCode? (withoutWords line) = lastCode? line := by
  refine congrArg List.getLast? ?_
  induction line with
  | nil => rfl
  | cons part line ih =>
      cases part with
      | word text => exact ih
      | frequency => exact ih
      | _ => exact congrArg (_ :: ·) ih

theorem frequency_mem_withoutWords (line : List Part) :
    .frequency ∈ withoutWords line ↔ .frequency ∈ line := by
  simp [withoutWords, Part.word?]

theorem run_written {environment : Option String} {line : List Part} {stemmer : Stemmer}
    (given : words line ≠ []) (wordy : ∀ text ∈ words line, IsWord text)
    (chosen : chooseStemmer (lastCode? line) environment = .ok stemmer) (input : List UInt8) :
    run environment (written line) input =
      ⟨0, textOfLines (Job.linesOfWords ⟨stemmer, decide (.frequency ∈ line), words line⟩),
        ""⟩ := by
  rw [run, ofArguments_written environment wordy, chosen]
  exact Job.report_of_words given input

/-- The two ways to give words. A run with words among its arguments leaves what a run leaves that
has the same options, no words, and an input with one of the words on each line: its output, its
errors and its exit code. With a frequency list this holds for all words there are, without one for
words that stand alone on a line. Both write, if the language is known, the rows of the frequency
list or each word with its stem; neither stops at a word, since each has a stem. -/
theorem run_words_eq_run_input (environment : Option String) (line : List Part)
    (input : List UInt8) (given : words line ≠ []) (wordy : ∀ text ∈ words line, IsWord text)
    (readable : .frequency ∈ line ∨ ∀ text ∈ words line, StandsAlone text) :
    run environment (written line) input =
      run environment (written (withoutWords line)) (bytes (textOfLines (words line))) ∧
    (∀ stemmer, chooseStemmer (lastCode? line) environment = .ok stemmer →
      run environment (written line) input =
        ⟨0, textOfLines (if .frequency ∈ line then
            (StemCount.ofTexts stemmer (words line)).rows.map fun row =>
              toString row.2 ++ "\t" ++ row.1
          else (words line).map fun word => word ++ "\t" ++ stemmer.stem word), ""⟩) ∧
    ∀ (stemmer : Stemmer) (word : String), stemmer.tryStem word = .ok (stemmer.stem word) := by
  refine ⟨?same, fun stemmer chosen => ?output, Stemmer.tryStem_eq_stem⟩
  case same =>
    have none : ∀ text ∈ words (withoutWords line), IsWord text := by
      rw [words_withoutWords]
      exact List.forall_mem_nil _
    rw [run, run, ofArguments_written environment wordy, ofArguments_written environment none,
      words_withoutWords, lastCode?_withoutWords]
    simp only [frequency_mem_withoutWords]
    cases chooseStemmer (lastCode? line) environment with
    | error error => rfl
    | ok stemmer =>
        show Job.report _ _ = Job.report _ _
        by_cases counting : .frequency ∈ line
        · rw [decide_eq_true counting]
          exact Job.report_frequencies given input
        · rw [decide_eq_false counting]
          exact Job.report_stems given (readable.resolve_left counting) input
  case output =>
    rw [run_written given wordy chosen]
    by_cases counting : .frequency ∈ line
    · rw [if_pos counting, decide_eq_true counting]
      rfl
    · rw [if_neg counting, decide_eq_false counting]
      rfl

/-- Arguments that are no lines as they stand, for a frequency list; and two words that are lines,
one of them a hyphen. -/
theorem run_words_eq_run_input_hesten :
    run none ["Hesten\nhus ", "--freq", "-l", "nb", "", "huset\r", "-"] [] =
      run none ["--freq", "-l", "nb"] (bytes "Hesten\nhus \n\nhuset\r\n-\n") ∧
    run none ["--language=nb", "hesten", "-"] [] =
      run none ["--language=nb"] (bytes "hesten\n-\n") ∧
    run none ["--language=nb", "hesten", "-"] [] = ⟨0, "hesten\thest\n-\t-\n", ""⟩ := by
  obtain ⟨counted, _⟩ := run_words_eq_run_input none
    [.word "Hesten\nhus ", .frequency, .short "nb", .word "", .word "huset\r", .word "-"] []
    (by decide) (by decide) (.inl (by decide))
  obtain ⟨single, output, _⟩ := run_words_eq_run_input none
    [.joined "nb", .word "hesten", .word "-"] [] (by decide) (by decide) (.inr (by decide))
  refine ⟨counted, single, ?_⟩
  have chosen : chooseStemmer (lastCode? [.joined "nb", .word "hesten", .word "-"]) none =
      .ok ⟨.norwegian⟩ := by
    decide
  refine (output _ chosen).trans ?_
  decide +kernel

end Stemming.CommandLine
