import Mathlib.Data.List.Basic
import Stemming.CommandLine.Command

set_option autoImplicit false

namespace Stemming.CommandLine

/-- A part of a command line. -/
inductive Part where
  | short (code : String)
  | long (code : String)
  | joined (code : String)
  | frequency
  | word (text : String)
  deriving DecidableEq, Repr

namespace Part

def arguments : Part → List String
  | short code => ["-l", code]
  | long code => ["--language", code]
  | joined code => [Arguments.languageLead ++ code]
  | frequency => [frequencyOption]
  | word text => [text]

def code? : Part → Option String
  | short code => some code
  | long code => some code
  | joined code => some code
  | frequency => none
  | word _ => none

def word? : Part → Option String
  | word text => some text
  | _ => none

def other? : Part → Option String
  | frequency => some frequencyOption
  | word text => some text
  | _ => none

end Part

/-- Parts one after the other, as arguments. -/
def written (line : List Part) : List String :=
  line.flatMap Part.arguments

def words (line : List Part) : List String :=
  line.filterMap Part.word?

def withoutWords (line : List Part) : List Part :=
  line.filter (·.word?.isNone)

/-- The value of the last language option. -/
def lastCode? (line : List Part) : Option String :=
  (line.filterMap Part.code?).getLast?

/-- An argument is no option: it starts with no hyphen, or is a hyphen and nothing else. -/
def IsWord (text : String) : Prop :=
  text = "-" ∨ text.toList.head? ≠ some '-'

instance (text : String) : Decidable (IsWord text) :=
  inferInstanceAs (Decidable (_ ∨ _))

section

variable {text : String}

theorem IsWord.ne_of_hyphen (isWord : IsWord text) {option : String}
    (hyphen : option.toList.head? = some '-') (several : option ≠ "-") : text ≠ option := by
  rintro rfl
  exact isWord.elim several fun other => other hyphen

theorem IsWord.isUnknownOption_eq_false (isWord : IsWord text) : isUnknownOption text = false := by
  rcases isWord with rfl | other
  · decide
  · simp [isUnknownOption, other]

theorem IsWord.isLanguageOption_eq_false (isWord : IsWord text) :
    Arguments.isLanguageOption text = false := by
  have long := isWord.ne_of_hyphen (show "--language".toList.head? = _ from rfl) (by decide)
  have short := isWord.ne_of_hyphen (show "-l".toList.head? = _ from rfl) (by decide)
  simp [Arguments.isLanguageOption, long, short]

theorem IsWord.heldLanguage?_eq_none (isWord : IsWord text) :
    Arguments.heldLanguage? text = none := by
  refine if_neg fun lead => ?_
  obtain ⟨code, letters⟩ := List.isPrefixOf_iff_prefix.mp lead
  rcases isWord with rfl | other
  · exact absurd lead (by decide)
  · exact other (by rw [← letters]; rfl)

end

namespace Arguments

theorem heldLanguage?_lead (code : String) : heldLanguage? (languageLead ++ code) = some code := by
  have lead : languageLead.toList.isPrefixOf (languageLead ++ code).toList = true := by
    rw [String.toList_append, List.isPrefixOf_iff_prefix]
    exact List.prefix_append _ _
  have rest : (languageLead ++ code).toList.drop languageLead.length = code.toList := by
    rw [String.toList_append, ← String.length_toList, List.drop_left]
  rw [heldLanguage?, if_pos lead, rest, String.ofList_toList]

theorem ofList_short (code : String) (rest : List String) :
    ofList ("-l" :: code :: rest) = (ofList rest).map (withLanguage code) :=
  rfl

theorem ofList_long (code : String) (rest : List String) :
    ofList ("--language" :: code :: rest) = (ofList rest).map (withLanguage code) :=
  rfl

theorem ofList_joined (code : String) (rest : List String) :
    ofList ((languageLead ++ code) :: rest) = (ofList rest).map (withLanguage code) := by
  cases rest with
  | nil => simp only [ofList, heldLanguage?_lead]
  | cons next rest => rw [ofList, heldLanguage?_lead]

theorem ofList_other {argument : String} (held : heldLanguage? argument = none)
    (option : isLanguageOption argument = false) (rest : List String) :
    ofList (argument :: rest) = (ofList rest).map (withOther argument) := by
  cases rest with
  | nil => simp [ofList, held, option]
  | cons next rest => rw [ofList, held, option]; rfl

end Arguments

/-- The arguments with the language options taken out, for a command line that is written from
parts. -/
def taken (line : List Part) : Arguments where
  language := lastCode? line
  others := line.filterMap Part.other?

theorem taken_cons_code {part : Part} {code : String} (coded : part.code? = some code)
    (other : part.other? = none) (line : List Part) :
    taken (part :: line) = (taken line).withLanguage code := by
  simp only [taken, lastCode?, Arguments.withLanguage, List.filterMap_cons, coded, other,
    List.getLast?_cons, Option.or_some]

theorem taken_cons_other {part : Part} {argument : String} (coded : part.code? = none)
    (other : part.other? = some argument) (line : List Part) :
    taken (part :: line) = (taken line).withOther argument := by
  simp only [taken, lastCode?, Arguments.withOther, List.filterMap_cons, coded, other]

theorem ofList_arguments_append {part : Part} (isWord : ∀ text ∈ part.word?, IsWord text)
    {line : List Part} {rest : List String} (read : Arguments.ofList rest = .ok (taken line)) :
    Arguments.ofList (part.arguments ++ rest) = .ok (taken (part :: line)) := by
  cases part with
  | short code =>
      rw [taken_cons_code rfl rfl]
      exact (Arguments.ofList_short code rest).trans (by rw [read]; rfl)
  | long code =>
      rw [taken_cons_code rfl rfl]
      exact (Arguments.ofList_long code rest).trans (by rw [read]; rfl)
  | joined code =>
      rw [taken_cons_code rfl rfl]
      exact (Arguments.ofList_joined code rest).trans (by rw [read]; rfl)
  | frequency =>
      rw [taken_cons_other rfl rfl]
      exact (Arguments.ofList_other rfl rfl rest).trans (by rw [read]; rfl)
  | word text =>
      have isWord := isWord text rfl
      rw [taken_cons_other rfl rfl]
      refine (Arguments.ofList_other isWord.heldLanguage?_eq_none
        isWord.isLanguageOption_eq_false rest).trans ?_
      rw [read]
      rfl

theorem ofList_written {line : List Part} (wordy : ∀ text ∈ words line, IsWord text) :
    Arguments.ofList (written line) = .ok (taken line) := by
  induction line with
  | nil => rfl
  | cons part line ih =>
      rw [written, List.flatMap_cons]
      refine ofList_arguments_append (fun text found => wordy text ?_)
        (ih fun text member => wordy text ?_)
      · exact List.mem_filterMap.mpr ⟨part, List.mem_cons_self, found⟩
      · obtain ⟨other, inLine, found⟩ := List.mem_filterMap.mp member
        exact List.mem_filterMap.mpr ⟨other, List.mem_cons_of_mem _ inLine, found⟩

section

variable {line : List Part}

theorem mem_others_iff (argument : String) :
    argument ∈ (taken line).others ↔
      .frequency ∈ line ∧ argument = frequencyOption ∨ argument ∈ words line := by
  simp only [taken, words, List.mem_filterMap]
  constructor
  · rintro ⟨part, member, found⟩
    cases part with
    | frequency => exact .inl ⟨member, (Option.some.inj found).symm⟩
    | word text => exact .inr ⟨_, member, found⟩
    | _ => exact absurd found nofun
  · rintro (⟨member, rfl⟩ | ⟨part, member, found⟩)
    · exact ⟨.frequency, member, rfl⟩
    · cases part with
      | word text => exact ⟨_, member, found⟩
      | _ => exact absurd found nofun

theorem words_eq_filter_others (wordy : ∀ text ∈ words line, IsWord text) :
    (taken line).others.filter (· != frequencyOption) = words line := by
  have kept : ∀ text ∈ words line, (text != frequencyOption) = true := fun text member =>
    bne_iff_ne.mpr ((wordy text member).ne_of_hyphen rfl (by decide))
  clear wordy
  induction line with
  | nil => rfl
  | cons part line ih =>
      cases part with
      | word text =>
          obtain ⟨first, rest⟩ := List.forall_mem_cons.mp kept
          show (text :: (taken line).others).filter _ = text :: words line
          rw [List.filter_cons, if_pos first, ih rest]
      | _ => exact ih kept

/-- Without a call for help and without an unknown option, the stemmer is chosen and words are to be
stemmed. -/
theorem ofArguments_of_known {list : List String} {arguments : Arguments}
    (read : Arguments.ofList list = .ok arguments) (noHelp : wantsHelp arguments.others = false)
    (known : arguments.others.find? isUnknownOption = none) (environment : Option String) :
    Command.ofArguments environment list =
      (chooseStemmer arguments.language environment).map fun stemmer =>
        .perform ⟨stemmer, arguments.others.contains frequencyOption,
          arguments.others.filter (· != frequencyOption)⟩ := by
  obtain ⟨language, others⟩ := arguments
  rw [Command.ofArguments, read]
  show (if wantsHelp others then _ else _) = _
  rw [noHelp, known]
  rfl

/-- What a command line asks for that is written from parts. Neither the order of options and words
counts, nor which form a language option has, nor any language option but the last. -/
theorem ofArguments_written (environment : Option String)
    (wordy : ∀ text ∈ words line, IsWord text) :
    Command.ofArguments environment (written line) =
      (chooseStemmer (lastCode? line) environment).map fun stemmer =>
        .perform ⟨stemmer, decide (.frequency ∈ line), words line⟩ := by
  have noHelp : wantsHelp (taken line).others = false := by
    refine List.any_eq_false.mpr fun argument member => ?_
    rcases (mem_others_iff argument).mp member with ⟨_, rfl⟩ | isWord
    · decide
    · have long := (wordy _ isWord).ne_of_hyphen (show "--help".toList.head? = _ from rfl)
        (by decide)
      have short := (wordy _ isWord).ne_of_hyphen (show "-h".toList.head? = _ from rfl)
        (by decide)
      simp [long, short]
  have known : (taken line).others.find? isUnknownOption = none := by
    refine List.find?_eq_none.mpr fun argument member => ?_
    rcases (mem_others_iff argument).mp member with ⟨_, rfl⟩ | isWord
    · decide
    · rw [(wordy _ isWord).isUnknownOption_eq_false]
      exact Bool.false_ne_true
  have counting : (taken line).others.contains frequencyOption = decide (.frequency ∈ line) := by
    rw [List.contains_eq_mem, decide_eq_decide, mem_others_iff]
    refine ⟨fun found => found.elim (·.1) fun member => ?_, fun member => .inl ⟨member, rfl⟩⟩
    exact absurd rfl ((wordy _ member).ne_of_hyphen (show frequencyOption.toList.head? = _ from rfl)
      (by decide))
  rw [ofArguments_of_known (ofList_written wordy) noHelp known, counting,
    words_eq_filter_others wordy]
  rfl

end

end Stemming.CommandLine
