import Mathlib.Data.List.TakeWhile
import Mathlib.Data.Option.Basic
import Stemming.CommandLine.Report
import Stemming.Proofs.CommandLine.Scanning
import Stemming.Proofs.Norwegian.Stems

set_option autoImplicit false

namespace Stemming.Text

theorem trim_eq_nil_iff (letters : List Char) :
    trim letters = [] ↔ ∀ letter ∈ letters, isBlank letter = true := by
  rw [trim, List.reverse_eq_nil_iff, List.dropWhile_eq_nil_iff]
  constructor
  · intro blank
    -- what is left begins with a letter that is not blank, so nothing is left
    rw [← List.dropWhile_eq_nil_iff]
    by_contra nonempty
    obtain ⟨first, rest, left⟩ := List.exists_cons_of_ne_nil nonempty
    have dark := List.head?_dropWhile_not isBlank letters
    rw [left] at blank dark
    have white := blank first (by simp)
    exact absurd white (by simpa using dark)
  · intro blank letter member
    exact blank letter ((List.dropWhile_sublist _).subset (List.mem_reverse.mp member))

end Stemming.Text

namespace Stemming.CommandLine

/-- An argument has the form of an option: it starts with a hyphen and goes on after it. -/
def LooksLikeOption (argument : String) : Prop :=
  argument.toList.head? = some '-' ∧ 1 < argument.utf8ByteSize

/-- A code that stands for Norwegian: a blank one, or one of its names without the white space
around it and in whatever case. -/
def NamesNorwegian (code : String) : Prop :=
  (∀ letter ∈ code.toList, Text.isBlank letter = true) ∨
    String.ofList ((Text.trim code.toList).map Char.toLower) ∈
      ["no", "nb", "nn", "nor", "nob", "nno", "norwegian"]

/-- A command line is refused, with the language that the environment gives. -/
def Refused (environment : Option String) (arguments : List String) : Prop :=
  (scan arguments).waiting.isSome ∨
    ("-h" ∉ (scan arguments).others ∧ "--help" ∉ (scan arguments).others) ∧
      ((∃ argument ∈ (scan arguments).others, LooksLikeOption argument ∧ argument ≠ "--freq") ∨
        ∃ code ∈ (scan arguments).language.or environment, ¬ NamesNorwegian code)

instance (argument : String) : Decidable (LooksLikeOption argument) :=
  inferInstanceAs (Decidable (_ ∧ _))

-- over the letters of the code; an instance that goes through every character does not evaluate
instance (code : String) : Decidable (NamesNorwegian code) :=
  haveI : Decidable (∀ letter ∈ code.toList, Text.isBlank letter = true) := List.decidableBAll _ _
  inferInstanceAs (Decidable (_ ∨ _))

instance (environment : Option String) (arguments : List String) :
    Decidable (Refused environment arguments) :=
  inferInstanceAs (Decidable (_ ∨ _))

section

variable {argument code : String} {option environment : Option String} {arguments : List String}

theorem looksLikeOption_iff (argument : String) :
    LooksLikeOption argument ↔ argument.toList.head? = some '-' ∧ argument ≠ "-" := by
  refine and_congr_right fun hyphen => ?_
  obtain ⟨rest, letters⟩ := List.head?_eq_some_iff.mp hyphen
  have split : argument = "-" ++ String.ofList rest := by
    simp [← String.toList_inj, letters]
  have alone : argument = "-" ↔ String.ofList rest = "" := by
    simp [← String.toList_inj, letters]
  have size : argument.utf8ByteSize = 1 + (String.ofList rest).utf8ByteSize := by
    rw [split, String.utf8ByteSize_append]
    rfl
  rw [size, ne_eq, alone, ← String.utf8ByteSize_eq_zero_iff]
  omega

theorem isUnknownOption_iff (argument : String) :
    isUnknownOption argument = true ↔ LooksLikeOption argument ∧ argument ≠ "--freq" := by
  rw [looksLikeOption_iff, isUnknownOption]
  simp only [Bool.and_eq_true, beq_iff_eq, bne_iff_ne, ne_eq, frequencyOption]

theorem wantsHelp_eq_false_iff (others : List String) :
    wantsHelp others = false ↔ "-h" ∉ others ∧ "--help" ∉ others := by
  simp only [wantsHelp, List.any_eq_false, Bool.or_eq_true, beq_iff_eq, not_or]
  constructor
  · intro other
    exact ⟨fun member => (other _ member).2 rfl, fun member => (other _ member).1 rfl⟩
  · rintro ⟨short, long⟩ argument member
    exact ⟨ne_of_mem_of_not_mem member long, ne_of_mem_of_not_mem member short⟩

/-- There is no other language than the one whose names these are. -/
theorem ofCode_eq (code : String) :
    Language.ofCode code =
      if String.ofList ((Text.trim code.toList).map Char.toLower) ∈
        ["no", "nb", "nn", "nor", "nob", "nno", "norwegian"] then .ok .norwegian
      else .error ⟨code⟩ := by
  rw [Language.ofCode, Language.ofCode?, Language.all, List.find?_singleton, Language.codes,
    List.contains_eq_mem]
  simp only [decide_eq_true_eq]
  by_cases known : String.ofList ((Text.trim code.toList).map Char.toLower) ∈
      ["no", "nb", "nn", "nor", "nob", "nno", "norwegian"]
  · simp only [if_pos known]
  · simp only [if_neg known]

theorem isEmpty_trim_iff (code : String) :
    (Text.trim code.toList).isEmpty = true ↔
      ∀ letter ∈ code.toList, Text.isBlank letter = true := by
  rw [List.isEmpty_iff, Text.trim_eq_nil_iff]

theorem chooseStemmer_of_named (named : ∀ code ∈ option.or environment, NamesNorwegian code) :
    chooseStemmer option environment = .ok ⟨.norwegian⟩ := by
  rw [chooseStemmer]
  cases found : option.or environment with
  | none => rfl
  | some code =>
      rw [Option.filter_some]
      by_cases blank : (Text.trim code.toList).isEmpty = true
      · rw [blank]
        rfl
      · have known := (named code found).resolve_left (mt (isEmpty_trim_iff code).mpr blank)
        rw [Bool.eq_false_iff.mpr blank]
        show ((Language.ofCode code).map Stemmer.mk).mapError _ = _
        rw [ofCode_eq, if_pos known]
        rfl

theorem waiting_of_not_refused (accepted : ¬ Refused environment arguments) :
    (scan arguments).waiting = none :=
  Option.not_isSome_iff_eq_none.mp fun waits => accepted (.inl waits)

/-- Without a call for help, a command line that is not refused asks for the words among its
arguments to be stemmed. -/
theorem ofArguments_of_not_refused (accepted : ¬ Refused environment arguments)
    (noHelp : wantsHelp (scan arguments).others = false) :
    Command.ofArguments environment arguments =
      .ok (.perform ⟨⟨.norwegian⟩, (scan arguments).others.contains frequencyOption,
        (scan arguments).others.filter (· != frequencyOption)⟩) := by
  have causeless := fun cause => accepted (.inr ⟨(wantsHelp_eq_false_iff _).mp noHelp, cause⟩)
  have known : (scan arguments).others.find? isUnknownOption = none := by
    refine List.find?_eq_none.mpr fun argument member unknown => causeless (.inl ?_)
    exact ⟨argument, member, (isUnknownOption_iff argument).mp unknown⟩
  have named : ∀ code ∈ (scan arguments).language.or environment, NamesNorwegian code := by
    intro code found
    by_contra unnamed
    exact causeless (.inr ⟨code, found, unnamed⟩)
  rw [ofArguments_of_known (ofList_of_not_waiting (waiting_of_not_refused accepted)) noHelp known,
    chooseStemmer_of_named named]
  rfl

end

/-- An option takes the next argument as its value even if that looks like an option. -/
example : Refused none ["-l", "--help"] := by decide

end Stemming.CommandLine
