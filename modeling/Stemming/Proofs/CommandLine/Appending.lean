import Mathlib.Data.List.Induction
import Stemming.Proofs.CommandLine.Scanning

set_option autoImplicit false

namespace Stemming.CommandLine

/-- An argument is a language option in one of its forms. -/
def GivesLanguage (argument : String) : Prop :=
  argument = "-l" ∨ argument = "--language" ∨ ∃ value, argument = "--language=" ++ value

variable {flag argument : String} {arguments before : List String} {taken : Arguments}

namespace Arguments

theorem isLanguageOption_iff (argument : String) :
    isLanguageOption argument = true ↔ argument = "-l" ∨ argument = "--language" := by
  rw [isLanguageOption, Bool.or_eq_true, beq_iff_eq, beq_iff_eq, or_comm]

theorem heldLanguage?_of_isLanguageOption (option : isLanguageOption argument = true) :
    heldLanguage? argument = none := by
  rcases (isLanguageOption_iff argument).mp option with rfl | rfl <;> decide

theorem not_givesLanguage_iff (argument : String) :
    ¬ GivesLanguage argument ↔
      heldLanguage? argument = none ∧ ¬ isLanguageOption argument = true := by
  rw [isLanguageOption_iff, Option.eq_none_iff_forall_ne_some, ← not_exists, ← not_or, not_iff_not,
    GivesLanguage, ← or_assoc, or_comm]
  exact or_congr_left (exists_congr fun value => (heldLanguage?_eq_some_iff argument value).symm)

end Arguments

namespace Scanned

variable {scanned : Scanned}

theorem waiting_read (waits : (scanned.read argument).waiting = some flag) :
    scanned.waiting = none ∧ argument = flag ∧ Arguments.isLanguageOption argument = true := by
  rcases scanned with ⟨_ | option, language, others⟩
  · cases held : Arguments.heldLanguage? argument with
    | some value =>
        rw [read_of_held _ _ held] at waits
        cases waits
    | none =>
        by_cases option : Arguments.isLanguageOption argument = true
        · rw [read_of_option _ _ held option] at waits
          exact ⟨rfl, Option.some.inj waits, option⟩
        · rw [read_of_other _ _ held option] at waits
          cases waits
  · cases waits

theorem mem_others_read {other : String} (member : other ∈ (scanned.read argument).others) :
    other ∈ scanned.others ∨ ¬ GivesLanguage other := by
  rcases scanned with ⟨_ | option, language, others⟩
  · cases held : Arguments.heldLanguage? argument with
    | some value =>
        rw [read_of_held _ _ held] at member
        exact .inl member
    | none =>
        by_cases option : Arguments.isLanguageOption argument = true
        · rw [read_of_option _ _ held option] at member
          exact .inl member
        · rw [read_of_other _ _ held option] at member
          refine (List.mem_append.mp member).imp_right fun last => ?_
          rw [List.mem_singleton.mp last]
          exact (Arguments.not_givesLanguage_iff argument).mpr ⟨held, option⟩
  · exact .inl member

end Scanned

theorem scan_concat (before : List String) (argument : String) :
    scan (before ++ [argument]) = (scan before).read argument := by
  rw [scan, List.foldl_concat, ← scan]

theorem not_givesLanguage_of_mem_scan (arguments : List String) :
    ∀ argument ∈ (scan arguments).others, ¬ GivesLanguage argument := by
  induction arguments using List.reverseRecOn with
  | nil => exact fun argument member => absurd member List.not_mem_nil
  | append_singleton before last ih =>
      rw [scan_concat]
      exact fun argument member => (Scanned.mem_others_read member).elim (ih argument) id

/-- An option that waits at the end is the last argument, and none waited before it. -/
theorem exists_flag_of_waiting (waits : (scan arguments).waiting = some flag) :
    ∃ before taken, arguments = before ++ [flag] ∧ Arguments.isLanguageOption flag = true ∧
      Arguments.ofList before = .ok taken := by
  cases arguments using List.reverseRecOn with
  | nil => cases waits
  | append_singleton before last =>
      rw [scan_concat] at waits
      obtain ⟨done, rfl, option⟩ := Scanned.waiting_read waits
      exact ⟨before, _, rfl, option, ofList_of_not_waiting done⟩

theorem ofList_eq_ok_iff :
    Arguments.ofList arguments = .ok taken ↔
      scan arguments = ⟨none, taken.language, taken.others⟩ := by
  rw [ofList_eq_result_scan]
  obtain ⟨waiting, language, others⟩ := scan arguments
  cases waiting with
  | none =>
      rw [Scanned.result, Except.ok.injEq, Scanned.mk.injEq]
      constructor
      · rintro rfl
        exact ⟨rfl, rfl, rfl⟩
      · rintro ⟨_, rfl, rfl⟩
        rfl
  | some option =>
      constructor
      · intro parsed
        cases parsed
      · intro same
        cases same

theorem ofList_eq_error_iff {error : UsageError} :
    Arguments.ofList arguments = .error error ↔
      ∃ flag, (scan arguments).waiting = some flag ∧ error = .missingValue flag := by
  rw [ofList_eq_result_scan, Scanned.result]
  cases (scan arguments).waiting with
  | none =>
      constructor
      · intro failed
        cases failed
      · rintro ⟨flag, waits, -⟩
        cases waits
  | some flag =>
      rw [Except.error.injEq]
      constructor
      · rintro rfl
        exact ⟨flag, rfl, rfl⟩
      · rintro ⟨_, same, rfl⟩
        rw [Option.some.inj same]

namespace Arguments

theorem ofList_concat_flag (parsed : ofList before = .ok taken)
    (option : isLanguageOption flag = true) :
    ofList (before ++ [flag]) = .error (.missingValue flag) := by
  refine ofList_eq_error_iff.mpr ⟨flag, ?_, rfl⟩
  rw [scan_concat, ofList_eq_ok_iff.mp parsed,
    Scanned.read_of_option _ _ (heldLanguage?_of_isLanguageOption option) option]

/-- A list that has been taken apart goes on with the next one as if that stood alone. -/
theorem ofList_append (parsed : ofList arguments = .ok taken) (more : List String) :
    ofList (arguments ++ more) = (ofList more).map fun later =>
      ⟨later.language.or taken.language, taken.others ++ later.others⟩ := by
  rw [ofList_eq_result_scan, scan, List.foldl_append, ← scan, ofList_eq_ok_iff.mp parsed,
    result_foldl_read]

/-- A language option that has waited takes the next argument, whatever that is. -/
theorem ofList_concat_flag_append (parsed : ofList before = .ok taken)
    (option : isLanguageOption flag = true) (value : String) (more : List String) :
    ofList (before ++ [flag] ++ [value] ++ more) = (ofList more).map fun later =>
      ⟨later.language.or (some value), taken.others ++ later.others⟩ := by
  have next : ofList (flag :: value :: more) = (ofList more).map (withLanguage value) := by
    rcases (isLanguageOption_iff flag).mp option with rfl | rfl
    · exact ofList_short value more
    · exact ofList_long value more
  rw [List.append_assoc, List.append_assoc, ofList_append parsed]
  show (ofList (flag :: value :: more)).map _ = _
  rw [next]
  cases ofList more with
  | error error => rfl
  | ok later => simp only [Except.map, withLanguage, Option.or_assoc, Option.some_or]

theorem ofList_of_not_givesLanguage (plain : ∀ argument ∈ arguments, ¬ GivesLanguage argument) :
    ofList arguments = .ok ⟨none, arguments⟩ := by
  induction arguments with
  | nil => rfl
  | cons argument rest ih =>
      obtain ⟨held, option⟩ :=
        (not_givesLanguage_iff argument).mp (plain argument List.mem_cons_self)
      rw [ofList_other held (Bool.eq_false_iff.mpr option),
        ih fun other member => plain other (List.mem_cons_of_mem _ member)]
      rfl

/-- Taking the language options out of a list is taking them out of its parts, one behind the
other. A list that can be taken apart may be followed by any other, of which the language goes
before; what is left of it holds no language option and is left as it is. A list fails exactly if
it ends with a language option behind a list that does not fail; then it can go on with any value
for that option. -/
theorem ofList_composes (arguments : List String) :
    (∀ taken, ofList arguments = .ok taken →
      (∀ more, ofList (arguments ++ more) = (ofList more).map fun later =>
        ⟨later.language.or taken.language, taken.others ++ later.others⟩) ∧
      (∀ argument ∈ taken.others, ¬ GivesLanguage argument) ∧
      ofList taken.others = .ok ⟨none, taken.others⟩) ∧
    ((∃ error, ofList arguments = .error error) ↔
      ∃ before flag taken, arguments = before ++ [flag] ∧ (flag = "-l" ∨ flag = "--language") ∧
        ofList before = .ok taken) ∧
    ∀ before flag taken, arguments = before ++ [flag] → (flag = "-l" ∨ flag = "--language") →
      ofList before = .ok taken →
        ofList arguments = .error (.missingValue flag) ∧
        ∀ value more, ofList (arguments ++ [value] ++ more) = (ofList more).map fun later =>
          ⟨later.language.or (some value), taken.others ++ later.others⟩ := by
  refine ⟨?followed, ?fails, ?waits⟩
  case followed =>
    intro taken parsed
    have left : ∀ argument ∈ taken.others, ¬ GivesLanguage argument := by
      have kept := not_givesLanguage_of_mem_scan arguments
      rwa [ofList_eq_ok_iff.mp parsed] at kept
    exact ⟨ofList_append parsed, left, ofList_of_not_givesLanguage left⟩
  case fails =>
    constructor
    · rintro ⟨error, failed⟩
      obtain ⟨flag, waits, -⟩ := ofList_eq_error_iff.mp failed
      obtain ⟨before, taken, split, option, parsed⟩ := exists_flag_of_waiting waits
      exact ⟨before, flag, taken, split, (isLanguageOption_iff flag).mp option, parsed⟩
    · rintro ⟨before, flag, taken, rfl, form, parsed⟩
      exact ⟨_, ofList_concat_flag parsed ((isLanguageOption_iff flag).mpr form)⟩
  case waits =>
    rintro before flag taken rfl form parsed
    have option := (isLanguageOption_iff flag).mpr form
    exact ⟨ofList_concat_flag parsed option, ofList_concat_flag_append parsed option⟩

/-- The option that waits takes the next argument for its value, also one that looks like an option
itself, and it goes before the option in front of it. -/
theorem ofList_composes_hus :
    ofList ["hus", "--language=nb"] = .ok ⟨some "nb", ["hus"]⟩ ∧
      ofList ["hus", "--language=nb", "-l"] = .error (.missingValue "-l") ∧
      ofList ["hus", "--language=nb", "-l", "--language", "--help", "--language=no"] =
        .ok ⟨some "no", ["hus", "--help"]⟩ ∧
      ofList ["hus", "--language=nb", "-l", "--language", "--help"] =
        .ok ⟨some "--language", ["hus", "--help"]⟩ := by
  have parsed : ofList ["hus", "--language=nb"] = .ok ⟨some "nb", ["hus"]⟩ := by decide
  obtain ⟨failed, goesOn⟩ := (ofList_composes ["hus", "--language=nb", "-l"]).2.2
    ["hus", "--language=nb"] "-l" _ rfl (.inl rfl) parsed
  have whole : ofList ["hus", "--language=nb", "-l", "--language", "--help"] =
      .ok ⟨some "--language", ["hus", "--help"]⟩ := goesOn "--language" ["--help"]
  have overridden := ((ofList_composes _).1 _ whole).1 ["--language=no"]
  exact ⟨parsed, failed, overridden, whole⟩

end Arguments

end Stemming.CommandLine
