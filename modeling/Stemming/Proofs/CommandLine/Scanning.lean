import Stemming.Proofs.CommandLine.Arguments

set_option autoImplicit false

namespace Stemming.CommandLine

/-- What has been read of a list of arguments. -/
structure Scanned where
  /-- The language option that waits for its value. -/
  waiting : Option String
  language : Option String
  others : List String
  deriving DecidableEq, Repr

namespace Scanned

def read (scanned : Scanned) (argument : String) : Scanned :=
  match scanned.waiting with
  | some _ => { scanned with waiting := none, language := some argument }
  | none =>
    match Arguments.heldLanguage? argument with
    | some value => { scanned with language := some value }
    | none =>
      if Arguments.isLanguageOption argument then { scanned with waiting := some argument }
      else { scanned with others := scanned.others ++ [argument] }

/-- The arguments as they have been read, unless an option still waits. -/
def result (scanned : Scanned) : Except UsageError Arguments :=
  match scanned.waiting with
  | some option => .error (.missingValue option)
  | none => .ok ⟨scanned.language, scanned.others⟩

end Scanned

def scan (arguments : List String) : Scanned :=
  arguments.foldl Scanned.read ⟨none, none, []⟩

namespace Arguments

theorem heldLanguage?_eq_some_iff (argument value : String) :
    heldLanguage? argument = some value ↔ argument = languageLead ++ value := by
  constructor
  · intro held
    obtain ⟨lead, rest⟩ := Option.ite_none_right_eq_some.mp held
    obtain ⟨code, letters⟩ := List.isPrefixOf_iff_prefix.mp lead
    rw [← letters, ← String.length_toList, List.drop_left, Option.some.injEq] at rest
    rw [← rest, ← String.toList_inj, String.toList_append, String.toList_ofList, letters]
  · rintro rfl
    exact heldLanguage?_lead value

end Arguments

namespace Scanned

variable {argument value : String} (language : Option String) (others : List String)

theorem read_of_waiting (option argument : String) :
    read ⟨some option, language, others⟩ argument = ⟨none, some argument, others⟩ :=
  rfl

theorem read_of_held (held : Arguments.heldLanguage? argument = some value) :
    read ⟨none, language, others⟩ argument = ⟨none, some value, others⟩ := by
  simp only [read, held]

theorem read_of_option (held : Arguments.heldLanguage? argument = none)
    (option : Arguments.isLanguageOption argument = true) :
    read ⟨none, language, others⟩ argument = ⟨some argument, language, others⟩ := by
  simp only [read, held, option, ↓reduceIte]

theorem read_of_other (held : Arguments.heldLanguage? argument = none)
    (option : ¬ Arguments.isLanguageOption argument = true) :
    read ⟨none, language, others⟩ argument = ⟨none, language, others ++ [argument]⟩ := by
  simp only [read, held, option, Bool.false_eq_true, ↓reduceIte]

end Scanned

/-- The arguments are taken apart alike by reading them one at a time and by looking ahead for a
value. -/
theorem result_foldl_read (arguments : List String) (language : Option String)
    (others : List String) :
    (arguments.foldl Scanned.read ⟨none, language, others⟩).result =
      (Arguments.ofList arguments).map fun rest =>
        ⟨rest.language.or language, others ++ rest.others⟩ := by
  -- the cases of looking ahead: a language option takes its value in the same step
  fun_induction Arguments.ofList arguments generalizing language others with
  | case1 =>
      show Except.ok (Arguments.mk language others) = .ok ⟨none.or language, others ++ []⟩
      rw [Option.none_or, List.append_nil]
  | case2 argument rest value held ih =>
      rw [List.foldl_cons, Scanned.read_of_held _ _ held, ih]
      cases Arguments.ofList rest with
      | error error => rfl
      | ok taken => simp only [Except.map, Arguments.withLanguage, Option.or_assoc, Option.some_or]
  | case3 argument held option =>
      rw [List.foldl_cons, Scanned.read_of_option _ _ held option]
      rfl
  | case4 argument held option value rest ih =>
      rw [List.foldl_cons, Scanned.read_of_option _ _ held option, List.foldl_cons,
        Scanned.read_of_waiting, ih]
      cases Arguments.ofList rest with
      | error error => rfl
      | ok taken => simp only [Except.map, Arguments.withLanguage, Option.or_assoc, Option.some_or]
  | case5 argument rest held other ih =>
      rw [List.foldl_cons, Scanned.read_of_other _ _ held other, ih]
      cases Arguments.ofList rest with
      | error error => rfl
      | ok taken => simp only [Except.map, Arguments.withOther, List.append_assoc,
          List.singleton_append]

theorem ofList_eq_result_scan (arguments : List String) :
    Arguments.ofList arguments = (scan arguments).result := by
  rw [scan, result_foldl_read]
  cases Arguments.ofList arguments with
  | error error => rfl
  | ok taken => simp only [Except.map, Option.or_none, List.nil_append]

theorem ofList_of_not_waiting {arguments : List String} (done : (scan arguments).waiting = none) :
    Arguments.ofList arguments = .ok ⟨(scan arguments).language, (scan arguments).others⟩ := by
  rw [ofList_eq_result_scan, Scanned.result, done]

end Stemming.CommandLine
