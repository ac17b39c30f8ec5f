import Stemming.Proofs.Text.Words

set_option autoImplicit false

namespace Stemming.Text

section

variable {α : Type}

/-- A word of accepted elements, and the separator behind it. -/
structure Piece (accepted : α → Bool) where
  word : List α
  separator : List α
  nonempty : word ≠ []
  inside : ∀ element ∈ word, accepted element = true
  outside : ∀ element ∈ separator, accepted element = false

/-- A separator in front, and then the words, each with the separator behind it. Only the one in
front and the last one may be empty: two words with nothing between them would be one. -/
structure Division (accepted : α → Bool) where
  front : List α
  pieces : List (Piece accepted)
  outside : ∀ element ∈ front, accepted element = false
  apart : ∀ separator ∈ (pieces.map Piece.separator).dropLast, separator ≠ []

variable {accepted : α → Bool}

theorem filter_of_not_accepted {gap : List α}
    (outside : ∀ element ∈ gap, accepted element = false) :
    gap.filter accepted = [] := by
  rw [List.filter_eq_nil_iff]
  intro element member
  exact Bool.eq_false_iff.mp (outside element member)

namespace Piece

def elements (piece : Piece accepted) : List α :=
  piece.word ++ piece.separator

def single {first : α} {separator : List α} (accepts : accepted first = true)
    (outside : ∀ element ∈ separator, accepted element = false) : Piece accepted where
  word := [first]
  separator := separator
  nonempty := List.cons_ne_nil first []
  inside := List.forall_mem_singleton.mpr accepts
  outside := outside

def cons {first : α} (accepts : accepted first = true) (piece : Piece accepted) :
    Piece accepted where
  word := first :: piece.word
  separator := piece.separator
  nonempty := List.cons_ne_nil first piece.word
  inside := List.forall_mem_cons.mpr ⟨accepts, piece.inside⟩
  outside := piece.outside

theorem runs_elements (piece : Piece accepted) : runs accepted piece.elements = [piece.word] := by
  have alone := runs_of_accepted piece.nonempty piece.inside
  by_cases none : piece.separator = []
  · rw [elements, none, List.append_nil, alone]
  · have parted := runs_append_gap none piece.outside piece.word []
    rwa [List.append_nil, alone] at parted

theorem runs_elements_append {piece : Piece accepted} (apart : piece.separator ≠ [])
    (after : List α) :
    runs accepted (piece.elements ++ after) = piece.word :: runs accepted after := by
  rw [elements, runs_append_gap apart piece.outside, runs_of_accepted piece.nonempty piece.inside]
  rfl

theorem filter_elements (piece : Piece accepted) : piece.elements.filter accepted = piece.word := by
  rw [elements, List.filter_append, List.filter_eq_self.mpr piece.inside,
    filter_of_not_accepted piece.outside, List.append_nil]

end Piece

theorem runs_pieces {pieces : List (Piece accepted)}
    (apart : ∀ separator ∈ (pieces.map Piece.separator).dropLast, separator ≠ []) :
    runs accepted (pieces.flatMap Piece.elements) = pieces.map Piece.word := by
  induction pieces with
  | nil => rfl
  | cons piece rest ih =>
      cases rest with
      | nil =>
          rw [List.flatMap_singleton]
          exact piece.runs_elements
      | cons next rest =>
          obtain ⟨first, others⟩ := List.forall_mem_cons.mp apart
          rw [List.flatMap_cons, Piece.runs_elements_append first, ih others]
          rfl

namespace Division

def elements (division : Division accepted) : List α :=
  division.front ++ division.pieces.flatMap Piece.elements

def words (division : Division accepted) : List (List α) :=
  division.pieces.map Piece.word

/-- In whatever way a list is taken apart, the words are its runs. -/
theorem runs_elements (division : Division accepted) :
    runs accepted division.elements = division.words := by
  rw [elements, runs_append_of_not_accepted division.outside, runs_pieces division.apart, words]

theorem filter_elements (division : Division accepted) :
    division.elements.filter accepted = division.words.flatten := by
  rw [elements, List.filter_append, filter_of_not_accepted division.outside, List.nil_append,
    List.filter_flatMap, words, ← List.flatMap_def]
  simp only [Piece.filter_elements]

/-- With one more element in front a list can be taken apart as well. -/
theorem exists_cons (division : Division accepted) (first : α) :
    ∃ longer : Division accepted, longer.elements = first :: division.elements := by
  obtain ⟨front, pieces, outside, apart⟩ := division
  cases accepts : accepted first with
  | false =>
      exact ⟨⟨first :: front, pieces, List.forall_mem_cons.mpr ⟨accepts, outside⟩, apart⟩, rfl⟩
  | true =>
      -- The element goes on into the first word if nothing lies between; else it is a word.
      cases pieces with
      | nil =>
          refine ⟨⟨[], [.single accepts outside], nofun, nofun⟩, ?_⟩
          simp [elements, Piece.elements, Piece.single]
      | cons piece rest =>
          cases front with
          | nil => exact ⟨⟨[], piece.cons accepts :: rest, nofun, apart⟩, rfl⟩
          | cons gap front =>
              refine ⟨⟨[], .single accepts outside :: piece :: rest, nofun, ?_⟩, rfl⟩
              exact List.forall_mem_cons.mpr ⟨List.cons_ne_nil gap front, apart⟩

theorem exists_elements_eq (accepted : α → Bool) (list : List α) :
    ∃ division : Division accepted, division.elements = list := by
  induction list with
  | nil => exact ⟨⟨[], [], nofun, nofun⟩, rfl⟩
  | cons first rest ih =>
      obtain ⟨division, rfl⟩ := ih
      exact division.exists_cons first

end Division

/-- The runs of a list are the only words with which it can be taken apart. -/
theorem eq_runs_iff {list : List α} {found : List (List α)} :
    found = runs accepted list ↔
      ∃ division : Division accepted, division.elements = list ∧ division.words = found := by
  constructor
  · rintro rfl
    obtain ⟨division, rfl⟩ := Division.exists_elements_eq accepted list
    exact ⟨division, rfl, division.runs_elements.symm⟩
  · rintro ⟨division, rfl, rfl⟩
    exact division.runs_elements.symm

theorem flatten_runs (list : List α) : (runs accepted list).flatten = list.filter accepted := by
  obtain ⟨division, rfl⟩ := Division.exists_elements_eq accepted list
  rw [division.runs_elements, division.filter_elements]

end

theorem eq_words_iff {text : String} {found : List String} :
    found = words text ↔ found.map String.toList = runs isAlphabetic text.toList := by
  constructor
  · rintro rfl
    rw [words, List.map_map]
    exact List.map_id'' (fun _ => String.toList_ofList) _
  · intro same
    rw [words, ← same, List.map_map]
    exact (List.map_id'' (fun _ => String.ofList_toList) found).symm

/-- A text can be taken apart into its words and separators, and into no other words. So its words
are those of the text before a gap and then those of the text behind it, they hold the letters of
the text, each once and in order, and they are what a split at every other character leaves. -/
theorem words_divide_text (text : String) :
    (∀ found : List String, found = words text ↔
      ∃ division : Division isAlphabetic,
        division.elements = text.toList ∧ division.words = found.map String.toList) ∧
    (∀ before gap after : String, text = before ++ gap ++ after → gap ≠ "" →
      (∀ letter ∈ gap.toList, isAlphabetic letter = false) →
      words text = words before ++ words after) ∧
    (words text).flatMap String.toList = text.toList.filter isAlphabetic ∧
    words text = ((text.toList.splitOnP fun letter => !isAlphabetic letter).filter
      fun part => !part.isEmpty).map String.ofList := by
  refine ⟨fun found => ?unique, ?parted, ?complete, ?split⟩
  case unique =>
    rw [eq_words_iff, eq_runs_iff]
  case parted =>
    rintro before gap after rfl nonempty outside
    exact words_append_gap nonempty outside before after
  case complete =>
    rw [List.flatMap_def, eq_words_iff.mp rfl, flatten_runs]
  case split =>
    rw [words, runs_eq_filter_splitOnP]

/-- A number between two spaces is a gap. -/
theorem words_divide_text_katten :
    (∀ letter ∈ " 3 ".toList, isAlphabetic letter = false) ∧
    words "Katten, huset og 3 bøker-hyllene!" =
      words "Katten, huset og" ++ words "bøker-hyllene!" ∧
    ∃ division : Division isAlphabetic,
      division.elements = "Katten, huset og 3 bøker-hyllene!".toList ∧
      division.words =
        ["Katten", "huset", "og", "bøker", "hyllene"].map String.toList := by
  have rejected : (" 3 ".toList.all fun letter => !isAlphabetic letter) = true := by
    decide +kernel
  have outside : ∀ letter ∈ " 3 ".toList, isAlphabetic letter = false := by
    intro letter member
    exact (Bool.not_eq_true' _).mp (List.all_eq_true.mp rejected letter member)
  obtain ⟨unique, parted, _⟩ := words_divide_text "Katten, huset og 3 bøker-hyllene!"
  refine ⟨outside, parted _ " 3 " _ (by decide) (by decide) outside, ?_⟩
  exact (unique _).mp (by decide +kernel)

end Stemming.Text
