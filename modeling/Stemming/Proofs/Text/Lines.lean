import Mathlib.Data.List.Basic
import Stemming.Proofs.Text.Words
import Stemming.Text.Lines

set_option autoImplicit false

namespace Stemming.Text

def bytes (text : String) : List UInt8 :=
  text.toUTF8.data.toList

def encode (letters : List Char) : List UInt8 :=
  letters.flatMap String.utf8EncodeChar

/-- A line that ended, without a carriage return at its end. -/
def withoutEndReturn (line : List Char) : List Char :=
  if line.getLast? = some '\r' then line.dropLast else line

/-- A text and its lines. Each line but the last has ended with a line feed. -/
inductive Lined : List Char → List (List Char) → Prop where
  | empty : Lined [] []
  | last {line : List Char} (unbroken : '\n' ∉ line) (nonempty : line ≠ []) : Lined line [line]
  | ended {line rest : List Char} {lines : List (List Char)} (unbroken : '\n' ∉ line)
      (others : Lined rest lines) : Lined (line ++ '\n' :: rest) (withoutEndReturn line :: lines)

theorem encode_cons (letter : Char) (rest : List Char) :
    encode (letter :: rest) = String.utf8EncodeChar letter ++ encode rest :=
  List.flatMap_cons

theorem encode_append (first second : List Char) :
    encode (first ++ second) = encode first ++ encode second :=
  List.flatMap_append

theorem bytes_ofList (letters : List Char) : bytes (String.ofList letters) = encode letters := by
  show (letters.flatMap String.utf8EncodeChar).toByteArray.data.toList = _
  rw [List.data_toByteArray]
  rfl

theorem utf8EncodeChar_of_lt {letter : Char} (ascii : letter.toNat < 128) :
    String.utf8EncodeChar letter = [UInt8.ofNat letter.toNat] :=
  if_pos (Nat.le_of_lt_succ ascii)

/-- Each byte of a character that takes several has its high bit set. -/
theorem le_of_mem_utf8EncodeChar {byte : UInt8} {letter : Char} (wide : 128 ≤ letter.toNat)
    (member : byte ∈ String.utf8EncodeChar letter) : 128 ≤ byte.toNat := by
  have several : ¬ letter.val.toNat ≤ 127 := Nat.not_le.mpr wide
  simp only [String.utf8EncodeChar, if_neg several] at member
  -- two, three or four bytes, each a remainder with 128 or more added to it
  split at member
  · simp only [List.mem_cons, List.not_mem_nil, or_false] at member
    rcases member with rfl | rfl <;> rw [UInt8.toNat_ofNat'] <;> omega
  · split at member
    · simp only [List.mem_cons, List.not_mem_nil, or_false] at member
      rcases member with rfl | rfl | rfl <;> rw [UInt8.toNat_ofNat'] <;> omega
    · simp only [List.mem_cons, List.not_mem_nil, or_false] at member
      rcases member with rfl | rfl | rfl | rfl <;> rw [UInt8.toNat_ofNat'] <;> omega

/-- A byte below 128 is a character by itself. -/
theorem eq_of_mem_utf8EncodeChar {byte : UInt8} {letter : Char}
    (member : byte ∈ String.utf8EncodeChar letter) (ascii : byte.toNat < 128) :
    letter = Char.ofNat byte.toNat := by
  have single : letter.toNat < 128 := by
    by_contra wide
    have high := le_of_mem_utf8EncodeChar (Nat.le_of_not_lt wide) member
    omega
  rw [utf8EncodeChar_of_lt single] at member
  obtain rfl := List.mem_singleton.mp member
  rw [UInt8.toNat_ofNat', Nat.mod_eq_of_lt (by omega), Char.ofNat_toNat]

theorem lineFeed_not_mem_encode {line : List Char} (unbroken : '\n' ∉ line) :
    lineFeed ∉ encode line := by
  intro member
  obtain ⟨letter, inLine, inLetter⟩ := List.mem_flatMap.mp member
  rw [eq_of_mem_utf8EncodeChar inLetter (by decide)] at inLine
  exact unbroken inLine

theorem withoutReturn_of_not_mem {read : List UInt8} (absent : carriageReturn ∉ read) :
    ∀ others, read ≠ [] → withoutReturn (read ++ others) = read ++ others := by
  intro others nonempty
  cases read with
  | nil => exact absurd rfl nonempty
  | cons last rest =>
      have other : last ≠ carriageReturn := fun same => absent (same ▸ List.mem_cons_self)
      exact if_neg other

/-- The carriage return that is dropped from the bytes of a line is the one at the line's end. -/
theorem withoutReturn_encode (line : List Char) :
    (withoutReturn (encode line).reverse).reverse = encode (withoutEndReturn line) := by
  rcases List.eq_nil_or_concat line with rfl | ⟨start, last, rfl⟩
  · rfl
  · have split : (encode (start ++ [last])).reverse =
        (String.utf8EncodeChar last).reverse ++ (encode start).reverse := by
      rw [encode_append, List.reverse_append, encode_cons]
      simp [encode]
    simp only [List.concat_eq_append, split, withoutEndReturn, List.getLast?_concat,
      Option.some.injEq, List.dropLast_concat]
    by_cases dropped : last = '\r'
    · subst dropped
      simp only [↓reduceIte]
      exact List.reverse_reverse _
    · rw [if_neg dropped, withoutReturn_of_not_mem]
      · rw [← split, List.reverse_reverse]
      · intro member
        exact dropped (eq_of_mem_utf8EncodeChar (List.mem_reverse.mp member) (by decide))
      · simp [String.utf8EncodeChar_ne_nil]

theorem linesFrom_append {line : List UInt8} (unbroken : lineFeed ∉ line)
    (read rest : List UInt8) :
    linesFrom read (line ++ rest) = linesFrom (line.reverse ++ read) rest := by
  induction line generalizing read with
  | nil => rfl
  | cons byte line ih =>
      have other : byte ≠ lineFeed := fun same => unbroken (same ▸ List.mem_cons_self)
      have others : lineFeed ∉ line := fun member => unbroken (List.mem_cons_of_mem _ member)
      rw [List.cons_append, linesFrom, if_neg other, ih others, List.reverse_cons,
        List.append_assoc]
      rfl

theorem lines_ended {line : List UInt8} (unbroken : lineFeed ∉ line) (rest : List UInt8) :
    lines (line ++ lineFeed :: rest) = (withoutReturn line.reverse).reverse :: lines rest := by
  rw [lines, linesFrom_append unbroken, List.append_nil, linesFrom, if_pos rfl]
  rfl

theorem lines_last {line : List UInt8} (unbroken : lineFeed ∉ line) (nonempty : line ≠ []) :
    lines line = [line] := by
  have read := linesFrom_append unbroken [] []
  rw [List.append_nil, List.append_nil] at read
  rw [lines, read, linesFrom, List.isEmpty_reverse, List.reverse_reverse, if_neg]
  simpa using nonempty

theorem lines_encode_ended {line : List Char} (unbroken : '\n' ∉ line) (rest : List Char) :
    lines (encode (line ++ '\n' :: rest)) =
      encode (withoutEndReturn line) :: lines (encode rest) := by
  have feed : encode ('\n' :: rest) = lineFeed :: encode rest := rfl
  rw [encode_append, feed, lines_ended (lineFeed_not_mem_encode unbroken), withoutReturn_encode]

theorem lines_encode_last {line : List Char} (unbroken : '\n' ∉ line) (nonempty : line ≠ []) :
    lines (encode line) = [encode line] := by
  have letters : encode line ≠ [] := by
    cases line with
    | nil => exact absurd rfl nonempty
    | cons letter rest => simp [encode_cons, String.utf8EncodeChar_ne_nil]
  exact lines_last (lineFeed_not_mem_encode unbroken) letters

/-- The lines of the bytes are the bytes of the lines. -/
theorem Lined.lines_encode {text : List Char} {parts : List (List Char)}
    (lined : Lined text parts) :
    lines (encode text) = parts.map encode := by
  induction lined with
  | empty => rfl
  | last unbroken nonempty => exact lines_encode_last unbroken nonempty
  | ended unbroken others ih =>
      rw [lines_encode_ended unbroken, ih]
      rfl

theorem fromUTF8?_encode (letters : List Char) :
    String.fromUTF8? ⟨(encode letters).toArray⟩ = some (String.ofList letters) := by
  have encoded : (⟨(encode letters).toArray⟩ : ByteArray) = letters.utf8Encode :=
    ByteArray.ext List.data_toByteArray.symm
  rw [encoded, String.fromUTF8?, dif_pos ByteArray.isValidUTF8_utf8Encode]
  rfl

theorem Lined.readStream_encode {text : List Char} {parts : List (List Char)}
    (lined : Lined text parts) :
    readStream (encode text) = ⟨parts.map String.ofList, true⟩ := by
  rw [readStream, lined.lines_encode]
  clear lined
  induction parts with
  | nil => rfl
  | cons line rest ih => simp only [List.map_cons, readLines, fromUTF8?_encode, ih]

/-- Induction over the lines of a text, from the last one on. -/
theorem lines_induction {α : Type} (feed : α) {motive : List α → Prop}
    (last : ∀ line, feed ∉ line → motive line)
    (ended : ∀ line rest, feed ∉ line → motive rest → motive (line ++ feed :: rest))
    (text : List α) : motive text := by
  induction size : text.length using Nat.strongRecOn generalizing text with
  | ind size ih =>
      by_cases broken : feed ∈ text
      · obtain ⟨line, rest, rfl, unbroken⟩ := List.eq_append_cons_of_mem broken
        rw [List.length_append, List.length_cons] at size
        exact ended line rest unbroken (ih rest.length (by omega) rest rfl)
      · exact last text broken

theorem exists_lined (text : List Char) : ∃ parts, Lined text parts := by
  induction text using lines_induction '\n' with
  | last line unbroken =>
      by_cases nonempty : line = []
      · exact ⟨[], nonempty ▸ .empty⟩
      · exact ⟨[line], .last unbroken nonempty⟩
  | ended line rest unbroken ih =>
      obtain ⟨parts, others⟩ := ih
      exact ⟨_, .ended unbroken others⟩

section

variable {accepted : Char → Bool}

theorem runs_withoutEndReturn (outside : accepted '\r' = false) (line : List Char) :
    runs accepted (withoutEndReturn line) = runs accepted line := by
  rw [withoutEndReturn]
  split
  · next ends =>
    obtain ⟨start, rfl⟩ := List.getLast?_eq_some_iff.mp ends
    rw [List.dropLast_concat, runs_append_cons outside]
    simp [runs]
  · rfl

/-- The runs of the lines are the runs of the text, where no run holds the end of a line. -/
theorem Lined.flatMap_runs {text : List Char} {parts : List (List Char)} (lined : Lined text parts)
    (feed : accepted '\n' = false) (carriage : accepted '\r' = false) :
    parts.flatMap (runs accepted) = runs accepted text := by
  induction lined with
  | empty => rfl
  | last unbroken nonempty => simp
  | ended unbroken others ih =>
      rw [List.flatMap_cons, runs_withoutEndReturn carriage, ih, runs_append_cons feed]

end

end Stemming.Text
