import Stemming.Proofs.Text.Lines

set_option autoImplicit false

namespace Stemming.Text

/-- Bytes that are the UTF-8 of some characters. -/
def IsUtf8 (bytes : List UInt8) : Prop :=
  ∃ letters, encode letters = bytes

theorem isUtf8_iff (bytes : List UInt8) :
    IsUtf8 bytes ↔ (String.fromUTF8? ⟨bytes.toArray⟩).isSome = true := by
  constructor
  · rintro ⟨letters, rfl⟩
    rw [fromUTF8?_encode]
    rfl
  · intro decoded
    rw [String.fromUTF8?] at decoded
    by_cases valid : (⟨bytes.toArray⟩ : ByteArray).IsValidUTF8
    · obtain ⟨letters, encoded⟩ := valid
      refine ⟨letters, ?_⟩
      have same := congrArg (·.data.toList) encoded
      simp only [List.utf8Encode, List.data_toByteArray] at same
      exact same.symm
    · rw [dif_neg valid] at decoded
      cases decoded

instance (bytes : List UInt8) : Decidable (IsUtf8 bytes) :=
  decidable_of_iff _ (isUtf8_iff bytes).symm

/-- A carriage return is a character by itself, so it can be taken off. -/
theorem isUtf8_append_return_iff (line : List UInt8) :
    IsUtf8 (line ++ [carriageReturn]) ↔ IsUtf8 line := by
  constructor
  · rintro ⟨letters, encoded⟩
    rcases List.eq_nil_or_concat letters with rfl | ⟨start, last, rfl⟩
    · simp [encode] at encoded
    · obtain ⟨front, byte, ends⟩ :=
        (List.eq_nil_or_concat (String.utf8EncodeChar last)).resolve_left
          String.utf8EncodeChar_ne_nil
      have single : encode [last] = String.utf8EncodeChar last := List.append_nil _
      rw [List.concat_eq_append] at ends encoded
      rw [encode_append, single, ends, ← List.append_assoc] at encoded
      obtain ⟨before, rfl⟩ := List.append_singleton_inj.mp encoded
      obtain rfl : last = '\r' :=
        eq_of_mem_utf8EncodeChar (ends ▸ List.mem_append_right front List.mem_cons_self) (by decide)
      have alone : [] ++ [carriageReturn] = front ++ [carriageReturn] := ends
      obtain rfl : [] = front := (List.append_singleton_inj.mp alone).1
      exact ⟨start, by rw [← before, List.append_nil]⟩
  · rintro ⟨letters, rfl⟩
    exact ⟨letters ++ ['\r'], encode_append letters ['\r']⟩

theorem isUtf8_withoutReturn_iff (line : List UInt8) :
    IsUtf8 (withoutReturn line.reverse).reverse ↔ IsUtf8 line := by
  rcases List.eq_nil_or_concat line with rfl | ⟨start, last, rfl⟩
  · rfl
  · rw [List.concat_eq_append, List.reverse_concat, withoutReturn]
    by_cases dropped : last = carriageReturn
    · rw [if_pos dropped, List.reverse_reverse, dropped, isUtf8_append_return_iff]
    · rw [if_neg dropped, List.reverse_cons, List.reverse_reverse]

/-- The first line that is not UTF-8, by its number, where lines are what line feeds divide. -/
def firstBroken? (stream : List UInt8) : Option Nat :=
  (stream.splitOn lineFeed).findIdx? fun line => !decide (IsUtf8 line)

/-- The lines before the first that is not UTF-8; the whole stream if each line is UTF-8. -/
def readable (stream : List UInt8) : List UInt8 :=
  match firstBroken? stream with
  | none => stream
  | some index => ((stream.splitOn lineFeed).take index).flatMap (· ++ [lineFeed])

section

variable {line : List UInt8}

theorem firstBroken?_last (unbroken : lineFeed ∉ line) :
    firstBroken? line = if IsUtf8 line then none else some 0 := by
  rw [firstBroken?, List.splitOn_eq_singleton unbroken]
  by_cases utf8 : IsUtf8 line <;> simp [utf8]

theorem firstBroken?_ended (unbroken : lineFeed ∉ line) (rest : List UInt8) :
    firstBroken? (line ++ lineFeed :: rest) =
      if IsUtf8 line then (firstBroken? rest).map (· + 1) else some 0 := by
  rw [firstBroken?, List.splitOn_append_cons_self_of_not_mem unbroken, List.findIdx?_cons]
  by_cases utf8 : IsUtf8 line <;> simp [utf8, firstBroken?]

theorem readable_last (unbroken : lineFeed ∉ line) :
    readable line = if IsUtf8 line then line else [] := by
  rw [readable, firstBroken?_last unbroken]
  by_cases utf8 : IsUtf8 line
  · simp only [if_pos utf8]
  · simp only [if_neg utf8, List.take_zero, List.flatMap_nil]

theorem readable_ended (unbroken : lineFeed ∉ line) (rest : List UInt8) :
    readable (line ++ lineFeed :: rest) =
      if IsUtf8 line then line ++ lineFeed :: readable rest else [] := by
  rw [readable, firstBroken?_ended unbroken]
  by_cases utf8 : IsUtf8 line
  · rw [if_pos utf8, if_pos utf8, readable, List.splitOn_append_cons_self_of_not_mem unbroken]
    cases firstBroken? rest with
    | none => rfl
    | some index =>
        simp only [Option.map_some, List.take_succ_cons, List.flatMap_cons, List.append_assoc,
          List.singleton_append]
  · simp only [if_neg utf8, List.take_zero, List.flatMap_nil]

theorem isUtf8_readable (stream : List UInt8) : IsUtf8 (readable stream) := by
  induction stream using lines_induction lineFeed with
  | last line unbroken =>
      rw [readable_last unbroken]
      split
      · assumption
      · exact ⟨[], rfl⟩
  | ended line rest unbroken ih =>
      rw [readable_ended unbroken]
      split
      · next utf8 =>
        obtain ⟨letters, rfl⟩ := utf8
        obtain ⟨others, encoded⟩ := ih
        exact ⟨letters ++ '\n' :: others, by rw [← encoded, encode_append]; rfl⟩
      · exact ⟨[], rfl⟩

theorem readLines_of_not_isUtf8 (broken : ¬ IsUtf8 line) (others : List (List UInt8)) :
    readLines (line :: others) = ⟨[], false⟩ := by
  have undecoded := Option.not_isSome_iff_eq_none.mp (mt (isUtf8_iff line).mpr broken)
  rw [readLines, undecoded]

theorem IsUtf8.readLines_eq (utf8 : IsUtf8 line) :
    ∃ text, ∀ others, readLines (line :: others) =
      ⟨text :: (readLines others).lines, (readLines others).complete⟩ := by
  obtain ⟨text, decoded⟩ := Option.isSome_iff_exists.mp ((isUtf8_iff line).mp utf8)
  exact ⟨text, fun others => by rw [readLines, decoded]⟩

theorem IsUtf8.readStream_ended (utf8 : IsUtf8 line) (unbroken : lineFeed ∉ line) :
    ∃ text, ∀ rest, readStream (line ++ lineFeed :: rest) =
      ⟨text :: (readStream rest).lines, (readStream rest).complete⟩ := by
  obtain ⟨text, read⟩ := ((isUtf8_withoutReturn_iff line).mpr utf8).readLines_eq
  exact ⟨text, fun rest => by rw [readStream, lines_ended unbroken, read, readStream]⟩

theorem readStream_ended_of_not_isUtf8 (broken : ¬ IsUtf8 line) (unbroken : lineFeed ∉ line)
    (rest : List UInt8) : readStream (line ++ lineFeed :: rest) = ⟨[], false⟩ := by
  rw [readStream, lines_ended unbroken,
    readLines_of_not_isUtf8 (mt (isUtf8_withoutReturn_iff line).mp broken)]

theorem IsUtf8.readStream_last (utf8 : IsUtf8 line) (unbroken : lineFeed ∉ line) :
    ∃ lines, readStream line = ⟨lines, true⟩ := by
  by_cases nonempty : line = []
  · subst nonempty
    exact ⟨[], rfl⟩
  · obtain ⟨text, read⟩ := utf8.readLines_eq
    rw [readStream, lines_last unbroken nonempty, read]
    exact ⟨[text], rfl⟩

theorem readStream_last_of_not_isUtf8 (broken : ¬ IsUtf8 line) (unbroken : lineFeed ∉ line) :
    readStream line = ⟨[], false⟩ := by
  have nonempty : line ≠ [] := fun empty => broken ⟨[], empty.symm⟩
  rw [readStream, lines_last unbroken nonempty, readLines_of_not_isUtf8 broken]

end

/-- The lines before the first that is not UTF-8 are read to their end. Of the whole stream the same
lines are read, and the end is reached only if there is no such line. -/
theorem exists_readStream_readable (stream : List UInt8) :
    ∃ lines, readStream (readable stream) = ⟨lines, true⟩ ∧
      readStream stream = ⟨lines, (firstBroken? stream).isNone⟩ := by
  induction stream using lines_induction lineFeed with
  | last line unbroken =>
      rw [readable_last unbroken, firstBroken?_last unbroken]
      by_cases utf8 : IsUtf8 line
      · obtain ⟨lines, read⟩ := utf8.readStream_last unbroken
        rw [if_pos utf8, if_pos utf8]
        exact ⟨lines, read, read⟩
      · rw [if_neg utf8, if_neg utf8]
        exact ⟨[], rfl, readStream_last_of_not_isUtf8 utf8 unbroken⟩
  | ended line rest unbroken ih =>
      obtain ⟨lines, clean, whole⟩ := ih
      rw [readable_ended unbroken, firstBroken?_ended unbroken]
      by_cases utf8 : IsUtf8 line
      · obtain ⟨text, read⟩ := utf8.readStream_ended unbroken
        rw [if_pos utf8, if_pos utf8, read, read, clean, whole, Option.isNone_map]
        exact ⟨text :: lines, rfl, rfl⟩
      · rw [if_neg utf8, if_neg utf8]
        exact ⟨[], rfl, readStream_ended_of_not_isUtf8 utf8 unbroken rest⟩

/-- What is read of a stream is what stands on the lines of its readable text. -/
theorem exists_lined_readable (stream : List UInt8) :
    ∃ text lines, bytes text = readable stream ∧ Lined text.toList (lines.map String.toList) ∧
      readStream (readable stream) = ⟨lines, true⟩ ∧
      readStream stream = ⟨lines, (firstBroken? stream).isNone⟩ := by
  obtain ⟨letters, encoded⟩ := isUtf8_readable stream
  obtain ⟨parts, lined⟩ := exists_lined letters
  obtain ⟨lines, clean, whole⟩ := exists_readStream_readable stream
  have read := lined.readStream_encode
  rw [encoded, clean] at read
  obtain ⟨rfl, -⟩ := Reading.mk.inj read
  refine ⟨String.ofList letters, _, ?_, ?_, clean, whole⟩
  · rw [bytes_ofList, encoded]
  · have same : (parts.map String.ofList).map String.toList = parts := by
      simp [Function.comp_def]
    rwa [String.toList_ofList, same]

end Stemming.Text
