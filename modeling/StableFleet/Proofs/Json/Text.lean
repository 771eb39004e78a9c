import StableFleet.Json.Layout
import StableFleet.Json.Reader

/-!
# Texts written and read back

A text that is written between quotes is read back as it was, whatever bytes it
has: each byte is written so that reading gives that byte and goes on after it.
Writing also keeps texts well-formed, since it changes ASCII characters only and
puts ASCII characters in their place.
-/

namespace StableFleet

namespace Bytes

/-- Bytes that encode some characters. -/
def WellFormed (bytes : Bytes) : Prop :=
  ∃ characters : List Char, bytes = characters.flatMap String.utf8EncodeChar

/-- Well-formed bytes have a text. -/
theorem isSome_text?_of_wellFormed {bytes : Bytes} (wellFormed : WellFormed bytes) :
    (text? bytes).isSome = true := by
  obtain ⟨characters, rfl⟩ := wellFormed
  have valid : (characters.flatMap String.utf8EncodeChar).toByteArray.IsValidUTF8 :=
    ⟨characters, rfl⟩
  simp only [text?, String.fromUTF8?]
  rw [dif_pos valid]
  rfl

/-- The bytes of a text are well-formed. -/
theorem wellFormed_ofText (text : String) : WellFormed (ofText text) := by
  obtain ⟨characters, encoded⟩ := text.isValidUTF8
  refine ⟨characters, ?_⟩
  rw [ofText, encoded, List.utf8Encode]
  simp

/-- Bytes have a text exactly when they are the bytes of that text. -/
theorem text?_eq_some_iff {bytes : Bytes} {text : String} :
    text? bytes = some text ↔ bytes = ofText text := by
  constructor
  · intro found
    rw [text?, String.fromUTF8?] at found
    split at found
    · rw [← Option.some.inj found]
      simp [ofText, String.fromUTF8]
    · cases found
  · rintro rfl
    exact text?_ofText text

/-- Texts with the same bytes are the same. -/
theorem ofText_injective {left right : String} (same : ofText left = ofText right) :
    left = right := by
  have read := text?_ofText left
  rw [same, text?_ofText] at read
  exact (Option.some.inj read).symm

theorem wellFormed_nil : WellFormed [] := ⟨[], rfl⟩

theorem WellFormed.append {first second : Bytes} (left : WellFormed first)
    (right : WellFormed second) : WellFormed (first ++ second) := by
  obtain ⟨characters, rfl⟩ := left
  obtain ⟨others, rfl⟩ := right
  exact ⟨characters ++ others, List.flatMap_append.symm⟩

/-- An ASCII byte is a character. -/
theorem wellFormed_singleton {byte : UInt8} (isAscii : byte < 0x80) : WellFormed [byte] := by
  have encodes : ∀ number < 128,
      [UInt8.ofNat number] = String.utf8EncodeChar (Char.ofNat number) := by decide
  refine ⟨[Char.ofNat byte.toNat], ?_⟩
  rw [List.flatMap_singleton, ← encodes byte.toNat (UInt8.lt_iff_toNat_lt.mp isAscii),
    UInt8.ofNat_toNat]

/-- ASCII bytes are characters. -/
theorem wellFormed_of_ascii {bytes : Bytes} (allAscii : bytes.all (· < 0x80) = true) :
    WellFormed bytes := by
  induction bytes with
  | nil => exact wellFormed_nil
  | cons byte bytes inductionHypothesis =>
    rw [List.all_cons, Bool.and_eq_true, decide_eq_true_eq] at allAscii
    have first := wellFormed_singleton allAscii.1
    exact first.append (inductionHypothesis allAscii.2)

theorem not_ascii_ofNat {number : Nat} (low : 128 ≤ number) (high : number < 256) :
    0x80 ≤ UInt8.ofNat number := by
  rw [UInt8.le_iff_toNat_le, UInt8.toNat_ofNat', Nat.mod_eq_of_lt high]
  exact low

/-- The bytes of a character are one ASCII byte or no ASCII byte. -/
theorem encoded_character (character : Char) :
    (∃ byte, byte < 0x80 ∧ String.utf8EncodeChar character = [byte]) ∨
      ∀ byte ∈ String.utf8EncodeChar character, 0x80 ≤ byte := by
  unfold String.utf8EncodeChar
  dsimp only
  split
  · next small =>
    refine .inl ⟨_, ?_, rfl⟩
    rw [UInt8.lt_iff_toNat_lt, UInt8.toNat_ofNat', Nat.mod_eq_of_lt (by omega)]
    exact Nat.lt_succ_of_le small
  · refine .inr ?_
    intro byte present
    split at present
    · simp only [List.mem_cons, List.not_mem_nil, or_false] at present
      rcases present with rfl | rfl <;> exact not_ascii_ofNat (by omega) (by omega)
    · split at present
      · simp only [List.mem_cons, List.not_mem_nil, or_false] at present
        rcases present with rfl | rfl | rfl <;> exact not_ascii_ofNat (by omega) (by omega)
      · simp only [List.mem_cons, List.not_mem_nil, or_false] at present
        rcases present with rfl | rfl | rfl | rfl <;> exact not_ascii_ofNat (by omega) (by omega)

end Bytes

namespace Json

/-- Whether a byte is written by its number. -/
def isNumbered (byte : UInt8) : Bool :=
  byte < 0x20 && !([0x08, 0x09, 0x0A, 0x0C, 0x0D] : Bytes).contains byte

/-- How one byte of a written text is read back. -/
def pieceOf (byte : UInt8) : Piece := if isNumbered byte then .unit byte.toNat else .byte byte

/-- A byte is written with a short escape, by its number, or as it is. -/
theorem escapeByte_cases (byte : UInt8) :
    (∃ escape, escapeByte byte = [ascii '\\', escape] ∧ escape ≠ ascii 'u' ∧
      shortEscape? escape = some byte ∧ isNumbered byte = false) ∨
    (isNumbered byte = true ∧ byte < 0x20 ∧ escapeByte byte =
      [ascii '\\', ascii 'u', ascii '0', ascii '0', hexDigit (byte.toNat / 16),
        hexDigit (byte.toNat % 16)]) ∨
    (isNumbered byte = false ∧ escapeByte byte = [byte] ∧ byte ≠ ascii '"' ∧
      byte ≠ ascii '\\' ∧ ¬ byte < 0x20) := by
  unfold escapeByte
  split
  · next same => exact .inl ⟨_, rfl, by decide, by rw [same]; decide, by rw [same]; decide⟩
  split
  · next same => exact .inl ⟨_, rfl, by decide, by rw [same]; decide, by rw [same]; decide⟩
  split
  · next same => exact .inl ⟨_, rfl, by decide, by rw [same]; decide, by rw [same]; decide⟩
  split
  · next same => exact .inl ⟨_, rfl, by decide, by rw [same]; decide, by rw [same]; decide⟩
  split
  · next same => exact .inl ⟨_, rfl, by decide, by rw [same]; decide, by rw [same]; decide⟩
  split
  · next same => exact .inl ⟨_, rfl, by decide, by rw [same]; decide, by rw [same]; decide⟩
  split
  · next same => exact .inl ⟨_, rfl, by decide, by rw [same]; decide, by rw [same]; decide⟩
  split
  · next control =>
    refine .inr (.inl ⟨?_, control, rfl⟩)
    simp [isNumbered, *]
  · next visible =>
    refine .inr (.inr ⟨?_, rfl, ‹_›, ‹_›, visible⟩)
    simp [isNumbered, visible]

/-- The two hexadecimal digits of a control give its number. -/
theorem hexUnit?_digits :
    ∀ number < 32, hexUnit? (ascii '0') (ascii '0') (hexDigit (number / 16))
      (hexDigit (number % 16)) = some number := by
  decide

/-- A byte as it is written is read back as its piece, and reading goes on after
it. -/
theorem readPieces?_escapeByte (byte : UInt8) (rest : Bytes) :
    readPieces? (escapeByte byte ++ rest) =
      (readPieces? rest).map fun parts => (pieceOf byte :: parts.1, parts.2) := by
  have quoteless : ascii '\\' ≠ ascii '"' := by decide
  rcases escapeByte_cases byte with
    ⟨escape, written, notUnit, short, plain⟩ | ⟨numbered, control, written⟩ |
    ⟨plain, written, notQuote, notBackslash, visible⟩
  · rw [written, pieceOf, plain, readPieces?.eq_def]
    simp [quoteless, notUnit, short]
  · have digits := hexUnit?_digits byte.toNat (UInt8.lt_iff_toNat_lt.mp control)
    rw [written, pieceOf, numbered, readPieces?.eq_def]
    simp [quoteless, digits]
  · rw [written, pieceOf, plain, readPieces?.eq_def]
    simp [notQuote, notBackslash, visible]

/-- The pieces of a written text are those of its bytes, up to the closing quote. -/
theorem readPieces?_escaped (content rest : Bytes) :
    readPieces? (content.flatMap escapeByte ++ ascii '"' :: rest) =
      some (content.map pieceOf, rest) := by
  induction content with
  | nil =>
    rw [List.flatMap_nil, List.nil_append, readPieces?.eq_def]
    simp
  | cons byte content inductionHypothesis =>
    rw [List.flatMap_cons, List.append_assoc, readPieces?_escapeByte, inductionHypothesis]
    rfl

/-- A unit that is no first half of a pair stands alone. -/
theorem spell_unit {unit : Nat} (notHigh : isHighUnit unit = false) (pieces : List Piece) :
    spell (.unit unit :: pieces) = unitBytes unit ++ spell pieces := by
  rw [spell.eq_def]
  cases pieces with
  | nil => rfl
  | cons piece pieces =>
    cases piece with
    | byte other => rfl
    | unit other => simp [notHigh]

/-- The pieces of some bytes spell them: a control that is written by its number is
no half of a pair. -/
theorem spell_pieces (content : Bytes) : spell (content.map pieceOf) = content := by
  induction content with
  | nil => simp [spell]
  | cons byte content inductionHypothesis =>
    rw [List.map_cons, pieceOf]
    cases numbered : isNumbered byte with
    | false => simp only [Bool.false_eq_true, if_false, spell, inductionHypothesis]
    | true =>
      have small : byte.toNat < 32 := by
        simp only [isNumbered, Bool.and_eq_true, decide_eq_true_eq] at numbered
        exact UInt8.lt_iff_toNat_lt.mp numbered.1
      have notHigh : isHighUnit byte.toNat = false := by
        simp only [isHighUnit, Bool.and_eq_false_iff, decide_eq_false_iff_not]
        omega
      have alone : unitBytes byte.toNat = [byte] := by
        rw [unitBytes, if_pos (by omega), UInt8.ofNat_toNat]
      rw [if_pos rfl, spell_unit notHigh, alone, inductionHypothesis]
      rfl

/-- A written text is read back. -/
theorem readText?_writeText (content rest : Bytes) :
    readText? (content.flatMap escapeByte ++ ascii '"' :: rest) = some (content, rest) := by
  rw [readText?, readPieces?_escaped, Option.map_some, spell_pieces]

/-- What a byte is written with is ASCII if the byte is. -/
theorem escapeByte_ascii {byte : UInt8} (isAscii : byte < 0x80) :
    (escapeByte byte).all (· < 0x80) = true := by
  have checked : ∀ number < 128, (escapeByte (UInt8.ofNat number)).all (· < 0x80) = true := by
    decide
  have same : UInt8.ofNat byte.toNat = byte := UInt8.ofNat_toNat
  rw [← same]
  exact checked byte.toNat (UInt8.lt_iff_toNat_lt.mp isAscii)

/-- Bytes that are not ASCII are written as they are. -/
theorem escaped_of_not_ascii {bytes : Bytes} (notAscii : ∀ byte ∈ bytes, 0x80 ≤ byte) :
    bytes.flatMap escapeByte = bytes := by
  have checked : ∀ number < 256, 128 ≤ number →
      escapeByte (UInt8.ofNat number) = [UInt8.ofNat number] := by decide +kernel
  induction bytes with
  | nil => rfl
  | cons byte bytes inductionHypothesis =>
    have large := notAscii byte List.mem_cons_self
    have plain := checked byte.toNat byte.toNat_lt (UInt8.le_iff_toNat_le.mp large)
    rw [UInt8.ofNat_toNat] at plain
    rw [List.flatMap_cons, plain, inductionHypothesis fun other present =>
      notAscii other (List.mem_cons_of_mem _ present)]
    rfl

open Bytes in
/-- The text of a well-formed content stays well-formed when it is written. -/
theorem wellFormed_escaped {content : Bytes} (wellFormed : WellFormed content) :
    WellFormed (content.flatMap escapeByte) := by
  obtain ⟨characters, rfl⟩ := wellFormed
  induction characters with
  | nil => exact wellFormed_nil
  | cons character characters inductionHypothesis =>
    rw [List.flatMap_cons, List.flatMap_append]
    refine WellFormed.append ?_ inductionHypothesis
    rcases encoded_character character with ⟨byte, isAscii, encoded⟩ | notAscii
    · rw [encoded, List.flatMap_singleton]
      exact wellFormed_of_ascii (escapeByte_ascii isAscii)
    · rw [escaped_of_not_ascii notAscii]
      exact ⟨[character], (List.flatMap_singleton _ _).symm⟩

end Json

end StableFleet
