/-!
# Bytes and their text

Files and objects are runs of bytes. A run is text when it is well-formed
UTF-8; the output of a command is read as text with a replacement character for
every run of bytes that is not.
-/

namespace StableFleet

/-- The contents of a file. -/
abbrev Bytes := List UInt8

namespace Bytes

/-- The bytes of a text. -/
def ofText (text : String) : Bytes := text.toByteArray.data.toList

/-- The text of well-formed bytes. -/
def text? (bytes : Bytes) : Option String := String.fromUTF8? bytes.toByteArray

/-- A text is the text of its bytes. -/
@[simp] theorem text?_ofText (text : String) : text? (ofText text) = some text := by
  have same : (ofText text).toByteArray = text.toByteArray := by
    apply ByteArray.ext
    simp [ofText]
  simp only [text?, same, String.fromUTF8?]
  rw [dif_pos text.isValidUTF8]
  rfl

/-- Whether a byte continues a character. -/
def continues (byte : UInt8) : Bool := 0x80 ≤ byte && byte ≤ 0xBF

/-- How many bytes a character has that starts with the given byte, and which
second bytes it may have. -/
def lead? (byte : UInt8) : Option (Nat × UInt8 × UInt8) :=
  if 0xC2 ≤ byte && byte ≤ 0xDF then some (2, 0x80, 0xBF)
  else if byte = 0xE0 then some (3, 0xA0, 0xBF)
  else if byte = 0xED then some (3, 0x80, 0x9F)
  else if 0xE1 ≤ byte && byte ≤ 0xEF then some (3, 0x80, 0xBF)
  else if byte = 0xF0 then some (4, 0x90, 0xBF)
  else if 0xF1 ≤ byte && byte ≤ 0xF3 then some (4, 0x80, 0xBF)
  else if byte = 0xF4 then some (4, 0x80, 0x8F)
  else none

/-- The code point of a whole character of two to four bytes. -/
def codePoint (lead : UInt8) (tail : Bytes) : Nat :=
  let high := match tail.length with
    | 1 => lead.toNat % 32
    | 2 => lead.toNat % 16
    | _ => lead.toNat % 8
  tail.foldl (fun total byte => total * 64 + byte.toNat % 64) high

/-- The state of reading bytes that need not be well-formed: the first byte of
a character still incomplete, its bytes so far, how many it still needs, and the
bounds of the next one. -/
structure Pending where
  lead : UInt8
  tail : Bytes
  missing : Nat
  low : UInt8
  high : UInt8

/-- Reads the rest of some bytes after a character that may be incomplete. Bytes
that cannot continue it leave one replacement character behind. -/
def replaceFrom : Option Pending → Bytes → List Char
  | none, [] => []
  | some _, [] => ['\uFFFD']
  | none, byte :: rest =>
    if byte < 0x80 then Char.ofNat byte.toNat :: replaceFrom none rest
    else match lead? byte with
      | some (size, low, high) => replaceFrom (some ⟨byte, [], size - 1, low, high⟩) rest
      | none => '\uFFFD' :: replaceFrom none rest
  | some pending, byte :: rest =>
    if pending.low ≤ byte && byte ≤ pending.high then
      if pending.missing = 1 then
        Char.ofNat (codePoint pending.lead (pending.tail ++ [byte])) :: replaceFrom none rest
      else
        replaceFrom
          (some ⟨pending.lead, pending.tail ++ [byte], pending.missing - 1, 0x80, 0xBF⟩) rest
    else if byte < 0x80 then '\uFFFD' :: Char.ofNat byte.toNat :: replaceFrom none rest
    else match lead? byte with
      | some (size, low, high) =>
        '\uFFFD' :: replaceFrom (some ⟨byte, [], size - 1, low, high⟩) rest
      | none => '\uFFFD' :: '\uFFFD' :: replaceFrom none rest

/-- The text of bytes that need not be well-formed. -/
def replaceInvalid (bytes : Bytes) : String :=
  String.ofList (replaceFrom none bytes)

end Bytes

end StableFleet
