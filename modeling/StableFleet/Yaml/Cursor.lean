/-!
# Places in a configuration text

A cursor stands somewhere in a text and knows its line, its column and how far
it has come. Lines end in several ways; each way but the two separators of
scripts counts as a line feed.
-/

namespace StableFleet.Yaml

/-- Whether a character is a space or a tab. -/
def isBlank (char : Char) : Bool := char = ' ' || char = '\t'

/-- Whether a character ends a line. -/
def isBreak (char : Char) : Bool :=
  char = '\n' || char = '\r' || char = '\x85' || char = '\u2028' || char = '\u2029'

/-- What the end of a line counts as. -/
def breakText (char : Char) : Char :=
  if char = '\u2028' || char = '\u2029' then char else '\n'

/-- Whether a character may stand in a text at all. -/
def isPrintable (char : Char) : Bool :=
  let code := char.toNat
  code = 0x09 || code = 0x0A || code = 0x0D || (0x20 ≤ code && code ≤ 0x7E) || code = 0x85 ||
    (0xA0 ≤ code && code ≤ 0xFFFD) || 0x10000 ≤ code

/-- A place in a text. -/
structure Cursor where
  rest : List Char
  line : Nat := 0
  column : Nat := 0
  offset : Nat := 0
  deriving Repr

namespace Cursor

/-- The place after the next character. -/
def skip (cursor : Cursor) : Cursor :=
  { cursor with
    rest := cursor.rest.tail, column := cursor.column + 1, offset := cursor.offset + 1 }

/-- The place after some characters. -/
def skipMany (cursor : Cursor) (count : Nat) : Cursor :=
  { cursor with
    rest := cursor.rest.drop count, column := cursor.column + count
    offset := cursor.offset + count }

/-- The place at the start of the next line, for a cursor at the end of one. -/
def skipBreak (cursor : Cursor) : Cursor :=
  let width := match cursor.rest with
    | '\r' :: '\n' :: _ => 2
    | _ => 1
  ⟨cursor.rest.drop width, cursor.line + 1, 0, cursor.offset + width⟩

/-- The place after the characters that satisfy a condition. -/
def skipWhile (cursor : Cursor) (condition : Char → Bool) : Cursor :=
  cursor.skipMany (cursor.rest.takeWhile condition).length

/-- The place after a byte order mark, for a cursor at the start of a line. -/
def skipMark (cursor : Cursor) : Cursor :=
  if cursor.column = 0 && cursor.rest.head? = some '\ufeff' then cursor.skip else cursor

/-- Whether a list of characters is at its end or starts with blank or line end. -/
def endsWord : List Char → Bool
  | [] => true
  | char :: _ => isBlank char || isBreak char

/-- Whether a run of three marks stands alone at the start of a line. -/
def atMarks (cursor : Cursor) (mark : Char) : Bool :=
  cursor.column == 0 && cursor.rest.take 3 == [mark, mark, mark] && endsWord (cursor.rest.drop 3)

/-- Whether a document starts or ends here. -/
def atDocumentMark (cursor : Cursor) : Bool := cursor.atMarks '-' || cursor.atMarks '.'

end Cursor

end StableFleet.Yaml
