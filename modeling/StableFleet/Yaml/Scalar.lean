import StableFleet.Yaml.Cursor

/-!
# Scalars

A scalar is a text written plainly, between quotes, or as a block of lines. In
the first two ways lines are folded: a line end between words is a space, and
more of them are one line end less. A block keeps its lines, or folds those that
do not start with a blank. Each reader gives the text and the place behind it,
and a bound on its steps that the length of the text satisfies keeps it total.
-/

namespace StableFleet.Yaml

/-- The blanks and line ends between two words. -/
structure Gap where
  /-- The blanks before any line end, from last to first. -/
  blanks : List Char := []
  /-- Whether a line has ended. -/
  broken : Bool := false
  /-- The first line end, unless it was escaped. -/
  first : List Char := []
  /-- The further line ends, from last to first. -/
  more : List Char := []

namespace Gap

/-- The gap with one more blank. -/
def addBlank (gap : Gap) (char : Char) : Gap :=
  if gap.broken then gap else { gap with blanks := char :: gap.blanks }

/-- The gap with one more line end. -/
def addBreak (gap : Gap) (char : Char) : Gap :=
  if gap.broken then { gap with more := breakText char :: gap.more }
  else { broken := true, first := [breakText char] }

/-- What a gap comes to once it is folded, from last to first. -/
def folded (gap : Gap) : List Char :=
  if !gap.broken then gap.blanks
  else if gap.first = ['\n'] then (if gap.more.isEmpty then [' '] else gap.more)
  else gap.more ++ gap.first

end Gap

/-- Where a scalar stands: between brackets or not, and the column that its
later lines have to reach. -/
structure ScalarPlace where
  inFlow : Bool
  indent : Int

/-- A scalar that has been read: its characters from last to first, the place
behind it, and whether a line has ended since its last word. -/
structure ReadScalar where
  reversed : List Char
  cursor : Cursor
  broken : Bool := false

/-- The text of a scalar that has been read. -/
def ReadScalar.text (scalar : ReadScalar) : String := String.ofList scalar.reversed.reverse

namespace Plain

/-- Whether the characters put an end to a plain scalar. -/
def isEnd (place : ScalarPlace) : List Char → Bool
  | [] => true
  | char :: rest =>
    (char = ':' && Cursor.endsWord rest) ||
      (place.inFlow && [',', '[', ']', '\x7b', '\x7d'].contains char)

/-- Whether a colon stands where it may not: before a mark between brackets. -/
def isStrayColon (place : ScalarPlace) : List Char → Bool
  | ':' :: next :: _ => place.inFlow && [',', '?', '[', ']', '\x7b', '\x7d'].contains next
  | _ => false

mutual

/-- Reads the rest of a word. -/
def word? (place : ScalarPlace) : Nat → Cursor → List Char → Option ReadScalar
  | 0, _, _ => none
  | bound + 1, cursor, read =>
    match cursor.rest with
    | [] => some ⟨read, cursor, false⟩
    | char :: _ =>
      if isBlank char || isBreak char then gap? place bound cursor read {}
      else if isStrayColon place cursor.rest then none
      else if isEnd place cursor.rest then some ⟨read, cursor, false⟩
      else word? place bound cursor.skip (char :: read)

/-- Reads what stands between words. -/
def gap? (place : ScalarPlace) : Nat → Cursor → List Char → Gap → Option ReadScalar
  | 0, _, _, _ => none
  | bound + 1, cursor, read, gap =>
    match cursor.rest with
    | [] => some ⟨read, cursor, gap.broken⟩
    | char :: _ =>
      if isBlank char then
        if gap.broken && cursor.column < place.indent && char = '\t' then none
        else gap? place bound cursor.skip read (gap.addBlank char)
      else if isBreak char then gap? place bound cursor.skipBreak read (gap.addBreak char)
      else if (!place.inFlow && cursor.column < place.indent) || cursor.atDocumentMark ||
          char = '#' then some ⟨read, cursor, gap.broken⟩
      else if isStrayColon place cursor.rest then none
      else if isEnd place cursor.rest then some ⟨read, cursor, gap.broken⟩
      else word? place bound cursor.skip (char :: gap.folded ++ read)

end

/-- Reads a plain scalar. -/
def read? (place : ScalarPlace) (cursor : Cursor) : Option ReadScalar :=
  word? place (2 * cursor.rest.length + 2) cursor []

end Plain

namespace Quoted

/-- The number that a run of hexadecimal digits denotes. -/
def hexValue? (digits : List Char) : Option Nat :=
  digits.foldlM (fun total digit =>
    if digit.isDigit then some (total * 16 + (digit.toNat - '0'.toNat))
    else if 'a' ≤ digit && digit ≤ 'f' then some (total * 16 + (digit.toNat - 'a'.toNat + 10))
    else if 'A' ≤ digit && digit ≤ 'F' then some (total * 16 + (digit.toNat - 'A'.toNat + 10))
    else none) 0

/-- The character of a code given by a number of hexadecimal digits. -/
def codedChar? (width : Nat) (chars : List Char) : Option Char :=
  let digits := chars.take width
  if digits.length < width then none
  else match hexValue? digits with
    | some code => if code.isValidChar then some (Char.ofNat code) else none
    | none => none

/-- The character that the characters behind a backslash stand for, and how many
of them do. -/
def escape? : List Char → Option (Char × Nat)
  | '0' :: _ => some ('\x00', 1)
  | 'a' :: _ => some ('\x07', 1)
  | 'b' :: _ => some ('\x08', 1)
  | 't' :: _ => some ('\t', 1)
  | '\t' :: _ => some ('\t', 1)
  | 'n' :: _ => some ('\n', 1)
  | 'v' :: _ => some ('\x0b', 1)
  | 'f' :: _ => some ('\x0c', 1)
  | 'r' :: _ => some ('\r', 1)
  | 'e' :: _ => some ('\x1b', 1)
  | ' ' :: _ => some (' ', 1)
  | '"' :: _ => some ('"', 1)
  | '/' :: _ => some ('/', 1)
  | '\\' :: _ => some ('\\', 1)
  | 'N' :: _ => some ('\x85', 1)
  | '_' :: _ => some ('\xa0', 1)
  | 'L' :: _ => some ('\u2028', 1)
  | 'P' :: _ => some ('\u2029', 1)
  | 'x' :: rest => (codedChar? 2 rest).map fun char => (char, 3)
  | 'u' :: rest => (codedChar? 4 rest).map fun char => (char, 5)
  | 'U' :: rest => (codedChar? 8 rest).map fun char => (char, 9)
  | _ => none

mutual

/-- Reads the rest of a word between quotes of the given kind. -/
def word? (quote : Char) : Nat → Cursor → List Char → Option ReadScalar
  | 0, _, _ => none
  | bound + 1, cursor, read =>
    if cursor.atDocumentMark then none
    else match cursor.rest with
      | [] => none
      | char :: rest =>
        if isBlank char || isBreak char then gap? quote bound cursor read {}
        else if char = quote then
          if quote = '\'' && rest.head? == some '\'' then
            word? quote bound (cursor.skipMany 2) ('\'' :: read)
          else some ⟨read, cursor.skip, false⟩
        else if quote = '"' && char = '\\' then
          if (rest.head?.map isBreak).getD false then
            gap? quote bound cursor.skip.skipBreak read { broken := true }
          else match escape? rest with
            | some (meant, width) => word? quote bound (cursor.skipMany (width + 1)) (meant :: read)
            | none => none
        else word? quote bound cursor.skip (char :: read)

/-- Reads what stands between words. -/
def gap? (quote : Char) : Nat → Cursor → List Char → Gap → Option ReadScalar
  | 0, _, _, _ => none
  | bound + 1, cursor, read, gap =>
    match cursor.rest with
    | [] => none
    | char :: _ =>
      if isBlank char then gap? quote bound cursor.skip read (gap.addBlank char)
      else if isBreak char then gap? quote bound cursor.skipBreak read (gap.addBreak char)
      else word? quote bound cursor (gap.folded ++ read)

end

/-- Reads a scalar between quotes, from its first quote on. -/
def read? (quote : Char) (cursor : Cursor) : Option ReadScalar :=
  word? quote (2 * cursor.rest.length + 2) cursor.skip []

end Quoted

namespace Block

/-- What becomes of the line ends behind a block. -/
inductive Chomping
  | strip
  | clip
  | keep
  deriving Repr, DecidableEq

/-- What stands behind the mark of a block: what becomes of the line ends, and
how far the block is indented, if that is said. -/
structure Header where
  chomping : Chomping := .clip
  indent : Option Nat := none

/-- The chomping of a mark. -/
def chomping? (char : Char) : Option Chomping :=
  if char = '+' then some .keep else if char = '-' then some .strip else none

/-- The indentation of a digit, of which zero is none. -/
def indentation? (char : Char) : Option Nat :=
  if char.isDigit && char ≠ '0' then some (char.toNat - '0'.toNat) else none

/-- The header of a block, and the place behind it. -/
def header? (cursor : Cursor) : Option (Header × Cursor) :=
  match cursor.rest with
  | [] => some ({}, cursor)
  | first :: rest =>
    match chomping? first with
    | some chomping =>
      match rest with
      | second :: _ =>
        if second = '0' then none
        else match indentation? second with
          | some indent => some (⟨chomping, some indent⟩, cursor.skipMany 2)
          | none => some (⟨chomping, none⟩, cursor.skip)
      | [] => some (⟨chomping, none⟩, cursor.skip)
    | none =>
      if first = '0' then none
      else match indentation? first with
        | none => some ({}, cursor)
        | some indent =>
          match rest.head?.bind chomping? with
          | some chomping => some (⟨chomping, some indent⟩, cursor.skipMany 2)
          | none => some (⟨.clip, some indent⟩, cursor.skip)

/-- The rest of the line of a header: blanks and a comment. -/
def endHeader? (cursor : Cursor) : Option Cursor :=
  let after := cursor.skipWhile isBlank
  let ended := if after.rest.head? = some '#' then after.skipWhile fun char => !isBreak char
    else after
  match ended.rest with
  | [] => some ended
  | char :: _ => if isBreak char then some ended.skipBreak else none

/-- Passes over blank lines and the indentation of the next line. The indentation
of the block is settled by the first line that is not blank, and is at least the
least one. The line ends are given from last to first. -/
def breaks? (least : Nat) :
    Nat → Option Nat → Nat → Cursor → List Char → Option (Nat × List Char × Cursor)
  | 0, _, _, _, _ => none
  | bound + 1, indent, deepest, cursor, breaks =>
    let within := match indent with
      | some indent => decide (cursor.column < indent)
      | none => true
    match cursor.rest with
    | ' ' :: _ =>
      if within then breaks? least bound indent deepest cursor.skip breaks
      else some (settle indent (max deepest cursor.column), breaks, cursor)
    | char :: _ =>
      if within && char = '\t' then none
      else if isBreak char then
        breaks? least bound indent (max deepest cursor.column) cursor.skipBreak
          (breakText char :: breaks)
      else some (settle indent (max deepest cursor.column), breaks, cursor)
    | [] => some (settle indent (max deepest cursor.column), breaks, cursor)
where
  settle (indent : Option Nat) (deepest : Nat) : Nat := indent.getD (max deepest least)

/-- What is known between two lines of a block: what has been read, the end of
the last line, the ends of the blank lines after it, and whether the last line
started with a blank. All characters stand from last to first. -/
structure Lines where
  read : List Char := []
  lineEnd : List Char := []
  blankEnds : List Char := []
  startedBlank : Bool := false

/-- What has been read with the line ends before the next line. -/
def Lines.joined (lines : Lines) (folds startsBlank : Bool) : List Char :=
  if folds && lines.lineEnd = ['\n'] && !lines.startedBlank && !startsBlank then
    if lines.blankEnds.isEmpty then ' ' :: lines.read else lines.blankEnds ++ lines.read
  else lines.blankEnds ++ lines.lineEnd ++ lines.read

/-- What has been read with the line ends that are kept behind the block. -/
def Lines.finished (lines : Lines) : Chomping → List Char
  | .strip => lines.read
  | .clip => lines.lineEnd ++ lines.read
  | .keep => lines.blankEnds ++ lines.lineEnd ++ lines.read

/-- Reads the lines of a block that are indented as the block is. -/
def lines? (folds : Bool) (indent : Nat) : Nat → Cursor → Lines → Option (Lines × Cursor)
  | 0, _, _ => none
  | bound + 1, cursor, lines =>
    match cursor.rest with
    | [] => some (lines, cursor)
    | char :: _ =>
      if cursor.column = indent then
        let startsBlank := isBlank char
        let content := cursor.rest.takeWhile fun char => !isBreak char
        let atEnd := cursor.skipMany content.length
        let (lineEnd, next) := match atEnd.rest with
          | [] => ([], atEnd)
          | char :: _ => ([breakText char], atEnd.skipBreak)
        match breaks? 0 (2 * next.rest.length + 2) (some indent) 0 next [] with
        | none => none
        | some (_, blankEnds, next) =>
          lines? folds indent bound next
            ⟨content.reverse ++ lines.joined folds startsBlank, lineEnd, blankEnds, startsBlank⟩
      else some (lines, cursor)

/-- Reads a block, from its mark on, that stands below something indented. -/
def read? (folds : Bool) (parentIndent : Int) (cursor : Cursor) : Option ReadScalar := do
  let (header, cursor) ← header? cursor.skip
  let cursor ← endHeader? cursor
  let given := header.indent.map fun indent => parentIndent.toNat + indent
  let least := max (parentIndent + 1).toNat 1
  let bound := 2 * cursor.rest.length + 2
  let (indent, blankEnds, cursor) ← breaks? least bound given 0 cursor []
  let (lines, cursor) ← lines? folds indent bound cursor { blankEnds := blankEnds }
  return ⟨lines.finished header.chomping, cursor, false⟩

end Block

end StableFleet.Yaml
