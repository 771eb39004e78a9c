import StableFleet.Yaml.Tag

/-!
# Tokens of a configuration text

A text is a run of tokens: marks of lists and mappings, and scalars. Lists and
mappings that are laid out by indentation have tokens for their starts and ends
as well. A scalar may turn out to be a key only when the colon behind it is met,
so the token that announces a key is put in front of a scalar that is there
already; such a scalar must be on the line of its colon.

Nodes can be given names and referred to by them. A name that is given stands
for a number: how many different names had been given before. The number, not
the name, is what a reference and a node that is referred to have in common.
-/

namespace StableFleet.Yaml

/-- How a scalar is written. -/
inductive Style
  | plain
  | quoted
  | literal
  | folded
  deriving Repr, DecidableEq

/-- A part of a text. -/
inductive Token
  | directive
  | documentStart
  | documentEnd
  | blockSequence
  | blockMapping
  | blockEnd
  | flowSequence
  | flowSequenceEnd
  | flowMapping
  | flowMappingEnd
  | item
  | comma
  | key
  | value
  | anchor (number : Nat)
  | reference (number : Nat)
  | tag (text : Bytes)
  | scalar (style : Style) (text : String)
  deriving Repr, DecidableEq

/-- A token that may turn out to be a key: how many tokens stand before it, its
place, and whether it has to be one. -/
structure KeyCandidate where
  index : Nat
  line : Nat
  column : Nat
  offset : Nat
  required : Bool
  deriving Repr

/-- How far a text has been read. -/
structure Lexing where
  cursor : Cursor
  tokens : Array Token := #[]
  /-- The column of the innermost list or mapping laid out by indentation. -/
  indent : Int := -1
  /-- The columns of those around it. -/
  outer : List Int := []
  /-- The candidate outside of all brackets. -/
  candidate : Option KeyCandidate := none
  /-- The candidates between brackets, of the innermost first. -/
  inner : List (Option KeyCandidate) := []
  /-- Whether a key may start here. -/
  keyAllowed : Bool := true
  /-- The directives that have been read. -/
  directives : List Directive := []
  /-- The names that have been given, each with the last number it stands for. -/
  names : List (String × Nat) := []

namespace Lexing

/-- Whether the place is between brackets. -/
def inFlow (lexing : Lexing) : Bool := !lexing.inner.isEmpty

/-- The candidate of the innermost brackets. -/
def current (lexing : Lexing) : Option KeyCandidate :=
  match lexing.inner with
  | [] => lexing.candidate
  | candidate :: _ => candidate

/-- The same with another candidate. -/
def setCurrent (lexing : Lexing) (candidate : Option KeyCandidate) : Lexing :=
  match lexing.inner with
  | [] => { lexing with candidate := candidate }
  | _ :: others => { lexing with inner := candidate :: others }

/-- Adds a token at the end. -/
def add (lexing : Lexing) (token : Token) : Lexing :=
  { lexing with tokens := lexing.tokens.push token }

/-- Puts a token before those from an index on. -/
def addAt (lexing : Lexing) (index : Nat) (token : Token) : Lexing :=
  { lexing with tokens := lexing.tokens.insertIdxIfInBounds index token }

/-- Gives up a candidate, unless it has to be a key. -/
def dropCandidate? (lexing : Lexing) : Option Lexing :=
  match lexing.current with
  | some candidate => if candidate.required then none else some (lexing.setCurrent none)
  | none => some lexing

/-- Takes the token that follows as a candidate, if a key may start there. -/
def noteCandidate? (lexing : Lexing) : Option Lexing :=
  if lexing.keyAllowed then do
    let cleared ← lexing.dropCandidate?
    let cursor := cleared.cursor
    let required := !cleared.inFlow && cleared.indent == (cursor.column : Int)
    return cleared.setCurrent <|
      some ⟨cleared.tokens.size, cursor.line, cursor.column, cursor.offset, required⟩
  else some lexing

/-- How long a key may be. -/
def longestKey : Nat := 1024

/-- A candidate, unless it is on an earlier line or too far back; one that has to
be a key may be neither. -/
def fresh? (cursor : Cursor) : Option KeyCandidate → Option (Option KeyCandidate)
  | none => some none
  | some candidate =>
    if candidate.line < cursor.line || candidate.offset + longestKey < cursor.offset then
      if candidate.required then none else some none
    else some (some candidate)

/-- Gives up the candidates that can no longer be keys. -/
def dropStale? (lexing : Lexing) : Option Lexing := do
  let candidate ← fresh? lexing.cursor lexing.candidate
  let inner ← lexing.inner.mapM (fresh? lexing.cursor)
  return { lexing with candidate := candidate, inner := inner }

/-- Closes the lists and mappings that are indented further than a column. -/
def closeTo (lexing : Lexing) (column : Int) : Lexing :=
  if lexing.inFlow then lexing else close lexing.outer lexing
where
  close : List Int → Lexing → Lexing
    | [], lexing => lexing
    | around :: outer, lexing =>
      if column < lexing.indent then
        close outer { lexing.add .blockEnd with indent := around, outer := outer }
      else lexing

/-- Opens a list or mapping at a column, unless one is open there. -/
def openAt (lexing : Lexing) (column : Nat) (index : Nat) (token : Token) : Lexing :=
  if lexing.inFlow || (column : Int) ≤ lexing.indent then lexing
  else { lexing.addAt index token with indent := column, outer := lexing.indent :: lexing.outer }

/-- Passes over blanks, comments, line ends and byte order marks at the starts of
lines. A tab is no blank where a key may
start, unless between brackets. -/
def skipBlanks : Nat → Lexing → Lexing
  | 0, lexing => lexing
  | bound + 1, lexing =>
    let tabs := lexing.inFlow || !lexing.keyAllowed
    let blank := lexing.cursor.skipMark.skipWhile fun char => char = ' ' || (tabs && char = '\t')
    let after := match blank.rest with
      | '#' :: _ => blank.skipWhile fun char => !isBreak char
      | _ => blank
    match after.rest with
    | char :: _ =>
      if isBreak char then
        skipBlanks bound
          { lexing with
            cursor := after.skipBreak, keyAllowed := lexing.keyAllowed || !lexing.inFlow }
      else { lexing with cursor := after }
    | [] => { lexing with cursor := after }

/-- Moves past some characters. -/
def advance (lexing : Lexing) (count : Nat) : Lexing :=
  { lexing with cursor := lexing.cursor.skipMany count }

/-- The same where a key may or may not start. -/
def allowKey (lexing : Lexing) (allowed : Bool) : Lexing := { lexing with keyAllowed := allowed }

/-- Closes everything before a mark of a document. -/
def toTop? (lexing : Lexing) : Option Lexing :=
  ((lexing.closeTo (-1)).dropCandidate?).map (·.allowKey false)

/-- Reads a directive and the end of its line. No two directives may speak of
the same thing. -/
def directive? (lexing : Lexing) : Option Lexing := do
  let top ← lexing.toTop?
  let line := top.cursor.rest.takeWhile fun char => !isBreak char
  let directive ← Directive.read? line
  if top.directives.any directive.repeats then none
  else
    let atEnd := top.cursor.skipMany line.length
    let cursor := if atEnd.rest.isEmpty then atEnd else atEnd.skipBreak
    return { top with cursor := cursor, directives := directive :: top.directives }.add .directive

/-- Reads the mark of a document. -/
def documentMark? (lexing : Lexing) (token : Token) : Option Lexing := do
  return ((← lexing.toTop?).advance 3).add token

/-- Reads an opening bracket. -/
def openBracket? (lexing : Lexing) (token : Token) : Option Lexing := do
  let noted ← lexing.noteCandidate?
  let opened := { noted with inner := none :: noted.inner, keyAllowed := true }
  return (opened.advance 1).add token

/-- Reads a closing bracket. -/
def closeBracket? (lexing : Lexing) (token : Token) : Option Lexing := do
  let cleared ← lexing.dropCandidate?
  let closed := { cleared with inner := cleared.inner.tail, keyAllowed := false }
  return (closed.advance 1).add token

/-- Reads the mark of an item. -/
def item? (lexing : Lexing) : Option Lexing := do
  let opened ←
    if lexing.inFlow then some lexing
    else if lexing.keyAllowed then
      some (lexing.openAt lexing.cursor.column lexing.tokens.size .blockSequence)
    else none
  return (((← opened.dropCandidate?).allowKey true).advance 1).add .item

/-- Reads the mark of a key. -/
def key? (lexing : Lexing) : Option Lexing := do
  let opened ←
    if lexing.inFlow then some lexing
    else if lexing.keyAllowed then
      some (lexing.openAt lexing.cursor.column lexing.tokens.size .blockMapping)
    else none
  let cleared ← opened.dropCandidate?
  return ((cleared.allowKey (!cleared.inFlow)).advance 1).add .key

/-- Reads the mark of a value. A candidate before it becomes a key. -/
def value? (lexing : Lexing) : Option Lexing :=
  match lexing.current with
  | some candidate =>
    let keyed := (lexing.setCurrent none).addAt candidate.index .key
    let opened := keyed.openAt candidate.column candidate.index .blockMapping
    some (((opened.allowKey false).advance 1).add .value)
  | none =>
    if lexing.inFlow then some (((lexing.allowKey false).advance 1).add .value)
    else if lexing.keyAllowed then
      let opened := lexing.openAt lexing.cursor.column lexing.tokens.size .blockMapping
      some (((opened.allowKey true).advance 1).add .value)
    else none

/-- Whether a name may end before the characters. -/
def endsName : List Char → Bool
  | [] => true
  | char :: _ => isBlank char || isBreak char || ['?', ':', ',', ']', '\x7d', '%', '@', '\x60'].contains char

/-- Reads a name behind a mark. -/
def name? (lexing : Lexing) : Option (String × Lexing) := do
  let noted ← lexing.noteCandidate?
  let name := (noted.cursor.rest.drop 1).takeWhile isNameChar
  let after := (noted.allowKey false).advance (name.length + 1)
  if name.isEmpty || !endsName after.cursor.rest then none
  else some (String.ofList name, after)

/-- Reads a name that is given to a node. -/
def anchor? (lexing : Lexing) : Option Lexing := do
  let (name, after) ← lexing.name?
  let number := after.names.length
  let others := after.names.filter fun given => given.1 ≠ name
  return { after with names := (name, number) :: others }.add (.anchor number)

/-- Reads a reference to a name that has been given. -/
def reference? (lexing : Lexing) : Option Lexing := do
  let (name, after) ← lexing.name?
  let given ← after.names.find? fun given => given.1 = name
  return after.add (.reference given.2)

/-- Reads a tag. Between brackets a comma may follow it at once. -/
def tag? (lexing : Lexing) : Option Lexing := do
  let noted ← lexing.noteCandidate?
  let (text, rest) ← Tag.read? noted.directives noted.cursor.rest
  let after := (noted.allowKey false).advance (noted.cursor.rest.length - rest.length)
  if Cursor.endsWord rest || (noted.inFlow && rest.head? = some ',') then
    return after.add (.tag text)
  else none

/-- Reads a block of lines. -/
def block? (lexing : Lexing) (folds : Bool) : Option Lexing := do
  let cleared ← lexing.dropCandidate?
  let scalar ← Block.read? folds cleared.indent cleared.cursor
  return { cleared with cursor := scalar.cursor, keyAllowed := true }.add
    (.scalar (if folds then .folded else .literal) scalar.text)

/-- Reads a scalar between quotes. -/
def quoted? (lexing : Lexing) (quote : Char) : Option Lexing := do
  let noted ← lexing.noteCandidate?
  let scalar ← Quoted.read? quote noted.cursor
  return { noted with cursor := scalar.cursor, keyAllowed := false }.add (.scalar .quoted scalar.text)

/-- Reads a plain scalar. -/
def plain? (lexing : Lexing) : Option Lexing := do
  let noted ← lexing.noteCandidate?
  let scalar ← Plain.read? ⟨noted.inFlow, noted.indent + 1⟩ noted.cursor
  return { noted with cursor := scalar.cursor, keyAllowed := scalar.broken }.add
    (.scalar .plain scalar.text)

/-- The characters that no plain scalar starts with. -/
def marks : List Char :=
  ['-', '?', ':', ',', '[', ']', '\x7b', '\x7d', '#', '&', '*', '!', '|', '>', '\'', '"', '%', '@',
    '\x60']

/-- Whether a plain scalar may start with the characters. -/
def startsPlain (inFlow : Bool) (first : Char) (rest : List Char) : Bool :=
  (!isBlank first && !isBreak first && !marks.contains first) ||
    (first = '-' && !(rest.head?.map isBlank).getD false) ||
    (!inFlow && (first = '?' || first = ':') && !Cursor.endsWord rest)

/-- Reads one token from a place where one starts. -/
def token? (lexing : Lexing) (first : Char) (rest : List Char) : Option Lexing :=
  if lexing.cursor.column = 0 && first = '%' then lexing.directive?
  else if lexing.cursor.atMarks '-' then lexing.documentMark? .documentStart
  else if lexing.cursor.atMarks '.' then lexing.documentMark? .documentEnd
  else if first = '[' then lexing.openBracket? .flowSequence
  else if first = '\x7b' then lexing.openBracket? .flowMapping
  else if first = ']' then lexing.closeBracket? .flowSequenceEnd
  else if first = '\x7d' then lexing.closeBracket? .flowMappingEnd
  else if first = ',' then do
    return (((← lexing.dropCandidate?).allowKey true).advance 1).add .comma
  else if first = '-' && Cursor.endsWord rest then lexing.item?
  else if first = '?' && (lexing.inFlow || Cursor.endsWord rest) then lexing.key?
  else if first = ':' && (lexing.inFlow || Cursor.endsWord rest) then lexing.value?
  else if first = '*' then lexing.reference?
  else if first = '&' then lexing.anchor?
  else if first = '!' then lexing.tag?
  else if first = '|' && !lexing.inFlow then lexing.block? false
  else if first = '>' && !lexing.inFlow then lexing.block? true
  else if first = '\'' || first = '"' then lexing.quoted? first
  else if startsPlain lexing.inFlow first rest then lexing.plain?
  else none

/-- Reads tokens to the end of the text. -/
def run? : Nat → Lexing → Option (List Token)
  | 0, _ => none
  | bound + 1, lexing => do
    let ready ← (skipBlanks (lexing.cursor.rest.length + 1) lexing).dropStale?
    let settled := ready.closeTo ready.cursor.column
    match settled.cursor.rest with
    | [] => return (← settled.toTop?).tokens.toList
    | first :: rest => run? bound (← settled.token? first rest)

end Lexing

/-- The tokens of a text, if it has any sense. Every token takes a character at
least, so the bound is never reached. -/
def Token.ofChars? (chars : List Char) : Option (List Token) :=
  if chars.all isPrintable then Lexing.run? (chars.length + 1) { cursor := { rest := chars } }
  else none

end StableFleet.Yaml
