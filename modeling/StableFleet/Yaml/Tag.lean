import StableFleet.Text.Bytes
import StableFleet.Text.Cut
import StableFleet.Text.Decimal
import StableFleet.Yaml.Scalar

/-!
# Tags and directives

A tag says what kind of thing a node is. It is written in full between angle
brackets, or behind a handle, which stands for what many tags start with. The
directives before a document say what handles stand for; two handles need no
directive.
-/

namespace StableFleet.Yaml

/-- Whether a character may stand in the name of an anchor, a handle or a
directive. -/
def isNameChar (char : Char) : Bool := char.isAlphanum || char = '_' || char = '-'

/-- What a line before a document says: that the notation has a version that is
understood, or what a handle stands for. -/
inductive Directive
  | version
  | handle (name : List Char) (start : Bytes)
  deriving Repr, DecidableEq

namespace Tag

/-- What tags of the notation itself start with. -/
def standard : String := "tag:yaml.org,2002:"

/-- The tag of nothing. -/
def nothing : Bytes := Bytes.ofText (standard ++ "null")

/-- The tag of truth values. -/
def truth : Bytes := Bytes.ofText (standard ++ "bool")

/-- The tag that says no more than that there is one. -/
def bare : Bytes := Bytes.ofText "!"

/-- What a handle stands for, as far as the directives or the notation say. -/
def startOf? (directives : List Directive) (name : List Char) : Option Bytes :=
  let given := directives.findSome? fun
    | .handle other start => if other = name then some start else none
    | .version => none
  match given with
  | some start => some start
  | none =>
    if name = ['!'] then some bare
    else if name = ['!', '!'] then some (Bytes.ofText standard)
    else none

/-- Whether a character may stand in a tag. A comma and square brackets may only
where they cannot be taken for marks of a list. -/
def isTagChar (apart : Bool) (char : Char) : Bool :=
  isNameChar char ||
    [';', '/', '?', ':', '@', '&', '=', '+', '$', '.', '%', '!', '~', '*', '\'', '(', ')'].contains
      char ||
    (apart && [',', '[', ']'].contains char)

/-- How many bytes of a character follow its first one. -/
def following? (byte : Nat) : Option Nat :=
  if byte < 0x80 then some 0
  else if byte / 0x20 = 0x06 then some 1
  else if byte / 0x10 = 0x0E then some 2
  else if byte / 0x08 = 0x1E then some 3
  else none

/-- The bytes that the characters of a tag stand for, where a number of bytes is
still missing from the last one. A percent sign and two digits are one byte; all
the bytes of a character have to be written in this way. -/
def octets? : Nat → List Char → Option Bytes
  | 0, [] => some []
  | missing, '%' :: high :: low :: rest =>
    match Quoted.hexValue? [high, low] with
    | none => none
    | some byte =>
      let missing? :=
        if missing = 0 then following? byte
        else if byte / 0x40 = 0x02 then some (missing - 1)
        else none
      match missing? with
      | none => none
      | some missing => (octets? missing rest).map (byte.toUInt8 :: ·)
  | 0, char :: rest =>
    if char = '%' then none else (octets? 0 rest).map (char.toNat.toUInt8 :: ·)
  | _ + 1, _ => none

/-- The text of the characters of a tag, which ends before a zero byte. -/
def text? (chars : List Char) : Option Bytes :=
  (octets? 0 chars).map fun bytes => bytes.takeWhile fun byte => byte ≠ 0

/-- The handle at the front of some characters, and what follows it. A name that
no exclamation mark ends belongs to what follows the shortest handle. -/
def cutHandle? : List Char → Option (List Char × List Char)
  | '!' :: rest =>
    let name := rest.takeWhile isNameChar
    match rest.drop name.length with
    | '!' :: after => some ('!' :: name ++ ['!'], after)
    | _ => some (['!'], rest)
  | _ => none

/-- The tag at the front of some characters, and what follows it. -/
def read? (directives : List Directive) : List Char → Option (Bytes × List Char)
  | '!' :: '<' :: rest =>
    let run := rest.takeWhile (isTagChar true)
    match rest.drop run.length with
    | '>' :: after => if run.isEmpty then none else (text? run).map fun text => (text, after)
    | _ => none
  | chars => do
    let (handle, rest) ← cutHandle? chars
    let run := rest.takeWhile (isTagChar false)
    let text ← text? run
    let start ← startOf? directives handle
    let after := rest.drop run.length
    if handle = ['!'] then return (if text.isEmpty then bare else start ++ text, after)
    else if run.isEmpty then none
    else return (start ++ text, after)

end Tag

namespace Directive

/-- Whether two directives speak of the same thing. -/
def repeats : Directive → Directive → Bool
  | .version, .version => true
  | .handle name _, .handle other _ => name = other
  | _, _ => false

/-- Whether nothing but blanks and a comment is left of a line. -/
def endsLine (chars : List Char) : Bool :=
  match chars.dropWhile isBlank with
  | [] => true
  | char :: _ => char = '#'

/-- How many digits a part of a version may have. -/
def longestNumber : Nat := 9

/-- A part of a version. -/
def number? (chars : List Char) : Option (Nat × List Char) :=
  let digits := chars.takeWhile Char.isDigit
  if digits.isEmpty || longestNumber < digits.length then none
  else some (Text.Decimal.value digits, chars.drop digits.length)

/-- Reads what follows the name of the directive for the version. -/
def readVersion? (chars : List Char) : Option Directive := do
  let (major, rest) ← number? chars
  let (minor, rest) ← number? (← Text.after? ['.'] rest)
  if major = 1 && (minor = 1 || minor = 2) && endsLine rest then some .version else none

/-- Reads what follows the name of the directive for a handle. -/
def readHandle? (chars : List Char) : Option Directive := do
  let (name, rest) ← Tag.cutHandle? chars
  let content := rest.dropWhile isBlank
  let run := content.takeWhile (Tag.isTagChar true)
  let after := content.drop run.length
  if content.length = rest.length || run.isEmpty then none
  else if Cursor.endsWord after && endsLine after then
    return .handle name (← Tag.text? run)
  else none

/-- Reads a line that starts with a percent sign. -/
def read? (line : List Char) : Option Directive :=
  let name := (line.drop 1).takeWhile isNameChar
  let rest := line.drop (name.length + 1)
  if !Cursor.endsWord rest then none
  else if name = "YAML".toList then readVersion? (rest.dropWhile isBlank)
  else if name = "TAG".toList then readHandle? (rest.dropWhile isBlank)
  else none

end Directive

end StableFleet.Yaml
