import StableFleet.Path
import StableFleet.Url.Host

/-!
# Addresses

An address starts with a scheme. After two slashes it names a host, which some
schemes must have, perhaps with a user before it and a number after it. The rest
is a path, of which only that of a file matters here.
-/

namespace StableFleet

/-- An address: its scheme in small letters, its host, and the segments of its
path when it is the address of a file. -/
structure Url where
  scheme : String
  host : String
  segments : List (List Char)
  deriving Repr, DecidableEq

namespace Url

/-- The schemes whose hosts are resolved by name. -/
def namedSchemes : List String := ["http", "https", "ws", "wss", "ftp"]

/-- Whether a character may occur in a scheme after its first letter. -/
def isSchemeChar (char : Char) : Bool :=
  char.isAlphanum || char == '+' || char == '-' || char == '.'

/-- A text without controls and spaces at its ends, and without line ends and
tabs. -/
def strip (chars : List Char) : List Char :=
  let isLow (char : Char) : Bool := char.toNat ≤ 32
  let trimmed := ((chars.dropWhile isLow).reverse.dropWhile isLow).reverse
  trimmed.filter fun char => char != '\t' && char != '\n' && char != '\r'

/-- The scheme of an address and what follows its colon. -/
def readScheme (chars : List Char) : Except Fault (String × List Char) :=
  match Text.cutAt? ':' chars with
  | some (first :: others, rest) =>
    if first.isAlpha && others.all isSchemeChar then
      .ok (String.ofList ((first :: others).map Char.toLower), rest)
    else .error .noScheme
  | _ => .error .noScheme

/-- Whether a character separates the segments of a path. -/
def isSlash (named : Bool) (char : Char) : Bool := char == '/' || (named && char == '\\')

/-- Whether a character ends the part of an address that names the host. -/
def endsAuthority (named : Bool) (char : Char) : Bool :=
  isSlash named char || char == '?' || char == '#'

/-- What stands before the last `@`, if there is one, and what follows it. -/
def cutUser (chars : List Char) : Option (List Char) × List Char :=
  match Text.cutAt? '@' chars.reverse with
  | some (after, before) => (some before.reverse, after.reverse)
  | none => (none, chars)

/-- Whether a user asks for a host: one that is neither empty nor a colon
alone, or one that stands right before the path. -/
def needsHost (user : Option (List Char)) (pathFollows : Bool) : Bool :=
  match user with
  | none => false
  | some [] => pathFollows
  | some user => user != [':']

/-- The host, and what the colon after it introduces. A colon within brackets
belongs to the host. -/
def cutPort : Bool → List Char → List Char × Option (List Char)
  | _, [] => ([], none)
  | inside, char :: rest =>
    if char = ':' && !inside then ([], some rest)
    else
      let inside := if char = '[' then true else if char = ']' then false else inside
      let (host, number) := cutPort inside rest
      (char :: host, number)

/-- Whether what follows the colon is empty or a number of sixteen bits. A
backslash ends it. -/
def isPort (chars : List Char) : Bool :=
  let digits := chars.takeWhile (· != '\\')
  digits.all Char.isDigit && Text.Decimal.value digits < 65536

/-- The host of an address that is not that of a file, from what follows the
slashes. -/
def readAuthority (named : Bool) (chars : List Char) : Except Fault String := do
  let authority := chars.takeWhile fun char => !endsAuthority named char
  let (user, address) := cutUser authority
  let (hostChars, number) := cutPort false address
  let pathFollows := authority.length < chars.length && address.isEmpty
  if hostChars.isEmpty && (named || number.isSome || needsHost user pathFollows) then
    throw .emptyHost
  let host ← if named then readNamedHost hostChars else readOpaqueHost hostChars
  if (number.map isPort).getD true then return host else throw .invalidPort

/-- Whether a text is the name of a drive: a letter and a colon or a bar. -/
def isDrive : List Char → Bool
  | [letter, mark] => letter.isAlpha && (mark == ':' || mark == '|')
  | _ => false

/-- A segment with escaped points undone, in order to see whether it consists of
points. -/
def undotted : List Char → List Char
  | '%' :: '2' :: last :: rest =>
    if last = 'e' || last = 'E' then '.' :: undotted rest
    else '%' :: '2' :: last :: undotted rest
  | char :: rest => char :: undotted rest
  | [] => []

/-- Drops the last segment of a path, but never a drive. -/
def dropSegment (path : List (List Char)) : List (List Char) :=
  if path.getLast?.any isDrive then path else path.dropLast

/-- The segments of a path once points are followed: one point stays, two go
back. Points at the end leave an empty segment. -/
def follow : List (List Char) → List (List Char) → List (List Char)
  | path, [] => path
  | path, segment :: rest =>
    let dots := undotted segment
    if dots = ['.', '.'] then
      let shorter := dropSegment path
      if rest.isEmpty then shorter ++ [[]] else follow shorter rest
    else if dots = ['.'] then
      if rest.isEmpty then path ++ [[]] else follow path rest
    else
      let kept := if path.isEmpty && isDrive segment then [segment.headD 'c', ':'] else segment
      follow (path ++ [kept]) rest

/-- The pieces of a path between slashes of either kind. -/
def slashPieces (chars : List Char) : List (List Char) :=
  Text.pieces '/' (chars.map fun char => if char = '\\' then '/' else char)

/-- The segments of the path that follows the host of a file's address. -/
def readPath (chars : List Char) : List (List Char) :=
  let path := chars.takeWhile fun char => char != '?' && char != '#'
  match path with
  | [] => [[]]
  | first :: rest => follow [] (slashPieces (if isSlash true first then rest else path))

/-- Whether the file at a path on a host is one of this machine: the host is, or
the path starts with a drive. -/
def isNear (host : String) (path : List (List Char)) : Bool :=
  host == "localhost" || path.head?.any isDrive

/-- The address of a file. Its host is empty when it is this machine. -/
def readFile (chars : List Char) : Except Fault Url :=
  match chars with
  | first :: second :: rest =>
    if isSlash true first && isSlash true second then
      let hostChars := rest.takeWhile fun char => !endsAuthority true char
      let path := readPath (rest.dropWhile fun char => !endsAuthority true char)
      if isDrive hostChars then .ok ⟨"file", "", readPath rest⟩
      else if hostChars.isEmpty then .ok ⟨"file", "", path⟩
      else match readNamedHost hostChars with
        | .error fault => .error fault
        | .ok host => .ok ⟨"file", if isNear host path then "" else host, path⟩
    else .ok ⟨"file", "", readPath chars⟩
  | _ => .ok ⟨"file", "", readPath chars⟩

/-- The address that a text spells. -/
def parse (text : String) : Except Fault Url := do
  let (scheme, rest) ← readScheme (strip text.toList)
  if scheme = "file" then readFile rest
  else if namedSchemes.contains scheme then
    return ⟨scheme, ← readAuthority true (rest.dropWhile (isSlash true)), []⟩
  else
    match Text.after? ['/', '/'] rest with
    | some authority => return ⟨scheme, ← readAuthority false authority, []⟩
    | none => return ⟨scheme, "", []⟩

/-- The path of a file of this machine, if the address is that of one. A drive
at the end is followed by a slash. -/
def filePath? (url : Url) : Option Path :=
  if url.scheme = "file" && url.host.isEmpty then
    let bytes := url.segments.flatMap fun segment => '/'.toUInt8 :: unescape segment
    let text := (Bytes.replaceInvalid bytes).toList
    let ending := text.drop (text.length - 2)
    let slash := if 2 < text.length && isDrive ending then ['/'] else []
    some ⟨String.ofList (text ++ slash)⟩
  else none

end Url

end StableFleet
