import StableFleet.Text.Decimal

/-!
# Words of a command line

Words that start with two hyphens are options, which take a value or none; a
value stands behind an equals sign or is the next word. Other words are
arguments, and every word behind a lone pair of hyphens is one. Options may stand
before and after arguments, each at most once. Words are looked at from first to
last, and the first that is wrong, or that asks for help, ends the reading.
-/

namespace StableFleet.CommandLine

/-- What is wrong with a command line. -/
inductive Misuse
  | noCommand
  | unknownCommand (name : String)
  | unknownOption (word : String)
  | noValue (option : String)
  | needlessValue (option : String)
  | repeated (option : String)
  | missing (name : String)
  | badValue (option value : String)
  | conflict (first second : String)
  | needless (word : String)
  deriving Repr, DecidableEq

/-- What is said of a misuse. -/
def Misuse.message : Misuse → String
  | noCommand => "a command is required"
  | unknownCommand name => "unrecognized command '" ++ name ++ "'"
  | unknownOption word => "unexpected option '" ++ word ++ "'"
  | noValue option => "a value is required for '--" ++ option ++ "'"
  | needlessValue option => "'--" ++ option ++ "' takes no value"
  | repeated option => "'--" ++ option ++ "' cannot be used twice"
  | missing name => "'" ++ name ++ "' is required"
  | badValue option value => "invalid value '" ++ value ++ "' for '--" ++ option ++ "'"
  | conflict first second => "'" ++ first ++ "' cannot be used with '" ++ second ++ "'"
  | needless word => "unexpected argument '" ++ word ++ "'"

/-- Why a command line is not carried out: it asks for help or for the version,
or something is wrong with it. -/
inductive Stop
  | help
  | version
  | misuse (misuse : Misuse)
  deriving Repr, DecidableEq

/-- What kind of value an option takes. -/
inductive Kind
  | flag
  | text
  /-- A path, which is never empty. -/
  | path
  | word32
  | word64
  deriving Repr, DecidableEq

/-- The number of a run of digits, with or without a plus before it. -/
def natural? (text : String) : Option Nat :=
  let digits := match text.toList with
    | '+' :: rest => rest
    | all => all
  if !digits.isEmpty && digits.all Char.isDigit then some (Text.Decimal.value digits) else none

/-- A word of 64 bits. -/
def word64? (text : String) : Option UInt64 := (natural? text).bind Text.Decimal.word?

/-- A word of 32 bits. Zero may have a minus before it. -/
def word32? (text : String) : Option UInt32 :=
  let number := match text.toList with
    | '-' :: digits => (natural? (String.ofList digits)).filter fun number =>
      number = 0 && digits.head? != some '+'
    | _ => natural? text
  (number.filter (· < UInt32.size)).map UInt32.ofNat

/-- Whether a word can be the value of an option. -/
def Kind.admits : Kind → String → Bool
  | flag, _ => true
  | text, _ => true
  | path, word => !word.isEmpty
  | word32, word => (word32? word).isSome
  | word64, word => (word64? word).isSome

/-- An option: its name and what it takes. -/
structure OptionRule where
  name : String
  kind : Kind
  deriving Repr, DecidableEq

/-- What stands on a command line. -/
structure Given where
  /-- The options with their values, from last to first; a flag has the empty
  text. -/
  options : List (String × String) := []
  arguments : List String := []
  deriving Repr, DecidableEq

namespace Given

/-- The value of an option that is given. -/
def value? (given : Given) (name : String) : Option String :=
  (given.options.find? fun option => option.1 = name).map (·.2)

/-- Whether an option is given. -/
def has (given : Given) (name : String) : Bool := (given.value? name).isSome

end Given

/-- The name and the value of a word that starts with two hyphens. -/
def cutWord (word : List Char) : String × Option String :=
  let name := word.takeWhile (· ≠ '=')
  (String.ofList name,
    if name.length < word.length then some (String.ofList (word.drop (name.length + 1))) else none)

/-- Whether a word is taken for an option, so that it cannot be a value. -/
def isOptionWord (word : String) : Bool :=
  match word.toList with
  | '-' :: _ :: _ => true
  | _ => false

/-- Notes an option with its value. -/
def noteOption (given : Given) (rule : OptionRule) (value : String) : Except Stop Given :=
  if given.has rule.name then .error (.misuse (.repeated rule.name))
  else if !rule.kind.admits value then .error (.misuse (.badValue rule.name value))
  else .ok { given with options := (rule.name, value) :: given.options }

/-- Notes an argument, which is a path. There may be a limit to their number. -/
def noteArgument (limit : Option Nat) (given : Given) (word : String) : Except Stop Given :=
  if limit.any (· ≤ given.arguments.length) || !Kind.path.admits word then
    .error (.misuse (.needless word))
  else .ok { given with arguments := given.arguments ++ [word] }

/-- The rule of an option. -/
def findRule (rules : List OptionRule) (name : String) : Except Stop OptionRule :=
  match rules.find? fun rule => rule.name = name with
  | some rule => .ok rule
  | none => .error (.misuse (.unknownOption ("--" ++ name)))

/-- Reads words up to the first argument or lone pair of hyphens, which is given
with the words behind it. -/
def readOptions (rules : List OptionRule) (given : Given) :
    List String → Except Stop (Given × List String)
  | [] => .ok (given, [])
  | word :: words =>
    match word.toList with
    | ['-', '-'] => .ok (given, word :: words)
    | '-' :: '-' :: rest =>
      let (name, value) := cutWord rest
      if name = "help" && value.isNone then .error .help
      else if name = "version" && value.isNone && rules.any (·.name = "version") then
        .error .version
      else match findRule rules name with
        | .error stop => .error stop
        | .ok rule =>
          match rule.kind, value with
          | .flag, some _ => .error (.misuse (.needlessValue name))
          | .flag, none =>
            match noteOption given rule "" with
            | .error stop => .error stop
            | .ok given => readOptions rules given words
          | _, some value =>
            match noteOption given rule value with
            | .error stop => .error stop
            | .ok given => readOptions rules given words
          | _, none =>
            match words with
            | [] => .error (.misuse (.noValue name))
            | value :: words =>
              if isOptionWord value then .error (.misuse (.noValue name))
              else match noteOption given rule value with
                | .error stop => .error stop
                | .ok given => readOptions rules given words
    | '-' :: 'h' :: _ => .error .help
    | '-' :: 'V' :: _ =>
      if rules.any (·.name = "version") then .error .version
      else .error (.misuse (.unknownOption word))
    | '-' :: _ :: _ => .error (.misuse (.unknownOption word))
    | _ => .ok (given, word :: words)

/-- Reads all words; the bound on their number keeps it total. -/
def readWithin (rules : List OptionRule) (limit : Option Nat) :
    Nat → Given → List String → Except Stop Given
  | 0, given, _ => .ok given
  | bound + 1, given, words =>
    match readOptions rules given words with
    | .error stop => .error stop
    | .ok (given, []) => .ok given
    | .ok (given, word :: rest) =>
      if word = "--" then rest.foldlM (noteArgument limit) given
      else match noteArgument limit given word with
        | .error stop => .error stop
        | .ok given => readWithin rules limit bound given rest

/-- Reads all words of a command, which may take no more than some number of
arguments. -/
def read (rules : List OptionRule) (limit : Option Nat) (words : List String) :
    Except Stop Given :=
  readWithin rules limit (words.length + 1) {} words

end StableFleet.CommandLine
