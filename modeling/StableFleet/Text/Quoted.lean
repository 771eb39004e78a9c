import StableFleet.Text.Quoted.Tables

/-!
# Quoted text

Messages quote a text between double quotes. A quote and a backslash are
escaped, line ends and tabs have their short forms, and every other character
without a visible form of its own is named by its code point in small
hexadecimal digits. All else stands for itself.
-/

namespace StableFleet.Text.Quoted

/-- Whether a character is shown by its code point. -/
def isInvisible (char : Char) : Bool :=
  if char.toNat < 128 then char.toNat < 32 || char.toNat == 127
  else CodeRange.anyHolds invisible char.toNat

/-- The characters that stand for one character between quotes. -/
def escape (char : Char) : List Char :=
  match char with
  | '"' => ['\\', '"']
  | '\\' => ['\\', '\\']
  | '\n' => ['\\', 'n']
  | '\r' => ['\\', 'r']
  | '\t' => ['\\', 't']
  | '\x00' => ['\\', '0']
  | _ =>
    if isInvisible char then
      ['\\', 'u', '\x7b'] ++ Nat.toDigits 16 char.toNat ++ ['\x7d']
    else [char]

/-- The text between double quotes, escaped. -/
def quote (text : String) : String :=
  String.ofList ('"' :: text.toList.flatMap escape ++ ['"'])

end StableFleet.Text.Quoted
