import StableFleet.Text.LetterCase.Tables

/-!
# Letter case

Names of boards and models are written in small letters, and the manifest is
ordered by names with their capitals made small. Both notions cover every
alphabet. A capital sigma becomes a final sigma at the end of a word; every
other letter has one small form wherever it stands.
-/

namespace StableFleet.Text.LetterCase

/-- Whether a character is a capital letter. -/
def isCapital (char : Char) : Bool :=
  if char.toNat < 128 then char.isUpper else CodeRange.anyHolds capitals char.toNat

/-- Whether a text has no capital letter. -/
def isLowercase (text : String) : Bool :=
  !text.toList.any isCapital

/-- The small form of a letter above ASCII; other characters stand for
themselves. -/
def smallForm (char : Char) : Char :=
  match smallForms.find? (fun entry => entry.1.holds char.toNat) with
  | some (run, target) => Char.ofNat (target + (char.toNat - run.first))
  | none => char

/-- Whether the first character that is no mark is a letter with case. -/
def meetsCasedLetter : List Char → Bool
  | [] => false
  | char :: rest =>
    if CodeRange.anyHolds ignorableMarks char.toNat then meetsCasedLetter rest
    else CodeRange.anyHolds casedLetters char.toNat

/-- Small form of a capital sigma between the characters before it, nearest
first, and those after it. -/
def smallSigma (before after : List Char) : Char :=
  if meetsCasedLetter before && !meetsCasedLetter after then 'ς' else 'σ'

/-- Small form of one character in its place. A dotted capital I keeps its dot
as a mark of its own. -/
def lowerAt (before : List Char) (char : Char) (after : List Char) : List Char :=
  if char.toNat < 128 then [char.toLower]
  else if char = 'Σ' then [smallSigma before after]
  else if char = 'İ' then ['i', '\u0307']
  else [smallForm char]

/-- Small form of the characters that follow the given ones, nearest first. -/
def lowerFrom : List Char → List Char → List Char
  | _, [] => []
  | before, char :: rest => lowerAt before char rest ++ lowerFrom (char :: before) rest

/-- The text with every capital letter made small. -/
def lower (text : String) : String :=
  String.ofList (lowerFrom [] text.toList)

end StableFleet.Text.LetterCase
