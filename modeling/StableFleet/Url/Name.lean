import StableFleet.Text.LetterCase
import StableFleet.Url.Name.Tables
import StableFleet.Url.Punycode

/-!
# International host names

A host's name is brought to a plain form: some characters count for nothing, some
stand for an ASCII character, and capitals are made small in ASCII. A part that
claims to be spelled in ASCII has to spell something that could not stand there
itself, and in the form in which it would stand.
-/

namespace StableFleet.Url.Name

open Text (CodeRange)

/-- What a character of a name stands for, if a name may have it. -/
def fold? (char : Char) : Option (List Char) :=
  if char.toNat < 128 then some [char.toLower]
  else if CodeRange.anyHolds refusedCodes char.toNat then none
  else if CodeRange.anyHolds ignoredCodes char.toNat then some []
  else
    match plainForms.find? fun entry => entry.1.holds char.toNat with
    | some (run, target) => some [Char.ofNat (target + (char.toNat - run.first))]
    | none => some [char]

/-- Whether a character stands for itself. -/
def isSettled (char : Char) : Bool :=
  fold? char == some [char] && !Text.LetterCase.isCapital char

/-- What introduces a part that is spelled in ASCII. -/
def spellingMark : List Char := "xn--".toList

/-- Whether a part of a plain name spells something, if it claims to. -/
def isPart (part : List Char) : Bool :=
  match Text.after? spellingMark part with
  | none => true
  | some spelling =>
    match Punycode.decode? spelling with
    | none => false
    | some chars => chars.all isSettled && chars.any (128 ≤ ·.toNat)

/-- The plain form of a name, if it is a name. -/
def plain? (name : List Char) : Option (List Char) := do
  let folded := (← name.mapM fold?).flatten
  if (Text.pieces '.' folded).all isPart then some folded else none

end StableFleet.Url.Name
