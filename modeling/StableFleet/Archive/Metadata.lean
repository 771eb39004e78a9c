import StableFleet.Error
import StableFleet.Json.Canonical
import StableFleet.Json.Complaint
import StableFleet.Json.Reader
import StableFleet.Table

/-!
# Metadata records

The archive keeps a record for every build. A record of a unified build lists
boards, and for each board the firmware of its models; any other record has one
firmware version, which counts for a model named like the build target. Members
that are missing or of the wrong kind are passed over. An empty version is no
version.
-/

namespace StableFleet

open Json (Complaint Value)

/-- The firmware version of each model of a build. -/
abbrev ModelFirmware := Table String

namespace Metadata

/-- A text that is not empty. -/
def nonEmpty? (text : Option String) : Option String :=
  text.filter fun content => !content.isEmpty

/-- The text under a key, if there is one. -/
def textAt? (record : Value) (key : String) : Option String :=
  (record.member? key).bind Value.text?

/-- The firmware of a model: what can be written to it, or else what it came
with. -/
def usable? (record : Value) : Option String :=
  (nonEmpty? (textAt? record "main-readwrite-firmware-version")).or
    (nonEmpty? (textAt? record "main-readonly-firmware-version"))

/-- The members of an object under a key, with their keys as text. -/
def membersAt (record : Value) (key : String) : List (String × Value) :=
  ((record.member? key).map Value.members).getD [] |>.map fun member =>
    ((Bytes.text? member.1).getD "", member.2)

/-- The models of a board that have usable firmware. -/
def boardFirmware (board : Value) : List (String × String) :=
  (membersAt board "models").filterMap fun member =>
    (usable? member.2).map fun firmware => (member.1, firmware)

/-- The firmware of a unified build, board after board; a later board replaces
what an earlier one has for a model. -/
def unifiedFirmware (record : Value) : ModelFirmware :=
  Table.ofList ((membersAt record "board-metadata").flatMap fun board => boardFirmware board.2)

/-- The one firmware version of a build that is not unified: at the top of the
record, or else under the build target among the boards. -/
def singleFirmware? (buildTarget : String) (record : Value) : Option String :=
  (textAt? record "main-firmware-version").or <| do
    let boards ← record.member? "board-metadata"
    let board ← boards.member? buildTarget
    textAt? board "main-firmware-version"

/-- Whether a record is that of a unified build. -/
def isUnified (record : Value) : Bool :=
  match record.member? "unibuild" with
  | some (.bool flag) => flag
  | _ => false

/-- The firmware that a record has for a build target. -/
def firmware (buildTarget : String) (record : Value) : ModelFirmware :=
  if isUnified record then unifiedFirmware record
  else match nonEmpty? (singleFirmware? buildTarget record) with
    | some version => Table.ofList [(buildTarget, version)]
    | none => Table.empty

/-- The firmware that the bytes of a record have for a build target. -/
def parse [Complaint] (buildTarget : String) (bytes : Bytes) : Except Error ModelFirmware :=
  match (Value.parse? bytes).bind Value.canonical? with
  | none => .error (.json (Complaint.about "value" bytes))
  | some record =>
    if record.isObject then .ok (firmware buildTarget record)
    else .error (.decode "metadata record is not a JSON object")

end Metadata

end StableFleet
