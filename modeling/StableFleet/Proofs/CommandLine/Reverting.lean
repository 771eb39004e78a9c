import StableFleet.Proofs.Device.Document
import StableFleet.Proofs.Flow.Shelf

/-!
# Making a record of dimensions and showing it

The program makes a record of the dimensions in a file and prints it. What it prints can be
given to it again: it then shows the dimensions of that record.
-/

namespace StableFleet

open Json (Complaint Value)

namespace CommandLine

namespace Execution

variable {α β : Type} (answer : (call : Call) → call.Answer)

/-- What a command comes to on a machine that answers each call in one way. -/
def on (execution : Execution α) : Except Failure α := Program.serve (m := Id) answer execution.run

/-- One part of a command after another comes to what the second makes of the result of the
first. -/
theorem on_bind (execution : Execution α) (after : α → Execution β) :
    on answer (execution >>= after) =
      match on answer execution with
      | .ok result => on answer (after result)
      | .error failure => .error failure := by
  have ran : on answer (execution >>= after) = _ :=
    Program.serve_andThen (m := Id) answer execution.run _
  rw [ran]
  change Program.serve (m := Id) answer _ = _
  cases outcome : on answer execution with
  | ok result =>
    rw [show Program.serve (m := Id) answer execution.run = .ok result from outcome]
    rfl
  | error failure =>
    rw [show Program.serve (m := Id) answer execution.run = .error failure from outcome]
    rfl

/-- A command whose first part succeeds goes on with the second. -/
theorem on_bind_of_ok {execution : Execution α} {result : α} (after : α → Execution β)
    (ran : on answer execution = .ok result) :
    on answer (execution >>= after) = on answer (after result) := by
  rw [on_bind, ran]

/-- A file that is read holds what the machine answers. -/
theorem on_readFile (path : Path) : on answer (readFile path) =
    (answer (.readFile path)).mapError fun reason =>
      { chain := ["cannot read " ++ path.text, reason] } := rfl

/-- A file that can be read is read. -/
theorem on_readFile_of_held {path : Path} {bytes : Bytes}
    (held : answer (.readFile path) = .ok bytes) : on answer (readFile path) = .ok bytes := by
  rw [on_readFile, held]
  rfl

end Execution

/-- Making a record of the dimensions in a file. -/
def reverting [Complaint] (file : Path) : Execution Printed := executeDimensions ⟨[], none, some file⟩

/-- Showing the dimensions of the device whose record is in a file. -/
def showing [Complaint] (file : Path) : Execution Printed := executeDimensions ⟨[file], none, none⟩

/-- A file of a machine holds some dimensions. -/
def HoldsDimensions (answer : (call : Call) → call.Answer) (file : Path) (dimensions : Dimensions) :
    Prop :=
  ∃ bytes, answer (.readFile file) = .ok bytes ∧
    (Value.parse? bytes).map Dimensions.codec.shape = some (.ok dimensions)

/-- A command that makes a record succeeds when the file holds dimensions, and prints the
record that they tell of. -/
theorem on_reverting [Complaint] {answer : (call : Call) → call.Answer} {file : Path}
    {printed : Printed} :
    (reverting file).on answer = .ok printed ↔
      ∃ dimensions, HoldsDimensions answer file dimensions ∧
        printed = { stdout := printValue (DeviceRecord.ofDimensions dimensions).toValue } := by
  have whole : (reverting file).on answer = (revertFile file).on answer := rfl
  rw [whole, revertFile]
  cases held : answer (.readFile file) with
  | error reason =>
    rw [Execution.on_bind, Execution.on_readFile, held]
    constructor
    · intro failed
      cases failed
    · rintro ⟨_, ⟨bytes, holds, _⟩, _⟩
      rw [held] at holds
      cases holds
  | ok bytes =>
    rw [Execution.on_bind_of_ok answer _ (Execution.on_readFile_of_held answer held)]
    constructor
    · intro reverted
      split at reverted
      · next dimensions found =>
        exact ⟨dimensions, ⟨bytes, held, found⟩, (Except.ok.inj reverted).symm⟩
      · cases reverted
    · rintro ⟨dimensions, ⟨_, holds, found⟩, rfl⟩
      obtain rfl : bytes = _ := Except.ok.inj (held.symm.trans holds)
      rw [found]
      rfl

/-- A command that shows the dimensions of a device prints those of the record in the
file. -/
theorem on_showing [Complaint] {answer : (call : Call) → call.Answer} {file : Path}
    {bytes : Bytes} {record : DeviceRecord} (held : answer (.readFile file) = .ok bytes)
    (parsed : DeviceRecord.parse bytes = .ok record) :
    (showing file).on answer = .ok { stdout := printValue record.project.toValue } := by
  have whole : (showing file).on answer = Execution.on answer (projectFiles [file] >>= fun children =>
    groupDimensions none children >>= fun dimensions =>
      pure { stdout := printValue dimensions.toValue }) := rfl
  have projected : Execution.on answer (projectFiles [file]) = .ok [record.project] := by
    rw [projectFiles,
      Execution.on_bind_of_ok answer _ (Execution.on_readFile_of_held answer held), parsed]
    rfl
  rw [whole, Execution.on_bind_of_ok answer _ projected]
  rfl

/-- Every record is read back from what is printed of it. So when a command that makes a
record of dimensions succeeds, and a file holds what it printed, a command that shows the
dimensions of the device in that file shows those of the record. -/
theorem printed_record_read_back [Complaint] :
    (∀ record : DeviceRecord, DeviceRecord.parse (printValue record.toValue) = .ok record) ∧
    ∀ (answer again : (call : Call) → call.Answer) (file copy : Path) (printed : Printed),
      (reverting file).on answer = .ok printed → again (.readFile copy) = .ok printed.stdout →
      ∃ dimensions, HoldsDimensions answer file dimensions ∧
        (showing copy).on again = .ok
          { stdout := printValue (DeviceRecord.ofDimensions dimensions).project.toValue } := by
  refine ⟨DeviceRecord.parse_printValue, fun answer again file copy printed reverted kept => ?_⟩
  obtain ⟨dimensions, holds, rfl⟩ := on_reverting.mp reverted
  exact ⟨dimensions, holds, on_showing kept (DeviceRecord.parse_printValue _)⟩

/-- A machine on which every file that is read holds the same, and nothing else is done. -/
def everyFile (contents : Bytes) : (call : Call) → call.Answer
  | .stopped => false
  | .readFile _ => .ok contents
  | .run _ => .error ""
  | .readAddress _ => .error ""
  | .probeAddress _ => .error ""
  | .writeFile .. => .error ""
  | .copyFile .. => .error ""
  | .makeDirectories _ => .error ""
  | .removeTree _ => .error ""
  | .pathExists _ => true
  | .isFile _ => true
  | .makeScratch => .error ""
  | .dropScratch _ => ()

/-- The dimensions of a device of which only the board is known, as a document. -/
def boardDocument : Bytes := Bytes.ofText "\x7b\"label-board\": [\"nami\"]\x7d"

/-- These dimensions. -/
def boardDimensions : Dimensions := Table.ofList [("label-board", ["nami"])]

theorem printed_record_read_back_board :
    (reverting ⟨"dimensions.json"⟩).on (everyFile boardDocument) = .ok
        { stdout := printValue (DeviceRecord.ofDimensions boardDimensions).toValue } ∧
      ∃ dimensions, HoldsDimensions (everyFile boardDocument) ⟨"dimensions.json"⟩ dimensions ∧
        (showing ⟨"record.json"⟩).on
            (everyFile (printValue (DeviceRecord.ofDimensions boardDimensions).toValue)) =
          .ok { stdout := printValue (DeviceRecord.ofDimensions dimensions).project.toValue } := by
  have parsed : ((Value.parse? boardDocument).bind fun value =>
      (Dimensions.codec.shape value).toOption) = some boardDimensions := by decide +kernel
  obtain ⟨value, document, read⟩ := Option.bind_eq_some_iff.mp parsed
  have holds : HoldsDimensions (everyFile boardDocument) ⟨"dimensions.json"⟩ boardDimensions :=
    ⟨boardDocument, rfl, by rw [document, Option.map_some, eq_ok_of_toOption read]⟩
  have reverted := on_reverting.mpr ⟨boardDimensions, holds, rfl⟩
  exact ⟨reverted, printed_record_read_back.2 _ _ _ _ _ reverted rfl⟩

end CommandLine

end StableFleet
