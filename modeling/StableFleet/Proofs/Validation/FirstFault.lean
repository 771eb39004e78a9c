import StableFleet.Proofs.Validation.Rereading

/-!
# The first fault of a file

The rules of a manifest file stand in one order: those of the document, those of the
manifest as a whole, and then, section by section and entry by entry, those of each entry.
A check accepts a file that keeps all of them, and otherwise reports the fault of the first
one that is broken.
-/

namespace StableFleet.Shallow

open Json (Complaint Value)

/-- The document that some bytes hold, of bounded nesting and with the last of the members
of each name. -/
def documentOf? (bytes : Bytes) : Option Value := (Value.parse? bytes).bind Value.canonical?

/-- The manifest that some bytes hold, if their document fits. -/
def manifestOf? (bytes : Bytes) : Option Manifest :=
  (documentOf? bytes).bind fun value => (Manifest.shape value).toOption

/-- The rules of a document. -/
def documentRules (bytes : Bytes) : List (Rule Fault) := [
  ⟨.empty, bytes ≠ []⟩,
  ⟨.notText, ∃ text, bytes = Bytes.ofText text⟩,
  ⟨.notDocument, ∃ value, documentOf? bytes = some value⟩,
  ⟨.null, documentOf? bytes ≠ some .null⟩,
  ⟨.notObject, ∃ members, documentOf? bytes = some (.object members)⟩]

/-- The document of some bytes has a firmware section. -/
def HasFirmwareKey (bytes : Bytes) : Prop :=
  ∃ members, documentOf? bytes = some (.object members) ∧
    ∃ member ∈ members, member.1 = Bytes.ofText "firmware"

/-- The rules of a manifest that some bytes hold. -/
def manifestRules (strict : Bool) (bytes : Bytes) (manifest : Manifest) : List (Rule Fault) :=
  ⟨.noOsEntries, manifest.cros ≠ []⟩ :: ⟨.noFirmwareSection, HasFirmwareKey bytes⟩ ::
    Section.all.flatMap fun part => sectionRules strict part (manifest.entries part)

/-- The rules of a file, in order: those of its document, that the document holds a manifest,
and if it does those of the manifest. -/
def fileRules (strict : Bool) (bytes : Bytes) : List (Rule Fault) :=
  documentRules bytes ++ ⟨.misfit, ∃ manifest, manifestOf? bytes = some manifest⟩ ::
    (manifestOf? bytes).elim [] (manifestRules strict bytes)

/-- The fault of a manifest decides its rules. -/
theorem decides_manifestFault (strict : Bool) {bytes : Bytes} {hasFirmware : Bool}
    (known : HasFirmwareKey bytes ↔ hasFirmware = true) (manifest : Manifest) :
    Decides (manifestFault? strict hasFirmware manifest) (manifestRules strict bytes manifest) := by
  unfold manifestFault? manifestRules
  refine .check ?_ (.check ?_ ?_)
  · simp
  · simpa using known
  · exact .findSome? (decides_sectionFault strict manifest) Section.all

/-- The fault that a reading fails with. -/
def faultOf? {α : Type} : Except Fault α → Option Fault
  | .ok _ => none
  | .error fault => some fault

/-- The fault of a document decides its rules. -/
theorem decides_readDocument (bytes : Bytes) :
    Decides (faultOf? (readDocument bytes)) (documentRules bytes) := by
  unfold documentRules documentOf? readDocument
  by_cases empty : bytes = []
  · subst empty
    exact .broken (not_not_intro rfl)
  refine .kept empty ?_
  have filled : bytes.isEmpty = false := by simpa using empty
  cases text : Bytes.text? bytes with
  | none =>
    simp only [filled, Option.isNone_none, Bool.false_eq_true, if_false, if_true]
    refine .broken ?_
    rintro ⟨content, same⟩
    cases text.symm.trans (Bytes.text?_eq_some_iff.mpr same)
  | some content =>
    simp only [filled, Option.isNone_some, Bool.false_eq_true, if_false]
    refine .kept ⟨content, Bytes.text?_eq_some_iff.mp text⟩ ?_
    cases (Value.parse? bytes).bind Value.canonical? with
    | none => exact .broken (by simp)
    | some value =>
      refine .kept ⟨value, rfl⟩ ?_
      cases value with
      | null => exact .broken (not_not_intro rfl)
      | object members => exact .kept (by simp) (.kept ⟨members, rfl⟩ .nil)
      | _ => exact .kept (by simp) (.broken (by simp))

/-- The document that was read has a firmware section exactly when it has the member. -/
theorem hasFirmwareKey_iff (bytes : Bytes) : HasFirmwareKey bytes ↔
    ((documentOf? bytes).any fun value =>
      (value.member? Section.firmware.name).isSome) = true := by
  unfold HasFirmwareKey
  cases documentOf? bytes with
  | none => simp
  | some value =>
    cases value with
    | object members =>
      simp only [Option.some.injEq, Value.object.injEq, exists_eq_left', Option.any_some,
        Value.member?, Value.members, Option.isSome_map, List.find?_isSome, decide_eq_true_eq]
      rfl
    | _ => simp [Value.member?, Value.members]

/-- The fault of a file is that of its document, or else that of its manifest. -/
theorem faultOf?_inspect (strict : Bool) (bytes : Bytes) :
    faultOf? (inspect strict bytes) = (faultOf? (readDocument bytes)).or
      ((manifestOf? bytes).elim (some .misfit) (manifestFault? strict
        ((documentOf? bytes).any fun value =>
          (value.member? Section.firmware.name).isSome))) := by
  rw [inspect]
  cases read : readDocument bytes with
  | error fault => rfl
  | ok value =>
    obtain ⟨source, parsed, formed⟩ := readDocument_ok read
    have document : documentOf? bytes = some value := by rw [documentOf?, parsed]; exact formed
    rw [manifestOf?, document, Option.bind_some, Option.any_some]
    change faultOf? (readManifest strict value) = _
    rw [readManifest]
    cases Manifest.shape value with
    | error misfit => rfl
    | ok manifest =>
      change _ = manifestFault? strict (value.member? Section.firmware.name).isSome manifest
      dsimp only
      cases manifestFault? strict (value.member? Section.firmware.name).isSome manifest <;> rfl

/-- The fault of a file decides its rules. -/
theorem decides_inspect (strict : Bool) (bytes : Bytes) :
    Decides (faultOf? (inspect strict bytes)) (fileRules strict bytes) := by
  rw [faultOf?_inspect]
  refine (decides_readDocument bytes).append ?_
  cases manifestOf? bytes with
  | none => exact .broken (by simp)
  | some manifest =>
    exact .kept ⟨manifest, rfl⟩ (decides_manifestFault strict (hasFirmwareKey_iff bytes) manifest)

/-- The manifest of an accepted file is the one that the file holds. -/
theorem manifestOf?_of_inspectBuffer [Complaint] {strict : Bool} {bytes : Bytes}
    {manifest : Manifest} (accepted : inspectBuffer strict bytes = .ok manifest) :
    manifestOf? bytes = some manifest := by
  obtain ⟨value, canonical, parsed, formed, found, _⟩ := grounded_of_inspectBuffer accepted
  rw [manifestOf?, documentOf?, parsed, Option.bind_some, formed, Option.bind_some, found]
  rfl

/-- A check accepts the manifest that a file holds if it has no fault. -/
theorem inspectBuffer_eq_ok_iff_faultless [Complaint] {strict : Bool} {bytes : Bytes}
    {manifest : Manifest} :
    inspectBuffer strict bytes = .ok manifest ↔
      manifestOf? bytes = some manifest ∧ faultOf? (inspect strict bytes) = none := by
  constructor
  · intro accepted
    refine ⟨manifestOf?_of_inspectBuffer accepted, ?_⟩
    rw [inspectBuffer_eq_ok_iff.mp accepted]
    rfl
  · rintro ⟨held, faultless⟩
    cases result : inspect strict bytes with
    | error fault => rw [result] at faultless; cases faultless
    | ok found =>
      have accepted := inspectBuffer_eq_ok_iff.mpr result
      obtain rfl := Option.some.inj (held.symm.trans (manifestOf?_of_inspectBuffer accepted))
      exact accepted

/-- A check that fails reports the fault of the file. -/
theorem inspectBuffer_eq_error_iff [Complaint] {strict : Bool} {bytes : Bytes} {error : Error} :
    inspectBuffer strict bytes = .error error ↔
      ∃ fault, faultOf? (inspect strict bytes) = some fault ∧ fault.error bytes = error := by
  rw [inspectBuffer]
  cases inspect strict bytes with
  | ok found =>
    constructor
    · rintro ⟨⟩
    · rintro ⟨_, ⟨⟩, _⟩
  | error fault =>
    constructor
    · rintro ⟨⟩
      exact ⟨fault, rfl, rfl⟩
    · rintro ⟨_, ⟨⟩, rfl⟩
      rfl

/-- A check of a file accepts the manifest that the file holds if every rule is kept, and
otherwise reports the fault of the first rule that is broken. -/
theorem inspectBuffer_first_fault [Complaint] (strict : Bool) (bytes : Bytes) :
    (∀ manifest, inspectBuffer strict bytes = .ok manifest ↔
      manifestOf? bytes = some manifest ∧ ∀ rule ∈ fileRules strict bytes, rule.kept) ∧
    ∀ error, inspectBuffer strict bytes = .error error ↔
      ∃ fault, FirstBroken (fileRules strict bytes) fault ∧ fault.error bytes = error := by
  have decides := decides_inspect strict bytes
  constructor
  · intro manifest
    rw [← decides.eq_none_iff]
    exact inspectBuffer_eq_ok_iff_faultless
  · intro error
    simp only [← decides.eq_some_iff]
    exact inspectBuffer_eq_error_iff

/-- A file with an entry in each section that is asked for is accepted. -/
example : inspectBuffer true (Manifest.written {
      cros := [.of "nami" "" "R77-12371.52.22"]
      firmware := [.of "nami" "sona" "Google_Nami.8438.184.0"] }) =
    .ok {
      cros := [.of "nami" "" "R77-12371.52.22"]
      firmware := [.of "nami" "sona" "Google_Nami.8438.184.0"] } := by
  apply eq_ok_of_toOption
  rw [inspectBuffer, inspect_written]
  decide +kernel

/-- Of two entries that break several rules each, the one of the earlier section is reported,
for its capital letters. -/
example : faultOf? (inspect true (Manifest.written {
      cros := [.of "nami" "" "R77-12371.52.22", .of "" "Sona" "Google_Nami.8438.184.0"]
      firmware := [.of "nami" "" "R77-12371.52.22"] })) =
    some (.entry .cros 1 (.of "" "Sona" "Google_Nami.8438.184.0") .capitals) := by
  rw [inspect_written]
  decide +kernel

end StableFleet.Shallow
