import StableFleet.Proofs.Flow.Shelf
import StableFleet.Proofs.Manifest.Codec
import StableFleet.Proofs.Manifest.Repetition
import StableFleet.Proofs.Validation.Admission

/-!
# What becomes of a file that a check accepts

A file check takes the manifest from the canonical form of a document, while other
readers take it from the document itself. They find the same manifest, unless the
document repeats a field: then the check goes by the last of the repeated members, and
the other readers refuse the document.

The canonical bytes of an accepted manifest are accepted again if there is firmware. A
file must have a firmware section, which may be empty; but a section without entries is
left out when a manifest is written.
-/

namespace StableFleet.Shallow

open Json (Complaint Value)

variable {strict : Bool} {bytes : Bytes} {manifest : Manifest}

/-- What is read of a document is its canonical form. -/
theorem readDocument_ok {canonical : Value} (read : readDocument bytes = .ok canonical) :
    ∃ value, Value.parse? bytes = some value ∧ value.canonical? = some canonical := by
  unfold readDocument at read
  split at read
  · cases read
  · split at read
    · cases read
    · split at read
      · cases read
      · cases read
      · next found =>
        split at read
        · obtain rfl := Except.ok.inj read
          exact Option.bind_eq_some_iff.mp found
        · cases read

/-- A manifest that is read of a value is found in it and has no fault. -/
theorem readManifest_ok {value : Value} (read : readManifest strict value = .ok manifest) :
    Manifest.shape value = .ok manifest ∧
      manifestFault? strict (value.member? Section.firmware.name).isSome manifest = none := by
  unfold readManifest at read
  split at read
  · cases read
  · next found =>
    split at read
    · cases read
    · next faultless =>
      obtain rfl := Except.ok.inj read
      exact ⟨found, faultless⟩

/-- A check finds the manifest that it accepts. -/
theorem inspectBuffer_eq_ok_iff [Complaint] :
    inspectBuffer strict bytes = .ok manifest ↔ inspect strict bytes = .ok manifest := by
  rw [inspectBuffer]
  cases inspect strict bytes with
  | error fault => constructor <;> rintro ⟨⟩
  | ok found =>
    constructor <;> rintro ⟨⟩ <;> rfl

/-- An accepted file holds a document that has a canonical form; the manifest is found
in that form and has no fault. -/
theorem grounded_of_inspectBuffer [Complaint]
    (accepted : inspectBuffer strict bytes = .ok manifest) :
    ∃ value canonical, Value.parse? bytes = some value ∧ value.canonical? = some canonical ∧
      Manifest.shape canonical = .ok manifest ∧
      manifestFault? strict (canonical.member? Section.firmware.name).isSome manifest = none := by
  have inspected := inspectBuffer_eq_ok_iff.mp accepted
  obtain ⟨canonical, document, read⟩ := Json.Shape.bind_eq_ok_iff.mp inspected
  obtain ⟨value, parsed, formed⟩ := readDocument_ok document
  obtain ⟨found, faultless⟩ := readManifest_ok read
  exact ⟨value, canonical, parsed, formed, found, faultless⟩

/-- The manifest of an accepted file is what other readers find in the file, if its
document repeats no field; if it does, they refuse the document. -/
theorem decode_of_inspectBuffer [Complaint]
    (accepted : inspectBuffer strict bytes = .ok manifest) :
    ∃ value, Value.parse? bytes = some value ∧
      Manifest.decode bytes =
        if Manifest.unrepeated value then .ok manifest
        else .error (Manifest.undecodable (Complaint.about "manifest" bytes)) := by
  obtain ⟨value, canonical, parsed, formed, found, _⟩ := grounded_of_inspectBuffer accepted
  have agrees := Manifest.agrees_shape formed found
  refine ⟨value, parsed, ?_⟩
  simp only [Manifest.decode, parsed]
  by_cases single : Manifest.unrepeated value = true
  · have read := (agrees manifest).mpr ⟨single, rfl⟩
    simp only [read, single, if_true]
  · cases read : Manifest.shape value with
    | ok other => exact absurd ((agrees other).mp read).1 single
    | error misfit => rw [if_neg single]

/-- A manifest with one entry for every model of a board, and no firmware. -/
def oneBoard : Manifest where
  cros := [.of "nami" "" "R77-12371.52.22"]

/-- The value of the only section of that manifest. -/
def oneBoardSection : Value := .array (oneBoard.cros.map VersionEntry.toValue)

/-- A document of that manifest with an empty section, an absent one, and a member that
names no field and is repeated. -/
def annotated : Bytes :=
  (Value.ofMembers [("note", .null), ("note", .bool true), ("faft", .null), ("firmware", .array []),
    ("cros", oneBoardSection)]).writeTabbed

theorem decode_annotated :
    inspectBuffer true annotated = .ok oneBoard ∧ Manifest.decode annotated = .ok oneBoard := by
  have accepted : inspectBuffer true annotated = .ok oneBoard :=
    eq_ok_of_toOption (by decide +kernel)
  have single : (Value.parse? annotated).all Manifest.unrepeated = true := by decide +kernel
  obtain ⟨value, parsed, decoded⟩ := decode_of_inspectBuffer accepted
  rw [parsed, Option.all_some] at single
  rw [if_pos single] at decoded
  exact ⟨accepted, decoded⟩

/-- A document of that manifest with a section that is given twice. -/
def twofold : Bytes :=
  (Value.ofMembers [("cros", .array []), ("cros", oneBoardSection),
    ("firmware", .array [])]).writeTabbed

/-- A check accepts a document that gives a section twice, and other readers refuse
it. -/
theorem decode_twofold :
    inspectBuffer true twofold = .ok oneBoard ∧ inspectBuffer false twofold = .ok oneBoard ∧
      ∀ manifest, Manifest.decode twofold ≠ .ok manifest := by
  have found : (inspectBuffer true twofold).toOption = some oneBoard ∧
      (inspectBuffer false twofold).toOption = some oneBoard ∧
      (Manifest.decode twofold).toOption = none := by decide +kernel
  obtain ⟨strictly, leniently, refused⟩ := found
  exact ⟨eq_ok_of_toOption strictly, eq_ok_of_toOption leniently, ne_ok_of_toOption refused⟩

/-- Admissible entries are admissible in any order. -/
theorem SectionAdmissible.perm {part : Section} {entries entries' : List VersionEntry}
    (admissible : SectionAdmissible strict part entries) (permuted : entries.Perm entries') :
    SectionAdmissible strict part entries' := by
  obtain ⟨each, distinct⟩ := admissible
  refine ⟨fun entry present => each entry (permuted.mem_iff.mpr present), ?_⟩
  exact (permuted.map _).nodup_iff.mp distinct

/-- The canonical bytes of an accepted manifest are accepted, and hold the manifest in
canonical order, if there is firmware; otherwise the firmware section is missing. -/
theorem inspectBuffer_encode_of_accepted [Complaint]
    (accepted : inspectBuffer strict bytes = .ok manifest) :
    inspectBuffer strict manifest.encode =
      if manifest.firmware = [] then .error (.schemaViolation "File is missing \"firmware\" key")
      else .ok manifest.sort := by
  obtain ⟨_, _, _, _, _, faultless⟩ := grounded_of_inspectBuffer accepted
  obtain ⟨inhabited, _, sections⟩ := manifestFault?_eq_none_iff.mp faultless
  have inhabited' : manifest.sort.cros ≠ [] :=
    mt (manifest.entries_sort_eq_nil_iff .cros).mp inhabited
  rw [inspectBuffer, inspect_encode]
  by_cases missing : manifest.firmware = []
  · have missing' : manifest.sort.firmware = [] :=
      (manifest.entries_sort_eq_nil_iff .firmware).mpr missing
    rw [if_pos missing, missing', manifestFault?, if_neg (by simpa using inhabited')]
    rfl
  · have kept : manifest.sort.firmware ≠ [] :=
      mt (manifest.entries_sort_eq_nil_iff .firmware).mp missing
    have present : (!manifest.sort.firmware.isEmpty) = true := by simpa using kept
    have faultless' := manifestFault?_eq_none_iff.mpr
      ⟨inhabited', present, fun part => (sections part).perm (manifest.entries_sort_perm part).symm⟩
    rw [if_neg missing, faultless']
    rfl

/-- A manifest of two boards that is not in canonical order. -/
def twoBoards : Manifest where
  cros := [.of "nami" "" "R77-12371.52.22", .of "coral" "" "R80-12739.1.0"]
  firmware := [.of "nami" "sona" "Google_Nami.8438.184.0",
    .of "coral" "babytiger" "Google_Coral.10068.82.0"]

theorem inspectBuffer_encode_twoBoards :
    inspectBuffer true twoBoards.written = .ok twoBoards ∧
      inspectBuffer true twoBoards.encode = .ok twoBoards.sort := by
  have faultless : manifestFault? true (!twoBoards.firmware.isEmpty) twoBoards = none := by
    decide +kernel
  have accepted : inspectBuffer true twoBoards.written = .ok twoBoards := by
    rw [inspectBuffer, inspect_written, faultless]
    rfl
  have again := inspectBuffer_encode_of_accepted accepted
  rw [if_neg (by decide)] at again
  exact ⟨accepted, again⟩

/-- A document of the manifest without firmware, with an empty section for it. -/
def emptied : Bytes :=
  (Value.ofMembers [("cros", oneBoardSection), ("firmware", .array [])]).writeTabbed

/-- The canonical bytes of that manifest are refused. -/
theorem refused_encode_oneBoard (strict : Bool) (manifest : Manifest) :
    inspectBuffer strict oneBoard.encode ≠ .ok manifest := by
  have faulty : manifestFault? strict (!oneBoard.sort.firmware.isEmpty) oneBoard.sort =
      some .noFirmwareSection := by
    cases strict <;> decide +kernel
  rw [inspectBuffer, inspect_encode, faulty]
  intro accepted
  cases accepted

/-- A check accepts a document with an empty firmware section, and refuses the canonical
bytes of the manifest in it. -/
theorem inspectBuffer_encode_oneBoard :
    (inspectBuffer true emptied = .ok oneBoard ∧
      ∀ manifest, inspectBuffer true oneBoard.encode ≠ .ok manifest) ∧
    inspectBuffer false emptied = .ok oneBoard ∧
      ∀ manifest, inspectBuffer false oneBoard.encode ≠ .ok manifest := by
  have found : (inspectBuffer true emptied).toOption = some oneBoard ∧
      (inspectBuffer false emptied).toOption = some oneBoard := by decide +kernel
  obtain ⟨strictly, leniently⟩ := found
  exact ⟨⟨eq_ok_of_toOption strictly, refused_encode_oneBoard true⟩,
    eq_ok_of_toOption leniently, refused_encode_oneBoard false⟩

end StableFleet.Shallow
