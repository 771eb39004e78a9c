import StableFleet.Archive.Metadata
import StableFleet.Json.Layout
import StableFleet.Proofs.Json.Objects
import StableFleet.Proofs.Table.Lookup

/-!
# What is read from a metadata record

A record is an object of which only members of the right kind are looked at: a text where a
version is asked for, an object where members are asked for, and the truth value where the
record is declared to be that of a unified build. Whatever else stands in the record, it is
read, and no version that is read from it is empty.

A board offers the usable firmware of each of its models. In the record of a unified build
the firmware of a model is what the last board, in the order of the keys, offers for it. Any
other record has one version at most, which counts for the build target.
-/

namespace StableFleet

open Json (Value)
open Json.Value (IsCanonical)

namespace Metadata

/-- The object that bytes hold, if they can be read as one: nesting is bounded, every text is
well-formed, every number is within range, and of repeated keys the last counts. -/
def objectOf? (bytes : Bytes) : Option Value :=
  ((Value.parse? bytes).bind Value.canonical?).filter Value.isObject

/-- The usable firmware of a model is what can be written to it, unless that is missing or
empty; then it is what the model came with, unless that is. -/
def Usable (record : Value) (text : String) : Prop :=
  text ≠ "" ∧
    (record.Has "main-readwrite-firmware-version" (.ofText text) ∨
      (∀ other, record.Has "main-readwrite-firmware-version" (.ofText other) → other = "") ∧
        record.Has "main-readonly-firmware-version" (.ofText text))

/-- A board offers the usable firmware of its models. -/
def Offers (board : Value) (model text : String) : Prop :=
  ∃ models record, board.Has "models" models ∧ models.Has model record ∧ Usable record text

/-- The last board in the order of the keys that offers firmware for a model offers this. -/
def LastOffered (record : Value) (model text : String) : Prop :=
  ∃ boards key board, record.Has "board-metadata" (.object boards) ∧ (key, board) ∈ boards ∧
    Offers board model text ∧
    ∀ later ∈ boards, key < later.1 → ∀ other, ¬ Offers later.2 model other

/-- The one version of a record is at its top, or if no text is there, under the build target
among its boards. -/
def Single (buildTarget : String) (record : Value) (text : String) : Prop :=
  record.Has "main-firmware-version" (.ofText text) ∨
    (∀ other, ¬ record.Has "main-firmware-version" (.ofText other)) ∧
      ∃ boards board, record.Has "board-metadata" boards ∧ boards.Has buildTarget board ∧
        board.Has "main-firmware-version" (.ofText text)

/-- The firmware of a record for a build target: that of each model if it is declared to be
the record of a unified build, and otherwise one version for the build target, unless there
is none or it is empty. -/
inductive Recorded (buildTarget : String) (record : Value) (firmware : ModelFirmware) : Prop
  | unified (declared : record.Has "unibuild" (.bool true))
      (last : ∀ model text, firmware.get? model = some text ↔ LastOffered record model text)
  | single (undeclared : ¬ record.Has "unibuild" (.bool true)) (text : String)
      (given : Single buildTarget record text) (nonempty : text ≠ "")
      (only : firmware.toList = [(buildTarget, text)])
  | nothing (undeclared : ¬ record.Has "unibuild" (.bool true))
      (missing : ∀ text, Single buildTarget record text → text = "")
      (none : firmware.toList = [])

section Parts

variable {record board value : Value} {key model text : String}

theorem nonEmpty?_eq_some_iff {found : Option String} :
    nonEmpty? found = some text ↔ found = some text ∧ text ≠ "" := by
  simp [nonEmpty?, Option.filter_eq_some_iff]

theorem nonEmpty?_eq_none_iff {found : Option String} :
    nonEmpty? found = none ↔ ∀ text, found = some text → text = "" := by
  simp [nonEmpty?, Option.filter_eq_none_iff]

/-- The text under a key is the text that the record has there. -/
theorem textAt?_eq_some_iff (canonical : IsCanonical record) :
    textAt? record key = some text ↔ record.Has key (.ofText text) := by
  rw [textAt?, Option.bind_eq_some_iff]
  simp [Value.text?_eq_some_iff, canonical.member?_eq_some_iff]

theorem textAt?_eq_none_iff (canonical : IsCanonical record) :
    textAt? record key = none ↔ ∀ text, ¬ record.Has key (.ofText text) := by
  simp only [Option.eq_none_iff_forall_ne_some, ne_eq, textAt?_eq_some_iff canonical]

theorem usable?_eq_some_iff (canonical : IsCanonical record) :
    usable? record = some text ↔ Usable record text := by
  rw [usable?, Option.or_eq_some_iff]
  simp only [nonEmpty?_eq_some_iff, nonEmpty?_eq_none_iff, textAt?_eq_some_iff canonical]
  constructor
  · rintro (⟨written, nonempty⟩ | ⟨missing, shipped, nonempty⟩)
    · exact ⟨nonempty, .inl written⟩
    · exact ⟨nonempty, .inr ⟨missing, shipped⟩⟩
  · rintro ⟨nonempty, written | ⟨missing, shipped⟩⟩
    · exact .inl ⟨written, nonempty⟩
    · exact .inr ⟨missing, shipped, nonempty⟩

/-- The members under a key are those of the object that stands there, if one does, each with
its key as text. -/
theorem membersAt_cases (canonical : IsCanonical value) (key : String) :
    (∃ members, value.Has key (.object members) ∧ membersAt value key =
      members.map fun member => ((Bytes.text? member.1).getD "", member.2)) ∨
    ((∀ members, ¬ value.Has key (.object members)) ∧ membersAt value key = []) := by
  simp only [← canonical.member?_eq_some_iff, membersAt]
  cases value.member? key with
  | none => exact .inr ⟨nofun, rfl⟩
  | some part =>
    cases part with
    | object members => exact .inl ⟨members, rfl, rfl⟩
    | _ => exact .inr ⟨nofun, rfl⟩

/-- The members under a key are those that an object there has. -/
theorem mem_membersAt (canonical : IsCanonical value) {name : String} {part : Value} :
    (name, part) ∈ membersAt value key ↔
      ∃ object, value.Has key object ∧ object.Has name part := by
  rcases membersAt_cases canonical key with ⟨members, has, listed⟩ | ⟨lacks, nothing⟩
  · rw [listed, List.mem_map]
    constructor
    · rintro ⟨member, present, same⟩
      obtain ⟨rfl, rfl⟩ := Prod.mk.inj same
      obtain ⟨⟨content, named⟩, _⟩ := (canonical.of_has has).of_members.2 member present
      refine ⟨.object members, has, members, rfl, ?_⟩
      rw [named, Bytes.text?_ofText, Option.getD_some, ← named]
      exact present
    · rintro ⟨object, has', others, rfl, present⟩
      obtain rfl := Value.object.inj (canonical.has_unique has has')
      exact ⟨_, present, by simp⟩
  · rw [nothing]
    constructor
    · nofun
    · rintro ⟨_, has, members, rfl, _⟩
      exact absurd has (lacks members)

/-- The members under a key have different names. -/
theorem membersAt_distinct (canonical : IsCanonical value) (key : String) :
    (membersAt value key).Pairwise fun left right => left.1 ≠ right.1 := by
  rcases membersAt_cases canonical key with ⟨members, has, listed⟩ | ⟨_, nothing⟩
  · obtain ⟨ascending, texts⟩ := (canonical.of_has has).of_members
    rw [listed, List.pairwise_map]
    refine ascending.imp_of_mem fun {left right} present present' before same => ?_
    obtain ⟨⟨name, named⟩, _⟩ := texts left present
    obtain ⟨⟨name', named'⟩, _⟩ := texts right present'
    rw [named, named', Bytes.text?_ofText, Bytes.text?_ofText] at same
    obtain rfl : name = name' := same
    rw [named, named'] at before
    exact List.lt_irrefl _ before
  · rw [nothing]
    exact .nil

end Parts

section Boards

variable {board record : Value} {model text : String}

/-- The firmware of a board is what it offers. -/
theorem mem_boardFirmware (canonical : IsCanonical board) :
    (model, text) ∈ boardFirmware board ↔ Offers board model text := by
  rw [boardFirmware, List.mem_filterMap]
  constructor
  · rintro ⟨⟨name, record⟩, listed, made⟩
    obtain ⟨firmware, usable, same⟩ := Option.map_eq_some_iff.mp made
    obtain ⟨rfl, rfl⟩ := Prod.mk.inj same
    obtain ⟨models, has, named⟩ := (mem_membersAt canonical).mp listed
    have whole := (canonical.of_has has).of_has named
    exact ⟨models, record, has, named, (usable?_eq_some_iff whole).mp usable⟩
  · rintro ⟨models, record, has, named, usable⟩
    have whole := (canonical.of_has has).of_has named
    refine ⟨(model, record), (mem_membersAt canonical).mpr ⟨models, has, named⟩, ?_⟩
    rw [(usable?_eq_some_iff whole).mpr usable, Option.map_some]

/-- The table of the firmware of a board has under each model what the board offers for it. -/
theorem get?_boardFirmware (canonical : IsCanonical board) :
    (Table.ofList (boardFirmware board)).get? model = some text ↔ Offers board model text := by
  have distinct : ((boardFirmware board).map (·.1)).Nodup := by
    rw [List.Nodup, List.pairwise_map]
    refine (membersAt_distinct canonical "models").filterMap _ fun left right different => ?_
    intro made first made' second same
    obtain ⟨_, _, rfl⟩ := Option.map_eq_some_iff.mp first
    obtain ⟨_, _, rfl⟩ := Option.map_eq_some_iff.mp second
    exact different same
  rw [Table.get?_ofList_iff distinct, mem_boardFirmware canonical]

/-- The firmware of a unified build is what the last boards offer. -/
theorem get?_unifiedFirmware (canonical : IsCanonical record) :
    (unifiedFirmware record).get? model = some text ↔ LastOffered record model text := by
  rw [unifiedFirmware]
  rcases membersAt_cases canonical "board-metadata" with ⟨boards, has, listed⟩ | ⟨lacks, nothing⟩
  · obtain ⟨ascending, boardsCanonical⟩ := (canonical.of_has has).of_members
    have offers {member : Bytes × Value} (present : member ∈ boards) (text : String) :
        (Table.ofList (boardFirmware member.2)).get? model = some text ↔
          Offers member.2 model text :=
      get?_boardFirmware (boardsCanonical member present).2
    have offersNothing {member : Bytes × Value} (present : member ∈ boards) :
        (Table.ofList (boardFirmware member.2)).get? model = none ↔
          ∀ text, ¬ Offers member.2 model text := by
      simp only [Option.eq_none_iff_forall_ne_some, ne_eq, offers present]
    rw [listed, List.flatMap_map, Table.get?_ofList_flatMap,
      Value.findSome?_reverse_eq_some_iff ascending]
    constructor
    · rintro ⟨member, present, here, none⟩
      exact ⟨boards, member.1, member.2, has, present, (offers present text).mp here,
        fun later given follows => (offersNothing given).mp (none later given follows)⟩
    · rintro ⟨others, key, board, has', present, offered, none⟩
      obtain rfl := Value.object.inj (canonical.has_unique has has')
      exact ⟨(key, board), present, (offers present text).mpr offered,
        fun later given follows => (offersNothing given).mpr (none later given follows)⟩
  · rw [nothing]
    constructor
    · nofun
    · rintro ⟨boards, _, _, has, _⟩
      exact absurd has (lacks boards)

end Boards

section Whole

variable {buildTarget : String} {record : Value}

theorem isUnified_iff (canonical : IsCanonical record) :
    isUnified record = true ↔ record.Has "unibuild" (.bool true) := by
  rw [← canonical.member?_eq_some_iff, isUnified]
  split
  · next found => simp [found]
  · next other =>
    constructor
    · nofun
    · intro declared
      exact absurd declared (other true)

/-- The one version that is found is the one that the record has. -/
theorem singleFirmware?_eq_some_iff (canonical : IsCanonical record) {text : String} :
    singleFirmware? buildTarget record = some text ↔ Single buildTarget record text := by
  rw [singleFirmware?, Option.or_eq_some_iff, textAt?_eq_some_iff canonical,
    textAt?_eq_none_iff canonical]
  refine or_congr_right (and_congr_right fun _ => ?_)
  simp only [Option.bind_eq_bind, Option.bind_eq_some_iff, canonical.member?_eq_some_iff]
  refine exists_congr fun boards => ?_
  constructor
  · rintro ⟨has, board, found, version⟩
    have boardsCanonical := canonical.of_has has
    rw [boardsCanonical.member?_eq_some_iff] at found
    exact ⟨board, has, found, (textAt?_eq_some_iff (boardsCanonical.of_has found)).mp version⟩
  · rintro ⟨board, has, found, version⟩
    have boardsCanonical := canonical.of_has has
    exact ⟨has, board, boardsCanonical.member?_eq_some_iff.mpr found,
      (textAt?_eq_some_iff (boardsCanonical.of_has found)).mpr version⟩

/-- The firmware of a record is what is recorded. -/
theorem recorded_firmware (canonical : IsCanonical record) (buildTarget : String) :
    Recorded buildTarget record (firmware buildTarget record) := by
  unfold firmware
  split
  · next unified =>
    exact .unified ((isUnified_iff canonical).mp unified) fun _ _ =>
      get?_unifiedFirmware canonical
  · next plain =>
    have undeclared := mt (isUnified_iff canonical).mpr plain
    split
    · next version found =>
      obtain ⟨single, nonempty⟩ := nonEmpty?_eq_some_iff.mp found
      exact .single undeclared version ((singleFirmware?_eq_some_iff canonical).mp single) nonempty
        rfl
    · next missing =>
      refine .nothing undeclared (fun text given => ?_) rfl
      exact nonEmpty?_eq_none_iff.mp missing text ((singleFirmware?_eq_some_iff canonical).mpr given)

/-- Bytes are read as a record exactly when they are an object; then the firmware that is read
is what is recorded, whatever else the object has, and otherwise there is a failure. -/
theorem parse_recorded [Json.Complaint] (buildTarget : String) (bytes : Bytes) :
    match objectOf? bytes with
    | some record => ∃ firmware, parse buildTarget bytes = .ok firmware ∧
        Recorded buildTarget record firmware
    | none => ∃ error, parse buildTarget bytes = .error error := by
  unfold objectOf? parse
  cases read : (Value.parse? bytes).bind Value.canonical? with
  | none => exact ⟨_, rfl⟩
  | some record =>
    by_cases object : record.isObject = true
    · obtain ⟨source, _, formed⟩ := Option.bind_eq_some_iff.mp read
      have canonical : IsCanonical record := ⟨_, source, formed⟩
      simp only [Option.filter_some, object, if_true]
      exact ⟨_, rfl, recorded_firmware canonical buildTarget⟩
    · simp only [Option.filter_some, object]
      exact ⟨_, rfl⟩

/-- A record of a unified build with some boards. -/
def unifiedRecord (boards : List (String × Value)) : Bytes :=
  (Value.ofMembers [("board-metadata", .ofMembers boards), ("unibuild", .bool true)]).writeTabbed

/-- A board with one model. -/
def boardOf (model : String) (versions : List (String × Value)) : Value :=
  .ofMembers [("models", .ofMembers [(model, .ofMembers versions)])]

/-- Of the boards that offer firmware for the model, the second in the order of the keys is the
last. It offers what the model came with, as nothing has been written to it. -/
example :
    (parse "nami" (unifiedRecord [
      ("nami-d", .null),
      ("nami-c", boardOf "sona" [("main-readonly-firmware-version", .ofText "")]),
      ("nami-b", boardOf "sona" [("main-readwrite-firmware-version", .ofText ""),
        ("main-readonly-firmware-version", .ofText "Google_Nami.5.8.13")]),
      ("nami-a", boardOf "sona" [
        ("main-readwrite-firmware-version", .ofText "Google_Nami.42.43.44")])])).toOption =
      some (Table.ofList [("sona", "Google_Nami.5.8.13")]) := by
  decide +kernel

end Whole

end Metadata

end StableFleet
