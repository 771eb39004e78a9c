import StableFleet.Proofs.Json.Agreement
import StableFleet.Proofs.Manifest.Document

/-!
# Manifest documents that repeat a field

A manifest, an entry, a key and the two names of a key are records. A document repeats
a field when one of these records in it has a member for the same field twice; other
members may be repeated. A manifest is taken from a document as it is taken from the
canonical form of the document, unless the document repeats a field.
-/

namespace StableFleet

open Json (Shape Unrepeated.record Unrepeated.list Value)

/-- A text in a record of its own is taken from its canonical form. -/
theorem Json.Shape.agrees_wrapped (name : String) :
    Shape.Agrees (Shape.record [Shape.field name Shape.text fun _ content => content] "")
      (Unrepeated.record [(name, fun _ => true)]) := by
  refine @Shape.agrees_record _ [(Shape.field name Shape.text fun _ content => content, fun _ => true)]
    (List.pairwise_singleton _ _) ?_ ""
  intro part present
  rw [List.mem_singleton.mp present]
  exact Shape.agrees_text.field name _

namespace EntryKey

/-- Whether the value of a key repeats no field. -/
def unrepeated : Value → Bool :=
  Unrepeated.record [
    ("buildTarget", Unrepeated.record [("name", fun _ => true)]),
    ("modelId", Unrepeated.record [("value", fun _ => true)])]

theorem agrees_shape : Shape.Agrees shape unrepeated := by
  have buildTarget := (Shape.agrees_wrapped "name").field "buildTarget"
    fun (key : EntryKey) name => { key with buildTarget := name }
  have model := (Shape.agrees_wrapped "value").field "modelId"
    fun (key : EntryKey) name => { key with model := name }
  refine @Shape.agrees_record _ [(_, _), (_, _)] (List.pairwise_pair.mpr ?_)
    (List.forall_mem_cons.mpr ⟨buildTarget, List.forall_mem_singleton.mpr model⟩) {}
  exact Shape.apart_field (by decide) fun _ _ _ => rfl

end EntryKey

namespace VersionEntry

/-- Whether the value of an entry repeats no field. -/
def unrepeated : Value → Bool :=
  Unrepeated.record [("key", EntryKey.unrepeated), ("version", fun _ => true)]

theorem agrees_shape : Shape.Agrees shape unrepeated := by
  have key := EntryKey.agrees_shape.field "key"
    fun (entry : VersionEntry) key => { entry with key := key }
  have version := Shape.agrees_text.field "version"
    fun (entry : VersionEntry) version => { entry with version := version }
  refine @Shape.agrees_record _ [(_, _), (_, _)] (List.pairwise_pair.mpr ?_)
    (List.forall_mem_cons.mpr ⟨key, List.forall_mem_singleton.mpr version⟩) {}
  exact Shape.apart_field (by decide) fun _ _ _ => rfl

end VersionEntry

namespace Manifest

/-- Whether the value of a manifest repeats no field. -/
def unrepeated : Value → Bool :=
  Unrepeated.record
    (Section.all.map fun part => (part.name, Unrepeated.list VersionEntry.unrepeated))

/-- A section that is an array is its entries. -/
theorem sectionShape_eq (values : List Value) :
    sectionShape (.array values) = Shape.list VersionEntry.shape (.array values) := by
  simp only [sectionShape, Shape.nullable]
  cases Shape.list VersionEntry.shape (.array values) <;> rfl

theorem agrees_sectionShape :
    Shape.Agrees sectionShape (Unrepeated.list VersionEntry.unrepeated) := by
  intro levels value canonical found formed read other
  rcases Value.canonicalWithin?_cases formed with
    ⟨plain, rfl⟩ | ⟨_, values, forms, rfl, rfl, _⟩ | ⟨_, _, _, _, rfl, _⟩
  · cases canonical with
    | null =>
      simp only [read, Except.ok.injEq, Unrepeated.list, true_and]
      exact eq_comm
    | array values => cases plain
    | _ => cases read
  · rw [sectionShape_eq] at read ⊢
    exact Shape.agrees_list VersionEntry.agrees_shape formed read other
  · cases read

/-- Different sections may be set in either order. -/
theorem modify_comm {part part' : Section} (different : part ≠ part') (manifest : Manifest)
    (entries entries' : List VersionEntry) :
    (manifest.modify part fun _ => entries).modify part' (fun _ => entries') =
      (manifest.modify part' fun _ => entries').modify part fun _ => entries := by
  cases part <;> cases part' <;> first | rfl | exact absurd rfl different

/-- A manifest is taken from a document as from the canonical form of the document, if
the document repeats no field. -/
theorem agrees_shape : Shape.Agrees shape unrepeated := by
  refine @Shape.agrees_record _ (Section.all.map fun part =>
    (Shape.field part.name sectionShape fun (manifest : Manifest) entries =>
      manifest.modify part fun _ => entries, Unrepeated.list VersionEntry.unrepeated)) ?_ ?_ ({} : Manifest)
  · rw [List.map_map, List.pairwise_map]
    have distinct : Section.all.Nodup := by decide
    refine distinct.imp fun {part part'} different => ?_
    exact Shape.apart_field (fun same => different (name_injective same)) (modify_comm different)
  · intro field present
    obtain ⟨part, _, rfl⟩ := List.mem_map.mp present
    exact agrees_sectionShape.field part.name _

end Manifest

end StableFleet
