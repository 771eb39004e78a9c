import StableFleet.CommandLine.Execution
import StableFleet.Proofs.Json.Codec

/-!
# Inventory records printed and read back

The members of a record have names of their own and set different parts of it, and a record
is what all its members make of the record in which nothing is set. So a record is read back
from what is printed of it, whatever its texts, labels, counts and attributes are.
-/

namespace StableFleet

open Json (Codec Shape Value)

/-- A label is read back from its name. -/
theorem Label.faithful_codec {α : Type} [Label α] {depth : Nat} :
    (Label.codec (α := α)).Faithful depth where
  regular label := Codec.Faithful.regular (@Codec.faithful_text depth) (Label.name label)
  read levels deep label := by
    obtain ⟨form, formed, read⟩ := Codec.faithful_text.read levels deep (Label.name label)
    have named : Shape.text form = .ok (Label.name label) := read
    refine ⟨form, formed, ?_⟩
    simp only [Label.codec, Label.shape, named, bind, Except.bind, Label.read?_name]
    rfl

/-- What a device can do is read back. -/
theorem Capabilities.faithful_codec : Capabilities.codec.Faithful 2 := by
  refine Codec.faithful_record ?_ fun record => ?_
  · repeat
      refine List.pairwise_cons.mpr ⟨?_, ?_⟩
      focus
        repeat refine List.forall_mem_cons.mpr ⟨Shape.apart_field (by decide) fun _ _ _ => rfl, ?_⟩
        exact List.forall_mem_nil _
    exact List.Pairwise.nil
  · repeat refine .cons Codec.faithful_bool ?_
    repeat refine .cons Codec.faithful_text ?_
    refine .cons Label.faithful_codec ?_
    refine .cons (Codec.faithful_list Label.faithful_codec) ?_
    exact .nil _

/-- What is attached to a device is read back. -/
theorem Peripherals.faithful_codec : Peripherals.codec.Faithful 2 := by
  refine Codec.faithful_record ?_ fun record => ?_
  · repeat
      refine List.pairwise_cons.mpr ⟨?_, ?_⟩
      focus
        repeat refine List.forall_mem_cons.mpr ⟨Shape.apart_field (by decide) fun _ _ _ => rfl, ?_⟩
        exact List.forall_mem_nil _
    exact List.Pairwise.nil
  · repeat refine .cons Codec.faithful_bool ?_
    refine .cons Codec.faithful_text ?_
    refine .cons Label.faithful_codec ?_
    refine .cons (Codec.faithful_list Label.faithful_codec) ?_
    repeat refine .cons Label.faithful_codec ?_
    repeat refine .cons Codec.faithful_word32 ?_
    exact .nil _

/-- A record is read back. -/
theorem DeviceRecord.faithful_codec : DeviceRecord.codec.Faithful 3 := by
  refine Codec.faithful_record ?_ fun record => ?_
  · repeat
      refine List.pairwise_cons.mpr ⟨?_, ?_⟩
      focus
        repeat refine List.forall_mem_cons.mpr ⟨Shape.apart_field (by decide) fun _ _ _ => rfl, ?_⟩
        exact List.forall_mem_nil _
    exact List.Pairwise.nil
  · repeat refine .cons Codec.faithful_text ?_
    refine .cons Label.faithful_codec ?_
    repeat refine .cons Codec.faithful_text ?_
    repeat refine .cons Codec.faithful_bool ?_
    repeat refine .cons Label.faithful_codec ?_
    repeat refine .cons (Codec.faithful_list Label.faithful_codec) ?_
    refine .cons (Codec.faithful_list Codec.faithful_text) ?_
    refine .cons Label.faithful_codec ?_
    repeat refine .cons Codec.faithful_text ?_
    refine .cons (Codec.faithful_list Label.faithful_codec) ?_
    refine .cons Capabilities.faithful_codec ?_
    refine .cons Peripherals.faithful_codec ?_
    refine .cons (Codec.faithful_table (Codec.faithful_list Codec.faithful_text)) ?_
    exact .nil _

namespace DeviceRecord

/-- A record is read back from what is printed of it. -/
theorem parse_printValue [Json.Complaint] (record : DeviceRecord) :
    parse (CommandLine.printValue record.toValue) = .ok record := by
  obtain ⟨form, formed, read⟩ := faithful_codec.read Value.nestingLimit (by decide) record
  have document : Value.parse? (CommandLine.printValue record.toValue) = some record.toValue :=
    faithful_codec.parse?_document record
  have canonical : record.toValue.canonical? = some form := formed
  have object : form.isObject = true := Value.isObject_canonical formed
  rw [parse, document, Option.bind_some, canonical]
  simp only [object, if_true, read]
  rfl

end DeviceRecord

end StableFleet
