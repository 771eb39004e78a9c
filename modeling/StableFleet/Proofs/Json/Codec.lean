import StableFleet.Json.Codec
import StableFleet.Proofs.Json.Agreement
import StableFleet.Proofs.Json.RoundTrip

/-!
# Codecs that read back what they write

A value that is written has a canonical form, if nesting is allowed deep enough, and what
is read from that form is the value. This holds of texts, truth values and words, and so
of the lists, tables and records that are made of them. The canonical form of an object has
its members in the order of their keys; a table does not depend on the order of its entries,
and the fields of a record may be put into it in any order.
-/

namespace StableFleet.Json

open Value (canonicalWithin? canonicalItems? canonicalMembers? sortMembers isText occurrences)

namespace Value

theorem regularItems_iff {items : List Value} :
    RegularItems items ↔ ∀ item ∈ items, item.Regular := by
  induction items with
  | nil => simp [RegularItems]
  | cons item items inductionHypothesis =>
    rw [RegularItems, inductionHypothesis, List.forall_mem_cons]

theorem regularMembers_iff {members : List (Bytes × Value)} :
    RegularMembers members ↔
      ∀ member ∈ members, Bytes.WellFormed member.1 ∧ member.2.Regular := by
  induction members with
  | nil => simp [RegularMembers]
  | cons member members inductionHypothesis =>
    rw [RegularMembers, inductionHypothesis, List.forall_mem_cons, and_assoc]

/-- The members of an object are regular when the texts and values they are made of are. -/
theorem regular_ofMembers {members : List (String × Value)}
    (regular : ∀ member ∈ members, member.2.Regular) : (ofMembers members).Regular := by
  rw [ofMembers, Regular, regularMembers_iff]
  intro member present
  obtain ⟨source, listed, rfl⟩ := List.mem_map.mp present
  exact ⟨Bytes.wellFormed_ofText source.1, regular source listed⟩

/-- Members with distinct names have distinct keys. -/
theorem nodup_keys {members : List (String × Value)} (distinct : (members.map (·.1)).Nodup) :
    ((members.map fun member => (Bytes.ofText member.1, member.2)).map (·.1)).Nodup := by
  rw [List.map_map]
  refine List.pairwise_map.mpr ((List.pairwise_map.mp distinct).imp ?_)
  intro left right different same
  exact different (Bytes.ofText_injective same)

/-- Where keys are distinct, each member is the one that is found under its key. -/
theorem lookup_of_mem {members : List (Bytes × Value)} (distinct : (members.map (·.1)).Nodup)
    {member : Bytes × Value} (present : member ∈ members) :
    members.lookup member.1 = some member.2 := by
  induction members with
  | nil => cases present
  | cons first members inductionHypothesis =>
    obtain ⟨other, value⟩ := first
    obtain ⟨fresh, distinct⟩ := List.nodup_cons.mp distinct
    rw [lookup_cons_eq]
    rcases List.mem_cons.mp present with rfl | later
    · rw [if_pos rfl]
    · have different : ¬ other = member.1 := by
        rintro rfl
        exact fresh (List.mem_map.mpr ⟨member, later, rfl⟩)
      rw [if_neg different]
      exact inductionHypothesis distinct later

/-- Where keys are distinct, none occurs twice. -/
theorem occurrences_le_one {members : List (Bytes × Value)}
    (distinct : (members.map (·.1)).Nodup) (key : Bytes) : occurrences key members ≤ 1 := by
  have counted := List.nodup_iff_count.mp distinct key
  rw [List.count, List.countP_map] at counted
  refine Nat.le_trans (List.countP_mono_left fun member _ same => ?_) counted
  exact beq_iff_eq.mpr (of_decide_eq_true same)

end Value

/-- What a codec writes is regular, and it reads each value from the canonical form of what
it writes, if as many levels as the depth are allowed. -/
structure Codec.Faithful {α : Type} (codec : Codec α) (depth : Nat) : Prop where
  regular : ∀ value, (codec.write value).Regular
  read : ∀ levels, depth ≤ levels → ∀ value, ∃ form,
    canonicalWithin? levels (codec.write value) = some form ∧ codec.shape form = .ok value

namespace Codec

variable {α ρ : Type} {depth : Nat}

theorem faithful_text : Codec.text.Faithful depth where
  regular content := by
    change Value.Regular (.text (Bytes.ofText content))
    rw [Value.Regular]
    exact Bytes.wellFormed_ofText content
  read levels _ content := by
    refine ⟨.text (Bytes.ofText content), ?_, by simp [Codec.text, Shape.text]⟩
    change canonicalWithin? levels (.text (Bytes.ofText content)) = _
    rw [canonicalWithin?, if_pos (Value.isText_ofText content)]

theorem faithful_bool : Codec.bool.Faithful depth where
  regular flag := by
    change Value.Regular (.bool flag)
    rw [Value.Regular]
    trivial
  read levels _ flag := by
    refine ⟨.bool flag, ?_, rfl⟩
    change canonicalWithin? levels (.bool flag) = _
    rw [canonicalWithin?]

theorem faithful_word32 : Codec.word32.Faithful depth where
  regular word := by
    change Value.Regular (.number (.ofNat word.toNat))
    rw [Value.Regular]
    exact ⟨_, rfl⟩
  read levels _ word := by
    have small : word.toNat < UInt32.size := word.toNat_lt_size
    have range := Number.inRange_ofNat (Nat.lt_trans small (by decide))
    have found := Number.natural?_ofNat (Nat.lt_trans small (by decide))
    refine ⟨.number (.ofNat word.toNat), ?_, ?_⟩
    · change canonicalWithin? levels (.number (.ofNat word.toNat)) = _
      rw [canonicalWithin?, if_pos range]
    · simp [Codec.word32, Shape.word32, Shape.naturalBelow, found, small, Except.map]

/-- Lists are read back when their items are. The induction goes along the items. -/
theorem faithful_list {item : Codec α} (faithful : item.Faithful depth) :
    (Codec.list item).Faithful (depth + 1) where
  regular values := by
    change Value.Regular (.array (values.map item.write))
    rw [Value.Regular, Value.regularItems_iff]
    intro written present
    obtain ⟨value, _, rfl⟩ := List.mem_map.mp present
    exact faithful.regular value
  read levels deep values := by
    obtain ⟨below, rfl⟩ : ∃ below, levels = below + 1 := ⟨levels - 1, by omega⟩
    have items : ∃ forms, canonicalItems? below (values.map item.write) = some forms ∧
        Shape.items item.shape forms = .ok values := by
      induction values with
      | nil => exact ⟨[], by rw [List.map_nil, canonicalItems?], rfl⟩
      | cons value values inductionHypothesis =>
        obtain ⟨form, formed, read⟩ := faithful.read below (by omega) value
        obtain ⟨forms, others, rest⟩ := inductionHypothesis
        refine ⟨form :: forms, by rw [List.map_cons, canonicalItems?, formed, others], ?_⟩
        rw [Shape.items, read, rest]
        rfl
    obtain ⟨forms, formed, read⟩ := items
    refine ⟨.array forms, ?_, read⟩
    change canonicalWithin? (below + 1) (.array (values.map item.write)) = _
    rw [canonicalWithin?, formed, Option.map_some]

/-- Entries that agree with a table and cover it make that table, in whatever order they
stand. The induction puts one after another into a table that agrees with it too. -/
theorem entries_eq_ok {shape : Shape α} {target : Table α} {members : List (Bytes × Value)}
    {table : Table α}
    (agree : ∀ member ∈ members, ∃ key value, member.1 = Bytes.ofText key ∧
      shape member.2 = .ok value ∧ target.get? key = some value)
    (held : ∀ key value, table.get? key = some value → target.get? key = some value)
    (covered : ∀ key value, target.get? key = some value →
      table.get? key = some value ∨ ∃ member ∈ members, member.1 = Bytes.ofText key) :
    Shape.entries shape table members = .ok target := by
  induction members generalizing table with
  | nil =>
    have same : table = target := by
      refine Table.ext fun key => Option.ext fun value => ⟨held key value, fun found => ?_⟩
      exact (covered key value found).resolve_right (by rintro ⟨_, none, _⟩; cases none)
    rw [same]
    rfl
  | cons member members inductionHypothesis =>
    obtain ⟨⟨key, value, named, read, found⟩, others⟩ := List.forall_mem_cons.mp agree
    obtain ⟨_, written⟩ := member
    obtain rfl : _ = Bytes.ofText key := named
    have rest : Shape.entries shape (table.insert key value) members = .ok target := by
      refine inductionHypothesis others ?_ ?_
      · intro other kept present
        rw [Table.get?_insert] at present
        split at present
        · next same => rw [same, found, ← present]
        · exact held other kept present
      · intro other kept wanted
        rw [Table.get?_insert]
        by_cases same : other = key
        · rw [if_pos same, ← wanted, same, found]
          exact .inl rfl
        · rw [if_neg same]
          refine (covered other kept wanted).imp_right ?_
          rintro ⟨later, present, named⟩
          rcases List.mem_cons.mp present with rfl | present
          · exact absurd (Bytes.ofText_injective named).symm same
          · exact ⟨later, present, named⟩
    simp only [Shape.entries, Bytes.text?_ofText]
    rw [read]
    exact rest

/-- What is written of an object has a canonical form if the values in it have one; its
members are the forms of the members, each with its key. -/
theorem canonical_ofMembers {members : List (String × Value)} {levels : Nat}
    (distinct : (members.map (·.1)).Nodup)
    (formed : ∀ member ∈ members, ∃ form, canonicalWithin? levels member.2 = some form) :
    ∃ sorted, canonicalWithin? (levels + 1) (.ofMembers members) = some (.object sorted) ∧
      (sorted.map (·.1)).Nodup ∧
      (∀ member ∈ members, ∃ form, canonicalWithin? levels member.2 = some form ∧
        (Bytes.ofText member.1, form) ∈ sorted) ∧
      ∀ form ∈ sorted, ∃ member ∈ members, form.1 = Bytes.ofText member.1 ∧
        canonicalWithin? levels member.2 = some form.2 := by
  let pairs := members.map fun member => (Bytes.ofText member.1, member.2)
  have keys : (pairs.map (·.1)).Nodup := Value.nodup_keys distinct
  have each : ∀ pair ∈ pairs, isText pair.1 = true ∧
      ∃ form, canonicalWithin? levels pair.2 = some form := by
    intro pair present
    obtain ⟨member, listed, rfl⟩ := List.mem_map.mp present
    exact ⟨Value.isText_ofText member.1, formed member listed⟩
  obtain ⟨forms, found⟩ := Value.exists_canonicalMembers? each
  have formKeys := Value.keys_canonicalMembers? found
  have sorted := Value.sortMembers_perm (formKeys ▸ keys)
  refine ⟨sortMembers forms, ?_, (sorted.map (·.1)).nodup_iff.mpr (formKeys ▸ keys), ?_, ?_⟩
  · change canonicalWithin? (levels + 1) (.object pairs) = _
    rw [canonicalWithin?, found, Option.map_some]
  · intro member listed
    have pair : (Bytes.ofText member.1, member.2) ∈ pairs := List.mem_map_of_mem listed
    have key : Bytes.ofText member.1 ∈ forms.map (·.1) := by
      rw [formKeys]
      exact List.mem_map.mpr ⟨_, pair, rfl⟩
    obtain ⟨form, present, same⟩ := List.mem_map.mp key
    obtain ⟨value, other, whole⟩ := Value.value_of_canonicalMembers? found present
    rw [same] at other
    have own : member.2 = value := Option.some.inj
      ((Value.lookup_of_mem keys pair).symm.trans (Value.lookup_of_mem keys other))
    exact ⟨form.2, own ▸ whole, sorted.mem_iff.mpr (same ▸ present)⟩
  · intro form present
    obtain ⟨value, listed, whole⟩ :=
      Value.value_of_canonicalMembers? found (sorted.mem_iff.mp present)
    obtain ⟨member, given, same⟩ := List.mem_map.mp listed
    obtain ⟨key, rfl⟩ := Prod.mk.inj same
    exact ⟨member, given, key.symm, whole⟩

/-- Tables are read back when their values are. -/
theorem faithful_table {item : Codec α} (faithful : item.Faithful depth) :
    (Codec.table item).Faithful (depth + 1) where
  regular entries := by
    refine Value.regular_ofMembers fun member present => ?_
    obtain ⟨entry, _, rfl⟩ := List.mem_map.mp present
    exact faithful.regular entry.2
  read levels deep entries := by
    obtain ⟨below, rfl⟩ : ∃ below, levels = below + 1 := ⟨levels - 1, by omega⟩
    let members := entries.toList.map fun entry => (entry.1, item.write entry.2)
    have distinct : (members.map (·.1)).Nodup := by
      refine List.pairwise_map.mpr (List.pairwise_map.mpr (entries.ascending.imp ?_))
      intro left right before same
      exact String.lt_irrefl _ (same ▸ before)
    have formed : ∀ member ∈ members, ∃ form, canonicalWithin? below member.2 = some form := by
      intro member present
      obtain ⟨entry, _, rfl⟩ := List.mem_map.mp present
      obtain ⟨form, found, _⟩ := faithful.read below (by omega) entry.2
      exact ⟨form, found⟩
    obtain ⟨sorted, found, _, all, only⟩ := canonical_ofMembers distinct formed
    refine ⟨.object sorted, found, entries_eq_ok ?_ nofun ?_⟩
    · intro form present
      obtain ⟨member, listed, key, whole⟩ := only form present
      obtain ⟨entry, held, rfl⟩ := List.mem_map.mp listed
      obtain ⟨form', formed', read⟩ := faithful.read below (by omega) entry.2
      rw [Option.some.inj (whole.symm.trans formed')]
      exact ⟨entry.1, entry.2, key, read, Table.mem_toList_iff.mp held⟩
    · intro key value held
      obtain ⟨form, _, present⟩ := all (key, item.write value)
        (List.mem_map_of_mem (Table.mem_toList_iff.mpr held))
      exact .inr ⟨_, present, rfl⟩

/-- Members of a record, written from it and put into another one in turn, make a third.
Each member is read and written by a codec that reads back what it writes. -/
inductive Copied (depth : Nat) (record : ρ) : List (Member ρ) → ρ → ρ → Prop
  | nil (target : ρ) : Copied depth record [] target target
  | cons {name : String} {α : Type} {part : Codec α} {get : ρ → α} {set : ρ → α → ρ}
      {members : List (Member ρ)} {target result : ρ} (faithful : part.Faithful depth)
      (rest : Copied depth record members (set target (get record)) result) :
      Copied depth record (Codec.member name part get set :: members) target result

/-- What is written of the members is regular. -/
theorem Copied.regular {record target result : ρ} {members : List (Member ρ)}
    (copied : Copied depth record members target result) :
    ∀ member ∈ members, (member.write record).Regular := by
  induction copied with
  | nil => nofun
  | cons faithful _ inductionHypothesis =>
    exact List.forall_mem_cons.mpr ⟨faithful.regular _, inductionHypothesis⟩

/-- What is written of the members has canonical forms. -/
theorem Copied.formed {record target result : ρ} {members : List (Member ρ)} {levels : Nat}
    (copied : Copied depth record members target result) (deep : depth ≤ levels) :
    ∀ member ∈ members, ∃ form, canonicalWithin? levels (member.write record) = some form := by
  induction copied with
  | nil => nofun
  | cons faithful _ inductionHypothesis =>
    obtain ⟨form, found, _⟩ := faithful.read levels deep _
    exact List.forall_mem_cons.mpr ⟨⟨form, found⟩, inductionHypothesis⟩

/-- The fields of the members take what was written of the members from its canonical
form. -/
theorem Copied.putFields {record target result : ρ} {members : List (Member ρ)} {levels : Nat}
    {forms : List (Bytes × Value)} (copied : Copied depth record members target result)
    (deep : depth ≤ levels)
    (found : ∀ member ∈ members, ∃ form,
      canonicalWithin? levels (member.write record) = some form ∧
        forms.lookup (Bytes.ofText member.field.name) = some form) :
    Shape.putFields (members.map (·.field)) forms target = .ok result := by
  induction copied with
  | nil => rfl
  | cons faithful _ inductionHypothesis =>
    obtain ⟨⟨form, whole, held⟩, others⟩ := List.forall_mem_cons.mp found
    obtain ⟨form', formed, read⟩ := faithful.read levels deep _
    obtain rfl : form = form' := Option.some.inj (whole.symm.trans formed)
    rw [List.map_cons, Shape.putFields, held]
    change (Except.map _ (Codec.shape _ form) >>= _) = _
    rw [read]
    exact inductionHypothesis others

/-- Records are read back when their members are, when the fields may be put in any order,
and when a record is made of what is copied of it into the default. -/
theorem faithful_record {members : List (Member ρ)} {default : ρ}
    (apart : members.Pairwise fun first second => Shape.Apart first.field second.field)
    (copied : ∀ record, Copied depth record members default record) :
    (Codec.record members default).Faithful (depth + 1) where
  regular record := by
    refine Value.regular_ofMembers fun written present => ?_
    obtain ⟨member, listed, rfl⟩ := List.mem_map.mp present
    exact (copied record).regular member listed
  read levels deep record := by
    obtain ⟨below, rfl⟩ : ∃ below, levels = below + 1 := ⟨levels - 1, by omega⟩
    let written := members.map fun member => (member.field.name, member.write record)
    have distinct : (written.map (·.1)).Nodup :=
      List.pairwise_map.mpr (List.pairwise_map.mpr (apart.imp fun fields => fields.named))
    have formed : ∀ entry ∈ written, ∃ form, canonicalWithin? below entry.2 = some form := by
      intro entry present
      obtain ⟨member, listed, rfl⟩ := List.mem_map.mp present
      exact (copied record).formed (by omega) member listed
    obtain ⟨sorted, found, unique, all, only⟩ := canonical_ofMembers distinct formed
    refine ⟨.object sorted, found, ?_⟩
    refine (Shape.putMembers_eq_ok_iff (List.pairwise_map.mpr apart)).mpr ⟨?_, ?_, ?_⟩
    · intro form present
      obtain ⟨entry, _, key, _⟩ := only form present
      rw [key]
      exact Value.isText_ofText entry.1
    · intro field _
      exact ⟨Value.occurrences_le_one unique _, nofun⟩
    · refine (copied record).putFields (show depth ≤ below by omega) fun member listed => ?_
      obtain ⟨form, whole, present⟩ := all _ (List.mem_map_of_mem listed)
      exact ⟨form, whole, Value.lookup_of_mem unique present⟩

/-- What a codec writes is read from the document as it was written. -/
theorem Faithful.parse?_document {codec : Codec α} (faithful : codec.Faithful depth) (value : α) :
    Value.parse? ((codec.write value).writeSpaced ++ [ascii '\n']) = some (codec.write value) := by
  refine Value.parse?_writeAt ?_ (faithful.regular value)
  intro byte present
  obtain rfl : byte = ascii ' ' := by simpa using present
  decide

end Codec

end StableFleet.Json
