import StableFleet.Json.Shape
import StableFleet.Proofs.Json.Members
import StableFleet.Proofs.Json.Text

/-!
# Reading a document and reading its canonical form

What a shape finds in the canonical form of a document it also finds in the document
itself, unless the document repeats a field: a record takes a field once, while the
canonical form keeps the last of the members with the same key. Members that name no
field may be repeated.

A record is read member by member in the order of the document, and the canonical form
has another order. That makes no difference, as fields that have names of their own
change a record independently: reading the members is the same as looking for each
field among them.
-/

namespace StableFleet.Json

open Value (canonicalWithin? canonicalItems? canonicalMembers? isText occurrences sortMembers)

namespace Unrepeated

/-- Whether no item of an array repeats a field. -/
def list (item : Value → Bool) : Value → Bool
  | .array values => values.all item
  | _ => true

/-- Whether a record repeats none of its fields, and neither does what is found under
them. -/
def record (fields : List (String × (Value → Bool))) : Value → Bool
  | .object members => fields.all fun field =>
    occurrences (Bytes.ofText field.1) members ≤ 1 &&
      (members.lookup (Bytes.ofText field.1)).all field.2
  | .array values => (fields.zip values).all fun part => part.1.2 part.2
  | _ => true

end Unrepeated

namespace Shape

variable {α β ε ρ : Type}

theorem bind_eq_ok_iff {attempt : Except ε α} {next : α → Except ε β} {result : β} :
    (attempt >>= next) = .ok result ↔ ∃ found, attempt = .ok found ∧ next found = .ok result := by
  cases attempt with
  | error failure => exact ⟨nofun, nofun⟩
  | ok found =>
    constructor
    · intro done
      exact ⟨found, rfl, done⟩
    · rintro ⟨_, ⟨⟩, done⟩
      exact done

theorem map_eq_ok_iff {attempt : Except ε α} {change : α → β} {result : β} :
    attempt.map change = .ok result ↔ ∃ found, attempt = .ok found ∧ change found = result := by
  cases attempt with
  | error failure => exact ⟨nofun, nofun⟩
  | ok found =>
    constructor
    · intro done
      exact ⟨found, rfl, Except.ok.inj done⟩
    · rintro ⟨_, ⟨⟩, done⟩
      exact congrArg Except.ok done

/-- When it is known what two steps give and on which conditions, it is known what they
give together. -/
theorem bind_of_known {attempt : Except ε α} {next : α → Except ε β} {first second : Prop}
    {middle : α} {result : β} (head : ∀ found, attempt = .ok found ↔ first ∧ found = middle)
    (rest : ∀ found, next middle = .ok found ↔ second ∧ found = result) (found : β) :
    (attempt >>= next) = .ok found ↔ (first ∧ second) ∧ found = result := by
  simp only [bind_eq_ok_iff, head]
  constructor
  · rintro ⟨_, ⟨holds, rfl⟩, done⟩
    obtain ⟨holds', same⟩ := (rest found).mp done
    exact ⟨⟨holds, holds'⟩, same⟩
  · rintro ⟨⟨holds, holds'⟩, same⟩
    exact ⟨middle, ⟨holds, rfl⟩, (rest found).mpr ⟨holds', same⟩⟩

theorem map_of_known {attempt : Except ε α} {condition : Prop} {known : α}
    (given : ∀ found, attempt = .ok found ↔ condition ∧ found = known) (change : α → β)
    (found : β) : attempt.map change = .ok found ↔ condition ∧ found = change known := by
  simp only [map_eq_ok_iff, given]
  constructor
  · rintro ⟨_, ⟨holds, rfl⟩, rfl⟩
    exact ⟨holds, rfl⟩
  · rintro ⟨holds, rfl⟩
    exact ⟨known, ⟨holds, rfl⟩, rfl⟩

/-- Fields that have names of their own and may be put into a record in either order. -/
structure Apart (first second : Field ρ) : Prop where
  named : first.name ≠ second.name
  swap : ∀ value other record result,
    (first.put value record >>= second.put other) = .ok result ↔
      (second.put other record >>= first.put value) = .ok result

/-- Fields are apart when their names differ and they set different parts of a
record. -/
theorem apart_field {name name' : String} {shape : Shape α} {shape' : Shape β}
    {set : ρ → α → ρ} {set' : ρ → β → ρ} (named : name ≠ name')
    (commute : ∀ record first second,
      set' (set record first) second = set (set' record second) first) :
    Apart (field name shape set) (field name' shape' set') := by
  refine ⟨named, fun value other record result => ?_⟩
  simp only [field, bind_eq_ok_iff, map_eq_ok_iff]
  constructor
  · rintro ⟨_, ⟨first, read, rfl⟩, second, read', rfl⟩
    exact ⟨_, ⟨second, read', rfl⟩, first, read, (commute record first second).symm⟩
  · rintro ⟨_, ⟨second, read', rfl⟩, first, read, rfl⟩
    exact ⟨_, ⟨first, read, rfl⟩, second, read', commute record first second⟩

/-- Fields that are apart may be put in either order before whatever is done next. -/
theorem Apart.swap_then {first second : Field ρ} (apart : Apart first second) (value other : Value)
    (record : ρ) (next : ρ → Except Misfit β) (result : β) :
    (first.put value record >>= fun middle => second.put other middle >>= next) = .ok result ↔
      (second.put other record >>= fun middle => first.put value middle >>= next) = .ok result := by
  rw [← bind_assoc, ← bind_assoc, bind_eq_ok_iff, bind_eq_ok_iff]
  simp only [apart.swap value other record]

/-- Looks for each field among some members and puts what is found into a record. -/
def putFields : List (Field ρ) → List (Bytes × Value) → ρ → Except Misfit ρ
  | [], _, record => .ok record
  | field :: fields, members, record =>
    match members.lookup (Bytes.ofText field.name) with
    | none => putFields fields members record
    | some value => field.put value record >>= putFields fields members

theorem putFields_nil (fields : List (Field ρ)) (record : ρ) :
    putFields fields [] record = .ok record := by
  induction fields with
  | nil => rfl
  | cons field fields inductionHypothesis => exact inductionHypothesis

/-- A member that names no field is not looked at. -/
theorem putFields_other {fields : List (Field ρ)} {key : Bytes}
    (unnamed : ∀ field ∈ fields, Bytes.ofText field.name ≠ key) (value : Value)
    (members : List (Bytes × Value)) (record : ρ) :
    putFields fields ((key, value) :: members) record = putFields fields members record := by
  induction fields generalizing record with
  | nil => rfl
  | cons field fields inductionHypothesis =>
    have rest := inductionHypothesis fun other present => unnamed other (List.mem_cons_of_mem _ present)
    have different := unnamed field List.mem_cons_self
    rw [putFields, putFields, Value.lookup_cons_eq, if_neg different.symm]
    split
    · exact rest record
    · exact congrArg _ (funext rest)

/-- A field that is found first among the members may be put before the others. The
induction goes along the fields; a field in front is put later instead. -/
theorem putFields_first {fields : List (Field ρ)} (apart : fields.Pairwise Apart)
    {field : Field ρ} (present : field ∈ fields) {members : List (Bytes × Value)}
    (absent : members.lookup (Bytes.ofText field.name) = none) (value : Value) (record result : ρ) :
    putFields fields ((Bytes.ofText field.name, value) :: members) record = .ok result ↔
      (field.put value record >>= putFields fields members) = .ok result := by
  induction fields generalizing record with
  | nil => exact absurd present List.not_mem_nil
  | cons front fields inductionHypothesis =>
    obtain ⟨aparts, others⟩ := List.pairwise_cons.mp apart
    rcases List.mem_cons.mp present with rfl | later
    · have unnamed (other : Field ρ) (member : other ∈ fields) :
          Bytes.ofText other.name ≠ Bytes.ofText field.name :=
        fun same => (aparts other member).named (Bytes.ofText_injective same).symm
      simp only [putFields, absent, List.lookup_cons_self, bind_eq_ok_iff,
        putFields_other unnamed]
    · have distinct := aparts field later
      have different : ¬ Bytes.ofText field.name = Bytes.ofText front.name :=
        fun same => distinct.named (Bytes.ofText_injective same).symm
      have rest := inductionHypothesis others later
      simp only [putFields, Value.lookup_cons_eq, if_neg different]
      cases found : members.lookup (Bytes.ofText front.name) with
      | none => exact rest record
      | some other =>
        rw [bind_eq_ok_iff]
        simp only [rest]
        rw [← bind_eq_ok_iff]
        exact distinct.swap_then other value record (putFields fields members) result

/-- Every field occurs once at most among some members, and not at all if it has been
put before. -/
def Fresh (fields : List (Field ρ)) (seen : List String) (members : List (Bytes × Value)) : Prop :=
  ∀ field ∈ fields, occurrences (Bytes.ofText field.name) members ≤ 1 ∧
    (field.name ∈ seen → occurrences (Bytes.ofText field.name) members = 0)

/-- A member that names no field keeps the fields fresh. -/
theorem fresh_other {fields : List (Field ρ)} {key : Bytes}
    (unnamed : ∀ field ∈ fields, Bytes.ofText field.name ≠ key) (seen : List String) (value : Value)
    (members : List (Bytes × Value)) :
    Fresh fields seen ((key, value) :: members) ↔ Fresh fields seen members := by
  have same (field : Field ρ) (present : field ∈ fields) :
      occurrences (Bytes.ofText field.name) ((key, value) :: members) =
        occurrences (Bytes.ofText field.name) members := by
    rw [Value.occurrences_cons, if_neg (unnamed field present).symm, Nat.add_zero]
  constructor
  · intro fresh field present
    rw [← same field present]
    exact fresh field present
  · intro fresh field present
    rw [same field present]
    exact fresh field present

/-- A member that names a field leaves the fields fresh when the field has not been put
before and then counts as put. -/
theorem fresh_named {fields : List (Field ρ)} {field : Field ρ} (present : field ∈ fields)
    (seen : List String) (value : Value) (members : List (Bytes × Value)) :
    Fresh fields seen ((Bytes.ofText field.name, value) :: members) ↔
      field.name ∉ seen ∧ Fresh fields (field.name :: seen) members := by
  constructor
  · intro fresh
    obtain ⟨single, unseen⟩ := fresh field present
    rw [Value.occurrences_cons, if_pos rfl] at single unseen
    refine ⟨fun put => absurd (unseen put) (by omega), fun other member => ?_⟩
    obtain ⟨single', unseen'⟩ := fresh other member
    rw [Value.occurrences_cons] at single' unseen'
    refine ⟨by omega, fun put => ?_⟩
    rcases List.mem_cons.mp put with same | put
    · rw [same]
      omega
    · have none := unseen' put
      omega
  · rintro ⟨unseen, fresh⟩ other member
    obtain ⟨single, absent⟩ := fresh other member
    rw [Value.occurrences_cons]
    by_cases same : field.name = other.name
    · have none := absent (by rw [same]; exact List.mem_cons_self)
      rw [none, if_pos (by rw [same])]
      exact ⟨by omega, fun put => absurd (same ▸ put) unseen⟩
    · have different : ¬ Bytes.ofText field.name = Bytes.ofText other.name :=
        fun equal => same (Bytes.ofText_injective equal)
      rw [if_neg different]
      exact ⟨single, fun put => absent (List.mem_cons_of_mem _ put)⟩

/-- Members are put into a record exactly when their keys are well-formed, no field
occurs twice, and every field that is found can be put; the order of the members does
not matter. The induction goes along the members. -/
theorem putMembers_eq_ok_iff {fields : List (Field ρ)} (apart : fields.Pairwise Apart)
    {seen : List String} {record result : ρ} {members : List (Bytes × Value)} :
    putMembers fields seen record members = .ok result ↔
      (∀ member ∈ members, isText member.1 = true) ∧ Fresh fields seen members ∧
        putFields fields members record = .ok result := by
  induction members generalizing seen record with
  | nil =>
    have fresh : Fresh fields seen [] := fun _ _ => ⟨Nat.zero_le 1, fun _ => rfl⟩
    simp [putMembers, putFields_nil, fresh]
  | cons member members inductionHypothesis =>
    obtain ⟨key, value⟩ := member
    rw [putMembers, List.forall_mem_cons]
    cases text : Bytes.text? key with
    | none => simp [isText, text]
    | some name =>
      obtain rfl := Bytes.text?_eq_some_iff.mp text
      have readable : isText (Bytes.ofText name) = true := by simp [isText]
      simp only [readable, true_and]
      cases found : fields.find? (fun field => field.name = name) with
      | none =>
        have unnamed (field : Field ρ) (present : field ∈ fields) :
            Bytes.ofText field.name ≠ Bytes.ofText name := by
          intro same
          have other := List.find?_eq_none.mp found field present
          exact other (decide_eq_true (Bytes.ofText_injective same))
        rw [fresh_other unnamed, putFields_other unnamed]
        exact inductionHypothesis
      | some field =>
        have present := List.mem_of_find?_eq_some found
        obtain rfl : field.name = name := by simpa using List.find?_some found
        rw [fresh_named present]
        by_cases put : field.name ∈ seen
        · simp [put]
        · dsimp only
          rw [if_neg put]
          simp only [bind_eq_ok_iff, inductionHypothesis, put, not_false_iff, true_and]
          constructor
          · rintro ⟨middle, first, texts, fresh, rest⟩
            have absent := Value.lookup_eq_none_iff_occurrences.mpr
              ((fresh field present).2 List.mem_cons_self)
            exact ⟨texts, fresh, (putFields_first apart present absent value record result).mpr
              (bind_eq_ok_iff.mpr ⟨middle, first, rest⟩)⟩
          · rintro ⟨texts, fresh, whole⟩
            have absent := Value.lookup_eq_none_iff_occurrences.mpr
              ((fresh field present).2 List.mem_cons_self)
            obtain ⟨middle, first, rest⟩ := bind_eq_ok_iff.mp
              ((putFields_first apart present absent value record result).mp whole)
            exact ⟨middle, first, texts, fresh, rest⟩

/-- A shape finds in a document what it finds in the canonical form of the document if a
condition holds of the document, and nothing if it does not. -/
def Agrees (shape : Shape α) (condition : Value → Bool) : Prop :=
  ∀ ⦃levels value canonical found⦄, canonicalWithin? levels value = some canonical →
    shape canonical = .ok found →
    ∀ other, shape value = .ok other ↔ condition value = true ∧ other = found

/-- A field takes from a document what it takes from the canonical form of the document
if a condition holds of the document, and nothing if it does not. -/
def Field.Agrees (field : Field ρ) (condition : Value → Bool) : Prop :=
  ∀ ⦃levels value canonical⦄ ⦃record found : ρ⦄, canonicalWithin? levels value = some canonical →
    field.put canonical record = .ok found →
    ∀ other, field.put value record = .ok other ↔ condition value = true ∧ other = found

/-- A field agrees when its shape does. -/
theorem Agrees.field {shape : Shape α} {condition : Value → Bool} (agrees : Agrees shape condition)
    (name : String) (set : ρ → α → ρ) : (Shape.field name shape set).Agrees condition := by
  intro levels value canonical record found formed put other
  obtain ⟨part, read, rfl⟩ := map_eq_ok_iff.mp put
  exact map_of_known (agrees formed read) (set record) other

/-- A text is taken from its canonical form. -/
theorem agrees_text : Agrees text fun _ => true := by
  intro levels value canonical found formed read other
  rcases Value.canonicalWithin?_cases formed with
    ⟨_, rfl⟩ | ⟨_, _, _, _, rfl, _⟩ | ⟨_, _, _, _, rfl, _⟩
  · simp only [read, Except.ok.injEq, true_and]
    exact eq_comm
  · cases read
  · cases read

/-- The items of an array are taken from their canonical forms when each of them is. -/
theorem agrees_items {item : Shape α} {condition : Value → Bool} (agrees : Agrees item condition)
    {levels : Nat} {values forms : List Value} (formed : canonicalItems? levels values = some forms)
    {found : List α} (read : items item forms = .ok found) (other : List α) :
    items item values = .ok other ↔ values.all condition = true ∧ other = found := by
  induction values generalizing forms found other with
  | nil =>
    rw [canonicalItems?] at formed
    obtain rfl := Option.some.inj formed
    obtain rfl := Except.ok.inj read
    simp [items, eq_comm]
  | cons value values inductionHypothesis =>
    obtain ⟨form, forms, rfl, first, rest⟩ := Value.canonicalItems?_cons formed
    obtain ⟨head, readHead, read⟩ := bind_eq_ok_iff.mp read
    obtain ⟨tail, readTail, same⟩ := bind_eq_ok_iff.mp read
    obtain rfl := Except.ok.inj same
    have heads := agrees first readHead
    have tails := inductionHypothesis rest readTail
    have joined (found : List α) :
        (items item values >>= fun tail => pure (head :: tail)) = .ok found ↔
          values.all condition = true ∧ found = head :: tail :=
      map_of_known tails (head :: ·) found
    rw [List.all_cons, Bool.and_eq_true]
    exact bind_of_known heads joined other

/-- An array is taken from its canonical form when each item is. -/
theorem agrees_list {item : Shape α} {condition : Value → Bool} (agrees : Agrees item condition) :
    Agrees (list item) (Unrepeated.list condition) := by
  intro levels value canonical found formed read other
  rcases Value.canonicalWithin?_cases formed with
    ⟨plain, rfl⟩ | ⟨_, values, forms, rfl, rfl, formed'⟩ | ⟨_, _, _, _, rfl, _⟩
  · cases canonical <;> first | cases read | cases plain
  · exact agrees_items agrees formed' read other
  · cases read

/-- Fields that are found among some members are put as they are found in the canonical
object, when no field occurs twice and each of them agrees. -/
theorem agrees_putFields {parts : List (Field ρ × (Value → Bool))}
    (agrees : ∀ part ∈ parts, part.1.Agrees part.2) {levels : Nat}
    {members forms : List (Bytes × Value)} (formed : canonicalMembers? levels members = some forms)
    (single : ∀ part ∈ parts, occurrences (Bytes.ofText part.1.name) members ≤ 1)
    {record found : ρ}
    (put : putFields (parts.map (·.1)) (sortMembers forms) record = .ok found) (other : ρ) :
    putFields (parts.map (·.1)) members record = .ok other ↔
      (parts.all fun part => (members.lookup (Bytes.ofText part.1.name)).all part.2) = true ∧
        other = found := by
  induction parts generalizing record other with
  | nil =>
    obtain rfl := Except.ok.inj put
    simp [putFields, eq_comm]
  | cons part parts inductionHypothesis =>
    have later {record : ρ} (put : putFields (parts.map (·.1)) (sortMembers forms) record =
        .ok found) := inductionHypothesis
      (fun part present => agrees part (List.mem_cons_of_mem _ present))
      (fun part present => single part (List.mem_cons_of_mem _ present)) put
    have same := Value.lookup_sorted_canonical formed (single part List.mem_cons_self)
    rw [List.map_cons, putFields] at put ⊢
    rw [List.all_cons, Bool.and_eq_true]
    cases looked : members.lookup (Bytes.ofText part.1.name) with
    | none =>
      rw [looked, Option.map_none, eq_comm, Option.map_eq_none_iff] at same
      rw [same] at put
      simp only [later put other, Option.all_none, true_and]
    | some value =>
      rw [looked, Option.map_some, eq_comm, Option.map_eq_some_iff] at same
      obtain ⟨form, found', formed'⟩ := same
      rw [found'] at put
      obtain ⟨middle, first, rest⟩ := bind_eq_ok_iff.mp put
      have head := agrees part List.mem_cons_self formed'.symm first
      exact bind_of_known head (later rest) other

/-- The items of an array are put into the fields of a record as their canonical forms
are, when each field agrees. -/
theorem agrees_putItems {parts : List (Field ρ × (Value → Bool))}
    (agrees : ∀ part ∈ parts, part.1.Agrees part.2) {levels : Nat} {values forms : List Value}
    (formed : canonicalItems? levels values = some forms) {record found : ρ}
    (put : putItems (parts.map (·.1)) record forms = .ok found) (other : ρ) :
    putItems (parts.map (·.1)) record values = .ok other ↔
      ((parts.zip values).all fun part => part.1.2 part.2) = true ∧ other = found := by
  induction parts generalizing values forms record other with
  | nil =>
    cases values with
    | nil =>
      rw [canonicalItems?] at formed
      obtain rfl := Option.some.inj formed
      obtain rfl := Except.ok.inj put
      simp [putItems, eq_comm]
    | cons value values =>
      obtain ⟨form, forms, rfl, _, _⟩ := Value.canonicalItems?_cons formed
      cases put
  | cons part parts inductionHypothesis =>
    cases values with
    | nil =>
      rw [canonicalItems?] at formed
      obtain rfl := Option.some.inj formed
      obtain rfl := Except.ok.inj put
      simp [putItems, eq_comm]
    | cons value values =>
      obtain ⟨form, forms, rfl, first, rest⟩ := Value.canonicalItems?_cons formed
      obtain ⟨middle, putFirst, putRest⟩ := bind_eq_ok_iff.mp put
      have head := agrees part List.mem_cons_self first putFirst
      have later := inductionHypothesis
        (fun part present => agrees part (List.mem_cons_of_mem _ present)) rest putRest
      rw [List.zip_cons_cons, List.all_cons, Bool.and_eq_true]
      exact bind_of_known head later other

/-- A record is taken from its canonical form when its fields are apart and each of them
agrees. -/
theorem agrees_record {parts : List (Field ρ × (Value → Bool))}
    (apart : (parts.map (·.1)).Pairwise Apart) (agrees : ∀ part ∈ parts, part.1.Agrees part.2)
    (default : ρ) :
    Agrees (record (parts.map (·.1)) default)
      (Unrepeated.record (parts.map fun part => (part.1.name, part.2))) := by
  intro levels value canonical found formed read other
  rcases Value.canonicalWithin?_cases formed with
    ⟨plain, rfl⟩ | ⟨_, values, forms, rfl, rfl, formed'⟩ | ⟨_, members, forms, rfl, rfl, formed'⟩
  · cases canonical <;> first | cases read | cases plain
  · have conditions : Unrepeated.record (parts.map fun part => (part.1.name, part.2))
        (.array values) = (parts.zip values).all fun part => part.1.2 part.2 := by
      simp only [Unrepeated.record, List.zip_map_left, List.all_map]
      rfl
    rw [conditions]
    exact agrees_putItems agrees formed' read other
  · obtain ⟨_, _, put⟩ := (putMembers_eq_ok_iff apart).mp read
    have texts := Value.isText_of_canonicalMembers? formed'
    have fresh : Fresh (parts.map (·.1)) [] members ↔
        ∀ part ∈ parts, occurrences (Bytes.ofText part.1.name) members ≤ 1 := by
      simp [Fresh]
    have conditions : Unrepeated.record (parts.map fun part => (part.1.name, part.2))
        (.object members) = true ↔
          (∀ part ∈ parts, occurrences (Bytes.ofText part.1.name) members ≤ 1) ∧
            (parts.all fun part => (members.lookup (Bytes.ofText part.1.name)).all part.2) = true := by
      simp [Unrepeated.record, List.all_eq_true, forall_and]
    rw [record, putMembers_eq_ok_iff apart, fresh, conditions]
    constructor
    · rintro ⟨_, single, done⟩
      obtain ⟨all, same⟩ := (agrees_putFields agrees formed' single put other).mp done
      exact ⟨⟨single, all⟩, same⟩
    · rintro ⟨⟨single, all⟩, same⟩
      exact ⟨texts, single, (agrees_putFields agrees formed' single put other).mpr ⟨all, same⟩⟩

end Shape

end StableFleet.Json
