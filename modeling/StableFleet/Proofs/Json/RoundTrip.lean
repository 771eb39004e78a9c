import StableFleet.Proofs.Json.Number
import StableFleet.Proofs.Json.Text

/-!
# Values written and read back

A value whose numbers are natural numbers is read back from the bytes that it is
written as, at whatever level and with whatever blanks it is indented. Written
bytes are well-formed when the texts of the value are.
-/

namespace StableFleet.Json

/-- Every byte is a blank. -/
def Blank (bytes : Bytes) : Prop := ∀ byte ∈ bytes, isBlank byte = true

theorem skipBlanks_append {before : Bytes} (blank : Blank before) (rest : Bytes) :
    skipBlanks (before ++ rest) = skipBlanks rest := by
  induction before with
  | nil => rfl
  | cons byte before inductionHypothesis =>
    have first := blank byte List.mem_cons_self
    have others := inductionHypothesis fun other present =>
      blank other (List.mem_cons_of_mem _ present)
    rw [List.cons_append, skipBlanks, List.dropWhile_cons_of_pos first]
    exact others

theorem skipBlanks_of_not_blank {byte : UInt8} (visible : isBlank byte = false) (rest : Bytes) :
    skipBlanks (byte :: rest) = byte :: rest := by
  simp [skipBlanks, visible]

/-- A line start is blank when the indentation is. -/
theorem blank_lineStart {indent : Bytes} (blank : Blank indent) (level : Nat) :
    Blank (lineStart indent level) := by
  intro byte present
  rcases List.mem_cons.mp present with rfl | indented
  · decide
  · obtain ⟨unit, replicated, member⟩ := List.mem_flatten.mp indented
    rw [List.eq_of_mem_replicate replicated] at member
    exact blank byte member

/-- A line start has a byte at least. -/
theorem length_lineStart_pos (indent : Bytes) (level : Nat) :
    0 < (lineStart indent level).length := by
  simp [lineStart]

/-- A digit starts a number and nothing else. -/
theorem digit_spec {byte : UInt8} (digit : isDigit byte = true) :
    isBlank byte = false ∧ byte ≠ ascii '\x7b' ∧ byte ≠ ascii '[' ∧ byte ≠ ascii '"' ∧
      byte ≠ ascii 'n' ∧ byte ≠ ascii 't' ∧ byte ≠ ascii 'f' ∧ byte ≠ ascii ']' := by
  have checked : ∀ number < 256, isDigit (UInt8.ofNat number) = true →
      isBlank (UInt8.ofNat number) = false ∧ UInt8.ofNat number ≠ ascii '\x7b' ∧
        UInt8.ofNat number ≠ ascii '[' ∧ UInt8.ofNat number ≠ ascii '"' ∧
        UInt8.ofNat number ≠ ascii 'n' ∧ UInt8.ofNat number ≠ ascii 't' ∧
        UInt8.ofNat number ≠ ascii 'f' ∧ UInt8.ofNat number ≠ ascii ']' := by
    decide +kernel
  have found := checked byte.toNat byte.toNat_lt
  rw [UInt8.ofNat_toNat] at found
  exact found digit

namespace Value

mutual

/-- The numbers of a value are natural numbers, and its texts are well-formed. -/
def Regular : Value → Prop
  | .null => True
  | .bool _ => True
  | .number written => ∃ natural, written = .ofNat natural
  | .text content => Bytes.WellFormed content
  | .array items => RegularItems items
  | .object members => RegularMembers members

/-- All items are regular. -/
def RegularItems : List Value → Prop
  | [] => True
  | item :: items => Regular item ∧ RegularItems items

/-- All members are regular, and their keys are well-formed. -/
def RegularMembers : List (Bytes × Value) → Prop
  | [] => True
  | (key, value) :: members => Bytes.WellFormed key ∧ Regular value ∧ RegularMembers members

end

variable {indent : Bytes}

/-- A written value starts with a byte that is neither blank nor the end of an
array. -/
theorem writeAt_head (indent : Bytes) (level : Nat) {value : Value} (regular : value.Regular) :
    ∃ byte after, value.writeAt indent level = byte :: after ∧ isBlank byte = false ∧
      byte ≠ ascii ']' := by
  cases value with
  | null => exact ⟨ascii 'n', _, by rw [writeAt], by decide, by decide⟩
  | bool flag =>
    cases flag with
    | true => exact ⟨ascii 't', _, by rw [writeAt], by decide, by decide⟩
    | false => exact ⟨ascii 'f', _, by rw [writeAt], by decide, by decide⟩
  | number written =>
    rw [Regular] at regular
    obtain ⟨natural, rfl⟩ := regular
    obtain ⟨first, others, digits, all, _⟩ := Number.digitsOf_spec natural
    have digit := all first List.mem_cons_self
    have bytes : (Value.number (.ofNat natural)).writeAt indent level = first :: others := by
      rw [writeAt, Number.write_ofNat, digits]
    obtain ⟨visible, _, _, _, _, _, _, notEnd⟩ := digit_spec digit
    exact ⟨first, others, bytes, visible, notEnd⟩
  | text content => exact ⟨ascii '"', _, by rw [writeAt, writeText]; rfl, by decide, by decide⟩
  | array items =>
    cases items with
    | nil => exact ⟨ascii '[', _, by rw [writeAt], by decide, by decide⟩
    | cons item items => exact ⟨ascii '[', _, by rw [writeAt]; rfl, by decide, by decide⟩
  | object members =>
    cases members with
    | nil => exact ⟨ascii '\x7b', _, by rw [writeAt], by decide, by decide⟩
    | cons member members =>
      exact ⟨ascii '\x7b', _, by rw [writeAt]; rfl, by decide, by decide⟩

/-- Blanks before a value do not count. -/
theorem readWithin?_blank {before : Bytes} (blank : Blank before) (bound : Nat) (bytes : Bytes) :
    readWithin? bound (before ++ bytes) = readWithin? bound bytes := by
  cases bound with
  | zero => rw [readWithin?, readWithin?]
  | succ bound => rw [readWithin?, readWithin?, skipBlanks_append blank]

/-- Blanks before the first item do not count. -/
theorem readItems?_blank {before : Bytes} (blank : Blank before) (bound : Nat) (bytes : Bytes) :
    readItems? bound (before ++ bytes) = readItems? bound bytes := by
  cases bound with
  | zero => rw [readItems?, readItems?]
  | succ bound => rw [readItems?, readItems?, readWithin?_blank blank]

/-- Blanks before the first member do not count. -/
theorem readMembers?_blank {before : Bytes} (blank : Blank before) (bound : Nat) (bytes : Bytes) :
    readMembers? bound (before ++ bytes) = readMembers? bound bytes := by
  cases bound with
  | zero => rw [readMembers?, readMembers?]
  | succ bound => rw [readMembers?, readMembers?, skipBlanks_append blank]

/-- A comma or a line start follows the first item of an array. -/
theorem ends_writeItems (level : Nat) (items : List Value) (rest : Bytes) :
    Ends (writeItems indent level items ++ (lineStart indent level ++ rest)) := by
  cases items with
  | nil =>
    rw [writeItems, List.nil_append, lineStart]
    exact ends_line _
  | cons item items =>
    rw [writeItems]
    exact ends_comma _

/-- A comma or a line start follows the first member of an object. -/
theorem ends_writeMembers (level : Nat) (members : List (Bytes × Value)) (rest : Bytes) :
    Ends (writeMembers indent level members ++ (lineStart indent level ++ rest)) := by
  cases members with
  | nil =>
    rw [writeMembers, List.nil_append, lineStart]
    exact ends_line _
  | cons member members =>
    rw [writeMembers]
    exact ends_comma _

/-- The items of an array after its opening line: a first item, the others after
it, the closing bracket, and what follows. -/
def writtenItems (indent : Bytes) (level : Nat) (item : Value) (items : List Value)
    (rest : Bytes) : Bytes :=
  item.writeAt indent (level + 1) ++
    (writeItems indent level items ++ (lineStart indent level ++ ascii ']' :: rest))

/-- The members of an object after its opening line: a first member, the others
after it, the closing brace, and what follows. -/
def writtenMembers (indent : Bytes) (level : Nat) (key : Bytes) (value : Value)
    (members : List (Bytes × Value)) (rest : Bytes) : Bytes :=
  writeText key ++ (ascii ':' :: ascii ' ' :: (value.writeAt indent (level + 1) ++
    (writeMembers indent level members ++ (lineStart indent level ++ ascii '\x7d' :: rest))))

/-- A written text starts with a quote. -/
theorem writeText_append (content rest : Bytes) :
    writeText content ++ rest =
      ascii '"' :: (content.flatMap escapeByte ++ ascii '"' :: rest) := by
  simp [writeText]

/-- A natural number is read back. -/
theorem readWithin?_number (bound natural : Nat) {rest : Bytes} (ends : Ends rest) :
    readWithin? (bound + 1) ((Number.ofNat natural).write ++ rest) =
      some (.number (.ofNat natural), rest) := by
  have read := Number.read?_ofNat natural ends
  obtain ⟨digit, others, digits, all, _⟩ := Number.digitsOf_spec natural
  obtain ⟨visible, notBrace, notBracket, notQuote, notN, notT, notF, _⟩ :=
    digit_spec (all digit List.mem_cons_self)
  rw [Number.write_ofNat, digits, List.cons_append] at read ⊢
  rw [readWithin?, skipBlanks_of_not_blank visible]
  simp [notBrace, notBracket, notQuote, notN, notT, notF, read]

/-- An array is read back when its items are. -/
theorem readWithin?_array (blankIndent : Blank indent) {level bound : Nat} {item : Value}
    {items : List Value} {rest : Bytes} (regular : item.Regular)
    (inside : readItems? bound (writtenItems indent level item items rest) =
      some (item :: items, rest)) :
    readWithin? (bound + 1) ((Value.array (item :: items)).writeAt indent level ++ rest) =
      some (.array (item :: items), rest) := by
  obtain ⟨byte, after, head, visible, notEnd⟩ := writeAt_head indent (level + 1) regular
  have bytes : (Value.array (item :: items)).writeAt indent level ++ rest =
      ascii '[' :: (lineStart indent (level + 1) ++ writtenItems indent level item items rest) := by
    simp [writeAt, writtenItems]
  have opens := skipBlanks_of_not_blank (show isBlank (ascii '[') = false by decide)
  have starts : skipBlanks (lineStart indent (level + 1) ++
      writtenItems indent level item items rest) = writtenItems indent level item items rest := by
    rw [skipBlanks_append (blank_lineStart blankIndent _), writtenItems, head]
    exact skipBlanks_of_not_blank visible _
  rw [bytes, readWithin?, opens]
  simp only [starts]
  rw [writtenItems, head, List.cons_append] at inside ⊢
  simp +decide [notEnd, inside]

/-- An object is read back when its members are. -/
theorem readWithin?_object (blankIndent : Blank indent) {level bound : Nat} {key : Bytes}
    {value : Value} {members : List (Bytes × Value)} {rest : Bytes}
    (inside : readMembers? bound (writtenMembers indent level key value members rest) =
      some ((key, value) :: members, rest)) :
    readWithin? (bound + 1) ((Value.object ((key, value) :: members)).writeAt indent level ++ rest) =
      some (.object ((key, value) :: members), rest) := by
  have bytes : (Value.object ((key, value) :: members)).writeAt indent level ++ rest =
      ascii '\x7b' :: (lineStart indent (level + 1) ++
        writtenMembers indent level key value members rest) := by
    simp [writeAt, writtenMembers]
  have opens := skipBlanks_of_not_blank (show isBlank (ascii '\x7b') = false by decide)
  have starts : skipBlanks (lineStart indent (level + 1) ++
      writtenMembers indent level key value members rest) =
        writtenMembers indent level key value members rest := by
    rw [skipBlanks_append (blank_lineStart blankIndent _), writtenMembers, writeText_append]
    exact skipBlanks_of_not_blank (by decide) _
  rw [bytes, readWithin?, opens]
  simp only [starts]
  rw [writtenMembers, writeText_append] at inside ⊢
  simp +decide [inside]

/-- A space before a value does not count. -/
theorem readWithin?_space (bound : Nat) (bytes : Bytes) :
    readWithin? bound (ascii ' ' :: bytes) = readWithin? bound bytes := by
  have space : Blank [ascii ' '] := by
    intro byte present
    rw [List.mem_singleton.mp present]
    decide
  exact readWithin?_blank space bound bytes

/-- The last member of an object is read with the closing brace. -/
theorem readMembers?_last {bound : Nat} {key after left rest : Bytes} {value : Value}
    (read : readWithin? bound after = some (value, left))
    (closes : skipBlanks left = ascii '\x7d' :: rest) :
    readMembers? (bound + 1) (writeText key ++ ascii ':' :: after) = some ([(key, value)], rest) := by
  have named := readText?_writeText key (ascii ':' :: after)
  rw [writeText_append]
  simp +decide [readMembers?, skipBlanks_of_not_blank, named, read, closes]

/-- A member before a comma is read with the members after the comma. -/
theorem readMembers?_next {bound : Nat} {key after left rest : Bytes} {value : Value}
    {members : List (Bytes × Value)}
    (read : readWithin? bound after = some (value, ascii ',' :: left))
    (later : readMembers? bound left = some (members, rest)) :
    readMembers? (bound + 1) (writeText key ++ ascii ':' :: after) =
      some ((key, value) :: members, rest) := by
  have named := readText?_writeText key (ascii ':' :: after)
  rw [writeText_append]
  simp +decide [readMembers?, skipBlanks_of_not_blank, named, read, later]

mutual

/-- A written value is read back, with what follows it left. The induction goes
along the value; the bound is twice the number of bytes at least. -/
theorem readWithin?_writeAt (blankIndent : Blank indent) :
    ∀ (value : Value), value.Regular → ∀ (level bound : Nat) (rest : Bytes), Ends rest →
      2 * (value.writeAt indent level).length ≤ bound →
      readWithin? bound (value.writeAt indent level ++ rest) = some (value, rest)
  | value, regular, level, 0, rest, ends, enough => by
    obtain ⟨byte, after, written, _, _⟩ := writeAt_head indent level regular
    rw [written] at enough
    simp at enough
  | .null, _, level, bound + 1, rest, _, _ => by
    simp +decide [writeAt, readWithin?, skipBlanks_of_not_blank, Text.after?]
  | .bool true, _, level, bound + 1, rest, _, _ => by
    simp +decide [writeAt, readWithin?, skipBlanks_of_not_blank, Text.after?]
  | .bool false, _, level, bound + 1, rest, _, _ => by
    simp +decide [writeAt, readWithin?, skipBlanks_of_not_blank, Text.after?]
  | .number written, regular, level, bound + 1, rest, ends, _ => by
    rw [Regular] at regular
    obtain ⟨natural, rfl⟩ := regular
    rw [writeAt]
    exact readWithin?_number bound natural ends
  | .text content, _, level, bound + 1, rest, _, _ => by
    have starts := skipBlanks_of_not_blank (show isBlank (ascii '"') = false by decide)
    have read := readText?_writeText content rest
    rw [writeAt, writeText_append, readWithin?, starts]
    simp +decide [read]
  | .array [], _, level, bound + 1, rest, _, _ => by
    simp +decide [writeAt, readWithin?, skipBlanks_of_not_blank]
  | .object [], _, level, bound + 1, rest, _, _ => by
    simp +decide [writeAt, readWithin?, skipBlanks_of_not_blank]
  | .array (item :: items), regular, level, bound + 1, rest, _, enough => by
    rw [Regular, RegularItems] at regular
    have size : ((Value.array (item :: items)).writeAt indent level).length =
        (lineStart indent (level + 1)).length + (item.writeAt indent (level + 1)).length +
          (writeItems indent level items).length + (lineStart indent level).length + 2 := by
      simp only [writeAt, List.length_cons, List.length_append, List.length_nil]
      omega
    exact readWithin?_array blankIndent regular.1
      (readItems?_writeItems blankIndent item items regular.1 regular.2 level bound rest (by omega))
  | .object ((key, value) :: members), regular, level, bound + 1, rest, _, enough => by
    rw [Regular, RegularMembers] at regular
    have size : ((Value.object ((key, value) :: members)).writeAt indent level).length =
        (lineStart indent (level + 1)).length + (writeText key).length +
          (value.writeAt indent (level + 1)).length +
          (writeMembers indent level members).length + (lineStart indent level).length + 4 := by
      simp only [writeAt, List.length_cons, List.length_append, List.length_nil]
      omega
    exact readWithin?_object blankIndent
      (readMembers?_writeMembers blankIndent key value members regular.2.1 regular.2.2 level bound
        rest (by omega))
  termination_by value => sizeOf value

/-- Written items are read back. -/
theorem readItems?_writeItems (blankIndent : Blank indent) :
    ∀ (item : Value) (items : List Value), item.Regular → RegularItems items →
      ∀ (level bound : Nat) (rest : Bytes),
      2 * ((item.writeAt indent (level + 1)).length + (writeItems indent level items).length) + 1 ≤
        bound →
      readItems? bound (writtenItems indent level item items rest) = some (item :: items, rest)
  | item, items, _, _, level, 0, rest, enough => by omega
  | item, [], regular, _, level, bound + 1, rest, enough => by
    have first := readWithin?_writeAt blankIndent item regular (level + 1) bound
      (lineStart indent level ++ ascii ']' :: rest) (ends_writeItems level [] _) (by omega)
    have closes : skipBlanks (lineStart indent level ++ ascii ']' :: rest) = ascii ']' :: rest := by
      rw [skipBlanks_append (blank_lineStart blankIndent level)]
      exact skipBlanks_of_not_blank (by decide) rest
    simp +decide [writtenItems, writeItems, readItems?, first, closes]
  | item, next :: items, regular, regulars, level, bound + 1, rest, enough => by
    rw [RegularItems] at regulars
    have size : (writeItems indent level (next :: items)).length =
        (lineStart indent (level + 1)).length + (next.writeAt indent (level + 1)).length +
          (writeItems indent level items).length + 1 := by
      simp only [writeItems, List.length_cons, List.length_append]
      omega
    have bytes : writtenItems indent level item (next :: items) rest =
        item.writeAt indent (level + 1) ++ ascii ',' :: (lineStart indent (level + 1) ++
          writtenItems indent level next items rest) := by
      simp [writtenItems, writeItems]
    have first := readWithin?_writeAt blankIndent item regular (level + 1) bound
      (ascii ',' :: (lineStart indent (level + 1) ++ writtenItems indent level next items rest))
      (ends_comma _) (by omega)
    have linePositive := length_lineStart_pos indent (level + 1)
    have later := readItems?_writeItems blankIndent next items regulars.1 regulars.2 level bound
      rest (by omega)
    have comma := skipBlanks_of_not_blank (show isBlank (ascii ',') = false by decide)
    rw [bytes, readItems?, first]
    simp [comma, readItems?_blank (blank_lineStart blankIndent _), later]
  termination_by item items => sizeOf item + sizeOf items + 1

/-- Written members are read back. -/
theorem readMembers?_writeMembers (blankIndent : Blank indent) :
    ∀ (key : Bytes) (value : Value) (members : List (Bytes × Value)), value.Regular →
      RegularMembers members → ∀ (level bound : Nat) (rest : Bytes),
      2 * ((value.writeAt indent (level + 1)).length + (writeMembers indent level members).length) +
        2 ≤ bound →
      readMembers? bound (writtenMembers indent level key value members rest) =
        some ((key, value) :: members, rest)
  | key, value, members, _, _, level, 0, rest, enough => by omega
  | key, value, [], regular, _, level, bound + 1, rest, enough => by
    have first := readWithin?_writeAt blankIndent value regular (level + 1) bound
      (lineStart indent level ++ ascii '\x7d' :: rest) (ends_writeMembers level [] _) (by omega)
    have closes : skipBlanks (lineStart indent level ++ ascii '\x7d' :: rest) =
        ascii '\x7d' :: rest := by
      rw [skipBlanks_append (blank_lineStart blankIndent level)]
      exact skipBlanks_of_not_blank (by decide) rest
    rw [writtenMembers, writeMembers, List.nil_append]
    exact readMembers?_last (by rw [readWithin?_space]; exact first) closes
  | key, value, (nextKey, nextValue) :: members, regular, regulars, level, bound + 1, rest,
      enough => by
    rw [RegularMembers] at regulars
    have size : (writeMembers indent level ((nextKey, nextValue) :: members)).length =
        (lineStart indent (level + 1)).length + (writeText nextKey).length +
          (nextValue.writeAt indent (level + 1)).length +
          (writeMembers indent level members).length + 3 := by
      simp only [writeMembers, List.length_cons, List.length_append, List.length_nil]
      omega
    have bytes : writtenMembers indent level key value ((nextKey, nextValue) :: members) rest =
        writeText key ++ ascii ':' :: ascii ' ' :: (value.writeAt indent (level + 1) ++
          ascii ',' :: (lineStart indent (level + 1) ++
            writtenMembers indent level nextKey nextValue members rest)) := by
      simp [writtenMembers, writeMembers]
    have first := readWithin?_writeAt blankIndent value regular (level + 1) bound
      (ascii ',' :: (lineStart indent (level + 1) ++
        writtenMembers indent level nextKey nextValue members rest)) (ends_comma _) (by omega)
    have later := readMembers?_writeMembers blankIndent nextKey nextValue members regulars.2.1
      regulars.2.2 level bound rest (by omega)
    rw [bytes]
    refine readMembers?_next (by rw [readWithin?_space]; exact first) ?_
    rw [readMembers?_blank (blank_lineStart blankIndent _)]
    exact later
  termination_by _ value members => sizeOf value + sizeOf members + 1

end

/-- A document that was written, with a line end after it, is read back. -/
theorem parse?_writeAt (blankIndent : Blank indent) {value : Value} (regular : value.Regular) :
    parse? (value.writeAt indent 0 ++ [ascii '\n']) = some value := by
  have enough : 2 * (value.writeAt indent 0).length ≤
      2 * (value.writeAt indent 0 ++ [ascii '\n']).length + 2 := by
    rw [List.length_append]
    omega
  rw [parse?, readWithin?_writeAt blankIndent value regular 0 _ _ (ends_line []) enough]
  simp +decide

/-- A written text is well-formed when the text is. -/
theorem wellFormed_writeText {content : Bytes} (wellFormed : Bytes.WellFormed content) :
    Bytes.WellFormed (writeText content) := by
  have quote : Bytes.WellFormed [ascii '"'] := Bytes.wellFormed_singleton (by decide)
  exact (quote.append (wellFormed_escaped wellFormed)).append quote

/-- A line start is well-formed when the indentation is. -/
theorem wellFormed_lineStart (wellFormed : Bytes.WellFormed indent) (level : Nat) :
    Bytes.WellFormed (lineStart indent level) := by
  have indented : Bytes.WellFormed (List.replicate level indent).flatten := by
    induction level with
    | zero => exact Bytes.wellFormed_nil
    | succ level inductionHypothesis => exact wellFormed.append inductionHypothesis
  exact (Bytes.wellFormed_singleton (by decide)).append indented

/-- A written natural number is well-formed. -/
theorem wellFormed_number (natural : Nat) : Bytes.WellFormed (Number.ofNat natural).write := by
  obtain ⟨first, others, digits, all, _⟩ := Number.digitsOf_spec natural
  rw [Number.write_ofNat, digits]
  refine Bytes.wellFormed_of_ascii (List.all_eq_true.mpr fun byte present => ?_)
  have digit := all byte present
  rw [isDigit, Bool.and_eq_true, decide_eq_true_eq, decide_eq_true_eq] at digit
  exact decide_eq_true (Nat.lt_of_le_of_lt digit.2 (by decide : (ascii '9').toNat < 0x80))

mutual

/-- A written value is well-formed when its texts and the indentation are. -/
theorem wellFormed_writeAt (wellFormed : Bytes.WellFormed indent) :
    ∀ (value : Value), value.Regular → ∀ level, Bytes.WellFormed (value.writeAt indent level)
  | .null, _, _ => by
    rw [writeAt]
    exact Bytes.wellFormed_of_ascii (by decide)
  | .bool true, _, _ => by
    rw [writeAt]
    exact Bytes.wellFormed_of_ascii (by decide)
  | .bool false, _, _ => by
    rw [writeAt]
    exact Bytes.wellFormed_of_ascii (by decide)
  | .number written, regular, _ => by
    rw [Regular] at regular
    obtain ⟨natural, rfl⟩ := regular
    rw [writeAt]
    exact wellFormed_number natural
  | .text content, regular, _ => by
    rw [Regular] at regular
    rw [writeAt]
    exact wellFormed_writeText regular
  | .array [], _, _ => by
    rw [writeAt]
    exact Bytes.wellFormed_of_ascii (by decide)
  | .object [], _, _ => by
    rw [writeAt]
    exact Bytes.wellFormed_of_ascii (by decide)
  | .array (item :: items), regular, level => by
    rw [Regular, RegularItems] at regular
    have first := wellFormed_writeAt wellFormed item regular.1 (level + 1)
    have others := wellFormed_writeItems wellFormed items regular.2 level
    have line := wellFormed_lineStart wellFormed
    have opens : Bytes.WellFormed [ascii '['] := Bytes.wellFormed_singleton (by decide)
    have closes : Bytes.WellFormed [ascii ']'] := Bytes.wellFormed_singleton (by decide)
    rw [writeAt]
    exact ((((opens.append (line _)).append first).append others).append (line _)).append closes
  | .object ((key, value) :: members), regular, level => by
    rw [Regular, RegularMembers] at regular
    have name := wellFormed_writeText regular.1
    have first := wellFormed_writeAt wellFormed value regular.2.1 (level + 1)
    have others := wellFormed_writeMembers wellFormed members regular.2.2 level
    have line := wellFormed_lineStart wellFormed
    have opens : Bytes.WellFormed [ascii '\x7b'] := Bytes.wellFormed_singleton (by decide)
    have mark : Bytes.WellFormed [ascii ':', ascii ' '] := Bytes.wellFormed_of_ascii (by decide)
    have closes : Bytes.WellFormed [ascii '\x7d'] := Bytes.wellFormed_singleton (by decide)
    rw [writeAt]
    exact ((((((opens.append (line _)).append name).append mark).append first).append
      others).append (line _)).append closes

/-- Written items are well-formed when their texts and the indentation are. -/
theorem wellFormed_writeItems (wellFormed : Bytes.WellFormed indent) :
    ∀ (items : List Value), RegularItems items → ∀ level,
      Bytes.WellFormed (writeItems indent level items)
  | [], _, _ => by
    rw [writeItems]
    exact Bytes.wellFormed_nil
  | item :: items, regular, level => by
    rw [RegularItems] at regular
    have first := wellFormed_writeAt wellFormed item regular.1 (level + 1)
    have others := wellFormed_writeItems wellFormed items regular.2 level
    have comma : Bytes.WellFormed [ascii ','] := Bytes.wellFormed_singleton (by decide)
    rw [writeItems]
    exact ((comma.append (wellFormed_lineStart wellFormed _)).append first).append others

/-- Written members are well-formed when their texts and the indentation are. -/
theorem wellFormed_writeMembers (wellFormed : Bytes.WellFormed indent) :
    ∀ (members : List (Bytes × Value)), RegularMembers members → ∀ level,
      Bytes.WellFormed (writeMembers indent level members)
  | [], _, _ => by
    rw [writeMembers]
    exact Bytes.wellFormed_nil
  | (key, value) :: members, regular, level => by
    rw [RegularMembers] at regular
    have name := wellFormed_writeText regular.1
    have first := wellFormed_writeAt wellFormed value regular.2.1 (level + 1)
    have others := wellFormed_writeMembers wellFormed members regular.2.2 level
    have comma : Bytes.WellFormed [ascii ','] := Bytes.wellFormed_singleton (by decide)
    have mark : Bytes.WellFormed [ascii ':', ascii ' '] := Bytes.wellFormed_of_ascii (by decide)
    rw [writeMembers]
    exact ((((comma.append (wellFormed_lineStart wellFormed _)).append name).append mark).append
      first).append others

end

end Value

end StableFleet.Json
