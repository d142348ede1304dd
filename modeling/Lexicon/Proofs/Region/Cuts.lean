import Lexicon.Proofs.Region.Grammar

/-!
# Cut and altered regions

What becomes of a region when its end is cut off, when bytes follow it, or when bytes are changed that
no reader looks at. A region is known by its header without the flags and by its records. A cut before
the end of the last record is a defect of the part that it hits: inside a record it is always reported
as the overrun of that record, even where it splits a character.
-/

set_option autoImplicit false

namespace Lexicon.Region

/-! ## Where records end -/

/-- How many bytes the record of an entry takes. -/
def Entry.recordSize (entry : Entry) : Nat :=
  2 + (Text.encodeUtf8 entry.word).length

def sizeOfRecords : List Entry → Nat
  | [] => 0
  | entry :: entries => entry.recordSize + sizeOfRecords entries

/-- The position behind the records of some entries, the first of which follows the header. -/
def recordsEnd (bytes : List UInt8) (entries : List Entry) : Nat :=
  field bytes 8 4 + sizeOfRecords entries

theorem sizeOfRecords_append (left right : List Entry) :
    sizeOfRecords (left ++ right) = sizeOfRecords left + sizeOfRecords right := by
  induction left with
  | nil => exact (Nat.zero_add _).symm
  | cons entry left ih => rw [List.cons_append, sizeOfRecords, sizeOfRecords, ih, Nat.add_assoc]

theorem IsRecord.length_eq {entry : Entry} {bytes : List UInt8} (isRecord : IsRecord entry bytes) :
    bytes.length = entry.recordSize := by
  cases isRecord with
  | intro _ =>
    rw [List.length_cons, List.length_cons, Nat.add_comm]
    exact Nat.add_right_comm 1 _ 1

theorem AreRecords.length_eq {entries : List Entry} {records : List UInt8}
    (spelled : AreRecords entries records) : records.length = sizeOfRecords entries := by
  induction spelled with
  | nil => rfl
  | cons first _ ih =>
    rw [List.length_append, first.length_eq, ih]
    rfl

theorem AreRecords.exists_append {left right : List Entry} {records : List UInt8}
    (spelled : AreRecords (left ++ right) records) :
    ∃ first later, records = first ++ later ∧ AreRecords left first ∧ AreRecords right later := by
  induction left generalizing records with
  | nil => exact ⟨[], records, rfl, .nil, spelled⟩
  | cons entry left ih =>
    cases spelled with
    | @cons _ _ head tail isRecord others =>
      obtain ⟨first, later, rfl, leftSpelled, rightSpelled⟩ := ih others
      exact ⟨head ++ first, later, (List.append_assoc _ _ _).symm, .cons isRecord leftSpelled,
        rightSpelled⟩

theorem exists_index_of_lt {entries : List Entry} {position : Nat}
    (inside : position < sizeOfRecords entries) :
    ∃ index, index < entries.length ∧ sizeOfRecords (entries.take index) ≤ position ∧
      position < sizeOfRecords (entries.take (index + 1)) := by
  induction entries using List.reverseRecOn with
  | nil => cases inside
  | append_singleton entries last ih =>
    by_cases earlier : position < sizeOfRecords entries
    · obtain ⟨index, among, reached, before⟩ := ih earlier
      refine ⟨index, ?_, ?_, ?_⟩
      · rw [List.length_append]
        omega
      · rw [List.take_append_of_le_length (by omega)]
        exact reached
      · rw [List.take_append_of_le_length (by omega)]
        exact before
    · refine ⟨entries.length, ?_, ?_, ?_⟩
      · rw [List.length_append, List.length_singleton]
        exact Nat.lt_succ_self _
      · rw [List.take_left]
        omega
      · have whole : (entries ++ [last]).take (entries.length + 1) = entries ++ [last] :=
          List.take_of_length_le (Nat.le_of_eq List.length_append)
        rw [whole]
        exact inside

/-! ## Bytes that count -/

private theorem slice_congr {left right : List UInt8} {start width : Nat}
    (same : ∀ position, start ≤ position → position < start + width →
      left[position]? = right[position]?) :
    (left.drop start).take width = (right.drop start).take width := by
  apply List.ext_getElem?
  intro place
  rw [List.getElem?_take, List.getElem?_take]
  split
  · rw [List.getElem?_drop, List.getElem?_drop]
    exact same (start + place) (by omega) (by omega)
  · rfl

theorem field_congr {left right : List UInt8} {start width : Nat}
    (same : ∀ position, start ≤ position → position < start + width →
      left[position]? = right[position]?) : field left start width = field right start width := by
  rw [field, field, slice_congr same]

theorem field_take {bytes : List UInt8} {start width n : Nat} (inside : start + width ≤ n) :
    field (bytes.take n) start width = field bytes start width := by
  apply field_congr
  intro position _ below
  exact List.getElem?_take_of_lt (by omega)

/-- The positions of a region that no reader looks at, though they lie before its records: the flags,
and the padding behind the header. -/
def IsFree (bytes : List UInt8) (position : Nat) : Prop :=
  6 ≤ position ∧ position < 8 ∨ 16 ≤ position ∧ position < field bytes 8 4

/-- Bytes that are those of a region up to the end of its last record, free positions apart, are a
region with the same entries. -/
theorem Encodes.congr {bytes other : List UInt8} {entries : List Entry}
    (encodes : Encodes bytes entries) (long : recordsEnd bytes entries ≤ other.length)
    (same : ∀ position < recordsEnd bytes entries, ¬ IsFree bytes position →
      other[position]? = bytes[position]?) : Encodes other entries := by
  have least := encodes.header.least
  rw [recordsEnd] at long same
  have sameField {start width : Nat} (inHeader : start + width ≤ 16)
      (noFlags : start + width ≤ 6 ∨ 8 ≤ start) :
      field other start width = field bytes start width := by
    apply field_congr
    intro position _ _
    exact same position (by omega) (by rw [IsFree]; omega)
  have magical : field other 0 4 = field bytes 0 4 := sameField (by omega) (by omega)
  have version : field other 4 2 = field bytes 4 2 := sameField (by omega) (by omega)
  have size : field other 8 4 = field bytes 8 4 := sameField (by omega) (by omega)
  have count : field other 12 4 = field bytes 12 4 := sameField (by omega) (by omega)
  refine ⟨⟨?_, ?_, ?_, ?_, ?_, ?_⟩, ?_, ?_⟩
  · omega
  · rw [magical]
    exact encodes.header.magical
  · rw [version]
    exact encodes.header.oldest
  · rw [version]
    exact encodes.header.newest
  · rw [size]
    exact least
  · rw [size]
    omega
  · rw [count]
    exact encodes.counted
  · obtain ⟨records, rest, split, spelled⟩ := encodes.spelled
    have sameRecords : (other.drop (field bytes 8 4)).take (sizeOfRecords entries) =
        (bytes.drop (field bytes 8 4)).take (sizeOfRecords entries) := by
      apply slice_congr
      intro position above below
      exact same position below (by rw [IsFree]; omega)
    rw [split, List.take_left' spelled.length_eq] at sameRecords
    refine ⟨records, (other.drop (field bytes 8 4)).drop (sizeOfRecords entries), ?_, spelled⟩
    rw [size, ← sameRecords, List.take_append_drop]

theorem Encodes.recordsEnd_le {bytes : List UInt8} {entries : List Entry}
    (encodes : Encodes bytes entries) : recordsEnd bytes entries ≤ bytes.length := by
  obtain ⟨records, rest, split, spelled⟩ := encodes.spelled
  have within := encodes.header.within
  have sized := congrArg List.length split
  rw [List.length_drop, List.length_append, spelled.length_eq] at sized
  rw [recordsEnd]
  omega

/-! ## Cuts -/

/-- What is wrong with the first `n` bytes of a region that holds some entries. -/
inductive CutDefect (bytes : List UInt8) (entries : List Entry) (n : Nat) : Defect → Prop where
  | inHeader : n < 16 → CutDefect bytes entries n (.truncated n)
  | inPadding : 16 ≤ n → n < field bytes 8 4 →
      CutDefect bytes entries n (.headerSize (field bytes 8 4) n)
  /-- The record of the entry with that index is the first that is not whole. -/
  | inRecord {index : Nat} : index < entries.length →
      recordsEnd bytes (entries.take index) ≤ n →
      n < recordsEnd bytes (entries.take (index + 1)) →
      CutDefect bytes entries n (.entryOverrun index)

theorem exists_cutDefect {bytes : List UInt8} {entries : List Entry} {n : Nat}
    (short : n < recordsEnd bytes entries) : ∃ defect, CutDefect bytes entries n defect := by
  by_cases header : n < 16
  · exact ⟨_, .inHeader header⟩
  by_cases padding : n < field bytes 8 4
  · exact ⟨_, .inPadding (by omega) padding⟩
  · rw [recordsEnd] at short
    have inside : n - field bytes 8 4 < sizeOfRecords entries := by omega
    obtain ⟨index, among, reached, before⟩ := exists_index_of_lt inside
    refine ⟨_, .inRecord among ?_ ?_⟩
    · rw [recordsEnd]
      omega
    · rw [recordsEnd]
      omega

theorem IsRecord.overruns_take {entry : Entry} {bytes : List UInt8} {n : Nat}
    (isRecord : IsRecord entry bytes) (short : n < bytes.length) : Overruns (bytes.take n) := by
  cases isRecord with
  | @intro word frequency length sized =>
    match n with
    | 0 => exact .noFrequency
    | 1 => exact .noLength
    | n + 2 =>
      rw [List.length_cons, List.length_cons] at short
      apply Overruns.noWord
      rw [List.length_take, sized]
      omega

/-- Records that end in the midst of one: those before it are whole, and it overruns. -/
theorem AreRecords.exists_cut {entries : List Entry} {records : List UInt8} {index n : Nat}
    (spelled : AreRecords entries records) (among : index < entries.length)
    (reached : sizeOfRecords (entries.take index) ≤ n)
    (before : n < sizeOfRecords (entries.take (index + 1))) (rest : List UInt8) :
    ∃ whole part, (records ++ rest).take n = whole ++ part ∧
      AreRecords (entries.take index) whole ∧ Overruns part := by
  have split : entries = entries.take index ++ entries[index] :: entries.drop (index + 1) := by
    rw [List.getElem_cons_drop, List.take_append_drop]
  rw [split] at spelled
  obtain ⟨whole, more, rfl, wholeSpelled, moreSpelled⟩ := spelled.exists_append
  cases moreSpelled with
  | @cons _ _ first later isRecord _ =>
    have room : n - whole.length < first.length := by
      rw [← List.take_append_getElem among, sizeOfRecords_append] at before
      have last : sizeOfRecords [entries[index]] = entries[index].recordSize := Nat.add_zero _
      rw [wholeSpelled.length_eq, isRecord.length_eq]
      omega
    have start : whole.length ≤ n := by
      rw [wholeSpelled.length_eq]
      exact reached
    refine ⟨whole, first.take (n - whole.length), ?_, wholeSpelled, isRecord.overruns_take room⟩
    rw [List.append_assoc, List.append_assoc, List.take_append, List.take_of_length_le start,
      List.take_append_of_le_length (Nat.le_of_lt room)]

theorem SoundHeader.take {bytes : List UInt8} {n : Nat} (sound : SoundHeader bytes)
    (within : n ≤ bytes.length) (whole : field bytes 8 4 ≤ n) : SoundHeader (bytes.take n) := by
  have least := sound.least
  have length : (bytes.take n).length = n := List.length_take_of_le within
  constructor
  · omega
  · rw [field_take (by omega)]
    exact sound.magical
  · rw [field_take (by omega)]
    exact sound.oldest
  · rw [field_take (by omega)]
    exact sound.newest
  · rw [field_take (by omega)]
    exact least
  · rw [field_take (by omega), length]
    exact whole

theorem SoundHeader.headerDefect_take {bytes : List UInt8} {n : Nat} (sound : SoundHeader bytes)
    (within : n ≤ bytes.length) (short : n < 16) :
    HeaderDefect (bytes.take n) (.truncated n) := by
  have length : (bytes.take n).length = n := List.length_take_of_le within
  -- The magic number is looked at as soon as it is there, before the rest of the header is missed.
  by_cases four : n < 4
  · have defective : HeaderDefect (bytes.take n) (.truncated (bytes.take n).length) :=
      .noMagic (by omega)
    rwa [length] at defective
  · have magical : field (bytes.take n) 0 4 = magic := by
      rw [field_take (by omega), sound.magical]
    have defective := HeaderDefect.noHeader (by omega) magical (by omega)
    rwa [length] at defective

theorem SoundHeader.headerDefect_take_of_padding {bytes : List UInt8} {n : Nat}
    (sound : SoundHeader bytes) (within : n ≤ bytes.length) (long : 16 ≤ n)
    (short : n < field bytes 8 4) :
    HeaderDefect (bytes.take n) (.headerSize (field bytes 8 4) n) := by
  have length : (bytes.take n).length = n := List.length_take_of_le within
  have magical : field (bytes.take n) 0 4 = field bytes 0 4 := field_take (by omega)
  have version : field (bytes.take n) 4 2 = field bytes 4 2 := field_take (by omega)
  have size : field (bytes.take n) 8 4 = field bytes 8 4 := field_take (by omega)
  have defective : HeaderDefect (bytes.take n)
      (.headerSize (field (bytes.take n) 8 4) (bytes.take n).length) :=
    .badSize (by omega) (magical.trans sound.magical) (by rw [version]; exact sound.oldest)
      (by rw [version]; exact sound.newest) (by omega)
  rwa [length, size] at defective

theorem Encodes.entryDefect_take {bytes : List UInt8} {entries : List Entry} {index n : Nat}
    (encodes : Encodes bytes entries) (among : index < entries.length)
    (reached : recordsEnd bytes (entries.take index) ≤ n)
    (before : n < recordsEnd bytes (entries.take (index + 1))) :
    EntryDefect 0 entries.length ((bytes.take n).drop (field bytes 8 4)) (.entryOverrun index) := by
  rw [recordsEnd] at reached before
  obtain ⟨records, rest, split, spelled⟩ := encodes.spelled
  obtain ⟨whole, part, cut, wholeSpelled, overruns⟩ :=
    spelled.exists_cut among (n := n - field bytes 8 4) (by omega) (by omega) rest
  have counted : (entries.take index).length = index := List.length_take_of_le (Nat.le_of_lt among)
  have fewer : (entries.take index).length < entries.length := counted.symm ▸ among
  rw [List.drop_take, split]
  have defective : EntryDefect 0 entries.length _ _ := .overrun wholeSpelled cut fewer overruns
  rwa [counted, Nat.zero_add] at defective

theorem CutDefect.hasDefect {bytes : List UInt8} {entries : List Entry} {n : Nat} {defect : Defect}
    (cut : CutDefect bytes entries n defect) (encodes : Encodes bytes entries)
    (within : n ≤ bytes.length) : HasDefect (bytes.take n) defect := by
  have sound := encodes.header
  cases cut with
  | inHeader short => exact .header (sound.headerDefect_take within short)
  | inPadding long short => exact .header (sound.headerDefect_take_of_padding within long short)
  | inRecord among reached before =>
    have behind : field bytes 8 4 ≤ n := Nat.le_trans (Nat.le_add_right _ _) reached
    have least := sound.least
    have defective := encodes.entryDefect_take among reached before
    refine .entry (sound.take within behind) ?_
    rwa [field_take (by omega), field_take (by omega), ← encodes.counted]

theorem Encodes.read_congr {bytes other : List UInt8} {entries : List Entry}
    (encodes : Encodes bytes entries) (long : recordsEnd bytes entries ≤ other.length)
    (same : ∀ position < recordsEnd bytes entries, ¬ IsFree bytes position →
      other[position]? = bytes[position]?) : read other = .ok (.ofList (wordsOf entries)) :=
  read_eq_ok_iff.2 ⟨entries, encodes.congr long same, rfl⟩

theorem Encodes.read_take_of_recordsEnd_le {bytes : List UInt8} {entries : List Entry} {n : Nat}
    (encodes : Encodes bytes entries) (within : n ≤ bytes.length)
    (enough : recordsEnd bytes entries ≤ n) :
    read (bytes.take n) = .ok (.ofList (wordsOf entries)) := by
  apply encodes.read_congr
  · rw [List.length_take_of_le within]
    exact enough
  · intro position below _
    exact List.getElem?_take_of_lt (Nat.lt_of_lt_of_le below enough)

/-- A region is read from its header and its records alone. Up to the end of the last record every cut
has its own defect, and from there on none matters; what follows a region, its flags and its padding
may be anything. -/
theorem read_cuts {bytes : List UInt8} {table : WordTable} (accepted : read bytes = .ok table) :
    ∃ entries, Encodes bytes entries ∧ recordsEnd bytes entries ≤ bytes.length ∧
      (∀ n ≤ bytes.length,
        (read (bytes.take n) = .ok table ↔ recordsEnd bytes entries ≤ n) ∧
        ∀ defect, read (bytes.take n) = .error defect ↔ CutDefect bytes entries n defect) ∧
      (∀ more, read (bytes ++ more) = .ok table) ∧
      ∀ other, other.length = bytes.length →
        (∀ position, ¬ IsFree bytes position → other[position]? = bytes[position]?) →
          read other = .ok table := by
  obtain ⟨entries, encodes, rfl⟩ := read_eq_ok_iff.1 accepted
  have long := encodes.recordsEnd_le
  refine ⟨entries, encodes, long, ?_, ?_, ?_⟩
  · intro n within
    have refuses {defect : Defect} (cut : CutDefect bytes entries n defect) :
        read (bytes.take n) = .error defect :=
      read_eq_error_iff.2 (cut.hasDefect encodes within)
    constructor
    · refine ⟨?_, encodes.read_take_of_recordsEnd_le within⟩
      intro reads
      by_contra short
      obtain ⟨defect, cut⟩ := exists_cutDefect (Nat.lt_of_not_le short)
      rw [refuses cut] at reads
      cases reads
    · intro defect
      refine ⟨?_, refuses⟩
      intro refused
      have short : n < recordsEnd bytes entries := by
        by_contra enough
        rw [encodes.read_take_of_recordsEnd_le within (Nat.le_of_not_lt enough)] at refused
        cases refused
      obtain ⟨other, cut⟩ := exists_cutDefect short
      rw [refuses cut] at refused
      cases refused
      exact cut
  · intro more
    apply encodes.read_congr
    · rw [List.length_append]
      omega
    · intro position below _
      exact List.getElem?_append_left (Nat.lt_of_lt_of_le below long)
  · intro other sized same
    apply encodes.read_congr
    · rw [sized]
      exact long
    · intro position _ counts
      exact same position counts

/-- Two bytes of padding, and a record that ends in a letter of two bytes. -/
def paddedRegion : List UInt8 :=
  [0x9B, 0xC1, 0x3A, 0xFE, 0, 2, 0, 0, 0, 0, 0, 18, 0, 0, 0, 2, 0xAA, 0xBB,
    5, 2, 0xC3, 0xA9, 7, 1, 0x61]

theorem read_cuts_paddedRegion :
    read paddedRegion = .ok (.ofList [("\u00e9", 5), ("a", 7)]) ∧
      read (paddedRegion.take 21) = .error (.entryOverrun 0) ∧
      read (paddedRegion.take 17) = .error (.headerSize 18 17) ∧
      read (paddedRegion ++ [0xC3]) = .ok (.ofList [("\u00e9", 5), ("a", 7)]) ∧
      read (paddedRegion.set 17 0) = .ok (.ofList [("\u00e9", 5), ("a", 7)]) := by
  have accepted : read paddedRegion = .ok (.ofList [("\u00e9", 5), ("a", 7)]) := by decide
  obtain ⟨entries, encodes, _, cuts, followed, altered⟩ := read_cuts accepted
  have entered : readEntries 0 2 (paddedRegion.drop 18) = .ok entries :=
    readEntries_eq_ok_iff.2 ⟨encodes.counted, encodes.spelled⟩
  have computed : readEntries 0 2 (paddedRegion.drop 18) =
      .ok [⟨"\u00e9", 5⟩, ⟨"a", 7⟩] := by decide
  cases computed.symm.trans entered
  refine ⟨accepted, ?_, ?_, followed [0xC3], ?_⟩
  · exact ((cuts 21 (by decide)).2 _).2 (.inRecord (by decide) (by decide) (by decide))
  · exact ((cuts 17 (by decide)).2 _).2 (.inPadding (by decide) (by decide))
  · apply altered _ List.length_set
    intro position counts
    apply List.getElem?_set_ne
    rintro rfl
    exact counts (.inr (by decide))

end Lexicon.Region
