import Lexicon.Proofs.WordTable.Lookup
import Lexicon.Region.Reader

/-!
# The grammar of regions

Which byte strings are regions, and what is wrong with the others, said without the reader: records
stand one after the other from the end of the header on, and the first place where none stands
decides the defect. The reader accepts exactly the regions of this grammar and reports exactly its
defects.
-/

set_option autoImplicit false

namespace Lexicon.Region

/-! ## Records -/

/-- A frequency byte, a length byte and a word of that many bytes. -/
inductive IsRecord : Entry → List UInt8 → Prop where
  | intro {word : String} {frequency length : UInt8} :
      length.toNat = (Text.encodeUtf8 word).length →
      IsRecord ⟨word, frequency⟩ (frequency :: length :: Text.encodeUtf8 word)

/-- Records one after the other. -/
inductive AreRecords : List Entry → List UInt8 → Prop where
  | nil : AreRecords [] []
  | cons {entry : Entry} {entries : List Entry} {first later : List UInt8} :
      IsRecord entry first → AreRecords entries later →
      AreRecords (entry :: entries) (first ++ later)

/-- The bytes end before a record that starts with them does. -/
inductive Overruns : List UInt8 → Prop where
  | noFrequency : Overruns []
  | noLength {frequency : UInt8} : Overruns [frequency]
  | noWord {frequency length : UInt8} {rest : List UInt8} :
      rest.length < length.toNat → Overruns (frequency :: length :: rest)

/-- A record fits at the start of the bytes, but its word bytes encode no text. -/
inductive Garbles : List UInt8 → Prop where
  | intro {frequency length : UInt8} {raw rest : List UInt8} :
      raw.length = length.toNat → (∀ word, Text.encodeUtf8 word ≠ raw) →
      Garbles (frequency :: length :: (raw ++ rest))

/-- What is wrong with the first of `count` entries that cannot be decoded, if the numbering of the
entries starts with `index`. -/
inductive EntryDefect (index count : Nat) (bytes : List UInt8) : Defect → Prop where
  | overrun {entries : List Entry} {records rest : List UInt8} :
      AreRecords entries records → bytes = records ++ rest → entries.length < count →
      Overruns rest → EntryDefect index count bytes (.entryOverrun (index + entries.length))
  | invalid {entries : List Entry} {records rest : List UInt8} :
      AreRecords entries records → bytes = records ++ rest → entries.length < count →
      Garbles rest → EntryDefect index count bytes (.invalidWord (index + entries.length))

/-- Every record has at least the two bytes before its word. -/
theorem AreRecords.two_mul_length_le {entries : List Entry} {records : List UInt8}
    (spelled : AreRecords entries records) : 2 * entries.length ≤ records.length := by
  induction spelled with
  | nil => exact Nat.le_refl _
  | cons first _ ih =>
    cases first with
    | intro sized =>
      simp only [List.length_cons, List.length_append]
      omega

theorem takeRecord?_eq_none_iff {bytes : List UInt8} :
    takeRecord? bytes = none ↔ Overruns bytes := by
  constructor
  · intro refused
    match bytes with
    | [] => exact .noFrequency
    | [_] => exact .noLength
    | frequency :: length :: rest =>
      simp only [takeRecord?, ite_eq_right_iff, reduceCtorEq, imp_false, List.length_take] at refused
      exact .noWord (by omega)
  · intro overruns
    cases overruns with
    | noFrequency => rfl
    | noLength => rfl
    | noWord short =>
      simp only [takeRecord?, List.length_take]
      rw [if_neg (by omega)]

theorem takeRecord?_eq_some_iff {bytes raw rest : List UInt8} {frequency : UInt8} :
    takeRecord? bytes = some (frequency, raw, rest) ↔
      ∃ length : UInt8, raw.length = length.toNat ∧
        bytes = frequency :: length :: (raw ++ rest) := by
  constructor
  · intro taken
    match bytes with
    | [] => cases taken
    | [_] => cases taken
    | held :: length :: tail =>
      simp only [takeRecord?] at taken
      split at taken
      · next whole =>
        cases taken
        exact ⟨length, whole, by rw [List.take_append_drop]⟩
      · cases taken
  · intro ⟨length, sized, same⟩
    subst same
    simp only [takeRecord?]
    rw [List.take_left' sized, List.drop_left' sized, if_pos sized]

/-- The reader takes records off the front and goes on behind them. -/
theorem readEntries_append {entries : List Entry} {records : List UInt8}
    (spelled : AreRecords entries records) (index count : Nat) (rest : List UInt8) :
    readEntries index (entries.length + count) (records ++ rest) =
      (readEntries (index + entries.length) count rest).map (entries ++ ·) := by
  induction spelled generalizing index with
  | nil =>
    rw [List.length_nil, Nat.zero_add, Nat.add_zero, List.nil_append]
    cases readEntries index count rest <;> rfl
  | @cons entry later first others isRecord _ ih =>
    cases isRecord with
    | @intro word frequency length sized =>
      have taken : takeRecord?
          (frequency :: length :: Text.encodeUtf8 word ++ others ++ rest) =
            some (frequency, Text.encodeUtf8 word, others ++ rest) :=
        takeRecord?_eq_some_iff.2 ⟨length, sized.symm, by simp⟩
      have counted : (⟨word, frequency⟩ :: later : List Entry).length + count =
          later.length + count + 1 := by
        rw [List.length_cons]; omega
      have numbered : index + (⟨word, frequency⟩ :: later : List Entry).length =
          index + 1 + later.length := by
        rw [List.length_cons]; omega
      rw [counted, numbered, readEntries]
      simp only [taken, Text.decodeUtf8?_encodeUtf8, ih]
      cases readEntries (index + 1 + later.length) count rest <;> rfl

theorem areRecords_of_readEntries {index count : Nat} {bytes : List UInt8} {entries : List Entry}
    (accepted : readEntries index count bytes = .ok entries) :
    entries.length = count ∧
      ∃ records rest, bytes = records ++ rest ∧ AreRecords entries records := by
  induction count generalizing index bytes entries with
  | zero =>
    cases accepted
    exact ⟨rfl, [], bytes, rfl, .nil⟩
  | succ count ih =>
    rw [readEntries] at accepted
    split at accepted
    · cases accepted
    · next frequency raw rest taken =>
      obtain ⟨length, sized, same⟩ := takeRecord?_eq_some_iff.1 taken
      split at accepted
      · cases accepted
      · next word decoded =>
        split at accepted
        · cases accepted
        · next later read =>
          cases accepted
          obtain ⟨counted, records, trailing, split, spelled⟩ := ih read
          have encoded := Text.encodeUtf8_of_decodeUtf8? decoded
          have first : IsRecord ⟨word, frequency⟩
              (frequency :: length :: Text.encodeUtf8 word) :=
            .intro (by rw [encoded, sized])
          refine ⟨by rw [List.length_cons, counted], _, trailing, ?_, .cons first spelled⟩
          rw [same, split, encoded]
          simp

theorem readEntries_eq_ok_iff {index count : Nat} {bytes : List UInt8} {entries : List Entry} :
    readEntries index count bytes = .ok entries ↔
      entries.length = count ∧
        ∃ records rest, bytes = records ++ rest ∧ AreRecords entries records := by
  constructor
  · exact areRecords_of_readEntries
  · intro ⟨counted, records, rest, same, spelled⟩
    subst counted same
    have read := readEntries_append spelled index 0 rest
    rw [Nat.add_zero, readEntries] at read
    rw [read, Except.map, List.append_nil]

theorem garbles_iff {bytes : List UInt8} :
    Garbles bytes ↔ ∃ frequency raw rest,
      takeRecord? bytes = some (frequency, raw, rest) ∧ Text.decodeUtf8? raw = none := by
  constructor
  · intro garbles
    cases garbles with
    | @intro frequency length raw rest sized noText =>
      refine ⟨frequency, raw, rest, takeRecord?_eq_some_iff.2 ⟨length, sized, rfl⟩, ?_⟩
      rw [Option.eq_none_iff_forall_ne_some]
      intro word decoded
      exact noText word (Text.encodeUtf8_of_decodeUtf8? decoded)
  · intro ⟨frequency, raw, rest, taken, undecoded⟩
    obtain ⟨length, sized, same⟩ := takeRecord?_eq_some_iff.1 taken
    subst same
    refine .intro sized ?_
    intro word encoded
    rw [Text.decodeUtf8?_eq_some_iff.2 encoded] at undecoded
    cases undecoded

theorem EntryDefect.cons {index count : Nat} {entry : Entry} {first rest : List UInt8}
    {defect : Defect} (isRecord : IsRecord entry first)
    (later : EntryDefect (index + 1) count rest defect) :
    EntryDefect index (count + 1) (first ++ rest) defect := by
  cases later with
  | @overrun entries records trailing spelled split fewer overruns =>
    have shifted : index + 1 + entries.length = index + (entry :: entries).length := by
      rw [List.length_cons]; omega
    rw [shifted]
    exact .overrun (.cons isRecord spelled) (by rw [split, List.append_assoc])
      (Nat.succ_lt_succ fewer) overruns
  | @invalid entries records trailing spelled split fewer garbles =>
    have shifted : index + 1 + entries.length = index + (entry :: entries).length := by
      rw [List.length_cons]; omega
    rw [shifted]
    exact .invalid (.cons isRecord spelled) (by rw [split, List.append_assoc])
      (Nat.succ_lt_succ fewer) garbles

theorem entryDefect_of_readEntries {index count : Nat} {bytes : List UInt8} {defect : Defect}
    (refused : readEntries index count bytes = .error defect) :
    EntryDefect index count bytes defect := by
  induction count generalizing index bytes with
  | zero => cases refused
  | succ count ih =>
    rw [readEntries] at refused
    split at refused
    · next overrun =>
      cases refused
      exact .overrun .nil rfl (Nat.succ_pos _) (takeRecord?_eq_none_iff.1 overrun)
    · next frequency raw rest taken =>
      obtain ⟨length, sized, same⟩ := takeRecord?_eq_some_iff.1 taken
      split at refused
      · next undecoded =>
        cases refused
        exact .invalid .nil rfl (Nat.succ_pos _) (garbles_iff.2 ⟨_, _, _, taken, undecoded⟩)
      · next word decoded =>
        split at refused
        · next later read =>
          cases refused
          have encoded := Text.encodeUtf8_of_decodeUtf8? decoded
          have first : IsRecord ⟨word, frequency⟩
              (frequency :: length :: Text.encodeUtf8 word) :=
            .intro (by rw [encoded, sized])
          have split : bytes = (frequency :: length :: Text.encodeUtf8 word) ++ rest := by
            rw [same, encoded]; rfl
          rw [split]
          exact (ih read).cons first
        · cases refused

theorem readEntries_of_entryDefect {index count : Nat} {bytes : List UInt8} {defect : Defect}
    (defective : EntryDefect index count bytes defect) :
    readEntries index count bytes = .error defect := by
  cases defective with
  | @overrun entries records rest spelled same fewer overruns =>
    obtain ⟨more, rfl⟩ := Nat.exists_eq_add_of_lt fewer
    rw [same, Nat.add_assoc, readEntries_append spelled, readEntries,
      takeRecord?_eq_none_iff.2 overruns]
    rfl
  | @invalid entries records rest spelled same fewer garbles =>
    obtain ⟨more, rfl⟩ := Nat.exists_eq_add_of_lt fewer
    obtain ⟨frequency, raw, trailing, taken, undecoded⟩ := garbles_iff.1 garbles
    rw [same, Nat.add_assoc, readEntries_append spelled, readEntries, taken]
    simp only [undecoded]
    rfl

theorem readEntries_eq_error_iff {index count : Nat} {bytes : List UInt8} {defect : Defect} :
    readEntries index count bytes = .error defect ↔ EntryDefect index count bytes defect :=
  ⟨entryDefect_of_readEntries, readEntries_of_entryDefect⟩

/-! ## Headers -/

/-- A whole header with the magic number, a supported version and a size that fits. -/
structure SoundHeader (bytes : List UInt8) : Prop where
  whole : 16 ≤ bytes.length
  magical : field bytes 0 4 = magic
  oldest : 2 ≤ field bytes 4 2
  newest : field bytes 4 2 ≤ 4
  least : 16 ≤ field bytes 8 4
  within : field bytes 8 4 ≤ bytes.length

/-- What is wrong with the header: of several faults the one that stands first here. -/
inductive HeaderDefect (bytes : List UInt8) : Defect → Prop where
  | noMagic : bytes.length < 4 → HeaderDefect bytes (.truncated bytes.length)
  | badMagic : 4 ≤ bytes.length → field bytes 0 4 ≠ magic →
      HeaderDefect bytes (.badMagic (field bytes 0 4))
  | noHeader : 4 ≤ bytes.length → field bytes 0 4 = magic → bytes.length < 16 →
      HeaderDefect bytes (.truncated bytes.length)
  | badVersion : 16 ≤ bytes.length → field bytes 0 4 = magic →
      ¬ (2 ≤ field bytes 4 2 ∧ field bytes 4 2 ≤ 4) →
      HeaderDefect bytes (.unsupportedVersion (field bytes 4 2))
  | badSize : 16 ≤ bytes.length → field bytes 0 4 = magic →
      2 ≤ field bytes 4 2 → field bytes 4 2 ≤ 4 →
      field bytes 8 4 < 16 ∨ bytes.length < field bytes 8 4 →
      HeaderDefect bytes (.headerSize (field bytes 8 4) bytes.length)

theorem isSupported_eq_true_iff {version : Nat} :
    isSupported version = true ↔ 2 ≤ version ∧ version ≤ 4 := by
  rw [isSupported, Bool.and_eq_true, decide_eq_true_eq, decide_eq_true_eq]

theorem readHeader_of_soundHeader {bytes : List UInt8} (sound : SoundHeader bytes) :
    readHeader bytes = .ok ⟨field bytes 8 4, field bytes 12 4⟩ := by
  have whole := sound.whole
  have supported := isSupported_eq_true_iff.2 ⟨sound.oldest, sound.newest⟩
  have least := sound.least
  have within := sound.within
  rw [readHeader, if_neg (by omega), if_neg (fun other => other sound.magical),
    if_neg (by rw [leastHeader]; omega), if_neg (by rw [supported]; decide),
    if_neg (by rw [leastHeader]; omega)]

theorem readHeader_of_headerDefect {bytes : List UInt8} {defect : Defect}
    (defective : HeaderDefect bytes defect) : readHeader bytes = .error defect := by
  cases defective with
  | noMagic short => rw [readHeader, if_pos short]
  | badMagic long other => rw [readHeader, if_neg (by omega), if_pos other]
  | noHeader long same short =>
    rw [readHeader, if_neg (by omega), if_neg (fun other => other same),
      if_pos (show bytes.length < leastHeader from short)]
  | badVersion whole same unsupported =>
    have refused : isSupported (field bytes 4 2) = false :=
      Bool.eq_false_iff.2 fun supported => unsupported (isSupported_eq_true_iff.1 supported)
    rw [readHeader, if_neg (by omega), if_neg (fun other => other same),
      if_neg (by rw [leastHeader]; omega), if_pos refused]
  | badSize whole same oldest newest outside =>
    have supported := isSupported_eq_true_iff.2 ⟨oldest, newest⟩
    rw [readHeader, if_neg (by omega), if_neg (fun other => other same),
      if_neg (by rw [leastHeader]; omega), if_neg (by rw [supported]; decide)]
    exact if_pos outside

theorem soundHeader_or_headerDefect (bytes : List UInt8) :
    SoundHeader bytes ∨ ∃ defect, HeaderDefect bytes defect := by
  by_cases four : bytes.length < 4
  · exact .inr ⟨_, .noMagic four⟩
  by_cases magical : field bytes 0 4 = magic
  · by_cases sixteen : bytes.length < 16
    · exact .inr ⟨_, .noHeader (by omega) magical sixteen⟩
    by_cases supported : 2 ≤ field bytes 4 2 ∧ field bytes 4 2 ≤ 4
    · by_cases outside : field bytes 8 4 < 16 ∨ bytes.length < field bytes 8 4
      · exact .inr ⟨_, .badSize (by omega) magical supported.1 supported.2 outside⟩
      · exact .inl ⟨by omega, magical, supported.1, supported.2, by omega, by omega⟩
    · exact .inr ⟨_, .badVersion (by omega) magical supported⟩
  · exact .inr ⟨_, .badMagic (by omega) magical⟩

theorem readHeader_eq_ok_iff {bytes : List UInt8} {header : Header} :
    readHeader bytes = .ok header ↔
      SoundHeader bytes ∧ header = ⟨field bytes 8 4, field bytes 12 4⟩ := by
  constructor
  · intro accepted
    rcases soundHeader_or_headerDefect bytes with sound | ⟨defect, defective⟩
    · rw [readHeader_of_soundHeader sound] at accepted
      cases accepted
      exact ⟨sound, rfl⟩
    · rw [readHeader_of_headerDefect defective] at accepted
      cases accepted
  · intro ⟨sound, same⟩
    rw [readHeader_of_soundHeader sound, same]

theorem readHeader_eq_error_iff {bytes : List UInt8} {defect : Defect} :
    readHeader bytes = .error defect ↔ HeaderDefect bytes defect := by
  constructor
  · intro refused
    rcases soundHeader_or_headerDefect bytes with sound | ⟨other, defective⟩
    · rw [readHeader_of_soundHeader sound] at refused
      cases refused
    · rw [readHeader_of_headerDefect defective] at refused
      cases refused
      exact defective
  · exact readHeader_of_headerDefect

/-! ## Regions -/

/-- The bytes are a region that holds the given entries. What follows the last record is free. -/
structure Encodes (bytes : List UInt8) (entries : List Entry) : Prop where
  header : SoundHeader bytes
  counted : entries.length = field bytes 12 4
  spelled : ∃ records rest,
    bytes.drop (field bytes 8 4) = records ++ rest ∧ AreRecords entries records

/-- What is wrong with a byte string that is no region. -/
inductive HasDefect (bytes : List UInt8) : Defect → Prop where
  | header {defect : Defect} : HeaderDefect bytes defect → HasDefect bytes defect
  | entry {defect : Defect} : SoundHeader bytes →
      EntryDefect 0 (field bytes 12 4) (bytes.drop (field bytes 8 4)) defect →
      HasDefect bytes defect

def wordsOf (entries : List Entry) : List (String × Nat) :=
  entries.map fun entry => (entry.word, entry.frequency.toNat)

theorem read_eq_ok_iff {bytes : List UInt8} {table : WordTable} :
    read bytes = .ok table ↔
      ∃ entries, Encodes bytes entries ∧ table = .ofList (wordsOf entries) := by
  constructor
  · intro accepted
    rw [read] at accepted
    split at accepted
    · cases accepted
    · next header headed =>
      obtain ⟨sound, same⟩ := readHeader_eq_ok_iff.1 headed
      subst same
      split at accepted
      · cases accepted
      · next entries entered =>
        cases accepted
        obtain ⟨counted, spelled⟩ := readEntries_eq_ok_iff.1 entered
        exact ⟨entries, ⟨sound, counted, spelled⟩, rfl⟩
  · intro ⟨entries, encodes, same⟩
    have headed := readHeader_of_soundHeader encodes.header
    have entered : readEntries 0 (field bytes 12 4) (bytes.drop (field bytes 8 4)) = .ok entries :=
      readEntries_eq_ok_iff.2 ⟨encodes.counted, encodes.spelled⟩
    simp only [read, headed, entered, same]
    rfl

theorem read_eq_error_iff {bytes : List UInt8} {defect : Defect} :
    read bytes = .error defect ↔ HasDefect bytes defect := by
  constructor
  · intro refused
    rw [read] at refused
    split at refused
    · next headed =>
      cases refused
      exact .header (readHeader_eq_error_iff.1 headed)
    · next header headed =>
      obtain ⟨sound, same⟩ := readHeader_eq_ok_iff.1 headed
      subst same
      split at refused
      · next entered =>
        cases refused
        exact .entry sound (readEntries_eq_error_iff.1 entered)
      · cases refused
  · intro defective
    cases defective with
    | header defective => simp only [read, readHeader_of_headerDefect defective]
    | entry sound defective =>
      simp only [read, readHeader_of_soundHeader sound, readEntries_of_entryDefect defective]

/-- The entry that a defect names lies in the region with all entries before it. -/
theorem EntryDefect.index_bound {index count : Nat} {bytes : List UInt8} {defect : Defect}
    (defective : EntryDefect index count bytes defect) :
    ∃ read, (defect = .entryOverrun (index + read) ∨ defect = .invalidWord (index + read)) ∧
      read < count ∧ 2 * read ≤ bytes.length := by
  cases defective with
  | @overrun entries records rest spelled same fewer _ =>
    have sized := spelled.two_mul_length_le
    refine ⟨entries.length, .inl rfl, fewer, ?_⟩
    rw [same, List.length_append]
    omega
  | @invalid entries records rest spelled same fewer _ =>
    have sized := spelled.two_mul_length_le
    refine ⟨entries.length, .inr rfl, fewer, ?_⟩
    rw [same, List.length_append]
    omega

theorem HasDefect.index_bound {bytes : List UInt8} {index : Nat}
    (defective : HasDefect bytes (.entryOverrun index) ∨ HasDefect bytes (.invalidWord index)) :
    index < field bytes 12 4 ∧ field bytes 8 4 + 2 * index ≤ bytes.length := by
  have entry : SoundHeader bytes ∧ ∃ read, index = 0 + read ∧ read < field bytes 12 4 ∧
      2 * read ≤ (bytes.drop (field bytes 8 4)).length := by
    rcases defective with overrun | invalid
    · cases overrun with
      | header headed => cases headed
      | entry sound defective =>
        obtain ⟨read, named | named, fewer, sized⟩ := defective.index_bound
        · exact ⟨sound, read, Defect.entryOverrun.inj named, fewer, sized⟩
        · cases named
    · cases invalid with
      | header headed => cases headed
      | entry sound defective =>
        obtain ⟨read, named | named, fewer, sized⟩ := defective.index_bound
        · cases named
        · exact ⟨sound, read, Defect.invalidWord.inj named, fewer, sized⟩
  obtain ⟨sound, read, same, fewer, sized⟩ := entry
  have within := sound.within
  rw [List.length_drop] at sized
  omega

/-- The reader is exact. It accepts the regions of the grammar, reports the first defect of every
other byte string, however many entries the header promises, and gives every word the largest
frequency of all entries that spell it. -/
theorem read_exact (bytes : List UInt8) :
    ((∃ table, read bytes = .ok table) ↔ ∃ entries, Encodes bytes entries) ∧
    (∀ defect, read bytes = .error defect ↔ HasDefect bytes defect) ∧
    (∀ index, read bytes = .error (.entryOverrun index) ∨ read bytes = .error (.invalidWord index) →
      index < field bytes 12 4 ∧ field bytes 8 4 + 2 * index ≤ bytes.length) ∧
    (∀ table, read bytes = .ok table ↔ ∃ entries, Encodes bytes entries ∧
      (∀ word, table.frequency? word = largestGiven? (wordsOf entries) word) ∧
      table.size = (formsOf (wordsOf entries)).length) := by
  refine ⟨?_, fun defect => read_eq_error_iff, ?_, ?_⟩
  · constructor
    · intro ⟨table, accepted⟩
      obtain ⟨entries, encodes, _⟩ := read_eq_ok_iff.1 accepted
      exact ⟨entries, encodes⟩
    · intro ⟨entries, encodes⟩
      exact ⟨_, read_eq_ok_iff.2 ⟨entries, encodes, rfl⟩⟩
  · intro index refused
    exact HasDefect.index_bound (refused.imp read_eq_error_iff.1 read_eq_error_iff.1)
  · intro table
    rw [read_eq_ok_iff]
    constructor
    · intro ⟨entries, encodes, same⟩
      subst same
      exact ⟨entries, encodes, WordTable.frequency?_ofList _, WordTable.size_ofList _⟩
    · intro ⟨entries, encodes, answers, _⟩
      refine ⟨entries, encodes, WordTable.ext_frequency? ?_⟩
      intro word
      rw [answers, WordTable.frequency?_ofList]

end Lexicon.Region
