import Lexicon.Proofs.Region.Cuts
import Lexicon.Proofs.Region.Draft

/-!
# What a draft renders to tells the draft

Records have no mark at their end, but each says how long it is and the header says how many there
are. So the bytes of a draft tell where each record ends, whatever follows them: two drafts with the
same bytes are the same draft, and no draft renders to a proper start of what another one does.

A draft comes out of a sequence of calls. Of those, only the version that was asked for last and the
words that are short enough for a record can be told from the bytes.
-/

set_option autoImplicit false

namespace Lexicon.Region

/-- Two runs of equally many records, each with something behind it: if the bytes are the same, the
entries are, and the runs end at the same place. -/
theorem AreRecords.append_inj {entries others : List Entry} {records records' rest rest' : List UInt8}
    (spelled : AreRecords entries records) (spelled' : AreRecords others records')
    (counted : entries.length = others.length) (same : records ++ rest = records' ++ rest') :
    entries = others ∧ rest = rest' := by
  have read : readEntries 0 entries.length (records ++ rest) = .ok entries :=
    readEntries_eq_ok_iff.2 ⟨rfl, records, rest, rfl, spelled⟩
  have read' : readEntries 0 others.length (records' ++ rest') = .ok others :=
    readEntries_eq_ok_iff.2 ⟨rfl, records', rest', rfl, spelled'⟩
  rw [same, counted, read'] at read
  cases read
  have sized : records.length = records'.length :=
    spelled.length_eq.trans spelled'.length_eq.symm
  exact ⟨rfl, (List.append_inj same sized).2⟩

namespace Draft

theorem ext {first second : Draft} (versions : first.version = second.version)
    (entries : first.entries = second.entries) : first = second := by
  cases first
  cases second
  cases versions
  cases entries
  rfl

section Rendered

variable {first second : Draft} {bytes bytes' : List UInt8}
  (rendered : first.render? = some bytes) (rendered' : second.render? = some bytes')

include rendered

theorem length_eq_of_render? : bytes.length = 16 + sizeOfRecords first.entries := by
  rw [(render?_eq_some_iff.1 rendered).2, List.length_append, length_renderHeader,
    (areRecords_render first.fits).length_eq]

include rendered'

/-- The bytes of a draft tell the draft and where they end. -/
theorem append_inj_of_render? {rest rest' : List UInt8} (same : bytes ++ rest = bytes' ++ rest') :
    first = second ∧ rest = rest' := by
  obtain ⟨few, rfl⟩ := render?_eq_some_iff.1 rendered
  obtain ⟨few', rfl⟩ := render?_eq_some_iff.1 rendered'
  rw [List.append_assoc, List.append_assoc] at same
  -- The headers tell the version and how many records follow; only then can the records be compared.
  have versions : first.version = second.version := by
    rw [← UInt16.toNat_inj, ← field_version first.version first.entries.length, same, field_version]
  have counted : first.entries.length = second.entries.length := by
    rw [← field_count first.version _ _ few, same, field_count _ _ _ few']
  rw [versions, counted] at same
  obtain ⟨entries, rests⟩ := (areRecords_render first.fits).append_inj
    (areRecords_render second.fits) counted (List.append_cancel_left same)
  exact ⟨ext versions entries, rests⟩

theorem eq_iff_of_render? : bytes = bytes' ↔ first = second := by
  constructor
  · intro same
    exact (append_inj_of_render? rendered rendered' (congrArg (· ++ []) same)).1
  · rintro rfl
    exact Option.some.inj (rendered.symm.trans rendered')

theorem eq_of_isPrefix_of_render? (starts : bytes <+: bytes') : bytes = bytes' := by
  obtain ⟨rest, whole⟩ := starts
  have split : bytes ++ rest = bytes' ++ [] := whole.trans (List.append_nil bytes').symm
  exact (eq_iff_of_render? rendered rendered').2 (append_inj_of_render? rendered rendered' split).1

end Rendered

/-! ## Calls -/

inductive Call where
  | setVersion (version : UInt16)
  | add (word : String) (frequency : UInt8)

def after (draft : Draft) : Call → Draft
  | .setVersion version => draft.setVersion version
  | .add word frequency => draft.add word frequency

def written (calls : List Call) : Draft :=
  calls.foldl after empty

def Call.version? : Call → Option UInt16
  | .setVersion version => some version
  | .add _ _ => none

/-- The entry for a word of at most 255 bytes. -/
def Call.entry? : Call → Option Entry
  | .setVersion _ => none
  | .add word frequency =>
    if word.utf8ByteSize ≤ 255 then some ⟨word, frequency⟩ else none

/-- The version that was asked for last. -/
def lastVersion (calls : List Call) : UInt16 :=
  (calls.filterMap Call.version?).getLast?.getD currentVersion

/-- The entries for the words that are short enough, in order. -/
def keptEntries (calls : List Call) : List Entry :=
  calls.filterMap Call.entry?

theorem version_after (draft : Draft) (call : Call) :
    (draft.after call).version = call.version?.getD draft.version := by
  cases call with
  | setVersion version => rfl
  | add word frequency =>
    rw [after, add]
    split <;> rfl

theorem entries_after (draft : Draft) (call : Call) :
    (draft.after call).entries = draft.entries ++ call.entry?.toList := by
  cases call with
  | setVersion version => exact (List.append_nil _).symm
  | add word frequency =>
    by_cases short : word.utf8ByteSize ≤ 255
    · have fits : word.utf8ByteSize ≤ longestWord := short
      rw [after, add, dif_pos fits, Call.entry?, if_pos short, Option.toList_some]
    · have tooLong : ¬ word.utf8ByteSize ≤ longestWord := short
      rw [after, add, dif_neg tooLong, Call.entry?, if_neg short, Option.toList_none,
        List.append_nil]

theorem written_concat (calls : List Call) (call : Call) :
    written (calls ++ [call]) = (written calls).after call :=
  List.foldl_concat after empty call calls

theorem version_written (calls : List Call) : (written calls).version = lastVersion calls := by
  induction calls using List.reverseRecOn with
  | nil => rfl
  | append_singleton calls call ih =>
    rw [written_concat, version_after, ih, lastVersion, lastVersion, List.filterMap_append]
    cases asked : call.version? with
    | none => simp [asked]
    | some version => simp [asked]

theorem entries_written (calls : List Call) : (written calls).entries = keptEntries calls := by
  induction calls using List.reverseRecOn with
  | nil => rfl
  | append_singleton calls call ih =>
    rw [written_concat, entries_after, ih, keptEntries, keptEntries, List.filterMap_append]
    cases kept : call.entry? with
    | none => simp [kept]
    | some entry => simp [kept]

theorem written_eq_iff {calls others : List Call} :
    written calls = written others ↔
      lastVersion calls = lastVersion others ∧ keptEntries calls = keptEntries others := by
  rw [← version_written, ← version_written, ← entries_written, ← entries_written]
  constructor
  · intro same
    rw [same]
    exact ⟨rfl, rfl⟩
  · intro ⟨versions, entries⟩
    exact ext versions entries

theorem exists_render?_written {calls : List Call} (few : (keptEntries calls).length < 2 ^ 32) :
    ∃ bytes, (written calls).render? = some bytes := by
  refine ⟨_, render?_eq_some_iff.2 ⟨?_, rfl⟩⟩
  rw [entries_written]
  exact few

/-- With at most `2 ^ 32 - 1` kept words, two sequences of calls render to the same bytes exactly if
they leave the same version and keep the same entries in the same order. No rendering is a proper
start of another, and each takes 16 bytes and then the size of its records. -/
theorem render_injective (calls others : List Call)
    (few : (keptEntries calls).length < 2 ^ 32) (few' : (keptEntries others).length < 2 ^ 32) :
    ∃ bytes bytes', (written calls).render? = some bytes ∧
      (written others).render? = some bytes' ∧
      (bytes = bytes' ↔
        lastVersion calls = lastVersion others ∧ keptEntries calls = keptEntries others) ∧
      (bytes <+: bytes' → bytes = bytes') ∧
      bytes.length = 16 + sizeOfRecords (keptEntries calls) := by
  obtain ⟨bytes, rendered⟩ := exists_render?_written few
  obtain ⟨bytes', rendered'⟩ := exists_render?_written few'
  refine ⟨bytes, bytes', rendered, rendered', ?_, ?_, ?_⟩
  · rw [eq_iff_of_render? rendered rendered', written_eq_iff]
  · exact eq_of_isPrefix_of_render? rendered rendered'
  · rw [length_eq_of_render? rendered, entries_written]

/-- Two words, the second of which is empty, and a version that is replaced by another one. -/
def longThenEmpty : List Call :=
  [.setVersion 7, .add "ab" 1, .add "" 2, .setVersion 3]

/-- The same letters and frequencies as two words that are cut at another place. -/
def shortThenShort : List Call :=
  [.add "a" 1, .setVersion 3, .add "b" 2]

theorem render_injective_recut :
    (keptEntries longThenEmpty).length < 2 ^ 32 ∧ (keptEntries shortThenShort).length < 2 ^ 32 ∧
      lastVersion longThenEmpty = lastVersion shortThenShort ∧
      ∃ bytes bytes', (written longThenEmpty).render? = some bytes ∧
        (written shortThenShort).render? = some bytes' ∧ bytes.length = 22 ∧ bytes ≠ bytes' ∧
        ¬ bytes <+: bytes' := by
  have few : (keptEntries longThenEmpty).length < 2 ^ 32 := by decide
  have few' : (keptEntries shortThenShort).length < 2 ^ 32 := by decide
  have recut : keptEntries longThenEmpty ≠ keptEntries shortThenShort := by decide
  obtain ⟨bytes, bytes', rendered, rendered', same, starts, sized⟩ :=
    render_injective longThenEmpty shortThenShort few few'
  have different : bytes ≠ bytes' := by
    intro equal
    exact recut (same.1 equal).2
  refine ⟨few, few', rfl, bytes, bytes', rendered, rendered', sized, different, ?_⟩
  intro started
  exact different (starts started)

end Draft

end Lexicon.Region
