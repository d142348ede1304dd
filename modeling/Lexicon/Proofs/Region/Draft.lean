import Mathlib.Algebra.Group.Nat.Defs
import Lexicon.Proofs.Region.Grammar
import Lexicon.Region.Draft

/-!
# Drafts in the grammar of regions

What a draft renders to is a region of the grammar, whatever follows it, and holds exactly the
entries of the draft. A draft of an unsupported version renders to a region with that one defect.
-/

set_option autoImplicit false

namespace Lexicon.Region

/-! ## Numbers -/

theorem ofBytes_toBytes (width value : Nat) :
    ofBytes (toBytes width value) = value % 256 ^ width := by
  induction width generalizing value with
  | zero => rw [toBytes, Nat.pow_zero, Nat.mod_one]; rfl
  | succ width ih =>
    have byte : (UInt8.ofNat (value % 256)).toNat = value % 256 := by
      rw [UInt8.toNat_ofNat']
      exact Nat.mod_mod _ _
    rw [toBytes, ofBytes_append, ih, byte, Nat.pow_succ, Nat.mul_comm (256 ^ width) 256,
      Nat.mod_mul, Nat.add_comm]

/-- A field holds the number that was written there. -/
theorem field_toBytes (before : List UInt8) {after bytes : List UInt8} {start width value : Nat}
    (split : bytes = before ++ (toBytes width value ++ after)) (placed : before.length = start)
    (small : value < 256 ^ width) : field bytes start width = value := by
  rw [field, split, List.drop_left' placed, List.take_left' (length_toBytes width value),
    ofBytes_toBytes, Nat.mod_eq_of_lt small]

namespace Draft

@[simp] theorem length_renderHeader (version : UInt16) (count : Nat) :
    (renderHeader version count).length = 16 := by
  simp [renderHeader]

section Header

variable (version : UInt16) (count : Nat) (rest : List UInt8)

theorem field_magic : field (renderHeader version count ++ rest) 0 4 = magic :=
  field_toBytes [] (by simp only [renderHeader, List.append_assoc]; rfl) rfl (by decide)

theorem field_version :
    field (renderHeader version count ++ rest) 4 2 = version.toNat :=
  field_toBytes (toBytes 4 magic) (by simp only [renderHeader, List.append_assoc]; rfl)
    (length_toBytes _ _) version.toNat_lt

theorem field_size : field (renderHeader version count ++ rest) 8 4 = 16 :=
  field_toBytes (toBytes 4 magic ++ toBytes 2 version.toNat ++ toBytes 2 0)
    (by simp only [renderHeader, List.append_assoc]; rfl) (by simp) (by decide)

theorem field_count (small : count < UInt32.size) :
    field (renderHeader version count ++ rest) 12 4 = count :=
  field_toBytes
    (toBytes 4 magic ++ toBytes 2 version.toNat ++ toBytes 2 0 ++ toBytes 4 leastHeader)
    (by simp only [renderHeader, List.append_assoc]; rfl) (by simp) small

end Header

/-! ## Records -/

theorem isRecord_renderEntry {entry : Entry} (fits : entry.word.utf8ByteSize ≤ longestWord) :
    IsRecord entry (renderEntry entry) := by
  have sized : (UInt8.ofNat entry.word.utf8ByteSize).toNat =
      (Text.encodeUtf8 entry.word).length := by
    rw [UInt8.toNat_ofNat', Text.length_encodeUtf8]
    exact Nat.mod_eq_of_lt (Nat.lt_succ_of_le fits)
  exact .intro sized

theorem areRecords_render {entries : List Entry}
    (fits : ∀ entry ∈ entries, entry.word.utf8ByteSize ≤ longestWord) :
    AreRecords entries (entries.flatMap renderEntry) := by
  induction entries with
  | nil => exact .nil
  | cons entry later ih =>
    rw [List.flatMap_cons]
    refine .cons (isRecord_renderEntry (fits entry List.mem_cons_self)) (ih ?_)
    intro other member
    exact fits other (List.mem_cons_of_mem _ member)

theorem render?_eq_some_iff {draft : Draft} {bytes : List UInt8} :
    draft.render? = some bytes ↔ draft.entries.length < UInt32.size ∧
      bytes = renderHeader draft.version draft.entries.length ++
        draft.entries.flatMap renderEntry := by
  rw [render?]
  split
  · next few =>
    rw [Option.some.injEq]
    exact ⟨fun same => ⟨few, same.symm⟩, fun both => both.2.symm⟩
  · next many =>
    constructor
    · intro rendered
      cases rendered
    · intro both
      exact (many both.1).elim

theorem length_of_render? {draft : Draft} {bytes : List UInt8}
    (rendered : draft.render? = some bytes) : 16 ≤ bytes.length := by
  rw [(render?_eq_some_iff.1 rendered).2, List.length_append, length_renderHeader]
  omega

/-- A draft of a supported version renders to a region that holds its entries. -/
theorem encodes_of_render? {draft : Draft} {bytes : List UInt8}
    (rendered : draft.render? = some bytes)
    (oldest : 2 ≤ draft.version.toNat) (newest : draft.version.toNat ≤ 4) :
    Encodes bytes draft.entries := by
  obtain ⟨few, same⟩ := render?_eq_some_iff.1 rendered
  have long := length_of_render? rendered
  subst same
  have size := field_size draft.version draft.entries.length
    (draft.entries.flatMap renderEntry)
  refine ⟨⟨long, field_magic _ _ _, ?_, ?_, ?_, ?_⟩, (field_count _ _ _ few).symm, ?_⟩
  · rw [field_version]; exact oldest
  · rw [field_version]; exact newest
  · exact Nat.le_of_eq size.symm
  · rw [size]; exact long
  · refine ⟨draft.entries.flatMap renderEntry, [], ?_, areRecords_render draft.fits⟩
    rw [size, List.drop_left' (length_renderHeader _ _), List.append_nil]

theorem hasDefect_of_render? {draft : Draft} {bytes : List UInt8}
    (rendered : draft.render? = some bytes)
    (unsupported : ¬ (2 ≤ draft.version.toNat ∧ draft.version.toNat ≤ 4)) :
    HasDefect bytes (.unsupportedVersion draft.version.toNat) := by
  have long := length_of_render? rendered
  obtain ⟨_, same⟩ := render?_eq_some_iff.1 rendered
  subst same
  have version := field_version draft.version draft.entries.length
    (draft.entries.flatMap renderEntry)
  refine .header ?_
  rw [← version]
  exact .badVersion long (field_magic _ _ _) (by rw [version]; exact unsupported)

end Draft

end Lexicon.Region
