import Lexicon.Storage.Extent

/-!
# Taking and reading extents

When an extent is given out, and what a read of it yields. Offsets and lengths are compared as
natural numbers, so nothing wraps. An extent that was taken from a file can be read from it, and
yields the bytes that it covers.
-/

set_option autoImplicit false

namespace Lexicon.Storage

theorem FileStore.file?_eq_some_iff {store : FileStore} {path : FilePath} {content : Content} :
    store.file? path = some content ↔
      ∃ location, store.find path = .ok (location, .file content) := by
  rw [file?]
  constructor
  · intro named
    split at named
    · next location held found =>
      cases named
      exact ⟨location, found⟩
    · cases named
  · intro ⟨location, found⟩
    simp only [found]

namespace Extent

theorem ofFile?_eq_some_iff {store : FileStore} {path : FilePath} {extent : Extent} :
    ofFile? store path = some extent ↔
      ∃ content, store.file? path = some content ∧ content.bytes ≠ [] ∧
        extent = ⟨path, 0, content.size, true⟩ := by
  have empty : ∀ content : Content, content.size = 0 ↔ content.bytes = [] := by
    intro content
    rw [← UInt64.toNat_inj, Content.toNat_size, UInt64.toNat_zero, List.length_eq_zero_iff]
  rw [ofFile?]
  cases named : store.file? path with
  | none =>
    constructor
    · intro taken
      cases taken
    · intro ⟨content, other, _⟩
      cases other
  | some content =>
    simp only [empty, Option.some.injEq]
    constructor
    · intro taken
      split at taken
      · cases taken
      · next filled =>
        cases taken
        exact ⟨content, rfl, filled, rfl⟩
    · intro ⟨other, same, filled, taken⟩
      subst same
      rw [if_neg filled, taken]

theorem ofRegion?_eq_some_iff {store : FileStore} {path : FilePath} {offset length : UInt64}
    {extent : Extent} :
    ofRegion? store path offset length = some extent ↔
      ∃ content, store.file? path = some content ∧ 0 < length.toNat ∧
        offset.toNat + length.toNat ≤ content.bytes.length ∧
        extent = ⟨path, offset, length, false⟩ := by
  have filled : length ≠ 0 ↔ 0 < length.toNat := by
    rw [Ne, ← UInt64.toNat_inj, UInt64.toNat_zero, Nat.pos_iff_ne_zero]
  rw [ofRegion?]
  cases named : store.file? path with
  | none =>
    constructor
    · intro taken
      cases taken
    · intro ⟨content, other, _⟩
      cases other
  | some content =>
    simp only [Option.some.injEq]
    cases added : checkedSum? offset length with
    | none =>
      constructor
      · intro taken
        cases taken
      · intro ⟨other, same, _, within, _⟩
        subst same
        have small : offset.toNat + length.toNat < UInt64.size :=
          Nat.lt_of_le_of_lt within content.bounded
        rw [checkedSum?, if_pos small] at added
        cases added
    | some last =>
      have sum := checkedSum?_eq_some_iff.1 added
      have bound : last ≤ content.size ↔ offset.toNat + length.toNat ≤ content.bytes.length := by
        rw [UInt64.le_iff_toNat_le, Content.toNat_size, sum]
      simp only [filled, bound]
      constructor
      · intro taken
        split at taken
        · next inside =>
          cases taken
          exact ⟨content, rfl, inside.1, inside.2, rfl⟩
        · cases taken
      · intro ⟨other, same, long, within, taken⟩
        subst same
        rw [if_pos ⟨long, within⟩, taken]

/-- An extent that lies in its file yields the bytes that it covers. -/
theorem read_of_within {store : FileStore} (extent : Extent) {content : Content}
    (named : store.file? extent.path = some content)
    (within : extent.offset.toNat + extent.length.toNat ≤ content.bytes.length) :
    extent.read store = .ok (extent.slice content.bytes) := by
  obtain ⟨location, found⟩ := FileStore.file?_eq_some_iff.1 named
  have small : extent.offset.toNat + extent.length.toNat < UInt64.size :=
    Nat.lt_of_le_of_lt within content.bounded
  have added : checkedSum? extent.offset extent.length = some (extent.offset + extent.length) := by
    rw [checkedSum?, if_pos small]
  have sum := checkedSum?_eq_some_iff.1 added
  have inside : ¬ content.size < extent.offset + extent.length := by
    rw [UInt64.lt_iff_toNat_lt, Content.toNat_size]
    omega
  simp only [read, found, added, Node.size]
  exact if_neg inside

/-- An extent that reaches beyond the end of its file is refused, also where the sum of its bounds
needs more than 64 bits. -/
theorem read_of_short {store : FileStore} (extent : Extent) {content : Content}
    (named : store.file? extent.path = some content)
    (short : content.bytes.length < extent.offset.toNat + extent.length.toNat) :
    extent.read store = .error (.invalidRegion extent.offset extent.length) := by
  obtain ⟨location, found⟩ := FileStore.file?_eq_some_iff.1 named
  cases added : checkedSum? extent.offset extent.length with
  | none => simp only [read, found, added]
  | some last =>
    have sum := checkedSum?_eq_some_iff.1 added
    have beyond : content.size < last := by
      rw [UInt64.lt_iff_toNat_lt, Content.toNat_size]
      omega
    simp only [read, found, added, Node.size]
    exact if_pos beyond

theorem read_of_missing {store : FileStore} (extent : Extent)
    (missing : store.find extent.path = .error .notFound) :
    extent.read store = .error (.fileNotFound extent.path) := by
  simp only [read, missing]

/-- The bytes at the place of an extent in a file: as many as it is long, from its offset on. -/
def Covers (extent : Extent) (content : Content) (region : List UInt8) : Prop :=
  ∃ before after, content.bytes = before ++ region ++ after ∧
    before.length = extent.offset.toNat ∧ region.length = extent.length.toNat

theorem covers_iff {extent : Extent} {content : Content} {region : List UInt8} :
    extent.Covers content region ↔
      extent.offset.toNat + extent.length.toNat ≤ content.bytes.length ∧
        region = extent.slice content.bytes := by
  constructor
  · intro ⟨before, after, whole, offset, length⟩
    rw [slice, whole, List.append_assoc, List.drop_left' offset, List.take_left' length]
    refine ⟨?_, rfl⟩
    rw [List.length_append, List.length_append]
    omega
  · rintro ⟨within, rfl⟩
    refine ⟨content.bytes.take extent.offset.toNat,
      (content.bytes.drop extent.offset.toNat).drop extent.length.toNat, ?_, ?_, ?_⟩
    · rw [slice, List.append_assoc, List.take_append_drop, List.take_append_drop]
    · rw [List.length_take]
      omega
    · rw [slice, List.length_take, List.length_drop]
      omega

theorem slice_whole (path : FilePath) (content : Content) :
    slice ⟨path, 0, content.size, true⟩ content.bytes = content.bytes := by
  rw [slice, UInt64.toNat_zero, List.drop_zero, Content.toNat_size, List.take_length]

theorem read_of_ofFile? {store : FileStore} {path : FilePath} {content : Content}
    (named : store.file? path = some content) :
    read ⟨path, 0, content.size, true⟩ store = .ok content.bytes := by
  rw [read_of_within ⟨path, 0, content.size, true⟩ named, slice_whole]
  rw [UInt64.toNat_zero, Content.toNat_size]
  omega

end Extent

end Lexicon.Storage
