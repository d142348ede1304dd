import Lexicon.Proofs.Storage.Extent
import Lexicon.Volume

/-!
# Opening an extent, now and later

An extent is taken where its bytes are, and opened then or at some later time, when its file may have
grown, shrunk, been replaced or gone. Both times the bounds are compared as natural numbers, so an
extent can be opened in the store it was taken from, and later as long as the file reaches to its end.
What is read is the stretch of the extent and nothing else of the file.
-/

set_option autoImplicit false

namespace Lexicon.Volume

open Storage

/-- What opening an extent gives, by what its path names and by the bytes that stand at its place. -/
inductive Opens (store : FileStore) (extent : Extent) (locale : Option Locale)
    (category : Category) : Except OpenError Volume → Prop where
  | missing : store.find extent.path = .error .notFound →
      Opens store extent locale category (.error (.fileNotFound extent.path))
  | short {content : Content} : store.file? extent.path = some content →
      content.bytes.length < extent.offset.toNat + extent.length.toNat →
      Opens store extent locale category (.error (.invalidRegion extent.offset extent.length))
  | covered {content : Content} {region : List UInt8} :
      store.file? extent.path = some content → extent.Covers content region →
      Opens store extent locale category (.ok ⟨extent, locale, category, Region.read region⟩)

section

variable {store : FileStore} {extent : Extent} {locale : Option Locale} {category : Category}

theorem ofExtent_of_opens {result : Except OpenError Volume}
    (opens : Opens store extent locale category result) :
    ofExtent store extent locale category = result := by
  cases opens with
  | missing gone => rw [ofExtent, extent.read_of_missing gone]
  | short named beyond => rw [ofExtent, extent.read_of_short named beyond]
  | covered named covers =>
    obtain ⟨within, rfl⟩ := Extent.covers_iff.1 covers
    rw [ofExtent, extent.read_of_within named within]

theorem exists_opens (settled : store.find extent.path = .error .notFound ∨
      ∃ content, store.file? extent.path = some content) :
    ∃ result, Opens store extent locale category result := by
  rcases settled with gone | ⟨content, named⟩
  · exact ⟨_, .missing gone⟩
  · by_cases within : extent.offset.toNat + extent.length.toNat ≤ content.bytes.length
    · exact ⟨_, .covered named (Extent.covers_iff.2 ⟨within, rfl⟩)⟩
    · exact ⟨_, .short named (Nat.lt_of_not_le within)⟩

end

theorem exists_covers_of_taken {store : FileStore} {path : FilePath} {extent : Extent}
    (taken : Extent.ofFile? store path = some extent ∨
      ∃ offset length, Extent.ofRegion? store path offset length = some extent) :
    ∃ content region, store.file? extent.path = some content ∧ extent.Covers content region := by
  rcases taken with whole | ⟨offset, length, part⟩
  · obtain ⟨content, named, _, rfl⟩ := Extent.ofFile?_eq_some_iff.1 whole
    have reaches : (0 : UInt64).toNat + content.size.toNat = content.bytes.length := by
      rw [UInt64.toNat_zero, Content.toNat_size, Nat.zero_add]
    exact ⟨content, _, named, Extent.covers_iff.2 ⟨Nat.le_of_eq reaches, rfl⟩⟩
  · obtain ⟨content, named, _, within, rfl⟩ := Extent.ofRegion?_eq_some_iff.1 part
    exact ⟨content, _, named, Extent.covers_iff.2 ⟨within, rfl⟩⟩

/-- An extent is given out exactly where its bytes are, and it can be opened there. As long as its path
names a file or nothing at all, opening it again fails only if the file is gone or has become too
short, and reads the bytes at its place otherwise. -/
theorem ofExtent_exact :
    (∀ (store : FileStore) (path : FilePath) (offset length : UInt64) (extent : Extent),
      Extent.ofRegion? store path offset length = some extent ↔
        ∃ content, store.file? path = some content ∧ 0 < length.toNat ∧
          offset.toNat + length.toNat ≤ content.bytes.length ∧
          extent = ⟨path, offset, length, false⟩) ∧
    (∀ (store : FileStore) (path : FilePath) (extent : Extent),
      Extent.ofFile? store path = some extent ↔
        ∃ content, store.file? path = some content ∧ content.bytes ≠ [] ∧
          extent = ⟨path, 0, content.size, true⟩) ∧
    (∀ (store : FileStore) (path : FilePath) (extent : Extent) (locale : Option Locale)
        (category : Category),
      (Extent.ofFile? store path = some extent ∨
        ∃ offset length, Extent.ofRegion? store path offset length = some extent) →
      ∃ content region, store.file? extent.path = some content ∧ extent.Covers content region ∧
        ofExtent store extent locale category =
          .ok ⟨extent, locale, category, Region.read region⟩) ∧
    ∀ (later : FileStore) (extent : Extent) (locale : Option Locale) (category : Category),
      (later.find extent.path = .error .notFound ∨
        ∃ content, later.file? extent.path = some content) →
      ∀ result, ofExtent later extent locale category = result ↔
        Opens later extent locale category result := by
  refine ⟨?_, ?_, ?_, ?_⟩
  · intro store path offset length extent
    exact Extent.ofRegion?_eq_some_iff
  · intro store path extent
    exact Extent.ofFile?_eq_some_iff
  · intro store path extent locale category taken
    obtain ⟨content, region, named, covers⟩ := exists_covers_of_taken taken
    exact ⟨content, region, named, covers, ofExtent_of_opens (.covered named covers)⟩
  · intro later extent locale category settled result
    constructor
    · rintro rfl
      obtain ⟨result, opens⟩ := exists_opens settled
      rw [ofExtent_of_opens opens]
      exact opens
    · exact ofExtent_of_opens

/-- A store with nothing but one package. -/
def packaged (content : Content) : FileStore where
  nodes := [(["app.pkg"], .file content)]
  workingDirectory := []
  distinct := by simp
  named := by
    have isName : IsName "app.pkg" := by decide
    simpa using isName

theorem ofExtent_exact_packaged :
    ∃ region, Extent.ofRegion? (packaged ⟨[1, 2, 3, 4], by decide⟩) ⟨"app.pkg"⟩ 1 2 = some region ∧
      (∃ volume, ofExtent (packaged ⟨[1, 2, 3, 4], by decide⟩) region none .main = .ok volume) ∧
      ofExtent (packaged ⟨[9, 2, 3, 9, 9], by decide⟩) region none .main =
        .ok ⟨region, none, .main, Region.read [2, 3]⟩ ∧
      ofExtent (packaged ⟨[1, 2], by decide⟩) region none .main = .error (.invalidRegion 1 2) ∧
      ofExtent .empty region none .main = .error (.fileNotFound ⟨"app.pkg"⟩) := by
  obtain ⟨takes, _, opened, reopened⟩ := ofExtent_exact
  have taken := (takes (packaged ⟨[1, 2, 3, 4], by decide⟩) ⟨"app.pkg"⟩ 1 2 _).2
    ⟨_, rfl, by decide, by decide, rfl⟩
  obtain ⟨_, _, _, _, found⟩ := opened _ _ _ none .main (.inr ⟨1, 2, taken⟩)
  refine ⟨_, taken, ⟨_, found⟩, ?_, ?_, ?_⟩
  · exact (reopened _ _ none .main (.inr ⟨_, rfl⟩) _).2 (.covered rfl ⟨[9], [9, 9], rfl, rfl, rfl⟩)
  · exact (reopened _ _ none .main (.inr ⟨_, rfl⟩) _).2 (.short rfl (by decide))
  · exact (reopened _ _ none .main (.inl rfl) _).2 (.missing rfl)

end Lexicon.Volume
