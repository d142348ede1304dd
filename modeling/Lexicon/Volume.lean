import Lexicon.Locale
import Lexicon.Region.Reader
import Lexicon.Storage.Extent

/-!
# Volumes

A volume is a dictionary read from one extent. A region that cannot be read gives no volume; a region
that is read but defective gives an invalid volume, which holds no words. Closing a volume gives its
words up and changes nothing else, so validity is settled once, when the volume is opened.
-/

set_option autoImplicit false

namespace Lexicon

open Storage

/-- A dictionary read from an extent: its words, or what was wrong with the region. -/
structure Volume where
  extent : Extent
  locale : Option Locale
  category : Category
  content : Except Region.Defect WordTable

namespace Volume

/-- Opens the dictionary in an extent. A defective region opens as an invalid volume. -/
def ofExtent (store : FileStore) (extent : Extent) (locale : Option Locale)
    (category : Category) : Except OpenError Volume :=
  match extent.read store with
  | .error cause => .error cause
  | .ok bytes => .ok ⟨extent, locale, category, Region.read bytes⟩

def defect? (volume : Volume) : Option Region.Defect :=
  match volume.content with
  | .error defect => some defect
  | .ok _ => none

def isValid (volume : Volume) : Bool :=
  volume.defect?.isNone

/-- The words held, none if the region was defective. -/
def words (volume : Volume) : WordTable :=
  match volume.content with
  | .error _ => .empty
  | .ok table => table

def wordCount (volume : Volume) : Nat :=
  volume.words.size

/-- Gives the words up. Closing again changes nothing. -/
def close (volume : Volume) : Volume :=
  { volume with content := volume.content.map fun _ => .empty }

def frequency? (volume : Volume) (word : String) : Option Nat :=
  volume.words.frequency? word

def contains (volume : Volume) (word : String) : Bool :=
  (volume.frequency? word).isSome

/-- Every suggestion for a query: in the order of words if the word is asked for exactly, otherwise
by falling frequency and then in the order of words. -/
def matching (volume : Volume) (query : String) (mode : MatchMode) : List Suggestion :=
  let found := (volume.words.matching query mode).map fun (word, frequency) =>
    ⟨word, frequency, volume.category⟩
  match mode with
  | .exact => found
  | .leading => Suggestion.byFrequency found

def suggestions (volume : Volume) (query : String) (search : Search) : List Suggestion :=
  (volume.matching query search.mode).take search.limit

end Volume

end Lexicon
