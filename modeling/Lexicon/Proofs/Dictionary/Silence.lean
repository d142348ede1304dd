import Lexicon.Loader.Supply
import Lexicon.Proofs.Collection.Operations
import Lexicon.Proofs.Dictionary.Lookups

/-!
# Silence

A dictionary that is invalid, or that was closed, answers nothing, whatever else was done to it or to
the dictionaries around it. The state of a volume does not tell how it was opened and whether it was
closed since, so dictionaries are traced here: beside each of their parts stands what became of it.
One invariant ties the trace to the state. A volume is what its opening gave, with its words taken
away if it was closed, and a collection is closed exactly if somebody closed it.
-/

set_option autoImplicit false

namespace Lexicon

open Storage

/-! ## Volumes -/

namespace Volume

variable (volume : Volume)

@[simp] theorem close_close : volume.close.close = volume.close := by
  obtain ⟨extent, locale, category, content⟩ := volume
  cases content <;> rfl

@[simp] theorem defect?_close : volume.close.defect? = volume.defect? := by
  obtain ⟨extent, locale, category, content⟩ := volume
  cases content <;> rfl

@[simp] theorem wordCount_close : volume.close.wordCount = 0 := by
  obtain ⟨extent, locale, category, content⟩ := volume
  cases content <;> rfl

theorem wordCount_of_invalid {volume : Volume} (invalid : volume.isValid = false) :
    volume.wordCount = 0 := by
  obtain ⟨extent, locale, category, content⟩ := volume
  cases content with
  | error defect => rfl
  | ok table => cases invalid

end Volume

/-! ## Silence -/

namespace Dictionary

/-- Nothing is found in the dictionary, whatever it is asked. -/
structure Silent (dictionary : Dictionary) : Prop where
  contains : ∀ word, dictionary.contains word = false
  frequency : ∀ word, dictionary.frequency? word = none
  suggestions : ∀ query search, dictionary.suggestions query search = []

theorem silent_of_wordCount {dictionary : Dictionary} (wordless : dictionary.wordCount = 0) :
    dictionary.Silent := by
  have nothing : ∀ word frequency, ¬ dictionary.Gives word frequency := by
    intro word frequency ⟨leaf, among, held⟩
    have entries := List.eq_nil_of_length_eq_zero wordless
    rw [List.flatMap_eq_nil_iff] at entries
    rw [entries leaf among] at held
    cases held
  have few : dictionary.wordCount < UInt64.size := by
    rw [wordless]
    decide
  constructor
  · intro word
    rw [← Bool.not_eq_true, contains_iff]
    intro ⟨frequency, given⟩
    exact nothing word frequency given
  · intro word
    rw [← Option.not_isSome_iff_eq_none, frequency?_isSome_iff]
    intro ⟨frequency, given⟩
    exact nothing word frequency given
  · intro query search
    rw [List.eq_nil_iff_forall_not_mem]
    intro suggestion suggested
    exact nothing _ _ (gives_of_mem_suggestions few suggested)

@[simp] theorem wordCount_volume (single : Volume) :
    (volume single).wordCount = single.wordCount := by
  rw [wordCount, leaves_volume, List.flatMap_singleton]
  rfl

theorem wordCount_of_invalid {dictionary : Dictionary} (invalid : dictionary.isValid = false) :
    dictionary.wordCount = 0 := by
  rw [isValid_eq_any, List.any_eq_false] at invalid
  rw [wordCount, List.length_eq_zero_iff, List.flatMap_eq_nil_iff]
  intro leaf among
  have wordless := Volume.wordCount_of_invalid (Bool.eq_false_iff.2 (invalid leaf among))
  exact List.eq_nil_of_length_eq_zero wordless

end Dictionary

/-! ## What an opening settles -/

/-- What a volume is opened with. -/
structure Request where
  store : FileStore
  extent : Extent
  locale : Option Locale
  category : Category

namespace Request

def volume (request : Request) : Except OpenError Volume :=
  Volume.ofExtent request.store request.extent request.locale request.category

def opening (request : Request) : Opening :=
  Opening.ofExtent request.store request.extent request.locale request.category

variable {request : Request} {opened : Volume}

theorem role (opens : request.volume = .ok opened) :
    opened.category = request.category ∧ opened.locale = request.locale := by
  rw [volume, Volume.ofExtent] at opens
  split at opens
  · cases opens
  · cases opens
    exact ⟨rfl, rfl⟩

theorem opening_eq_invalid_iff (opens : request.volume = .ok opened) {defect : Region.Defect} :
    request.opening = .invalid (.volume opened) defect ↔ opened.defect? = some defect := by
  rw [volume] at opens
  rw [opening, Opening.ofExtent, opens]
  cases found : opened.defect? <;> simp [found]

theorem opening_eq_valid_iff (opens : request.volume = .ok opened) :
    request.opening = .valid (.volume opened) ↔ opened.isValid = true := by
  rw [volume] at opens
  rw [opening, Opening.ofExtent, opens, Volume.isValid]
  cases found : opened.defect? <;> simp [found]

/-- A volume is still what it was opened as, and it is invalid exactly if its opening said why. -/
structure Settles (request : Request) (opened single : Volume) : Prop where
  opens : request.volume = .ok opened
  validity : single.isValid = opened.isValid
  defect : single.defect? = opened.defect?
  category : single.category = request.category
  locale : single.locale = request.locale
  invalid : single.isValid = false ↔ ∃ defect, single.defect? = some defect
  reported : ∀ defect, single.defect? = some defect ↔
    request.opening = .invalid (.volume opened) defect
  sound : single.isValid = true ↔ request.opening = .valid (.volume opened)

end Request

/-! ## Traces -/

/-- A dictionary of which it is known how each volume was opened and what was closed. -/
inductive Traced where
  | volume (request : Request) (wasClosed : Bool) (single : Volume)
  | collection (wasClosed : Bool) (group : Collection Traced)

/-- What an operation leaves of a dictionary. A volume can only be closed. -/
def Dictionary.after : Dictionary → Collection.Operation Dictionary → Dictionary
  | .volume single, operation => .volume (if operation.closes then single.close else single)
  | .collection group, operation => .collection (group.after operation)

theorem Dictionary.after_close (dictionary : Dictionary) :
    dictionary.after .close = dictionary.close := by
  cases dictionary <;> rfl

namespace Traced

open Collection (Operation)

def wasClosed : Traced → Bool
  | .volume _ wasClosed _ => wasClosed
  | .collection wasClosed _ => wasClosed

mutual

/-- The dictionary itself, without its trace. -/
def dictionary : Traced → Dictionary
  | .volume _ _ single => .volume single
  | .collection _ ⟨category, locale, .active members⟩ =>
    .collection ⟨category, locale, .active (dictionaries members)⟩
  | .collection _ ⟨category, locale, .closed⟩ => .collection ⟨category, locale, .closed⟩

def dictionaries : List Traced → List Dictionary
  | [] => []
  | member :: rest => member.dictionary :: dictionaries rest

end

theorem dictionaries_eq (members : List Traced) :
    dictionaries members = members.map dictionary := by
  induction members with
  | nil => rfl
  | cons member rest ih => rw [dictionaries, List.map_cons, ih]

theorem dictionary_collection (wasClosed : Bool) (group : Collection Traced) :
    (collection wasClosed group).dictionary = .collection (group.map dictionary) := by
  obtain ⟨category, locale, roster⟩ := group
  cases roster with
  | active members => rw [dictionary, dictionaries_eq]; rfl
  | closed => rw [dictionary]; rfl

def after : Traced → Operation Traced → Traced
  | .volume request wasClosed single, operation =>
    .volume request (wasClosed || operation.closes)
      (if operation.closes then single.close else single)
  | .collection wasClosed group, operation =>
    .collection (wasClosed || operation.closes) (group.after operation)

/-- A trace changes nothing about what operations do. -/
theorem dictionary_after (tree : Traced) (operation : Operation Traced) :
    (tree.after operation).dictionary = tree.dictionary.after (operation.map dictionary) := by
  have closes : (operation.map dictionary).closes = operation.closes := by
    cases operation <;> rfl
  cases tree with
  | volume request wasClosed single =>
    rw [after, dictionary, dictionary, Dictionary.after, closes]
  | collection wasClosed group =>
    rw [after, dictionary_collection, dictionary_collection, Dictionary.after,
      Collection.map_after]

/-- The part at a place, which is given by the way to it from the whole. -/
def part? : List Nat → Traced → Option Traced
  | [], tree => some tree
  | _ :: _, .volume _ _ _ => none
  | index :: rest, .collection _ group => group.members[index]?.bind (part? rest)

def afterAt (operation : Operation Traced) : List Nat → Traced → Traced
  | [], tree => tree.after operation
  | _ :: _, .volume request wasClosed single => .volume request wasClosed single
  | index :: rest, .collection wasClosed group =>
    .collection wasClosed (group.modify index (afterAt operation rest))

/-- The dictionaries that can come about: by opening an extent, whatever its bytes, by putting
dictionaries into a collection, by operations on a dictionary or on any part of it, and by taking a
member out of a collection. -/
inductive Reached : Traced → Prop where
  | opened (request : Request) {single : Volume} (opens : request.volume = .ok single) :
      Reached (.volume request false single)
  | gathered (category : Category) (locale : Option Locale) {members : List Traced}
      (reached : ∀ member ∈ members, Reached member) :
      Reached (.collection false (.ofMembers category locale members))
  | operated {tree : Traced} (reached : Reached tree) (place : List Nat)
      (operation : Operation Traced)
      (supplied : ∀ member, operation = .add member → Reached member) :
      Reached (tree.afterAt operation place)
  | handedBack {wasClosed : Bool} {group rest : Collection Traced} {index : Nat} {member : Traced}
      (reached : Reached (.collection wasClosed group))
      (detached : group.detach? index = some (member, rest)) : Reached member

/-- The trace agrees with the state. -/
inductive Agrees : Traced → Prop where
  | untouched {request : Request} {single : Volume} (opens : request.volume = .ok single) :
      Agrees (.volume request false single)
  | emptied {request : Request} {opened : Volume} (opens : request.volume = .ok opened) :
      Agrees (.volume request true opened.close)
  | collection {group : Collection Traced} (members : ∀ member ∈ group.members, Agrees member) :
      Agrees (.collection group.isClosed group)

theorem Agrees.after {tree : Traced} (agrees : tree.Agrees) {operation : Operation Traced}
    (supplied : ∀ member, operation = .add member → member.Agrees) :
    (tree.after operation).Agrees := by
  cases agrees with
  | untouched opens =>
    rw [Traced.after]
    cases operation with
    | add _ | detach _ => exact .untouched opens
    | close => exact .emptied opens
  | emptied opens =>
    simp only [Traced.after, Volume.close_close, ite_self, Bool.true_or]
    exact .emptied opens
  | collection members =>
    rw [Traced.after, ← Collection.isClosed_after]
    refine .collection ?_
    intro member among
    rcases Collection.mem_members_after among with held | added
    · exact members member held
    · exact supplied member added

/-- An operation on a part keeps the agreement of the whole, as its other parts stay as they are. -/
theorem Agrees.afterAt {tree : Traced} (agrees : tree.Agrees) {operation : Operation Traced}
    (supplied : ∀ member, operation = .add member → member.Agrees) (place : List Nat) :
    (tree.afterAt operation place).Agrees := by
  induction place generalizing tree with
  | nil => exact agrees.after supplied
  | cons index rest ih =>
    cases agrees with
    | untouched opens => exact .untouched opens
    | emptied opens => exact .emptied opens
    | @collection group members =>
      rw [Traced.afterAt, ← Collection.isClosed_modify group index]
      refine .collection ?_
      intro member among
      -- A member now is the one that had its place before, and it changed only if the way led to it.
      rw [Collection.members_modify, List.mem_iff_getElem?] at among
      obtain ⟨place, found⟩ := among
      rw [List.getElem?_modify] at found
      obtain ⟨before, held, rfl⟩ := Option.map_eq_some_iff.1 found
      have agreed := members before (List.mem_of_getElem? held)
      split
      · exact ih agreed
      · exact agreed

theorem Reached.agrees {tree : Traced} (reached : Reached tree) : tree.Agrees := by
  induction reached with
  | opened request opens => exact .untouched opens
  | gathered category locale _ members =>
    exact @Agrees.collection (.ofMembers category locale _) members
  | operated _ place _ _ agrees supplied => exact agrees.afterAt supplied place
  | handedBack _ detached agrees =>
    cases agrees with
    | collection members =>
      obtain ⟨held, _⟩ := Collection.detach?_eq_some_iff.1 detached
      exact members _ (List.mem_of_getElem? held)

theorem Reached.part {tree part : Traced} (reached : Reached tree) {place : List Nat}
    (found : tree.part? place = some part) : Reached part := by
  induction place generalizing tree with
  | nil =>
    cases found
    exact reached
  | cons index rest ih =>
    cases tree with
    | volume request wasClosed single => cases found
    | collection wasClosed group =>
      rw [part?, Option.bind_eq_some_iff] at found
      obtain ⟨member, held, found⟩ := found
      exact ih (.handedBack reached (Collection.detach?_eq_some_iff.2 ⟨held, rfl⟩)) found

theorem wordCount_of_wasClosed {tree : Traced} (agrees : tree.Agrees)
    (closed : tree.wasClosed = true) : tree.dictionary.wordCount = 0 := by
  -- A volume gave its words up when it was closed, and a collection its members.
  cases agrees with
  | untouched => cases closed
  | emptied => simp only [dictionary, Dictionary.wordCount_volume, Volume.wordCount_close]
  | collection =>
    have deserted := Collection.members_of_isClosed closed
    simp [dictionary_collection, Dictionary.wordCount, deserted]

theorem exists_settles {request : Request} {wasClosed : Bool} {single : Volume}
    (agrees : (volume request wasClosed single).Agrees) :
    ∃ opened, request.Settles opened single := by
  have settles : ∀ opened, request.volume = .ok opened → single.defect? = opened.defect? →
      single.category = opened.category → single.locale = opened.locale →
      request.Settles opened single := by
    intro opened opens defect category locale
    have validity : single.isValid = opened.isValid := by simp only [Volume.isValid, defect]
    refine ⟨opens, validity, defect, category.trans (Request.role opens).1,
      locale.trans (Request.role opens).2, ?_, ?_, ?_⟩
    · rw [Volume.isValid, Option.isNone_eq_false_iff, Option.isSome_iff_exists]
    · intro found
      rw [defect, Request.opening_eq_invalid_iff opens]
    · rw [validity, Request.opening_eq_valid_iff opens]
  cases agrees with
  | untouched opens => exact ⟨single, settles single opens rfl rfl rfl⟩
  | @emptied _ opened opens => exact ⟨opened, settles opened opens opened.defect?_close rfl rfl⟩

theorem wordCount_of_quiet {tree : Traced} (agrees : tree.Agrees)
    (quiet : tree.dictionary.isValid = false ∨ tree.wasClosed = true) :
    tree.dictionary.wordCount = 0 := by
  rcases quiet with invalid | closed
  · exact Dictionary.wordCount_of_invalid invalid
  · exact wordCount_of_wasClosed agrees closed

/-- Whatever was done to a dictionary and its parts, each part that is invalid or was closed is silent,
and each volume in it is still what it was opened as. -/
theorem silent_of_reached {tree : Traced} (reached : Reached tree) :
    ∀ place part, tree.part? place = some part →
      (part.dictionary.isValid = false ∨ part.wasClosed = true → part.dictionary.Silent) ∧
      ∀ request wasClosed single, part = .volume request wasClosed single →
        (single.isValid = false ∨ wasClosed = true → single.wordCount = 0) ∧
        ∃ opened, request.Settles opened single := by
  intro place part found
  have agrees := (reached.part found).agrees
  refine ⟨fun quiet => Dictionary.silent_of_wordCount (wordCount_of_quiet agrees quiet), ?_⟩
  rintro request wasClosed single rfl
  refine ⟨?_, exists_settles agrees⟩
  intro quiet
  have wordless := wordCount_of_quiet agrees quiet
  rw [dictionary, Dictionary.wordCount_volume] at wordless
  exact wordless

def oneWord : List UInt8 :=
  [0x9B, 0xC1, 0x3A, 0xFE, 0, 2, 0, 0, 0, 0, 0, 16, 0, 0, 0, 1, 200, 2, 104, 105]

/-- A file with one word and one that is no dictionary. -/
def twoFiles : FileStore where
  nodes := [(["good.dict"], .file ⟨oneWord, by decide⟩),
    (["bad.dict"], .file ⟨[1, 2, 3, 4], by decide⟩)]
  workingDirectory := []
  distinct := by decide
  named := by decide

def goodRequest : Request := ⟨twoFiles, ⟨⟨"good.dict"⟩, 0, 20, true⟩, none, .main⟩

def badRequest : Request := ⟨twoFiles, ⟨⟨"bad.dict"⟩, 0, 4, true⟩, none, .main⟩

def good : Volume := ⟨goodRequest.extent, none, .main, Region.read oneWord⟩

def bad : Volume := ⟨badRequest.extent, none, .main, .error (.badMagic 0x01020304)⟩

/-- Both files opened and put together, and the good one closed where it is. -/
def goodClosed : Traced :=
  (collection false (.ofMembers .main none
    [.volume badRequest false bad, .volume goodRequest false good])).afterAt .close [1]

theorem silent_of_reached_goodClosed :
    Reached goodClosed ∧ goodClosed.dictionary.isValid = true ∧ goodClosed.wasClosed = false ∧
      goodClosed.part? [0] = some (.volume badRequest false bad) ∧ bad.isValid = false ∧
      (Dictionary.volume bad).Silent ∧ badRequest.Settles bad bad ∧
      goodClosed.part? [1] = some (.volume goodRequest true good.close) ∧ good.wordCount = 1 ∧
      (Dictionary.volume good.close).Silent ∧ good.close.wordCount = 0 := by
  have reached : Reached goodClosed := by
    refine .operated (.gathered .main none ?_) [1] .close (fun _ same => nomatch same)
    intro member among
    simp only [List.mem_cons, List.not_mem_nil, or_false] at among
    rcases among with rfl | rfl
    · exact .opened badRequest rfl
    · exact .opened goodRequest rfl
  have settled := silent_of_reached reached
  obtain ⟨badSilent, badOpened⟩ := settled [0] (.volume badRequest false bad) rfl
  obtain ⟨goodSilent, goodOpened⟩ := settled [1] (.volume goodRequest true good.close) rfl
  obtain ⟨_, opened, settles⟩ := badOpened _ _ _ rfl
  cases settles.opens
  exact ⟨reached, by decide, rfl, rfl, rfl, badSilent (.inl rfl), settles, rfl, by decide,
    goodSilent (.inr rfl), (goodOpened _ _ _ rfl).1 (.inr rfl)⟩

end Traced

end Lexicon
