import Lexicon.Dictionary

/-!
# Leaves of a dictionary

The volumes that a dictionary is made of, from left to right. A closed collection has none. Whether a
dictionary is valid, whether it has a word and with which frequency depends on its leaves alone, not
on how they are nested.
-/

set_option autoImplicit false

namespace Lexicon

namespace Dictionary

/-- What holds of every volume, and of a collection if of all its members, holds of every
dictionary. -/
@[elab_as_elim]
theorem inductionOn {motive : Dictionary → Prop} (dictionary : Dictionary)
    (volume : ∀ single, motive (.volume single))
    (collection : ∀ group : Collection Dictionary, (∀ member ∈ group.members, motive member) →
      motive (.collection group)) : motive dictionary := by
  refine @Dictionary.rec motive (fun group => ∀ member ∈ group.members, motive member)
    (fun roster => ∀ member ∈ (Collection.mk .main none roster).members, motive member)
    (fun members => ∀ member ∈ members, motive member) volume collection
    (fun _ _ _ held => held) (fun _ held => held) ?closed ?none ?first dictionary
  case closed =>
    intro member among
    cases among
  case none =>
    intro member among
    cases among
  case first =>
    intro first rest firstHeld restHeld member among
    cases among with
    | head => exact firstHeld
    | tail _ later => exact restHeld member later

/-! ## Leaves -/

mutual

def leaves : Dictionary → List Volume
  | .volume single => [single]
  | .collection ⟨_, _, .active members⟩ => leavesOfEach members
  | .collection ⟨_, _, .closed⟩ => []

def leavesOfEach : List Dictionary → List Volume
  | [] => []
  | member :: rest => member.leaves ++ leavesOfEach rest

end

theorem leavesOfEach_eq (members : List Dictionary) :
    leavesOfEach members = members.flatMap leaves := by
  induction members with
  | nil => rfl
  | cons member rest ih => rw [leavesOfEach, List.flatMap_cons, ih]

@[simp] theorem leaves_volume (single : Volume) : (volume single).leaves = [single] := by
  rw [leaves]

@[simp] theorem leaves_collection (group : Collection Dictionary) :
    (collection group).leaves = group.members.flatMap leaves := by
  obtain ⟨category, locale, roster⟩ := group
  cases roster with
  | active members => rw [leaves, leavesOfEach_eq]; rfl
  | closed => rw [leaves]; rfl

/-- The collection of some volumes, with nothing nested in it. -/
def gathering (category : Category) (locale : Option Locale) (volumes : List Volume) :
    Collection Dictionary :=
  .ofMembers category locale (volumes.map volume)

@[simp] theorem leaves_gathering (category : Category) (locale : Option Locale)
    (volumes : List Volume) : (collection (gathering category locale volumes)).leaves = volumes := by
  rw [leaves_collection, gathering, Collection.members_ofMembers, List.flatMap_map]
  simp only [leaves_volume, List.flatMap_singleton']

@[simp] theorem leaves_single (category : Category) (locale : Option Locale)
    (dictionary : Dictionary) :
    (collection (.ofMembers category locale [dictionary])).leaves = dictionary.leaves := by
  rw [leaves_collection, Collection.members_ofMembers, List.flatMap_singleton]

/-- How many words the volumes of a dictionary hold, each volume counted for itself. -/
def wordCount (dictionary : Dictionary) : Nat :=
  (dictionary.leaves.flatMap fun leaf => leaf.words.entries).length

theorem wordCount_le_of_mem {group : Collection Dictionary} {member : Dictionary}
    (among : member ∈ group.members) : member.wordCount ≤ (collection group).wordCount := by
  obtain ⟨before, after, split⟩ := List.append_of_mem among
  rw [wordCount, wordCount, leaves_collection, split, List.flatMap_append, List.flatMap_cons,
    List.flatMap_append, List.flatMap_append, List.length_append, List.length_append]
  omega

/-! ## Lookups -/

private theorem any_congr_mem {members : List Dictionary} {left right : Dictionary → Bool}
    (same : ∀ member ∈ members, left member = right member) :
    members.any left = members.any right := by
  have mapped : (members.map left).any id = (members.map right).any id := by
    rw [List.map_congr_left same]
  rw [List.any_map, List.any_map] at mapped
  exact mapped

theorem isValid_eq_any (dictionary : Dictionary) :
    dictionary.isValid = dictionary.leaves.any Volume.isValid := by
  induction dictionary using inductionOn with
  | volume single => rw [isValid, leaves_volume, List.any_cons, List.any_nil, Bool.or_false]
  | collection group ih =>
    rw [isValid_collection, leaves_collection, List.any_flatMap]
    exact any_congr_mem ih

theorem contains_eq_any (word : String) (dictionary : Dictionary) :
    dictionary.contains word = dictionary.leaves.any fun leaf => leaf.contains word := by
  induction dictionary using inductionOn with
  | volume single => rw [contains, leaves_volume, List.any_cons, List.any_nil, Bool.or_false]
  | collection group ih =>
    rw [contains_collection, leaves_collection, List.any_flatMap]
    exact any_congr_mem ih

theorem largerFrequency_max? (left right : List Nat) :
    largerFrequency left.max? right.max? = (left ++ right).max? := by
  induction left with
  | nil => rfl
  | cons first rest ih =>
    rw [List.cons_append, List.max?_cons, List.max?_cons, ← ih]
    cases rest.max? with
    | none => cases right.max? <;> rfl
    | some left =>
      cases right.max? with
      | none => rfl
      | some right => exact congrArg some (Nat.max_assoc first left right)

/-- The frequency of a word is the largest that a leaf has for it. -/
theorem frequency?_eq_max? (word : String) (dictionary : Dictionary) :
    dictionary.frequency? word =
      (dictionary.leaves.filterMap fun leaf => leaf.frequency? word).max? := by
  induction dictionary using inductionOn with
  | volume single =>
    rw [frequency?, leaves_volume, List.filterMap_cons, List.filterMap_nil]
    cases single.frequency? word <;> rfl
  | collection group ih =>
    rw [frequency?_collection, leaves_collection]
    generalize group.members = members at ih
    induction members with
    | nil => rfl
    | cons member rest later =>
      rw [largestFrequency?, List.flatMap_cons, List.filterMap_append, ← largerFrequency_max?,
        ih member List.mem_cons_self,
        later fun other among => ih other (List.mem_cons_of_mem member among)]

end Dictionary

end Lexicon
