import Lexicon.Proofs.Json.Record
import Lexicon.Settings.Basic

/-!
# Settings written in part

Any part of what settings are written as can be read again, as an object in any order and among other
members, or as an array that stops early. What is left out has its default, and all else is as it was
written.
-/

set_option autoImplicit false

namespace Lexicon

open Storage

namespace DictionarySettings

/-- The settings with some of them, told by their names, at their defaults. -/
def withDefaults (settings : DictionarySettings) (omits : String → Bool) : DictionarySettings :=
  let base : DictionarySettings := {}
  { enabled := if omits "enabled" then base.enabled else settings.enabled
    dataDirectory := if omits "data_dir" then base.dataDirectory else settings.dataDirectory
    customDirectory := if omits "custom_dir" then base.customDirectory else settings.customDirectory
    assetsDirectory := if omits "assets_dir" then base.assetsDirectory else settings.assetsDirectory
    packagePath := if omits "package_path" then base.packagePath else settings.packagePath
    packageManifest :=
      if omits "package_manifest" then base.packageManifest else settings.packageManifest
    extension := if omits "extension" then base.extension else settings.extension
    mainStem := if omits "main_prefix" then base.mainStem else settings.mainStem }

/-- The JSON values that give settings but for some fields. In an object the fields may stand in any
order and among others; an array gives the first ones. -/
inductive Gives (settings : DictionarySettings) : (String → Bool) → Json → Prop where
  | object (omits : String → Bool) {written unknown members : List (String × Json)}
      (serialized : settings.toJson = .ofMembers written)
      (foreign : ∀ entry ∈ unknown, entry.1 ∉ fields)
      (order : members.Perm ((written.filter fun entry => !omits entry.1) ++ unknown)) :
      Gives settings omits (.ofMembers members)
  | array (count : Nat) {written : List (String × Json)}
      (serialized : settings.toJson = .ofMembers written) :
      Gives settings (fun field => decide (field ∉ fields.take count))
        (.array ((written.map Prod.snd).take count))

section Reading

variable {settings : DictionarySettings} {omits : String → Bool} {value : Json}

/-- Either way a value gives each field what the settings are written as, unless it is left out. -/
theorem Gives.exists_record (given : settings.Gives omits value) :
    ∃ record, value.record? fields = some record ∧ ∀ field ∈ fields, record.value? field =
      if omits field then none else (fields.zip settings.values).lookup field := by
  cases given with
  | object _ serialized foreign order =>
    cases Json.ofMembers_injective serialized
    have kept : (((fields.zip settings.values).filter fun entry => !omits entry.1).map
        Prod.fst).Sublist fields :=
      List.filter_sublist.map Prod.fst
    have distinct : fields.Nodup := by decide
    have named : ∀ entry ∈ (fields.zip settings.values).filter fun entry => !omits entry.1,
        entry.1 ∈ fields := by
      intro entry member
      exact kept.subset (List.mem_map_of_mem member)
    obtain ⟨record, read, found⟩ :=
      Json.exists_record_of_object (distinct.sublist kept) named foreign order
    refine ⟨record, read, ?_⟩
    intro field declared
    rw [found field declared, Entries.lookup_filter_keys _ fun key => !omits key]
    cases omits field <;> rfl
  | array count serialized =>
    cases Json.ofMembers_injective serialized
    obtain ⟨record, read, found⟩ :=
      Json.exists_record_of_array fields settings.values rfl count
    refine ⟨record, read, ?_⟩
    intro field _
    rw [found field]
    by_cases given : field ∈ fields.take count <;> simp [given]

theorem nullable?_jsonOfPath (path : Option FilePath) :
    Json.nullable? path? (jsonOfPath path) = some path := by
  cases path <;> rfl

theorem ofJson?_eq_withDefaults (given : settings.Gives omits value) :
    ofJson? value = some (settings.withDefaults omits) := by
  obtain ⟨record, read, found⟩ := given.exists_record
  have reads : ∀ {α : Type} (field : String) (decode : Json → Option α) (fallback held : α)
      {json : Json}, field ∈ fields → (fields.zip settings.values).lookup field = some json →
      decode json = some held →
      record.getD? field decode fallback = some (if omits field then fallback else held) := by
    intro α field decode fallback held json declared stands
    exact Json.Record.getD?_of_value? fallback (stands ▸ found field declared)
  have readsPath : ∀ (field : String) (fallback held : Option FilePath), field ∈ fields →
      (fields.zip settings.values).lookup field = some (jsonOfPath held) →
      record.getD? field (Json.nullable? path?) fallback =
        some (if omits field then fallback else held) := by
    intro field fallback held declared stands
    exact reads field _ fallback held declared stands (nullable?_jsonOfPath held)
  -- The fields are read one after the other, in their declared order.
  rw [ofJson?, read]
  simp only [Option.bind_eq_bind, Option.bind_some]
  rw [reads "enabled" Json.bool? _ settings.enabled (by decide) rfl rfl, Option.bind_some,
    reads "data_dir" path? _ settings.dataDirectory (by decide) rfl rfl, Option.bind_some,
    readsPath "custom_dir" _ settings.customDirectory (by decide) rfl, Option.bind_some,
    readsPath "assets_dir" _ settings.assetsDirectory (by decide) rfl, Option.bind_some,
    readsPath "package_path" _ settings.packagePath (by decide) rfl, Option.bind_some,
    readsPath "package_manifest" _ settings.packageManifest (by decide) rfl, Option.bind_some,
    reads "extension" Json.string? _ settings.extension (by decide) rfl rfl, Option.bind_some,
    reads "main_prefix" Json.string? _ settings.mainStem (by decide) rfl rfl, Option.bind_some]
  rfl

end Reading

end DictionarySettings

namespace Settings

theorem ofJson?_of_object {value : Json} {dictionary : DictionarySettings}
    {unknown members : List (String × Json)}
    (read : DictionarySettings.ofJson? value = some dictionary)
    (foreign : ∀ entry ∈ unknown, entry.1 ∉ fields)
    (order : members.Perm (("dictionary", value) :: unknown)) :
    ofJson? (.ofMembers members) = some ⟨dictionary⟩ := by
  have named : ∀ entry ∈ [("dictionary", value)], entry.1 ∈ fields := by
    intro entry member
    cases List.mem_singleton.1 member
    exact List.mem_cons_self
  have distinct : ([("dictionary", value)].map Prod.fst).Nodup := List.nodup_singleton _
  obtain ⟨record, whole, found⟩ := Json.exists_record_of_object distinct named foreign order
  have given : record.value? "dictionary" = some value := found "dictionary" List.mem_cons_self
  rw [ofJson?, whole]
  simp only [Option.bind_eq_bind, Option.bind_some, Json.Record.getD?, given, read]

theorem ofJson?_of_array {value : Json} {dictionary : DictionarySettings}
    (read : DictionarySettings.ofJson? value = some dictionary) :
    ofJson? (.array [value]) = some ⟨dictionary⟩ := by
  have given : (fields.zip [value]).lookup "dictionary" = some value := rfl
  have whole : Json.record? fields (.array [value]) =
      some ⟨fun field => (fields.zip [value]).lookup field⟩ := rfl
  rw [ofJson?, whole]
  simp only [Option.bind_eq_bind, Option.bind_some, Json.Record.getD?, given, read]

/-- Settings that were written in part, in whichever way, are read as they were, and what is missing
has its default. It is so for the settings of dictionaries alone and within all settings. -/
theorem read_in_part {settings : DictionarySettings} {omits : String → Bool} {value : Json}
    (given : settings.Gives omits value) :
    DictionarySettings.ofJson? value = some (settings.withDefaults omits) ∧
    (∀ unknown members : List (String × Json), (∀ entry ∈ unknown, entry.1 ∉ fields) →
      members.Perm (("dictionary", value) :: unknown) →
      ofJson? (.ofMembers members) = some ⟨settings.withDefaults omits⟩) ∧
    ofJson? (.array [value]) = some ⟨settings.withDefaults omits⟩ := by
  have read := DictionarySettings.ofJson?_eq_withDefaults given
  refine ⟨read, ?_, ofJson?_of_array read⟩
  intro unknown members foreign order
  exact ofJson?_of_object read foreign order

def disabledBin : DictionarySettings where
  enabled := false
  customDirectory := some ⟨"user"⟩
  extension := "bin"

/-- Two of the settings in another order, around a member that is none of them. -/
def twoOfThem : Json :=
  .ofMembers [("extension", .string "bin"), ("later", .null), ("custom_dir", .string "user")]

theorem read_in_part_disabledBin :
    DictionarySettings.ofJson? twoOfThem =
        some { customDirectory := some ⟨"user"⟩, extension := "bin" } ∧
      ofJson? (.ofMembers [("note", .number), ("dictionary", twoOfThem)]) =
        some ⟨{ customDirectory := some ⟨"user"⟩, extension := "bin" }⟩ ∧
      DictionarySettings.ofJson? (.array [.bool false, .string "data"]) =
        some { enabled := false } := by
  have foreign : ∀ entry ∈ [("later", Json.null)], entry.1 ∉ DictionarySettings.fields := by
    intro entry member
    cases List.mem_singleton.1 member
    decide
  have kept : ((DictionarySettings.fields.zip disabledBin.values).filter fun entry =>
      !(entry.1 != "extension" && entry.1 != "custom_dir")) =
        [("custom_dir", .string "user"), ("extension", .string "bin")] := rfl
  have object : disabledBin.Gives
      (fun field => field != "extension" && field != "custom_dir") twoOfThem := by
    refine .object _ rfl foreign ?_
    rw [kept]
    exact @List.perm_append_comm (String × Json) [("extension", .string "bin"), ("later", .null)]
      [("custom_dir", .string "user")]
  have array : disabledBin.Gives (fun field => decide (field ∉ DictionarySettings.fields.take 2))
      (.array [.bool false, .string "data"]) := .array 2 rfl
  obtain ⟨read, within, _⟩ := read_in_part object
  refine ⟨read, ?_, (read_in_part array).1⟩
  refine within [("note", .number)] _ ?_ (.swap _ _ _)
  intro entry member
  cases List.mem_singleton.1 member
  decide

end Settings

end Lexicon
