import Lexicon.Proofs.Settings.EnvFile
import Lexicon.Settings.Load

/-!
# Precedence of settings

Which value a setting has in the end. What the environment sets comes first, then the first assignment
in the nearest file of environment variables, then the settings that were read or the defaults. A
variable counts as set even if its value is the empty text. Only three settings can be overridden, and
the directories that derive from one of them follow it.
-/

set_option autoImplicit false

namespace Lexicon

open Storage

namespace Environment

theorem get?_setDefault (environment : Environment) (assigned value name : String) :
    (environment.setDefault assigned value).get? name =
      (environment.get? name).or (if name = assigned then some value else none) := by
  rw [setDefault]
  cases held : environment.get? assigned with
  | some known =>
    by_cases same : name = assigned
    · subst same
      rw [held, Option.some_or]
    · rw [if_neg same, Option.or_none]
  | none =>
    rw [get?, List.lookup_append, ← get?, List.lookup_cons, List.lookup_nil]
    by_cases same : name = assigned
    · simp [same]
    · simp [same, beq_eq_false_iff_ne.2 same]

/-- A variable keeps the value it has, and otherwise takes the first that is assigned to it. -/
theorem get?_setDefaults (environment : Environment) (assignments : List (String × String))
    (name : String) :
    (environment.setDefaults assignments).get? name =
      (environment.get? name).or (assignments.lookup name) := by
  induction assignments generalizing environment with
  | nil => rw [List.lookup_nil, Option.or_none]; rfl
  | cons assignment rest ih =>
    obtain ⟨assigned, value⟩ := assignment
    have first : environment.setDefaults ((assigned, value) :: rest) =
        (environment.setDefault assigned value).setDefaults rest := rfl
    rw [first, ih, get?_setDefault, Option.or_assoc, List.lookup_cons]
    by_cases same : name = assigned
    · simp [same]
    · simp [same, beq_eq_false_iff_ne.2 same]

example : (setDefaults ⟨[("A", "")]⟩ [("A", "x"), ("B", "y"), ("B", "z")]).bindings =
    [("A", ""), ("B", "y")] := by decide

end Environment

/-! ## The nearest file -/

namespace Storage

theorem mem_ancestors {directory location : Location} :
    directory ∈ ancestors location ↔ directory <+: location := by
  rw [ancestors, List.mem_map]
  constructor
  · intro ⟨count, _, same⟩
    rw [← same]
    exact List.take_prefix count location
  · intro start
    refine ⟨directory.length, ?_, (List.prefix_iff_eq_take.1 start).symm⟩
    rw [List.mem_reverse, List.mem_range]
    exact Nat.lt_succ_of_le start.length_le

/-- The nearer a directory the longer its location. -/
theorem pairwise_ancestors (location : Location) :
    (ancestors location).Pairwise fun nearer farther => farther.length < nearer.length := by
  rw [ancestors, List.pairwise_map, List.pairwise_reverse]
  refine List.Pairwise.imp_of_mem ?_ List.pairwise_lt_range
  intro count larger member member' below
  rw [List.mem_range] at member member'
  rw [List.length_take, List.length_take]
  omega

namespace FileStore

/-- No `.env` file is in a directory, and there is no other hindrance to look further. -/
def LacksEnvFile (store : FileStore) (directory : Location) : Prop :=
  store.find (envPath directory) = .error .notFound ∨
    ∃ location, store.find (envPath directory) = .ok (location, .directory)

def HasEnvFile (store : FileStore) (directory : Location) (content : Content) : Prop :=
  ∃ location, store.find (envPath directory) = .ok (location, .file content)

/-- A `.env` file at or above the working directory, with none in the directories that are nearer. -/
def NearestEnvFile (store : FileStore) (content : Content) : Prop :=
  ∃ directory, directory <+: store.workingDirectory ∧ store.HasEnvFile directory content ∧
    ∀ nearer, nearer <+: store.workingDirectory → directory.length < nearer.length →
      store.LacksEnvFile nearer

variable {store : FileStore}

theorem LacksEnvFile.firstEnvFile?_cons {directory : Location}
    (lacks : store.LacksEnvFile directory) (others : List Location) :
    store.firstEnvFile? (directory :: others) = store.firstEnvFile? others := by
  rw [firstEnvFile?]
  rcases lacks with missing | ⟨location, found⟩
  · rw [missing]
  · rw [found]

theorem firstEnvFile?_eq_some_iff {directories : List Location} {content : Content} :
    store.firstEnvFile? directories = some content ↔
      ∃ before directory after, directories = before ++ directory :: after ∧
        (∀ nearer ∈ before, store.LacksEnvFile nearer) ∧ store.HasEnvFile directory content := by
  constructor
  · intro found
    induction directories with
    | nil => cases found
    | cons directory others ih =>
      have further (lacks : store.LacksEnvFile directory) :
          ∃ before last after, directory :: others = before ++ last :: after ∧
            (∀ nearer ∈ before, store.LacksEnvFile nearer) ∧ store.HasEnvFile last content := by
        rw [lacks.firstEnvFile?_cons] at found
        obtain ⟨before, last, after, rfl, passed, has⟩ := ih found
        exact ⟨directory :: before, last, after, rfl, List.forall_mem_cons.2 ⟨lacks, passed⟩, has⟩
      cases looked : store.find (envPath directory) with
      | ok outcome =>
        obtain ⟨location, node⟩ := outcome
        cases node with
        | directory => exact further (.inr ⟨location, looked⟩)
        | file held =>
          rw [firstEnvFile?, looked] at found
          cases found
          exact ⟨[], directory, others, rfl, List.forall_mem_nil _, location, looked⟩
      | error cause =>
        cases cause with
        | notFound => exact further (.inl looked)
        | _ => simp [firstEnvFile?, looked] at found
  · rintro ⟨before, directory, after, rfl, passed, location, looked⟩
    induction before with
    | nil => rw [List.nil_append, firstEnvFile?, looked]
    | cons first before ih =>
      obtain ⟨lacks, passed⟩ := List.forall_mem_cons.1 passed
      rw [List.cons_append, lacks.firstEnvFile?_cons, ih passed]

theorem envFile?_eq_some_iff {content : Content} :
    store.envFile? = some content ↔ store.NearestEnvFile content := by
  have order := pairwise_ancestors store.workingDirectory
  rw [envFile?, firstEnvFile?_eq_some_iff]
  constructor
  · intro ⟨before, directory, after, split, passed, has⟩
    rw [split, List.pairwise_append, List.pairwise_cons] at order
    obtain ⟨_, ⟨farther, _⟩, _⟩ := order
    refine ⟨directory, mem_ancestors.1 (split ▸ by simp), has, ?_⟩
    intro nearer start longer
    have among := mem_ancestors.2 start
    rw [split, List.mem_append, List.mem_cons] at among
    rcases among with earlier | same | later
    · exact passed nearer earlier
    · rw [same] at longer
      exact absurd longer (Nat.lt_irrefl _)
    · exact absurd (farther nearer later) (Nat.lt_asymm longer)
  · intro ⟨directory, start, has, passed⟩
    obtain ⟨before, after, split⟩ := List.append_of_mem (mem_ancestors.2 start)
    refine ⟨before, directory, after, split, ?_, has⟩
    intro nearer earlier
    rw [split, List.pairwise_append] at order
    obtain ⟨_, _, across⟩ := order
    refine passed nearer (mem_ancestors.1 ?_) (across nearer earlier directory List.mem_cons_self)
    rw [split]
    exact List.mem_append_left _ earlier

end FileStore

end Storage

/-- What the nearest file of environment variables assigns, in order; nothing if there is none. -/
inductive Environment.Supplies (environment : Environment) (store : FileStore) :
    List (String × String) → Prop where
  | file {content : Content} (nearest : store.NearestEnvFile content) :
      Supplies environment store (EnvFile.assignments environment content.bytes)
  | none (missing : ∀ content, ¬ store.NearestEnvFile content) : Supplies environment store []

namespace Environment

variable {environment : Environment} {store : FileStore}

theorem Supplies.unique {assignments others : List (String × String)}
    (supplies : environment.Supplies store assignments)
    (supplies' : environment.Supplies store others) : assignments = others := by
  cases supplies with
  | file nearest =>
    cases supplies' with
    | file nearest' =>
      rw [← FileStore.envFile?_eq_some_iff] at nearest nearest'
      rw [nearest, Option.some.injEq] at nearest'
      rw [nearest']
    | none missing => exact absurd nearest (missing _)
  | none missing =>
    cases supplies' with
    | file nearest => exact absurd nearest (missing _)
    | none => rfl

theorem exists_supplies (environment : Environment) (store : FileStore) :
    ∃ assignments, environment.Supplies store assignments ∧
      environment.withEnvFile store = environment.setDefaults assignments := by
  rw [withEnvFile]
  cases nearest : store.envFile? with
  | none =>
    refine ⟨[], .none ?_, rfl⟩
    intro content found
    rw [FileStore.envFile?_eq_some_iff.2 found] at nearest
    cases nearest
  | some content => exact ⟨_, .file (FileStore.envFile?_eq_some_iff.1 nearest), rfl⟩

end Environment

namespace Settings

/-- The text that overrides a setting: the value of its variable, or else what is first assigned to
it. -/
def overriding? (environment : Environment) (assignments : List (String × String))
    (variableName : String) : Option String :=
  (environment.get? variableName).or (assignments.lookup variableName)

/-- Settings in which three have their overriding texts, where there are any, and all else is as in
the base. -/
structure Layered (overriding : String → Option String) (base result : DictionarySettings) :
    Prop where
  dataDirectory : result.dataDirectory =
    ((overriding dataDirectoryVariable).map FilePath.mk).getD base.dataDirectory
  packagePath : result.packagePath =
    ((overriding packagePathVariable).map FilePath.mk).or base.packagePath
  packageManifest : result.packageManifest =
    ((overriding packageManifestVariable).map FilePath.mk).or base.packageManifest
  enabled : result.enabled = base.enabled
  customDirectory : result.customDirectory = base.customDirectory
  assetsDirectory : result.assetsDirectory = base.assetsDirectory
  extension : result.extension = base.extension
  mainStem : result.mainStem = base.mainStem
  /-- The directories are those that the base names, or else below the data directory, wherever that
  is now. -/
  customRoot : result.customRoot =
    base.customDirectory.getD (result.dataDirectory.join ⟨"custom"⟩)
  assetsRoot : result.assetsRoot =
    base.assetsDirectory.getD (result.dataDirectory.join ⟨"dicts"⟩)

/-- The settings that a file holds, without any overrides. -/
def Holds (store : FileStore) (path : FilePath) (base : Settings) : Prop :=
  ∃ location content, store.find path = .ok (location, .file content) ∧
    (Json.ofBytes? content.bytes).bind ofJson? = some base

theorem layered_override (base : Settings) (environment : Environment) :
    Layered environment.get? base.dictionary (base.override environment).dictionary :=
  ⟨rfl, rfl, rfl, rfl, rfl, rfl, rfl, rfl, rfl, rfl⟩

/-- Settings with their overrides and the environment that goes with them. -/
theorem layered_withEnvironment {store : FileStore} {environment : Environment}
    {assignments : List (String × String)}
    (applied : environment.withEnvFile store = environment.setDefaults assignments)
    (base : Settings) :
    Layered (overriding? environment assignments) base.dictionary
        (base.withEnvironment store environment).1.dictionary ∧
      ∀ name, (base.withEnvironment store environment).2.get? name =
        overriding? environment assignments name := by
  have same : (environment.withEnvFile store).get? = overriding? environment assignments := by
    funext name
    rw [applied, environment.get?_setDefaults, overriding?]
  rw [← same]
  exact ⟨layered_override base (environment.withEnvFile store), fun _ => rfl⟩

theorem readFile_eq_ok_iff {store : FileStore} {path : FilePath} {base : Settings} :
    readFile store path = .ok base ↔ Holds store path base := by
  constructor
  · intro read
    rw [readFile] at read
    split at read
    · cases read
    · cases read
    · next location content found =>
      split at read
      · cases read
      · next settings decoded =>
        cases read
        exact ⟨location, content, found, decoded⟩
  · intro ⟨location, content, found, decoded⟩
    simp only [readFile, found, decoded]

/-- Settings without a file are the defaults with their overrides. Settings from a file are those that
it holds with their overrides; if it holds none, loading fails and the environment is as it was.
Assignments that are written in the nearest file of environment variables are what it assigns. -/
theorem load_layered (store : FileStore) (environment : Environment) :
    ∃ assignments, environment.Supplies store assignments ∧
      (∀ others, environment.Supplies store others → others = assignments) ∧
      (∀ content written, store.NearestEnvFile content → EnvFile.Lists content.bytes written →
        assignments = written) ∧
      Layered (overriding? environment assignments) {}
        (fromEnvironment store environment).1.dictionary ∧
      ∀ path,
        (∃ base result after, Holds store path base ∧
          load store path environment = (.ok result, after) ∧
          Layered (overriding? environment assignments) base.dictionary result.dictionary ∧
          ∀ name, after.get? name = overriding? environment assignments name) ∨
        (∃ cause, (∀ base, ¬ Holds store path base) ∧
          load store path environment = (.error cause, environment)) := by
  obtain ⟨assignments, supplies, applied⟩ := environment.exists_supplies store
  have layers := layered_withEnvironment applied
  refine ⟨assignments, supplies, fun others supplies' => supplies'.unique supplies, ?_,
    (layers {}).1, ?_⟩
  · intro content written nearest lists
    rw [← EnvFile.assignments_of_lists environment lists]
    exact supplies.unique (.file nearest)
  intro path
  cases read : readFile store path with
  | ok base =>
    left
    obtain ⟨layered, assigned⟩ := layers base
    refine ⟨base, _, _, readFile_eq_ok_iff.1 read, ?_, layered, assigned⟩
    rw [load, read]
  | error cause =>
    right
    refine ⟨cause, ?_, by rw [load, read]⟩
    intro base held
    rw [readFile_eq_ok_iff.2 held] at read
    cases read

/-- Two values for one variable, one for another, and an assignment after a line that is none. -/
def fourAssignments : Content where
  bytes := Text.encodeUtf8
    "KBDICT_DATA_DIR=first\nKBDICT_DATA_DIR=second\nKBDICT_PACKAGE_PATH=third\n?\nA=b\n"
  bounded := by decide +kernel

/-- The file stands above the working directory, where there is a directory of the same name. -/
def underProject : FileStore where
  nodes := [(["project"], .directory), (["project", ".env"], .file fourAssignments),
    (["project", "app"], .directory), (["project", "app", ".env"], .directory)]
  workingDirectory := ["project", "app"]
  distinct := by decide
  named := by decide

theorem load_layered_underProject :
    let environment : Environment := ⟨[("KBDICT_PACKAGE_PATH", "")]⟩
    environment.Supplies underProject [("KBDICT_DATA_DIR", "first"), ("KBDICT_DATA_DIR", "second"),
        ("KBDICT_PACKAGE_PATH", "third")] ∧
      (fromEnvironment underProject environment).1.dictionary.dataDirectory = ⟨"first"⟩ ∧
      (fromEnvironment underProject environment).1.dictionary.packagePath = some ⟨""⟩ ∧
      (fromEnvironment underProject environment).1.dictionary.assetsRoot = ⟨"first/dicts"⟩ ∧
      ∃ cause, load underProject ⟨"none.json"⟩ environment = (.error cause, environment) := by
  intro environment
  have lists : EnvFile.Lists fourAssignments.bytes [("KBDICT_DATA_DIR", "first"),
      ("KBDICT_DATA_DIR", "second"), ("KBDICT_PACKAGE_PATH", "third")] := by
    refine ⟨?_, Text.encodeUtf8 "?\nA=b\n", by decide +kernel,
      .inr ⟨"?", Text.encodeUtf8 "A=b\n", ?_, by decide +kernel⟩⟩
    · rw [List.forall_mem_cons, List.forall_mem_cons, List.forall_mem_singleton]
      refine ⟨?_, ?_, ?_⟩ <;>
        exact EnvFile.isPlain_of_all ⟨'K', rfl, rfl⟩ (by decide +kernel) (by decide +kernel)
    · exact ⟨⟨'?', rfl, rfl, by decide⟩, List.forall_mem_singleton.2 (by constructor <;> decide)⟩
  have read := EnvFile.assignments_of_lists environment lists
  have nearest : underProject.NearestEnvFile fourAssignments := by
    refine ⟨["project"], ⟨["app"], rfl⟩, ⟨_, rfl⟩, ?_⟩
    intro nearer start longer
    have whole : nearer = ["project", "app"] :=
      start.eq_of_length (Nat.le_antisymm start.length_le longer)
    rw [whole]
    exact .inr ⟨_, rfl⟩
  have supplies : environment.Supplies underProject
      [("KBDICT_DATA_DIR", "first"), ("KBDICT_DATA_DIR", "second"),
        ("KBDICT_PACKAGE_PATH", "third")] := read ▸ .file nearest
  obtain ⟨assignments, _, only, _, layered, loaded⟩ := load_layered underProject environment
  rw [← only _ supplies] at layered
  have dataDirectory : (fromEnvironment underProject environment).1.dictionary.dataDirectory =
      ⟨"first"⟩ := layered.dataDirectory
  refine ⟨supplies, dataDirectory, layered.packagePath, ?_, ?_⟩
  · rw [layered.assetsRoot, dataDirectory]
    decide
  · rcases loaded ⟨"none.json"⟩ with ⟨_, _, _, ⟨_, _, found, _⟩, _⟩ | ⟨cause, _, failed⟩
    · cases found
    · exact ⟨cause, failed⟩

end Settings

end Lexicon
