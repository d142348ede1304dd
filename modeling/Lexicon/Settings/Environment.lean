/-!
# Environments

The variables of a process with their values. A value may be the empty text, which is not the same as
having no value. All values here are Unicode text: a variable with any other value does not count as
set. A null character in a value is kept like any other character, although no process can be given
such a value.

A variable is found by its name, or by the start of its entry `name=value`. The main statement says
that both ways give the same for names without an equals sign.
-/

set_option autoImplicit false

namespace Lexicon

/-- Variables and their values. The first value of a variable counts. -/
structure Environment where
  bindings : List (String × String)
  deriving DecidableEq, Repr

namespace Environment

def get? (environment : Environment) (name : String) : Option String :=
  environment.bindings.lookup name

def entry (binding : String × String) : List Char :=
  binding.1.toList ++ '=' :: binding.2.toList

/-- What follows a name and an equals sign at the start of an entry. -/
def valueAfter? (name : String) (entry : List Char) : Option String :=
  let start := name.toList ++ ['=']
  if start.isPrefixOf entry then some (String.ofList (entry.drop start.length)) else none

/-- The value that a name stands for in a text: what follows it in the first entry that begins with
it and an equals sign. So a name may reach into a value: where `A` has the value `B=C`, the name `A=B`
stands for `C`. -/
def resolve? (environment : Environment) (name : String) : Option String :=
  environment.bindings.findSome? fun binding => valueAfter? name (entry binding)

def setDefault (environment : Environment) (name value : String) : Environment :=
  match environment.get? name with
  | some _ => environment
  | none => ⟨environment.bindings ++ [(name, value)]⟩

/-- Assigns in order. The first value that a variable gets is final. -/
def setDefaults (environment : Environment) (assignments : List (String × String)) : Environment :=
  assignments.foldl (fun current (name, value) => current.setDefault name value) environment

/-- Two texts that agree have the same start before their first equals sign. -/
theorem start_eq_of_entry_eq {left right : List Char} (leftPlain : '=' ∉ left)
    (rightPlain : '=' ∉ right) {leftRest rightRest : List Char}
    (equal : left ++ '=' :: leftRest = right ++ '=' :: rightRest) : left = right := by
  induction left generalizing right with
  | nil =>
    cases right with
    | nil => rfl
    | cons c right => simp_all
  | cons c left ih =>
    cases right with
    | nil => simp_all
    | cons d right =>
      simp only [List.cons_append, List.cons.injEq] at equal
      simp only [List.mem_cons, not_or] at leftPlain rightPlain
      rw [equal.1, ih leftPlain.2 rightPlain.2 equal.2]

/-- Where neither name has an equals sign, an entry answers to its own name only. -/
theorem valueAfter?_entry {name : String} {binding : String × String}
    (plain : '=' ∉ name.toList) (plainBinding : '=' ∉ binding.1.toList) :
    valueAfter? name (entry binding) = if name = binding.1 then some binding.2 else none := by
  obtain ⟨own, value⟩ := binding
  by_cases same : name = own
  · subst same
    simp [valueAfter?, entry]
  · have noStart : ¬ (name.toList ++ ['=']) <+: (own.toList ++ '=' :: value.toList) := by
      intro ⟨rest, equal⟩
      have agree : name.toList ++ '=' :: rest = own.toList ++ '=' :: value.toList := by
        simpa using equal
      exact same (String.toList_inj.mp (start_eq_of_entry_eq plain plainBinding agree))
    simp [valueAfter?, entry, same, noStart]

/-- A name without an equals sign stands for the value of the variable of that name. -/
theorem resolve?_eq_get? {environment : Environment} {name : String} (plain : '=' ∉ name.toList)
    (named : ∀ binding ∈ environment.bindings, '=' ∉ binding.1.toList) :
    environment.resolve? name = environment.get? name := by
  obtain ⟨bindings⟩ := environment
  simp only [resolve?, get?] at *
  induction bindings with
  | nil => rfl
  | cons binding bindings ih =>
    simp only [List.mem_cons, forall_eq_or_imp] at named
    rw [List.findSome?_cons, valueAfter?_entry plain named.1, ih named.2, List.lookup_cons]
    by_cases same : name = binding.1
    · simp [same]
    · simp [same, beq_eq_false_iff_ne.mpr same]

end Environment

end Lexicon
