/-
ProxyClient/Bind/Set.lean

The bind variables of a statement, in the order in which their keys were
first bound.  Binding a key again replaces its variable where it stands; an
input and an output variable may share a key.
-/
import ProxyClient.Bind.Placeholders
import ProxyClient.Bind.Value
import ProxyClient.Error

namespace ProxyClient

/-- A bind variable. -/
structure Bind where
  /-- The placeholder. -/
  key : BindKey
  /-- The value of an input variable; null for an output variable. -/
  value : Value
  /-- Which way the value travels. -/
  direction : BindDirection
  /-- The type of the value. -/
  type : ValueType
  /-- The most bytes that an output variable takes. -/
  capacity : UInt32
  deriving DecidableEq, Repr

/-- The bind variables of a statement. -/
structure BindSet where
  /-- The variables in order. -/
  entries : List Bind := []
  deriving DecidableEq, Repr, Inhabited

namespace BindSet

/-- Replaces the first entry for which `test` holds, or appends. -/
def replaceFirst {α : Type} (test : α → Bool) (new : α) : List α → List α
  | [] => [new]
  | entry :: rest => if test entry then new :: rest else entry :: replaceFirst test new rest

section ReplaceFirst

variable {α κ : Type} {test : α → Bool} {new : α}

theorem mem_replaceFirst {entry : α} {entries : List α}
    (h : entry ∈ replaceFirst test new entries) : entry = new ∨ entry ∈ entries := by
  induction entries with
  | nil => exact .inl (List.mem_singleton.mp h)
  | cons first rest ih =>
    rw [replaceFirst] at h
    split at h
    · rcases List.mem_cons.mp h with rfl | later
      · exact .inl rfl
      · exact .inr (List.mem_cons_of_mem first later)
    · rcases List.mem_cons.mp h with rfl | later
      · exact .inr List.mem_cons_self
      · exact (ih later).imp_right (List.mem_cons_of_mem first)

theorem replaceFirst_of_none {entries : List α} (none : ∀ entry ∈ entries, test entry = false)
    (new : α) : replaceFirst test new entries = entries ++ [new] := by
  induction entries with
  | nil => rfl
  | cons first rest ih =>
    have others := ih fun entry member => none entry (List.mem_cons_of_mem first member)
    rw [replaceFirst, none first List.mem_cons_self, others]
    rfl

variable [DecidableEq κ] (key : α → κ)

/-- The keys stay as they are, or one is appended. -/
theorem map_replaceFirst (entries : List α) :
    (replaceFirst (key · == key new) new entries).map key =
      if key new ∈ entries.map key then entries.map key else entries.map key ++ [key new] := by
  induction entries with
  | nil => rfl
  | cons first rest ih =>
    rw [replaceFirst]
    -- the first entry has the key, or a later one, or none
    by_cases same : key first = key new
    · simp [same]
    · have other : ¬ key new = key first := fun equal => same equal.symm
      by_cases later : key new ∈ rest.map key
      · rw [if_neg (by simp [same]), if_pos (by simp [later]), List.map_cons, ih, if_pos later]
        rfl
      · rw [if_neg (by simp [same]), if_neg (by simp [other, later]), List.map_cons, ih,
          if_neg later]
        rfl

/-- What is found under a key is what was put there, or what was found before. -/
theorem find?_replaceFirst (wanted : κ) (entries : List α) :
    (replaceFirst (key · == key new) new entries).find? (key · == wanted) =
      if key new = wanted then some new else entries.find? (key · == wanted) := by
  induction entries with
  | nil => by_cases found : key new = wanted <;> simp [replaceFirst, found]
  | cons first rest ih =>
    rw [replaceFirst]
    by_cases replaced : key first = key new
    · by_cases found : key new = wanted <;> simp [replaced, found]
    · by_cases found : key first = wanted
      · -- the entry is the one that is wanted, and stays
        have different : ¬ key new = wanted := fun equal => replaced (found.trans equal.symm)
        simp [found, different, Ne.symm different]
      · simpa [replaced, found] using ih

end ReplaceFirst

/-- Binds a variable. -/
def bind (set : BindSet) (new : Bind) : BindSet :=
  let same (entry : Bind) : Bool := entry.direction = new.direction ∧ entry.key.sameAs new.key
  ⟨replaceFirst same new set.entries⟩

/-- Binds an input variable. -/
def input (set : BindSet) (key : BindKey) (value : Value) : BindSet :=
  set.bind ⟨key, value, .input, value.type, 0⟩

/-- Binds an output variable. -/
def output (set : BindSet) (key : BindKey) (type : ValueType) (capacity : UInt32) : BindSet :=
  set.bind ⟨key, .null, .output, type, capacity⟩

/-- Removes all variables. -/
def clear (set : BindSet) : BindSet :=
  { set with entries := [] }

/-- Each variable has a placeholder in the statement; the first that has none
is the error. -/
def validate (set : BindSet) (sql : String) : Except Error Unit :=
  let placeholders := Placeholders.scan sql
  match set.entries.find? fun entry => !placeholders.contains entry.key with
  | some entry => .error (.unknownPlaceholder entry.key.wireName)
  | none => .ok ()

end BindSet

end ProxyClient
