/-
**Rosters.**

A roster is a finite map that keeps its keys in the order in which they were first entered. Entering
a known key replaces its value in place; the position of a key therefore never changes until it is
erased. Distinctness of the keys is part of the type.

* `get?_insert`, `get?_modify` and `get?_erase` say what each operation does to a lookup;
* `keys_insert`, `keys_modify` and `keys_erase` say what it does to the order of the keys.
-/

namespace JobPool

/-- A finite map whose keys are listed in the order of their first entry. -/
structure Roster (κ α : Type) where
  entries : List (κ × α) := []
  distinct : (entries.map Prod.fst).Nodup := by decide

namespace Roster

variable {κ α : Type}

@[ext]
theorem ext {first second : Roster κ α} (equal : first.entries = second.entries) :
    first = second := by
  cases first
  cases second
  cases equal
  rfl

/-- The roster without entries. -/
def empty : Roster κ α := { entries := [], distinct := List.nodup_nil }

instance : Inhabited (Roster κ α) := ⟨empty⟩

/-- The keys in the order of their first entry. -/
def keys (roster : Roster κ α) : List κ := roster.entries.map Prod.fst

/-- The values in the order of their keys. -/
def values (roster : Roster κ α) : List α := roster.entries.map Prod.snd

def size (roster : Roster κ α) : Nat := roster.entries.length

theorem keys_nodup (roster : Roster κ α) : roster.keys.Nodup := roster.distinct

/-- Replaces every value, which may depend on its key. -/
def mapWithKey {β : Type} (roster : Roster κ α) (change : κ → α → β) : Roster κ β where
  entries := roster.entries.map fun entry => (entry.1, change entry.1 entry.2)
  distinct := by
    have same : (Prod.fst ∘ fun entry : κ × α => (entry.1, change entry.1 entry.2)) = Prod.fst :=
      rfl
    rw [List.map_map, same]
    exact roster.distinct

@[simp] theorem keys_mapWithKey {β : Type} (roster : Roster κ α) (change : κ → α → β) :
    (roster.mapWithKey change).keys = roster.keys := by
  simp [keys, mapWithKey]

variable [DecidableEq κ]

/-- The value of a key. -/
def get? (roster : Roster κ α) (key : κ) : Option α := roster.entries.lookup key

def contains (roster : Roster κ α) (key : κ) : Bool := (roster.get? key).isSome

/-- Changes the value of a key in place, if the key is listed. -/
def modify (roster : Roster κ α) (key : κ) (change : α → α) : Roster κ α :=
  roster.mapWithKey fun listed value => if listed = key then change value else value

/-- Enters a value: in place under a listed key, at the end under a new one. -/
def insert (roster : Roster κ α) (key : κ) (value : α) : Roster κ α :=
  if listed : key ∈ roster.keys then roster.modify key fun _ => value
  else
    { entries := roster.entries ++ [(key, value)]
      distinct := by
        rw [List.map_append, List.nodup_append]
        refine ⟨roster.distinct, by simp, ?_⟩
        intro old member new last
        rw [List.map_cons, List.map_nil, List.mem_singleton] at last
        subst last
        intro same
        exact listed (same ▸ member) }

/-- Strikes a key and its value. -/
def erase (roster : Roster κ α) (key : κ) : Roster κ α where
  entries := roster.entries.filter fun entry => entry.1 ≠ key
  distinct := roster.distinct.sublist ((List.filter_sublist).map Prod.fst)

/-! ## Lookups -/

omit [DecidableEq κ] in
theorem mem_keys_iff_exists (roster : Roster κ α) (key : κ) :
    key ∈ roster.keys ↔ ∃ value, (key, value) ∈ roster.entries := by
  simp [keys]

theorem get?_eq_none_iff (roster : Roster κ α) (key : κ) :
    roster.get? key = none ↔ key ∉ roster.keys := by
  simp only [get?, keys, List.lookup_eq_none_iff, List.mem_map]
  constructor
  · rintro absent ⟨entry, member, rfl⟩
    simpa using absent entry member
  · intro absent entry member
    simpa using fun equal : key = entry.1 => absent ⟨entry, member, equal.symm⟩

theorem contains_iff (roster : Roster κ α) (key : κ) :
    roster.contains key = true ↔ key ∈ roster.keys := by
  rw [contains, Option.isSome_iff_ne_none, ne_eq, get?_eq_none_iff, Decidable.not_not]

private theorem lookup_map (entries : List (κ × α)) (key : κ) (change : κ → α → α) :
    (entries.map fun entry => (entry.1, change entry.1 entry.2)).lookup key =
      (entries.lookup key).map (change key) := by
  induction entries with
  | nil => rfl
  | cons entry rest hypothesis =>
    rw [List.map_cons, List.lookup_cons, List.lookup_cons]
    by_cases same : key = entry.1
    · subst same
      simp
    · have differs : (key == entry.1) = false := by simpa using same
      simp only [differs]
      exact hypothesis

theorem get?_mapWithKey (roster : Roster κ α) (change : κ → α → α) (key : κ) :
    (roster.mapWithKey change).get? key = (roster.get? key).map (change key) :=
  lookup_map roster.entries key change

theorem get?_modify (roster : Roster κ α) (key other : κ) (change : α → α) :
    (roster.modify key change).get? other =
      if other = key then (roster.get? other).map change else roster.get? other := by
  rw [modify, get?_mapWithKey]
  split <;> simp

@[simp] theorem keys_modify (roster : Roster κ α) (key : κ) (change : α → α) :
    (roster.modify key change).keys = roster.keys :=
  keys_mapWithKey roster _

theorem keys_insert (roster : Roster κ α) (key : κ) (value : α) :
    (roster.insert key value).keys =
      if key ∈ roster.keys then roster.keys else roster.keys ++ [key] := by
  unfold insert
  split
  · exact keys_modify roster key _
  · simp [keys]

theorem get?_insert (roster : Roster κ α) (key other : κ) (value : α) :
    (roster.insert key value).get? other =
      if other = key then some value else roster.get? other := by
  unfold insert
  split
  next listed =>
    rw [get?_modify]
    split
    next same =>
      subst same
      have present : roster.get? other ≠ none := fun absent =>
        (get?_eq_none_iff roster other).mp absent listed
      obtain ⟨old, found⟩ := Option.ne_none_iff_exists'.mp present
      simp [found]
    next => rfl
  next unlisted =>
    change List.lookup other (roster.entries ++ [(key, value)]) = _
    rw [List.lookup_append]
    split
    next same =>
      subst same
      have absent : List.lookup other roster.entries = none :=
        (get?_eq_none_iff roster other).mpr unlisted
      simp [absent]
    next differs =>
      have single : List.lookup other [(key, value)] = none := by
        rw [List.lookup_cons]
        have unequal : (other == key) = false := by simpa using differs
        simp [unequal]
      rw [single, Option.or_none]
      rfl

theorem keys_erase (roster : Roster κ α) (key : κ) :
    (roster.erase key).keys = roster.keys.filter (· ≠ key) := by
  simp [keys, erase, List.filter_map, Function.comp_def]

private theorem lookup_filter (entries : List (κ × α)) (key other : κ) (differs : other ≠ key) :
    (entries.filter fun entry => entry.1 ≠ key).lookup other = entries.lookup other := by
  induction entries with
  | nil => rfl
  | cons entry rest hypothesis =>
    by_cases struck : entry.1 = key
    · have unequal : (other == entry.1) = false := by simpa [struck] using differs
      rw [List.filter_cons_of_neg (by simpa using struck), List.lookup_cons, unequal]
      exact hypothesis
    · rw [List.filter_cons_of_pos (by simpa using struck), List.lookup_cons, List.lookup_cons,
        hypothesis]

theorem get?_erase (roster : Roster κ α) (key other : κ) :
    (roster.erase key).get? other = if other = key then none else roster.get? other := by
  split
  next same =>
    subst same
    rw [get?_eq_none_iff, keys_erase]
    simp
  next differs => exact lookup_filter roster.entries key other differs

end Roster

end JobPool
