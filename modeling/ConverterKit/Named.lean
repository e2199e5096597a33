/-!
# Values under names

Lists of named values, and finite maps from names to values.

A list of named values keeps its order; a new name goes to the end. Operations look at the first
value of a name only. `NameMap` adds that no name occurs twice, so that the length of the list is
the number of names.

## Main definitions

* `Named.find?`, `Named.set`, `Named.erase`: one name in a list of named values
* `NameMap`: a finite map from names

## Main results

* `NameMap.find?_insert`, `NameMap.find?_erase`: what a change does to every name
* `NameMap.size_insert`, `NameMap.size_erase`: what it does to the number of names
-/

namespace ConverterKit

namespace Named

variable {α : Type}

/-- The value under a name. -/
def find? (name : String) : List (String × α) → Option α
  | [] => none
  | (n, a) :: rest => if n = name then some a else find? name rest

/-- Put a value under a name, in the place of the old one if there is one. -/
def set (name : String) (a : α) : List (String × α) → List (String × α)
  | [] => [(name, a)]
  | (n, b) :: rest => if n = name then (name, a) :: rest else (n, b) :: set name a rest

/-- Take the value under a name away. -/
def erase (name : String) : List (String × α) → List (String × α)
  | [] => []
  | (n, a) :: rest => if n = name then rest else (n, a) :: erase name rest

@[simp] theorem find?_nil (name : String) : find? name ([] : List (String × α)) = none := rfl

theorem find?_cons (name : String) (entry : String × α) (rest : List (String × α)) :
    find? name (entry :: rest) = if entry.1 = name then some entry.2 else find? name rest := rfl

theorem find?_set (name other : String) (a : α) (l : List (String × α)) :
    find? other (set name a l) = if name = other then some a else find? other l := by
  induction l with
  | nil => simp [set, find?]
  | cons entry rest ih =>
    obtain ⟨n, b⟩ := entry
    by_cases hn : n = name
    · subst hn; by_cases ho : n = other <;> simp [set, find?, ho]
    · by_cases ho : n = other
      · subst ho; simp [set, find?, hn, Ne.symm hn]
      · simp [set, find?, hn, ho, ih]

theorem find?_eq_none_iff (name : String) (l : List (String × α)) :
    find? name l = none ↔ name ∉ l.map Prod.fst := by
  induction l with
  | nil => simp
  | cons entry rest ih =>
    obtain ⟨n, b⟩ := entry
    by_cases hn : n = name
    · simp [find?, hn]
    · simp [find?, hn, ih, Ne.symm hn]

/-- The names after putting a value under a name: that name joins at the end unless it was there. -/
theorem map_fst_set (name : String) (a : α) (l : List (String × α)) :
    (set name a l).map Prod.fst =
      if name ∈ l.map Prod.fst then l.map Prod.fst else l.map Prod.fst ++ [name] := by
  induction l with
  | nil => simp [set]
  | cons entry rest ih =>
    obtain ⟨n, b⟩ := entry
    by_cases hn : n = name
    · simp [set, hn]
    · by_cases hr : name ∈ rest.map Prod.fst
      · rw [if_pos hr] at ih
        rw [if_pos (by simpa using Or.inr (by simpa using hr))]
        simp [set, hn, ih]
      · rw [if_neg hr] at ih
        rw [if_neg (by
          intro h
          rcases List.mem_cons.1 (by simpa using h : name ∈ n :: rest.map Prod.fst) with h | h
          · exact hn h.symm
          · exact hr h)]
        simp [set, hn, ih]

/-- The names after taking a value away. -/
theorem map_fst_erase (name : String) (l : List (String × α)) :
    (erase name l).map Prod.fst = (l.map Prod.fst).erase name := by
  induction l with
  | nil => rfl
  | cons entry rest ih =>
    obtain ⟨n, b⟩ := entry
    by_cases hn : n = name
    · simp [erase, hn]
    · simp [erase, hn, ih]

theorem find?_erase_of_ne {name other : String} (h : name ≠ other) (l : List (String × α)) :
    find? other (erase name l) = find? other l := by
  induction l with
  | nil => rfl
  | cons entry rest ih =>
    obtain ⟨n, b⟩ := entry
    by_cases hn : n = name
    · subst hn; simp [erase, find?, h]
    · simp [erase, find?, hn, ih]

end Named

/-- A finite map from names to values. -/
structure NameMap (α : Type) where
  /-- The named values. -/
  entries : List (String × α) := []
  /-- No name occurs twice. -/
  nodup : (entries.map Prod.fst).Nodup := by exact List.nodup_nil

namespace NameMap

variable {α : Type}

/-- The map without names. -/
def empty : NameMap α := {}

/-- The value of a name. -/
def find? (m : NameMap α) (name : String) : Option α := Named.find? name m.entries

/-- The number of names that have a value. -/
def size (m : NameMap α) : Nat := m.entries.length

/-- Give a name a value, instead of the one it had. -/
def insert (m : NameMap α) (name : String) (a : α) : NameMap α where
  entries := Named.set name a m.entries
  nodup := by
    rw [Named.map_fst_set]
    split
    · exact m.nodup
    · next h =>
      refine List.nodup_append.2 ⟨m.nodup, by simp, fun a ha b hb hab => ?_⟩
      obtain rfl : b = name := by simpa using hb
      exact h (hab ▸ ha)

/-- Take the value of a name away. -/
def erase (m : NameMap α) (name : String) : NameMap α where
  entries := Named.erase name m.entries
  nodup := by rw [Named.map_fst_erase]; exact m.nodup.erase name

/-- The map of a list of named values; a later value for a name replaces an earlier one. -/
def ofList (l : List (String × α)) : NameMap α :=
  l.foldl (fun m entry => m.insert entry.1 entry.2) empty

@[simp] theorem find?_empty (name : String) : (empty : NameMap α).find? name = none := rfl

@[simp] theorem size_empty : (empty : NameMap α).size = 0 := rfl

theorem find?_insert (m : NameMap α) (name other : String) (a : α) :
    (m.insert name a).find? other = if name = other then some a else m.find? other :=
  Named.find?_set name other a m.entries

theorem find?_eq_none_iff {m : NameMap α} {name : String} :
    m.find? name = none ↔ name ∉ m.entries.map Prod.fst :=
  Named.find?_eq_none_iff name m.entries

theorem find?_erase (m : NameMap α) (name other : String) :
    (m.erase name).find? other = if name = other then none else m.find? other := by
  split
  · next h =>
    subst h
    rw [find?_eq_none_iff]
    change name ∉ (Named.erase name m.entries).map Prod.fst
    rw [Named.map_fst_erase]
    exact fun hn => absurd hn (List.Nodup.not_mem_erase m.nodup)
  · next h => exact Named.find?_erase_of_ne h m.entries

theorem size_insert (m : NameMap α) (name : String) (a : α) :
    (m.insert name a).size = if (m.find? name).isSome then m.size else m.size + 1 := by
  have h := congrArg List.length (Named.map_fst_set name a m.entries)
  rw [List.length_map] at h
  change (Named.set name a m.entries).length = _
  rw [h]
  cases hf : m.find? name with
  | none =>
    rw [find?_eq_none_iff] at hf
    simp [hf, size]
  | some b =>
    have : name ∈ m.entries.map Prod.fst := by
      apply Classical.byContradiction
      intro hn
      rw [find?_eq_none_iff.2 hn] at hf
      simp at hf
    simp [this, size]

theorem size_erase (m : NameMap α) (name : String) :
    (m.erase name).size = if (m.find? name).isSome then m.size - 1 else m.size := by
  have h := congrArg List.length (Named.map_fst_erase name m.entries)
  rw [List.length_map] at h
  change (Named.erase name m.entries).length = _
  rw [h, List.length_erase]
  cases hf : m.find? name with
  | none =>
    rw [find?_eq_none_iff] at hf
    simp [hf, size]
  | some b =>
    have : name ∈ m.entries.map Prod.fst := by
      apply Classical.byContradiction
      intro hn
      rw [find?_eq_none_iff.2 hn] at hf
      simp at hf
    simp [this, size]

end NameMap

end ConverterKit
