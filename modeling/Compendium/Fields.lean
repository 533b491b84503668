/-!
# Named fields in order

A list of names with values. Setting a field overwrites it where it stands or adds it at the end,
so the order of the names is the order in which they were first set (`names_put`), a name occurs
once (`nodup_ofAssignments`), and only the field that is set changes (`get?_put`). Setting several
fields sets one after another, so the last value of a name stays.
-/

namespace Compendium.Fields

variable {κ α : Type} [DecidableEq κ]

def get? (fields : List (κ × α)) (name : κ) : Option α := fields.lookup name

def names (fields : List (κ × α)) : List κ := fields.map (·.1)

/-- The fields with one of them set: overwritten in its place, or added at the end. -/
def put : List (κ × α) → κ → α → List (κ × α)
  | [], name, value => [(name, value)]
  | f :: rest, name, value => if f.1 = name then (name, value) :: rest else f :: put rest name value

def putAll (fields updates : List (κ × α)) : List (κ × α) :=
  updates.foldl (fun fs u => put fs u.1 u.2) fields

/-- The fields after a sequence of assignments. -/
def ofAssignments (assignments : List (κ × α)) : List (κ × α) := putAll [] assignments

/-! ## Fields after `put` -/

theorem get?_put_self (fields : List (κ × α)) (name : κ) (value : α) :
    get? (put fields name value) name = some value := by
  induction fields with
  | nil => simp [put, get?]
  | cons f rest ih =>
    obtain ⟨k, v⟩ := f
    by_cases h : k = name
    · simp [put, h, get?]
    · have h' : (name == k) = false := by simpa using Ne.symm h
      simpa [put, h, get?, List.lookup_cons, h'] using ih

theorem get?_put_other {fields : List (κ × α)} {name other : κ} (value : α)
    (h : other ≠ name) : get? (put fields name value) other = get? fields other := by
  have h' : (other == name) = false := by simpa using h
  induction fields with
  | nil => simp [put, get?, List.lookup_cons, h']
  | cons f rest ih =>
    obtain ⟨k, v⟩ := f
    by_cases hk : k = name
    · simp [put, hk, get?, List.lookup_cons, h']
    · simp only [get?] at ih
      simp only [put, hk, if_false, get?, List.lookup_cons, ih]

/-- Setting a field changes that field and no other. -/
theorem get?_put (fields : List (κ × α)) (name other : κ) (value : α) :
    get? (put fields name value) other = if other = name then some value else get? fields other := by
  split
  · rename_i h
    rw [h, get?_put_self]
  · rename_i h
    exact get?_put_other value h

/-- A field that is taken out is not there any more. -/
theorem get?_filter_self (fields : List (κ × α)) (name : κ) :
    get? (fields.filter (·.1 ≠ name)) name = none := by
  rw [get?, List.lookup_eq_none_iff]
  intro f hf
  rw [bne_iff_ne]
  exact Ne.symm (by simpa using (List.mem_filter.1 hf).2)

/-- Taking out one field leaves the others. -/
theorem get?_filter_other {name other : κ} (fields : List (κ × α)) (h : other ≠ name) :
    get? (fields.filter (·.1 ≠ name)) other = get? fields other := by
  simp only [get?]
  induction fields with
  | nil => rfl
  | cons f rest ih =>
    obtain ⟨k, v⟩ := f
    by_cases hk : k = name
    · have h' : (other == k) = false := by simpa [hk] using h
      rw [List.filter_cons_of_neg (by simpa using hk), List.lookup_cons, h', ih]
    · rw [List.filter_cons_of_pos (by simpa using hk), List.lookup_cons, List.lookup_cons, ih]

theorem names_put (fields : List (κ × α)) (name : κ) (value : α) :
    names (put fields name value) =
      if name ∈ names fields then names fields else names fields ++ [name] := by
  induction fields with
  | nil => simp [put, names]
  | cons f rest ih =>
    by_cases h : f.1 = name
    · simp [put, h, names]
    · have ih' : (put rest name value).map (·.1) =
          if name ∈ rest.map (·.1) then rest.map (·.1) else rest.map (·.1) ++ [name] := ih
      simp only [put, h, if_false, names, List.map_cons, ih', List.mem_cons, Ne.symm h, false_or]
      split <;> simp

theorem nodup_put {fields : List (κ × α)} (h : (names fields).Nodup) (name : κ)
    (value : α) : (names (put fields name value)).Nodup := by
  rw [names_put]
  split
  · exact h
  · rename_i hn
    rw [List.nodup_append]
    exact ⟨h, by simp, fun a ha b hb hab => hn (by simp at hb; rwa [← hb, ← hab])⟩

/-- Setting fields leaves every name once. -/
theorem nodup_putAll {fields : List (κ × α)} (h : (names fields).Nodup) (updates : List (κ × α)) :
    (names (putAll fields updates)).Nodup := by
  induction updates generalizing fields with
  | nil => exact h
  | cons u rest ih => exact ih (nodup_put h u.1 u.2)

/-- A sequence of assignments leaves every name once. -/
theorem nodup_ofAssignments (assignments : List (κ × α)) :
    (names (ofAssignments assignments)).Nodup := nodup_putAll (by simp [names]) assignments

end Compendium.Fields
