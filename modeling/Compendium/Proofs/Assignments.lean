import Compendium.Fields
import Mathlib.Data.List.Induction
import Mathlib.Data.List.Nodup

/-!
# Sequences of assignments

What a sequence of assignments leaves, told without running it: the names in the order in which
they come up first (`names_ofAssignments`), each with the value that it is given last
(`get?_ofAssignments`). Assignments of names that are all different are what they leave
(`ofAssignments_of_nodup`), also where the first of the names were there before
(`putAll_of_front`), and assignments that are made again change nothing (`putAll_putAll`).
-/

namespace Compendium.Fields

variable {κ α : Type} [DecidableEq κ]

theorem get?_cons (name other : κ) (value : α) (rest : List (κ × α)) :
    get? ((name, value) :: rest) other = if other = name then some value else get? rest other := by
  by_cases h : other = name
  · simp [get?, h]
  · have hb : (other == name) = false := by simpa using h
    simp [get?, List.lookup_cons, hb, h]

theorem get?_append (fields more : List (κ × α)) (name : κ) :
    get? (fields ++ more) name = (get? fields name).or (get? more name) := List.lookup_append

theorem get?_putAll (fields updates : List (κ × α)) (name : κ) :
    get? (putAll fields updates) name = (get? updates.reverse name).or (get? fields name) := by
  induction updates generalizing fields with
  | nil => simp [putAll, get?]
  | cons u rest ih =>
    have hstep : putAll fields (u :: rest) = putAll (put fields u.1 u.2) rest := rfl
    obtain ⟨k, v⟩ := u
    rw [hstep, ih, get?_put, List.reverse_cons, get?_append, Option.or_assoc, get?_cons]
    by_cases h : name = k <;> simp [h, get?]

theorem mem_put {fields : List (κ × α)} {name : κ} {value : α}
    {f : κ × α} (h : f ∈ put fields name value) : f ∈ fields ∨ f = (name, value) := by
  induction fields with
  | nil => exact Or.inr (List.mem_singleton.1 h)
  | cons first rest ih =>
    unfold put at h
    split at h
    · rcases List.mem_cons.1 h with rfl | h
      · exact Or.inr rfl
      · exact Or.inl (List.mem_cons_of_mem _ h)
    · rcases List.mem_cons.1 h with rfl | h
      · exact Or.inl (List.mem_cons_self ..)
      · exact (ih h).imp_left (List.mem_cons_of_mem _)

/-- A field after others were set is one of either. -/
theorem mem_putAll {fields updates : List (κ × α)} {f : κ × α}
    (h : f ∈ putAll fields updates) : f ∈ fields ∨ f ∈ updates := by
  induction updates generalizing fields with
  | nil => exact Or.inl h
  | cons u rest ih =>
    have hrest : f ∈ putAll (put fields u.1 u.2) rest := h
    rcases ih hrest with h | h
    · refine (mem_put h).imp_right ?_
      rintro rfl
      exact List.mem_cons_self ..
    · exact Or.inr (List.mem_cons_of_mem _ h)

theorem names_putAll (fields updates : List (κ × α)) :
    names (putAll fields updates) =
      names fields ++ ((names updates).filter fun name => name ∉ names fields).eraseDups := by
  induction updates generalizing fields with
  | nil => simp [putAll, names]
  | cons u rest ih =>
    have hstep : putAll fields (u :: rest) = putAll (put fields u.1 u.2) rest := rfl
    have hnames : names (u :: rest) = u.1 :: names rest := rfl
    rw [hstep, ih, names_put, hnames]
    by_cases h : u.1 ∈ names fields
    · simp [h]
    · simp only [h, if_false, List.filter_cons, not_false_eq_true, decide_true, if_true,
        List.eraseDups_cons, List.append_assoc, List.singleton_append, List.filter_filter]
      congr 3
      refine List.filter_congr fun name _ => ?_
      by_cases hname : name = u.1 <;> simp [hname, h]

/-- A name stands where it came up first. -/
theorem names_ofAssignments (assignments : List (κ × α)) :
    names (ofAssignments assignments) = (names assignments).eraseDups := by
  have hall : (names assignments).filter (fun name => name ∉ names ([] : List (κ × α))) =
      names assignments := List.filter_eq_self.2 fun _ _ => by simp [names]
  rw [ofAssignments, names_putAll, hall]
  rfl

/-- A name has the value that it was given last. -/
theorem get?_ofAssignments (assignments : List (κ × α)) (name : κ) :
    get? (ofAssignments assignments) name = get? assignments.reverse name := by
  rw [ofAssignments, get?_putAll]
  simp [get?]

/-- A field that is set twice has the value that it was given last. -/
theorem put_put (fields : List (κ × α)) (name : κ) (value value' : α) :
    put (put fields name value) name value' = put fields name value' := by
  induction fields with
  | nil => simp [put]
  | cons f rest ih => by_cases h : f.1 = name <;> simp [put, h, ih]

/-- A field that is set to its value stays as it is. -/
theorem put_of_get? {fields : List (κ × α)} {name : κ} {value : α}
    (h : get? fields name = some value) : put fields name value = fields := by
  induction fields with
  | nil => exact absurd h (by simp [get?])
  | cons f rest ih =>
    obtain ⟨k, v⟩ := f
    rw [get?_cons] at h
    by_cases hk : name = k
    · rw [if_pos hk, Option.some.injEq] at h
      simp [put, hk, h]
    · rw [if_neg hk] at h
      rw [put, if_neg (Ne.symm hk), ih h]

theorem put_of_not_mem {fields : List (κ × α)} {name : κ} (h : name ∉ names fields) (value : α) :
    put fields name value = fields ++ [(name, value)] := by
  induction fields with
  | nil => rfl
  | cons f rest ih =>
    have hnames : names (f :: rest) = f.1 :: names rest := rfl
    rw [hnames, List.mem_cons, not_or] at h
    rw [put, if_neg (Ne.symm h.1), ih h.2, List.cons_append]

/-- Names that are new are added behind those that are there. -/
theorem putAll_of_nodup {fields updates : List (κ × α)} (h : (names (fields ++ updates)).Nodup) :
    putAll fields updates = fields ++ updates := by
  induction updates generalizing fields with
  | nil => simp [putAll]
  | cons u rest ih =>
    have hnew : u.1 ∉ names fields := by
      rw [names, List.map_append, List.nodup_append] at h
      intro hmem
      exact h.2.2 _ hmem _ (by simp) rfl
    have hstep : putAll fields (u :: rest) = putAll (put fields u.1 u.2) rest := rfl
    rw [hstep, put_of_not_mem hnew, ih (by simpa using h), List.append_assoc]
    rfl

/-- Assignments of which no two set one name are the fields that they leave. -/
theorem ofAssignments_of_nodup {assignments : List (κ × α)} (h : (names assignments).Nodup) :
    ofAssignments assignments = assignments := by
  have hall : putAll [] assignments = [] ++ assignments := putAll_of_nodup h
  exact hall

/-- Where no name comes up twice, a field is what its name is looked up to. -/
theorem mem_iff_get? {fields : List (κ × α)} (h : (names fields).Nodup) {name : κ} {value : α} :
    (name, value) ∈ fields ↔ get? fields name = some value := by
  induction fields with
  | nil => simp [get?]
  | cons f rest ih =>
    obtain ⟨k, v⟩ := f
    have hnames : names ((k, v) :: rest) = k :: names rest := rfl
    rw [hnames, List.nodup_cons] at h
    have ih' := ih h.2
    by_cases hk : name = k
    · subst hk
      have hrest : (name, value) ∉ rest := by
        intro hmem
        exact h.1 (List.mem_map_of_mem (f := (·.1)) hmem)
      simp [get?, hrest, eq_comm]
    · rw [get?_cons, if_neg hk, ← ih']
      simp [hk]

/-- Where two lists of fields differ in values, a name that the differing ones do not have is looked
up to the same in both. -/
theorem get?_map_congr {ι : Type} {l : List ι} {key : ι → κ} {value value' : ι → α} {name : κ}
    (h : ∀ i ∈ l, key i = name → value i = value' i) :
    get? (l.map fun i => (key i, value i)) name = get? (l.map fun i => (key i, value' i)) name := by
  induction l with
  | nil => rfl
  | cons i rest ih =>
    have hrest := ih fun j hj => h j (List.mem_cons_of_mem i hj)
    rw [List.map_cons, List.map_cons, get?_cons, get?_cons, hrest]
    split
    · rename_i hname
      rw [h i List.mem_cons_self hname.symm]
    · rfl

/-- A field that is looked up among some of the fields, if no name comes up twice. -/
theorem get?_filter {fields : List (κ × α)} (h : (names fields).Nodup) (test : κ × α → Bool)
    (name : κ) :
    get? (fields.filter test) name = (get? fields name).filter fun value => test (name, value) := by
  have hfilter : (names (fields.filter test)).Nodup := h.sublist (List.filter_sublist.map _)
  refine Option.ext fun value => ?_
  rw [← mem_iff_get? hfilter, List.mem_filter, mem_iff_get? h, Option.filter_eq_some_iff]

theorem get?_eq_none_iff {fields : List (κ × α)} {name : κ} :
    get? fields name = none ↔ name ∉ names fields := by
  rw [get?, List.lookup_eq_none_iff, names, List.mem_map]
  constructor
  · rintro h ⟨f, hf, rfl⟩
    simpa using h f hf
  · intro h f hf
    rw [bne_iff_ne]
    rintro rfl
    exact h ⟨f, hf, rfl⟩

theorem ofAssignments_eq_nil_iff {assignments : List (κ × α)} :
    ofAssignments assignments = [] ↔ assignments = [] := by
  constructor
  · intro h
    have hnames := names_ofAssignments assignments
    rw [h] at hnames
    cases assignments with
    | nil => rfl
    | cons u rest => simp [names, List.eraseDups_cons] at hnames
  · rintro rfl
    rfl

/-! ## Fields with the same names and values -/

omit [DecidableEq κ] in
theorem names_cons (f : κ × α) (rest : List (κ × α)) : names (f :: rest) = f.1 :: names rest := rfl

/-- Fields in which no name comes up twice are given by their names and their values. -/
theorem eq_of_get? {fields others : List (κ × α)} (h : (names fields).Nodup)
    (hnames : names fields = names others) (hget : ∀ name, get? fields name = get? others name) :
    fields = others := by
  induction fields generalizing others with
  | nil => exact (List.map_eq_nil_iff.1 hnames.symm).symm
  | cons f rest ih =>
    cases others with
    | nil => exact absurd hnames (by simp [names])
    | cons g rest' =>
      obtain ⟨k, v⟩ := f
      obtain ⟨k', v'⟩ := g
      rw [names_cons, names_cons, List.cons.injEq] at hnames
      obtain ⟨rfl, hrest⟩ := hnames
      rw [names_cons, List.nodup_cons] at h
      have hvalue : v = v' := by simpa [get?_cons] using hget k
      have hothers : ∀ name, get? rest name = get? rest' name := by
        intro name
        by_cases hname : name = k
        · subst hname
          rw [get?_eq_none_iff.2 h.1, get?_eq_none_iff.2 (hrest ▸ h.1)]
        · simpa only [get?_cons, hname, if_false] using hget name
      rw [hvalue, ih h.2 hrest hothers]

theorem get?_reverse {fields : List (κ × α)} (h : (names fields).Nodup) (name : κ) :
    get? fields.reverse name = get? fields name := by
  have hreverse : (names fields.reverse).Nodup := by
    rwa [names, List.map_reverse, List.nodup_reverse]
  refine Option.ext fun value => ?_
  rw [← mem_iff_get? hreverse, ← mem_iff_get? h, List.mem_reverse]

/-! ## Assignments over fields -/

theorem putAll_append (fields updates more : List (κ × α)) :
    putAll fields (updates ++ more) = putAll (putAll fields updates) more := List.foldl_append

theorem mem_names_putAll {fields updates : List (κ × α)} {name : κ} :
    name ∈ names (putAll fields updates) ↔ name ∈ names fields ∨ name ∈ names updates := by
  rw [names_putAll, List.mem_append, List.mem_eraseDups, List.mem_filter, decide_eq_true_iff]
  by_cases h : name ∈ names fields <;> simp [h]

/-- Assignments that are made again change nothing. -/
theorem putAll_putAll {fields : List (κ × α)} (h : (names fields).Nodup) (updates : List (κ × α)) :
    putAll (putAll fields updates) updates = putAll fields updates := by
  refine eq_of_get? (nodup_putAll (nodup_putAll h updates) updates) ?_ fun name => ?_
  · have hnone : (names updates).filter (fun name => name ∉ names (putAll fields updates)) = [] := by
      refine List.filter_eq_nil_iff.2 fun name hname => ?_
      simpa using mem_names_putAll.2 (Or.inr hname)
    rw [names_putAll, hnone]
    simp
  · simp only [get?_putAll, ← Option.or_assoc, Option.or_self]

/-- A field that is set before its fields are assigned is set by the assignments. -/
theorem putAll_put {fields others : List (κ × α)} (h : (names fields).Nodup)
    (hothers : (names others).Nodup) (name : κ) (value : α) :
    putAll fields (put others name value) = put (putAll fields others) name value := by
  by_cases hname : name ∈ names others
  · have hput := nodup_put hothers name value
    refine eq_of_get? (nodup_putAll h _) ?_ fun other => ?_
    · rw [names_put, if_pos (mem_names_putAll.2 (Or.inr hname)), names_putAll, names_putAll,
        names_put, if_pos hname]
    · rw [get?_putAll, get?_reverse hput, get?_put, get?_put, get?_putAll, get?_reverse hothers]
      split <;> simp
  · rw [put_of_not_mem hname, putAll_append]
    rfl

/-- Assignments over fields set what they leave by themselves. -/
theorem putAll_ofAssignments {fields : List (κ × α)} (h : (names fields).Nodup)
    (updates : List (κ × α)) : putAll fields (ofAssignments updates) = putAll fields updates := by
  induction updates using List.reverseRecOn with
  | nil => rfl
  | append_singleton updates u ih =>
    have hlast : ∀ others : List (κ × α),
        putAll others (updates ++ [u]) = put (putAll others updates) u.1 u.2 :=
      fun others => putAll_append others updates [u]
    have hof : ofAssignments (updates ++ [u]) = put (ofAssignments updates) u.1 u.2 := hlast []
    rw [hof, putAll_put h (nodup_ofAssignments updates), ih, hlast]

theorem eraseDups_of_nodup {names : List κ} (h : names.Nodup) : names.eraseDups = names := by
  induction names with
  | nil => rfl
  | cons name rest ih =>
    rw [List.nodup_cons] at h
    have hrest : rest.filter (fun other => !other == name) = rest := by
      refine List.filter_eq_self.2 fun other hother => ?_
      rw [Bool.not_eq_true', beq_eq_false_iff_ne]
      rintro rfl
      exact h.1 hother
    rw [List.eraseDups_cons, hrest, ih h.2]

/-- Assignments to all the names that are there, in their order, and to new ones leave what they
assign. -/
theorem putAll_of_front {fields updates : List (κ × α)} (h : (names updates).Nodup)
    (hfront : names fields <+: names updates) : putAll fields updates = updates := by
  obtain ⟨more, hmore⟩ := hfront
  have hnodup := h
  rw [← hmore, List.nodup_append] at hnodup
  obtain ⟨hfields, hnew, hapart⟩ := hnodup
  refine eq_of_get? (nodup_putAll hfields updates) ?_ fun name => ?_
  · have hold : (names fields).filter (fun name => name ∉ names fields) = [] :=
      List.filter_eq_nil_iff.2 fun name hname => by simpa using hname
    have hall : more.filter (fun name => name ∉ names fields) = more :=
      List.filter_eq_self.2 fun name hname => by
        simpa using fun hmem => hapart name hmem name hname rfl
    rw [names_putAll, ← hmore, List.filter_append, hold, hall, List.nil_append,
      eraseDups_of_nodup hnew]
  · rw [get?_putAll, get?_reverse h]
    by_cases hname : name ∈ names updates
    · have hsome : get? updates name ≠ none := fun hnone => get?_eq_none_iff.1 hnone hname
      obtain ⟨value, hvalue⟩ := Option.ne_none_iff_exists'.1 hsome
      rw [hvalue, Option.some_or]
    · have hfree : name ∉ names fields := fun hmem => hname (hmore ▸ List.mem_append_left more hmem)
      rw [get?_eq_none_iff.2 hname, get?_eq_none_iff.2 hfree, Option.or_none]

end Compendium.Fields
