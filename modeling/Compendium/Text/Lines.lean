/-!
# Lines

A text file ends its lines with a line feed, a carriage return, or both; read as text, it has line
feeds only (`unifyNewlines_no_return`), and each part of it stood there before, up to its ends of
lines (`exists_of_unifyNewlines_append`). Lines and columns count from one.
-/

namespace Compendium.Text

/-- The text with each end of line written as one line feed. -/
def unifyNewlines : List Char → List Char
  | [] => []
  | '\r' :: '\n' :: rest => '\n' :: unifyNewlines rest
  | '\r' :: rest => '\n' :: unifyNewlines rest
  | c :: rest => c :: unifyNewlines rest

/-- Line and column of the character with `before` in front of it. -/
def lineColumn (before : List Char) : Nat × Nat :=
  (before.count '\n' + 1, (before.reverse.takeWhile (· ≠ '\n')).length + 1)

theorem unifyNewlines_no_return (cs : List Char) : '\r' ∉ unifyNewlines cs := by
  fun_induction unifyNewlines cs with
  | case1 => simp
  | case2 rest ih => simpa using ih
  | case3 rest _ ih => simpa using ih
  | case4 c rest h1 h2 ih =>
    have hc : c ≠ '\r' := fun h => h2 h
    simp [ih, Ne.symm hc]

theorem unifyNewlines_of_no_return {cs : List Char} (h : '\r' ∉ cs) : unifyNewlines cs = cs := by
  fun_induction unifyNewlines cs with
  | case1 => rfl
  | case2 rest ih => simp at h
  | case3 rest _ ih => simp at h
  | case4 c rest h1 h2 ih => rw [ih fun hm => h (List.mem_cons_of_mem _ hm)]

/-! ## Part by part -/

theorem unifyNewlines_cons {c : Char} (hc : c ≠ '\r') (cs : List Char) :
    unifyNewlines (c :: cs) = c :: unifyNewlines cs := by
  rw [unifyNewlines]
  · simp [hc]
  · exact hc

theorem unifyNewlines_return {cs : List Char} (h : cs.head? ≠ some '\n') :
    unifyNewlines ('\r' :: cs) = '\n' :: unifyNewlines cs := by
  rw [unifyNewlines]
  rintro rest rfl
  simp at h

theorem unifyNewlines_append {a b : List Char} (h : b.head? ≠ some '\n') :
    unifyNewlines (a ++ b) = unifyNewlines a ++ unifyNewlines b := by
  fun_induction unifyNewlines a with
  | case1 => rfl
  | case2 rest ih => rw [List.cons_append, List.cons_append, unifyNewlines, ih, List.cons_append]
  | case3 rest hne ih =>
    have hrest : (rest ++ b).head? ≠ some '\n' := by
      cases rest with
      | nil => exact h
      | cons d rest =>
        rintro hd
        obtain rfl := Option.some.inj hd
        exact hne rest rfl
    rw [List.cons_append, unifyNewlines_return hrest, ih, List.cons_append]
  | case4 c rest h1 h2 ih =>
    rw [List.cons_append, unifyNewlines_cons h2, ih, List.cons_append]

theorem unifyNewlines_append_of_no_return {a b : List Char} (h : '\r' ∉ a) :
    unifyNewlines (a ++ b) = a ++ unifyNewlines b := by
  induction a with
  | nil => rfl
  | cons c a ih =>
    rw [List.mem_cons, not_or] at h
    rw [List.cons_append, unifyNewlines_cons (Ne.symm h.1), ih h.2, List.cons_append]

/-- What a text is cut into when its ends of lines are the same, it can be cut into before. -/
theorem exists_of_unifyNewlines_append {cs a b : List Char} (h : unifyNewlines cs = a ++ b) :
    ∃ a' b', cs = a' ++ b' ∧ unifyNewlines a' = a ∧ unifyNewlines b' = b := by
  fun_induction unifyNewlines cs generalizing a with
  | case1 =>
    obtain ⟨rfl, rfl⟩ := List.append_eq_nil_iff.1 h.symm
    exact ⟨[], [], rfl, rfl, rfl⟩
  | case2 rest ih =>
    rcases List.cons_eq_append_iff.1 h with ⟨rfl, rfl⟩ | ⟨a, rfl, hrest⟩
    · exact ⟨[], _, rfl, rfl, rfl⟩
    · obtain ⟨a', b', rfl, rfl, rfl⟩ := ih hrest
      exact ⟨'\r' :: '\n' :: a', b', rfl, rfl, rfl⟩
  | case3 rest hne ih =>
    rcases List.cons_eq_append_iff.1 h with ⟨rfl, rfl⟩ | ⟨a, rfl, hrest⟩
    · refine ⟨[], _, rfl, rfl, ?_⟩
      rw [unifyNewlines]
      exact hne
    · obtain ⟨a', b', rfl, rfl, rfl⟩ := ih hrest
      refine ⟨'\r' :: a', b', rfl, unifyNewlines_return ?_, rfl⟩
      intro hhead
      obtain ⟨tail, rfl⟩ := List.head?_eq_some_iff.1 hhead
      exact hne (tail ++ b') rfl
  | case4 c rest h1 h2 ih =>
    rcases List.cons_eq_append_iff.1 h with ⟨rfl, rfl⟩ | ⟨a, rfl, hrest⟩
    · exact ⟨[], _, rfl, rfl, unifyNewlines_cons h2 rest⟩
    · obtain ⟨a', b', rfl, rfl, rfl⟩ := ih hrest
      exact ⟨c :: a', b', rfl, unifyNewlines_cons h2 a', rfl⟩

theorem unifyNewlines_eq_self {cs : List Char} (h : '\n' ∉ unifyNewlines cs) :
    unifyNewlines cs = cs := by
  fun_induction unifyNewlines cs with
  | case1 => rfl
  | case2 rest ih => simp at h
  | case3 rest _ ih => simp at h
  | case4 c rest h1 h2 ih => rw [ih fun hm => h (List.mem_cons_of_mem _ hm)]

/-- What has no line feed stood there before. -/
theorem exists_of_unifyNewlines_append_of_no_feed {cs a b : List Char}
    (h : unifyNewlines cs = a ++ b) (ha : '\n' ∉ a) :
    ∃ b', cs = a ++ b' ∧ unifyNewlines b' = b := by
  obtain ⟨a', b', rfl, rfl, hb⟩ := exists_of_unifyNewlines_append h
  exact ⟨b', by rw [unifyNewlines_eq_self ha], hb⟩

theorem forall_mem_unifyNewlines {p : Char → Prop} (hfeed : p '\n') (hreturn : p '\r')
    {cs : List Char} : (∀ c ∈ unifyNewlines cs, p c) ↔ ∀ c ∈ cs, p c := by
  fun_induction unifyNewlines cs with
  | case1 => rfl
  | case2 rest ih => simp [ih, hfeed, hreturn]
  | case3 rest _ ih => simp [ih, hfeed, hreturn]
  | case4 c rest h1 h2 ih => simp [ih]

end Compendium.Text
