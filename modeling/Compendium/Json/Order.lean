import Compendium.Json.Basic

/-!
# The order of JSON values

Numbers compare by value, whole or not, with false as zero and true as one; texts compare by code
points; lists compare item by item. No other two values have an order, so a list that holds both a
number and a text cannot be sorted. A number that is undefined is less than no other and no other is
less than it, so the place that it is sorted to depends on the comparisons that are made. Main
statement: sorting keeps the values it is given (`perm_of_sort?`).
-/

namespace Compendium.Json

/-! ## Numbers -/

/-- A number that is exact, beyond all others on one side, or undefined. -/
inductive Magnitude where
  | below
  | exactly (units : Int)
  | beyond
  | undefined
deriving DecidableEq

/-- The value of a number in units of the smallest double; none of what is no number. -/
def magnitude? : Json → Option Magnitude
  | .bool b => some (.exactly (if b then Double.one else 0))
  | .int n => some (.exactly (n * Double.one))
  | .float (.finite negative units) => some (.exactly (if negative then -(units : Int) else units))
  | .float (.infinite negative) => some (if negative then .below else .beyond)
  | .float .nan => some .undefined
  | _ => none

/-- The first magnitude is less than the second. -/
def Magnitude.less : Magnitude → Magnitude → Bool
  | .below, .exactly _ => true
  | .below, .beyond => true
  | .exactly m, .exactly n => m < n
  | .exactly _, .beyond => true
  | _, _ => false

/-- Two values that are neither lists nor objects are equal. What is undefined equals itself. -/
def scalarEquals (a b : Json) : Bool :=
  match magnitude? a, magnitude? b with
  | some m, some n => m = n
  | _, _ =>
    match a, b with
    | .null, .null => true
    | .str s, .str t => s = t
    | _, _ => false

/-! ## Equality -/

mutual

/-- Two values are equal; the order of fields does not matter. -/
def equals : Json → Json → Bool
  | .arr a, .arr b => itemsEqual a b
  | .obj a, .obj b => a.length = b.length && fieldsEqual a b
  | .arr _, _ => false
  | .obj _, _ => false
  | a, b => scalarEquals a b

def itemsEqual : List Json → List Json → Bool
  | [], [] => true
  | v :: rest, w :: rest' => v.equals w && itemsEqual rest rest'
  | _, _ => false

/-- Every field is equal to the field of that name among others. -/
def fieldsEqual : List (Text × Json) → List (Text × Json) → Bool
  | [], _ => true
  | f :: rest, others =>
    (match Fields.get? others f.1 with
      | some v => f.2.equals v
      | none => false) && fieldsEqual rest others

end

/-! ## Order -/

mutual

/-- Whether the first value is less than the second; none if they have no order. -/
def less? : Json → Json → Option Bool
  | .arr a, .arr b => itemsLess? a b
  | .str s, .str t => some (s < t)
  | a, b =>
    match magnitude? a, magnitude? b with
    | some m, some n => some (m.less n)
    | _, _ => none

/-- Whether the first list is less than the second, at the first place where they differ. -/
def itemsLess? : List Json → List Json → Option Bool
  | [], b => some !b.isEmpty
  | _ :: _, [] => some false
  | v :: rest, w :: rest' => if v.equals w then itemsLess? rest rest' else less? v w

end

/-! ## Sorting -/

/-- A value put into its place among ascending values, after those that are equal to it. The place is
found by halving. -/
def insertSorted? (v : Json) (sorted : List Json) : Option (List Json) :=
  if h : sorted.length / 2 < sorted.length then
    match less? v sorted[sorted.length / 2] with
    | none => none
    | some true =>
      (insertSorted? v (sorted.take (sorted.length / 2))).map (· ++ sorted.drop (sorted.length / 2))
    | some false =>
      (insertSorted? v (sorted.drop (sorted.length / 2 + 1))).map
        (sorted.take (sorted.length / 2 + 1) ++ ·)
  else some [v]
termination_by sorted.length
decreasing_by
  all_goals
    simp only [List.length_take, List.length_drop]
    omega

/-- The values taken so far, from the last to the first, with those in front of the rest for as long as
each of them, and so the whole run, goes down from the one before it or does not; and what is left. -/
def run? (down : Bool) : List Json → List Json → Option (List Json × List Json)
  | w :: taken, v :: rest =>
    match less? v w with
    | none => none
    | some less => if less = down then run? down (v :: w :: taken) rest else some (w :: taken, v :: rest)
  | taken, rest => some (taken, rest)

/-- The longest run in front that goes down or does not, in ascending order, and what is left. -/
def firstRun? : List Json → Option (List Json × List Json)
  | v :: w :: rest =>
    (less? w v).bind fun down =>
      (run? down [w, v] rest).map fun r => (if down then r.1 else r.1.reverse, r.2)
  | items => some (items, [])

/-- The values in ascending order, equal ones in the order in which they are given; none if two of
them have no order. -/
def sort? (items : List Json) : Option (List Json) :=
  (firstRun? items).bind fun r => r.2.foldlM (fun sorted v => insertSorted? v sorted) r.1

theorem perm_of_insertSorted? {v : Json} {sorted out : List Json}
    (h : insertSorted? v sorted = some out) : out.Perm (v :: sorted) := by
  fun_induction insertSorted? v sorted generalizing out with
  | case1 => simp at h
  | case2 sorted _ _ ih =>
    obtain ⟨out', h', rfl⟩ := Option.map_eq_some_iff.1 h
    have hperm := (ih h').append_right (sorted.drop (sorted.length / 2))
    rwa [List.cons_append, List.take_append_drop] at hperm
  | case3 sorted _ _ ih =>
    obtain ⟨out', h', rfl⟩ := Option.map_eq_some_iff.1 h
    have hperm := ((ih h').append_left (sorted.take (sorted.length / 2 + 1))).trans List.perm_middle
    rwa [List.take_append_drop] at hperm
  | case4 sorted hshort =>
    have hnil : sorted = [] := List.length_eq_zero_iff.1 (by omega)
    rw [hnil, ← Option.some.inj h]

theorem perm_of_run? {down : Bool} {taken rest : List Json} {out : List Json × List Json}
    (h : run? down taken rest = some out) : (out.1 ++ out.2).Perm (taken ++ rest) := by
  fun_induction run? down taken rest with
  | case1 => simp at h
  | case2 w taken v rest _ ih => exact (ih h).trans List.perm_middle.symm
  | case3 w taken v rest less _ _ => rw [← Option.some.inj h]
  | case4 taken rest _ => rw [← Option.some.inj h]

theorem perm_of_firstRun? {items : List Json} {out : List Json × List Json}
    (h : firstRun? items = some out) : (out.1 ++ out.2).Perm items := by
  unfold firstRun? at h
  split at h
  · rename_i v w rest
    obtain ⟨down, -, h⟩ := Option.bind_eq_some_iff.1 h
    obtain ⟨r, hrun, rfl⟩ := Option.map_eq_some_iff.1 h
    have hperm : (r.1 ++ r.2).Perm (v :: w :: rest) := (perm_of_run? hrun).trans (List.Perm.swap v w rest)
    cases down with
    | true => exact hperm
    | false => exact (r.1.reverse_perm.append_right r.2).trans hperm
  · rw [← Option.some.inj h, List.append_nil]

/-- Sorting keeps the values. -/
theorem perm_of_sort? {items out : List Json} (h : sort? items = some out) : out.Perm items := by
  obtain ⟨⟨run, rest⟩, hrun, hrest⟩ := Option.bind_eq_some_iff.1 h
  refine List.Perm.trans ?_ (perm_of_firstRun? hrun)
  clear hrun h
  induction rest generalizing run with
  | nil => simp_all
  | cons v rest ih =>
    rw [List.foldlM_cons] at hrest
    obtain ⟨run', hinsert, hrest⟩ := Option.bind_eq_some_iff.1 hrest
    exact (ih run' hrest).trans
      (((perm_of_insertSorted? hinsert).append_right rest).trans List.perm_middle.symm)

end Compendium.Json
