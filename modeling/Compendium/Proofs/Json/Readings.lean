import Compendium.Proofs.Assignments
import Compendium.Proofs.Json.Numerals
import Mathlib.Data.List.TakeWhile

/-!
# What reading gives

What holds of words, numbers and texts, and of lists and objects if it holds of what is in them, holds
of every value that was read (`of_readAll`). Values, items and fields are read through one another, so
the three are settled together, by induction on the fuel (`readsOnly`). Main theorem `tidy_of_readAll`: a
value that was read is tidy at every depth, because what is read of an object is assigned field by
field, and because the reader counts the digits of a whole number.
-/

namespace Compendium

namespace Fields

variable {κ α : Type} [DecidableEq κ]

theorem mem_of_get? {fields : List (κ × α)} {name : κ} {value : α}
    (h : get? fields name = some value) : (name, value) ∈ fields := by
  obtain ⟨before, after, rfl, -⟩ := List.lookup_eq_some_iff.1 h
  simp

/-- A field that assignments leave was assigned. -/
theorem mem_of_mem_ofAssignments {assignments : List (κ × α)} {f : κ × α}
    (h : f ∈ ofAssignments assignments) : f ∈ assignments :=
  (mem_putAll h).resolve_left List.not_mem_nil

end Fields

namespace Json

/-- A value in which no object has two fields of one name and every whole number is short. -/
inductive Tidy : Json → Prop where
  | null : Tidy .null
  | bool (b : Bool) : Tidy (.bool b)
  | int {n : Int} (short : IsShort n) : Tidy (.int n)
  | float (x : Double) : Tidy (.float x)
  | str (s : Text) : Tidy (.str s)
  | arr {items : List Json} (items_tidy : ∀ v ∈ items, Tidy v) : Tidy (.arr items)
  | obj {fields : List (Text × Json)} (nodup : (Fields.names fields).Nodup)
      (fields_tidy : ∀ f ∈ fields, Tidy f.2) : Tidy (.obj fields)

theorem Tidy.get? {fields : List (Text × Json)} {name : Text} {v : Json}
    (h : Tidy (.obj fields)) (hget : Fields.get? fields name = some v) : v.Tidy := by
  cases h with
  | obj _ hfields => exact hfields _ (Fields.mem_of_get? hget)

/-! ## Words and numbers -/

/-- What holds of every word and number that is read. -/
structure HoldsOnScalars (P : Json → Prop) : Prop where
  word : ∀ w ∈ words, P w.2
  whole : ∀ {negative digits v}, (∀ c ∈ digits, c.isDigit = true) →
    wholeNumber negative digits = .ok v → P v
  decimal : ∀ negative digits exponent, P (.float (Double.ofDecimal negative digits exponent))

/-- What holds of a value that is read if it holds of those that are read inside it. -/
structure HoldsOnReading (P : Json → Prop) : Prop extends HoldsOnScalars P where
  text : ∀ s, P (.str s)
  list : ∀ {items : List Json}, (∀ v ∈ items, P v) → P (.arr items)
  object : ∀ {fields : List (Text × Json)}, (Fields.names fields).Nodup → (∀ f ∈ fields, P f.2) →
    P (.obj fields)

theorem isDigit_of_wholePart? {cs : List Char} {w : Digits} (h : wholePart? cs = some w) :
    ∀ c ∈ w.digits, c.isDigit = true := by
  have hleading : ∀ {lead cs}, leadingDigits? lead cs = some w → ∀ c ∈ w.digits, c.isDigit = true := by
    intro lead cs h c hc
    unfold leadingDigits? at h
    simp only [Option.ite_none_left_eq_some, Option.some.injEq] at h
    obtain ⟨-, rfl⟩ := h
    exact List.mem_takeWhile_imp hc
  unfold wholePart? at h
  split at h
  · obtain rfl := Option.some.inj h
    simp
  · exact hleading h

theorem eq_of_pure_ok {α : Type} {a b : α} {c d : Cursor}
    (h : (pure (a, c) : Except Fault (α × Cursor)) = .ok (b, d)) : a = b :=
  congrArg Prod.fst (Except.ok.inj h)

theorem readAll_of_read {text : List Char} {v : Json} (h : read text = .ok v) :
    readAll text = .ok v := by
  unfold read at h
  split at h
  · exact absurd h (by simp)
  · exact h

theorem of_bind_ok {α β : Type} {x : Except Fault α} {next : α → Except Fault β} {b : β}
    (h : (x >>= next) = .ok b) : ∃ a, x = .ok a ∧ next a = .ok b := by
  cases x with
  | error f => exact absurd h (by simp [Bind.bind, Except.bind])
  | ok a => exact ⟨a, rfl, h⟩

section
variable {P : Json → Prop} (hP : HoldsOnScalars P)
include hP

theorem of_readMagnitude {negative : Bool} {signSize offset : Nat} {cs : List Char} {v : Json}
    {after : Cursor} (h : readMagnitude negative signSize offset cs = .ok (v, after)) : P v := by
  unfold readMagnitude at h
  split at h
  · exact absurd h (by simp)
  · rename_i w hwhole
    dsimp only at h
    split at h
    · obtain ⟨u, hnumber, h⟩ := of_bind_ok h
      obtain rfl := eq_of_pure_ok h
      exact hP.whole (isDigit_of_wholePart? hwhole) hnumber
    · obtain rfl := eq_of_pure_ok h
      exact hP.decimal _ _ _

theorem of_readScalar {offset : Nat} {cs : List Char} {v : Json} {after : Cursor}
    (h : readScalar offset cs = .ok (v, after)) : P v := by
  unfold readScalar at h
  split at h
  · rename_i hword
    obtain rfl := eq_of_pure_ok h
    exact hP.word _ (List.mem_of_find?_eq_some hword)
  · unfold readNumber at h
    split at h <;> exact of_readMagnitude hP h

end

/-! ## Values -/

section
variable {P : Json → Prop} (hP : HoldsOnReading P)
include hP

/-- With this fuel, only values that the property holds of are read. -/
structure ReadsOnly (P : Json → Prop) (fuel : Nat) : Prop where
  value : ∀ {c v after}, readValue fuel c = .ok (v, after) → P v
  items : ∀ {c items after}, readItems fuel c = .ok (items, after) → ∀ v ∈ items, P v
  fields : ∀ {c fields after}, readFields fuel c = .ok (fields, after) → ∀ f ∈ fields, P f.2

variable {fuel : Nat} {c after : Cursor}

theorem of_readValue (ih : ReadsOnly P fuel) {v : Json}
    (h : readValue (fuel + 1) c = .ok (v, after)) : P v := by
  rw [readValue] at h
  split at h
  · obtain ⟨⟨s, _⟩, -, h⟩ := of_bind_ok h
    obtain rfl := eq_of_pure_ok h
    exact hP.text s
  · dsimp only at h
    split at h
    · obtain rfl := eq_of_pure_ok h
      exact hP.list (by simp)
    · obtain ⟨⟨items, _⟩, hitems, h⟩ := of_bind_ok h
      obtain rfl := eq_of_pure_ok h
      exact hP.list (ih.items hitems)
  · dsimp only at h
    split at h
    · obtain rfl := eq_of_pure_ok h
      exact hP.object (by simp [Fields.names]) (by simp)
    · obtain ⟨⟨fields, _⟩, hfields, h⟩ := of_bind_ok h
      obtain rfl := eq_of_pure_ok h
      exact hP.object (Fields.nodup_ofAssignments fields) fun f hf =>
        ih.fields hfields f (Fields.mem_of_mem_ofAssignments hf)
  · exact of_readScalar hP.toHoldsOnScalars h

omit hP in
theorem of_readItems (ih : ReadsOnly P fuel) {items : List Json}
    (h : readItems (fuel + 1) c = .ok (items, after)) : ∀ v ∈ items, P v := by
  rw [readItems] at h
  obtain ⟨⟨v, _⟩, hv, h⟩ := of_bind_ok h
  dsimp only at h
  split at h
  · obtain rfl := eq_of_pure_ok h
    simpa using ih.value hv
  · obtain ⟨⟨rest, _⟩, hrest, h⟩ := of_bind_ok h
    obtain rfl := eq_of_pure_ok h
    exact List.forall_mem_cons.2 ⟨ih.value hv, ih.items hrest⟩
  · exact absurd h (by simp)

omit hP in
theorem of_readFields (ih : ReadsOnly P fuel) {fields : List (Text × Json)}
    (h : readFields (fuel + 1) c = .ok (fields, after)) : ∀ f ∈ fields, P f.2 := by
  rw [readFields] at h
  obtain ⟨⟨name, _⟩, -, h⟩ := of_bind_ok h
  obtain ⟨⟨v, _⟩, hv, h⟩ := of_bind_ok h
  dsimp only at h
  split at h
  · obtain rfl := eq_of_pure_ok h
    simpa using ih.value hv
  · obtain ⟨⟨rest, _⟩, hrest, h⟩ := of_bind_ok h
    obtain rfl := eq_of_pure_ok h
    exact List.forall_mem_cons.2 ⟨ih.value hv, ih.fields hrest⟩
  · exact absurd h (by simp)

theorem readsOnly (fuel : Nat) : ReadsOnly P fuel := by
  induction fuel with
  | zero => exact ⟨by simp [readValue], by simp [readItems], by simp [readFields]⟩
  | succ fuel ih => exact ⟨of_readValue hP ih, of_readItems ih, of_readFields ih⟩

/-- What holds on reading holds of a value that was read. -/
theorem of_readAll {text : List Char} {v : Json} (h : readAll text = .ok v) : P v := by
  obtain ⟨⟨u, after⟩, hvalue, h⟩ := of_bind_ok h
  dsimp only at h
  split at h
  · obtain rfl : u = v := Except.ok.inj h
    exact (readsOnly hP _).value hvalue
  · exact absurd h (by simp)

end

/-! ## Tidy values -/

theorem tidy_of_wholeNumber {negative : Bool} {digits : List Char} {v : Json}
    (hdigits : ∀ c ∈ digits, c.isDigit = true) (h : wholeNumber negative digits = .ok v) :
    v.Tidy := by
  unfold wholeNumber at h
  split at h
  · rename_i hlimit
    have hshort := isShort_of_digits hdigits hlimit
    obtain rfl := Except.ok.inj h
    cases negative with
    | false => exact .int hshort
    | true => exact .int (isShort_neg.2 hshort)
  · exact absurd h (by simp)

theorem tidy_of_mem_words {w : List Char × Json} (h : w ∈ words) : w.2.Tidy := by
  simp only [words, List.mem_cons, List.not_mem_nil, or_false] at h
  rcases h with rfl | rfl | rfl | rfl | rfl | rfl
  · exact .null
  · exact .bool _
  · exact .bool _
  · exact .float _
  · exact .float _
  · exact .float _

/-- **A value that was read is tidy.** -/
theorem tidy_of_readAll {text : List Char} {v : Json} (h : readAll text = .ok v) : v.Tidy :=
  of_readAll
    ⟨⟨fun _ => tidy_of_mem_words, tidy_of_wholeNumber, fun _ _ _ => .float _⟩, .str, .arr, .obj⟩ h

theorem tidy_of_read {text : List Char} {v : Json} (h : read text = .ok v) : v.Tidy :=
  tidy_of_readAll (readAll_of_read h)

end Json

end Compendium
