import Compendium.Proofs.Json.Objects
import Compendium.Proofs.Json.Readings
import Compendium.Proofs.Search.Places
import Compendium.Server.Form
import Mathlib.Data.List.TakeWhile

/-!
# What a form gives

The value of a field in a form is taken for a value of the type of the field, or it is not taken at
all. What is taken from a form that was read is of that type (`admits_of_check`): a category is one
of the labels, and a whole number is one that can be read again, because a text that is taken for
one is short, and so is a double. Such values are written and read back. Main theorem
`get?_readFields`: a form that is taken sets just the fields whose values are taken.
-/

namespace Compendium.Form

/-! ## Texts of whole numbers -/

theorem length_le_length_encode (cs : List Char) : cs.length ≤ (Text.Utf8.encode cs).length := by
  induction cs with
  | nil => simp
  | cons c cs ih =>
    have hsize := Char.utf8Size_pos c
    have hencode : Text.Utf8.encode (c :: cs) = String.utf8EncodeChar c ++ Text.Utf8.encode cs := rfl
    rw [hencode, List.length_append, String.length_utf8EncodeChar, List.length_cons]
    omega

theorem length_flatten_splitOn (c : Char) (cs : List Char) :
    (cs.splitOn c).flatten.length ≤ cs.length := by
  induction cs with
  | nil => simp
  | cons d cs ih =>
    rw [List.splitOn_cons_eq_if_modifyHead]
    split
    · simpa using Nat.le_succ_of_le ih
    · cases hsplit : cs.splitOn c with
      | nil => simp
      | cons piece pieces =>
        rw [hsplit] at ih
        simp at ih ⊢
        omega

theorem isShort_of_digitsValue? {cs : List Char} {n : Nat} (h : digitsValue? cs = some n)
    (hlimit : cs.length ≤ Json.digitLimit) : Json.IsShort n := by
  unfold digitsValue? at h
  simp only [Option.ite_none_right_eq_some, Option.some.injEq, List.all_eq_true,
    Bool.and_eq_true] at h
  obtain ⟨hgroups, rfl⟩ := h
  refine Json.isShort_of_digits ?_ (Nat.le_trans (length_flatten_splitOn '_' cs) hlimit)
  intro c hc
  obtain ⟨group, hgroup, hc⟩ := List.mem_flatten.1 hc
  exact (hgroups group hgroup).2 c hc

theorem length_withoutZeroFraction (cs : List Char) :
    (withoutZeroFraction cs).length ≤ cs.length := by
  unfold withoutZeroFraction
  split
  · split
    · exact (List.takeWhile_sublist _).length_le
    · exact Nat.le_refl _
  · exact Nat.le_refl _

theorem isShort_of_wholeOfText? {cs : List Char} {n : Int} (h : wholeOfText? cs = some n)
    (hlimit : cs.length ≤ Json.digitLimit) : Json.IsShort n := by
  have hlength := Nat.le_trans (length_withoutZeroFraction cs) hlimit
  have hvalue : ∀ {digits : List Char} {sign : Int → Int}, digits.length ≤ Json.digitLimit →
      (digitsValue? digits >>= fun m => pure (m : Int)).map sign = some n →
      ∃ m : Nat, Json.IsShort m ∧ sign m = n := by
    intro digits sign hdigits hmap
    obtain ⟨_, hbind, hsign⟩ := Option.map_eq_some_iff.1 hmap
    obtain ⟨m, hm, hpure⟩ := Option.bind_eq_some_iff.1 hbind
    obtain rfl := Option.some.inj hpure
    exact ⟨m, isShort_of_digitsValue? hm hdigits, hsign⟩
  unfold wholeOfText? at h
  split at h
  · rename_i digits hcs
    rw [hcs, List.length_cons] at hlength
    obtain ⟨m, hm, rfl⟩ := hvalue (by omega) h
    exact Json.isShort_neg.2 hm
  · rename_i digits hcs
    rw [hcs, List.length_cons] at hlength
    obtain ⟨m, hm, rfl⟩ := hvalue (by omega) h
    exact hm
  · obtain ⟨m, hm, rfl⟩ := hvalue hlength h
    exact hm

/-! ## Types of values -/

inductive ValueType where
  | category
  | flag
  | whole
  | text
deriving DecidableEq, Repr

namespace ValueType

/-- A value taken for one of the type. -/
def check : ValueType → Json → Except FieldFault Json
  | .category => readCategory
  | .flag => readFlag
  | .whole => readWhole
  | .text => readText

inductive Admits : ValueType → Json → Prop where
  | category (c : Category) : Admits .category (.str c.label)
  | flag (b : Bool) : Admits .flag (.bool b)
  | whole {n : Int} (short : Json.IsShort n) : Admits .whole (.int n)
  | text (s : Text) : Admits .text (.str s)

namespace Admits

variable {v : Json}

theorem exists_category (h : Admits .category v) : ∃ c : Category, v = .str c.label := by
  cases h with
  | category c => exact ⟨c, rfl⟩

theorem exists_flag (h : Admits .flag v) : ∃ b, v = .bool b := by
  cases h with
  | flag b => exact ⟨b, rfl⟩

theorem exists_whole (h : Admits .whole v) : ∃ n, v = .int n := by
  cases h with
  | whole short => exact ⟨_, rfl⟩

theorem exists_text (h : Admits .text v) : ∃ s, v = .str s := by
  cases h with
  | text s => exact ⟨s, rfl⟩

end Admits

theorem Admits.readsBack {t : ValueType} {v : Json} (h : t.Admits v) : v.ReadsBack := by
  cases h with
  | category c => exact Json.readsBack_str _
  | flag b => exact Json.readsBack_bool b
  | whole short => exact Json.readsBack_int short
  | text s => exact Json.readsBack_str s

theorem Admits.isFinite {t : ValueType} {v : Json} (h : t.Admits v) : v.isFinite = true := by
  cases h <;> rfl

theorem admits_of_readCategory {v w : Json} (h : readCategory v = .ok w) : Admits .category w := by
  unfold readCategory at h
  split at h
  · split at h
    · rename_i hsome
      obtain ⟨c, hc⟩ := Option.isSome_iff_exists.1 hsome
      obtain rfl := Except.ok.inj h
      rw [← Catalog.label_of_ofLabel? hc]
      exact .category c
    · exact absurd h (by simp)
  · exact absurd h (by simp)
  · exact absurd h (by simp)

theorem admits_of_readFlag {v w : Json} (h : readFlag v = .ok w) : Admits .flag w := by
  have hflag : ∀ b, Json.bool b = w → Admits .flag w := by
    rintro b rfl
    exact .flag b
  unfold readFlag at h
  split at h
  · exact hflag _ (Except.ok.inj h)
  · split_ifs at h <;> exact hflag _ (Except.ok.inj h)
  · split_ifs at h <;> exact hflag _ (Except.ok.inj h)
  · split_ifs at h <;> exact hflag _ (Except.ok.inj h)
  · exact absurd h (by simp)
  · exact absurd h (by simp)

theorem admits_of_readWhole {v w : Json} (hv : v.Tidy) (h : readWhole v = .ok w) :
    Admits .whole w := by
  unfold readWhole at h
  split at h
  · rename_i b
    obtain rfl := Except.ok.inj h
    cases b <;> exact .whole (by decide)
  · obtain rfl := Except.ok.inj h
    cases hv with
    | int short => exact .whole short
  · rename_i x
    split_ifs at h with _ _ hbound
    obtain rfl := Except.ok.inj h
    have hvalue : wholeBound = 9223372036854775808 := rfl
    have hpower : Nat.pow 10 19 = 10000000000000000000 := rfl
    exact .whole (Json.isShort_of_lt 19 (by omega) (by decide) (by decide))
  · dsimp only at h
    split_ifs at h with hlength
    split at h
    · rename_i n hn
      obtain rfl := Except.ok.inj h
      exact .whole (isShort_of_wholeOfText? hn
        (Nat.le_trans (length_le_length_encode _) (Nat.le_of_not_lt hlength)))
    · exact absurd h (by simp)
  · exact absurd h (by simp)
  · exact absurd h (by simp)

theorem admits_of_readText {v w : Json} (h : readText v = .ok w) : Admits .text w := by
  unfold readText at h
  split at h
  · obtain rfl := Except.ok.inj h
    exact .text _
  · exact absurd h (by simp)

/-- What is taken for a value of the type is one. -/
theorem admits_of_check {t : ValueType} {v w : Json} (hv : v.Tidy) (h : t.check v = .ok w) :
    t.Admits w := by
  cases t with
  | category => exact admits_of_readCategory h
  | flag => exact admits_of_readFlag h
  | whole => exact admits_of_readWhole hv h
  | text => exact admits_of_readText h

end ValueType

/-! ## Fields -/

/-- What is taken of the value of a field that may be absent or null. -/
def taken? (check : Json → Except FieldFault Json) : Option Json → Option Json
  | none | some .null => none
  | some v => (check v).toOption

theorem of_taken?_eq_some {check : Json → Except FieldFault Json} {given : Option Json} {w : Json}
    (h : taken? check given = some w) : ∃ v, given = some v ∧ check v = .ok w := by
  unfold taken? at h
  split at h
  · exact absurd h (by simp)
  · exact absurd h (by simp)
  · rename_i v _
    cases hcheck : check v with
    | error f => simp [hcheck, Except.toOption] at h
    | ok u =>
      obtain rfl : u = w := by simpa [hcheck, Except.toOption] using h
      exact ⟨v, rfl, hcheck⟩

theorem fields_readField (place : List String) (fields : List (Text × Json))
    (field : String × (Json → Except FieldFault Json)) :
    (readField place fields field).fields =
      ((taken? field.2 (Fields.get? fields field.1)).map (Text.chars field.1, ·)).toList := by
  unfold readField taken?
  cases Fields.get? fields field.1 with
  | none => rfl
  | some v =>
    cases v with
    | null => rfl
    | _ => dsimp only; split <;> simp_all [Except.toOption]

theorem fields_foldl_append (r : Reading) (rs : List Reading) :
    (rs.foldl Reading.append r).fields = r.fields ++ rs.flatMap (·.fields) := by
  induction rs generalizing r with
  | nil => simp
  | cons first rest ih => simp [ih, Reading.append]

theorem fields_readFields (place : List String) (fields : List (Text × Json))
    (wanted : List (String × (Json → Except FieldFault Json))) :
    (readFields place fields wanted).fields =
      wanted.flatMap fun f => ((taken? f.2 (Fields.get? fields f.1)).map (Text.chars f.1, ·)).toList := by
  rw [readFields, fields_foldl_append, List.nil_append, List.flatMap_map]
  simp only [fields_readField]

theorem get?_toList_map (taken : Option Json) (name other : String) :
    Fields.get? (taken.map (Text.chars name, ·)).toList (.chars other) =
      if other = name then taken else none := by
  cases taken with
  | none => simp [Fields.get?]
  | some v =>
    rw [Option.map_some, Option.toList_some, Fields.get?_cons]
    simp [Fields.get?]

/-- **A form sets just the fields that are wanted and whose values are taken.** -/
theorem get?_readFields (wanted : List (String × (Json → Except FieldFault Json)))
    (hwanted : (Fields.names wanted).Nodup) (place : List String) (fields : List (Text × Json))
    (name : String) :
    Fields.get? (readFields place fields wanted).fields name =
      (Fields.get? wanted name).bind fun check => taken? check (Fields.get? fields name) := by
  rw [fields_readFields]
  induction wanted with
  | nil => rfl
  | cons f rest ih =>
    obtain ⟨first, check⟩ := f
    have hnames : Fields.names ((first, check) :: rest) = first :: Fields.names rest := rfl
    rw [hnames, List.nodup_cons] at hwanted
    rw [List.flatMap_cons, Fields.get?_append, get?_toList_map, ih hwanted.2, Fields.get?_cons]
    by_cases h : name = first
    · subst h
      rw [if_pos rfl, if_pos rfl, Fields.get?_eq_none_iff.2 hwanted.1, Option.bind_none,
        Option.or_none, Option.bind_some]
    · rw [if_neg h, if_neg h, Option.none_or]

end Compendium.Form
