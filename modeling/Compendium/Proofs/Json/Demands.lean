import Compendium.Json.Writer
import Compendium.Proofs.Json.Readings
import Compendium.Text.Utf8

/-!
# Values that meet a demand

A demand is put to every number and every text in a value, so a list or an object meets it if its parts
do. A reply can show a value if its numbers are finite and its texts consist of characters: such texts
are just those that the compact form writes without a half (`firstHalves?_compactPoints`).
-/

namespace Compendium.Json

variable {d : Demand} {fields updates : List (Text × Json)} {items : List Json} {name : Text} {v : Json}

/-! ## Lists and objects -/

@[simp] theorem meets_null (d : Demand) : null.meets d = true := rfl

@[simp] theorem meets_bool (d : Demand) (b : Bool) : (bool b).meets d = true := rfl

@[simp] theorem meets_int (d : Demand) (n : Int) : (int n).meets d = true := rfl

@[simp] theorem meets_str (d : Demand) (s : Text) : (str s).meets d = d.text s := rfl

@[simp] theorem meets_arr (d : Demand) (items : List Json) : (arr items).meets d = items.all (meets d) := by
  rw [meets]
  induction items with
  | nil => rfl
  | cons v rest ih => rw [itemsMeet, List.all_cons, ih]

@[simp] theorem meets_obj (d : Demand) (fields : List (Text × Json)) :
    (obj fields).meets d = fields.all fun f => d.text f.1 && f.2.meets d := by
  rw [meets]
  induction fields with
  | nil => rfl
  | cons f rest ih => rw [fieldsMeet, List.all_cons, ih]

theorem meets_obj_iff :
    (obj fields).meets d = true ↔ ∀ f ∈ fields, d.text f.1 = true ∧ f.2.meets d = true := by
  simp only [meets_obj, List.all_eq_true, Bool.and_eq_true]

/-- Where the names are as asked, the values decide. -/
theorem meets_obj_of_names (h : ∀ f ∈ fields, d.text f.1 = true) :
    (obj fields).meets d = fields.all fun f => f.2.meets d := by
  rw [meets_obj, Bool.eq_iff_iff, List.all_eq_true, List.all_eq_true]
  exact forall₂_congr fun f hf => by rw [h f hf, Bool.true_and]

theorem isFinite_obj_iff : (obj fields).isFinite = true ↔ ∀ f ∈ fields, f.2.isFinite = true := by
  simp only [isFinite, meets_obj_iff, true_and]

theorem meets_of_get? (h : (obj fields).meets d = true) (hget : Fields.get? fields name = some v) :
    v.meets d = true := (meets_obj_iff.1 h _ (Fields.mem_of_get? hget)).2

theorem meets_getD {other : Json} (h : (obj fields).meets d = true) (hother : other.meets d = true) :
    ((Fields.get? fields name).getD other).meets d = true := by
  cases hget : Fields.get? fields name with
  | none => exact hother
  | some v => exact meets_of_get? h hget

theorem meets_putAll (h : (obj fields).meets d = true) (h' : (obj updates).meets d = true) :
    (obj (Fields.putAll fields updates)).meets d = true := by
  rw [meets_obj_iff] at h h' ⊢
  intro f hf
  exact (Fields.mem_putAll hf).elim (h f) (h' f)

/-! ## Texts that consist of characters -/

/-- Every text in the value, the names of fields too, consists of characters. -/
def isPlain (v : Json) : Bool := v.meets ⟨fun _ => true, Text.isPlain⟩

/-- The numbers in the value are finite, and its texts consist of characters. -/
def isShowable (v : Json) : Bool := v.meets ⟨Double.isFinite, Text.isPlain⟩

section
variable (number : Double → Bool) (text : Text → Bool)

mutual

/-- What is asked of numbers and of texts is asked of each by itself. -/
theorem meets_mk (v : Json) :
    v.meets ⟨number, text⟩ = (v.meets ⟨number, fun _ => true⟩ && v.meets ⟨fun _ => true, text⟩) := by
  cases v with
  | arr items => simp only [meets, itemsMeet_mk items]
  | obj fields => simp only [meets, fieldsMeet_mk fields]
  | _ => simp [meets]

theorem itemsMeet_mk (items : List Json) : itemsMeet ⟨number, text⟩ items =
    (itemsMeet ⟨number, fun _ => true⟩ items && itemsMeet ⟨fun _ => true, text⟩ items) := by
  cases items with
  | nil => rfl
  | cons v rest =>
    simp only [itemsMeet, meets_mk v, itemsMeet_mk rest]
    ac_rfl

theorem fieldsMeet_mk (fields : List (Text × Json)) : fieldsMeet ⟨number, text⟩ fields =
    (fieldsMeet ⟨number, fun _ => true⟩ fields && fieldsMeet ⟨fun _ => true, text⟩ fields) := by
  cases fields with
  | nil => rfl
  | cons f rest =>
    simp only [fieldsMeet, meets_mk f.2, fieldsMeet_mk rest, Bool.true_and]
    ac_rfl

end

end

theorem isShowable_eq (v : Json) : v.isShowable = (v.isFinite && v.isPlain) := meets_mk _ _ v

/-! ## The compact form -/

theorem any_asPoints (cs : List Char) : (asPoints cs).any CodePoint.isHalf = false := by
  simp [asPoints]

theorem any_points (s : Text) : s.points.any CodePoint.isHalf = !s.isPlain := by
  cases s with
  | chars s => exact any_asPoints s.toList
  | ragged r => exact r.ragged

theorem any_plainPoint (p : CodePoint) : (plainPoint p).any CodePoint.isHalf = p.isHalf := by
  cases p with
  | char c => exact any_asPoints (plainChar c)
  | _ => rfl

theorem any_compactText (s : Text) : (compactText s).any CodePoint.isHalf = !s.isPlain := by
  simp [compactText, any_plainPoint, any_points]

mutual

/-- The compact form of a value holds a half just if one of its texts does. -/
theorem any_compactPoints (v : Json) : v.compactPoints.any CodePoint.isHalf = !v.isPlain := by
  cases v with
  | str s => exact any_compactText s
  | arr items => simp [compactPoints, any_compactItems items, isPlain, meets]
  | obj fields => simp [compactPoints, any_compactFields fields, isPlain, meets]
  | bool b => cases b <;> exact any_asPoints _
  | _ => exact any_asPoints _

theorem any_compactItems (items : List Json) :
    (compactItems items).any CodePoint.isHalf = !itemsMeet ⟨fun _ => true, Text.isPlain⟩ items := by
  cases items with
  | nil => rfl
  | cons v rest =>
    have hcomma : (if rest.isEmpty then [] else [CodePoint.char ',']).any CodePoint.isHalf = false := by
      split <;> rfl
    simp only [compactItems, List.any_append, hcomma, any_compactPoints v, any_compactItems rest,
      itemsMeet, isPlain, Bool.or_false, Bool.not_and]

theorem any_compactFields (fields : List (Text × Json)) :
    (compactFields fields).any CodePoint.isHalf = !fieldsMeet ⟨fun _ => true, Text.isPlain⟩ fields := by
  cases fields with
  | nil => rfl
  | cons f rest =>
    have hcomma : (if rest.isEmpty then [] else [CodePoint.char ',']).any CodePoint.isHalf = false := by
      split <;> rfl
    simp only [compactFields, List.any_append, List.any_cons, hcomma, any_compactText,
      any_compactPoints f.2, any_compactFields rest, fieldsMeet, isPlain, CodePoint.isHalf_char,
      Bool.false_or, Bool.or_false, Bool.not_and]

end

theorem firstHalves?_eq_none_iff (ps : List CodePoint) :
    Text.Utf8.firstHalves? ps = none ↔ ps.any CodePoint.isHalf = false := by
  unfold Text.Utf8.firstHalves?
  split
  · rename_i hnone
    simpa using List.dropWhile_eq_nil_iff.1 hnone
  · rename_i p rest hfirst
    have hmem : p ∈ ps := (List.dropWhile_sublist _).mem (hfirst ▸ List.mem_cons_self ..)
    have hhalf : p.isHalf = true := by
      have hnot := List.dropWhile_get_zero_not (fun q : CodePoint => !q.isHalf) ps (by simp [hfirst])
      simpa [hfirst] using hnot
    simpa using ⟨p, hmem, hhalf⟩

/-- **The compact form of a value holds no half just if its texts consist of characters.** -/
theorem firstHalves?_compactPoints (v : Json) :
    Text.Utf8.firstHalves? v.compactPoints = none ↔ v.isPlain = true := by
  rw [firstHalves?_eq_none_iff, any_compactPoints, Bool.not_eq_false']

end Compendium.Json
