import Compendium.Proofs.Assignments
import Compendium.Proofs.Catalog.Building

/-!
# Fields that do not touch each other

A field of an entry is what one column of its record holds, and a column is given nothing but what
stands under its own names. So a record may hold anything for one field, and the others are what they
would be without it. Main theorem `fields_are_independent`: where the records of a kind differ in what
they hold for one field, the catalogs that are built of them differ in that field alone, entry by
entry, and skip the same records.
-/

namespace Compendium

/-- The values are the same, or objects that have the same under every name but those of the
column. -/
def Column.AlikeBut (f : Column) (r r' : Json) : Prop :=
  r = r' ∨ ∃ fields fields', r = .obj fields ∧ r' = .obj fields' ∧
    ∀ name, name ∉ f.names → Fields.get? fields name = Fields.get? fields' name

namespace Entry

/-- The entries are the same, or both of the kind and the same in every field but that of the
column. -/
def AlikeBut (k : Kind) (f : Column) (e e' : Entry) : Prop :=
  e = e' ∨ e.kind = k ∧ e'.kind = k ∧
    ∀ name, name ≠ f.name → Fields.get? e.toFields name = Fields.get? e'.toFields name

/-! ## One record -/

section
variable {k : Kind} {f : Column} {fields fields' : List (Text × Json)}

/-- Any other column holds the same. -/
theorem read_congr (hf : f ∈ columns k)
    (h : ∀ name, name ∉ f.names → Fields.get? fields name = Fields.get? fields' name) {c : Column}
    (hc : c ∈ columns k) (hne : c ≠ f) : c.read (tagged k fields) = c.read (tagged k fields') := by
  have hgiven : c.given? (tagged k fields) = c.given? (tagged k fields') := by
    refine Column.given?_congr fun name hname => ?_
    have hother : name ∉ f.names := fun hmem => hne (eq_of_mem_names hc hf hname hmem)
    rw [get?_tagged, get?_tagged, h name hother]
  rw [Column.read, Column.read, hgiven]

theorem alikeBut_ofFields (hf : f ∈ columns k)
    (h : ∀ name, name ∉ f.names → Fields.get? fields name = Fields.get? fields' name) :
    AlikeBut k f (ofFields k fields) (ofFields k fields') := by
  refine Or.inr ⟨kind_ofFields k fields, kind_ofFields k fields', fun name hname => ?_⟩
  rw [toFields_ofFields, toFields_ofFields]
  refine Fields.get?_map_congr fun c hc hcname => read_congr hf h hc ?_
  rintro rfl
  exact hname (Text.chars.inj hcname).symm

end

end Entry

namespace Catalog

/-! ## The records of a kind -/

section
variable {k : Kind} {f : Column} {records records' : List Json}

theorem alikeBut_entriesOf (hf : f ∈ Entry.columns k) (h : List.Forall₂ f.AlikeBut records records') :
    List.Forall₂ (Entry.AlikeBut k f) (entriesOf k records) (entriesOf k records') := by
  induction h with
  | nil => exact .nil
  | @cons r r' rest rest' hr _ ih =>
    rcases hr with rfl | ⟨fields, fields', rfl, rfl, hsame⟩
    · cases r with
      | obj fields => exact .cons (Or.inl rfl) ih
      | _ => exact ih
    · exact .cons (Entry.alikeBut_ofFields hf hsame) ih

theorem skippedFrom_congr (h : List.Forall₂ f.AlikeBut records records') (n : Nat) :
    skippedFrom k n records = skippedFrom k n records' := by
  induction h generalizing n with
  | nil => rfl
  | @cons r r' rest rest' hr _ ih =>
    rcases hr with rfl | ⟨fields, fields', rfl, rfl, -⟩
    · cases r <;> simp only [skippedFrom, ih]
    · exact ih (n + 1)

end

/-! ## All records -/

/-- **What a record holds for a field makes no difference to the other fields.** The field is any of a
kind, the records may hold anything under its names, be it of the wrong shape, and anything under
names that no field has. -/
theorem fields_are_independent {k : Kind} {f : Column} (hf : f ∈ Entry.columns k)
    {c c' : Collections} (hrecords : List.Forall₂ f.AlikeBut (c.ofKind k) (c'.ofKind k))
    (hothers : ∀ l, l ≠ k → c.ofKind l = c'.ofKind l) :
    List.Forall₂ (Entry.AlikeBut k f) (ofCollections c) (ofCollections c') ∧
      skipped c = skipped c' := by
  have hentries : ∀ l, List.Forall₂ (Entry.AlikeBut k f)
      (entriesOf l (c.ofKind l)) (entriesOf l (c'.ofKind l)) := by
    intro l
    by_cases hl : l = k
    · subst hl
      exact alikeBut_entriesOf hf hrecords
    · rw [hothers l hl]
      exact List.forall₂_same.2 fun e _ => Or.inl rfl
  have hskipped : ∀ l, skippedFrom l 0 (c.ofKind l) = skippedFrom l 0 (c'.ofKind l) := by
    intro l
    by_cases hl : l = k
    · subst hl
      exact skippedFrom_congr hrecords 0
    · rw [hothers l hl]
  refine ⟨?_, by simp only [skipped, hskipped]⟩
  rw [entries_ofCollections, entries_ofCollections]
  exact List.rel_append (List.rel_append (hentries .creature) (hentries .spell)) (hentries .item)

/-- An armor that is a list under one spelling, and a text under the other. -/
theorem fields_are_independent_armor :
    let c : Collections := ⟨[.null, .obj [("name", .str "Goblin"), ("armorType", .arr [.int 1]),
      ("ac", .int 11)]], [.obj []], []⟩
    let c' : Collections := ⟨[.null, .obj [("armor_type", .str "hide"), ("ac", .int 11),
      ("name", .str "Goblin")]], [.obj []], []⟩
    ofCollections c ≠ ofCollections c' ∧
      List.Forall₂ (Entry.AlikeBut .creature ⟨"armorType", some "armor_type", .scalar⟩)
        (ofCollections c) (ofCollections c') ∧ skipped c = skipped c' := by
  intro c c'
  have hf : (⟨"armorType", some "armor_type", .scalar⟩ : Column) ∈ Entry.columns .creature := by
    decide
  refine ⟨by decide, fields_are_independent hf (.cons (Or.inl rfl) (.cons (Or.inr ?_) .nil)) ?_⟩
  · refine ⟨_, _, rfl, rfl, fun name hname => ?_⟩
    obtain ⟨hfirst, hsecond⟩ : name ≠ "armorType" ∧ name ≠ "armor_type" := by
      simpa [Column.names] using hname
    by_cases hac : name = "ac" <;> simp [Fields.get?_cons, hfirst, hsecond, hac]
  · rintro (_ | _ | _) hl
    · exact absurd rfl hl
    · rfl
    · rfl

end Catalog

end Compendium
