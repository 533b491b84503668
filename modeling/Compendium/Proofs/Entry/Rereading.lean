import Compendium.Proofs.Assignments
import Compendium.Proofs.Entry.Columns

/-!
# Reading what is shown of an entry

An entry is shown as the fields that it has, with some more behind them. Reading all its fields, null
where one is absent, gives the entry again (`ofFields_toFields`). Leaving the absent ones out makes no
difference, because a column that is given null holds what it holds when nothing is given
(`Shape.held_filter`), and what stands behind is not read. Main theorem `ofFields_presentFields`.
-/

namespace Compendium

open Json

/-! ## Values of fields -/

@[simp]
theorem Json.asText?_str (s : String) : (Json.str s).asText? = some s := rfl

@[simp]
theorem Json.asText?_ofText? (s : Option String) : (ofText? s).asText? = s := by
  cases s <;> rfl

@[simp]
theorem Json.asScalar?_toJson (s : Scalar) : s.toJson.asScalar? = some s := by
  cases s <;> rfl

@[simp]
theorem Json.asScalar?_orNull (s : Option Scalar) : (Scalar.orNull s).asScalar? = s := by
  cases s with
  | none => rfl
  | some s => exact asScalar?_toJson s

@[simp]
theorem Json.statsOfFields_statsToJson (stats : Option (List (String × Scalar))) :
    (((stats.map statsToJson).getD .null).asFields?).map statsOfFields = stats := by
  cases stats with
  | none => rfl
  | some stats => simp [statsToJson, asFields?, statsOfFields, List.filterMap_map, Function.comp_def]

@[simp]
theorem Json.ofFields_actionsToJson (actions : List Action) :
    ((((Json.arr (actions.map fun a => .obj a.toFields)).asItems?.getD []).filterMap asFields?).map
      Action.ofFields) = actions := by
  have hread : ∀ a : Action, Action.ofFields a.toFields = a := fun _ => rfl
  simp [asItems?, List.filterMap_map, Function.comp_def, asFields?, hread]

@[simp]
theorem Json.asStr?_ofTexts (texts : Option (List String)) :
    (((texts.map ofTexts).getD .null).asItems?).map (·.filterMap asStr?) = texts := by
  cases texts with
  | none => rfl
  | some texts => simp [ofTexts, asItems?, asStr?, List.filterMap_map, Function.comp_def]

/-- A column that is given null holds what it holds when nothing is given. -/
theorem Shape.held_filter {shape : Shape} (hlabel : ∀ k, shape ≠ .label k) (name : String)
    (given : Option Json) :
    shape.held (given.filter fun v => Entry.isPresent (name, v)) = shape.held given := by
  rcases given with _ | v
  · rfl
  · cases v with
    | null =>
      cases shape with
      | label k => exact absurd rfl (hlabel k)
      | _ => rfl
    | _ => rfl

namespace Entry

/-! ## Reading all fields -/

/-- **Reading the fields of an entry gives the entry**, whatever they hold. -/
theorem ofFields_toFields (e : Entry) : ofFields e.kind e.toFields = e := by
  cases e with
  | creature c =>
    simp [kind, ofFields, Creature.ofFields, Heading.ofFields, textField, scalarField, spelled?,
      toFields, heading, Heading.toFields, Creature.toFields, Fields.get?_cons]
  | spell s =>
    simp [kind, ofFields, Spell.ofFields, Heading.ofFields, textField, scalarField, toFields, heading,
      Heading.toFields, Spell.toFields, Fields.get?_cons]
  | item i =>
    simp [kind, ofFields, Item.ofFields, Heading.ofFields, textField, spelled?, toFields, heading,
      Heading.toFields, Item.toFields, Fields.get?_cons]

/-- An entry is its kind and its fields. -/
theorem toFields_inj {e e' : Entry} (hkind : e.kind = e'.kind) (h : e.toFields = e'.toFields) :
    e = e' := by
  rw [← ofFields_toFields e, ← ofFields_toFields e', hkind, h]

theorem nodup_names_toFields (e : Entry) : (Fields.names e.toFields).Nodup := by
  rw [names_toFields]
  cases e.kind <;> decide

/-! ## Reading the fields that have a value -/

/-- Of a column, an entry shows what stands under its name, if that is not null; nothing is shown
under another spelling. -/
theorem given?_presentFields {e : Entry} {c : Column} (hc : c ∈ columns e.kind)
    {more : List (Text × Json)} (hmore : ∀ name ∈ c.names, .chars name ∉ Fields.names more) :
    c.given? (e.presentFields ++ more) =
      (c.given? e.toFields).filter fun v => isPresent (c.name, v) := by
  have hfields : ∀ name ∈ c.names, Fields.get? (e.presentFields ++ more) name =
      (Fields.get? e.toFields name).filter fun v => isPresent (name, v) := fun name hname => by
    rw [Fields.get?_append, Fields.get?_eq_none_iff.2 (hmore name hname), Option.or_none, presentFields,
      Fields.get?_filter e.nodup_names_toFields]
  cases hspelling : c.spelling with
  | none =>
    simp only [Column.given?, hspelling, Option.bind_none, Option.or_none,
      hfields c.name List.mem_cons_self]
  | some second =>
    have hmem : second ∈ c.names := by simp [Column.names, hspelling]
    have hunused : Fields.get? e.toFields second = none := by
      have hall : ∀ k, ∀ c ∈ columns k, ∀ second ∈ c.spelling, second ∉ (columns k).map Column.name := by
        intro k
        cases k <;> decide
      rw [Fields.get?_eq_none_iff, names_toFields]
      simpa using hall e.kind c hc second hspelling
    simp only [Column.given?, hspelling, Option.bind_some, hfields c.name List.mem_cons_self,
      hfields second hmem, hunused, Option.filter_none, Option.or_none]

/-- **Reading what is shown of an entry gives the entry again.** -/
theorem ofFields_presentFields (e : Entry) {more : List (Text × Json)}
    (hmore : ∀ c ∈ columns e.kind, ∀ name ∈ c.names, .chars name ∉ Fields.names more) :
    ofFields e.kind (e.presentFields ++ more) = e := by
  refine toFields_inj (kind_ofFields _ _) ?_
  have hsame : (ofFields e.kind (e.presentFields ++ more)).toFields =
      (ofFields e.kind e.toFields).toFields := by
    rw [toFields_ofFields, toFields_ofFields]
    refine List.map_congr_left fun c hc => ?_
    by_cases hkind : c = kindColumn e.kind
    · rw [hkind, read_kindColumn, read_kindColumn]
    · have hlabel : ∀ l, c.shape ≠ .label l := fun l hl => hkind (label_column hc hl)
      rw [Column.read, Column.read, given?_tagged hc hkind, given?_tagged hc hkind,
        given?_presentFields hc (hmore c hc), Shape.held_filter hlabel]
  rw [hsame, ofFields_toFields]

end Entry

end Compendium
