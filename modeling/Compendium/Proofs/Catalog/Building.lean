import Compendium.Catalog.Basic
import Compendium.Proofs.Entry.Columns
import Mathlib.Data.List.Forall2

/-!
# Building a catalog

The records of all kinds are taken up one after another. A record that is no object is skipped with
a notice; an object has its kind set and is validated, and the first that does not validate would end
it all. Main theorem `build_eq`: none does, so every object gives its entry, in order, and every
other record its notice.
-/

namespace Compendium.Catalog

/-- A record, the kind that it is listed under, and its place in that list. -/
structure Listed where
  kind : Kind
  index : Nat
  record : Json

namespace Listed

def isObject (r : Listed) : Bool := r.record.asFields?.isSome

def entry? (r : Listed) : Option Entry := r.record.asFields?.map (Entry.ofFields r.kind)

def notice (r : Listed) : SkippedRecord := ⟨r.kind, r.index, r.record.typeWord⟩

theorem isObject_eq (r : Listed) : r.isObject = r.entry?.isSome := by
  simp [isObject, entry?]

end Listed

def listed (c : Collections) : List Listed :=
  Kind.all.flatMap fun k => (c.ofKind k).zipIdx.map fun r => ⟨k, r.2, r.1⟩

/-- The entries that were built, each as its fields, and the records that were skipped. -/
structure Built where
  entries : List (List (Text × Json))
  skipped : List SkippedRecord

def Built.take (b : Built) (r : Listed) : Except (List Column) Built :=
  match r.record with
  | .obj fields => do
    let held ← Entry.validate r.kind (Entry.tagged r.kind fields)
    return { b with entries := b.entries ++ [held] }
  | _ => return { b with skipped := b.skipped ++ [r.notice] }

/-- Takes up the records of some collections one after another. -/
def build (c : Collections) : Except (List Column) Built := (listed c).foldlM Built.take ⟨[], []⟩

/-! ## Taking up records -/

theorem take_eq (b : Built) (r : Listed) :
    b.take r = .ok ⟨b.entries ++ (r.entry?.map Entry.toFields).toList,
      b.skipped ++ if r.isObject then [] else [r.notice]⟩ := by
  obtain ⟨k, index, record⟩ := r
  cases record with
  | obj fields =>
    simp [Built.take, Entry.validate_tagged, Listed.entry?, Listed.isObject, Json.asFields?,
      Bind.bind, Except.bind, pure, Except.pure]
  | _ =>
    simp [Built.take, Listed.entry?, Listed.isObject, Json.asFields?, pure, Except.pure]

theorem foldlM_take (rs : List Listed) (b : Built) :
    rs.foldlM Built.take b = .ok ⟨b.entries ++ (rs.filterMap Listed.entry?).map Entry.toFields,
      b.skipped ++ (rs.filter fun r => !r.isObject).map Listed.notice⟩ := by
  induction rs generalizing b with
  | nil => simp [pure, Except.pure]
  | cons r rest ih =>
    rw [List.foldlM_cons, take_eq]
    simp only [Bind.bind, Except.bind, ih]
    cases hentry : r.entry? <;> simp [hentry, r.isObject_eq]

/-! ## The catalog and what it skips -/

theorem entriesOf_eq (k : Kind) (records : List Json) (n : Nat) :
    entriesOf k records =
      ((records.zipIdx n).map fun r => (⟨k, r.2, r.1⟩ : Listed)).filterMap Listed.entry? := by
  induction records generalizing n with
  | nil => rfl
  | cons record rest ih =>
    rw [List.zipIdx_cons, List.map_cons, List.filterMap_cons, ← ih (n + 1)]
    cases record <;> rfl

theorem skippedFrom_eq (k : Kind) (records : List Json) (n : Nat) :
    skippedFrom k n records =
      (((records.zipIdx n).map fun r => (⟨k, r.2, r.1⟩ : Listed)).filter
        fun r => !r.isObject).map Listed.notice := by
  induction records generalizing n with
  | nil => rfl
  | cons record rest ih =>
    rw [List.zipIdx_cons, List.map_cons, List.filter_cons]
    cases record <;> simp [skippedFrom, ih (n + 1), Listed.isObject, Json.asFields?, Listed.notice]

theorem ofCollections_eq (c : Collections) :
    ofCollections c = (listed c).filterMap Listed.entry? := by
  rw [ofCollections, listed, List.filterMap_flatMap]
  simp only [entriesOf_eq _ _ 0]

theorem skipped_eq (c : Collections) :
    skipped c = ((listed c).filter fun r => !r.isObject).map Listed.notice := by
  rw [skipped, listed, List.filter_flatMap, List.map_flatMap]
  simp only [skippedFrom_eq]

/-- The entries of a kind are those that its records give. -/
theorem filter_kind_ofCollections (c : Collections) (k : Kind) :
    (ofCollections c).filter (·.kind = k) = entriesOf k (c.ofKind k) := by
  have hkind : ∀ l, (entriesOf l (c.ofKind l)).filter (·.kind = k) =
      if l = k then entriesOf l (c.ofKind l) else [] := by
    intro l
    split
    · rename_i hl
      exact List.filter_eq_self.2 fun e he => by simpa [hl] using kind_of_mem_entriesOf he
    · rename_i hl
      exact List.filter_eq_nil_iff.2 fun e he => by simpa [kind_of_mem_entriesOf he] using hl
  rw [ofCollections, List.filter_flatMap]
  simp only [hkind]
  cases k <;> simp [Kind.all]

/-- The entry is of the kind that the record is listed under, and is read from the record with that
kind set. -/
structure ReadFrom (r : Listed) (e : Entry) : Prop where
  kind_eq : e.kind = r.kind
  read : ∃ fields, r.record = .obj fields ∧
    Entry.ofRecord r.kind (.obj (Entry.tagged r.kind fields)) = .ok e

theorem readFrom_of_entry_eq {r : Listed} {e : Entry} (h : r.entry? = some e) : ReadFrom r e := by
  obtain ⟨k, index, record⟩ := r
  cases record with
  | obj fields =>
    obtain rfl : Entry.ofFields k fields = e := Option.some.inj h
    exact ⟨Entry.kind_ofFields k fields, fields, rfl, Entry.ofRecord_tagged k fields⟩
  | _ => exact absurd h (by simp [Listed.entry?, Json.asFields?])

theorem forall₂_readFrom (rs : List Listed) :
    List.Forall₂ ReadFrom (rs.filter Listed.isObject) (rs.filterMap Listed.entry?) := by
  induction rs with
  | nil => exact .nil
  | cons r rest ih =>
    cases hentry : r.entry? with
    | none =>
      rwa [List.filter_cons_of_neg (by simp [r.isObject_eq, hentry]), List.filterMap_cons_none hentry]
    | some e =>
      rw [List.filter_cons_of_pos (by simp [r.isObject_eq, hentry]), List.filterMap_cons_some hentry]
      exact .cons (readFrom_of_entry_eq hentry) ih

/-- **Building a catalog never fails.** Every record that is an object gives one entry, of the kind
that it is listed under, in the order of the records, and every other one is skipped, in order, with
a notice that names its kind and its place. -/
theorem build_eq (c : Collections) :
    build c = .ok ⟨(ofCollections c).map Entry.toFields, skipped c⟩ ∧
      List.Forall₂ ReadFrom ((listed c).filter Listed.isObject) (ofCollections c) ∧
      (skipped c).map SkippedRecord.message =
        ((listed c).filter fun r => !r.isObject).map fun r =>
          s!"Skipping {r.kind.label} record {r.index}: expected an object, got {r.record.typeWord}" := by
  refine ⟨?_, ?_, ?_⟩
  · rw [build, foldlM_take, ofCollections_eq, skipped_eq]
    rfl
  · rw [ofCollections_eq]
    exact forall₂_readFrom _
  · rw [skipped_eq, List.map_map]
    rfl

end Compendium.Catalog
