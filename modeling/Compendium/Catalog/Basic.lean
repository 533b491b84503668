import Compendium.Entry.Record

/-!
# Catalogs

A catalog lists creatures, then spells, then items, each in the order of its records. Building one
never fails: a record that is no object is skipped with a notice. Main statements: the entries are
those of the records that are objects (`entries_ofCollections`), and finding an entry by a key
gives the first that has it (`find?_eq_some_iff`).
-/

namespace Compendium

/-- Something worth telling about a record that was skipped. -/
structure SkippedRecord where
  kind : Kind
  index : Nat
  typeWord : String
deriving DecidableEq, Repr

def SkippedRecord.message (s : SkippedRecord) : String :=
  s!"Skipping {s.kind.label} record {s.index}: expected an object, got {s.typeWord}"

/-- Entries in catalog order. -/
abbrev Catalog := List Entry

structure Collections where
  creatures : List Json
  spells : List Json
  items : List Json

def Collections.ofKind (c : Collections) : Kind → List Json
  | .creature => c.creatures
  | .spell => c.spells
  | .item => c.items

namespace Catalog

def entriesOf (k : Kind) (records : List Json) : List Entry :=
  (records.filterMap Json.asFields?).map (Entry.ofFields k)

/-- The records that are skipped, the first of which has the given index. -/
def skippedFrom (k : Kind) : Nat → List Json → List SkippedRecord
  | _, [] => []
  | index, record :: rest =>
    match record with
    | .obj _ => skippedFrom k (index + 1) rest
    | other => ⟨k, index, other.typeWord⟩ :: skippedFrom k (index + 1) rest

def ofCollections (c : Collections) : Catalog :=
  Kind.all.flatMap fun k => entriesOf k (c.ofKind k)

def skipped (c : Collections) : List SkippedRecord :=
  Kind.all.flatMap fun k => skippedFrom k 0 (c.ofKind k)

def find? (catalog : Catalog) (key : String) : Option Entry :=
  List.find? (fun e => e.key = key) catalog

def keys (catalog : Catalog) : List String := List.map Entry.key catalog

/-! ## What a catalog holds -/

theorem entries_ofCollections (c : Collections) :
    ofCollections c =
      entriesOf .creature c.creatures ++ entriesOf .spell c.spells ++ entriesOf .item c.items := by
  simp [ofCollections, Kind.all, Collections.ofKind]

theorem kind_of_mem_entriesOf {k : Kind} {records : List Json} {e : Entry}
    (h : e ∈ entriesOf k records) : e.kind = k := by
  simp only [entriesOf, List.mem_map] at h
  obtain ⟨fields, -, rfl⟩ := h
  exact Entry.kind_ofFields k fields

theorem find?_eq_some_iff {catalog : Catalog} {key : String} {e : Entry} :
    find? catalog key = some e ↔
      e.key = key ∧ ∃ before after, catalog = before ++ e :: after ∧ ∀ d ∈ before, d.key ≠ key := by
  rw [find?, List.find?_eq_some_iff_append]
  simp

end Catalog

end Compendium
