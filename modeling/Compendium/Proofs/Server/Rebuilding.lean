import Compendium.Proofs.Catalog.Building
import Compendium.Proofs.Entry.Rereading
import Compendium.Server.Api

/-!
# Building a catalog from what is shown of it

An entry is shown with two fields beside its own, and no column has their names, so what is shown of
it is a record that gives the entry again. The entries of a catalog stand kind by kind, so the records
of one kind are listed in the order of its entries. Main theorem `entries_are_rebuilt`: the catalog
of what is shown of some entries has these entries, and nothing is skipped.
-/

namespace Compendium

/-- What is shown of some entries, as records of their kinds. -/
def Collections.shown (b : Bookmarks) (es : List Entry) : Collections where
  creatures := (es.filter (·.kind = .creature)).map (Api.entryJson b)
  spells := (es.filter (·.kind = .spell)).map (Api.entryJson b)
  items := (es.filter (·.kind = .item)).map (Api.entryJson b)

theorem Collections.ofKind_shown (b : Bookmarks) (es : List Entry) (k : Kind) :
    (shown b es).ofKind k = (es.filter (·.kind = k)).map (Api.entryJson b) := by
  cases k <;> rfl

namespace Entry

/-- What is shown of an entry gives the entry, whatever is bookmarked. -/
theorem ofFields_shown (b : Bookmarks) (e : Entry) :
    ((Api.entryJson b e).asFields?.map (ofFields e.kind)) = some e := by
  have hmore : ∀ k, ∀ c ∈ columns k, ∀ name ∈ c.names, name ∉ ["key", "bookmarked"] := by
    intro k
    cases k <;> decide
  refine congrArg some (ofFields_presentFields e fun c hc name hname => ?_)
  simpa [Fields.names] using hmore e.kind c hc name hname

end Entry

namespace Catalog

/-! ## One kind -/

theorem entriesOf_shown (b : Bookmarks) {k : Kind} {es : List Entry} (h : ∀ e ∈ es, e.kind = k) :
    entriesOf k (es.map (Api.entryJson b)) = es := by
  rw [entriesOf, List.map_filterMap, List.filterMap_map]
  refine (List.filterMap_congr fun e he => ?_).trans List.filterMap_some
  rw [← h e he]
  exact Entry.ofFields_shown b e

theorem skippedFrom_shown (b : Bookmarks) (k : Kind) (es : List Entry) (n : Nat) :
    skippedFrom k n (es.map (Api.entryJson b)) = [] := by
  induction es generalizing n with
  | nil => rfl
  | cons e rest ih => exact ih (n + 1)

/-! ## All kinds -/

theorem ofCollections_shown (b : Bookmarks) (es : List Entry) :
    ofCollections (.shown b es) = Kind.all.flatMap fun k => es.filter (·.kind = k) := by
  rw [ofCollections]
  congr 1
  funext k
  rw [Collections.ofKind_shown]
  exact entriesOf_shown b fun e he => by simpa using (List.mem_filter.1 he).2

theorem skipped_shown (b : Bookmarks) (es : List Entry) : skipped (.shown b es) = [] := by
  rw [skipped, List.flatMap_eq_nil_iff]
  intro k _
  rw [Collections.ofKind_shown]
  exact skippedFrom_shown b k _ 0

/-- **An entry is built again from what is shown of it**, whatever is bookmarked: every entry that
there can be gives a catalog of just itself, with all its fields, and every catalog is the one that is
built from what is shown of all its entries. Nothing that is shown is skipped. -/
theorem entries_are_rebuilt (b : Bookmarks) :
    (∀ e : Entry, ofCollections (.shown b [e]) = [e] ∧ skipped (.shown b [e]) = []) ∧
      ∀ c : Collections, ofCollections (.shown b (ofCollections c)) = ofCollections c ∧
        skipped (.shown b (ofCollections c)) = [] := by
  refine ⟨fun e => ⟨?_, skipped_shown b [e]⟩, fun c => ⟨?_, skipped_shown b _⟩⟩
  · rw [ofCollections_shown]
    cases h : e.kind <;> simp [Kind.all, h]
  · rw [ofCollections_shown]
    simp only [filter_kind_ofCollections]
    rfl

end Catalog

end Compendium
