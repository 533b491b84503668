import Compendium.Proofs.Files.Writing
import Compendium.Proofs.Server.Dispatch
import Compendium.Proofs.Server.Frames

/-!
# What requests change

The method of a request names the one file that it may change: the bookmarks for `POST` and `DELETE`,
the settings for `PATCH`, and no file for any other (`respond_touches`). What is refused was refused
before anything was written (`refusesCleanly_respond`). Main theorem `respond_effects`.
-/

namespace Compendium

open Activity

/-! ## Sessions that differ in one file -/

/-- The second session is the first, but for what may have been written at the place of that file of the
data directory. -/
structure Session.AlikeBut (file : Path → Path) (s s' : Session) : Prop where
  storage_eq : s'.storage = s.storage
  catalog_eq : s'.catalog = s.catalog
  elsewhere : ∀ place,
    (∀ directory, s.storage = some directory → s.tree.locate (file directory) ≠ .ok place) →
      s'.tree.node? place = s.tree.node? place

theorem Session.AlikeBut.refl (file : Path → Path) (s : Session) : AlikeBut file s s where
  storage_eq := rfl
  catalog_eq := rfl
  elsewhere _ _ := rfl

theorem Activity.Writes.alikeBut {α : Type} {file : Path → Path} {x : Activity α} (h : Writes file x)
    (s : Session) : Session.AlikeBut file s (x s).session := by
  rcases h s with hsame | ⟨directory, octets, tree, hstorage, hwrite, hsession⟩
  · rw [hsame]
    exact .refl file s
  · obtain ⟨written, hlocate, -, rfl⟩ := Tree.write_eq_ok_iff.1 hwrite
    rw [hsession]
    refine ⟨rfl, rfl, fun place hplace => Tree.node?_put_other _ ?_⟩
    rintro rfl
    exact hplace directory hstorage hlocate

/-! ## Refusals -/

/-- Whatever the activity answers otherwise than well, it leaves the session as it is. -/
def Activity.RefusesCleanly (x : Activity Reply) : Prop :=
  ∀ s reply, (x s).value = .ok reply → reply.status ≠ 200 → (x s).session = s

section
variable {α : Type} {x : Activity α} {next : α → Activity Reply} {answer : Activity Reply}

theorem Activity.Reads.refusesCleanly (h : Reads answer) : RefusesCleanly answer := fun s _ _ _ => h s

theorem Activity.RepliesWith.refusesCleanly (h : RepliesWith 200 answer) : RefusesCleanly answer :=
  fun s reply hreply hstatus => absurd (h s reply hreply) hstatus

theorem Activity.Reads.bind_refusesCleanly (hx : Reads x) (h : ∀ a, RefusesCleanly (next a)) :
    RefusesCleanly (x >>= next) := by
  intro s reply hreply hstatus
  obtain ⟨a, -, hnext, hsession⟩ := of_bind_ok hreply
  rw [hx s] at hnext hsession
  rw [hsession]
  exact h a s reply hnext hstatus

end

namespace Api

open Reply

theorem refusesCleanly_toggle (key : String) : RefusesCleanly (toggle key) := by
  refine Session.reads_currentCatalog.bind_refusesCleanly fun catalog => ?_
  split
  · exact (RepliesWith.bind fun _ => repliesWith_ofJson 200 _).refusesCleanly
  · exact (reads_refusal _ _).refusesCleanly

theorem refusesCleanly_clear : RefusesCleanly clear :=
  (RepliesWith.bind fun _ => repliesWith_ofJson 200 _).refusesCleanly

theorem refusesCleanly_settingsUpdate (r : Request) : RefusesCleanly (settingsUpdate r) := by
  rcases settingsUpdate_refuses_or_merges r with ⟨-, status, v, -, h⟩ | ⟨form, w, -, -, h⟩
  · rw [h]
    exact (reads_ofJson _ _).refusesCleanly
  · rw [h]
    exact (RepliesWith.bind fun _ => repliesWith_ofJson 200 _).refusesCleanly

end Api

namespace Server

theorem refusesCleanly_answer (server : Server) (r : Request) (key : String) (endpoint : Endpoint) :
    RefusesCleanly (server.answer r key endpoint) := by
  -- only what stores something needs a proof of its own; the rest reads
  have htouches := answer_touches server r key endpoint
  cases endpoint with
  | settingsUpdate => exact Api.refusesCleanly_settingsUpdate r
  | bookmarkToggle => exact Api.refusesCleanly_toggle key
  | bookmarkClear => exact Api.refusesCleanly_clear
  | _ => exact Reads.refusesCleanly htouches

theorem refusesCleanly_respond (server : Server) (r : Request) : RefusesCleanly (server.respond r) := by
  unfold respond
  split
  · exact refusesCleanly_answer server r _ _
  · exact (Reply.reads_refusal _ _).refusesCleanly
  · exact (reads_pure _).refusesCleanly
  · exact (Reply.reads_refusal _ _).refusesCleanly

/-! ## Methods -/

/-- The file of the data directory that a request with this method may write. -/
def methodFile? (method : String) : Option (Path → Path) :=
  if method = "POST" ∨ method = "DELETE" then some Bookmarks.file
  else if method = "PATCH" then some Settings.file
  else none

theorem touches_of_reads {α : Type} {x : Activity α} (h : Reads x) (file? : Option (Path → Path)) :
    Touches x file? := by
  cases file? with
  | none => exact h
  | some file => exact h.writes

/-- An endpoint that stores something is found by its method only. -/
theorem storeFile?_of_dispatch {server : Server} {method path key : String} {endpoint : Endpoint}
    (h : Route.dispatch server.routes method path = .found endpoint key) :
    storeFile? endpoint = none ∨ storeFile? endpoint = methodFile? method := by
  cases endpoint with
  | settingsUpdate =>
    obtain rfl := ((dispatch_update_iff server).1 h).1
    exact Or.inr rfl
  | bookmarkToggle =>
    obtain rfl := ((dispatch_toggle_iff server).1 h).1
    exact Or.inr rfl
  | bookmarkClear =>
    obtain rfl := ((dispatch_clear_iff server).1 h).1
    exact Or.inr rfl
  | _ => exact Or.inl rfl

/-- A request writes the file that goes with its method and nothing else. -/
theorem respond_touches (server : Server) (r : Request) :
    Touches (server.respond r) (methodFile? r.method) := by
  unfold respond
  split
  · rename_i endpoint key hdispatch
    have htouches := answer_touches server r key endpoint
    rcases storeFile?_of_dispatch hdispatch with hnone | hfile
    · rw [hnone] at htouches
      exact touches_of_reads htouches _
    · rwa [hfile] at htouches
  · exact touches_of_reads (Reply.reads_refusal _ _) _
  · exact touches_of_reads (reads_pure _) _
  · exact touches_of_reads (Reply.reads_refusal _ _) _

/-- **A request changes no file if it asks for something or is refused or sent elsewhere**; otherwise it
changes the bookmarks at most, or the settings at most, by its method. -/
theorem respond_effects (server : Server) (r : Request) (s : Session) :
    (r.method = "GET" → (server.respond r s).session = s) ∧
    (∀ reply, (server.respond r s).value = .ok reply → 300 ≤ reply.status → reply.status < 500 →
      (server.respond r s).session = s) ∧
    (r.method = "POST" ∨ r.method = "DELETE" →
      Session.AlikeBut Bookmarks.file s (server.respond r s).session) ∧
    (r.method = "PATCH" → Session.AlikeBut Settings.file s (server.respond r s).session) := by
  have htouches := respond_touches server r
  refine ⟨fun hget => ?_, fun reply hreply hlow _ => ?_, fun hstore => ?_, fun hpatch => ?_⟩
  · rw [hget] at htouches
    exact htouches s
  · exact refusesCleanly_respond server r s reply hreply (by omega)
  · rw [methodFile?, if_pos hstore] at htouches
    exact htouches.alikeBut s
  · rw [hpatch] at htouches
    exact Writes.alikeBut htouches s

def clearRequest : Request := ⟨"DELETE", "/api/bookmarks", "", []⟩

theorem respond_effects_clear :
    Session.AlikeBut Bookmarks.file .emptied (respond ⟨none⟩ clearRequest .emptied).session ∧
      (respond ⟨none⟩ clearRequest .emptied).session.tree.at? (Bookmarks.file ⟨["data"]⟩) =
        some (.file (Text.Utf8.encode "[]".toList)) ∧
      (respond ⟨none⟩ ⟨"DELETE", "/api/settings", "", []⟩ .emptied).session = .emptied := by
  refine ⟨?_, ?_, ?_⟩
  · exact (respond_effects ⟨none⟩ clearRequest .emptied).2.2.1 (Or.inr rfl)
  · decide
  · exact (respond_effects ⟨none⟩ ⟨"DELETE", "/api/settings", "", []⟩ .emptied).2.1 _ rfl
      (by decide) (by decide)

end Server

end Compendium
