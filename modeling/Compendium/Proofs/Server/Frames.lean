import Compendium.Proofs.Json.Demands
import Compendium.Proofs.Session.Frames
import Compendium.Server.App

/-!
# What endpoints leave as it is

An endpoint that answers a question leaves the session as it is. Three store something: toggling a
bookmark and clearing them write the bookmarks, an update of the settings writes the settings, and
each writes nothing else. Main theorem `answer_touches`. All that an update can do is said once, in
`settingsUpdate_refuses_or_merges`.
-/

namespace Compendium

open Activity

/-! ## Replies -/

namespace Reply

theorem reads_ofJson (status : Nat) (v : Json) : Reads (ofJson status v) := by
  unfold ofJson
  split
  · exact reads_fail _
  · split
    · exact reads_fail _
    · exact reads_pure _

theorem reads_refusal (status : Nat) (detail : String) : Reads (refusal status detail) :=
  reads_ofJson _ _

theorem reads_complaints (cs : List Json) : Reads (complaints cs) := reads_ofJson _ _

/-- A value that can be shown is. -/
theorem ofJson_eq {v : Json} (h : v.isShowable = true) (status : Nat) (s : Session) :
    ofJson status v s = ⟨.ok ⟨status, v.compact, none⟩, s, []⟩ := by
  obtain ⟨hfinite, hplain⟩ := Bool.and_eq_true_iff.1 (v.isShowable_eq.symm.trans h)
  simp only [ofJson, hfinite, Json.firstHalves?_compactPoints v |>.2 hplain, Bool.not_true,
    Bool.false_eq_true, if_false]
  rfl

theorem refusal_eq (status : Nat) (detail : String) (s : Session) :
    refusal status detail s =
      ⟨.ok ⟨status, (Json.obj [("detail", .str detail)]).compact, none⟩, s, []⟩ :=
  ofJson_eq (v := Json.obj [("detail", .str detail)]) rfl status s

theorem ofJson_of_not_finite {v : Json} (h : v.isFinite = false) (status : Nat) (s : Session) :
    ofJson status v s = ⟨.error .notFinite, s, []⟩ := by
  simp only [ofJson, h, Bool.not_false, if_true]
  rfl

theorem ofJson_of_not_plain {v : Json} (hfinite : v.isFinite = true) (h : v.isPlain = false)
    (status : Nat) (s : Session) :
    ∃ f, ofJson status v s = ⟨.error (.unencodable f), s, []⟩ := by
  cases hhalves : Text.Utf8.firstHalves? v.compactPoints with
  | none => simp [Json.firstHalves?_compactPoints v |>.1 hhalves] at h
  | some f =>
    refine ⟨f, ?_⟩
    simp only [ofJson, hfinite, hhalves, Bool.not_true, Bool.false_eq_true, if_false]
    rfl

/-- A value that cannot be shown has no reply. -/
theorem ofJson_of_not_showable {v : Json} (h : v.isShowable = false) (status : Nat) (s : Session) :
    ∃ f, ofJson status v s = ⟨.error f, s, []⟩ := by
  rw [Json.isShowable_eq] at h
  cases hfinite : v.isFinite with
  | false => exact ⟨_, ofJson_of_not_finite hfinite status s⟩
  | true =>
    obtain ⟨f, hf⟩ := ofJson_of_not_plain hfinite (by simpa [hfinite] using h) status s
    exact ⟨_, hf⟩

end Reply

/-! ## The status of a reply -/

def Activity.Answers (x : Activity Reply) (s : Session) (status : Nat) : Prop :=
  ∃ reply, (x s).value = .ok reply ∧ reply.status = status

/-- If the activity gives a reply, it has that status. -/
def Activity.RepliesWith (status : Nat) (x : Activity Reply) : Prop :=
  ∀ s reply, (x s).value = .ok reply → reply.status = status

section
variable {α : Type} {x : Activity α} {next : α → Activity Reply} {status : Nat}

theorem Activity.RepliesWith.bind (h : ∀ a, RepliesWith status (next a)) :
    RepliesWith status (x >>= next) := by
  intro s reply hreply
  obtain ⟨a, -, hnext, -⟩ := of_bind_ok hreply
  exact h a _ reply hnext

theorem Reply.repliesWith_ofJson (status : Nat) (v : Json) : RepliesWith status (ofJson status v) := by
  intro s reply hreply
  cases hv : v.isShowable with
  | true =>
    rw [ofJson_eq hv] at hreply
    exact congrArg Reply.status (Except.ok.inj hreply).symm
  | false =>
    obtain ⟨f, hf⟩ := ofJson_of_not_showable hv status s
    rw [hf] at hreply
    exact absurd hreply (by simp)

theorem Reply.answers_refusal (status : Nat) (detail : String) (s : Session) :
    Answers (refusal status detail) s status :=
  ⟨_, congrArg Outcome.value (refusal_eq status detail s), rfl⟩

end

/-! ## The form in a request -/

def Request.form? (r : Request) : Option Json := (Body.read r.body).toOption

/-- The fields that are read from the form in a request. -/
def Request.fields? (r : Request) : Option Json := r.form?.bind fun form => (Form.read form).toOption

theorem Request.form?_eq_some_iff {r : Request} {form : Json} :
    r.form? = some form ↔ Body.read r.body = .ok form := by
  rw [Request.form?]
  cases Body.read r.body <;> simp [Except.toOption]

theorem Body.readAll_of_read {body : List UInt8} {v : Json} (h : Body.read body = .ok v) :
    ∃ cs, Json.readAll cs = .ok v := by
  unfold Body.read at h
  split at h
  · exact absurd h (by simp)
  · dsimp only at h
    split at h
    · rename_i w hread
      obtain rfl := Except.ok.inj h
      exact ⟨_, hread⟩
    · exact absurd h (by simp)
    · exact absurd h (by simp)

theorem Request.tidy_of_form? {r : Request} {form : Json} (h : r.form? = some form) : form.Tidy := by
  obtain ⟨cs, hread⟩ := Body.readAll_of_read (Request.form?_eq_some_iff.1 h)
  exact Json.tidy_of_readAll hread

theorem Request.fields?_eq_some_iff {r : Request} {w : Json} :
    r.fields? = some w ↔ ∃ form, r.form? = some form ∧ Form.read form = .ok w := by
  rw [Request.fields?, Option.bind_eq_some_iff]
  refine exists_congr fun form => and_congr_right fun _ => ?_
  cases Form.read form <;> simp [Except.toOption]

/-! ## The interface -/

namespace Api

open Session Reply

theorem reads_entriesOf (category text : String) : Reads (entriesOf category text) :=
  reads_loadBookmarks.bind fun _ => reads_currentCatalog.bind fun _ => reads_ofJson _ _

theorem reads_entries (r : Request) : Reads (entries r) := by
  unfold entries
  dsimp only
  split
  · exact reads_entriesOf _ _
  · exact reads_complaints _

theorem reads_counts : Reads counts :=
  reads_currentCatalog.bind fun _ => reads_loadBookmarks.bind fun _ => reads_ofJson _ _

theorem reads_withEntry {key : String} {answer : Entry → Activity Reply} (h : ∀ e, Reads (answer e)) :
    Reads (withEntry key answer) :=
  reads_currentCatalog.bind fun _ => by
    split
    · exact h _
    · exact reads_refusal _ _

theorem writes_withEntry {file : Path → Path} {key : String} {store : Entry → Activity Reply}
    (h : ∀ e, Writes file (store e)) : Writes file (withEntry key store) :=
  reads_currentCatalog.bind_writes fun _ => by
    split
    · exact h _
    · exact (reads_refusal _ _).writes

section
variable {s : Session} {catalog : Catalog} {key : String}

theorem withEntry_of_find?_some {e : Entry} (h : s.catalog = some catalog)
    (hfind : catalog.find? key = some e) (answer : Entry → Activity Reply) :
    withEntry key answer s = answer e s := by
  unfold withEntry
  rw [bind_eq_next (currentCatalog_eq h), hfind]

theorem withEntry_of_find?_none (h : s.catalog = some catalog) (hfind : catalog.find? key = none)
    (answer : Entry → Activity Reply) : withEntry key answer s = entryNotFound s := by
  unfold withEntry
  rw [bind_eq_next (currentCatalog_eq h), hfind]

end

theorem reads_bookmarks : Reads bookmarks :=
  reads_loadBookmarks.bind fun _ => reads_currentCatalog.bind fun _ => reads_ofJson _ _

theorem writes_toggle (key : String) : Writes Bookmarks.file (toggle key) :=
  writes_withEntry fun _ => (writes_toggleBookmark key).bind_reads fun _ => reads_ofJson _ _

theorem writes_clear : Writes Bookmarks.file clear :=
  (writes_saveBookmarkItems _).bind_reads fun _ => reads_ofJson _ _

/-- An update is refused, or the form in the request is merged into the settings. -/
theorem settingsUpdate_refuses_or_merges (r : Request) :
    (r.fields? = none ∧ ∃ status v, status ≠ 200 ∧ settingsUpdate r = ofJson status v) ∨
      ∃ form w, r.form? = some form ∧ Form.read form = .ok w ∧
        settingsUpdate r = (updateSettings w >>= fun settings => ofJson 200 settings.toJson) := by
  have hnone : ∀ fault, Body.read r.body = .error fault → r.fields? = none := by
    intro fault hfault
    simp [Request.fields?, Request.form?, hfault, Except.toOption]
  unfold settingsUpdate
  split
  · rename_i hempty
    refine Or.inl ⟨hnone (.malformed .value 0) ?_, 422, _, by decide, rfl⟩
    rw [List.isEmpty_iff.1 hempty]
    rfl
  · rcases hread : Body.read r.body with (_ | ⟨kind, offset⟩) | form
    · exact Or.inl ⟨hnone _ hread, 400, _, by decide, rfl⟩
    · exact Or.inl ⟨hnone _ hread, 422, _, by decide, rfl⟩
    · dsimp only [updateFrom]
      have hform := Request.form?_eq_some_iff.2 hread
      cases hfields : Form.read form with
      | error complaints =>
        refine Or.inl ⟨?_, 422, _, by decide, rfl⟩
        simp [Request.fields?, hform, hfields, Except.toOption]
      | ok w => exact Or.inr ⟨form, w, hform, hfields, rfl⟩

theorem writes_settingsUpdate (r : Request) : Writes Settings.file (settingsUpdate r) := by
  rcases settingsUpdate_refuses_or_merges r with ⟨-, status, v, -, h⟩ | ⟨form, w, -, -, h⟩
  · rw [h]
    exact (reads_ofJson _ _).writes
  · rw [h]
    exact (writes_updateSettings _).bind_reads fun _ => reads_ofJson _ _

end Api

/-! ## Pages -/

namespace Server

open Reply

theorem reads_asset (pages : Path) (method path : String) : Reads (asset pages method path) := by
  unfold asset
  split
  · exact reads_refusal _ _
  · refine reads_session.bind fun s => ?_
    dsimp only
    split
    · split <;> exact reads_pure _
    · exact reads_refusal _ _

theorem reads_page (pages : Path) : Reads (page pages) := by
  refine reads_session.bind fun s => ?_
  dsimp only
  split
  · exact reads_fail _
  · exact reads_fail _
  · split
    · exact reads_pure _
    · exact reads_fail _
    · exact reads_fail _

/-! ## Endpoints -/

/-- The file of the data directory that an endpoint may write. -/
def storeFile? : Endpoint → Option (Path → Path)
  | .settingsUpdate => some Settings.file
  | .bookmarkToggle | .bookmarkClear => some Bookmarks.file
  | _ => none

/-- The activity writes that file of the data directory at most, or nothing if none is named. -/
def Touches {α : Type} (x : Activity α) : Option (Path → Path) → Prop
  | none => Reads x
  | some file => Writes file x

/-- **An endpoint writes the file that goes with it and nothing else.** -/
theorem answer_touches (server : Server) (r : Request) (key : String) (endpoint : Endpoint) :
    Touches (server.answer r key endpoint) (storeFile? endpoint) := by
  cases endpoint with
  | health => exact reads_ofJson _ _
  | settings => exact Session.reads_loadSettings.bind fun _ => reads_ofJson _ _
  | settingsUpdate => exact Api.writes_settingsUpdate r
  | entries => exact Api.reads_entries r
  | counts => exact Api.reads_counts
  | query => exact reads_ofJson _ _
  | entryText => exact Api.reads_withEntry fun _ => reads_ofJson _ _
  | entry => exact Api.reads_withEntry fun _ => Session.reads_loadBookmarks.bind fun _ => reads_ofJson _ _
  | bookmarks => exact Api.reads_bookmarks
  | bookmarkToggle => exact Api.writes_toggle key
  | bookmarkClear => exact Api.writes_clear
  | asset => exact reads_asset _ _ _
  | page => exact reads_page _

end Server

end Compendium
