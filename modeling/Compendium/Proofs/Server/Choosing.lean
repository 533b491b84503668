import Compendium.Proofs.Server.Toggles
import Compendium.Proofs.Session.Keeping
import Compendium.Proofs.Settings.Store

/-!
# Settings over a run of requests

A server that was started where no settings are stored has stored choices after whatever is done:
an update that is taken makes the choices that its form gives (`Api.settingsUpdate_cases`), the demo
data makes two (`Session.Chosen.seedDemo`), and nothing else touches them (`chosen_respond`). Main
theorems `settings_after_updates`: after updates that were all taken the settings hold the last value
that was given for each choice; and `settings_shape`: whatever was done, the settings hold a value of its
type for each choice, and they are shown unless one of its texts holds a half of a pair, which an update
can store (`settings_unshown`).
-/

namespace Compendium

open Activity

/-! ## What a request gives -/

namespace Choice

/-- The value for a choice in the last of the requests that give one. -/
def lastGiven? (requests : List Request) (c : Choice) : Option Json :=
  requests.reverse.findSome? fun r => r.form?.bind fun form => c.given? form

/-- The choices after requests to make some: what was given last, or the value of a choice that was
not made. -/
def madeBy (requests : List Request) : Choice → Json :=
  fun c => (lastGiven? requests c).getD c.default

theorem lastGiven?_append (before later : List Request) (c : Choice) :
    lastGiven? (before ++ later) c = (lastGiven? later c).or (lastGiven? before c) := by
  rw [lastGiven?, List.reverse_append, List.findSome?_append]
  rfl

theorem madeBy_append {requests : List Request} {r : Request} {form : Json}
    (h : r.form? = some form) : madeBy (requests ++ [r]) = updated (madeBy requests) form := by
  funext c
  have hlast : lastGiven? [r] c = c.given? form := by
    simp [lastGiven?, h]
  rw [madeBy, lastGiven?_append, hlast, updated, madeBy]
  cases c.given? form <;> rfl

/-- At a choice for which a request holds nothing or null, it is as if it had not been sent. -/
theorem madeBy_of_nothing {r : Request} {c : Choice}
    (h : ∀ form, r.form? = some form →
      form.at? c.path = none ∨ form.at? c.path = some .null) (before later : List Request) :
    madeBy (before ++ r :: later) c = madeBy (before ++ later) c := by
  have hnone : lastGiven? [r] c = none := by
    cases hform : r.form? with
    | none => simp [lastGiven?, hform]
    | some form =>
      rcases h form hform with hat | hat <;> simp [lastGiven?, hform, given?, hat, Form.taken?]
  have hsplit : before ++ r :: later = before ++ [r] ++ later := by simp
  rw [madeBy, madeBy, hsplit, lastGiven?_append, lastGiven?_append, hnone, Option.none_or,
    lastGiven?_append]

end Choice

/-! ## Stored choices in a session -/

/-- An opened session whose directory stores these choices. -/
structure Session.Chosen (directory : Path) (catalog : Catalog) (value : Choice → Json)
    (s : Session) : Prop extends Session.Opened directory catalog s where
  stored : Settings.Stored s.tree directory value

namespace Session.Chosen

variable {directory : Path} {catalog : Catalog} {value : Choice → Json} {s : Session}

theorem of_writes_bookmarks {α : Type} {x : Activity α} (hx : Writes Bookmarks.file x)
    (h : Chosen directory catalog value s) : Chosen directory catalog value (x s).session := by
  rcases h.of_writes hx with hsame | ⟨octets, tree, hwrite, hsession, hmade⟩
  · rwa [hsame]
  · have hstored := h.stored.write_other (by decide) (by decide) h.made hwrite
    rw [hsession]
    exact { h with made := hmade, stored := hstored }

theorem load_eq (h : Chosen directory catalog value s) :
    Session.loadSettings s = ⟨.ok (Settings.ofValues value), s, []⟩ := by
  rw [Session.loadSettings_eq h.storage_eq, Settings.load_of_stored h.stored]

/-- An update with what was read from a form makes the choices of the form. -/
theorem update (h : Chosen directory catalog value s) {form w : Json} (hform : form.Tidy)
    (hread : Form.read form = .ok w) :
    ∃ after, Session.updateSettings w s =
        ⟨.ok (Settings.ofValues (Choice.updated value form)), after, []⟩ ∧
      Chosen directory catalog (Choice.updated value form) after := by
  obtain ⟨tree, hupdate, hmade, hstored⟩ := Settings.update_of_stored h.made h.stored hform hread
  refine ⟨{ s with tree := tree }, ?_, { h with made := hmade, stored := hstored }⟩
  rw [Session.updateSettings_eq h.storage_eq, hupdate]

/-! ## The demo data -/

theorem remove (h : Chosen directory catalog value s) :
    ∃ after, Session.removeSettings s = ⟨.ok (), after, []⟩ ∧
      Chosen directory catalog Choice.default after := by
  obtain ⟨tree, hremove, hmade, habsent, -⟩ :=
    Session.removeSettings_of_free h.storage_eq h.made h.stored.not_directory
  exact ⟨{ s with tree := tree }, hremove,
    { h with made := hmade, stored := Settings.stored_of_absent habsent }⟩

theorem tidy_demoSettings : Session.demoSettings.Tidy :=
  .obj (by simp [Fields.names]) (by
    simp only [List.forall_mem_cons, List.not_mem_nil, false_imp_iff, implies_true, and_true]
    exact ⟨.str _, .bool _⟩)

/-- The demo data makes two choices, and no other choice stays made. -/
theorem seedDemo (h : Chosen directory catalog value s) :
    Chosen directory catalog (Choice.updated Choice.default Session.demoSettings)
      (Session.seedDemo s).session := by
  have hread : Form.read Session.demoSettings = .ok Session.demoSettings := rfl
  let keys := Bookmarks.ofList ((Session.demoKeys.filter (Session.isListed catalog)).map .chars)
  have hsaved : (Session.saveBookmarks keys s).value = .ok () :=
    congrArg Outcome.value (Session.saveBookmarkItems_eq h.storage_eq _)
  have hkept : Chosen directory catalog value (Session.saveBookmarks keys s).session :=
    h.of_writes_bookmarks (Session.writes_saveBookmarkItems _)
  obtain ⟨removed, hremove, hempty⟩ := hkept.remove
  obtain ⟨after, hupdate, hafter⟩ := hempty.update tidy_demoSettings hread
  have hlast : (Session.seedDemo s).session = after := by
    unfold Session.seedDemo
    rw [bind_eq_next (Session.currentCatalog_eq h.catalog_eq),
      session_bind_of_ok (x := Activity.tellAll _) rfl]
    refine (session_bind_of_ok hsaved).trans ?_
    rw [bind_eq_next hremove, bind_eq_next hupdate]
    rfl
  rw [hlast]
  exact hafter

end Session.Chosen

/-! ## What a request does to the choices -/

/-- The reply that shows settings. -/
def Api.settingsReply (value : Choice → Json) : Reply :=
  ⟨200, (Settings.ofValues value).toJson.compact, none⟩

section
variable {directory : Path} {catalog : Catalog} {value : Choice → Json} {s : Session}

namespace Api

theorem settings_of_chosen (h : Session.Chosen directory catalog value s) :
    settings s = Reply.ofJson 200 (Settings.ofValues value).toJson s := by
  unfold settings
  rw [bind_eq_next h.load_eq]

/-- The activity leaves the session as it is and does not answer that all is well. -/
def Declines (x : Activity Reply) (s : Session) : Prop :=
  (x s).session = s ∧ ∀ reply, (x s).value = .ok reply → reply.status ≠ 200

theorem declines_ofJson {status : Nat} (hstatus : status ≠ 200) (v : Json) (s : Session) :
    Declines (Reply.ofJson status v) s :=
  ⟨Reply.reads_ofJson status v s, fun _ h => by rwa [Reply.repliesWith_ofJson status v s _ h]⟩

/-- The activity makes the choices of the form in the request, and then shows the settings. -/
def Takes (r : Request) (directory : Path) (catalog : Catalog) (value : Choice → Json)
    (x : Activity Reply) (s : Session) : Prop :=
  ∃ form after, r.form? = some form ∧
    Session.Chosen directory catalog (Choice.updated value form) after ∧
    x s = Reply.ofJson 200 (Settings.ofValues (Choice.updated value form)).toJson after

/-- An update is declined, or its form is taken. -/
theorem settingsUpdate_cases (r : Request) (h : Session.Chosen directory catalog value s) :
    Declines (settingsUpdate r) s ∨ Takes r directory catalog value (settingsUpdate r) s := by
  rcases settingsUpdate_refuses_or_merges r with
    ⟨-, status, v, hstatus, hrefused⟩ | ⟨form, w, hform, hread, hmerged⟩
  · rw [hrefused]
    exact Or.inl (declines_ofJson hstatus v s)
  · obtain ⟨after, hupdate, hafter⟩ := h.update (Request.tidy_of_form? hform) hread
    exact Or.inr ⟨form, after, hform, hafter, by rw [hmerged, bind_eq_next hupdate]⟩

end Api

namespace Server

/-- Whatever a request does, choices stay stored: they are those before it, or it updates them by its
form. -/
theorem chosen_respond (server : Server) (r : Request)
    (h : Session.Chosen directory catalog value s) :
    ∃ value', Session.Chosen directory catalog value' (server.respond r s).session ∧
      (value' = value ∨
        ∃ form, r.method = "PATCH" ∧ r.form? = some form ∧ value' = Choice.updated value form) := by
  unfold respond
  cases hdispatch : Route.dispatch server.routes r.method r.path with
  | found endpoint key =>
    dsimp only
    have htouches := answer_touches server r key endpoint
    cases hfile : storeFile? endpoint with
    | none =>
      rw [hfile] at htouches
      exact ⟨value, by rw [htouches s]; exact h, .inl rfl⟩
    | some file =>
      by_cases hupdate : endpoint = .settingsUpdate
      · subst hupdate
        rcases Api.settingsUpdate_cases r h with ⟨hsame, -⟩ | ⟨form, after, hform, hafter, htaken⟩
        · exact ⟨value, by rw [answer, hsame]; exact h, .inl rfl⟩
        · refine ⟨_, ?_, .inr ⟨form, ((dispatch_update_iff server).1 hdispatch).1, hform, rfl⟩⟩
          rw [answer, htaken, Reply.reads_ofJson]
          exact hafter
      · obtain rfl : Bookmarks.file = file := by
          cases endpoint <;> first | exact Option.some.inj hfile | contradiction
        rw [hfile] at htouches
        exact ⟨value, h.of_writes_bookmarks htouches, .inl rfl⟩
  | methodNotAllowed =>
    exact ⟨value, by rw [Reply.methodNotAllowed, Reply.reads_refusal]; exact h, .inl rfl⟩
  | redirect path => exact ⟨value, h, .inl rfl⟩
  | notFound => exact ⟨value, by rw [Reply.notFound, Reply.reads_refusal]; exact h, .inl rfl⟩

theorem chosen_start (o : ServerOptions) (s₀ : Session) {server : Server}
    (hstart : (start o s₀).value = .ok server)
    (hfresh : (start o s₀).session.tree.at? (Settings.file o.dataDirectory) = none) :
    ∃ catalog, Session.Chosen o.dataDirectory catalog Choice.default (start o s₀).session := by
  obtain ⟨catalog, hopened⟩ := opened_of_start hstart
  exact ⟨catalog, { hopened with stored := Settings.stored_of_absent hfresh }⟩

/-! ## Updates -/

theorem map_request_exchanges (server : Server) (s : Session) (requests : List Request) :
    (server.exchanges s requests).map Exchange.request = requests := by
  induction requests generalizing s with
  | nil => rfl
  | cons r rest ih => rw [exchanges, List.map_cons, ih]; rfl

/-- The exchange is an update of the settings that was answered well. -/
structure UpdateTaken (x : Exchange) : Prop where
  method_eq : x.request.method = "PATCH"
  path_eq : x.request.path = "/api/settings"
  status_eq : x.status? = some 200

/-- As long as all exchanges were updates that were taken, the choices are made by them and can be
shown. -/
def Made (directory : Path) (catalog : Catalog) (history : List Exchange) (s : Session) : Prop :=
  (∀ x ∈ history, UpdateTaken x) →
    Session.Chosen directory catalog (Choice.madeBy (history.map Exchange.request)) s ∧
      (Settings.ofValues (Choice.madeBy (history.map Exchange.request))).toJson.isShowable = true

theorem made_exchange {server : Server} (history : List Exchange) (s : Session) (r : Request)
    (h : Made directory catalog history s) :
    Made directory catalog (history ++ [server.exchange s r]) (server.exchange s r).after := by
  intro htaken
  obtain ⟨hchosen, -⟩ := h fun x hx => htaken x (List.mem_append_left _ hx)
  have hlast := htaken (server.exchange s r) (by simp)
  have hrespond := respond_settingsUpdate server (r := r) hlast.method_eq hlast.path_eq s
  have hstatus := hlast.status_eq
  simp only [Exchange.status?, exchange, hrespond] at hstatus
  simp only [exchange, hrespond, List.map_append, List.map_cons, List.map_nil]
  rcases Api.settingsUpdate_cases r hchosen with ⟨-, hdeclined⟩ | ⟨form, after, hform, hafter, htaken⟩
  · cases hvalue : (Api.settingsUpdate r s).value with
    | error f => simp [hvalue] at hstatus
    | ok reply =>
      rw [hvalue] at hstatus
      exact absurd (Option.some.inj hstatus) (hdeclined reply hvalue)
  · rw [htaken] at hstatus ⊢
    rw [Choice.madeBy_append hform, Reply.reads_ofJson]
    refine ⟨hafter, ?_⟩
    by_contra hunshown
    obtain ⟨f, hf⟩ := Reply.ofJson_of_not_showable (Bool.eq_false_iff.2 hunshown) 200 after
    simp [hf] at hstatus

/-- **After updates that were all taken, the settings show the value that was given last for each
choice**, or the value of a choice that was not made. At a choice for which a request holds nothing
or null, it is as if the request had not been sent. -/
theorem settings_after_updates (o : ServerOptions) (s₀ : Session) {server : Server}
    (hstart : (start o s₀).value = .ok server)
    (hfresh : (start o s₀).session.tree.at? (Settings.file o.dataDirectory) = none)
    {updates : List Request} {question : Request}
    (hupdates : ∀ r ∈ updates, r.method = "PATCH" ∧ r.path = "/api/settings")
    (hquestion : question.method = "GET" ∧ question.path = "/api/settings")
    {answered : List Exchange} {x : Exchange}
    (hx : server.exchanges (start o s₀).session (updates ++ [question]) = answered ++ [x])
    (hok : ∀ y ∈ answered, y.status? = some 200) :
    x.value = .ok (Api.settingsReply (Choice.madeBy updates)) ∧
      ∀ before r later c, updates = before ++ r :: later →
        (∀ form, r.form? = some form →
          form.at? (Choice.path c) = none ∨ form.at? (Choice.path c) = some .null) →
        Choice.madeBy updates c = Choice.madeBy (before ++ later) c := by
  obtain ⟨catalog, hfirst⟩ := chosen_start o s₀ hstart hfresh
  have hmade : Made o.dataDirectory catalog [] (start o s₀).session := fun _ => ⟨hfirst, rfl⟩
  obtain ⟨s, hlast, hexchange⟩ := exchanges_invariant made_exchange hmade hx
  have hrequests := map_request_exchanges server (start o s₀).session (updates ++ [question])
  rw [hx, List.map_append, List.map_cons, List.map_nil] at hrequests
  obtain ⟨hanswered, hasked⟩ := List.append_inj' hrequests rfl
  have htaken : ∀ y ∈ answered, UpdateTaken y := by
    intro y hy
    obtain ⟨hmethod, hpath⟩ := hupdates y.request (hanswered ▸ List.mem_map_of_mem hy)
    exact ⟨hmethod, hpath, hok y hy⟩
  have hchosen := hlast htaken
  rw [List.nil_append, hanswered] at hchosen
  obtain ⟨hchosen, hshowable⟩ := hchosen
  have hquestion' : x.request = question := (List.cons.inj hasked).1
  refine ⟨?_, fun before r later c hsplit hnothing => ?_⟩
  · rw [hexchange, hquestion']
    simp only [exchange, respond_settings server hquestion.1 hquestion.2,
      Api.settings_of_chosen hchosen, Reply.ofJson_eq hshowable, Api.settingsReply]
  · rw [hsplit, Choice.madeBy_of_nothing hnothing]

/-- A request not to show the source, which gives the flag as a number. -/
def hideSource : Request :=
  ⟨"PATCH", "/api/settings", "", Text.Utf8.encode "\x7b\"show_source\":0\x7d".toList⟩

def seeSettings : Request := ⟨"GET", "/api/settings", "", []⟩

theorem settings_after_updates_hidden :
    (exchange ⟨none⟩ (exchange ⟨none⟩ goblinSession hideSource).after seeSettings).value =
        .ok (Api.settingsReply (Choice.madeBy [hideSource])) ∧
      (Choice.madeBy [hideSource] .source).compact = "false" := by
  have hstart : (start goblinOptions ⟨goblinTree, none, none⟩).value = .ok ⟨none⟩ :=
    congrArg Outcome.value start_goblin
  have hbegun : (start goblinOptions ⟨goblinTree, none, none⟩).session = goblinSession :=
    congrArg Outcome.session start_goblin
  have hupdates : ∀ r ∈ [hideSource], r.method = "PATCH" ∧ r.path = "/api/settings" := by decide
  have hok : ∀ y ∈ [exchange ⟨none⟩ goblinSession hideSource], y.status? = some 200 := by
    decide +kernel
  have hanswer := settings_after_updates goblinOptions ⟨goblinTree, none, none⟩ hstart
    (by rw [hbegun]; decide) hupdates (show seeSettings.method = "GET" ∧ _ from ⟨rfl, rfl⟩)
    (by rw [hbegun]; exact (List.singleton_append ..).symm) hok
  exact ⟨hanswer.1, by decide +kernel⟩

/-! ## Whatever is done -/

/-- What may happen: a request, or that the demo data is stored. -/
inductive Event where
  | request (r : Request)
  | demo

def Event.after (server : Server) (s : Session) : Event → Session
  | .request r => (server.exchange s r).after
  | .demo => (Session.seedDemo s).session

/-- The values of the choices hold no half of a pair that stands alone. -/
def Choice.Plain (value : Choice → Json) : Prop := ∀ c, (value c).isPlain = true

/-- What the updates among the events give for a choice holds no half of a pair that stands alone. -/
def GivePlain (events : List Event) : Prop :=
  ∀ r, .request r ∈ events → r.method = "PATCH" →
    ∀ form c v, r.form? = some form → Choice.given? form c = some v → v.isPlain = true

theorem GivePlain.of_subset {events part : List Event} (h : GivePlain events) (hpart : part ⊆ events) :
    GivePlain part := fun r hr => h r (hpart hr)

theorem plain_default : Choice.Plain Choice.default := by
  rintro (_ | _ | _ | ⟨_ | _ | _, _ | _ | _⟩) <;> rfl

theorem plain_updated {form : Json} (h : Choice.Plain value)
    (hform : ∀ c v, Choice.given? form c = some v → v.isPlain = true) :
    Choice.Plain (Choice.updated value form) := by
  intro c
  unfold Choice.updated
  cases hgiven : c.given? form with
  | none => exact h c
  | some v => exact hform c v hgiven

theorem plain_demo : Choice.Plain (Choice.updated Choice.default Session.demoSettings) := by
  rintro (_ | _ | _ | ⟨_ | _ | _, _ | _ | _⟩) <;> rfl

/-- Whatever happens, choices stay stored, and they are plain as long as plain ones are given. -/
theorem chosen_event (server : Server) (event : Event)
    (h : Session.Chosen directory catalog value s) :
    ∃ value', Session.Chosen directory catalog value' (event.after server s) ∧
      (GivePlain [event] → Choice.Plain value → Choice.Plain value') := by
  cases event with
  | request r =>
    obtain ⟨value', hchosen, rfl | ⟨form, hmethod, hform, rfl⟩⟩ := chosen_respond server r h
    · exact ⟨_, hchosen, fun _ hplain => hplain⟩
    · exact ⟨_, hchosen, fun hgive hplain =>
        plain_updated hplain fun c v => hgive r (by simp) hmethod form c v hform⟩
  | demo => exact ⟨_, h.seedDemo, fun _ _ => plain_demo⟩

theorem chosen_events (server : Server) (events : List Event)
    (h : Session.Chosen directory catalog value s) :
    ∃ value', Session.Chosen directory catalog value' (events.foldl (Event.after server) s) ∧
      (GivePlain events → Choice.Plain value → Choice.Plain value') := by
  induction events generalizing value s with
  | nil => exact ⟨value, h, fun _ hplain => hplain⟩
  | cons event rest ih =>
    obtain ⟨value', hstep, hplain⟩ := chosen_event server event h
    obtain ⟨value'', hrest, hplain'⟩ := ih hstep
    exact ⟨value'', hrest, fun hgive hvalue => hplain' (hgive.of_subset (List.subset_cons_self ..))
      (hplain (hgive.of_subset (by simp)) hvalue)⟩

/-! ## The shape of the settings -/

/-- The values in settings. -/
structure ShownSettings where
  category : Category
  source : Bool
  width : Int
  family : FontGroup → Text
  size : FontGroup → Int
  style : FontGroup → Text

namespace ShownSettings

/-- Settings as an object of exactly these names. -/
def toJson (shown : ShownSettings) : Json :=
  .obj [("default_category", .str shown.category.label), ("show_source", .bool shown.source),
    ("app_width_percent", .int shown.width),
    ("font_settings", .obj (FontGroup.all.map fun g => (.chars g.name,
      .obj [("family", .str (shown.family g)), ("size", .int (shown.size g)),
        ("style", .str (shown.style g))])))]

/-- The texts that a reader may choose consist of characters. -/
def Plain (shown : ShownSettings) : Prop :=
  ∀ g, (shown.family g).isPlain = true ∧ (shown.style g).isPlain = true

theorem isPlain_toJson_iff (shown : ShownSettings) : shown.toJson.isPlain = true ↔ shown.Plain := by
  have hgroups : shown.Plain ↔ ∀ g ∈ FontGroup.all,
      (shown.family g).isPlain = true ∧ (shown.style g).isPlain = true :=
    ⟨fun h g _ => h g, fun h g => h g (by cases g <;> decide)⟩
  rw [hgroups, toJson, Json.isPlain]
  simp

end ShownSettings

/-- Choices that have values of their types are shown in the one shape that settings have. -/
theorem exists_shown_of_valid (h : Choice.Valid value) : ∃ shown : ShownSettings,
    (Settings.ofValues value).toJson = shown.toJson ∧ (Choice.Plain value → shown.Plain) := by
  obtain ⟨category, hcategory⟩ := (h .category).exists_category
  obtain ⟨source, hsource⟩ := (h .source).exists_flag
  obtain ⟨width, hwidth⟩ := (h .width).exists_whole
  choose family hfamily using fun g => (h (.font g .family)).exists_text
  choose size hsize using fun g => (h (.font g .size)).exists_whole
  choose style hstyle using fun g => (h (.font g .style)).exists_text
  refine ⟨⟨category, source, width, family, size, style⟩, ?_, fun hplain g => ⟨?_, ?_⟩⟩
  · simp only [Settings.toJson, Settings.ofValues, fontFields, FontField.all, FontField.name,
      ShownSettings.toJson, FontGroup.all, FontGroup.name, List.map_cons, List.map_nil, hcategory,
      hsource, hwidth, hfamily, hsize, hstyle]
  · have hvalue := hplain (.font g .family)
    rwa [hfamily] at hvalue
  · have hvalue := hplain (.font g .style)
    rwa [hstyle] at hvalue

/-- **Whatever is done, the settings that are stored have one shape**: a category, a flag, a whole
number, and for each font group a text, a whole number and a text. They are shown just when these texts
consist of characters, which is so if no update gave another one. -/
theorem settings_shape (o : ServerOptions) (s₀ : Session) {server : Server}
    (hstart : (start o s₀).value = .ok server)
    (hfresh : (start o s₀).session.tree.at? (Settings.file o.dataDirectory) = none)
    (events : List Event) {question : Request}
    (hquestion : question.method = "GET" ∧ question.path = "/api/settings") :
    let after := events.foldl (Event.after server) (start o s₀).session
    ∃ (settings : Settings) (shown : ShownSettings),
      (Session.loadSettings after).value = .ok settings ∧ settings.toJson = shown.toJson ∧
      (shown.Plain →
        (server.respond question after).value = .ok ⟨200, shown.toJson.compact, none⟩) ∧
      (¬ shown.Plain → ∃ f, (server.respond question after).value = .error (.unencodable f)) ∧
      (GivePlain events → shown.Plain) := by
  intro after
  obtain ⟨catalog, hfirst⟩ := chosen_start o s₀ hstart hfresh
  obtain ⟨value, hlast, hplain⟩ := chosen_events server events hfirst
  obtain ⟨shown, hshown, hplain'⟩ := exists_shown_of_valid hlast.stored.valid
  have hfinite := Settings.isFinite_toJson hlast.stored.valid
  have hreply : server.respond question after = Reply.ofJson 200 shown.toJson after := by
    rw [respond_settings server hquestion.1 hquestion.2, Api.settings_of_chosen hlast, hshown]
  rw [hshown] at hfinite
  refine ⟨_, shown, congrArg Outcome.value hlast.load_eq, hshown, fun h => ?_, fun h => ?_,
    fun h => hplain' (hplain h plain_default)⟩
  · have hshowable : shown.toJson.isShowable = true := by
      rw [Json.isShowable_eq, hfinite, shown.isPlain_toJson_iff.2 h, Bool.and_self]
    rw [hreply, Reply.ofJson_eq hshowable]
  · have hhalf : shown.toJson.isPlain = false :=
      Bool.eq_false_iff.2 fun hplain => h (shown.isPlain_toJson_iff.1 hplain)
    obtain ⟨f, hf⟩ := Reply.ofJson_of_not_plain hfinite hhalf 200 after
    exact ⟨f, by rw [hreply, hf]⟩

theorem settings_shape_demo :
    ∃ shown : ShownSettings, shown.Plain ∧
      (respond ⟨none⟩ seeSettings (Event.demo.after ⟨none⟩ goblinSession)).value =
        .ok ⟨200, shown.toJson.compact, none⟩ := by
  have hgive : GivePlain [.demo] := fun r hr => absurd hr (by simp)
  have hshape := @settings_shape goblinOptions ⟨goblinTree, none, none⟩ ⟨none⟩
    (congrArg Outcome.value start_goblin) (by rw [start_goblin]; decide) [.demo] seeSettings
    (show seeSettings.method = "GET" ∧ _ from ⟨rfl, rfl⟩)
  rw [start_goblin] at hshape
  obtain ⟨-, shown, -, -, hreply, -, hplain⟩ := hshape
  exact ⟨shown, hplain hgive, hreply (hplain hgive)⟩

/-- A request to set a font family that is a half of a pair. -/
def giveHalf : Request :=
  ⟨"PATCH", "/api/settings", "", Text.Utf8.encode
    "\x7b\"font_settings\":\x7b\"body\":\x7b\"family\":\"\\ud800\"\x7d\x7d\x7d".toList⟩

/-- A server is started, the half is stored, and the settings are not shown from then on. -/
theorem settings_unshown :
    start goblinOptions ⟨goblinTree, none, none⟩ = ⟨.ok ⟨none⟩, goblinSession, []⟩ ∧
      (respond ⟨none⟩ seeSettings (Event.after ⟨none⟩ goblinSession (.request giveHalf))).value =
        .error (.unencodable ⟨.high 0, 1, 104⟩) :=
  ⟨start_goblin, by decide +kernel⟩

end Server

end

end Compendium
