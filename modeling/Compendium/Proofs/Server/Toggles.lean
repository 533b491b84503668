import Compendium.Proofs.Bookmarks.Store
import Compendium.Proofs.Server.Dispatch
import Compendium.Proofs.Server.Exchanges

/-!
# Bookmarks over a run of requests

What the store of bookmarks holds after any requests to a server that was started without one. Each
request leads from one set of keys to the next (`marksAfter`), and the directory stores just that
set (`keeps_respond`); a key is in it when it was toggled an odd number of times since the last time
that all were cleared. Main theorem `toggles_decide_bookmarks`.
-/

namespace Compendium

/-! ## What an exchange did -/

namespace Exchange

def status? (x : Exchange) : Option Nat :=
  match x.value with
  | .ok reply => some reply.status
  | .error _ => none

/-- The key in the path of a request to toggle a bookmark that was answered well. -/
def toggled? (x : Exchange) : Option String :=
  if x.request.method = "POST" ∧ x.status? = some 200 then
    (Pattern.between "/api/bookmarks/" "").match? x.request.path
  else none

def clears (x : Exchange) : Bool :=
  x.request.method = "DELETE" ∧ ((Pattern.exactly "/api/bookmarks").match? x.request.path).isSome

/-- How often the bookmark of a key was toggled since the bookmarks were last cleared. -/
def timesToggled (key : String) (history : List Exchange) : Nat :=
  (history.reverse.takeWhile fun x => !x.clears).countP fun x => x.toggled? = some key

theorem timesToggled_append (key : String) (history : List Exchange) (x : Exchange) :
    timesToggled key (history ++ [x]) =
      if x.clears then 0
      else timesToggled key history + if x.toggled? = some key then 1 else 0 := by
  unfold timesToggled
  rw [List.reverse_append, List.reverse_singleton, List.singleton_append, List.takeWhile_cons]
  by_cases hclears : x.clears = true
  · simp [hclears]
  · simp [hclears, List.countP_cons]

end Exchange

/-! ## What a request does to the store -/

/-- An opened session whose directory stores a set of keys of entries. -/
structure Keeps (directory : Path) (catalog : Catalog) (b : Bookmarks) (s : Session) : Prop extends
    Session.Opened directory catalog s where
  stored : Bookmarks.Stored s.tree directory b.keys
  known : ∀ k ∈ b.keys, ∃ e ∈ catalog, .chars e.key = k

variable {directory : Path} {catalog : Catalog} {b b' : Bookmarks} {s : Session}

theorem Keeps.save (h : Keeps directory catalog b s)
    (hknown : ∀ k ∈ b'.keys, ∃ e ∈ catalog, .chars e.key = k) :
    ∃ tree, Bookmarks.save s.tree directory b' = (tree, none) ∧
      Keeps directory catalog b' { s with tree := tree } := by
  obtain ⟨tree, hsave, hmade, hstored⟩ := Bookmarks.save_of_stored h.made h.stored b'
  exact ⟨tree, hsave, { h with made := hmade, stored := hstored, known := hknown }⟩

namespace Api

/-- The reply to a request to toggle a bookmark. -/
def toggleReply (key : String) (bookmarked : Bool) : Reply :=
  ⟨200, (Json.obj [("key", .str key), ("bookmarked", .bool bookmarked)]).compact, none⟩

theorem toggle_of_find?_some {key : String} {e : Entry} (h : Keeps directory catalog b s)
    (hfind : catalog.find? key = some e) :
    (toggle key s).value = .ok (toggleReply key ((b.toggle key).has key)) ∧
      Keeps directory catalog (b.toggle key) (toggle key s).session := by
  have hknown : ∀ k ∈ (b.toggle key).keys, ∃ e ∈ catalog, .chars e.key = k := by
    intro k hk
    by_cases hkey : k = key
    · obtain ⟨hkey', before, after, rfl, -⟩ := Catalog.find?_eq_some_iff.1 hfind
      exact ⟨e, by simp, (congrArg Text.chars hkey').trans hkey.symm⟩
    · exact h.known k ((Bookmarks.mem_toggle_iff.1 hk).2 hkey)
  obtain ⟨tree, hsave, hkeeps⟩ := h.save hknown
  have htoggle := Session.toggleBookmark_eq h.storage_eq key
  rw [Bookmarks.load_of_stored h.stored] at htoggle
  simp only [hsave, Option.map_none, Option.toList_none, List.append_nil] at htoggle
  have hshowable : (Json.obj
      [("key", .str key), ("bookmarked", .bool ((b.toggle key).has key))]).isShowable = true := rfl
  unfold toggle
  rw [withEntry_of_find?_some h.catalog_eq hfind, Activity.bind_eq_next htoggle,
    Reply.ofJson_eq hshowable]
  exact ⟨rfl, hkeeps⟩

theorem toggle_of_find?_none {key : String} (h : Keeps directory catalog b s)
    (hfind : catalog.find? key = none) :
    toggle key s = Reply.entryNotFound s :=
  withEntry_of_find?_none h.catalog_eq hfind _

theorem keeps_clear (h : Keeps directory catalog b s) :
    Keeps directory catalog .empty (clear s).session := by
  have hnone : ∀ k ∈ Bookmarks.empty.keys, ∃ e ∈ catalog, .chars e.key = k := by simp [Bookmarks.empty]
  obtain ⟨tree, hsave, hkeeps⟩ := h.save hnone
  have hclear : Session.clearBookmarks s = ⟨.ok (), { s with tree := tree }, []⟩ := by
    have hitems := Session.saveBookmarkItems_eq h.storage_eq (Bookmarks.empty.keys.map .str)
    rw [Bookmarks.save] at hsave
    rwa [hsave] at hitems
  unfold clear
  rw [Activity.bind_eq_next hclear, Reply.reads_ofJson]
  exact hkeeps

end Api

namespace Server

/-- The bookmarks after a request, given those before it. -/
def marksAfter (server : Server) (catalog : Catalog) (b : Bookmarks) (r : Request) : Bookmarks :=
  match Route.dispatch server.routes r.method r.path with
  | .found .bookmarkToggle key => if (catalog.find? key).isSome then b.toggle key else b
  | .found .bookmarkClear _ => .empty
  | _ => b

theorem keeps_answer_other (server : Server) (r : Request) (key : String) {endpoint : Endpoint}
    (htoggle : endpoint ≠ .bookmarkToggle) (hclear : endpoint ≠ .bookmarkClear)
    (h : Keeps directory catalog b s) :
    Keeps directory catalog b (server.answer r key endpoint s).session := by
  have htouches := answer_touches server r key endpoint
  by_cases hsettings : endpoint = .settingsUpdate
  · subst hsettings
    rcases h.of_writes htouches with hsame | ⟨octets, tree, hwrite, hsession, hmade⟩
    · rwa [hsame]
    · have hstored := Bookmarks.stored_write_other (by decide) (by decide) h.made hwrite h.stored
      rw [hsession]
      exact { h with made := hmade, stored := hstored }
  · have hnone : storeFile? endpoint = none := by
      cases endpoint <;> first | rfl | contradiction
    rw [hnone] at htouches
    rwa [htouches s]

/-- Each request leads from one stored set to the next. -/
theorem keeps_respond (server : Server) (r : Request) (h : Keeps directory catalog b s) :
    Keeps directory catalog (server.marksAfter catalog b r) (server.respond r s).session := by
  unfold marksAfter respond
  cases hdispatch : Route.dispatch server.routes r.method r.path with
  | found endpoint key =>
    by_cases htoggle : endpoint = .bookmarkToggle
    · subst htoggle
      dsimp only [answer]
      cases hfind : catalog.find? key with
      | some e => exact (Api.toggle_of_find?_some h hfind).2
      | none =>
        rw [Api.toggle_of_find?_none h hfind, Reply.entryNotFound, Reply.reads_refusal]
        exact h
    · by_cases hclear : endpoint = .bookmarkClear
      · subst hclear
        exact Api.keeps_clear h
      · have hother := keeps_answer_other server r key htoggle hclear h
        split
        · rename_i heq
          exact absurd (Dispatch.found.inj heq).1 htoggle
        · rename_i heq
          exact absurd (Dispatch.found.inj heq).1 hclear
        · exact hother
  | methodNotAllowed =>
    dsimp only
    rw [Reply.methodNotAllowed, Reply.reads_refusal]
    exact h
  | redirect path => exact h
  | notFound =>
    dsimp only
    rw [Reply.notFound, Reply.reads_refusal]
    exact h

/-! ## Counting -/

theorem respond_toggle {server : Server} {r : Request} {key : String}
    (h : Route.dispatch server.routes r.method r.path = .found .bookmarkToggle key) (s : Session) :
    server.respond r s = Api.toggle key s := by
  simp only [respond, h, answer]

theorem toggled?_exchange {server : Server} {r : Request} {key : String}
    (h : Keeps directory catalog b s) :
    (server.exchange s r).toggled? = some key ↔
      Route.dispatch server.routes r.method r.path = .found .bookmarkToggle key ∧
        (catalog.find? key).isSome = true := by
  have hstatus : Route.dispatch server.routes r.method r.path = .found .bookmarkToggle key →
      ((server.exchange s r).status? = some 200 ↔ (catalog.find? key).isSome = true) := by
    intro hdispatch
    unfold Exchange.status? exchange
    rw [respond_toggle hdispatch]
    cases hfind : catalog.find? key with
    | some e => simp [(Api.toggle_of_find?_some h hfind).1, Api.toggleReply]
    | none =>
      rw [Api.toggle_of_find?_none h hfind, Reply.entryNotFound, Reply.refusal_eq]
      simp
  unfold Exchange.toggled?
  rw [Option.ite_none_right_eq_some]
  constructor
  · rintro ⟨⟨hpost, hok⟩, hmatch⟩
    have hdispatch := server.dispatch_toggle_iff.2 ⟨hpost, hmatch⟩
    exact ⟨hdispatch, (hstatus hdispatch).1 hok⟩
  · rintro ⟨hdispatch, hfind⟩
    obtain ⟨hpost, hmatch⟩ := server.dispatch_toggle_iff.1 hdispatch
    exact ⟨⟨hpost, (hstatus hdispatch).2 hfind⟩, hmatch⟩

theorem clears_exchange {server : Server} {r : Request} :
    (server.exchange s r).clears = true ↔
      ∃ key, Route.dispatch server.routes r.method r.path = .found .bookmarkClear key := by
  unfold Exchange.clears
  rw [decide_eq_true_iff, Option.isSome_iff_exists]
  simp [dispatch_clear_iff, exchange]

/-- A reply to a toggle says whether the key is bookmarked now. -/
theorem value_of_toggled? (server : Server) (r : Request) {key : String}
    (h : Keeps directory catalog b s) (htoggled : (server.exchange s r).toggled? = some key) :
    (server.exchange s r).value =
      .ok (Api.toggleReply key ((server.marksAfter catalog b r).has key)) := by
  obtain ⟨hdispatch, hfind⟩ := (toggled?_exchange h).1 htoggled
  obtain ⟨e, he⟩ := Option.isSome_iff_exists.1 hfind
  simp only [exchange, respond_toggle hdispatch, marksAfter, hdispatch, hfind, if_true]
  exact (Api.toggle_of_find?_some h he).1

/-- The keys that were toggled an odd number of times stay the bookmarks. -/
theorem mem_marksAfter (server : Server) (r : Request) {history : List Exchange}
    (h : Keeps directory catalog b s)
    (hodd : ∀ k : String, .chars k ∈ b.keys ↔ Exchange.timesToggled k history % 2 = 1) (k : String) :
    .chars k ∈ (server.marksAfter catalog b r).keys ↔
      Exchange.timesToggled k (history ++ [server.exchange s r]) % 2 = 1 := by
  rw [Exchange.timesToggled_append]
  by_cases hclears : (server.exchange s r).clears = true
  · obtain ⟨key, hdispatch⟩ := clears_exchange.1 hclears
    simp [hclears, marksAfter, hdispatch, Bookmarks.empty]
  · rw [if_neg hclears]
    by_cases htoggled : ∃ key, (server.exchange s r).toggled? = some key
    · obtain ⟨key, htoggled⟩ := htoggled
      obtain ⟨hdispatch, hfind⟩ := (toggled?_exchange h).1 htoggled
      simp only [marksAfter, hdispatch, hfind, if_true, htoggled, Option.some.injEq]
      rw [Bookmarks.mem_toggle_iff, hodd k, ne_eq, Text.chars.injEq]
      by_cases hkey : key = k
      · simp only [hkey, not_true_eq_false, iff_false, if_true]
        omega
      · simp only [hkey, Ne.symm hkey, not_false_eq_true, iff_true, if_false]
        omega
    · have hsame : server.marksAfter catalog b r = b := by
        unfold marksAfter
        split
        · rename_i key hdispatch
          rw [if_neg fun hfind => htoggled ⟨key, (toggled?_exchange h).2 ⟨hdispatch, hfind⟩⟩]
        · rename_i key hdispatch
          exact absurd (clears_exchange.2 ⟨key, hdispatch⟩) hclears
        · rfl
      rw [hsame, hodd k, if_neg fun hk => htoggled ⟨k, hk⟩, Nat.add_zero]

/-! ## The run -/

/-- The directory stores the keys that were toggled an odd number of times. -/
def Counted (directory : Path) (catalog : Catalog) (history : List Exchange) (s : Session) : Prop :=
  ∃ b, Keeps directory catalog b s ∧
    ∀ k : String, .chars k ∈ b.keys ↔ Exchange.timesToggled k history % 2 = 1

theorem counted_exchange {server : Server} (history : List Exchange) (s : Session) (r : Request)
    (h : Counted directory catalog history s) :
    Counted directory catalog (history ++ [server.exchange s r]) (server.exchange s r).after := by
  obtain ⟨b, hkeeps, hodd⟩ := h
  exact ⟨server.marksAfter catalog b r, keeps_respond server r hkeeps, mem_marksAfter server r hkeeps hodd⟩

theorem counted_start (o : ServerOptions) (s₀ : Session) {server : Server}
    (hstart : (start o s₀).value = .ok server)
    (hfresh : (start o s₀).session.tree.at? (Bookmarks.file o.dataDirectory) = none) :
    ∃ catalog, (start o s₀).session.catalog = some catalog ∧
      Counted o.dataDirectory catalog [] (start o s₀).session := by
  obtain ⟨catalog, hopened⟩ := opened_of_start hstart
  refine ⟨catalog, hopened.catalog_eq, .empty, ?_, ?_⟩
  · exact { hopened with stored := Or.inl ⟨hfresh, rfl⟩, known := by simp [Bookmarks.empty] }
  · simp [Bookmarks.empty, Exchange.timesToggled]

/-- **After every request the store lists, in order, the keys toggled an odd number of times since
the bookmarks were cleared**; each is the key of an entry, and a reply to a toggle says whether the
key is listed now. -/
theorem toggles_decide_bookmarks (o : ServerOptions) (s₀ : Session) {server : Server}
    (hstart : (start o s₀).value = .ok server)
    (hfresh : (start o s₀).session.tree.at? (Bookmarks.file o.dataDirectory) = none)
    (requests : List Request) {before later : List Exchange} {x : Exchange}
    (hx : server.exchanges (start o s₀).session requests = before ++ x :: later) :
    ∃ catalog, (start o s₀).session.catalog = some catalog ∧
      ∃ keys, Bookmarks.Stored x.after.tree o.dataDirectory keys ∧
        keys.Pairwise (· < ·) ∧ (∀ k ∈ keys, ∃ e ∈ catalog, .chars e.key = k) ∧
        (∀ k : String, .chars k ∈ keys ↔ Exchange.timesToggled k (before ++ [x]) % 2 = 1) ∧
        ∀ k, x.toggled? = some k → x.value = .ok (Api.toggleReply k (.chars k ∈ keys)) := by
  obtain ⟨catalog, hcatalog, hfirst⟩ := counted_start o s₀ hstart hfresh
  obtain ⟨s, ⟨b, hkeeps, hodd⟩, hexchange⟩ := exchanges_invariant counted_exchange hfirst hx
  have hafter : x.after = (server.respond x.request s).session := congrArg Exchange.after hexchange
  have hkeeps' := keeps_respond server x.request hkeeps
  rw [← hafter] at hkeeps'
  refine ⟨catalog, hcatalog, (server.marksAfter catalog b x.request).keys, hkeeps'.stored,
    Bookmarks.ascending _, hkeeps'.known, ?_, ?_⟩
  · intro k
    have hcount := mem_marksAfter server x.request hkeeps hodd k
    rwa [← hexchange] at hcount
  · intro k hk
    rw [hexchange] at hk
    exact (congrArg Exchange.value hexchange).trans (value_of_toggled? server x.request hkeeps hk)

theorem toggles_decide_bookmarks_goblin :
    ∃ s x keys, (start goblinOptions ⟨goblinTree, none, none⟩).session = s ∧
      exchange ⟨none⟩ s ⟨"POST", "/api/bookmarks/bestiary:Goblin", "", []⟩ = x ∧
      Bookmarks.Stored x.after.tree ⟨["data"]⟩ keys ∧ .chars "bestiary:Goblin" ∈ keys := by
  have hstart : (start goblinOptions ⟨goblinTree, none, none⟩).value = .ok ⟨none⟩ :=
    congrArg Outcome.value start_goblin
  have hfresh : (start goblinOptions ⟨goblinTree, none, none⟩).session.tree.at?
      (Bookmarks.file ⟨["data"]⟩) = none := by
    rw [start_goblin]
    decide
  obtain ⟨catalog, hcatalog, keys, hstored, -, -, hodd, -⟩ := toggles_decide_bookmarks
    goblinOptions ⟨goblinTree, none, none⟩ hstart hfresh
    [⟨"POST", "/api/bookmarks/bestiary:Goblin", "", []⟩] (List.nil_append _).symm
  refine ⟨_, _, keys, rfl, rfl, hstored, (hodd _).2 ?_⟩
  obtain ⟨catalog', hcatalog', b, hkeeps, -⟩ :=
    counted_start goblinOptions ⟨goblinTree, none, none⟩ hstart hfresh
  rw [start_goblin] at hcatalog' hkeeps ⊢
  obtain rfl : _ = catalog' := Option.some.inj hcatalog'
  rw [Exchange.timesToggled_append, if_neg (by decide),
    if_pos ((toggled?_exchange hkeeps).2 ⟨by decide, by decide⟩)]
  rfl

end Server

end Compendium
