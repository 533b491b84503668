import Compendium.Proofs.Server.Exchanges
import Compendium.Proofs.Server.Paths

/-!
# Pages beside the interface

A server that serves pages has one for every path at which nothing else answers, and that takes in
paths of the interface: where the interface would send a request elsewhere, or find nothing, the
page answers. What the interface decides by itself is `Decided`; main theorem `same_answer_iff`: below
the path of the interface, servers with pages and without them answer alike just then. A path that the
interface does not know is answered with the page (`page_at_unknown_path`).
-/

namespace Compendium

/-! ## Paths without a line feed -/

namespace Pattern

/-- The fixed texts of a pattern. -/
def fixed : Pattern → List Char
  | .exactly p => p.toList
  | .between a b => a.toList ++ b.toList

theorem not_feed_of_inside? {p : Pattern} {cs key : List Char} (h : p.inside? cs = some key)
    (hfixed : '\n' ∉ p.fixed) : '\n' ∉ cs := by
  cases p with
  | exactly path =>
    obtain ⟨rfl, -⟩ := inside?_exactly_iff.1 h
    exact hfixed
  | between a b =>
    obtain ⟨rfl, hkey⟩ := inside?_between_iff.1 h
    simp only [fixed, List.mem_append, not_or] at hfixed ⊢
    exact ⟨⟨hfixed.1, hkey⟩, hfixed.2⟩

/-- A line feed in a path that matches ends it. -/
theorem not_feed_of_match? {p : Pattern} {path key : String} (h : p.match? path = some key)
    (hfixed : '\n' ∉ p.fixed) : '\n' ∉ path.toList.dropLast := by
  rcases inside?_of_match? h with hinside | ⟨cs, hcs, hinside⟩
  · exact fun hfeed => not_feed_of_inside? hinside hfixed (List.dropLast_subset _ hfeed)
  · rw [hcs, List.dropLast_concat]
    exact not_feed_of_inside? hinside hfixed

end Pattern

namespace Route

/-- No path of the interface has a line feed before its end. -/
theorem not_covers_of_feed {path : String} (hfeed : '\n' ∈ path.toList.dropLast) :
    ¬ ∃ d ∈ api, d.covers path = true := by
  have hfixed : ∀ d ∈ api, '\n' ∉ d.pattern.fixed := by decide
  rintro ⟨d, hd, hcovers⟩
  obtain ⟨key, hmatch⟩ := Option.isSome_iff_exists.1 hcovers
  exact Pattern.not_feed_of_match? hmatch (hfixed d hd) hfeed

/-! ## Paths with another ending -/

theorem toList_otherEnding (path : String) :
    (otherEnding path).toList =
      if path.toList.getLast? = some '/' then (path.toList.reverse.dropWhile (· = '/')).reverse
      else path.toList ++ ['/'] := by
  unfold otherEnding
  dsimp only
  split <;> exact String.toList_ofList

theorem prefix_dropWhile_reverse {p : Char → Bool} {front cs : List Char} {c : Char}
    (hlast : front.getLast? = some c) (hc : p c = false) (h : front <+: cs) :
    front <+: (cs.reverse.dropWhile p).reverse := by
  obtain ⟨init, rfl⟩ := List.getLast?_eq_some_iff.1 hlast
  obtain ⟨rest, rfl⟩ := h
  rw [List.reverse_append, List.dropWhile_append]
  split
  · simp [hc]
  · simp

/-- A path of the interface stays one with another ending, but for the slash behind its name. -/
theorem prefix_otherEnding {path : String} (h : "/api/".toList <+: path.toList) :
    "/api".toList <+: (otherEnding path).toList := by
  have hfront : "/api".toList <+: path.toList := List.IsPrefix.trans (by decide) h
  rw [toList_otherEnding]
  split
  · exact prefix_dropWhile_reverse (c := 'i') rfl (by decide) hfront
  · exact hfront.trans (List.prefix_append _ _)

theorem ne_root_of_prefix {path : String} (h : "/api/".toList <+: path.toList) : path ≠ "/" := by
  rintro rfl
  exact absurd h (by decide)

/-! ## The routes of the pages -/

section
variable {path method : String}

theorem covers_pages_iff (h : "/api".toList <+: path.toList) :
    (∃ d ∈ pages, d.covers path = true) ↔ '\n' ∉ path.toList.dropLast := by
  rw [← page_misses_iff h]
  simp [pages, covers, asset_misses h, Option.isSome_iff_ne_none]

theorem findSome?_pages_eq_page (h : "/api".toList <+: path.toList)
    (hfeed : '\n' ∉ path.toList.dropLast) :
    ∃ key, pages.findSome? (fun d => d.answer? "GET" path) = some (.page, key) := by
  rw [← page_misses_iff h, ← ne_eq, Option.ne_none_iff_exists'] at hfeed
  obtain ⟨key, hkey⟩ := hfeed
  exact ⟨key, by simp [pages, answer?, allows, asset_misses h, hkey]⟩

/-- Where a request goes that no route answers. -/
theorem dispatch_of_unanswered {routes : List Route}
    (h : routes.findSome? (fun d => d.answer? method path) = none) :
    dispatch routes method path =
      if ∃ d ∈ routes, d.covers path = true then .methodNotAllowed
      else if path ≠ "/" ∧ ∃ d ∈ routes, d.covers (otherEnding path) = true then
        .redirect (otherEnding path)
      else .notFound := by
  simp only [dispatch, h, List.any_eq_true]

end

end Route

/-! ## What the interface decides -/

/-- The interface decides about a request below its path by itself: a route answers it; or one matches
its path, and no page is asked for; or the path has a line feed before its end, and is not that of a
page with another ending, unless it is one of the interface then. -/
inductive Request.Decided (r : Request) : Prop where
  | answered (h : ∃ d ∈ Route.api, (d.answer? r.method r.path).isSome = true)
  | refused (hmethod : r.method ≠ "GET") (h : ∃ d ∈ Route.api, d.covers r.path = true)
  | broken (hfeed : '\n' ∈ r.path.toList.dropLast)
    (h : '\n' ∈ (Route.otherEnding r.path).toList.dropLast ∨
      ∃ d ∈ Route.api, d.covers (Route.otherEnding r.path) = true)

/-- What a client is shown: the status and the text of the reply, or that there is none. -/
def Outcome.shown (out : Outcome Reply) : Except Failure (Nat × String) :=
  out.value.map fun reply => (reply.status, reply.body)

namespace Server

/-! ## Answers with pages and without -/

/-- Servers that send a request to the same place answer it alike, unless pages do. -/
theorem respond_congr {server other : Server} {r : Request}
    (h : Route.dispatch server.routes r.method r.path = Route.dispatch other.routes r.method r.path)
    (hpage : ∀ key, Route.dispatch server.routes r.method r.path ≠ .found .page key ∧
      Route.dispatch server.routes r.method r.path ≠ .found .asset key) :
    server.respond r = other.respond r := by
  unfold respond
  rw [← h]
  cases hdispatch : Route.dispatch server.routes r.method r.path with
  | found endpoint key =>
    rw [hdispatch] at hpage
    cases endpoint with
    | page => exact absurd rfl (hpage key).1
    | asset => exact absurd rfl (hpage key).2
    | _ => rfl
  | _ => rfl

theorem shown_ne_of_answers {x y : Activity Reply} {s : Session} {status : Nat}
    (hx : x.Answers s status) (hy : ∀ reply, (y s).value = .ok reply → reply.status ≠ status) :
    (y s).shown ≠ (x s).shown := by
  obtain ⟨reply, hreply, rfl⟩ := hx
  intro hshown
  rw [Outcome.shown, Outcome.shown, hreply] at hshown
  cases hvalue : (y s).value with
  | error f => simp [hvalue, Except.map] at hshown
  | ok reply' =>
    rw [hvalue] at hshown
    exact hy reply' hvalue (congrArg Prod.fst (Except.ok.inj hshown))

/-- The status of the reply to a request that no endpoint answers. -/
def refusalStatus? : Dispatch → Option Nat
  | .found _ _ => none
  | .methodNotAllowed => some 405
  | .redirect _ => some 307
  | .notFound => some 404

theorem answers_of_refusal {server : Server} {r : Request} {status : Nat}
    (h : refusalStatus? (Route.dispatch server.routes r.method r.path) = some status) (s : Session) :
    Activity.Answers (server.respond r) s status := by
  unfold respond
  generalize Route.dispatch server.routes r.method r.path = place at h
  cases place with
  | found endpoint key => simp [refusalStatus?] at h
  | methodNotAllowed =>
    obtain rfl : 405 = status := Option.some.inj h
    exact Reply.answers_refusal _ _ s
  | redirect path =>
    obtain rfl : 307 = status := Option.some.inj h
    exact ⟨_, rfl, rfl⟩
  | notFound =>
    obtain rfl : 404 = status := Option.some.inj h
    exact Reply.answers_refusal _ _ s

theorem shown_ne_of_status {server other : Server} {r : Request} {status status' : Nat}
    (h : refusalStatus? (Route.dispatch server.routes r.method r.path) = some status)
    (h' : refusalStatus? (Route.dispatch other.routes r.method r.path) = some status')
    (hne : status ≠ status') (s : Session) :
    (server.respond r s).shown ≠ (other.respond r s).shown := by
  obtain ⟨reply, hreply, hstatus⟩ := answers_of_refusal h s
  refine shown_ne_of_answers (answers_of_refusal h' s) fun reply' hreply' => ?_
  obtain rfl : reply = reply' := Except.ok.inj (hreply.symm.trans hreply')
  rwa [hstatus]

/-- A page is answered well or not at all. -/
theorem repliesWith_page (file : Path) : Activity.RepliesWith 200 (page file) := by
  have hfail : ∀ f, Activity.RepliesWith 200 (Activity.fail f) := fun f s reply hreply =>
    absurd hreply (by simp [Activity.fail])
  refine Activity.RepliesWith.bind fun s => ?_
  dsimp only
  split
  · exact hfail _
  · exact hfail _
  · split
    · exact fun _ _ hreply => congrArg Reply.status (Except.ok.inj hreply).symm
    · exact hfail _
    · exact hfail _

variable {pages : Path} {r : Request}

theorem routes_without_pages : routes ⟨none⟩ = Route.api := List.append_nil _

theorem routes_with_pages : routes ⟨some pages⟩ = Route.api ++ Route.pages := rfl

theorem respond_eq_of_answered (h : ∃ d ∈ Route.api, (d.answer? r.method r.path).isSome = true) :
    respond ⟨some pages⟩ r = respond ⟨none⟩ r := by
  have hsome : (Route.api.findSome? fun d => d.answer? r.method r.path).isSome = true := by
    rwa [List.findSome?_isSome_iff]
  obtain ⟨⟨endpoint, key⟩, hfind⟩ := Option.isSome_iff_exists.1 hsome
  have hfound := fun server => dispatch_of_api server hfind
  have hendpoint : endpoint ≠ .page ∧ endpoint ≠ .asset := by
    have hnone : ∀ d ∈ Route.api, d.endpoint ≠ .page ∧ d.endpoint ≠ .asset := by decide
    obtain ⟨d, hd, hanswer⟩ := List.exists_of_findSome?_eq_some hfind
    rw [Route.answer?, Option.ite_none_right_eq_some, Option.map_eq_some_iff] at hanswer
    obtain ⟨-, k, -, hpair⟩ := hanswer
    obtain ⟨rfl, -⟩ := Prod.mk.inj hpair
    exact hnone d hd
  apply respond_congr
  · rw [hfound, hfound]
  · intro k
    rw [hfound]
    simp [hendpoint]

/-- Servers with pages and without them answer the request alike if the interface decides about it, and
never if it does not. -/
def AlikeIfDecided (pages : Path) (r : Request) : Prop :=
  (r.Decided ∧ respond ⟨some pages⟩ r = respond ⟨none⟩ r) ∨
    (¬ r.Decided ∧ ∀ s, (respond ⟨some pages⟩ r s).shown ≠ (respond ⟨none⟩ r s).shown)

section
variable (hnone : ¬ ∃ d ∈ Route.api, (d.answer? r.method r.path).isSome = true)
include hnone

theorem findSome?_api_eq_none :
    Route.api.findSome? (fun d => d.answer? r.method r.path) = none := by
  rw [List.findSome?_eq_none_iff]
  intro d hd
  exact Option.not_isSome_iff_eq_none.1 fun hsome => hnone ⟨d, hd, hsome⟩

theorem dispatch_without_pages :
    Route.dispatch (routes ⟨none⟩) r.method r.path =
      if ∃ d ∈ Route.api, d.covers r.path = true then .methodNotAllowed
      else if r.path ≠ "/" ∧ ∃ d ∈ Route.api, d.covers (Route.otherEnding r.path) = true then
        .redirect (Route.otherEnding r.path)
      else .notFound := by
  rw [routes_without_pages]
  exact Route.dispatch_of_unanswered (findSome?_api_eq_none hnone)

variable (hpath : "/api/".toList <+: r.path.toList)
include hpath

/-- A page that is asked for is answered, and the interface would have refused. -/
theorem alike_at_page (hget : r.method = "GET") (hfeed : '\n' ∉ r.path.toList.dropLast) :
    AlikeIfDecided pages r := by
  have hfront : "/api".toList <+: r.path.toList := List.IsPrefix.trans (by decide) hpath
  have hunanswered := findSome?_api_eq_none hnone
  obtain ⟨key, hkey⟩ := Route.findSome?_pages_eq_page hfront hfeed
  have hwith : respond ⟨some pages⟩ r = page pages := by
    have hdispatch : Route.dispatch (routes ⟨some pages⟩) r.method r.path = .found .page key := by
      rw [Route.dispatch_eq_found_iff, routes_with_pages, List.findSome?_append, hunanswered, hget, hkey]
      rfl
    funext s
    simp only [respond, hdispatch, answer, Option.getD_some]
  obtain ⟨status, hstatus, hne⟩ : ∃ status,
      refusalStatus? (Route.dispatch (routes ⟨none⟩) r.method r.path) = some status ∧ 200 ≠ status := by
    rw [dispatch_without_pages hnone]
    split
    · exact ⟨405, rfl, by decide⟩
    · split
      · exact ⟨307, rfl, by decide⟩
      · exact ⟨404, rfl, by decide⟩
  refine Or.inr ⟨?_, fun s => ?_⟩
  · rintro (h | ⟨hother, -⟩ | ⟨hbroken, -⟩)
    · exact hnone h
    · exact hother hget
    · exact hfeed hbroken
  · rw [hwith]
    refine shown_ne_of_answers (answers_of_refusal hstatus s) fun reply hreply => ?_
    rwa [repliesWith_page pages s reply hreply]

/-- At a page that is not asked for every method is refused, as it is where the interface is known. -/
theorem alike_beside_page (hother : r.method ≠ "GET") (hfeed : '\n' ∉ r.path.toList.dropLast) :
    AlikeIfDecided pages r := by
  have hfront : "/api".toList <+: r.path.toList := List.IsPrefix.trans (by decide) hpath
  have hunanswered := findSome?_api_eq_none hnone
  have hwith : Route.dispatch (routes ⟨some pages⟩) r.method r.path = .methodNotAllowed := by
    obtain ⟨d, hd, hcovers⟩ := (Route.covers_pages_iff hfront).2 hfeed
    rw [routes_with_pages, Route.dispatch_of_unanswered, if_pos ⟨d, List.mem_append_right _ hd, hcovers⟩]
    rw [List.findSome?_append, hunanswered, Route.findSome?_pages_eq_none hfront (Or.inl hother)]
    rfl
  have hwithout := dispatch_without_pages hnone
  by_cases hknown : ∃ d ∈ Route.api, d.covers r.path = true
  · rw [if_pos hknown] at hwithout
    refine Or.inl ⟨.refused hother hknown, respond_congr (hwith.trans hwithout.symm) fun key => ?_⟩
    simp [hwith]
  · obtain ⟨status, hstatus, hne⟩ : ∃ status,
        refusalStatus? (Route.dispatch (routes ⟨none⟩) r.method r.path) = some status ∧ 405 ≠ status := by
      rw [hwithout, if_neg hknown]
      split
      · exact ⟨307, rfl, by decide⟩
      · exact ⟨404, rfl, by decide⟩
    refine Or.inr ⟨?_, shown_ne_of_status (congrArg refusalStatus? hwith) hstatus hne⟩
    rintro (h | ⟨-, h⟩ | ⟨hbroken, -⟩)
    · exact hnone h
    · exact hknown h
    · exact hfeed hbroken

/-- Where there is no page and nothing of the interface, the path with its other ending decides. -/
theorem dispatch_with_pages_of_feed (pages : Path) (hfeed : '\n' ∈ r.path.toList.dropLast) :
    Route.dispatch (routes ⟨some pages⟩) r.method r.path =
      if (∃ d ∈ Route.api, d.covers (Route.otherEnding r.path) = true) ∨
          '\n' ∉ (Route.otherEnding r.path).toList.dropLast then
        .redirect (Route.otherEnding r.path)
      else .notFound := by
  have hfront : "/api".toList <+: r.path.toList := List.IsPrefix.trans (by decide) hpath
  have hunanswered := findSome?_api_eq_none hnone
  have hunknown := Route.not_covers_of_feed hfeed
  rw [routes_with_pages, Route.dispatch_of_unanswered]
  · simp only [List.mem_append, or_and_right, exists_or, hunknown, Route.covers_pages_iff hfront,
      Route.covers_pages_iff (Route.prefix_otherEnding hpath), hfeed, not_true_eq_false, or_self, if_false,
      Route.ne_root_of_prefix hpath, ne_eq, not_false_eq_true, true_and]
  · rw [List.findSome?_append, hunanswered, Route.findSome?_pages_eq_none hfront (Or.inr hfeed)]
    rfl

/-- Where there is no page, a request can still be sent to one, by another ending of its path. -/
theorem alike_without_page (hfeed : '\n' ∈ r.path.toList.dropLast) : AlikeIfDecided pages r := by
  have hunknown := Route.not_covers_of_feed hfeed
  have hwithout := dispatch_without_pages hnone
  rw [if_neg hunknown] at hwithout
  have hwith := dispatch_with_pages_of_feed hnone hpath pages hfeed
  by_cases hknown : ∃ d ∈ Route.api, d.covers (Route.otherEnding r.path) = true
  · rw [if_pos ⟨Route.ne_root_of_prefix hpath, hknown⟩] at hwithout
    rw [if_pos (Or.inl hknown)] at hwith
    refine Or.inl ⟨.broken hfeed (Or.inr hknown), respond_congr (hwith.trans hwithout.symm) fun key => ?_⟩
    simp [hwith]
  · rw [if_neg fun h => hknown h.2] at hwithout
    by_cases hpage : '\n' ∈ (Route.otherEnding r.path).toList.dropLast
    · rw [if_neg (by simp [hknown, hpage])] at hwith
      refine Or.inl ⟨.broken hfeed (Or.inl hpage), respond_congr (hwith.trans hwithout.symm) fun key => ?_⟩
      simp [hwith]
    · rw [if_pos (Or.inr hpage)] at hwith
      refine Or.inr ⟨?_, shown_ne_of_status (congrArg refusalStatus? hwith)
        (congrArg refusalStatus? hwithout) (by decide)⟩
      rintro (h | ⟨-, h⟩ | ⟨-, h | h⟩)
      · exact hnone h
      · exact hunknown h
      · exact hpage h
      · exact hknown h

end

theorem alikeIfDecided (pages : Path) (hpath : "/api/".toList <+: r.path.toList) :
    AlikeIfDecided pages r := by
  by_cases hanswered : ∃ d ∈ Route.api, (d.answer? r.method r.path).isSome = true
  · exact Or.inl ⟨.answered hanswered, respond_eq_of_answered hanswered⟩
  · by_cases hfeed : '\n' ∈ r.path.toList.dropLast
    · exact alike_without_page hanswered hpath hfeed
    · by_cases hget : r.method = "GET"
      · exact alike_at_page hanswered hpath hget hfeed
      · exact alike_beside_page hanswered hpath hget hfeed

/-! ## Starting with pages and without -/

theorem start_without_pages {o : ServerOptions} {s₀ : Session} {server : Server}
    (h : (start o s₀).value = .ok server) :
    (start { o with pages := none } s₀).value = .ok ⟨none⟩ ∧
      (start { o with pages := none } s₀).session = (start o s₀).session := by
  rw [start_eq o] at h ⊢
  obtain ⟨⟨⟩, hmade, hrest, hsession⟩ := Activity.of_bind_ok h
  obtain ⟨catalog, hread, -, hsession'⟩ := Activity.of_bind_ok hrest
  rw [hsession, hsession', reads_findPages o, start_eq]
  constructor
  · exact (Activity.value_bind_of_ok hmade).trans (Activity.value_bind_of_ok hread)
  · exact (Activity.session_bind_of_ok hmade).trans (Activity.session_bind_of_ok hread)

/-- **Below the path of the interface, a server with pages answers as one without them just when the
interface decides about the request**, whatever the files are; and then it does the same. Both are
started from the same files and leave the same session. -/
theorem same_answer_iff {o : ServerOptions} {s₀ : Session} {pages : Path}
    (hstart : (start o s₀).value = .ok ⟨some pages⟩) :
    ((start { o with pages := none } s₀).value = .ok ⟨none⟩ ∧
      (start { o with pages := none } s₀).session = (start o s₀).session) ∧
    ∀ (s : Session) (r : Request), "/api/".toList <+: r.path.toList →
      ((respond ⟨some pages⟩ r s).shown = (respond ⟨none⟩ r s).shown ↔ r.Decided) ∧
      (r.Decided → respond ⟨some pages⟩ r s = respond ⟨none⟩ r s) := by
  refine ⟨start_without_pages hstart, ?_⟩
  intro s r hpath
  rcases alikeIfDecided pages hpath with ⟨hdecided, hsame⟩ | ⟨hundecided, hdiffers⟩
  · exact ⟨iff_of_true (congrArg Outcome.shown (congrFun hsame s)) hdecided, fun _ => congrFun hsame s⟩
  · exact ⟨iff_of_false (hdiffers s) hundecided, fun h => absurd h hundecided⟩

/-- Files of a catalog and of pages. -/
def pagesTree : Tree where
  nodes := goblinTree.nodes ++ [(["static"], .directory), (["static", "assets"], .directory),
    (["static", "index.html"], .file (Text.Utf8.encode "<h1>Compendium</h1>".toList))]

/-- What a server with pages is started with. -/
def pagesOptions : ServerOptions := { goblinOptions with pages := some ⟨["static"]⟩ }

def pagesSession : Session := { goblinSession with tree := pagesTree.put ["data"] .directory }

theorem start_pages :
    start pagesOptions ⟨pagesTree, none, none⟩ = ⟨.ok ⟨some ⟨["static"]⟩⟩, pagesSession, []⟩ := by
  cbv

theorem same_answer_settings :
    (start pagesOptions ⟨pagesTree, none, none⟩).value = .ok ⟨some ⟨["static"]⟩⟩ ∧
      respond ⟨some ⟨["static"]⟩⟩ ⟨"POST", "/api/settings", "", []⟩ ⟨pagesTree, none, none⟩ =
        respond ⟨none⟩ ⟨"POST", "/api/settings", "", []⟩ ⟨pagesTree, none, none⟩ := by
  have hstart := congrArg Outcome.value start_pages
  refine ⟨hstart, ?_⟩
  apply ((same_answer_iff hstart).2 ⟨pagesTree, none, none⟩ ⟨"POST", "/api/settings", "", []⟩ (by decide)).2
  exact .refused (by decide) (by decide)

/-- The page answers at a path of the interface that the interface does not know. -/
theorem page_at_unknown_path :
    start pagesOptions ⟨pagesTree, none, none⟩ = ⟨.ok ⟨some ⟨["static"]⟩⟩, pagesSession, []⟩ ∧
      start { pagesOptions with pages := none } ⟨pagesTree, none, none⟩ = ⟨.ok ⟨none⟩, pagesSession, []⟩ ∧
      (respond ⟨some ⟨["static"]⟩⟩ ⟨"GET", "/api/nope", "", []⟩ pagesSession).shown =
        .ok (200, "<h1>Compendium</h1>") ∧
      (respond ⟨none⟩ ⟨"GET", "/api/nope", "", []⟩ pagesSession).shown =
        .ok (404, "\x7b\"detail\":\"Not Found\"\x7d") := by
  refine ⟨start_pages, by cbv, ?_, ?_⟩
  · have hdispatch : Route.dispatch (routes ⟨some ⟨["static"]⟩⟩) "GET" "/api/nope" =
        .found .page "api/nope" := by decide
    simp only [respond, hdispatch, answer]
    rfl
  · have hdispatch : Route.dispatch (routes ⟨none⟩) "GET" "/api/nope" = .notFound := by decide
    simp only [respond, hdispatch]
    rfl

end Server

end Compendium
