import Compendium.Server.App

/-!
# Where requests go

A method that only one route of the interface takes decides the route by itself, with or without
pages. Main theorem `dispatch_sole_iff`; what stores something is three cases of it.
-/

namespace Compendium.Server

/-- What answers among the routes of the interface answers, with or without pages. -/
theorem dispatch_of_api (server : Server) {method path key : String} {endpoint : Endpoint}
    (h : Route.api.findSome? (fun r => r.answer? method path) = some (endpoint, key)) :
    Route.dispatch server.routes method path = .found endpoint key := by
  rw [Route.dispatch_eq_found_iff, routes, List.findSome?_append, h, Option.some_or]

/-- **A request with the method of a sole route goes there just when its path matches.** -/
theorem dispatch_sole_iff (server : Server) (route : Route) {m : String}
    (hmethod : route.method = some m) (hroute : route ∈ Route.api)
    (hsole : ∀ d ∈ Route.api, d.allows m = true → d = route)
    (hendpoint : ∀ d ∈ Route.api ++ Route.pages, d.endpoint = route.endpoint → d = route)
    {method path key : String} :
    Route.dispatch server.routes method path = .found route.endpoint key ↔
      method = m ∧ route.pattern.match? path = some key := by
  have hallows : ∀ n, route.allows n = true ↔ n = m := fun n => by
    simp [Route.allows, hmethod, eq_comm]
  constructor
  · intro h
    rw [Route.dispatch_eq_found_iff] at h
    obtain ⟨d, hd, hanswer⟩ := List.exists_of_findSome?_eq_some h
    have hd' : d ∈ Route.api ++ Route.pages := by
      unfold routes at hd
      split at hd
      · exact hd
      · exact List.mem_append_left _ (by simpa using hd)
    unfold Route.answer? at hanswer
    split at hanswer
    · rename_i hallowed
      obtain ⟨k, hmatch, hpair⟩ := Option.map_eq_some_iff.1 hanswer
      rw [Prod.mk.injEq] at hpair
      obtain rfl := hendpoint d hd' hpair.1
      exact ⟨(hallows method).1 hallowed, hpair.2 ▸ hmatch⟩
    · exact absurd hanswer (by simp)
  · rintro ⟨rfl, hmatch⟩
    have hanswer : route.answer? method path = some (route.endpoint, key) := by
      simp [Route.answer?, (hallows method).2 rfl, hmatch]
    refine dispatch_of_api server ?_
    cases hfind : Route.api.findSome? fun d => d.answer? method path with
    | none => exact absurd (List.findSome?_eq_none_iff.1 hfind route hroute) (by simp [hanswer])
    | some found =>
      obtain ⟨d, hd, hfound⟩ := List.exists_of_findSome?_eq_some hfind
      have hallowed : d.allows method = true := by
        unfold Route.answer? at hfound
        split at hfound
        · assumption
        · exact absurd hfound (by simp)
      obtain rfl := hsole d hd hallowed
      rw [← hfound, hanswer]

theorem dispatch_toggle_iff (server : Server) {method path key : String} :
    Route.dispatch server.routes method path = .found .bookmarkToggle key ↔
      method = "POST" ∧ (Pattern.between "/api/bookmarks/" "").match? path = some key :=
  dispatch_sole_iff server ⟨some "POST", .between "/api/bookmarks/" "", .bookmarkToggle⟩
    rfl (by decide) (by decide) (by decide)

theorem dispatch_clear_iff (server : Server) {method path key : String} :
    Route.dispatch server.routes method path = .found .bookmarkClear key ↔
      method = "DELETE" ∧ (Pattern.exactly "/api/bookmarks").match? path = some key :=
  dispatch_sole_iff server ⟨some "DELETE", .exactly "/api/bookmarks", .bookmarkClear⟩
    rfl (by decide) (by decide) (by decide)

theorem dispatch_update_iff (server : Server) {method path key : String} :
    Route.dispatch server.routes method path = .found .settingsUpdate key ↔
      method = "PATCH" ∧ (Pattern.exactly "/api/settings").match? path = some key :=
  dispatch_sole_iff server ⟨some "PATCH", .exactly "/api/settings", .settingsUpdate⟩
    rfl (by decide) (by decide) (by decide)

/-! ## The settings -/

theorem respond_settings (server : Server) {r : Request} (hmethod : r.method = "GET")
    (hpath : r.path = "/api/settings") (s : Session) : server.respond r s = Api.settings s := by
  have hdispatch : Route.dispatch server.routes r.method r.path = .found .settings "" :=
    dispatch_of_api server (by rw [hmethod, hpath]; decide)
  simp only [respond, hdispatch, answer]

theorem respond_settingsUpdate (server : Server) {r : Request} (hmethod : r.method = "PATCH")
    (hpath : r.path = "/api/settings") (s : Session) :
    server.respond r s = Api.settingsUpdate r s := by
  have hdispatch : Route.dispatch server.routes r.method r.path = .found .settingsUpdate "" :=
    dispatch_of_api server (by rw [hmethod, hpath]; decide)
  simp only [respond, hdispatch, answer]

end Compendium.Server
