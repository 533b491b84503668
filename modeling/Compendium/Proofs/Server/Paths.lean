import Compendium.Proofs.Server.Dispatch

/-!
# Paths with a key

The text that a path holds between the two fixed ones of a pattern, and where a request for one
entry goes. The route for statblocks is tried before the one for entries, and a key without a line
feed may end as the paths of statblocks do. Main theorem `dispatch_entry_iff`: the request for an
entry goes where entries are answered just when the key has no line feed and no such end.
-/

namespace Compendium

namespace Pattern

/-! ## Matching -/

theorem after?_eq_some_iff {front cs rest : List Char} :
    after? front cs = some rest ↔ cs = front ++ rest := by
  fun_induction after? front cs with
  | case1 cs => simp [eq_comm]
  | case2 as c cs ih => simpa using ih
  | case3 a as c cs hne => simp [Ne.symm hne]
  | case4 a as => simp

theorem before?_eq_some_iff {ending cs rest : List Char} :
    before? ending cs = some rest ↔ cs = rest ++ ending := by
  rw [before?, Option.map_eq_some_iff]
  constructor
  · rintro ⟨reversed, hafter, rfl⟩
    rw [← List.reverse_inj, after?_eq_some_iff.1 hafter, List.reverse_append, List.reverse_reverse]
  · rintro rfl
    exact ⟨rest.reverse, after?_eq_some_iff.2 (List.reverse_append ..), List.reverse_reverse _⟩

theorem inside?_between_iff {a b : String} {cs key : List Char} :
    (between a b).inside? cs = some key ↔ cs = a.toList ++ key ++ b.toList ∧ '\n' ∉ key := by
  have hsplit : (after? a.toList cs).bind (before? b.toList) = some key ↔
      cs = a.toList ++ key ++ b.toList := by
    rw [Option.bind_eq_some_iff, List.append_assoc]
    constructor
    · rintro ⟨rest, hafter, hbefore⟩
      rw [after?_eq_some_iff.1 hafter, before?_eq_some_iff.1 hbefore]
    · intro h
      exact ⟨_, after?_eq_some_iff.2 h, before?_eq_some_iff.2 rfl⟩
  rw [← hsplit, inside?]
  cases (after? a.toList cs).bind (before? b.toList) with
  | none => simp
  | some found =>
    dsimp only
    split
    · rename_i hfeed
      simp only [reduceCtorEq, Option.some.injEq, false_iff, not_and]
      rintro rfl hnone
      exact hnone hfeed
    · rename_i hfeed
      simp only [Option.some.injEq, iff_self_and]
      rintro rfl
      exact hfeed

theorem inside?_exactly_iff {p : String} {cs key : List Char} :
    (exactly p).inside? cs = some key ↔ cs = p.toList ∧ key = [] := by
  rw [inside?]
  split
  · rename_i h
    simp [h, eq_comm]
  · rename_i h
    simp [h]

theorem match?_of_inside? {p : Pattern} {path key : String}
    (h : p.inside? path.toList = some key.toList) : p.match? path = some key := by
  simp only [match?, h, Option.some_or, Option.map_some, String.ofList_toList]

/-- A path matches as it is, or without the line feed that ends it. -/
theorem inside?_of_match? {p : Pattern} {path key : String} (h : p.match? path = some key) :
    p.inside? path.toList = some key.toList ∨
      ∃ cs, path.toList = cs ++ ['\n'] ∧ p.inside? cs = some key.toList := by
  rw [match?, Option.map_eq_some_iff] at h
  obtain ⟨found, hfound, rfl⟩ := h
  rw [String.toList_ofList]
  rcases Option.or_eq_some_iff.1 hfound with hfound | ⟨-, hfound⟩
  · exact Or.inl hfound
  · split at hfound
    · rename_i hlast
      obtain ⟨cs, hcs⟩ := List.getLast?_eq_some_iff.1 hlast
      rw [hcs, List.dropLast_concat] at hfound
      exact Or.inr ⟨cs, hcs, hfound⟩
    · simp at hfound

theorem inside?_of_match?_eq_none {p : Pattern} {path : String} (h : p.match? path = none) :
    p.inside? path.toList = none ∧ ∀ cs, path.toList = cs ++ ['\n'] → p.inside? cs = none := by
  rw [match?, Option.map_eq_none_iff, Option.or_eq_none_iff] at h
  refine ⟨h.1, ?_⟩
  intro cs hcs
  have hended := h.2
  rw [hcs, List.getLast?_concat, if_pos rfl, List.dropLast_concat] at hended
  exact hended

/-! ## Patterns with a key -/

section
variable {a b path key : String}

theorem match?_between (h : '\n' ∉ key.toList) : (between a b).match? (a ++ key ++ b) = some key := by
  apply match?_of_inside?
  rw [inside?_between_iff, String.toList_append, String.toList_append]
  exact ⟨rfl, h⟩

theorem of_match?_between (h : (between a b).match? path = some key) :
    '\n' ∉ key.toList ∧ (path = a ++ key ++ b ∨ path = a ++ key ++ b ++ "\n") := by
  simp only [← String.toList_inj, String.toList_append]
  rcases inside?_of_match? h with hinside | ⟨cs, hcs, hinside⟩
  · obtain ⟨hpath, hfeed⟩ := inside?_between_iff.1 hinside
    exact ⟨hfeed, Or.inl hpath⟩
  · obtain ⟨rfl, hfeed⟩ := inside?_between_iff.1 hinside
    exact ⟨hfeed, Or.inr hcs⟩

theorem of_match?_front (h : (between a b).match? (a ++ path) = some key) :
    '\n' ∉ key.toList ∧ (path = key ++ b ∨ path = key ++ b ++ "\n") := by
  simpa only [← String.toList_inj, String.toList_append, List.append_assoc,
    List.append_cancel_left_eq] using of_match?_between h

/-- A line feed hinders a match unless it ends the path. -/
theorem match?_front_eq_none_iff :
    (between a "").match? (a ++ key) = none ↔ '\n' ∈ key.toList.dropLast := by
  constructor
  · intro h
    obtain ⟨hself, hended⟩ := inside?_of_match?_eq_none h
    have hinside : ∀ found, '\n' ∉ found → (between a "").inside? (a.toList ++ found) = some found := by
      intro found hfound
      rw [inside?_between_iff]
      exact ⟨by simp, hfound⟩
    rw [String.toList_append] at hself hended
    by_cases hfeed : '\n' ∈ key.toList.dropLast
    · exact hfeed
    · rcases List.eq_nil_or_concat key.toList with hkey | ⟨front, c, hkey⟩
      · rw [hkey, hinside [] (by simp)] at hself
        exact absurd hself (by simp)
      · rw [List.concat_eq_append] at hkey
        rw [hkey, List.dropLast_concat] at hfeed
        by_cases hc : c = '\n'
        · have hnone := hended (a.toList ++ front) (by rw [hkey, hc, List.append_assoc])
          rw [hinside front hfeed] at hnone
          exact absurd hnone (by simp)
        · rw [hkey, hinside _ (by simp [hfeed, Ne.symm hc])] at hself
          exact absurd hself (by simp)
  · intro hfeed
    rw [Option.eq_none_iff_forall_ne_some]
    intro found hfound
    obtain ⟨hno, rfl | rfl⟩ := of_match?_front hfound
    · rw [String.append_empty] at hfeed
      exact hno (List.dropLast_subset _ hfeed)
    · rw [String.append_empty, String.toList_append] at hfeed
      exact hno (by simpa using hfeed)

end

/-- A fixed path matches none that goes on behind a text which it does not begin with. -/
theorem match?_exactly_eq_none {a p : String} (h : ¬ a.toList <+: p.toList ++ ['\n']) (key : String) :
    (exactly p).match? (a ++ key) = none := by
  have hpath : (a ++ key).toList = a.toList ++ key.toList := String.toList_append
  rw [Option.eq_none_iff_forall_ne_some]
  intro found hfound
  apply h
  rcases inside?_of_match? hfound with hinside | ⟨cs, hcs, hinside⟩
  · rw [← (inside?_exactly_iff.1 hinside).1, hpath, List.append_assoc]
    exact List.prefix_append _ _
  · rw [← (inside?_exactly_iff.1 hinside).1, ← hcs, hpath]
    exact List.prefix_append _ _

end Pattern

namespace Route

/-! ## The routes of the pages -/

section
variable {path method : String}

theorem asset_misses (h : "/api".toList <+: path.toList) :
    (Pattern.between "/assets/" "").match? path = none := by
  rw [Option.eq_none_iff_forall_ne_some]
  intro file hfile
  obtain ⟨rest, hrest⟩ := h
  rcases (Pattern.of_match?_between hfile).2 with rfl | rfl
  · simp [String.toList_append] at hrest
  · simp [String.toList_append] at hrest

theorem page_misses_iff (h : "/api".toList <+: path.toList) :
    (Pattern.between "/" "").match? path = none ↔ '\n' ∈ path.toList.dropLast := by
  obtain ⟨rest, hrest⟩ := h
  obtain rfl : "/" ++ ("api" ++ String.ofList rest) = path := by
    rw [← String.toList_inj, ← hrest]
    simp [String.toList_append]
  rw [Pattern.match?_front_eq_none_iff, String.toList_append]
  simp

theorem findSome?_pages_eq_none (h : "/api".toList <+: path.toList)
    (hnone : method ≠ "GET" ∨ '\n' ∈ path.toList.dropLast) :
    pages.findSome? (fun d => d.answer? method path) = none := by
  rw [← page_misses_iff h] at hnone
  rcases hnone with hmethod | hmiss
  · simp [pages, answer?, allows, asset_misses h, Ne.symm hmethod]
  · simp [pages, answer?, asset_misses h, hmiss]

end

end Route

namespace Server

/-! ## Requests for one entry -/

/-- Of the routes of the interface only two answer below the path of all entries. -/
theorem findSome?_api_entries (key : String) :
    Route.api.findSome? (fun r => r.answer? "GET" ("/api/entries/" ++ key)) =
      (((Pattern.between "/api/entries/" "/text").match? ("/api/entries/" ++ key)).map
        (Endpoint.entryText, ·)).or
      (((Pattern.between "/api/entries/" "").match? ("/api/entries/" ++ key)).map
        (Endpoint.entry, ·)) := by
  have hshort : ∀ p ∈ ["/api/health", "/api/settings", "/api/entries", "/api/counts", "/api/query",
      "/api/bookmarks"], ¬ "/api/entries/".toList <+: p.toList ++ ['\n'] := by decide
  have hfixed := fun p hp => Pattern.match?_exactly_eq_none (hshort p hp) key
  simp only [List.mem_cons, List.not_mem_nil, or_false, forall_eq_or_imp, forall_eq] at hfixed
  obtain ⟨h1, h2, h3, h4, h5, h6⟩ := hfixed
  simp only [Route.api, Route.answer?, Route.allows, List.findSome?_cons, List.findSome?_nil,
    Option.all_some, decide_eq_true_eq, String.reduceEq, if_true, if_false, h1, h2, h3, h4, h5, h6,
    Option.map_none]
  cases (Pattern.between "/api/entries/" "/text").match? ("/api/entries/" ++ key) with
  | some k => rfl
  | none => cases (Pattern.between "/api/entries/" "").match? ("/api/entries/" ++ key) <;> rfl

variable (server : Server) {key k : String} {endpoint : Endpoint}

theorem dispatch_entryText
    (h : (Pattern.between "/api/entries/" "/text").match? ("/api/entries/" ++ key) = some k) :
    Route.dispatch server.routes "GET" ("/api/entries/" ++ key) = .found .entryText k := by
  apply dispatch_of_api
  rw [findSome?_api_entries, h]
  rfl

theorem dispatch_entry
    (htext : (Pattern.between "/api/entries/" "/text").match? ("/api/entries/" ++ key) = none)
    (h : (Pattern.between "/api/entries/" "").match? ("/api/entries/" ++ key) = some k) :
    Route.dispatch server.routes "GET" ("/api/entries/" ++ key) = .found .entry k := by
  apply dispatch_of_api
  rw [findSome?_api_entries, htext, h]
  rfl

theorem dispatch_ne_found
    (htext : (Pattern.between "/api/entries/" "/text").match? ("/api/entries/" ++ key) = none)
    (h : (Pattern.between "/api/entries/" "").match? ("/api/entries/" ++ key) = none) :
    Route.dispatch server.routes "GET" ("/api/entries/" ++ key) ≠ .found endpoint k := by
  intro hfound
  rw [Route.dispatch_eq_found_iff, routes, List.findSome?_append, findSome?_api_entries, htext, h] at hfound
  -- where no entry is answered no page is either
  have hfeed : '\n' ∈ ("/api/entries/" ++ key).toList.dropLast := by
    rw [Pattern.match?_front_eq_none_iff] at h
    rw [String.toList_append, List.dropLast_append_of_ne_nil (fun hnil => by simp [hnil] at h)]
    exact List.mem_append_right _ h
  have hfront : "/api".toList <+: ("/api/entries/" ++ key).toList := by
    rw [String.toList_append]
    exact List.IsPrefix.trans (by decide) (List.prefix_append _ _)
  have hpages : Route.pages.findSome? (fun d => d.answer? "GET" ("/api/entries/" ++ key)) = none :=
    Route.findSome?_pages_eq_none hfront (Or.inr hfeed)
  split at hfound
  · rw [hpages] at hfound
    exact absurd hfound (by simp)
  · exact absurd hfound (by simp)

/-- What answers a request below the path of all entries. -/
theorem of_dispatch_entries
    (h : Route.dispatch server.routes "GET" ("/api/entries/" ++ key) = .found endpoint k) :
    endpoint = .entryText ∧
        (Pattern.between "/api/entries/" "/text").match? ("/api/entries/" ++ key) = some k ∨
      endpoint = .entry ∧
        (Pattern.between "/api/entries/" "/text").match? ("/api/entries/" ++ key) = none ∧
        (Pattern.between "/api/entries/" "").match? ("/api/entries/" ++ key) = some k := by
  cases htext : (Pattern.between "/api/entries/" "/text").match? ("/api/entries/" ++ key) with
  | some found =>
    rw [dispatch_entryText server htext] at h
    obtain ⟨rfl, rfl⟩ := Dispatch.found.inj h
    exact Or.inl ⟨rfl, rfl⟩
  | none =>
    cases hentry : (Pattern.between "/api/entries/" "").match? ("/api/entries/" ++ key) with
    | none => exact absurd h (dispatch_ne_found server htext hentry)
    | some found =>
      rw [dispatch_entry server htext hentry] at h
      obtain ⟨rfl, rfl⟩ := Dispatch.found.inj h
      exact Or.inr ⟨rfl, rfl, rfl⟩

/-- **A request for an entry goes where entries are answered** just when the key has no line feed
and does not end as the paths of statblocks do. -/
theorem dispatch_entry_iff :
    Route.dispatch server.routes "GET" ("/api/entries/" ++ key) = .found .entry key ↔
      '\n' ∉ key.toList ∧ ¬ "/text".toList <:+ key.toList := by
  constructor
  · intro h
    rcases of_dispatch_entries server h with ⟨hne, -⟩ | ⟨-, htext, hentry⟩
    · simp at hne
    · have hfeed := (Pattern.of_match?_between hentry).1
      refine ⟨hfeed, ?_⟩
      rintro ⟨front, hfront⟩
      have hkey : key = String.ofList front ++ "/text" := by
        rw [← String.toList_inj, String.toList_append, String.toList_ofList, hfront]
      have hno : '\n' ∉ (String.ofList front).toList := by
        rw [String.toList_ofList]
        exact fun hmem => hfeed (hfront ▸ List.mem_append_left _ hmem)
      have hmatch := @Pattern.match?_between "/api/entries/" "/text" _ hno
      rw [String.append_assoc, ← hkey, htext] at hmatch
      simp at hmatch
  · rintro ⟨hfeed, hend⟩
    have hentry := @Pattern.match?_between "/api/entries/" "" _ hfeed
    rw [String.append_empty] at hentry
    refine dispatch_entry server ?_ hentry
    rw [Option.eq_none_iff_forall_ne_some]
    intro found hfound
    obtain ⟨-, rfl | rfl⟩ := Pattern.of_match?_front hfound
    · exact hend ⟨found.toList, String.toList_append.symm⟩
    · exact hfeed (by simp [String.toList_append])

end Server

end Compendium
