import Compendium.Text.Utf8

/-!
# Routes

A route is a method, a pattern for paths, and what answers there. Of the routes whose pattern a
path matches, the first with the method of the request answers; if no method fits, that is told; if
only the path with a slash more or less at its end matches one, the request is sent there. Main
statement: the answer is the first route that fits (`dispatch_eq_found_iff`).
-/

namespace Compendium

/-- What answers a request. -/
inductive Endpoint where
  | health
  | settings
  | settingsUpdate
  | entries
  | counts
  | query
  | entryText
  | entry
  | bookmarks
  | bookmarkToggle
  | bookmarkClear
  | asset
  | page
deriving DecidableEq, Repr

/-- A fixed path, or the paths with any text between two fixed ones. -/
inductive Pattern where
  | exactly (path : String)
  | between (before after : String)
deriving DecidableEq, Repr

/-- A pattern, the method that goes with it, if not all do, and what answers. -/
structure Route where
  method : Option String
  pattern : Pattern
  endpoint : Endpoint
deriving DecidableEq, Repr

namespace Pattern

/-- What follows a text at the front of another. -/
def after? : List Char → List Char → Option (List Char)
  | [], cs => some cs
  | a :: as, c :: cs => if a = c then after? as cs else none
  | _ :: _, [] => none

/-- What stands before a text at the end of another. -/
def before? (ending cs : List Char) : Option (List Char) :=
  (after? ending.reverse cs.reverse).map List.reverse

/-- The text between, in a path that ends where the pattern does. It has no line feed. -/
def inside? (pattern : Pattern) (path : List Char) : Option (List Char) :=
  match pattern with
  | .exactly p => if path = p.toList then some [] else none
  | .between a b =>
    match (after? a.toList path).bind (before? b.toList) with
    | some key => if '\n' ∈ key then none else some key
    | none => none

/-- The text between the fixed ones of a path that matches. One line feed may end the path. -/
def match? (pattern : Pattern) (path : String) : Option String :=
  let cs := path.toList
  ((pattern.inside? cs).or
    (if cs.getLast? = some '\n' then pattern.inside? cs.dropLast else none)).map String.ofList

end Pattern

/-- Where a request goes. -/
inductive Dispatch where
  | found (endpoint : Endpoint) (key : String)
  | methodNotAllowed
  | redirect (path : String)
  | notFound
deriving DecidableEq, Repr

namespace Route

/-- The routes of the interface, in the order in which they are tried. -/
def api : List Route :=
  [⟨some "GET", .exactly "/api/health", .health⟩,
   ⟨some "GET", .exactly "/api/settings", .settings⟩,
   ⟨some "PATCH", .exactly "/api/settings", .settingsUpdate⟩,
   ⟨some "GET", .exactly "/api/entries", .entries⟩,
   ⟨some "GET", .exactly "/api/counts", .counts⟩,
   ⟨some "GET", .exactly "/api/query", .query⟩,
   ⟨some "GET", .between "/api/entries/" "/text", .entryText⟩,
   ⟨some "GET", .between "/api/entries/" "", .entry⟩,
   ⟨some "GET", .exactly "/api/bookmarks", .bookmarks⟩,
   ⟨some "POST", .between "/api/bookmarks/" "", .bookmarkToggle⟩,
   ⟨some "DELETE", .exactly "/api/bookmarks", .bookmarkClear⟩]

/-- The routes of the pages: files under one path, and one page at every other. -/
def pages : List Route :=
  [⟨none, .between "/assets/" "", .asset⟩, ⟨some "GET", .between "/" "", .page⟩]

def allows (r : Route) (method : String) : Bool := r.method.all (· = method)

/-- What answers at a path that the route matches with the method. -/
def answer? (r : Route) (method path : String) : Option (Endpoint × String) :=
  if r.allows method then (r.pattern.match? path).map (r.endpoint, ·) else none

def covers (r : Route) (path : String) : Bool := (r.pattern.match? path).isSome

/-- The path with the slashes at its end taken away, or with one added. -/
def otherEnding (path : String) : String :=
  let cs := path.toList
  if cs.getLast? = some '/' then String.ofList (cs.reverse.dropWhile (· = '/')).reverse
  else String.ofList (cs ++ ['/'])

def dispatch (routes : List Route) (method path : String) : Dispatch :=
  match routes.findSome? fun r => r.answer? method path with
  | some (endpoint, key) => .found endpoint key
  | none =>
    if routes.any fun r => r.covers path then .methodNotAllowed
    else if path ≠ "/" ∧ routes.any fun r => r.covers (otherEnding path) then
      .redirect (otherEnding path)
    else .notFound

theorem dispatch_eq_found_iff {routes : List Route} {method path : String} {endpoint : Endpoint}
    {key : String} :
    dispatch routes method path = .found endpoint key ↔
      routes.findSome? (fun r => r.answer? method path) = some (endpoint, key) := by
  unfold dispatch
  split
  · rename_i e k h
    simp [h]
  · rename_i h
    simp only [h]
    split
    · simp
    · split <;> simp

end Route

end Compendium
