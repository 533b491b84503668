import Compendium.Server.Api
import Compendium.Server.Route

/-!
# The server

A server answers requests in a session. It may serve pages beside the interface: files from a
directory, and one page for every path at which nothing else answers.
-/

namespace Compendium

/-- A server, and the directory that its pages are in, if it serves any. -/
structure Server where
  pages : Option Path
deriving DecidableEq, Repr

/-- What a server is started with; what is not given is taken from the environment, and then from
what is usual. -/
structure ServerOptions where
  data : Option Path
  catalog : Option CatalogSource
  environment : List (String × String)
  pages : Option Path

namespace ServerOptions

def dataDirectory (o : ServerOptions) : Path :=
  o.data.getD (.ofString ((o.environment.lookup "DATA_DIR").getD "data"))

def catalogSource (o : ServerOptions) : CatalogSource :=
  o.catalog.getD <|
    match o.environment.lookup "CATALOG_DIR" with
    | some p => .directory (.ofString p)
    | none => .bundled

/-- The pages are served by something else. -/
def pagesElsewhere (o : ServerOptions) : Bool :=
  (o.environment.lookup "VITE_DEV").any fun v => !v.isEmpty

end ServerOptions

namespace Server

/-- The directory of the files that pages refer to. -/
def assets (pages : Path) : Path := pages.child "assets"

/-- Takes the data directory and the catalog into use, and finds out whether there are pages. -/
def start (o : ServerOptions) : Activity Server := do
  Session.useStorage o.dataDirectory
  let _ ← Session.useCatalog o.catalogSource
  let tree := (← Activity.session).tree
  match o.pages with
  | none => return ⟨none⟩
  | some p =>
    if !tree.contains p || o.pagesElsewhere then return ⟨none⟩
    else if tree.isDirectory (assets p) then return ⟨some p⟩
    else Activity.fail (.noDirectory (assets p))

/-! ## Pages -/

/-- The steps of a path below a directory; none if it leads out of it. -/
def stepsInside? (path : String) : Option (List String) :=
  let steps := (Path.mk ((path.splitOn "/").filter fun s => s ≠ "" ∧ s ≠ ".")).resolved.steps
  if steps.head? = some ".." then none else some steps

/-- A file that pages refer to. -/
def asset (pages : Path) (method path : String) : Activity Reply := do
  if method ≠ "GET" ∧ method ≠ "HEAD" then Reply.methodNotAllowed
  else
    let tree := (← Activity.session).tree
    match (stepsInside? path).bind fun steps => tree.octets? ⟨(assets pages).steps ++ steps⟩ with
    | some octets => return if method = "HEAD" then Reply.ofFile [] else Reply.ofFile octets
    | none => Reply.notFound

/-- The page for every path at which nothing else answers. -/
def page (pages : Path) : Activity Reply := do
  let file := pages.child "index.html"
  let tree := (← Activity.session).tree
  match tree.locate file with
  | .error .notFound => Activity.fail (.noPage file)
  | .error cause => Activity.fail (.file ⟨cause, file⟩)
  | .ok place =>
    match tree.node? place with
    | some (.file octets) => return Reply.ofFile octets
    | some .directory => Activity.fail (.pageNotFile file)
    | none => Activity.fail (.noPage file)

/-! ## Requests -/

def routes (s : Server) : List Route := Route.api ++ if s.pages.isSome then Route.pages else []

/-- What an endpoint answers; `key` is the text between the fixed ones of its path. -/
def answer (s : Server) (r : Request) (key : String) : Endpoint → Activity Reply
  | .health => Api.health
  | .settings => Api.settings
  | .settingsUpdate => Api.settingsUpdate r
  | .entries => Api.entries r
  | .counts => Api.counts
  | .query => Api.query r
  | .entryText => Api.entryText key
  | .entry => Api.entry key
  | .bookmarks => Api.bookmarks
  | .bookmarkToggle => Api.toggle key
  | .bookmarkClear => Api.clear
  | .asset => asset (s.pages.getD ⟨[]⟩) r.method key
  | .page => page (s.pages.getD ⟨[]⟩)

def respond (s : Server) (r : Request) : Activity Reply :=
  match Route.dispatch s.routes r.method r.path with
  | .found endpoint key => s.answer r key endpoint
  | .methodNotAllowed => Reply.methodNotAllowed
  | .redirect path => return Reply.redirect path r.query
  | .notFound => Reply.notFound

end Server

end Compendium
