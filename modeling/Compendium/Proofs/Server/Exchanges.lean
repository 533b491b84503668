import Compendium.Proofs.Files.Writing
import Compendium.Proofs.Server.Frames
import Mathlib

/-!
# Servers that answer one request after another

A server that was started uses the data directory and a catalog, and the directory exists
(`opened_of_start`). What it answers is a list of exchanges, each from the session that the one
before it left. Main theorem `exchanges_invariant`: what one exchange keeps, every exchange finds.
-/

namespace Compendium

open Activity

/-- A request, what it came to, and the session it left. -/
structure Exchange where
  request : Request
  value : Except Failure Reply
  after : Session

/-- The session uses a data directory that exists, and a catalog. -/
structure Session.Opened (directory : Path) (catalog : Catalog) (s : Session) : Prop where
  storage_eq : s.storage = some directory
  catalog_eq : s.catalog = some catalog
  made : s.tree.at? directory = some .directory

namespace Session

/-- In an opened session, what writes one file leaves the session as it is, or writes that file of the
directory, which stays there. -/
theorem Opened.of_writes {directory : Path} {catalog : Catalog} {s : Session} {file : Path → Path}
    {α : Type} {x : Activity α} (h : Opened directory catalog s) (hx : Writes file x) :
    (x s).session = s ∨ ∃ octets tree, s.tree.write (file directory) octets = .ok tree ∧
      (x s).session = { s with tree := tree } ∧ tree.at? directory = some .directory := by
  rcases hx s with hsame | ⟨d, octets, tree, hstorage, hwrite, hsession⟩
  · exact Or.inl hsame
  · obtain rfl : d = directory := Option.some.inj (hstorage.symm.trans h.storage_eq)
    exact Or.inr ⟨octets, tree, hwrite, hsession,
      Tree.at?_directory_of_keeps (Tree.keepsDirectories_write hwrite) h.made⟩

theorem at?_useStorage {directory : Path} {s : Session}
    (h : (useStorage directory s).value = .ok ()) :
    (useStorage directory s).session.tree.at? directory = some .directory := by
  rcases hmake : s.tree.makeDirectories directory with ⟨tree, _ | fault⟩
  · simp only [useStorage, hmake]
    exact Tree.at?_makeDirectories hmake
  · simp only [useStorage, hmake] at h
    exact absurd h (by simp)

/-- A catalog is taken into use once its collections are read, and otherwise nothing changes. -/
theorem useCatalog_cases (source : CatalogSource) (s : Session) :
    (∃ fault, Catalog.readCollections s.tree source.place = .error fault ∧
        useCatalog source s = ⟨.error (.catalog fault), s, []⟩) ∨
      ∃ c, Catalog.readCollections s.tree source.place = .ok c ∧
        useCatalog source s = ⟨.ok (.ofCollections c), { s with catalog := some (.ofCollections c) },
          (Catalog.skipped c).map .skipped⟩ := by
  have hread := readCatalog_eq source.place s
  cases hcollections : Catalog.readCollections s.tree source.place with
  | error fault =>
    rw [hcollections] at hread
    exact Or.inl ⟨fault, rfl, bind_eq_error hread⟩
  | ok c =>
    rw [hcollections] at hread
    exact Or.inr ⟨c, rfl, (bind_eq hread).trans (by simp)⟩

end Session

namespace Server

open Session

/-! ## Starting -/

/-- The last part of starting: finding out whether there are pages. -/
def findPages (o : ServerOptions) : Activity Server := do
  let tree := (← Activity.session).tree
  match o.pages with
  | none => return ⟨none⟩
  | some p =>
    if !tree.contains p || o.pagesElsewhere then return ⟨none⟩
    else if tree.isDirectory (assets p) then return ⟨some p⟩
    else Activity.fail (.noDirectory (assets p))

theorem start_eq (o : ServerOptions) :
    start o = useStorage o.dataDirectory >>= fun _ =>
      useCatalog o.catalogSource >>= fun _ => findPages o := rfl

theorem reads_findPages (o : ServerOptions) : Reads (findPages o) := by
  refine reads_session.bind fun s => ?_
  dsimp only
  split
  · exact reads_pure _
  · split
    · exact reads_pure _
    · split
      · exact reads_pure _
      · exact reads_fail _

theorem opened_of_start {o : ServerOptions} {s : Session} {server : Server}
    (h : (start o s).value = .ok server) :
    ∃ catalog, Opened o.dataDirectory catalog (start o s).session := by
  rw [start_eq] at h ⊢
  obtain ⟨⟨⟩, hmade, hrest, hsession⟩ := of_bind_ok h
  obtain ⟨catalog, hread, -, hsession'⟩ := of_bind_ok hrest
  rw [hsession, hsession', reads_findPages o]
  rcases useCatalog_cases o.catalogSource (useStorage o.dataDirectory s).session with
    ⟨fault, -, hfault⟩ | ⟨c, -, hcatalog⟩
  · rw [hfault] at hread
    exact absurd hread (by simp)
  · rw [hcatalog]
    exact ⟨_, rfl, rfl, at?_useStorage hmade⟩

/-- Files that hold a catalog of one creature. -/
def goblinTree : Tree where
  nodes := [(["cat"], .directory),
    (["cat", "bestiary.json"], .file (Text.Utf8.encode "[\x7b\"name\":\"Goblin\"\x7d]".toList)),
    (["cat", "spells.json"], .file (Text.Utf8.encode "[]".toList)),
    (["cat", "items.json"], .file (Text.Utf8.encode "[]".toList))]

/-- A server of the catalog without pages. -/
def goblinOptions : ServerOptions := ⟨some ⟨["data"]⟩, some (.directory ⟨["cat"]⟩), [], none⟩

/-- The session of the server once it is started. -/
def goblinSession : Session where
  tree := goblinTree.put ["data"] .directory
  storage := some ⟨["data"]⟩
  catalog := some (.ofCollections ⟨[.obj [("name", .str "Goblin")]], [], []⟩)

theorem start_goblin :
    start goblinOptions ⟨goblinTree, none, none⟩ = ⟨.ok ⟨none⟩, goblinSession, []⟩ := by
  cbv

/-! ## Running -/

def exchange (server : Server) (s : Session) (r : Request) : Exchange :=
  let out := server.respond r s
  ⟨r, out.value, out.session⟩

def exchanges (server : Server) : Session → List Request → List Exchange
  | _, [] => []
  | s, r :: rest =>
    let x := server.exchange s r
    x :: exchanges server x.after rest

/-- **What every exchange keeps holds before and after each one**; it may speak of the exchanges so
far. -/
theorem exchanges_invariant {server : Server} {Holds : List Exchange → Session → Prop}
    (hstep : ∀ history s r, Holds history s →
      Holds (history ++ [server.exchange s r]) (server.exchange s r).after)
    {requests : List Request} {s : Session} {history before later : List Exchange} {x : Exchange}
    (hs : Holds history s) (hx : server.exchanges s requests = before ++ x :: later) :
    ∃ s', Holds (history ++ before) s' ∧ x = server.exchange s' x.request := by
  induction requests generalizing s history before with
  | nil => simp [exchanges] at hx
  | cons r rest ih =>
    rw [exchanges] at hx
    cases before with
    | nil =>
      obtain ⟨rfl, -⟩ := List.cons.inj hx
      exact ⟨s, by simpa using hs, rfl⟩
    | cons y before =>
      obtain ⟨rfl, hrest⟩ := List.cons.inj hx
      obtain ⟨s', hs', hx'⟩ := ih (hstep history s r hs) hrest
      exact ⟨s', by simpa using hs', hx'⟩

end Server

end Compendium
