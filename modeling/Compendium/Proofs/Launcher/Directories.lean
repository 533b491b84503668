import Compendium.Launcher.Launch
import Compendium.Proofs.Files.Resolving
import Compendium.Proofs.Server.Failures
import Compendium.Proofs.Session.Keeping

/-!
# The directories of a launch

A launch with demo data uses directories twice: it stores the demo data itself, and tells the server
which directories to use. It stores in the directories of the command line or the usual ones, and
the server has those of the environment before the usual ones. So both use the same unless a
directory that the command line leaves open is another in the environment. Main theorem
`same_directories_iff`.
-/

namespace Compendium

/-! ## Paths that lead to one place -/

namespace Tree

variable {t : Tree} {p : Path}

def SamePlace (t : Tree) (p q : Path) : Prop := ∃ place, t.locate p = .ok place ∧ t.locate q = .ok place

theorem samePlace_self (h : t.at? p = some .directory) : SamePlace t p p := by
  obtain ⟨place, hplace, -⟩ := at?_eq_some_iff.1 h
  exact ⟨place, hplace, hplace⟩

/-- A directory is where the text of its resolved path says. -/
theorem samePlace_resolved {given : String} (h : t.at? (.ofString given) = some .directory) :
    SamePlace t (.ofString given) (.ofString (Path.ofString given).resolved.text) := by
  obtain ⟨place, hplace, -⟩ := at?_eq_some_iff.1 h
  have hspelled := Path.spelled_ofString given
  refine ⟨place, hplace, ?_⟩
  rw [Path.ofString_text hspelled.resolved]
  exact locate_resolved hspelled hplace

end Tree

namespace Launcher

open Activity Session

variable {o : Options} {env : Environment} {s : Session}

/-! ## What the server is told -/

/-- The environment of a process: that of the launcher, with the directories it is told of. -/
def Command.environment (c : Command) (env : Environment) : Environment :=
  (c.data.map ("DATA_DIR", ·)).toList ++ (c.catalog.map ("CATALOG_DIR", ·)).toList ++ env

def Command.serverOptions (c : Command) (env : Environment) (pages : Option Path) : ServerOptions :=
  ⟨none, none, c.environment env, pages⟩

theorem lookup_environment_data (c : Command) (env : Environment) :
    (c.environment env).lookup "DATA_DIR" = c.data.or (env.lookup "DATA_DIR") := by
  cases hdata : c.data <;> cases hcatalog : c.catalog <;>
    simp [Command.environment, List.lookup_cons, hdata, hcatalog]

theorem lookup_environment_catalog (c : Command) (env : Environment) :
    (c.environment env).lookup "CATALOG_DIR" = c.catalog.or (env.lookup "CATALOG_DIR") := by
  cases hdata : c.data <;> cases hcatalog : c.catalog <;>
    simp [Command.environment, List.lookup_cons, hdata, hcatalog]

/-- What is told of a directory leaves nothing to the environment. -/
theorem told_or_lookup (given : Option String) (env : Environment) (name : String) :
    (told given env name).or (env.lookup name) = told given env name := by
  cases given with
  | some p => rfl
  | none => exact Option.or_self

/-- A directory that a launch uses is where the server is told, if it is given on the command line,
and otherwise if it is where the environment has it. -/
theorem samePlace_told_iff {t : Tree} {given : Option String} {usual name : String}
    (h : t.at? (.ofString (given.getD usual)) = some .directory) :
    t.SamePlace (.ofString (given.getD usual)) (.ofString ((told given env name).getD usual)) ↔
      given.isSome ∨ ∀ v, env.lookup name = some v → t.SamePlace (.ofString usual) (.ofString v) := by
  cases given with
  | some p => exact iff_of_true (Tree.samePlace_resolved h) (Or.inl rfl)
  | none =>
    cases hlookup : env.lookup name with
    | none => simpa [told, hlookup] using Tree.samePlace_self h
    | some v => simp [told, hlookup]

theorem samePlace_dataDirectory_iff {t : Tree} {c : Command}
    (hc : c.data = told o.data env "DATA_DIR") (pages : Option Path)
    (h : t.at? (seedDirectory o) = some .directory) :
    t.SamePlace (seedDirectory o) (c.serverOptions env pages).dataDirectory ↔
      o.data.isSome ∨ ∀ v, env.lookup "DATA_DIR" = some v →
        t.SamePlace (.ofString "data") (.ofString v) := by
  have hdirectory : (c.serverOptions env pages).dataDirectory =
      .ofString ((told o.data env "DATA_DIR").getD "data") := by
    simp only [Command.serverOptions, ServerOptions.dataDirectory, Option.getD_none,
      lookup_environment_data, hc, told_or_lookup]
  rw [hdirectory]
  exact samePlace_told_iff h

theorem samePlace_catalog_iff {t : Tree} {c : Command}
    (hc : c.catalog = told o.catalog env "CATALOG_DIR") (pages : Option Path)
    (h : t.at? (seedCatalog o) = some .directory) :
    t.SamePlace (seedCatalog o) (c.serverOptions env pages).catalogSource.place ↔
      o.catalog.isSome ∨ ∀ v, env.lookup "CATALOG_DIR" = some v →
        t.SamePlace (.ofString "presets/catalog") (.ofString v) := by
  have hplace : (c.serverOptions env pages).catalogSource.place =
      .ofString ((told o.catalog env "CATALOG_DIR").getD "presets/catalog") := by
    simp only [Command.serverOptions, ServerOptions.catalogSource, Option.getD_none,
      lookup_environment_catalog, hc, told_or_lookup]
    cases told o.catalog env "CATALOG_DIR" <;> rfl
  rw [hplace]
  exact samePlace_told_iff h

/-! ## Launching with demo data -/

/-- What a launch with demo data leaves in use: the data directory of the command line, and the
catalog that was read from the catalog directory of the command line. Both directories are there. -/
structure Seeded (o : Options) (before after : Session) : Prop where
  storage_eq : after.storage = some (seedDirectory o)
  catalog_read : ∃ collections,
    Catalog.readCollections (before.tree.makeDirectories (seedDirectory o)).1 (seedCatalog o) =
        .ok collections ∧
      after.catalog = some (Catalog.ofCollections collections)
  storage_made : after.tree.at? (seedDirectory o) = some .directory
  catalog_there : after.tree.at? (seedCatalog o) = some .directory

theorem at?_of_readCollection {t : Tree} {directory : Path} {k : Kind} {records : List Json}
    (h : Catalog.readCollection t directory k = .ok records) : t.at? directory = some .directory := by
  cases hat : t.at? (directory.child (Catalog.fileName k)) with
  | none =>
    simp only [Catalog.readCollection, Tree.octets?, hat] at h
    exact absurd h (by simp)
  | some node =>
    obtain ⟨place, hplace, -⟩ := Tree.at?_eq_some_iff.1 hat
    exact Tree.at?_of_locate_child hplace

/-- A directory that a catalog can be read from is there. -/
theorem at?_of_readCollections {t : Tree} {directory : Path} {collections : Collections}
    (h : Catalog.readCollections t directory = .ok collections) :
    t.at? directory = some .directory := by
  cases hcreatures : Catalog.readCollection t directory .creature with
  | error f =>
    rw [Catalog.readCollections, hcreatures] at h
    exact absurd h (by simp [Bind.bind, Except.bind])
  | ok records => exact at?_of_readCollection hcreatures

theorem of_useCatalog_ok {directory : Path} {catalog : Catalog}
    (h : (useCatalog (.directory directory) s).value = .ok catalog) :
    (useCatalog (.directory directory) s).session = { s with catalog := some catalog } ∧
      ∃ collections, Catalog.readCollections s.tree directory = .ok collections ∧
        catalog = Catalog.ofCollections collections := by
  rcases useCatalog_cases (.directory directory) s with ⟨_, -, huse⟩ | ⟨collections, hread, huse⟩
  · rw [huse] at h
    exact absurd h (by simp)
  · rw [huse] at h ⊢
    obtain rfl := Except.ok.inj h
    exact ⟨rfl, collections, hread, rfl⟩

theorem seeded_of_seed (h : (seed o s).value = .ok ()) : Seeded o s (seed o s).session := by
  obtain ⟨⟨⟩, hmade, hrest, hsession⟩ := of_bind_ok h
  obtain ⟨catalog, hread, -, hsession'⟩ := of_bind_ok hrest
  obtain ⟨huse, collections, hcollections, rfl⟩ := of_useCatalog_ok hread
  have hkeeps := keepsUse_seedDemo (useCatalog (.directory (seedCatalog o))
    (useStorage (seedDirectory o) s).session).session
  rw [seed, hsession, hsession']
  rw [huse] at hkeeps ⊢
  exact {
    storage_eq := hkeeps.storage_eq
    catalog_read := ⟨collections, hcollections, hkeeps.catalog_eq⟩
    storage_made := Tree.at?_directory_of_keeps hkeeps.directories (at?_useStorage hmade)
    catalog_there := Tree.at?_directory_of_keeps hkeeps.directories (at?_of_readCollections hcollections) }

theorem reads_startProcesses (o : Options) (env : Environment) (interrupted : Bool) :
    Reads (startProcesses o env interrupted) := reads_session.bind fun _ => reads_pure _

/-- The server is started first. -/
theorem head?_commands {interrupted : Bool} {l : Launch}
    (h : (startProcesses o env interrupted s).value = .ok l) :
    ∃ calls, l.commands.head? = some { serverCommand o env with calls := calls } := by
  rw [startProcesses, bind_eq_next (x := Activity.session) rfl] at h
  obtain rfl := Except.ok.inj h
  dsimp only
  split <;> exact ⟨_, rfl⟩

theorem seeded_of_start {interrupted : Bool} {l : Launch} (hdemo : o.demo = true)
    (h : (start o env interrupted s).value = .ok l) :
    Seeded o s (start o env interrupted s).session ∧
      ∃ calls, l.commands.head? = some { serverCommand o env with calls := calls } := by
  have hstart : start o env interrupted = seed o >>= fun _ => startProcesses o env interrupted := by
    rw [start, if_pos hdemo]
  rw [hstart] at h ⊢
  obtain ⟨⟨⟩, hseed, hprocesses, hsession⟩ := of_bind_ok h
  rw [hsession, reads_startProcesses]
  exact ⟨seeded_of_seed hseed, head?_commands hprocesses⟩

/-- Starting a server removes no directory. -/
theorem keepsDirectories_serverStart (options : ServerOptions) (s : Session) :
    s.tree.KeepsDirectories (Server.start options s).session.tree := by
  have hmade : s.tree.KeepsDirectories (useStorage options.dataDirectory s).session.tree :=
    Tree.keepsDirectories_makeDirectories s.tree options.dataDirectory
  rcases Server.start_cases options s with ⟨_, -, h⟩ | ⟨_, -, h⟩ | ⟨-, _, -, h, -⟩ <;> rw [h] <;>
    exact hmade

/-- **The server uses the directories of a launch with demo data** just when each of them is given on
the command line or is where the environment has it, if it has it. Where paths lead is asked of the
files as they are once the server has started. -/
theorem same_directories_iff {args : List String} {here : Path} {interrupted : Bool} {l : Launch}
    (hread : read args = .options o) (hdemo : o.demo = true)
    (hlaunch : (launchFrom here args env interrupted s).value = .ok l) (pages : Option Path) :
    let seen := o.seenFrom here
    let launched := (launchFrom here args env interrupted s).session
    ∃ c, l.commands.head? = some c ∧ c.directory = ⟨[]⟩ ∧
      let options := c.serverOptions env pages
      let served := (Server.start options ⟨launched.tree, none, none⟩).session
      Seeded seen s launched ∧
      served.storage = some options.dataDirectory ∧
      (served.tree.SamePlace (seedDirectory seen) options.dataDirectory ↔
        o.data.isSome ∨ ∀ v, env.lookup "DATA_DIR" = some v →
          served.tree.SamePlace (.ofString "data") (.ofString v)) ∧
      (served.tree.SamePlace (seedCatalog seen) options.catalogSource.place ↔
        o.catalog.isSome ∨ ∀ v, env.lookup "CATALOG_DIR" = some v →
          served.tree.SamePlace (.ofString "presets/catalog") (.ofString v)) := by
  intro seen launched
  have hstart : launchFrom here args env interrupted = start seen env interrupted := by
    rw [launchFrom, hread]
  rw [hstart] at hlaunch
  have hseen : seen.demo = true := hdemo
  obtain ⟨hseeded, calls, hfirst⟩ := seeded_of_start hseen hlaunch
  rw [← hstart] at hseeded
  refine ⟨_, hfirst, rfl, ?_⟩
  intro options served
  -- The launch leaves both directories, and the server may make some but removes none.
  have hkeeps : launched.tree.KeepsDirectories served.tree :=
    keepsDirectories_serverStart options ⟨launched.tree, none, none⟩
  have hmade := Tree.at?_directory_of_keeps hkeeps hseeded.storage_made
  have hthere := Tree.at?_directory_of_keeps hkeeps hseeded.catalog_there
  have hdata : o.data.isSome = seen.data.isSome := Option.isSome_map.symm
  have hcatalog : o.catalog.isSome = seen.catalog.isSome := Option.isSome_map.symm
  rw [hdata, hcatalog]
  exact ⟨hseeded, Server.storage_start options _, samePlace_dataDirectory_iff rfl pages hmade,
    samePlace_catalog_iff rfl pages hthere⟩

/-- Files with a catalog that has no entries, and a directory to launch from. -/
def stocked : Session :=
  let noRecords : Node := .file [91, 93]
  ⟨⟨[(["tools"], .directory), (["presets"], .directory), (["presets", "catalog"], .directory),
    (["presets", "catalog", "bestiary.json"], noRecords), (["presets", "catalog", "spells.json"], noRecords),
    (["presets", "catalog", "items.json"], noRecords)]⟩, none, none⟩

/-- The data directory is given as it is seen from where the launcher is started. -/
theorem same_directories_mine :
    let args := ["--demo", "--data-dir", "../mine"]
    let env : Environment := [("DATA_DIR", "other")]
    let seen : Options := ⟨some "tools/../mine", none, true⟩
    let out := launchFrom ⟨["tools"]⟩ args env false stocked
    ∃ l c, read args = .options ⟨some "../mine", none, true⟩ ∧ out.value = .ok l ∧
      l.commands.head? = some c ∧
      let options := c.serverOptions env none
      let served := (Server.start options ⟨out.session.tree, none, none⟩).session
      Seeded seen stocked out.session ∧
        served.tree.SamePlace (seedDirectory seen) options.dataDirectory ∧
        served.tree.SamePlace (seedCatalog seen) options.catalogSource.place := by
  intro args env seen out
  have hread : read args = .options ⟨some "../mine", none, true⟩ := rfl
  obtain ⟨l, hlaunch⟩ : ∃ l, out.value = .ok l := ⟨_, rfl⟩
  have hseen : (⟨some "../mine", none, true⟩ : Options).seenFrom ⟨["tools"]⟩ = seen := rfl
  obtain ⟨c, hfirst, -, hseeded, -, hdata, hcatalog⟩ := same_directories_iff hread rfl hlaunch none
  rw [hseen] at hseeded hdata hcatalog
  refine ⟨l, c, hread, hlaunch, hfirst, hseeded, hdata.2 (Or.inl rfl), hcatalog.2 (Or.inr ?_)⟩
  intro v hv
  exact absurd hv (by simp [env])

/-- A launch with demo data stores them in the usual directory and tells the server of another, if
that is in the environment. -/
theorem demo_stored_elsewhere :
    let env : Environment := [("DATA_DIR", "mine")]
    let out := launch ["--demo"] env false stocked
    ∃ l c, out.value = .ok l ∧ l.commands.head? = some c ∧
      let served := (Server.start (c.serverOptions env none) ⟨out.session.tree, none, none⟩).session
      out.session.storage = some ⟨["data"]⟩ ∧ served.storage = some ⟨["mine"]⟩ ∧
        ¬ served.tree.SamePlace ⟨["data"]⟩ ⟨["mine"]⟩ := by
  intro env out
  have hserver := Server.storage_start
    (({ serverCommand ⟨none, none, true⟩ env with calls := [.wait] } : Command).serverOptions env none)
    ⟨out.session.tree, none, none⟩
  refine ⟨_, { serverCommand ⟨none, none, true⟩ env with calls := [.wait] }, rfl, rfl, rfl, ?_, ?_⟩
  · rw [hserver]
    decide
  rintro ⟨place, hdata, hmine⟩
  have hplace : place = ["data"] := (Except.ok.inj hdata).symm
  have hplace' : place = ["mine"] := (Except.ok.inj hmine).symm
  simp [hplace] at hplace'

end Launcher

end Compendium
