import Compendium.Proofs.Server.Exchanges

/-!
# What is in use after a failure

Three calls take something into use: a data directory, a catalog, or both with a server. Each takes
what it was given as soon as it has it, and what was taken stays in use when a later step fails. So
a catalog that cannot be read changes nothing, a data directory is in use even if it cannot be made,
and a server that cannot be started leaves its data directory in use, and its catalog too if its
pages are at fault. Main theorem `answers_after_failure`.
-/

namespace Compendium

open Activity

namespace Session

variable {s t : Session}

/-! ## What a session answers -/

/-- The sessions answer alike when asked for the data directory. -/
def SameStorage (s t : Session) : Prop := (dataDirectory t).value = (dataDirectory s).value

/-- The sessions answer alike when asked for the catalog. -/
def SameCatalog (s t : Session) : Prop := (currentCatalog t).value = (currentCatalog s).value

theorem currentCatalog_none (h : s.catalog = none) : currentCatalog s = ⟨.error .noCatalog, s, []⟩ := by
  unfold currentCatalog
  rw [bind_eq_next (x := Activity.session) rfl, h]
  rfl

theorem sameCatalog_of_eq (h : t.catalog = s.catalog) : SameCatalog s t := by
  cases hs : s.catalog with
  | some catalog => rw [SameCatalog, currentCatalog_eq hs, currentCatalog_eq (h.trans hs)]
  | none => rw [SameCatalog, currentCatalog_none hs, currentCatalog_none (h.trans hs)]

/-! ## Taking one thing into use -/

/-- The directory is in use from then on, whether it could be made or not. -/
theorem storage_useStorage (directory : Path) (s : Session) :
    (useStorage directory s).session.storage = some directory := rfl

theorem catalog_useStorage (directory : Path) (s : Session) :
    (useStorage directory s).session.catalog = s.catalog := rfl

/-- Making the directory succeeds, or fails for a fault of the files. -/
theorem useStorage_cases (directory : Path) (s : Session) :
    (∃ fault, useStorage directory s =
        ⟨.error (.file fault), (useStorage directory s).session, []⟩) ∨
      useStorage directory s = ⟨.ok (), (useStorage directory s).session, []⟩ := by
  rcases hmake : s.tree.makeDirectories directory with ⟨tree, _ | fault⟩
  · exact Or.inr (by simp only [useStorage, hmake])
  · exact Or.inl ⟨fault, by simp only [useStorage, hmake]⟩

/-- A catalog that cannot be read leaves the session as it is. -/
theorem session_useCatalog_of_error {source : CatalogSource} {f : Failure}
    (h : (useCatalog source s).value = .error f) : (useCatalog source s).session = s := by
  rcases useCatalog_cases source s with ⟨_, -, huse⟩ | ⟨_, -, huse⟩
  · rw [huse]
  · rw [huse] at h
    exact absurd h (by simp)

end Session

namespace Server

open Session

variable {o : ServerOptions} {s : Session}

/-! ## Starting -/

/-- Finding out whether there are pages fails only for want of the directory of their files. -/
theorem of_findPages_error {f : Failure} (h : (findPages o s).value = .error f) :
    ∃ p, o.pages = some p ∧ f = .noDirectory (assets p) := by
  unfold findPages at h
  rw [bind_eq_next (x := Activity.session) rfl] at h
  cases hpages : o.pages with
  | none =>
    simp only [hpages] at h
    exact absurd h (by simp [pure, give])
  | some p =>
    simp only [hpages] at h
    split at h
    · exact absurd h (by simp [pure, give])
    · split at h
      · exact absurd h (by simp [pure, give])
      · exact ⟨p, rfl, (Except.error.inj h).symm⟩

/-- How far starting comes, what is in use then, and why it comes no further. -/
theorem start_cases (o : ServerOptions) (s : Session) :
    let made := useStorage o.dataDirectory s
    let read := useCatalog o.catalogSource made.session
    (∃ fault, (start o s).value = .error (.file fault) ∧ (start o s).session = made.session) ∨
      (∃ fault, (start o s).value = .error (.catalog fault) ∧
        (start o s).session = made.session) ∨
      made.value = .ok () ∧ ∃ catalog, read.value = .ok catalog ∧
        (start o s).session = { made.session with catalog := some catalog } ∧
        (start o s).value = (findPages o { made.session with catalog := some catalog }).value := by
  intro made read
  rw [start_eq]
  rcases useStorage_cases o.dataDirectory s with ⟨fault, hmade⟩ | hmade
  · refine Or.inl ⟨fault, ?_⟩
    rw [bind_eq_error hmade]
    exact ⟨rfl, rfl⟩
  · rw [bind_eq_next hmade]
    refine Or.inr ?_
    rcases useCatalog_cases o.catalogSource made.session with
      ⟨fault, -, hread⟩ | ⟨c, -, hread⟩
    · refine Or.inl ⟨fault, ?_⟩
      rw [bind_eq_error hread]
      exact ⟨rfl, rfl⟩
    · refine Or.inr ⟨congrArg Outcome.value hmade, _, congrArg Outcome.value hread, ?_⟩
      rw [bind_eq hread]
      exact ⟨reads_findPages o _, rfl⟩

theorem storage_start (o : ServerOptions) (s : Session) :
    (start o s).session.storage = some o.dataDirectory := by
  rcases start_cases o s with ⟨_, -, h⟩ | ⟨_, -, h⟩ | ⟨-, _, -, h, -⟩
  · rw [h, storage_useStorage]
  · rw [h, storage_useStorage]
  · rw [h]
    exact storage_useStorage o.dataDirectory s

/-- If its pages are at fault, a server has come as far as its own catalog. -/
theorem currentCatalog_start_of_pages {p : Path}
    (hf : (start o s).value = .error (.noDirectory p)) :
    (∃ pages, o.pages = some pages ∧ p = assets pages) ∧
      (useStorage o.dataDirectory s).value = .ok () ∧
      ∃ catalog, (useCatalog o.catalogSource (useStorage o.dataDirectory s).session).value =
          .ok catalog ∧
        (currentCatalog (start o s).session).value = .ok catalog := by
  rcases start_cases o s with ⟨_, h, -⟩ | ⟨_, h, -⟩ | ⟨hmade, catalog, hread, h, hvalue⟩
  · exact absurd (hf.symm.trans h) (by simp)
  · exact absurd (hf.symm.trans h) (by simp)
  · obtain ⟨pages, hpages, hp⟩ := of_findPages_error (hvalue ▸ hf)
    exact ⟨⟨pages, hpages, Failure.noDirectory.inj hp⟩, hmade, catalog, hread,
      congrArg Outcome.value (currentCatalog_eq (by rw [h]))⟩

/-- If anything else is at fault, a server has not come so far. -/
theorem sameCatalog_start {f : Failure} (hf : (start o s).value = .error f)
    (hpages : ∀ p, f ≠ .noDirectory p) : SameCatalog s (start o s).session := by
  rcases start_cases o s with ⟨_, -, h⟩ | ⟨_, -, h⟩ | ⟨-, _, -, -, hvalue⟩
  · exact sameCatalog_of_eq (by rw [h, catalog_useStorage])
  · exact sameCatalog_of_eq (by rw [h, catalog_useStorage])
  · obtain ⟨p, -, hp⟩ := of_findPages_error (hvalue ▸ hf)
    exact absurd hp (hpages _)

/-- **What is in use after a failure.** A catalog that cannot be read leaves in use what was. A data
directory that cannot be made is in use all the same, and leaves the catalog in use. A server that
cannot be started has its data directory in use. If the files of its pages are missing, its catalog
was read and is in use as well; if anything else is at fault, the catalog is the one that was. -/
theorem answers_after_failure (s : Session) :
    (∀ source f, (useCatalog source s).value = .error f →
      SameStorage s (useCatalog source s).session ∧ SameCatalog s (useCatalog source s).session) ∧
    (∀ directory f, (useStorage directory s).value = .error f →
      (dataDirectory (useStorage directory s).session).value = .ok directory ∧
        SameCatalog s (useStorage directory s).session) ∧
    ∀ o f, (start o s).value = .error f →
      let made := useStorage o.dataDirectory s
      let read := useCatalog o.catalogSource made.session
      let after := (start o s).session
      (dataDirectory after).value = .ok o.dataDirectory ∧
        (∀ p, f = .noDirectory p →
          (∃ pages, o.pages = some pages ∧ p = assets pages) ∧ made.value = .ok () ∧
            ∃ catalog, read.value = .ok catalog ∧ (currentCatalog after).value = .ok catalog) ∧
        ((∀ p, f ≠ .noDirectory p) → SameCatalog s after) := by
  refine ⟨?_, ?_, ?_⟩
  · intro source f hf
    rw [session_useCatalog_of_error hf]
    exact ⟨rfl, rfl⟩
  · intro directory f _
    exact ⟨congrArg Outcome.value (dataDirectory_eq (storage_useStorage directory s)),
      sameCatalog_of_eq (catalog_useStorage directory s)⟩
  · intro o f hf made read after
    refine ⟨congrArg Outcome.value (dataDirectory_eq (storage_start o s)), ?_, sameCatalog_start hf⟩
    rintro p rfl
    exact currentCatalog_start_of_pages hf

/-- Files of a catalog with one that stands in the way of a directory, and with pages that lack
their files. -/
def cluttered : Tree :=
  ⟨goblinTree.nodes ++ [(["old"], .directory), (["blocked"], .file []), (["static"], .directory)]⟩

/-- A session in which a data directory is in use and no catalog. -/
def settled : Session := ⟨cluttered, some ⟨["old"]⟩, none⟩

/-- A server whose catalog is not there. -/
def lostOptions : ServerOptions := ⟨some ⟨["new"]⟩, some (.directory ⟨["lost"]⟩), [], none⟩

def bareOptions : ServerOptions :=
  ⟨some ⟨["old"]⟩, some (.directory ⟨["cat"]⟩), [], some ⟨["static"]⟩⟩

theorem start_lost :
    (start lostOptions settled).value = .error (.catalog (.missing ⟨["lost", "bestiary.json"]⟩)) := by
  cbv

theorem start_bare :
    (start bareOptions settled).value = .error (.noDirectory ⟨["static", "assets"]⟩) := by
  cbv

theorem useStorage_blocked :
    (useStorage ⟨["blocked", "data"]⟩ settled).value =
      .error (.file ⟨.notDirectory, ⟨["blocked", "data"]⟩⟩) := by
  cbv

theorem answers_after_failure_settled :
    (useCatalog (.directory ⟨["lost"]⟩) settled).value =
        .error (.catalog (.missing ⟨["lost", "bestiary.json"]⟩)) ∧
      SameStorage settled (useCatalog (.directory ⟨["lost"]⟩) settled).session ∧
      (useStorage ⟨["blocked", "data"]⟩ settled).value =
        .error (.file ⟨.notDirectory, ⟨["blocked", "data"]⟩⟩) ∧
      SameCatalog settled (useStorage ⟨["blocked", "data"]⟩ settled).session ∧
      (start lostOptions settled).value =
        .error (.catalog (.missing ⟨["lost", "bestiary.json"]⟩)) ∧
      SameCatalog settled (start lostOptions settled).session ∧
      (start bareOptions settled).value = .error (.noDirectory ⟨["static", "assets"]⟩) ∧
      ∃ catalog, (currentCatalog (start bareOptions settled).session).value = .ok catalog := by
  obtain ⟨hcatalog, hstorage, hstart⟩ := answers_after_failure settled
  have hlost : (useCatalog (.directory ⟨["lost"]⟩) settled).value =
      .error (.catalog (.missing ⟨["lost", "bestiary.json"]⟩)) := by cbv
  obtain ⟨-, -, catalog, -, hbare⟩ := (hstart _ _ start_bare).2.1 _ rfl
  exact ⟨hlost, (hcatalog _ _ hlost).1, useStorage_blocked, (hstorage _ _ useStorage_blocked).2,
    start_lost, (hstart _ _ start_lost).2.2 (by simp), start_bare, catalog, hbare⟩

/-- A data directory is taken into use. One that cannot be made then changes it, so does a server
that cannot be started for want of a catalog, and one that cannot be started for want of the files
of its pages changes the catalog. -/
theorem start_failure_changes_answers :
    useStorage ⟨["old"]⟩ ⟨cluttered, none, none⟩ = ⟨.ok (), settled, []⟩ ∧
      (useStorage ⟨["blocked", "data"]⟩ settled).value =
        .error (.file ⟨.notDirectory, ⟨["blocked", "data"]⟩⟩) ∧
      ¬ SameStorage settled (useStorage ⟨["blocked", "data"]⟩ settled).session ∧
      (start lostOptions settled).value =
        .error (.catalog (.missing ⟨["lost", "bestiary.json"]⟩)) ∧
      ¬ SameStorage settled (start lostOptions settled).session ∧
      (start bareOptions settled).value = .error (.noDirectory ⟨["static", "assets"]⟩) ∧
      ¬ SameCatalog settled (start bareOptions settled).session := by
  refine ⟨by cbv, useStorage_blocked, ?_, start_lost, ?_, start_bare, ?_⟩
  · intro h
    have hdirectories : (Except.ok ⟨["blocked", "data"]⟩ : Except Failure Path) = .ok ⟨["old"]⟩ := h
    simp at hdirectories
  · intro h
    rw [SameStorage, dataDirectory_eq (storage_start lostOptions settled)] at h
    have hdirectories : (Except.ok ⟨["new"]⟩ : Except Failure Path) = .ok ⟨["old"]⟩ := h
    simp at hdirectories
  · intro h
    obtain ⟨-, -, catalog, -, hcatalog⟩ := currentCatalog_start_of_pages start_bare
    have hcatalogs : Except.ok catalog = (Except.error .noCatalog : Except Failure Catalog) :=
      hcatalog.symm.trans h
    simp at hcatalogs

end Server

end Compendium
