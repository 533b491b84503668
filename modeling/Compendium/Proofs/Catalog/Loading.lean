import Compendium.Proofs.Session.Frames

/-!
# Loading a catalog

The documents of a directory are examined one after another, in catalog order, and the first that is
no list of records decides. If it is missing or holds another value, the directory has no catalog; if
it cannot be read at all, what comes out is the fault of the document. Main theorem
`catalog_or_refusal_iff`: a directory gives a catalog, or is refused for a collection that is missing
or no list, unless an unreadable document stands before any other fault.
-/

namespace Compendium

open Activity

namespace Catalog

/-- There is no catalog because a collection is missing or no list. -/
def Refused (value : Except Failure Catalog) : Prop :=
  ∃ file, value = .error (.catalog (.missing file)) ∨ value = .error (.catalog (.notList file))

/-- What the document of a kind holds, or why it cannot be read; none if it is no file. -/
def found? (t : Tree) (directory : Path) (k : Kind) : Option (Except DocumentFault Json) :=
  (t.octets? (directory.child (fileName k))).map Document.ofOctets

def HasList (t : Tree) (directory : Path) (k : Kind) : Prop :=
  ∃ records, found? t directory k = some (.ok (.arr records))

/-- The document of a kind is the first, in catalog order, that is no list of records. -/
structure FirstAmiss (t : Tree) (directory : Path) (k : Kind) : Prop where
  amiss : ¬ HasList t directory k
  before : ∀ j ∈ Kind.all.takeWhile (· ≠ k), HasList t directory j

variable {t : Tree} {directory : Path} {k : Kind}

/-! ## One document -/

/-- What a document comes to is decided by what it holds. -/
theorem readCollection_eq (t : Tree) (directory : Path) (k : Kind) :
    readCollection t directory k =
      match found? t directory k with
      | none => .error (.missing (directory.child (fileName k)))
      | some (.error f) => .error (.unreadable f)
      | some (.ok (.arr records)) => .ok records
      | some (.ok _) => .error (.notList (directory.child (fileName k))) := by
  simp only [readCollection, found?]
  cases t.octets? (directory.child (fileName k)) with
  | none => rfl
  | some octets => cases hread : Document.ofOctets octets with
    | error f => simp [hread]
    | ok v => cases v <;> simp [hread]

theorem readCollection_eq_ok_iff {records : List Json} :
    readCollection t directory k = .ok records ↔
      found? t directory k = some (.ok (.arr records)) := by
  rw [readCollection_eq]
  split <;> simp_all

theorem readCollection_eq_unreadable_iff {f : DocumentFault} :
    readCollection t directory k = .error (.unreadable f) ↔
      found? t directory k = some (.error f) := by
  rw [readCollection_eq]
  split <;> simp_all

theorem not_hasList_iff :
    ¬ HasList t directory k ↔ ∃ f, readCollection t directory k = .error f := by
  unfold HasList
  simp only [← readCollection_eq_ok_iff]
  cases readCollection t directory k <;> simp

/-! ## All documents -/

theorem readCollections_eq_ok_iff {c : Collections} :
    readCollections t directory = .ok c ↔
      ∀ k, found? t directory k = some (.ok (.arr (c.ofKind k))) := by
  simp only [← readCollection_eq_ok_iff]
  have hkinds : (∀ k, readCollection t directory k = .ok (c.ofKind k)) ↔
      readCollection t directory .creature = .ok c.creatures ∧
        readCollection t directory .spell = .ok c.spells ∧
          readCollection t directory .item = .ok c.items :=
    ⟨fun h => ⟨h .creature, h .spell, h .item⟩, fun ⟨hc, hs, hi⟩ k => by cases k <;> assumption⟩
  rw [hkinds]
  unfold readCollections
  cases readCollection t directory .creature with
  | error f => simp [Bind.bind, Except.bind]
  | ok creatures =>
    cases readCollection t directory .spell with
    | error f => simp [Bind.bind, Except.bind]
    | ok spells =>
      cases readCollection t directory .item with
      | error f => simp [Bind.bind, Except.bind]
      | ok items =>
        obtain ⟨creatures', spells', items'⟩ := c
        simp [Bind.bind, Except.bind, pure, Except.pure]

/-- A kind is the first amiss if its document is, and those before it were read. -/
theorem firstAmiss_of_error {f : CatalogFault} (h : readCollection t directory k = .error f)
    (hbefore : ∀ j ∈ Kind.all.takeWhile (· ≠ k), ∃ records, readCollection t directory j = .ok records) :
    FirstAmiss t directory k where
  amiss := not_hasList_iff.2 ⟨f, h⟩
  before := fun j hj => (hbefore j hj).imp fun _ => readCollection_eq_ok_iff.1

/-- What goes wrong first is told. -/
theorem exists_firstAmiss {f : CatalogFault} (h : readCollections t directory = .error f) :
    ∃ k, FirstAmiss t directory k ∧ readCollection t directory k = .error f := by
  unfold readCollections at h
  cases hcreatures : readCollection t directory .creature with
  | error g =>
    simp only [hcreatures, Bind.bind, Except.bind, Except.error.injEq] at h
    subst h
    exact ⟨.creature, firstAmiss_of_error hcreatures (by simp [Kind.all]), hcreatures⟩
  | ok creatures =>
    cases hspells : readCollection t directory .spell with
    | error g =>
      simp only [hcreatures, hspells, Bind.bind, Except.bind, Except.error.injEq] at h
      subst h
      exact ⟨.spell, firstAmiss_of_error hspells (by simp [Kind.all, hcreatures]), hspells⟩
    | ok spells =>
      cases hitems : readCollection t directory .item with
      | error g =>
        simp only [hcreatures, hspells, hitems, Bind.bind, Except.bind, Except.error.injEq] at h
        subst h
        exact ⟨.item, firstAmiss_of_error hitems (by simp [Kind.all, hcreatures, hspells]), hitems⟩
      | ok items =>
        simp [hcreatures, hspells, hitems, Bind.bind, Except.bind, pure, Except.pure] at h

/-- Only one document can be the first amiss. -/
theorem FirstAmiss.unique {j : Kind} (hk : FirstAmiss t directory k)
    (hj : FirstAmiss t directory j) : k = j := by
  have horder : k = j ∨ j ∈ Kind.all.takeWhile (· ≠ k) ∨ k ∈ Kind.all.takeWhile (· ≠ j) := by
    cases k <;> cases j <;> decide
  rcases horder with rfl | hbefore | hbefore
  · rfl
  · exact absurd (hk.before j hbefore) hj.amiss
  · exact absurd (hj.before k hbefore) hk.amiss

theorem readCollections_eq_error_iff {f : CatalogFault} :
    readCollections t directory = .error f ↔
      ∃ k, FirstAmiss t directory k ∧ readCollection t directory k = .error f := by
  refine ⟨exists_firstAmiss, ?_⟩
  rintro ⟨k, hfirst, hfault⟩
  cases hread : readCollections t directory with
  | ok c => exact absurd ⟨_, readCollections_eq_ok_iff.1 hread k⟩ hfirst.amiss
  | error g =>
    obtain ⟨j, hfirst', hfault'⟩ := exists_firstAmiss hread
    obtain rfl := hfirst.unique hfirst'
    rw [hfault] at hfault'
    rw [Except.error.inj hfault']

/-! ## The catalog -/

theorem value_readCatalog (s : Session) (directory : Path) :
    (Session.readCatalog directory s).value =
      match readCollections s.tree directory with
      | .ok c => .ok (ofCollections c)
      | .error f => .error (.catalog f) := by
  rw [Session.readCatalog_eq]
  cases readCollections s.tree directory <;> rfl

theorem refused_iff {f : CatalogFault} :
    Refused (.error (.catalog f)) ↔ ∀ g, f ≠ .unreadable g := by
  cases f <;> simp [Refused]

theorem not_refused_ok (catalog : Catalog) : ¬ Refused (.ok catalog) := by
  simp [Refused]

section
variable {s : Session}

theorem value_of_lists {c : Collections}
    (h : ∀ k, found? s.tree directory k = some (.ok (.arr (c.ofKind k)))) :
    (Session.readCatalog directory s).value = .ok (ofCollections c) := by
  rw [value_readCatalog, readCollections_eq_ok_iff.2 h]

theorem exists_value_of_lists (h : ∀ k, HasList s.tree directory k) :
    ∃ catalog, (Session.readCatalog directory s).value = .ok catalog := by
  obtain ⟨creatures, hcreatures⟩ := h .creature
  obtain ⟨spells, hspells⟩ := h .spell
  obtain ⟨items, hitems⟩ := h .item
  refine ⟨_, value_of_lists (c := ⟨creatures, spells, items⟩) fun k => ?_⟩
  cases k <;> assumption

theorem value_of_unreadable {f : DocumentFault} (hfirst : FirstAmiss s.tree directory k)
    (hfound : found? s.tree directory k = some (.error f)) :
    (Session.readCatalog directory s).value = .error (.catalog (.unreadable f)) := by
  have hread := readCollections_eq_error_iff.2
    ⟨k, hfirst, readCollection_eq_unreadable_iff.2 hfound⟩
  rw [value_readCatalog, hread]

/-- A directory with a document amiss is refused if the first such document can be read. -/
theorem refused_of_readable
    (hreadable : ¬ ∃ k f, FirstAmiss s.tree directory k ∧ found? s.tree directory k = some (.error f))
    (hamiss : ∃ k, ¬ HasList s.tree directory k) :
    Refused (Session.readCatalog directory s).value := by
  rw [value_readCatalog]
  cases hread : readCollections s.tree directory with
  | ok c =>
    obtain ⟨k, hk⟩ := hamiss
    exact absurd ⟨_, readCollections_eq_ok_iff.1 hread k⟩ hk
  | error f =>
    obtain ⟨k, hfirst, hfault⟩ := readCollections_eq_error_iff.1 hread
    rw [refused_iff]
    rintro g rfl
    exact hreadable ⟨k, g, hfirst, readCollection_eq_unreadable_iff.1 hfault⟩

end

/-- **A directory gives a catalog, or is refused just when a collection is missing or no list,
unless its first document amiss is unreadable**; then the fault of that document comes out. Where
every document is a list, the catalog is that of the lists. -/
theorem catalog_or_refusal_iff (s : Session) (directory : Path) :
    let value := (Session.readCatalog directory s).value
    ((((∃ catalog, value = .ok catalog) ∨ Refused value) ∧
        (Refused value ↔ ∃ k, ¬ HasList s.tree directory k)) ↔
      ¬ ∃ k f, FirstAmiss s.tree directory k ∧ found? s.tree directory k = some (.error f)) ∧
    (∀ k f, FirstAmiss s.tree directory k → found? s.tree directory k = some (.error f) →
      value = .error (.catalog (.unreadable f))) ∧
    ∀ c : Collections, (∀ k, found? s.tree directory k = some (.ok (.arr (c.ofKind k)))) →
      value = .ok (ofCollections c) := by
  intro value
  refine ⟨⟨?_, ?_⟩, fun k f => value_of_unreadable, fun c => value_of_lists⟩
  · rintro ⟨⟨catalog, hok⟩ | hrefused, -⟩ ⟨k, f, hfirst, hfound⟩
    · exact absurd (hok.symm.trans (value_of_unreadable hfirst hfound)) (by simp)
    · rw [show value = _ from value_of_unreadable hfirst hfound, refused_iff] at hrefused
      exact hrefused f rfl
  · intro hreadable
    by_cases hlists : ∀ k, HasList s.tree directory k
    · obtain ⟨catalog, hok⟩ := exists_value_of_lists hlists
      refine ⟨Or.inl ⟨catalog, hok⟩, fun hrefused => ?_, fun ⟨k, hk⟩ => absurd (hlists k) hk⟩
      rw [show value = _ from hok] at hrefused
      exact absurd hrefused (not_refused_ok catalog)
    · have hamiss := Classical.not_forall.1 hlists
      have hrefused : Refused value := refused_of_readable hreadable hamiss
      exact ⟨Or.inr hrefused, fun _ => hamiss, fun _ => hrefused⟩

/-- A directory with a list of creatures, an unfinished list of spells and no items. -/
def unfinished : Session :=
  ⟨⟨[(["cat"], .directory), (["cat", "bestiary.json"], .file [0x5B, 0x5D]),
    (["cat", "spells.json"], .file [0x5B])]⟩, none, none⟩

theorem catalog_or_refusal_unfinished :
    FirstAmiss unfinished.tree ⟨["cat"]⟩ .spell ∧
      (Session.readCatalog ⟨["cat"]⟩ unfinished).value =
        .error (.catalog (.unreadable (.malformed ['['] (.misplaced .value 1)))) := by
  have hfirst : FirstAmiss unfinished.tree ⟨["cat"]⟩ .spell := by
    refine ⟨?_, ?_⟩
    · rintro ⟨records, h⟩
      exact absurd h (by simp [show found? unfinished.tree ⟨["cat"]⟩ .spell =
        some (.error (.malformed ['['] (.misplaced .value 1))) from rfl])
    · intro j hj
      obtain rfl : j = .creature := by simpa [Kind.all] using hj
      exact ⟨[], rfl⟩
  exact ⟨hfirst, (catalog_or_refusal_iff unfinished ⟨["cat"]⟩).2.1 .spell _ hfirst rfl⟩

/-- A directory with an empty document for the creatures. -/
def emptied : Session :=
  ⟨⟨[(["cat"], .directory), (["cat", "bestiary.json"], .file []),
    (["cat", "spells.json"], .file [0x5B, 0x5D]), (["cat", "items.json"], .file [0x5B, 0x5D])]⟩,
    none, none⟩

/-- An empty document is no list, but its directory gives no catalog and is not refused. -/
theorem emptied_not_refused :
    ¬ HasList emptied.tree ⟨["cat"]⟩ .creature ∧
      (∀ catalog, (Session.readCatalog ⟨["cat"]⟩ emptied).value ≠ .ok catalog) ∧
      ¬ Refused (Session.readCatalog ⟨["cat"]⟩ emptied).value := by
  have hvalue : (Session.readCatalog ⟨["cat"]⟩ emptied).value =
      .error (.catalog (.unreadable (.malformed [] (.misplaced .value 0)))) := rfl
  refine ⟨?_, ?_, ?_⟩
  · rintro ⟨records, h⟩
    exact absurd h (by simp [show found? emptied.tree ⟨["cat"]⟩ .creature =
      some (.error (.malformed [] (.misplaced .value 0))) from rfl])
  · intro catalog h
    rw [hvalue] at h
    exact absurd h (by simp)
  · rw [hvalue, refused_iff]
    exact fun h => h _ rfl

end Catalog

end Compendium
