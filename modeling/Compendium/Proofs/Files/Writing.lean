import Compendium.Files.Tree
import Compendium.Proofs.Assignments

/-!
# Writing in a directory

A path that leads somewhere still leads there as long as no directory on its way is lost
(`walk_of_directories`), and neither writing a file nor making a directory loses one. So a directory
that is there, or was just made, can be written in, and only the file that is written changes. Main
theorem `at?_write_child`.
-/

namespace Compendium.Tree

/-- Every directory of the first tree is one of the second. -/
def KeepsDirectories (t t' : Tree) : Prop :=
  ∀ place, t.node? place = some .directory → t'.node? place = some .directory

namespace KeepsDirectories

variable {t t' t'' : Tree}

theorem refl (t : Tree) : KeepsDirectories t t := fun _ h => h

theorem trans (h : KeepsDirectories t t') (h' : KeepsDirectories t' t'') : KeepsDirectories t t'' :=
  fun place hplace => h' place (h place hplace)

end KeepsDirectories

/-! ## Where paths lead -/

/-- A step to a directory is gone on from there. -/
theorem walk_cons_of_directory {t : Tree} {here : List String} {step : String} (steps : List String)
    (h : t.node? (stepFrom here step) = some .directory) :
    t.walk here (step :: steps) = t.walk (stepFrom here step) steps := by
  cases steps with
  | nil => rfl
  | cons next rest => simp [walk, h]

/-- A step to anything else leads somewhere only if it is the last. -/
theorem walk_cons_of_not_directory {t : Tree} {here steps place : List String} {step : String}
    (h : t.node? (stepFrom here step) ≠ some .directory) :
    t.walk here (step :: steps) = .ok place ↔ steps = [] ∧ place = stepFrom here step := by
  cases steps with
  | nil => simp [walk, eq_comm]
  | cons next rest =>
    have hrefused : t.walk here (step :: next :: rest) ≠ .ok place := by
      rw [walk, if_neg (by simp)]
      split
      · exact absurd ‹_› h
      · simp
      · simp
    simpa using hrefused

theorem walk_of_directories {t t' : Tree} (h : KeepsDirectories t t') {here there : List String}
    {steps : List String} (hwalk : t.walk here steps = .ok there) :
    t'.walk here steps = .ok there := by
  induction steps generalizing here with
  | nil => exact hwalk
  | cons step rest ih =>
    by_cases hnode : t.node? (stepFrom here step) = some .directory
    · rw [walk_cons_of_directory rest hnode] at hwalk
      rw [walk_cons_of_directory rest (h _ hnode)]
      exact ih hwalk
    · obtain ⟨rfl, rfl⟩ := (walk_cons_of_not_directory hnode).1 hwalk
      rfl

theorem locate_of_directories {t t' : Tree} (h : KeepsDirectories t t') {p : Path}
    {place : List String} (hp : t.locate p = .ok place) : t'.locate p = .ok place :=
  walk_of_directories h hp

theorem walk_snoc_iff {t : Tree} {here steps place : List String} {step : String}
    (hhere : t.node? here = some .directory) :
    t.walk here (steps ++ [step]) = .ok place ↔
      ∃ middle, t.walk here steps = .ok middle ∧ t.node? middle = some .directory ∧
        place = stepFrom middle step := by
  induction steps generalizing here with
  | nil => simp [walk, hhere, eq_comm]
  | cons first rest ih =>
    rw [List.cons_append]
    by_cases hnode : t.node? (stepFrom here first) = some .directory
    · rw [walk_cons_of_directory _ hnode, walk_cons_of_directory _ hnode]
      exact ih hnode
    · rw [walk_cons_of_not_directory hnode]
      constructor
      · rintro ⟨hempty, -⟩
        simp at hempty
      · rintro ⟨middle, hwalk, hmiddle, -⟩
        obtain ⟨-, rfl⟩ := (walk_cons_of_not_directory hnode).1 hwalk
        exact absurd hmiddle hnode

/-- A step more leads somewhere just when the steps before it lead to a directory. -/
theorem locate_snoc_iff {t : Tree} {steps place : List String} {step : String} :
    t.locate ⟨steps ++ [step]⟩ = .ok place ↔
      ∃ middle, t.locate ⟨steps⟩ = .ok middle ∧ t.node? middle = some .directory ∧
        place = stepFrom middle step :=
  walk_snoc_iff rfl

theorem at?_eq_some_iff {t : Tree} {p : Path} {node : Node} :
    t.at? p = some node ↔ ∃ place, t.locate p = .ok place ∧ t.node? place = some node := by
  unfold at?
  cases h : t.locate p <;> simp

/-- What is in a directory has a place right below it. -/
theorem locate_child {t : Tree} {directory : Path} (h : t.at? directory = some .directory) :
    ∃ place, ∀ name, name ≠ ".." → t.locate (directory.child name) = .ok (place ++ [name]) := by
  obtain ⟨place, hlocate, hnode⟩ := at?_eq_some_iff.1 h
  refine ⟨place, ?_⟩
  intro name hname
  exact locate_snoc_iff.2 ⟨place, hlocate, hnode, (stepFrom_down place hname).symm⟩

/-- Only what leads to a directory has something below it. -/
theorem at?_of_locate_child {t : Tree} {directory : Path} {name : String} {place : List String}
    (h : t.locate (directory.child name) = .ok place) : t.at? directory = some .directory := by
  obtain ⟨middle, hlocate, hnode, -⟩ := locate_snoc_iff.1 h
  exact at?_eq_some_iff.2 ⟨middle, hlocate, hnode⟩

theorem at?_directory_of_keeps {t t' : Tree} (h : KeepsDirectories t t') {p : Path}
    (hp : t.at? p = some .directory) : t'.at? p = some .directory := by
  obtain ⟨place, hlocate, hnode⟩ := at?_eq_some_iff.1 hp
  exact at?_eq_some_iff.2 ⟨place, locate_of_directories h hlocate, h place hnode⟩

/-! ## Writing -/

theorem write_eq_ok_iff {t t' : Tree} {p : Path} {octets : List UInt8} :
    t.write p octets = .ok t' ↔ ∃ place, t.locate p = .ok place ∧
      t.node? place ≠ some .directory ∧ t' = t.put place (.file octets) := by
  unfold write
  cases hlocate : t.locate p with
  | error cause => simp
  | ok place =>
    by_cases hnode : t.node? place = some .directory
    · simp [hnode]
    · simp only [hnode, if_false, Except.ok.injEq, exists_eq_left', ne_eq, not_false_eq_true, true_and]
      exact eq_comm

theorem ne_nil_of_node? {t : Tree} {place : List String} (h : t.node? place ≠ some .directory) :
    place ≠ [] := by
  rintro rfl
  exact h rfl

theorem keepsDirectories_put {t : Tree} {place : List String} {node : Node}
    (h : t.node? place ≠ some .directory) : KeepsDirectories t (t.put place node) := by
  intro other hother
  have hne : other ≠ place := by
    rintro rfl
    exact h hother
  rw [node?_put_other node hne, hother]

theorem keepsDirectories_write {t t' : Tree} {p : Path} {octets : List UInt8}
    (h : t.write p octets = .ok t') : KeepsDirectories t t' := by
  obtain ⟨place, -, hnode, rfl⟩ := write_eq_ok_iff.1 h
  exact keepsDirectories_put hnode

/-- What was written is read. -/
theorem at?_of_write {t t' : Tree} {p : Path} {octets : List UInt8}
    (h : t.write p octets = .ok t') : t'.at? p = some (.file octets) := by
  have hkeeps := keepsDirectories_write h
  obtain ⟨place, hlocate, hnode, rfl⟩ := write_eq_ok_iff.1 h
  refine at?_eq_some_iff.2 ⟨place, locate_of_directories hkeeps hlocate, ?_⟩
  exact node?_put_self _ (ne_nil_of_node? hnode)

theorem write_child {t : Tree} {directory : Path} (name : String) (hname : name ≠ "..")
    (hdirectory : t.at? directory = some .directory)
    (hfile : t.at? (directory.child name) ≠ some .directory) (octets : List UInt8) :
    ∃ t', t.write (directory.child name) octets = .ok t' := by
  obtain ⟨place, hplace⟩ := locate_child hdirectory
  have hlocate := hplace name hname
  have hfree : t.node? (place ++ [name]) ≠ some .directory := by
    intro hnode
    apply hfile
    exact at?_eq_some_iff.2 ⟨_, hlocate, hnode⟩
  exact ⟨_, write_eq_ok_iff.2 ⟨_, hlocate, hfree, rfl⟩⟩

/-- A file can be written just when its directory is there and no directory stands in its place. -/
theorem write_child_iff {t : Tree} {directory : Path} {name : String} (hname : name ≠ "..")
    {octets : List UInt8} :
    (∃ t', t.write (directory.child name) octets = .ok t') ↔
      t.at? directory = some .directory ∧ t.at? (directory.child name) ≠ some .directory := by
  constructor
  · rintro ⟨t', hwrite⟩
    obtain ⟨place, hlocate, hnode, -⟩ := write_eq_ok_iff.1 hwrite
    refine ⟨at?_of_locate_child hlocate, ?_⟩
    simpa only [at?, hlocate] using hnode
  · rintro ⟨hdirectory, hfile⟩
    exact write_child name hname hdirectory hfile octets

/-- **What a directory holds after one file in it is written.** -/
theorem at?_write_child {t t' : Tree} {directory : Path} {name other : String} {octets : List UInt8}
    (hname : name ≠ "..") (hother : other ≠ "..") (hdirectory : t.at? directory = some .directory)
    (hwrite : t.write (directory.child name) octets = .ok t') :
    t'.at? (directory.child other) =
      if other = name then some (.file octets) else t.at? (directory.child other) := by
  obtain ⟨place, hplace⟩ := locate_child hdirectory
  obtain ⟨written, hlocate, hnode, ht'⟩ := write_eq_ok_iff.1 hwrite
  obtain rfl : place ++ [name] = written := Except.ok.inj ((hplace name hname).symm.trans hlocate)
  have hafter : t'.locate (directory.child other) = .ok (place ++ [other]) :=
    locate_of_directories (keepsDirectories_write hwrite) (hplace other hother)
  simp only [at?, hafter, hplace other hother]
  subst ht'
  by_cases he : other = name
  · rw [if_pos he, he, node?_put_self _ (ne_nil_of_node? hnode)]
  · have hplaces : place ++ [other] ≠ place ++ [name] := by
      intro h
      apply he
      simpa using h
    rw [if_neg he, node?_put_other _ hplaces]

/-! ## Writing again -/

/-- Writing what a file holds changes nothing. -/
theorem write_of_at? {t : Tree} {p : Path} {octets : List UInt8}
    (h : t.at? p = some (.file octets)) : t.write p octets = .ok t := by
  obtain ⟨place, hlocate, hnode⟩ := at?_eq_some_iff.1 h
  have hfile : t.node? place ≠ some .directory := by simp [hnode]
  refine write_eq_ok_iff.2 ⟨place, hlocate, hfile, ?_⟩
  rw [node?, if_neg (ne_nil_of_node? hfile)] at hnode
  rw [put, Fields.put_of_get? hnode]

/-- A file that is written twice holds what was written last, and nothing else has changed. -/
theorem write_write {t t' : Tree} {p : Path} {octets : List UInt8} (h : t.write p octets = .ok t')
    (octets' : List UInt8) : t'.write p octets' = t.write p octets' := by
  have hkeeps := keepsDirectories_write h
  obtain ⟨place, hlocate, hnode, rfl⟩ := write_eq_ok_iff.1 h
  have hfile : (t.put place (.file octets)).node? place ≠ some .directory := by
    rw [node?_put_self _ (ne_nil_of_node? hnode)]
    simp
  rw [write_eq_ok_iff.2 ⟨place, hlocate, hnode, rfl⟩]
  refine write_eq_ok_iff.2 ⟨place, locate_of_directories hkeeps hlocate, hfile, ?_⟩
  rw [put, put, put, Fields.put_put]

/-! ## Making directories -/

theorem makeDirectory_eq_ok_iff {t t' : Tree} {p : Path} :
    t.makeDirectory p = .ok t' ↔ ∃ place, t.locate p = .ok place ∧
      t.node? place = none ∧ t' = t.put place .directory := by
  unfold makeDirectory
  cases hlocate : t.locate p with
  | error cause => simp [Bind.bind, Except.bind]
  | ok place =>
    cases hnode : t.node? place with
    | none => simp [Bind.bind, Except.bind, pure, Except.pure, hnode, eq_comm]
    | some node => simp [Bind.bind, Except.bind, hnode]

theorem keepsDirectories_makeDirectory {t t' : Tree} {p : Path} (h : t.makeDirectory p = .ok t') :
    KeepsDirectories t t' := by
  obtain ⟨place, -, hnode, rfl⟩ := makeDirectory_eq_ok_iff.1 h
  exact keepsDirectories_put (by simp [hnode])

theorem keepsDirectories_makeUpwards (t : Tree) (steps : List String) :
    KeepsDirectories t (t.makeUpwards steps).1 := by
  induction steps with
  | nil => exact .refl t
  | cons step above ih =>
    simp only [makeUpwards]
    split
    · rename_i t' hmake
      exact keepsDirectories_makeDirectory hmake
    · split
      · rename_i t' fault habove
        rwa [habove] at ih
      · rename_i t' habove
        rw [habove] at ih
        split
        · rename_i t'' hmake
          exact ih.trans (keepsDirectories_makeDirectory hmake)
        · exact ih
    · exact .refl t

theorem keepsDirectories_makeDirectories (t : Tree) (p : Path) :
    KeepsDirectories t (t.makeDirectories p).1 := keepsDirectories_makeUpwards t p.steps.reverse

theorem at?_makeDirectory {t t' : Tree} {p : Path} (h : t.makeDirectory p = .ok t') :
    t'.at? p = some .directory := by
  obtain ⟨place, hlocate, hnode, rfl⟩ := makeDirectory_eq_ok_iff.1 h
  have hfree : t.node? place ≠ some .directory := by simp [hnode]
  refine at?_eq_some_iff.2 ⟨place, locate_of_directories (keepsDirectories_put hfree) hlocate, ?_⟩
  exact node?_put_self _ (ne_nil_of_node? hfree)

theorem at?_of_no_fault {t t' : Tree} {p : Path} {cause : FileCause}
    (h : (t, if t.isDirectory p then none else some (FileFault.mk cause p)) = (t', none)) :
    t'.at? p = some .directory := by
  rw [Prod.mk.injEq] at h
  obtain ⟨rfl, hfault⟩ := h
  by_cases hp : t.isDirectory p = true
  · simpa [isDirectory] using hp
  · simp [hp] at hfault

/-- A directory that was made without a fault is there. -/
theorem at?_makeDirectories {t t' : Tree} {p : Path} (h : t.makeDirectories p = (t', none)) :
    t'.at? p = some .directory := by
  suffices hup : ∀ steps, t.makeUpwards steps = (t', none) → t'.at? ⟨steps.reverse⟩ = some .directory by
    have := hup _ h
    rwa [List.reverse_reverse] at this
  intro steps h
  cases steps with
  | nil => rfl
  | cons step above =>
    simp only [makeUpwards] at h
    split at h
    · rename_i t₁ hmake
      obtain rfl : t₁ = t' := congrArg Prod.fst h
      exact at?_makeDirectory hmake
    · split at h
      · exact absurd h (by simp)
      · split at h
        · rename_i t₂ hmake
          obtain rfl : t₂ = t' := congrArg Prod.fst h
          exact at?_makeDirectory hmake
        · exact at?_of_no_fault h
    · exact at?_of_no_fault h

/-! ## Removing -/

theorem node?_erase_other {t : Tree} {place other : List String} (h : other ≠ place) :
    (t.erase place).node? other = t.node? other := by
  rw [node?, erase, Fields.get?_filter_other _ h, node?]

theorem node?_erase_self {t : Tree} {place : List String} (h : place ≠ []) :
    (t.erase place).node? place = none := by
  rw [node?, if_neg h, erase, Fields.get?_filter_self]

/-- What is removed was a file. -/
theorem remove_eq_ok_iff {t t' : Tree} {p : Path} :
    t.remove p = .ok t' ↔ ∃ place octets, t.locate p = .ok place ∧
      t.node? place = some (.file octets) ∧ t' = t.erase place := by
  unfold remove
  cases hlocate : t.locate p with
  | error cause => simp
  | ok place =>
    rcases hnode : t.node? place with _ | _ | octets
    · simp [hnode]
    · simp [hnode]
    · simp [hnode, eq_comm]

theorem keepsDirectories_remove {t t' : Tree} {p : Path} (h : t.remove p = .ok t') :
    KeepsDirectories t t' := by
  obtain ⟨place, octets, -, hnode, rfl⟩ := remove_eq_ok_iff.1 h
  intro other hother
  have hne : other ≠ place := by
    rintro rfl
    rw [hnode] at hother
    exact absurd hother (by simp)
  rw [node?_erase_other hne, hother]

/-- A file can be removed, and then its path leads to nothing. -/
theorem remove_of_file {t : Tree} {p : Path} {octets : List UInt8}
    (h : t.at? p = some (.file octets)) : ∃ t', t.remove p = .ok t' ∧ t'.at? p = none := by
  obtain ⟨place, hlocate, hnode⟩ := at?_eq_some_iff.1 h
  have hremove : t.remove p = .ok (t.erase place) :=
    remove_eq_ok_iff.2 ⟨place, octets, hlocate, hnode, rfl⟩
  have hplace : place ≠ [] := ne_nil_of_node? (t := t) (by simp [hnode])
  have hafter := locate_of_directories (keepsDirectories_remove hremove) hlocate
  exact ⟨_, hremove, by rw [at?, hafter]; exact node?_erase_self hplace⟩

/-- **What a directory holds after one file in it is removed.** -/
theorem at?_remove_child {t t' : Tree} {directory : Path} {name other : String}
    (hname : name ≠ "..") (hother : other ≠ "..") (hdirectory : t.at? directory = some .directory)
    (hremove : t.remove (directory.child name) = .ok t') :
    t'.at? (directory.child other) = if other = name then none else t.at? (directory.child other) := by
  obtain ⟨place, hplace⟩ := locate_child hdirectory
  obtain ⟨removed, octets, hlocate, hnode, ht'⟩ := remove_eq_ok_iff.1 hremove
  obtain rfl : place ++ [name] = removed := Except.ok.inj ((hplace name hname).symm.trans hlocate)
  have hafter : t'.locate (directory.child other) = .ok (place ++ [other]) :=
    locate_of_directories (keepsDirectories_remove hremove) (hplace other hother)
  simp only [at?, hafter, hplace other hother]
  subst ht'
  by_cases he : other = name
  · rw [if_pos he, he, node?_erase_self (by simp)]
  · have hplaces : place ++ [other] ≠ place ++ [name] := fun h => he (by simpa using h)
    rw [if_neg he, node?_erase_other hplaces]

/-- Removing a file that was not there before it was written leaves no trace of it. -/
theorem remove_of_write {t t' : Tree} {p : Path} {octets : List UInt8} (h : t.at? p = none)
    (hwrite : t.write p octets = .ok t') : t'.remove p = .ok t := by
  have hkeeps := keepsDirectories_write hwrite
  obtain ⟨place, hlocate, hnode, rfl⟩ := write_eq_ok_iff.1 hwrite
  have hplace : place ≠ [] := ne_nil_of_node? hnode
  have hnew : place ∉ Fields.names t.nodes := by
    simpa only [at?, hlocate, node?, if_neg hplace, Fields.get?_eq_none_iff] using h
  refine remove_eq_ok_iff.2
    ⟨place, octets, locate_of_directories hkeeps hlocate, node?_put_self _ hplace, ?_⟩
  have herase : (Fields.put t.nodes place (.file octets)).filter (·.1 ≠ place) = t.nodes := by
    rw [Fields.put_of_not_mem hnew, List.filter_append, List.filter_eq_self.2, List.filter_cons_of_neg]
    · exact List.append_nil _
    · simp
    · exact fun f hf => decide_eq_true fun heq => hnew (heq ▸ List.mem_map_of_mem hf)
  rw [erase, put, herase]

end Compendium.Tree
