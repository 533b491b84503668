import Compendium.Proofs.Files.Writing
import Mathlib.Data.List.Induction

/-!
# Paths without steps up

Resolving a path takes back every step down that a step up comes after. The path leads where it led
before (`locate_resolved`): what was stepped down to is a directory, or the path would lead nowhere.
A path that was read from a text is read again from the text that it is written as (`ofString_text`),
and so is what it resolves to.
-/

namespace Compendium

namespace Path

variable {steps : List String} {step s : String}

/-! ## Paths that a text can spell -/

/-- A step between two slashes of a text. -/
structure IsStep (step : String) : Prop where
  ne_empty : step ≠ ""
  ne_dot : step ≠ "."
  no_slash : '/' ∉ step.toList

theorem IsStep.ne_root (h : IsStep step) : step ≠ "/" := by
  rintro rfl
  exact h.no_slash (by decide)

/-- Steps that a text spells. Only the first may be the root of all paths. -/
structure Spelled (steps : List String) : Prop where
  isStep : ∀ step ∈ steps, step ≠ "/" → IsStep step
  root_first : "/" ∉ steps.tail

theorem spelled_nil : Spelled [] := ⟨by simp, by simp⟩

theorem spelled_root : Spelled ["/"] := ⟨by simp, by simp⟩

theorem spelled_of_isStep (h : ∀ step ∈ steps, IsStep step) : Spelled steps where
  isStep := fun step hstep _ => h step hstep
  root_first := fun hroot => (h "/" (List.mem_of_mem_tail hroot)).ne_root rfl

theorem spelled_root_cons (h : ∀ step ∈ steps, IsStep step) : Spelled ("/" :: steps) where
  isStep := by
    intro step hstep hroot
    rcases List.mem_cons.1 hstep with rfl | hrest
    · exact absurd rfl hroot
    · exact h step hrest
  root_first := fun hroot => (h "/" hroot).ne_root rfl

theorem Spelled.dropLast (h : Spelled steps) : Spelled steps.dropLast where
  isStep := fun step hstep => h.isStep step (List.dropLast_subset _ hstep)
  root_first := by
    rw [List.tail_dropLast]
    exact fun hroot => h.root_first (List.dropLast_subset _ hroot)

theorem Spelled.append (h : Spelled steps) {more : List String} (hmore : ∀ step ∈ more, IsStep step) :
    Spelled (steps ++ more) where
  isStep := by
    intro step hstep hroot
    rcases List.mem_append.1 hstep with hold | hnew
    · exact h.isStep step hold hroot
    · exact hmore step hnew
  root_first := by
    cases steps with
    | nil => exact (spelled_of_isStep hmore).root_first
    | cons first rest =>
      intro hroot
      rcases List.mem_append.1 hroot with hold | hnew
      · exact h.root_first hold
      · exact (hmore "/" hnew).ne_root rfl

theorem Spelled.of_append (h : Spelled (steps ++ [step])) :
    Spelled steps ∧ (IsStep step ∨ steps = [] ∧ step = "/") := by
  have hinit : Spelled steps := by simpa using h.dropLast
  refine ⟨hinit, ?_⟩
  by_cases hroot : step = "/"
  · refine Or.inr ⟨?_, hroot⟩
    cases steps with
    | nil => rfl
    | cons first rest => exact absurd (by simp [hroot]) h.root_first
  · exact Or.inl (h.isStep step (by simp) hroot)

/-- Every step is between slashes if the path does not begin at the root of all paths. -/
theorem Spelled.isStep_of_head? (h : Spelled steps) (hroot : steps.head? ≠ some "/") :
    ∀ step ∈ steps, IsStep step := by
  intro step hstep
  refine h.isStep step hstep ?_
  rintro rfl
  cases steps with
  | nil => exact absurd hstep List.not_mem_nil
  | cons first rest =>
    rcases List.mem_cons.1 hstep with rfl | hlater
    · exact hroot rfl
    · exact h.root_first hlater

/-- The root of all paths has nothing before it. -/
theorem Spelled.eq_root (h : Spelled steps) (hlast : steps.getLast? = some "/") : steps = ["/"] := by
  obtain ⟨init, rfl⟩ := List.getLast?_eq_some_iff.1 hlast
  obtain ⟨-, hstep | ⟨rfl, -⟩⟩ := h.of_append
  · exact absurd rfl hstep.ne_root
  · rfl

/-! ## Reading and writing -/

theorem not_mem_of_mem_splitOn {c : Char} {cs piece : List Char} (h : piece ∈ cs.splitOn c) :
    c ∉ piece := by
  induction cs generalizing piece with
  | nil => simp_all
  | cons d cs ih =>
    rw [List.splitOn_cons_eq_if_modifyHead] at h
    by_cases hd : d = c
    · rw [if_pos (by simp [hd]), List.mem_cons] at h
      rcases h with rfl | hrest
      · exact List.not_mem_nil
      · exact ih hrest
    · rw [if_neg (by simp [hd])] at h
      cases hsplit : cs.splitOn c with
      | nil => simp [hsplit] at h
      | cons first rest =>
        rw [hsplit, List.modifyHead_cons, List.mem_cons] at h
        rcases h with rfl | hrest
        · have hfirst : c ∉ first := ih (by simp [hsplit])
          exact fun hmem => (List.mem_cons.1 hmem).elim (fun heq => hd heq.symm) hfirst
        · exact ih (by simp [hsplit, hrest])

theorem isStep_of_mem_split
    (h : step ∈ ((s.toList.splitOn '/').map String.ofList).filter fun p => p ≠ "" ∧ p ≠ ".") :
    IsStep step := by
  obtain ⟨hmem, hstep⟩ := List.mem_filter.1 h
  obtain ⟨cs, hcs, rfl⟩ := List.mem_map.1 hmem
  obtain ⟨hempty, hdot⟩ := of_decide_eq_true hstep
  refine ⟨hempty, hdot, ?_⟩
  rw [String.toList_ofList]
  exact not_mem_of_mem_splitOn hcs

theorem spelled_ofString (s : String) : Spelled (ofString s).steps := by
  unfold ofString
  dsimp only
  split
  · exact spelled_root_cons fun step => isStep_of_mem_split
  · exact spelled_of_isStep fun step => isStep_of_mem_split

/-- The pieces of the steps of a text are the steps. -/
theorem split_intercalate (h : ∀ step ∈ steps, IsStep step) :
    ((("/".intercalate steps).toList.splitOn '/').map String.ofList).filter
      (fun p => p ≠ "" ∧ p ≠ ".") = steps := by
  by_cases hsteps : steps = []
  · subst hsteps
    decide
  · have hpieces : ("/".intercalate steps).toList.splitOn '/' = steps.map String.toList := by
      rw [String.toList_intercalate]
      refine List.splitOn_intercalate '/' ?_ (by simpa using hsteps)
      intro piece hpiece
      obtain ⟨step, hstep, rfl⟩ := List.mem_map.1 hpiece
      exact (h step hstep).no_slash
    have hback : (steps.map String.toList).map String.ofList = steps := by simp
    rw [hpieces, hback, List.filter_eq_self]
    intro step hstep
    exact decide_eq_true ⟨(h step hstep).ne_empty, (h step hstep).ne_dot⟩

/-- The text of steps between slashes does not begin with a slash. -/
theorem head?_intercalate (h : ∀ step ∈ steps, IsStep step) :
    ("/".intercalate steps).toList.head? ≠ some '/' := by
  cases steps with
  | nil => decide
  | cons first rest =>
    have hfirst := h first (by simp)
    rw [String.toList_intercalate, List.map_cons]
    cases hchars : first.toList with
    | nil => exact absurd (String.toList_eq_nil_iff.1 hchars) hfirst.ne_empty
    | cons c cs =>
      have hc : c ≠ '/' := by
        rintro rfl
        exact hfirst.no_slash (by simp [hchars])
      cases rest with
      | nil => simpa using hc
      | cons second rest => simpa [List.intercalate_cons_cons] using hc

/-- A path is read again from its text. -/
theorem ofString_text {p : Path} (h : Spelled p.steps) : ofString p.text = p := by
  obtain ⟨steps⟩ := p
  unfold text
  split
  case h_1 heq =>
    obtain rfl : steps = [] := heq
    decide
  case h_2 rest heq =>
    obtain rfl : steps = "/" :: rest := heq
    have hrest : ∀ step ∈ rest, IsStep step := by
      intro step hstep
      refine h.isStep step (by simp [hstep]) ?_
      rintro rfl
      exact h.root_first hstep
    have hchars : ("/" ++ "/".intercalate rest).toList = '/' :: ("/".intercalate rest).toList := by
      rw [String.toList_append]
      rfl
    unfold ofString
    dsimp only
    rw [hchars, List.head?_cons, if_pos rfl, List.splitOn_cons_eq_if_modifyHead, if_pos (by simp),
      List.map_cons, List.filter_cons_of_neg (by simp), split_intercalate hrest]
  case h_3 hempty hroot =>
    have hsteps : ∀ step ∈ steps, IsStep step := by
      refine h.isStep_of_head? ?_
      intro hhead
      obtain ⟨rest, rfl⟩ := List.head?_eq_some_iff.1 hhead
      exact hroot rest rfl
    unfold ofString
    dsimp only
    rw [if_neg (head?_intercalate hsteps), split_intercalate hsteps]

/-! ## Resolving -/

theorem spelled_advance (h : Spelled steps) (hstep : IsStep step) : Spelled (advance steps step) := by
  have hmore : Spelled (steps ++ [step]) := h.append (by simpa using hstep)
  unfold advance
  split
  case isTrue hup =>
    subst hup
    split
    · exact spelled_of_isStep (by simpa using hstep)
    · exact hmore
    · exact h
    · exact h.dropLast
  case isFalse => exact hmore

theorem resolved_snoc (steps : List String) (step : String) :
    (Path.resolved ⟨steps ++ [step]⟩).steps = advance (Path.resolved ⟨steps⟩).steps step := by
  simp [resolved]

theorem Spelled.resolved {p : Path} (h : Spelled p.steps) : Spelled p.resolved.steps := by
  obtain ⟨steps⟩ := p
  induction steps using List.reverseRecOn with
  | nil => exact spelled_nil
  | append_singleton steps step ih =>
    rw [resolved_snoc]
    obtain ⟨hinit, hstep | ⟨rfl, rfl⟩⟩ := h.of_append
    · exact spelled_advance (ih hinit) hstep
    · exact spelled_root

end Path

namespace Tree

variable {t : Tree} {steps : List String} {step : String} {place : List String}

/-- A step down is taken back by a step up. -/
theorem stepFrom_up {here : List String} (h : step ≠ "..") (hroot : step ≠ "/") :
    stepFrom (stepFrom here step) ".." = here := by
  have hne : here ++ [step] ≠ ["/"] := by
    intro heq
    have hlast : here = [] ∧ step = "/" := by simpa [List.append_eq_singleton_iff] using heq
    exact hroot hlast.2
  rw [stepFrom_down here h, stepFrom, if_pos rfl, if_neg hne, List.dropLast_concat]

theorem locate_advance {middle : List String} (h : Path.Spelled steps)
    (hmiddle : t.locate ⟨steps⟩ = .ok middle) (hnode : t.node? middle = some .directory) :
    t.locate ⟨Path.advance steps step⟩ = .ok (stepFrom middle step) := by
  have hmore : t.locate ⟨steps ++ [step]⟩ = .ok (stepFrom middle step) :=
    locate_snoc_iff.2 ⟨middle, hmiddle, hnode, rfl⟩
  unfold Path.advance
  split
  case isTrue hup =>
    subst hup
    split
    case h_1 hlast =>
      obtain rfl := List.getLast?_eq_none_iff.1 hlast
      exact hmore
    case h_2 => exact hmore
    case h_3 hlast =>
      obtain rfl := h.eq_root hlast
      obtain rfl : ["/"] = middle := Except.ok.inj hmiddle
      exact hmiddle
    case h_4 last hup hroot hlast =>
      obtain ⟨init, rfl⟩ := List.getLast?_eq_some_iff.1 hlast
      obtain ⟨above, habove, -, rfl⟩ := locate_snoc_iff.1 hmiddle
      rw [List.dropLast_concat, stepFrom_up hup hroot]
      exact habove
  case isFalse => exact hmore

/-- **A resolved path leads where the path leads**, if it leads somewhere. -/
theorem locate_resolved {p : Path} (hp : Path.Spelled p.steps) (h : t.locate p = .ok place) :
    t.locate p.resolved = .ok place := by
  obtain ⟨steps⟩ := p
  -- Resolving goes from the first step to the last, so the induction takes the last step off: where
  -- the steps before it lead is a directory, and there one step more is resolved.
  induction steps using List.reverseRecOn generalizing place with
  | nil => exact h
  | append_singleton steps step ih =>
    obtain ⟨middle, hmiddle, hnode, rfl⟩ := locate_snoc_iff.1 h
    obtain ⟨hinit, -⟩ := hp.of_append
    have hresolved : Path.resolved ⟨steps ++ [step]⟩ =
        ⟨Path.advance (Path.resolved ⟨steps⟩).steps step⟩ :=
      congrArg Path.mk (Path.resolved_snoc steps step)
    rw [hresolved]
    exact locate_advance hinit.resolved (ih hinit hmiddle) hnode

end Tree

end Compendium
