import Mathlib.Logic.Function.Basic
import Compendium.Proofs.Session.Frames

/-!
# Bookmarks that are changed at the same time

Calls that toggle a bookmark or remove all of them may be made at the same time. Each is done in steps:
it takes the lock, loads the bookmarks if it toggles one, writes them, and gives the lock back; only
the first step waits for anything. Whatever the order of the steps, what has been done is what the calls
do one after another in the order in which they took the lock, and at most one more is on its way
(`Serial`). Main theorem `run_serial`: once no call is on its way, the files, the answers and the notices
are those of the calls in turn. A run can go on until every call is done (`exists_step`).
-/

namespace Compendium.Interleaving

open Activity

/-! ## Calls -/

/-- A call that changes the bookmarks. -/
inductive Call where
  | toggle (key : Text)
  | clear
deriving DecidableEq, Repr

/-- What a call answers: the state of the key that is toggled, nothing if all are removed. -/
abbrev Answer := Except Failure (Option Bool)

namespace Call

def run : Call → Activity (Option Bool)
  | .toggle key => Session.toggleBookmark key >>= fun bookmarked => pure (some bookmarked)
  | .clear => Session.clearBookmarks >>= fun _ => pure none

variable {s after : Session} {key : Text} {notices : List Notice}

theorem run_toggle_of_error {f : Failure}
    (h : Session.loadBookmarks s = ⟨.error f, after, notices⟩) :
    (toggle key).run s = ⟨.error f, after, notices⟩ := by
  have htoggle : Session.toggleBookmark key s = ⟨.error f, after, notices⟩ := bind_eq_error h
  exact bind_eq_error htoggle

theorem run_toggle_of_loaded {b : Bookmarks}
    (h : Session.loadBookmarks s = ⟨.ok b, after, notices⟩) :
    (toggle key).run s =
      let saved := Session.saveBookmarks (b.toggle key) after
      ⟨saved.value.map fun _ => some ((b.toggle key).has key), saved.session,
        notices ++ saved.notices⟩ := by
  rw [run, bind_pure_eq, Session.toggleBookmark, bind_eq h, bind_pure_eq]
  cases hsaved : (Session.saveBookmarks (b.toggle key) after).value <;> simp [Except.map, hsaved]

theorem run_clear (s : Session) :
    clear.run s =
      let saved := Session.saveBookmarks .empty s
      ⟨saved.value.map fun _ => none, saved.session, saved.notices⟩ := by
  rw [run, bind_pure_eq, Session.clearBookmarks]

end Call

/-! ## Calls in turn -/

variable {ι : Type}

/-- What calls answered, and the session and the notices that they left. -/
structure Turns (ι : Type) where
  answers : List (ι × Answer)
  session : Session
  notices : List Notice

def Turns.next (calls : ι → Call) (t : Turns ι) (i : ι) : Turns ι :=
  let out := (calls i).run t.session
  ⟨t.answers ++ [(i, out.value)], out.session, t.notices ++ out.notices⟩

def inTurn (calls : ι → Call) (order : List ι) (s : Session) : Turns ι :=
  order.foldl (Turns.next calls) ⟨[], s, []⟩

theorem inTurn_concat (calls : ι → Call) (order : List ι) (i : ι) (s : Session) :
    inTurn calls (order ++ [i]) s = (inTurn calls order s).next calls i := by
  rw [inTurn, List.foldl_append]
  rfl

/-- Every call answers once. -/
theorem map_answers_inTurn (calls : ι → Call) (order : List ι) (s : Session) :
    (inTurn calls order s).answers.map Prod.fst = order := by
  have hfrom : ∀ t : Turns ι, (order.foldl (Turns.next calls) t).answers.map Prod.fst =
      t.answers.map Prod.fst ++ order := by
    induction order with
    | nil => simp
    | cons i rest ih =>
      intro t
      rw [List.foldl_cons, ih]
      simp [Turns.next]
  exact hfrom _

theorem exists_answer (calls : ι → Call) (s : Session) {order : List ι} {i : ι} (h : i ∈ order) :
    ∃ answer, (i, answer) ∈ (inTurn calls order s).answers := by
  rw [← map_answers_inTurn calls order s, List.mem_map] at h
  obtain ⟨⟨j, answer⟩, hmem, rfl⟩ := h
  exact ⟨answer, hmem⟩

theorem mem_of_answer {calls : ι → Call} {order : List ι} {s : Session} {x : ι × Answer}
    (h : x ∈ (inTurn calls order s).answers) : x.1 ∈ order := by
  rw [← map_answers_inTurn calls order s]
  exact List.mem_map_of_mem h

/-! ## Steps -/

/-- How far a call has come. -/
inductive Stage where
  | waiting
  | entered
  | loaded (b : Bookmarks)
  | leaving (answer : Answer)
  | finished (answer : Answer)

/-- The call has not taken the lock, or has given it back. -/
inductive Stage.Outside : Stage → Prop where
  | waiting : Outside .waiting
  | finished (answer : Answer) : Outside (.finished answer)

/-- The session that calls share, the notices so far, the call that has the lock, and how far each call
has come. -/
structure State (ι : Type) where
  session : Session
  notices : List Notice
  holder : Option ι
  stage : ι → Stage

def State.start (s : Session) : State ι := ⟨s, [], none, fun _ => .waiting⟩

/-- What a call does in one step. -/
inductive Action where
  | acquire
  | load
  | write
  | release
deriving DecidableEq, Repr

/-- A step of a call. -/
structure Event (ι : Type) where
  call : ι
  action : Action
deriving DecidableEq, Repr

/-- The calls that took the lock, in order. -/
def acquired (events : List (Event ι)) : List ι :=
  (events.filter fun e => e.action = .acquire).map Event.call

section
variable [DecidableEq ι]

/-- The state when a call has done something in the session, and how far it has come by that. -/
def State.after {α : Type} (σ : State ι) (i : ι) (out : Outcome α) (stage : Except Failure α → Stage) :
    State ι where
  session := out.session
  notices := σ.notices ++ out.notices
  holder := σ.holder
  stage := Function.update σ.stage i (stage out.value)

/-- How far a call comes by loading. A failure is the answer. -/
def Stage.ofLoaded : Except Failure Bookmarks → Stage
  | .ok b => .loaded b
  | .error f => .leaving (.error f)

/-- The steps of calls. Only taking the lock waits for anything; the other steps do not look at it. -/
inductive Step (calls : ι → Call) : State ι → Event ι → State ι → Prop where
  | acquire {σ : State ι} {i : ι} (hstage : σ.stage i = .waiting) (hfree : σ.holder = none) :
    Step calls σ ⟨i, .acquire⟩ { σ with holder := some i, stage := Function.update σ.stage i .entered }
  | load {σ : State ι} {i : ι} {key : Text} (hcall : calls i = .toggle key)
    (hstage : σ.stage i = .entered) :
    Step calls σ ⟨i, .load⟩ (σ.after i (Session.loadBookmarks σ.session) .ofLoaded)
  | writeToggled {σ : State ι} {i : ι} {key : Text} {b : Bookmarks} (hcall : calls i = .toggle key)
    (hstage : σ.stage i = .loaded b) :
    Step calls σ ⟨i, .write⟩ (σ.after i (Session.saveBookmarks (b.toggle key) σ.session)
      fun saved => .leaving (saved.map fun _ => some ((b.toggle key).has key)))
  | writeCleared {σ : State ι} {i : ι} (hcall : calls i = .clear) (hstage : σ.stage i = .entered) :
    Step calls σ ⟨i, .write⟩ (σ.after i (Session.saveBookmarks .empty σ.session)
      fun saved => .leaving (saved.map fun _ => none))
  | release {σ : State ι} {i : ι} {answer : Answer} (hstage : σ.stage i = .leaving answer) :
    Step calls σ ⟨i, .release⟩
      { σ with holder := none, stage := Function.update σ.stage i (.finished answer) }

/-- The states that calls come to from a session, by the steps that lead there. -/
inductive Run (calls : ι → Call) (s : Session) : List (Event ι) → State ι → Prop where
  | start : Run calls s [] (State.start s)
  | step {events : List (Event ι)} {σ σ' : State ι} {e : Event ι} (h : Run calls s events σ)
    (hstep : Step calls σ e σ') : Run calls s (events ++ [e]) σ'

end

/-! ## The invariant -/

/-- The call is on its way from what others left before it: its stage holds what the steps that it has
done gave. -/
def Partway (call : Call) (before : Turns ι) (session : Session) (notices : List Notice) :
    Stage → Prop
  | .entered => session = before.session ∧ notices = before.notices
  | .loaded b => ∃ key told, call = .toggle key ∧
      Session.loadBookmarks before.session = ⟨.ok b, session, told⟩ ∧ notices = before.notices ++ told
  | .leaving answer => ∃ told,
      call.run before.session = ⟨answer, session, told⟩ ∧ notices = before.notices ++ told
  | .waiting => False
  | .finished _ => False

theorem Partway.not_outside {call : Call} {before : Turns ι} {session : Session} {notices : List Notice}
    {stage : Stage} (h : Partway call before session notices stage) : ¬ stage.Outside := by
  rintro (_ | answer) <;> exact h

/-- The calls of `front` are done as if in turn; the one that has the lock is on its way, and no other
has begun. -/
structure Serial (calls : ι → Call) (s : Session) (front : List ι) (σ : State ι) : Prop where
  nodup : (front ++ σ.holder.toList).Nodup
  done : ∀ x ∈ (inTurn calls front s).answers, σ.stage x.1 = .finished x.2
  waiting : ∀ i ∉ front ++ σ.holder.toList, σ.stage i = .waiting
  between : σ.holder = none →
    σ.session = (inTurn calls front s).session ∧ σ.notices = (inTurn calls front s).notices
  inside : ∀ i, σ.holder = some i →
    Partway (calls i) (inTurn calls front s) σ.session σ.notices (σ.stage i)

namespace Serial

variable {calls : ι → Call} {s : Session} {front : List ι} {σ σ' : State ι} {i : ι}

theorem start (calls : ι → Call) (s : Session) : Serial calls s [] (State.start s) where
  nodup := List.nodup_nil
  done x hx := absurd hx (by simp [inTurn])
  waiting _ _ := rfl
  between _ := ⟨rfl, rfl⟩
  inside i hi := absurd hi (by simp [State.start])

theorem finished_of_mem (h : Serial calls s front σ) (hi : i ∈ front) :
    ∃ answer, σ.stage i = .finished answer := by
  obtain ⟨answer, hanswer⟩ := exists_answer calls s hi
  exact ⟨answer, h.done _ hanswer⟩

theorem not_mem_of_holder (h : Serial calls s front σ) (hi : σ.holder = some i) : i ∉ front := by
  have hnodup := h.nodup
  rw [hi, Option.toList_some, List.nodup_append] at hnodup
  exact fun hmem => hnodup.2.2 i hmem i (by simp) rfl

/-- Only the call that has the lock is on its way. -/
theorem partway {stage : Stage} (h : Serial calls s front σ) (hstage : σ.stage i = stage)
    (hinside : ¬ stage.Outside) : σ.holder = some i ∧
      Partway (calls i) (inTurn calls front s) σ.session σ.notices stage := by
  subst hstage
  have hholder : σ.holder = some i := by
    by_contra hother
    apply hinside
    by_cases hmem : i ∈ front
    · obtain ⟨answer, hanswer⟩ := h.finished_of_mem hmem
      rw [hanswer]
      exact .finished answer
    · rw [h.waiting i (by simp [hmem, hother])]
      exact .waiting
  exact ⟨hholder, h.inside i hholder⟩

/-! ## What steps keep -/

variable [DecidableEq ι]

theorem acquire (h : Serial calls s front σ) (hstage : σ.stage i = .waiting) (hfree : σ.holder = none) :
    Serial calls s front { σ with holder := some i, stage := Function.update σ.stage i .entered } := by
  have hi : i ∉ front := by
    intro hmem
    obtain ⟨answer, hanswer⟩ := h.finished_of_mem hmem
    rw [hstage] at hanswer
    exact absurd hanswer (by simp)
  have hnodup := h.nodup
  have hwaiting := h.waiting
  rw [hfree, Option.toList_none, List.append_nil] at hnodup hwaiting
  refine ⟨?_, ?_, ?_, ?_, ?_⟩
  · rw [Option.toList_some, List.nodup_append]
    refine ⟨hnodup, by simp, ?_⟩
    rintro j hj k hk rfl
    exact hi (List.mem_singleton.1 hk ▸ hj)
  · intro x hx
    have hne : x.1 ≠ i := fun he => hi (he ▸ mem_of_answer hx)
    exact (Function.update_of_ne hne _ _).trans (h.done x hx)
  · intro j hj
    simp only [Option.toList_some, List.mem_append, List.mem_singleton, not_or] at hj
    exact (Function.update_of_ne hj.2 _ _).trans (hwaiting j hj.1)
  · intro hnone
    exact absurd hnone (by simp)
  · intro j hj
    obtain rfl : i = j := Option.some.inj hj
    dsimp only
    rw [Function.update_self]
    exact h.between hfree

/-- The call that has the lock does one thing more. -/
theorem advance {α : Type} {out : Outcome α} {stage : Except Failure α → Stage}
    (h : Serial calls s front σ) (hi : σ.holder = some i)
    (hout : Partway (calls i) (inTurn calls front s) out.session (σ.notices ++ out.notices)
      (stage out.value)) : Serial calls s front (σ.after i out stage) := by
  refine ⟨h.nodup, ?_, ?_, ?_, ?_⟩
  · intro x hx
    have hne : x.1 ≠ i := fun he => h.not_mem_of_holder hi (he ▸ mem_of_answer hx)
    exact (Function.update_of_ne hne _ _).trans (h.done x hx)
  · intro j hj
    have hne : j ≠ i := by
      rintro rfl
      exact hj (by simp [State.after, hi])
    exact (Function.update_of_ne hne _ _).trans (h.waiting j hj)
  · intro hnone
    exact absurd (hi.symm.trans hnone) (by simp)
  · intro j hj
    obtain rfl : i = j := Option.some.inj (hi.symm.trans hj)
    dsimp only [State.after]
    rw [Function.update_self]
    exact hout

/-- The call that has the lock is done, and gives it back. -/
theorem release {answer : Answer} (h : Serial calls s front σ) (hstage : σ.stage i = .leaving answer) :
    Serial calls s (front ++ [i])
      { σ with holder := none, stage := Function.update σ.stage i (.finished answer) } := by
  obtain ⟨hi, told, hrun, hnotices⟩ := h.partway hstage (by rintro ⟨⟩)
  have hnodup := h.nodup
  have hwaiting := h.waiting
  rw [hi, Option.toList_some] at hnodup hwaiting
  refine ⟨by simpa using hnodup, ?_, ?_, ?_, ?_⟩
  · intro x hx
    rw [inTurn_concat, Turns.next, hrun, List.mem_append, List.mem_singleton] at hx
    rcases hx with hx | rfl
    · have hne : x.1 ≠ i := fun he => h.not_mem_of_holder hi (he ▸ mem_of_answer hx)
      exact (Function.update_of_ne hne _ _).trans (h.done x hx)
    · exact Function.update_self ..
  · intro j hj
    rw [Option.toList_none, List.append_nil] at hj
    have hne : j ≠ i := by
      rintro rfl
      exact hj (by simp)
    exact (Function.update_of_ne hne _ _).trans (hwaiting j hj)
  · intro _
    rw [inTurn_concat, Turns.next, hrun]
    exact ⟨rfl, hnotices⟩
  · intro j hj
    exact absurd hj (by simp)

/-- A step leaves the calls before it done, or adds the one that gives the lock back. -/
theorem step {e : Event ι} (h : Serial calls s front σ) (hstep : Step calls σ e σ') :
    ∃ front', front' ++ σ'.holder.toList = front ++ σ.holder.toList ++ acquired [e] ∧
      Serial calls s front' σ' := by
  -- no step but the first asks for the lock; that the call has it is read off its stage
  cases hstep with
  | acquire hstage hfree => exact ⟨front, by simp [hfree, acquired], h.acquire hstage hfree⟩
  | @load i key hcall hstage =>
    obtain ⟨hi, hsession, hnotices⟩ := h.partway hstage (by rintro ⟨⟩)
    refine ⟨front, by simp [State.after, acquired], h.advance hi ?_⟩
    rw [hsession, hnotices]
    rcases hload : Session.loadBookmarks (inTurn calls front s).session with ⟨f | b, after, told⟩
    · exact ⟨told, by rw [hcall]; exact Call.run_toggle_of_error hload, rfl⟩
    · exact ⟨key, told, hcall, hload, rfl⟩
  | @writeToggled i key b hcall hstage =>
    obtain ⟨hi, -, told, -, hload, hnotices⟩ := h.partway hstage (by rintro ⟨⟩)
    refine ⟨front, by simp [State.after, acquired], h.advance hi ?_⟩
    rw [hnotices, List.append_assoc]
    exact ⟨_, by rw [hcall, Call.run_toggle_of_loaded hload], rfl⟩
  | @writeCleared i hcall hstage =>
    obtain ⟨hi, hsession, hnotices⟩ := h.partway hstage (by rintro ⟨⟩)
    refine ⟨front, by simp [State.after, acquired], h.advance hi ?_⟩
    rw [hsession, hnotices]
    exact ⟨_, by rw [hcall, Call.run_clear], rfl⟩
  | @release i answer hstage =>
    obtain ⟨hi, -⟩ := h.partway hstage (by rintro ⟨⟩)
    exact ⟨front ++ [i], by simp [hi, acquired], h.release hstage⟩

end Serial

/-! ## Runs -/

section
variable [DecidableEq ι] {calls : ι → Call} {s : Session} {events : List (Event ι)} {σ : State ι}

/-- Whatever the order of the steps, the calls that took the lock are done in turn, but for the one that
has it. -/
theorem serial_of_run (h : Run calls s events σ) :
    ∃ front, front ++ σ.holder.toList = acquired events ∧ Serial calls s front σ := by
  induction h with
  | start => exact ⟨[], rfl, .start calls s⟩
  | step _ hstep ih =>
    obtain ⟨front, hfront, hserial⟩ := ih
    obtain ⟨front', hfront', hserial'⟩ := hserial.step hstep
    refine ⟨front', ?_, hserial'⟩
    rw [hfront', hfront]
    simp [acquired]

/-- A run can go on until every call is done. -/
theorem exists_step (h : Run calls s events σ)
    (hunfinished : ∃ i, ∀ answer, σ.stage i ≠ .finished answer) : ∃ e σ', Step calls σ e σ' := by
  obtain ⟨front, -, hserial⟩ := serial_of_run h
  cases hholder : σ.holder with
  | none =>
    obtain ⟨i, hi⟩ := hunfinished
    have hmem : i ∉ front := by
      intro hmem
      obtain ⟨answer, hanswer⟩ := hserial.finished_of_mem hmem
      exact hi answer hanswer
    exact ⟨_, _, .acquire (hserial.waiting i (by simp [hholder, hmem])) hholder⟩
  | some i =>
    have hinside := hserial.inside i hholder
    cases hstage : σ.stage i with
    | waiting =>
      rw [hstage] at hinside
      exact absurd .waiting hinside.not_outside
    | entered =>
      cases hcall : calls i with
      | toggle key => exact ⟨_, _, .load hcall hstage⟩
      | clear => exact ⟨_, _, .writeCleared hcall hstage⟩
    | loaded b =>
      rw [hstage] at hinside
      obtain ⟨key, told, hcall, -⟩ := hinside
      exact ⟨_, _, .writeToggled hcall hstage⟩
    | leaving answer => exact ⟨_, _, .release hstage⟩
    | finished answer =>
      rw [hstage] at hinside
      exact absurd (.finished answer) hinside.not_outside

/-- **Calls at the same time do what the calls in turn do, in the order in which they took the lock.**
Once no call is on its way, each call that was made took the lock once; the session and the notices are
those that the calls in turn leave, and each call has answered what it answers in its turn. -/
theorem run_serial (h : Run calls s events σ) (houtside : ∀ i, (σ.stage i).Outside) :
    (acquired events).Nodup ∧
      (∀ i, i ∈ acquired events ↔ ∃ answer, σ.stage i = .finished answer) ∧
      σ.session = (inTurn calls (acquired events) s).session ∧
      σ.notices = (inTurn calls (acquired events) s).notices ∧
      ∀ i answer, σ.stage i = .finished answer ↔
        (i, answer) ∈ (inTurn calls (acquired events) s).answers := by
  obtain ⟨front, hfront, hserial⟩ := serial_of_run h
  -- whoever has the lock is inside, so nobody has it and `front` is everything
  have hfree : σ.holder = none := by
    rw [Option.eq_none_iff_forall_ne_some]
    exact fun i hi => (hserial.inside i hi).not_outside (houtside i)
  have hnodup := hserial.nodup
  have hwaiting := hserial.waiting
  rw [hfree, Option.toList_none, List.append_nil] at hfront hnodup hwaiting
  subst hfront
  have hmem : ∀ i answer, σ.stage i = .finished answer → i ∈ acquired events := by
    intro i answer hanswer
    by_contra hother
    rw [hwaiting i hother] at hanswer
    exact absurd hanswer (by simp)
  obtain ⟨hsession, hnotices⟩ := hserial.between hfree
  refine ⟨hnodup, fun i => ⟨hserial.finished_of_mem, ?_⟩, hsession, hnotices, fun i answer => ?_⟩
  · rintro ⟨answer, hanswer⟩
    exact hmem i answer hanswer
  · constructor
    · intro hanswer
      obtain ⟨given, hgiven⟩ := exists_answer calls s (hmem i answer hanswer)
      have hsame := (hserial.done _ hgiven).symm.trans hanswer
      rwa [← Stage.finished.inj hsame]
    · exact hserial.done (i, answer)

/-- One call that toggles a bookmark, and one that removes all of them. -/
def toggleAndClear (i : Fin 2) : Call := if i = 0 then .toggle "spell:Light" else .clear

theorem run_serial_toggle_clear :
    ∃ σ, Run toggleAndClear .emptied [⟨0, .acquire⟩, ⟨0, .load⟩, ⟨0, .write⟩, ⟨0, .release⟩,
        ⟨1, .acquire⟩, ⟨1, .write⟩, ⟨1, .release⟩] σ ∧
      (∀ i, ∃ answer, σ.stage i = .finished answer) ∧
      σ.session = (inTurn toggleAndClear [0, 1] .emptied).session ∧
      σ.session.tree.at? (Bookmarks.file ⟨["data"]⟩) = some (.file (Text.Utf8.encode "[]".toList)) ∧
      ∀ i answer, σ.stage i = .finished answer ↔
        (i, answer) ∈ (inTurn toggleAndClear [0, 1] .emptied).answers := by
  have hstart : Run toggleAndClear .emptied [] (State.start .emptied) := .start
  have htoggled := hstart.step (.acquire (i := 0) rfl rfl) |>.step (.load (i := 0) rfl rfl)
    |>.step (.writeToggled (i := 0) (b := .empty) rfl rfl) |>.step (.release (i := 0) rfl)
  have hcleared := htoggled.step (.acquire (i := 1) rfl rfl) |>.step (.writeCleared (i := 1) rfl rfl)
    |>.step (.release (i := 1) rfl)
  obtain ⟨σ, hrun, houtside⟩ : ∃ σ, Run toggleAndClear .emptied [⟨0, .acquire⟩, ⟨0, .load⟩, ⟨0, .write⟩,
      ⟨0, .release⟩, ⟨1, .acquire⟩, ⟨1, .write⟩, ⟨1, .release⟩] σ ∧ ∀ i, (σ.stage i).Outside :=
    ⟨_, hcleared, fun i => match i with
      | 0 => .finished _
      | 1 => .finished _⟩
  obtain ⟨-, hfinished, hsession, -, hanswers⟩ := run_serial hrun houtside
  refine ⟨σ, hrun, fun i => (hfinished i).1 ?_, hsession, ?_, hanswers⟩
  · revert i
    decide
  · rw [hsession]
    decide +kernel

end

end Compendium.Interleaving
