import Compendium.Proofs.Text.Trimming
import Compendium.Statblock.Basic

/-!
# Line feeds of a statblock

Collapsing counts the line feeds that stand in front and leaves out each one that would be the third
of a row. So no row of three is left (`three_not_infix_collapse`), a text without such a row stays as
it is (`collapse_of_no_three`), and a part without line feeds is not broken up
(`infix_collapse`). Main theorem `text_settled`: a statblock has no row of three line feeds and no
blanks at its ends, so that collapsing and trimming it once more changes nothing.
-/

namespace Compendium.Statblock

/-! ## Rows of line feeds -/

/-- With `run` line feeds in front, there is no row of three at the front of what collapsing leaves,
and none further on. -/
theorem feeds_collapseFrom (run : Nat) (cs : List Char) (hrun : run ≤ 2) :
    ¬ List.replicate (3 - run) '\n' <+: collapseFrom run cs ∧
      ¬ List.replicate 3 '\n' <:+: collapseFrom run cs := by
  fun_induction collapseFrom run cs with
  | case1 run => simp; omega
  | case2 run rest hlow ih =>
    obtain ⟨hfront, hinside⟩ := ih hlow
    -- the line feed that is kept counts for what comes after it
    have hcount : 3 - run = (3 - (run + 1)) + 1 := by omega
    have hfront' : ¬ List.replicate 2 '\n' <+: collapseFrom (run + 1) rest := by
      intro h
      have hfewer : List.replicate (3 - (run + 1)) '\n' <+: List.replicate 2 '\n' := by
        rw [List.prefix_replicate_iff, List.length_replicate]
        exact ⟨by omega, rfl⟩
      exact hfront (hfewer.trans h)
    constructor
    · rwa [hcount, List.replicate_succ, List.prefix_cons_inj]
    · rw [List.infix_cons_iff, List.replicate_succ, List.prefix_cons_inj]
      exact not_or.2 ⟨hfront', hinside⟩
  | case3 run rest hhigh ih => exact ih hrun
  | case4 run c rest hc ih =>
    obtain ⟨-, hinside⟩ := ih (Nat.zero_le 2)
    have hother : ∀ n, ¬ List.replicate (n + 1) '\n' <+: c :: collapseFrom 0 rest := by
      intro n h
      rw [List.replicate_succ, List.cons_prefix_cons] at h
      exact hc h.1.symm
    have hcount : 3 - run = (2 - run) + 1 := by omega
    constructor
    · rw [hcount]
      exact hother (2 - run)
    · rw [List.infix_cons_iff]
      exact not_or.2 ⟨hother 2, hinside⟩

/-- Collapsing leaves no row of three line feeds. -/
theorem three_not_infix_collapse (cs : List Char) :
    ¬ List.replicate 3 '\n' <:+: collapse cs :=
  (feeds_collapseFrom 0 cs (Nat.zero_le 2)).2

theorem collapseFrom_of_feeds {run : Nat} {cs : List Char} (hrun : run ≤ 2)
    (hfront : ¬ List.replicate (3 - run) '\n' <+: cs) (hinside : ¬ List.replicate 3 '\n' <:+: cs) :
    collapseFrom run cs = cs := by
  fun_induction collapseFrom run cs with
  | case1 run => rfl
  | case2 run rest hlow ih =>
    have hcount : 3 - run = (3 - (run + 1)) + 1 := by omega
    rw [hcount, List.replicate_succ, List.prefix_cons_inj] at hfront
    rw [List.infix_cons_iff, not_or] at hinside
    rw [ih hlow hfront hinside.2]
  | case3 run rest hhigh ih =>
    have hcount : 3 - run = 1 := by omega
    rw [hcount, List.replicate_one, List.cons_prefix_cons] at hfront
    exact absurd ⟨rfl, List.nil_prefix⟩ hfront
  | case4 run c rest hc ih =>
    rw [List.infix_cons_iff, not_or] at hinside
    rw [ih (Nat.zero_le 2) (fun h => hinside.2 h.isInfix) hinside.2]

/-- A text without a row of three line feeds stays as it is. -/
theorem collapse_of_no_three {cs : List Char} (h : ¬ List.replicate 3 '\n' <:+: cs) :
    collapse cs = cs :=
  collapseFrom_of_feeds (Nat.zero_le 2) (fun hprefix => h hprefix.isInfix) h

/-! ## Parts without line feeds -/

theorem collapseFrom_of_no_feed (run : Nat) {cs : List Char} (h : '\n' ∉ cs) :
    collapseFrom run cs = cs := by
  induction cs generalizing run with
  | nil => rfl
  | cons c rest ih =>
    rw [List.mem_cons, not_or] at h
    rw [collapseFrom, if_neg (Ne.symm h.1), ih 0 h.2]

/-- What is collapsed of a text and of what comes after it come one after the other. -/
theorem exists_collapseFrom_append (run : Nat) (a b : List Char) :
    ∃ run', collapseFrom run (a ++ b) = collapseFrom run a ++ collapseFrom run' b := by
  fun_induction collapseFrom run a with
  | case1 run => exact ⟨run, rfl⟩
  | case2 run rest hlow ih =>
    obtain ⟨run', ih⟩ := ih
    exact ⟨run', by rw [List.cons_append, collapseFrom, if_pos rfl, if_pos hlow, ih, List.cons_append]⟩
  | case3 run rest hhigh ih =>
    obtain ⟨run', ih⟩ := ih
    exact ⟨run', by rw [List.cons_append, collapseFrom, if_pos rfl, if_neg hhigh, ih]⟩
  | case4 run c rest hc ih =>
    obtain ⟨run', ih⟩ := ih
    exact ⟨run', by rw [List.cons_append, collapseFrom, if_neg hc, ih, List.cons_append]⟩

/-- A part without line feeds is there after collapsing if it was there before. -/
theorem infix_collapse {part cs : List Char} (hfeed : '\n' ∉ part) (h : part <:+: cs) :
    part <:+: collapse cs := by
  obtain ⟨before, after, rfl⟩ := h
  obtain ⟨run, hfront⟩ := exists_collapseFrom_append 0 before (part ++ after)
  obtain ⟨run', hback⟩ := exists_collapseFrom_append run part after
  refine ⟨collapse before, collapseFrom run' after, ?_⟩
  calc collapse before ++ part ++ collapseFrom run' after
      = collapse before ++ collapseFrom run (part ++ after) := by
        rw [hback, collapseFrom_of_no_feed run hfeed, List.append_assoc]
    _ = collapse (before ++ part ++ after) := by
        rw [List.append_assoc before, collapse, collapse, hfront]

/-! ## The text -/

/-- **A statblock is settled.** Whatever line feeds and blanks the fields of an entry hold, its
statblock has no row of three line feeds and neither begins nor ends with a blank; collapsing and
trimming it once more leaves it as it is. -/
theorem text_settled (e : Entry) :
    ¬ "\n\n\n".toList <:+: (text e).toList ∧ Text.Trimmed (text e).toList ∧
      Text.trimChars (collapse (text e).toList) = (text e).toList := by
  have htext : (text e).toList = Text.trimChars (collapse (laidOut e)) := String.toList_ofList
  have htrimmed : Text.Trimmed (text e).toList := by
    rw [htext]
    exact Text.trimmed_trimChars _
  have hfeeds : ¬ List.replicate 3 '\n' <:+: (text e).toList := by
    rw [htext]
    intro h
    exact three_not_infix_collapse _ (h.trans (Text.infix_of_trimChars _))
  refine ⟨hfeeds, htrimmed, ?_⟩
  rw [collapse_of_no_three hfeeds, Text.trimChars_of_trimmed htrimmed]

end Compendium.Statblock
