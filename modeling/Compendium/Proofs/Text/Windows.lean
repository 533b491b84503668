import Compendium.Text.Ranges

/-!
# Windows of tables

The search for a code point passes over the entries below it and ends at the first entry beyond it
(`IsSearch`). So for the code points from `lo` to `hi` it gives the same in a table that has only the
entries of that window (`IsSearch.window_eq`), and there it is short.
-/

namespace Compendium.Text

variable {α β : Type} {first last : α → Nat} {search : List α → β} {lo hi n : Nat}

/-- The entries of an ascending table that reach into the window from `lo` to `hi`. -/
def window (first last : α → Nat) (lo hi : Nat) (table : List α) : List α :=
  table.foldr (fun entry rest =>
    bif (last entry).blt lo && (first entry).ble lo then rest
    else bif hi.blt (first entry) then [] else entry :: rest) []

/-- A search for `n` passes over what lies below it, ends at what lies beyond it, and depends on the
rest of the table only as far as it searches there. -/
structure IsSearch (first last : α → Nat) (n : Nat) (search : List α → β) : Prop where
  below : ∀ entry rest, first entry ≤ n → last entry < n → search (entry :: rest) = search rest
  beyond : ∀ entry rest, n < first entry → search (entry :: rest) = search []
  onward : ∀ entry rest rest', search rest = search rest' →
    search (entry :: rest) = search (entry :: rest')

/-- The search for a code point of the window can be made in the window. -/
theorem IsSearch.window_eq (h : IsSearch first last n search) (hlo : lo ≤ n) (hhi : n ≤ hi)
    (table : List α) : search (window first last lo hi table) = search table := by
  induction table with
  | nil => rfl
  | cons entry rest ih =>
    rw [window, List.foldr_cons]
    change search (bif _ then window first last lo hi rest else
      bif _ then [] else entry :: window first last lo hi rest) = _
    cases hbelow : (last entry).blt lo && (first entry).ble lo with
    | true =>
      rw [Bool.and_eq_true, Nat.blt_eq, Nat.ble_eq] at hbelow
      rw [cond_true, ih, h.below entry rest (by omega) (by omega)]
    | false =>
      rw [cond_false]
      cases hbeyond : hi.blt (first entry) with
      | true =>
        rw [Nat.blt_eq] at hbeyond
        rw [cond_true, h.beyond entry rest (by omega)]
      | false => exact h.onward entry _ _ ih

/-! ## The searches -/

theorem isSearch_inRanges (n : Nat) : IsSearch Prod.fst Prod.snd n (inRanges · n) where
  below range rest hfirst hlast := by
    simp only [inRanges, if_neg (Nat.not_lt.2 hfirst), decide_eq_false (Nat.not_le.2 hlast),
      Bool.false_or]
  beyond range rest hfirst := by simp only [inRanges, if_pos hfirst]
  onward range rest rest' h := by simp only [inRanges] at h ⊢; rw [h]

theorem isSearch_runImage? (n : Nat) : IsSearch Run.first Run.last n (runImage? · n) where
  below r rest hfirst hlast := by
    have hnone : r.image? n = none := by
      simp [Run.image?, Nat.not_le.2 hlast]
    simp only [runImage?, if_neg (Nat.not_lt.2 hfirst), hnone, Option.none_or]
  beyond r rest hfirst := by simp only [runImage?, if_pos hfirst]
  onward r rest rest' h := by simp only [runImage?] at h ⊢; rw [h]

theorem isSearch_blockImage? (n : Nat) : IsSearch Block.first Block.last n (blockImage? · n) where
  below b rest hfirst hlast := by
    simp only [blockImage?, if_neg (Nat.not_lt.2 hfirst), if_neg (Nat.not_le.2 hlast)]
  beyond b rest hfirst := by simp only [blockImage?, if_pos hfirst]
  onward b rest rest' h := by simp only [blockImage?] at h ⊢; rw [h]

/-- The block without what it lists below `lo`. -/
def Block.cut (b : Block) (lo : Nat) : Block :=
  bif b.first.blt lo then ⟨lo, b.last, b.images.drop (lo - b.first)⟩ else b

theorem blockImage?_map_cut (blocks : List Block) (hlo : lo ≤ n) :
    blockImage? (blocks.map (·.cut lo)) n = blockImage? blocks n := by
  induction blocks with
  | nil => rfl
  | cons b rest ih =>
    rw [List.map_cons, blockImage?, blockImage?, ih]
    unfold Block.cut
    cases hcut : b.first.blt lo with
    | true =>
      rw [Nat.blt_eq] at hcut
      have himage : (b.images.drop (lo - b.first))[n - lo]? = b.images[n - b.first]? := by
        rw [List.getElem?_drop]
        congr 1
        omega
      have hlater : ¬ n < b.first := by omega
      simp only [cond_true, himage, if_neg hlater, if_neg (Nat.not_lt.2 hlo)]
    | false => rw [cond_false]

/-- The entries of a list, which is searched to its end, that lie in the window. -/
theorem lookup_filter_window (entries : List (Nat × β)) (hlo : lo ≤ n) (hhi : n ≤ hi) :
    (entries.filter fun e => lo.ble e.1 && e.1.ble hi).lookup n = entries.lookup n := by
  induction entries with
  | nil => rfl
  | cons e rest ih =>
    obtain ⟨code, value⟩ := e
    rw [List.filter_cons]
    split
    · rw [List.lookup_cons, List.lookup_cons, ih]
    · rename_i hout
      have hne : (n == code) = false := by
        simp only [Bool.and_eq_true, Nat.ble_eq] at hout
        rw [beq_eq_false_iff_ne]
        rintro rfl
        exact hout ⟨hlo, hhi⟩
      rw [ih, List.lookup_cons, hne]

end Compendium.Text
