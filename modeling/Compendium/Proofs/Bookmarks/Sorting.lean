import Compendium.Bookmarks
import Compendium.Json.Order
import Mathlib.Data.List.Nodup

/-!
# Sorting keys

Keys are sorted as any values are: a run is taken from the front, turned round if it goes down, and
the other keys are put into their places one by one. Main theorem `sort?_texts`: texts that are all
different always can be sorted, and come to the set of them in ascending order.
-/

namespace Compendium.Bookmarks

/-! ## A key put into its place -/

theorem less?_texts (a b : Text) : Json.less? (.str a) (.str b) = some (decide (a < b)) := by
  simp [Json.less?]

/-- A key that is less than one of the keys is put in front of that one. -/
theorem insertKey_of_lt {key : Text} {keys : List Text} {n : Nat} (hn : n < keys.length)
    (h : key < keys[n]) : insertKey key keys = insertKey key (keys.take n) ++ keys.drop n := by
  induction keys generalizing n with
  | nil => exact absurd hn (by simp)
  | cons k rest ih =>
    cases n with
    | zero =>
      have hfirst : key < k := h
      simp [insertKey, hfirst]
    | succ n =>
      have hrest := ih (Nat.lt_of_succ_lt_succ hn) h
      rw [insertKey, List.take_succ_cons, insertKey, List.drop_succ_cons, hrest]
      split
      · simp
      · split
        · simp
        · rfl

/-- A key that is greater than one of ascending keys is put behind that one. -/
theorem insertKey_of_gt {key : Text} {keys : List Text} {n : Nat}
    (hkeys : keys.Pairwise (· < ·)) (hn : n < keys.length) (h : keys[n] < key) :
    insertKey key keys = keys.take (n + 1) ++ insertKey key (keys.drop (n + 1)) := by
  induction keys generalizing n with
  | nil => exact absurd hn (by simp)
  | cons k rest ih =>
    rw [List.pairwise_cons] at hkeys
    have hfirst : k < key := by
      cases n with
      | zero => exact h
      | succ n => exact Text.lt_trans (hkeys.1 _ (List.getElem_mem (Nat.lt_of_succ_lt_succ hn))) h
    have hne : key ≠ k := fun he => Text.lt_irrefl k (he ▸ hfirst)
    rw [insertKey, if_neg (Text.lt_asymm hfirst), if_neg hne]
    cases n with
    | zero => rfl
    | succ n =>
      rw [ih hkeys.2 (Nat.lt_of_succ_lt_succ hn) h]
      rfl

/-- A new text is put among ascending texts as a new key is put among keys. -/
theorem insertSorted?_texts {key : Text} {keys : List Text} (hkeys : keys.Pairwise (· < ·))
    (h : key ∉ keys) :
    Json.insertSorted? (.str key) (keys.map .str) = some ((insertKey key keys).map .str) := by
  -- The induction is on the number of keys, because halving goes on in front or behind.
  induction hn : keys.length using Nat.strongRecOn generalizing keys with
  | ind n ih =>
    subst hn
    rw [Json.insertSorted?]
    simp only [List.length_map, List.getElem_map, less?_texts, ← List.map_take, ← List.map_drop]
    split
    · rename_i hmid
      have hne : key ≠ keys[keys.length / 2] := fun he => h (he ▸ List.getElem_mem hmid)
      by_cases hlt : key < keys[keys.length / 2]
      · have hshort : (keys.take (keys.length / 2)).length < keys.length := by
          rw [List.length_take]
          omega
        have hbelow := ih _ hshort (hkeys.sublist (List.take_sublist ..))
          (fun hm => h (List.mem_of_mem_take hm)) rfl
        simp only [hlt, decide_true, hbelow, Option.map_some, insertKey_of_lt hmid hlt, List.map_append]
      · have hshort : (keys.drop (keys.length / 2 + 1)).length < keys.length := by
          rw [List.length_drop]
          omega
        have habove := ih _ hshort (hkeys.sublist (List.drop_sublist ..))
          (fun hm => h (List.mem_of_mem_drop hm)) rfl
        simp only [hlt, decide_false, habove, Option.map_some,
          insertKey_of_gt hkeys hmid (Text.lt_of_not_lt hlt hne), List.map_append]
    · have hnil : keys = [] := List.length_eq_zero_iff.1 (by omega)
      simp [hnil, insertKey]

/-! ## The run in front -/

/-- The order of the texts of a run, of which the last is in front. -/
def Goes : Bool → Text → Text → Prop
  | true, a, b => a < b
  | false, a, b => b < a

theorem Goes.trans {down : Bool} {a b c : Text} (h : Goes down a b) (h' : Goes down b c) :
    Goes down a c := by
  cases down with
  | true => exact Text.lt_trans h h'
  | false => exact Text.lt_trans h' h

theorem goes_of_less {down : Bool} {v w : Text} (h : decide (v < w) = down) (hne : v ≠ w) :
    Goes down v w := by
  cases down with
  | true => exact (of_decide_eq_true h : v < w)
  | false => exact Text.lt_of_not_lt (of_decide_eq_false h) hne

/-- Texts that are all different come apart into a run and a rest. -/
theorem run?_texts {down : Bool} {taken rest : List Text} (h : (taken ++ rest).Nodup)
    (htaken : taken.Pairwise (Goes down)) :
    ∃ run left : List Text,
      Json.run? down (taken.map .str) (rest.map .str) = some (run.map .str, left.map .str) ∧
        run.Pairwise (Goes down) ∧ (run ++ left).Perm (taken ++ rest) := by
  induction rest generalizing taken with
  | nil => exact ⟨taken, [], by cases taken <;> rfl, htaken, .refl _⟩
  | cons v rest ih =>
    cases taken with
    | nil => exact ⟨[], v :: rest, rfl, htaken, .refl _⟩
    | cons w taken =>
      by_cases hgoes : decide (v < w) = down
      · have hperm : (v :: w :: taken ++ rest).Perm (w :: taken ++ v :: rest) := List.perm_middle.symm
        have hnodup := hperm.nodup_iff.2 h
        have hvw : Goes down v w := goes_of_less hgoes fun he => by simp [he] at hnodup
        have hlonger : (v :: w :: taken).Pairwise (Goes down) := by
          refine List.pairwise_cons.2 ⟨fun k hk => ?_, htaken⟩
          rcases List.mem_cons.1 hk with rfl | hk
          · exact hvw
          · exact hvw.trans ((List.pairwise_cons.1 htaken).1 k hk)
        obtain ⟨run, left, hrun, hpairwise, hall⟩ := ih hnodup hlonger
        refine ⟨run, left, ?_, hpairwise, hall.trans hperm⟩
        simp only [List.map_cons, Json.run?, less?_texts, hgoes, if_true]
        exact hrun
      · refine ⟨w :: taken, v :: rest, ?_, htaken, .refl _⟩
        simp only [List.map_cons, Json.run?, less?_texts, hgoes, if_false]

/-- The run in front of texts that are all different is ascending once it is turned round if it has to
be. -/
theorem firstRun?_texts {keys : List Text} (h : keys.Nodup) :
    ∃ run left : List Text,
      Json.firstRun? (keys.map .str) = some (run.map .str, left.map .str) ∧
        run.Pairwise (· < ·) ∧ (run ++ left).Perm keys := by
  match keys with
  | [] => exact ⟨[], [], rfl, .nil, .refl _⟩
  | [v] => exact ⟨[v], [], rfl, List.pairwise_singleton .., .refl _⟩
  | v :: w :: rest =>
    have hperm : (w :: v :: rest).Perm (v :: w :: rest) := .swap v w rest
    have hnodup : ([w, v] ++ rest).Nodup := hperm.nodup_iff.2 h
    have hpair : [w, v].Pairwise (Goes (decide (w < v))) := by
      have hne : w ≠ v := fun he => by simp [he] at hnodup
      simpa using goes_of_less rfl hne
    obtain ⟨run, left, hrun, hpairwise, hall⟩ := run?_texts hnodup hpair
    have hfirst : Json.firstRun? ((v :: w :: rest).map .str) =
        some (if w < v then run.map .str else (run.map .str).reverse, left.map .str) := by
      simp only [List.map_cons, List.map_nil] at hrun
      simp only [List.map_cons, Json.firstRun?, less?_texts, Option.bind_some, hrun, Option.map_some,
        decide_eq_true_eq]
    by_cases hdown : w < v
    · rw [if_pos hdown] at hfirst
      rw [decide_eq_true hdown] at hpairwise
      exact ⟨run, left, hfirst, hpairwise, hall.trans hperm⟩
    · rw [if_neg hdown, ← List.map_reverse] at hfirst
      rw [decide_eq_false hdown] at hpairwise
      exact ⟨run.reverse, left, hfirst, List.pairwise_reverse.2 hpairwise,
        (run.reverse_perm.append_right left).trans (hall.trans hperm)⟩

/-! ## All keys -/

/-- New texts are put among ascending texts one by one as new keys are put into a set. -/
theorem foldlM_insertSorted?_texts {keys : List Text} {b : Bookmarks} (h : (b.keys ++ keys).Nodup) :
    (keys.map Json.str).foldlM (fun sorted v => Json.insertSorted? v sorted) (b.keys.map .str) =
      some ((keys.foldl insert b).keys.map .str) := by
  induction keys generalizing b with
  | nil => simp
  | cons key rest ih =>
    obtain ⟨-, hkeys, hapart⟩ := List.nodup_append.1 h
    rw [List.nodup_cons] at hkeys
    have hnew : key ∉ b.keys := fun hm => hapart key hm key (List.mem_cons_self ..) rfl
    have hrest : ((b.insert key).keys ++ rest).Nodup := by
      refine List.nodup_append.2 ⟨(b.insert key).ascending.imp fun hlt he => ?_, hkeys.2, ?_⟩
      · exact Text.lt_irrefl _ (he ▸ hlt)
      · rintro k hk j hj rfl
        rcases mem_insert_iff.1 hk with rfl | hk
        · exact hkeys.1 hj
        · exact hapart k hk k (List.mem_cons_of_mem key hj) rfl
    rw [List.map_cons, List.foldlM_cons, insertSorted?_texts b.ascending hnew, List.foldl_cons]
    exact ih hrest

/-- **Texts that are all different are sorted as the set of them is kept.** -/
theorem sort?_texts {keys : List Text} (h : keys.Nodup) :
    Json.sort? (keys.map .str) = some ((ofList keys).keys.map .str) := by
  obtain ⟨run, left, hfirst, hrun, hall⟩ := firstRun?_texts h
  have hset : left.foldl insert ⟨run, hrun⟩ = ofList keys := ext fun k => by
    rw [mem_foldl_insert_iff, mem_ofList_iff, ← hall.mem_iff, List.mem_append]
  have hnodup : ((⟨run, hrun⟩ : Bookmarks).keys ++ left).Nodup := hall.nodup_iff.2 h
  rw [Json.sort?, hfirst, Option.bind_some, ← hset]
  exact foldlM_insertSorted?_texts hnodup

end Compendium.Bookmarks
