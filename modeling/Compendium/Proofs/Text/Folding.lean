import Compendium.Proofs.Text.Lowering
import Compendium.Proofs.Text.Windows
import Compendium.Text.Decomposition

/-!
# Folded base characters

What a text comes to when it is decomposed, its marks are taken out and the rest is folded. It is put
together character by character (`foldedBase_append`), and two facts about the tables say what a
character comes to: the same as its lower case (`foldedBase_lowerChar`), and nothing if it is a mark
(`foldedBase_mark`). To go through the tables for one character after another would take long, so
each run is looked up in windows of them (`FoldTables.window`).
-/

namespace Compendium.Text

/-- The base characters of a text, folded. -/
def foldedBase (cs : List Char) : List Char := foldChars (baseChars cs)

/-- What one character of a decomposition comes to. -/
def foldBaseChar (d : Char) : List Char := if isMark d then [] else foldChar d

theorem foldedBase_append (a b : List Char) :
    foldedBase (a ++ b) = foldedBase a ++ foldedBase b := by
  rw [foldedBase, baseChars_append, fold_append, foldedBase, foldedBase]

theorem foldedBase_eq_flatMap (cs : List Char) :
    foldedBase cs = (cs.flatMap decomposeChar).flatMap foldBaseChar := by
  unfold foldedBase baseChars
  induction cs.flatMap decomposeChar with
  | nil => rfl
  | cons d rest ih =>
    rw [List.flatMap_cons, ← ih, foldBaseChar, List.filter_cons]
    cases isMark d with
    | true => rfl
    | false => rfl

/-! ## Windows of the tables -/

/-- The tables that decomposing, taking out marks and folding read, or parts of them. -/
structure FoldTables where
  decompositions : List Run
  blocks : List Block
  marks : List (Nat × Nat)
  folds : List Run
  expansions : List (Nat × List Nat)

namespace FoldTables

/-- The tables as they are. -/
def whole : FoldTables :=
  ⟨decompositionRuns, decompositionBlocks, markRanges, foldRuns, foldExpansions⟩

/-- What the tables say about the code points from `lo` to `hi`. -/
def window (t : FoldTables) (lo hi : Nat) : FoldTables where
  decompositions := Text.window Run.first Run.last lo hi t.decompositions
  blocks := (Text.window Block.first Block.last lo hi t.blocks).map (·.cut lo)
  marks := Text.window Prod.fst Prod.snd lo hi t.marks
  folds := Text.window Run.first Run.last lo hi t.folds
  expansions := t.expansions.filter fun e => lo.ble e.1 && e.1.ble hi

/-- What a character decomposes into, by these tables. -/
def decompose (t : FoldTables) (c : Char) : List Char :=
  let n := c.toNat
  if n < 0xA0 then [c]
  else if 0xAC00 ≤ n ∧ n ≤ 0xD7A3 then hangulLetters n
  else
    match runImage? t.decompositions n with
    | some image => [Char.ofNat image]
    | none =>
      match blockImage? t.blocks n with
      | some codes => ofCodes codes
      | none => [c]

/-- What one character of a decomposition comes to, by these tables. -/
def foldBase (t : FoldTables) (d : Char) : List Char :=
  bif inRanges t.marks d.toNat then []
  else if d.toNat < 128 then [d.toLower] else imageOf t.folds t.expansions d

/-- What a character comes to, if these tables are those for `lo` to `hi`. What it decomposes into
may lie elsewhere. -/
def folded (t : FoldTables) (lo hi : Nat) (c : Char) : List Char :=
  (t.decompose c).flatMap fun d =>
    bif lo.ble d.toNat && d.toNat.ble hi then t.foldBase d
    else (whole.window d.toNat d.toNat).foldBase d

/-- The tables say what there is to say about the code points from `lo` to `hi`. -/
structure Covers (t : FoldTables) (lo hi : Nat) : Prop where
  decompose : ∀ c : Char, lo ≤ c.toNat → c.toNat ≤ hi → t.decompose c = decomposeChar c
  foldBase : ∀ d : Char, lo ≤ d.toNat → d.toNat ≤ hi → t.foldBase d = foldBaseChar d

variable {t : FoldTables} {lo hi lo' hi' : Nat} {c : Char}

theorem covers_whole (lo hi : Nat) : whole.Covers lo hi where
  decompose _ _ _ := rfl
  foldBase d _ _ := by
    rw [foldBaseChar, isMark, foldBase, whole]
    cases inRanges markRanges d.toNat with
    | true => rfl
    | false => rfl

theorem decompose_window (hlo : lo ≤ c.toNat) (hhi : c.toNat ≤ hi) :
    (t.window lo hi).decompose c = t.decompose c := by
  simp only [decompose, window]
  rw [(isSearch_runImage? c.toNat).window_eq hlo hhi, blockImage?_map_cut _ hlo,
    (isSearch_blockImage? c.toNat).window_eq hlo hhi]

theorem foldBase_window (hlo : lo ≤ c.toNat) (hhi : c.toNat ≤ hi) :
    (t.window lo hi).foldBase c = t.foldBase c := by
  simp only [foldBase, window, imageOf]
  rw [(isSearch_inRanges c.toNat).window_eq hlo hhi, (isSearch_runImage? c.toNat).window_eq hlo hhi,
    lookup_filter_window _ hlo hhi]

theorem Covers.window (h : t.Covers lo hi) (hlo : lo ≤ lo') (hhi : hi' ≤ hi) :
    (t.window lo' hi').Covers lo' hi' where
  decompose c hc hc' := by
    rw [decompose_window hc hc', h.decompose c (Nat.le_trans hlo hc) (Nat.le_trans hc' hhi)]
  foldBase d hd hd' := by
    rw [foldBase_window hd hd', h.foldBase d (Nat.le_trans hlo hd) (Nat.le_trans hd' hhi)]

theorem covers_window (lo hi : Nat) : (whole.window lo hi).Covers lo hi :=
  (covers_whole lo hi).window (Nat.le_refl lo) (Nat.le_refl hi)

theorem Covers.folded_eq (h : t.Covers lo hi) (hlo : lo ≤ c.toNat) (hhi : c.toNat ≤ hi) :
    t.folded lo hi c = foldedBase [c] := by
  rw [folded, h.decompose c hlo hhi, foldedBase_eq_flatMap, List.flatMap_singleton]
  congr 1
  funext d
  cases hin : lo.ble d.toNat && d.toNat.ble hi with
  | true =>
    rw [Bool.and_eq_true, Nat.ble_eq, Nat.ble_eq] at hin
    exact h.foldBase d hin.1 hin.2
  | false => exact (covers_window d.toNat d.toNat).foldBase d (Nat.le_refl _) (Nat.le_refl _)

end FoldTables

/-! ## Runs and ranges -/

namespace Run

def places (r : Run) : List Nat :=
  List.range' r.first ((r.last - r.first) / r.step + 1) r.step

/-- The run and its images lie in the zone. -/
def liesIn (r : Run) (zone : Nat × Nat) : Bool :=
  (zone.1.ble r.first && r.last.ble zone.2) && (zone.1.ble r.image && r.lastImage.ble zone.2)

/-- Each code point that the run covers comes to the same as its image. -/
def keepsFold (r : Run) (t : FoldTables) : Bool :=
  r.places.all fun n =>
    (t.window r.first r.last).folded r.first r.last (Char.ofNat n) ==
      (t.window r.image r.lastImage).folded r.image r.lastImage
        (Char.ofNat (r.image + (n - r.first)))

variable {r : Run} {n m : Nat}

theorem mem_places (h : r.image? n = some m) : n ∈ r.places := by
  obtain ⟨hfirst, hlast, hstep, -⟩ := image?_eq_some_iff.1 h
  rw [places, List.mem_range']
  refine ⟨(n - r.first) / r.step, ?_, ?_⟩
  · exact Nat.lt_succ_of_le (Nat.div_le_div_right (by omega))
  · have hdiv := Nat.div_add_mod (n - r.first) r.step
    omega

theorem foldedBase_of_keepsFold {zone : Nat × Nat} (h : r.image? n = some m)
    (hn : n.isValidChar) (hm : m.isValidChar) (hzone : r.liesIn zone = true)
    (hkeeps : r.keepsFold (FoldTables.whole.window zone.1 zone.2) = true) :
    foldedBase [Char.ofNat m] = foldedBase [Char.ofNat n] := by
  simp only [liesIn, Bool.and_eq_true, Nat.ble_eq] at hzone
  obtain ⟨⟨hfirst, hlast⟩, himage, hlastImage⟩ := hzone
  obtain ⟨hlo, hhi, -, hvalue⟩ := image?_eq_some_iff.1 h
  have hhi' : m ≤ r.lastImage := by
    rw [hvalue, lastImage]
    omega
  have hcovers := FoldTables.covers_window zone.1 zone.2
  have hn' := toNat_ofNat hn
  have hm' := toNat_ofNat hm
  have hplace := List.all_eq_true.1 hkeeps n (mem_places h)
  rw [beq_iff_eq, ← hvalue] at hplace
  -- the place lies in the window of the run and its image in that of the images
  rw [(hcovers.window hfirst hlast).folded_eq (by omega) (by omega),
    (hcovers.window himage hlastImage).folded_eq (by omega) (by omega)] at hplace
  exact hplace.symm

end Run

/-- Zones of the code space. To cut the tables down to a zone once keeps the check of its runs
short; the last zone is the whole of it, for the runs that lead far. -/
def foldZones : List (Nat × Nat) :=
  [(0x41, 0x17E), (0x180, 0x292), (0x370, 0x3FF), (0x3FD, 0x586), (0x1E00, 0x1EFF),
    (0x1F00, 0x1FFF), (0x2100, 0x24FF), (0x2C00, 0x2D2D), (0xA640, 0xA7FF), (0xFF21, 0x1E943),
    (0, 0x10FFFF)]

theorem lowerRuns_keepFold :
    (lowerRuns.all fun r => foldZones.any fun zone =>
      r.liesIn zone && r.keepsFold (FoldTables.whole.window zone.1 zone.2)) = true := by
  decide +kernel

/-- Lowering by the table changes nothing. -/
theorem foldedBase_of_runImage? {n m : Nat} (h : runImage? lowerRuns n = some m)
    (hn : n.isValidChar) (hm : m.isValidChar) :
    foldedBase [Char.ofNat m] = foldedBase [Char.ofNat n] := by
  obtain ⟨r, hr, himage⟩ := exists_of_runImage? h
  obtain ⟨zone, -, hzone⟩ := List.any_eq_true.1 (List.all_eq_true.1 lowerRuns_keepFold r hr)
  rw [Bool.and_eq_true] at hzone
  exact Run.foldedBase_of_keepsFold himage hn hm hzone.1 hzone.2

theorem markRanges_vanish :
    (markRanges.all fun range => (List.range' range.1 (range.2 - range.1 + 1)).all fun n =>
      ((FoldTables.whole.window range.1 range.2).folded range.1 range.2 (Char.ofNat n)).isEmpty) =
        true := by
  decide +kernel

/-! ## Characters -/

/-- A mark leaves nothing. -/
theorem foldedBase_mark {c : Char} (h : isMark c = true) : foldedBase [c] = [] := by
  obtain ⟨range, hrange, hlo, hhi⟩ := exists_of_inRanges h
  have hplaces : c.toNat ∈ List.range' range.1 (range.2 - range.1 + 1) := by
    rw [List.mem_range']
    exact ⟨c.toNat - range.1, by omega, by omega⟩
  have hnothing := List.all_eq_true.1 (List.all_eq_true.1 markRanges_vanish range hrange) _ hplaces
  rw [List.isEmpty_iff, Char.ofNat_toNat,
    (FoldTables.covers_window range.1 range.2).folded_eq hlo hhi] at hnothing
  exact hnothing

/-- A character comes to the same as its lower case. -/
theorem foldedBase_lowerChar (c : Char) : foldedBase (lowerChar c) = foldedBase [c] := by
  by_cases hc : c.toNat < 128
  · rw [lowerChar_ascii hc]
    have hall : ∀ c : Char, c.toNat < 128 → foldedBase [c.toLower] = foldedBase [c] :=
      forall_ascii (by decide +kernel)
    exact hall c hc
  · rcases lowerChar_cases hc with ⟨m, hm, heq⟩ | ⟨rfl, heq⟩ | ⟨-, -, heq⟩
    · have himage := lowerImage_of_runImage? hm hc
      rw [heq, foldedBase_of_runImage? hm c.valid himage.isValid, Char.ofNat_toNat]
    · rw [heq]
      decide +kernel
    · rw [heq]

theorem foldedBase_of_lowers {c : Char} {image : List Char} (h : Lowers c image) :
    foldedBase image = foldedBase [c] := by
  rcases h with rfl | ⟨rfl, rfl⟩
  · exact foldedBase_lowerChar c
  · decide +kernel

/-! ## Texts -/

theorem foldedBase_lowerAfter (before cs : List Char) :
    foldedBase (lowerAfter before cs) = foldedBase cs := by
  induction cs generalizing before with
  | nil => rfl
  | cons c rest ih =>
    -- the form of a sigma hangs on its neighbours, but both forms fold to the same
    obtain ⟨image, himage, hcons⟩ := lowerAfter_cons before c rest
    rw [hcons, foldedBase_append, foldedBase_of_lowers himage, ih, ← foldedBase_append,
      List.singleton_append]

/-- A text comes to the same as its lower case. -/
theorem foldedBase_lowerChars (cs : List Char) : foldedBase (lowerChars cs) = foldedBase cs :=
  foldedBase_lowerAfter [] cs

/-- A mark put into a text leaves what it comes to. -/
theorem foldedBase_insert {m : Char} (hm : isMark m = true) (before after : List Char) :
    foldedBase (before ++ m :: after) = foldedBase (before ++ after) := by
  rw [foldedBase_append, ← List.singleton_append, foldedBase_append, foldedBase_mark hm,
    List.nil_append, ← foldedBase_append]

end Compendium.Text
