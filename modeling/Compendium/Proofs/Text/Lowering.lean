import Compendium.Proofs.Text.Trimming
import Compendium.Text.Case

/-!
# Lower case of a lower case

Where a run of the lower-case table leads no run starts from, so what lowering gives is its own
lower case (`lowerChars_lowerChars`). No character becomes a blank, and two characters outside ASCII
become letters in it: the Kelvin sign becomes `k`, and the capital I with a dot above becomes `i`
with a combining dot (`ascii_of_mem_lowerChar`).
-/

namespace Compendium.Text

/-! ## Runs -/

namespace Run

/-- The image of the last code point. -/
def lastImage (r : Run) : Nat := r.image + (r.last - r.first)

/-- The images of the run lie outside the range. -/
def avoids (r : Run) (range : Nat × Nat) : Bool :=
  r.lastImage.blt range.1 || range.2.blt r.image

/-- The run leads nowhere that the other starts from: the two lie apart, or the other goes by twos
and the images fall between its places. -/
def misses (r q : Run) : Bool :=
  r.avoids (q.first, q.last) ||
    ((r.step.beq 2 || r.first.beq r.last) && q.step.beq 2 && ((r.image + q.first) % 2).beq 1)

variable {r q : Run} {n m : Nat}

theorem image?_eq_some_iff :
    r.image? n = some m ↔
      r.first ≤ n ∧ n ≤ r.last ∧ (n - r.first) % r.step = 0 ∧ m = r.image + (n - r.first) := by
  unfold image?
  by_cases h : (decide (r.first ≤ n) && decide (n ≤ r.last) && (n - r.first) % r.step == 0) = true
  · rw [if_pos h, Option.some.injEq]
    simp only [Bool.and_eq_true, decide_eq_true_eq, beq_iff_eq] at h
    constructor
    · rintro rfl
      exact ⟨h.1.1, h.1.2, h.2, rfl⟩
    · rintro ⟨-, -, -, rfl⟩
      rfl
  · rw [if_neg h]
    simp only [Bool.and_eq_true, decide_eq_true_eq, beq_iff_eq] at h
    constructor
    · intro hnone
      simp at hnone
    · rintro ⟨hfirst, hlast, hstep, -⟩
      exact absurd ⟨⟨hfirst, hlast⟩, hstep⟩ h

theorem not_mem_of_avoids (h : r.image? n = some m) {range : Nat × Nat}
    (havoids : r.avoids range = true) : ¬ (range.1 ≤ m ∧ m ≤ range.2) := by
  obtain ⟨hfirst, hlast, -, rfl⟩ := image?_eq_some_iff.1 h
  simp only [avoids, lastImage, Bool.or_eq_true, Nat.blt_eq] at havoids
  omega

theorem image?_eq_none_of_misses (h : r.image? n = some m) (hmisses : r.misses q = true) :
    q.image? m = none := by
  rw [Option.eq_none_iff_forall_ne_some]
  intro k hk
  obtain ⟨hqfirst, hqlast, hqstep, -⟩ := image?_eq_some_iff.1 hk
  simp only [misses, Bool.or_eq_true, Bool.and_eq_true, Nat.beq_eq] at hmisses
  rcases hmisses with havoids | ⟨⟨heven, htwo⟩, hodd⟩
  · exact not_mem_of_avoids h havoids ⟨hqfirst, hqlast⟩
  · obtain ⟨hfirst, hlast, hstep, rfl⟩ := image?_eq_some_iff.1 h
    rw [htwo] at hqstep
    -- the images of the run are all as odd as its first one
    have hparity : (n - r.first) % 2 = 0 := by
      rcases heven with heven | hsingle
      · rwa [heven] at hstep
      · omega
    omega

end Run

theorem exists_of_runImage? {runs : List Run} {n m : Nat} (h : runImage? runs n = some m) :
    ∃ r ∈ runs, r.image? n = some m := by
  induction runs with
  | nil => simp [runImage?] at h
  | cons r rest ih =>
    rw [runImage?] at h
    split at h
    · simp at h
    · rw [Option.or_eq_some_iff] at h
      rcases h with h | ⟨-, h⟩
      · exact ⟨r, by simp, h⟩
      · obtain ⟨q, hq, hm⟩ := ih h
        exact ⟨q, by simp [hq], hm⟩

theorem runImage?_eq_none {runs : List Run} {n : Nat} (h : ∀ r ∈ runs, r.image? n = none) :
    runImage? runs n = none := by
  rw [Option.eq_none_iff_forall_ne_some]
  intro m hm
  obtain ⟨r, hr, hm⟩ := exists_of_runImage? hm
  rw [h r hr] at hm
  simp at hm

theorem exists_of_inRanges {ranges : List (Nat × Nat)} {n : Nat} (h : inRanges ranges n = true) :
    ∃ range ∈ ranges, range.1 ≤ n ∧ n ≤ range.2 := by
  induction ranges with
  | nil => simp [inRanges] at h
  | cons range rest ih =>
    rw [inRanges] at h
    split at h
    · simp at h
    · rename_i hlow
      rw [Bool.or_eq_true, decide_eq_true_eq] at h
      rcases h with h | h
      · exact ⟨range, by simp, Nat.not_lt.1 hlow, h⟩
      · obtain ⟨other, hother, hn⟩ := ih h
        exact ⟨other, by simp [hother], hn⟩

/-! ## The table -/

theorem lowerRuns_miss : (lowerRuns.all fun r => lowerRuns.all r.misses) = true := by
  decide +kernel

/-- What no image of a lower-case run is: no character at all, the one character with several
lower-case characters, or a blank. -/
def neverImages : List (Nat × Nat) :=
  (0xD800, 0xDFFF) :: (0x110000, 0x1FFFFF) :: (0x130, 0x130) :: blankRanges

theorem lowerRuns_avoid :
    (lowerRuns.all fun r => r.lastImage.blt 0x200000 && neverImages.all r.avoids) = true := by
  decide +kernel

/-- Two runs lead into ASCII: that of its own capitals, and that of the Kelvin sign. -/
theorem lowerRuns_ascii :
    (lowerRuns.all fun r => r.last.blt 128 || r.avoids (0, 127) ||
      (r.first.beq 0x212A && r.last.beq 0x212A && r.image.beq 0x6B)) = true := by
  decide +kernel

/-- What the table says about an image of a character outside ASCII. -/
structure LowerImage (n m : Nat) : Prop where
  isValid : m.isValidChar
  settled : runImage? lowerRuns m = none
  single : m ≠ 0x130
  clear : inRanges blankRanges m = false
  ascii : m < 128 → n = 0x212A ∧ m = 0x6B

theorem lowerImage_of_runImage? {n m : Nat} (h : runImage? lowerRuns n = some m) (hn : ¬ n < 128) :
    LowerImage n m := by
  obtain ⟨r, hr, hm⟩ := exists_of_runImage? h
  have hmiss := List.all_eq_true.1 (List.all_eq_true.1 lowerRuns_miss r hr)
  have havoid := List.all_eq_true.1 lowerRuns_avoid r hr
  rw [Bool.and_eq_true, Nat.blt_eq, List.all_eq_true] at havoid
  obtain ⟨hbound, havoid⟩ := havoid
  have hnever : ∀ range ∈ neverImages, ¬ (range.1 ≤ m ∧ m ≤ range.2) := by
    intro range hrange
    exact Run.not_mem_of_avoids hm (havoid range hrange)
  obtain ⟨hfirst, hlast, -, hvalue⟩ := Run.image?_eq_some_iff.1 hm
  constructor
  · have hsurrogates := hnever (0xD800, 0xDFFF) (by simp [neverImages])
    have hbeyond := hnever (0x110000, 0x1FFFFF) (by simp [neverImages])
    simp only [Run.lastImage] at hbound
    simp only [Nat.isValidChar]
    omega
  · exact runImage?_eq_none fun q hq => Run.image?_eq_none_of_misses hm (hmiss q hq)
  · have hsingle := hnever (0x130, 0x130) (by simp [neverImages])
    omega
  · rw [Bool.eq_false_iff]
    intro hblank
    obtain ⟨range, hrange, hbounds⟩ := exists_of_inRanges hblank
    exact hnever range (by simp [neverImages, hrange]) hbounds
  · intro hascii
    have hkelvin := List.all_eq_true.1 lowerRuns_ascii r hr
    simp only [Bool.or_eq_true, Bool.and_eq_true, Nat.blt_eq, Nat.beq_eq] at hkelvin
    rcases hkelvin with (hown | houtside) | ⟨⟨hone, hone'⟩, himage⟩
    · omega
    · exact absurd ⟨Nat.zero_le m, Nat.le_of_lt_succ hascii⟩ (Run.not_mem_of_avoids hm houtside)
    · omega

/-! ## One character -/

theorem forall_ascii {P : Char → Prop} (h : ∀ n < 128, P (Char.ofNat n)) :
    ∀ c : Char, c.toNat < 128 → P c := by
  intro c hc
  rw [← Char.ofNat_toNat c]
  exact h _ hc

theorem toNat_ofNat {n : Nat} (h : n.isValidChar) : (Char.ofNat n).toNat = n := by
  rw [Char.ofNat, dif_pos h]
  rfl

theorem lowerChar_ascii {c : Char} (hc : c.toNat < 128) : lowerChar c = [c.toLower] := if_pos hc

/-- The lower case of a character outside ASCII. -/
theorem lowerChar_cases {c : Char} (hc : ¬ c.toNat < 128) :
    (∃ m, runImage? lowerRuns c.toNat = some m ∧ lowerChar c = [Char.ofNat m]) ∨
      (c = '\u0130' ∧ lowerChar c = ['i', '\u0307']) ∨
      (runImage? lowerRuns c.toNat = none ∧ c ≠ '\u0130' ∧ lowerChar c = [c]) := by
  have himage : lowerChar c = imageOf lowerRuns lowerExpansions c := if_neg hc
  rw [himage]
  unfold imageOf
  cases hrun : runImage? lowerRuns c.toNat with
  | some m => exact Or.inl ⟨m, rfl, rfl⟩
  | none =>
    by_cases hdotted : c = '\u0130'
    · subst hdotted
      exact Or.inr (Or.inl ⟨rfl, rfl⟩)
    · have hne : (c.toNat == 0x130) = false := by
        rw [beq_eq_false_iff_ne]
        intro hcode
        apply hdotted
        rw [← Char.ofNat_toNat c, hcode]
      refine Or.inr (Or.inr ⟨rfl, hdotted, ?_⟩)
      simp only [lowerExpansions, List.lookup_cons, hne, List.lookup_nil]

/-- The character is its own lower case, wherever it stands. -/
structure IsLowered (c : Char) : Prop where
  lowerChar_eq : lowerChar c = [c]
  ne_sigma : c ≠ 'Σ'

theorem isLowered_of_not_run {c : Char} (hc : ¬ c.toNat < 128)
    (hrun : runImage? lowerRuns c.toNat = none) (hdotted : c ≠ '\u0130') : IsLowered c := by
  constructor
  · rcases lowerChar_cases hc with ⟨m, hm, -⟩ | ⟨rfl, -⟩ | ⟨-, -, heq⟩
    · simp [hrun] at hm
    · exact absurd rfl hdotted
    · exact heq
  · rintro rfl
    exact absurd hrun (by decide)

theorem isLowered_of_mem_lowerChar {c d : Char} (h : d ∈ lowerChar c) : IsLowered d := by
  by_cases hc : c.toNat < 128
  · rw [lowerChar_ascii hc, List.mem_singleton] at h
    subst h
    have hall : ∀ c : Char, c.toNat < 128 → lowerChar c.toLower = [c.toLower] ∧ c.toLower ≠ 'Σ' :=
      forall_ascii (by decide)
    exact ⟨(hall c hc).1, (hall c hc).2⟩
  · rcases lowerChar_cases hc with ⟨m, hm, heq⟩ | ⟨-, heq⟩ | ⟨hrun, hdotted, heq⟩
    · rw [heq, List.mem_singleton] at h
      have himage := lowerImage_of_runImage? hm hc
      have hcode : d.toNat = m := by
        rw [h, toNat_ofNat himage.isValid]
      by_cases hm128 : m < 128
      · obtain ⟨-, hk⟩ := himage.ascii hm128
        rw [h, hk]
        exact ⟨by decide, by decide⟩
      · apply isLowered_of_not_run
        · rwa [hcode]
        · rw [hcode]
          exact himage.settled
        · rintro rfl
          exact himage.single hcode.symm
    · rw [heq] at h
      simp only [List.mem_cons, List.not_mem_nil, or_false] at h
      rcases h with rfl | rfl
      · exact ⟨by decide, by decide⟩
      · exact ⟨by decide, by decide⟩
    · rw [heq, List.mem_singleton] at h
      subst h
      exact isLowered_of_not_run hc hrun hdotted

theorem lowerChar_ne_nil (c : Char) : lowerChar c ≠ [] := by
  by_cases hc : c.toNat < 128
  · simp [lowerChar_ascii hc]
  · rcases lowerChar_cases hc with ⟨m, -, heq⟩ | ⟨-, heq⟩ | ⟨-, -, heq⟩ <;> simp [heq]

/-- Only a blank becomes a blank. -/
theorem eq_of_blank_of_mem_lowerChar {c d : Char} (h : d ∈ lowerChar c) (hd : isBlank d = true) :
    d = c := by
  by_cases hc : c.toNat < 128
  · rw [lowerChar_ascii hc, List.mem_singleton] at h
    subst h
    have hall : ∀ c : Char, c.toNat < 128 → isBlank c.toLower = true → c.toLower = c :=
      forall_ascii (by decide)
    exact hall c hc hd
  · rcases lowerChar_cases hc with ⟨m, hm, heq⟩ | ⟨-, heq⟩ | ⟨-, -, heq⟩
    · rw [heq, List.mem_singleton] at h
      have himage := lowerImage_of_runImage? hm hc
      rw [isBlank, h, toNat_ofNat himage.isValid, himage.clear] at hd
      simp at hd
    · rw [heq] at h
      simp only [List.mem_cons, List.not_mem_nil, or_false] at h
      rcases h with rfl | rfl
      · exact absurd hd (by decide)
      · exact absurd hd (by decide)
    · rwa [heq, List.mem_singleton] at h

/-- What becomes a character of ASCII. -/
theorem ascii_of_mem_lowerChar {c d : Char} (h : d ∈ lowerChar c) (hd : d.toNat < 128) :
    (c.toNat < 128 ∧ d = c.toLower) ∨ (c = '\u212A' ∧ d = 'k') ∨ (c = '\u0130' ∧ d = 'i') := by
  by_cases hc : c.toNat < 128
  · rw [lowerChar_ascii hc, List.mem_singleton] at h
    exact Or.inl ⟨hc, h⟩
  · rcases lowerChar_cases hc with ⟨m, hm, heq⟩ | ⟨hdotted, heq⟩ | ⟨-, -, heq⟩
    · rw [heq, List.mem_singleton] at h
      have himage := lowerImage_of_runImage? hm hc
      rw [h, toNat_ofNat himage.isValid] at hd
      obtain ⟨hkelvin, hk⟩ := himage.ascii hd
      refine Or.inr (Or.inl ⟨?_, ?_⟩)
      · rw [← Char.ofNat_toNat c, hkelvin]
      · rw [h, hk]
    · rw [heq] at h
      simp only [List.mem_cons, List.not_mem_nil, or_false] at h
      rcases h with rfl | rfl
      · exact Or.inr (Or.inr ⟨hdotted, rfl⟩)
      · exact absurd hd (by decide)
    · rw [heq, List.mem_singleton] at h
      exact absurd (h ▸ hd) hc

/-! ## Texts -/

/-- The second is what the character becomes somewhere in a text. -/
def Lowers (c : Char) (image : List Char) : Prop :=
  image = lowerChar c ∨ (c = 'Σ' ∧ image = ['ς'])

theorem lowerAfter_cons (before : List Char) (c : Char) (rest : List Char) :
    ∃ image, Lowers c image ∧
      lowerAfter before (c :: rest) = image ++ lowerAfter (c :: before) rest := by
  refine ⟨_, ?_, rfl⟩
  by_cases hc : c = 'Σ'
  · subst hc
    rw [if_pos rfl]
    split
    · exact Or.inr ⟨rfl, rfl⟩
    · exact Or.inl (by decide)
  · rw [if_neg hc]
    exact Or.inl rfl

namespace Lowers

variable {c d : Char} {image : List Char}

theorem ne_nil (h : Lowers c image) : image ≠ [] := by
  rcases h with rfl | ⟨-, rfl⟩
  · exact lowerChar_ne_nil c
  · simp

theorem isLowered (h : Lowers c image) (hd : d ∈ image) : IsLowered d := by
  rcases h with rfl | ⟨-, rfl⟩
  · exact isLowered_of_mem_lowerChar hd
  · rw [List.mem_singleton] at hd
    subst hd
    exact ⟨by decide, by decide⟩

theorem eq_of_blank (h : Lowers c image) (hd : d ∈ image) (hblank : isBlank d = true) : d = c := by
  rcases h with rfl | ⟨-, rfl⟩
  · exact eq_of_blank_of_mem_lowerChar hd hblank
  · rw [List.mem_singleton] at hd
    subst hd
    exact absurd hblank (by decide)

theorem ascii (h : Lowers c image) (hd : d ∈ image) (hascii : d.toNat < 128) :
    (c.toNat < 128 ∧ d = c.toLower) ∨ (c = '\u212A' ∧ d = 'k') ∨ (c = '\u0130' ∧ d = 'i') := by
  rcases h with rfl | ⟨-, rfl⟩
  · exact ascii_of_mem_lowerChar hd hascii
  · rw [List.mem_singleton] at hd
    subst hd
    exact absurd hascii (by decide)

theorem eq_lowerChar (h : Lowers c image) (hc : c ≠ 'Σ') : image = lowerChar c := by
  rcases h with h | ⟨hsigma, -⟩
  · exact h
  · exact absurd hsigma hc

end Lowers

/-- Lower case of a list of characters between others; those in front stand backwards. -/
def lowerBetween (before : List Char) : List Char → List Char → List Char
  | [], _ => []
  | c :: rest, after =>
    (if c = 'Σ' then [if endsWord before (rest ++ after) then 'ς' else 'σ'] else lowerChar c) ++
      lowerBetween (c :: before) rest after

/-- What is lowered before a place and what is lowered after it come one after the other. -/
theorem lowerAfter_append (before cs after : List Char) :
    lowerAfter before (cs ++ after) =
      lowerBetween before cs after ++ lowerAfter (cs.reverse ++ before) after := by
  induction cs generalizing before with
  | nil => rfl
  | cons c rest ih => simp [lowerAfter, lowerBetween, ih]

theorem isLowered_of_mem_lowerAfter {before cs : List Char} {d : Char}
    (h : d ∈ lowerAfter before cs) : IsLowered d := by
  induction cs generalizing before with
  | nil => simp [lowerAfter] at h
  | cons c rest ih =>
    obtain ⟨image, himage, heq⟩ := lowerAfter_cons before c rest
    rw [heq, List.mem_append] at h
    rcases h with h | h
    · exact himage.isLowered h
    · exact ih h

theorem lowerAfter_of_isLowered {before cs : List Char} (h : ∀ c ∈ cs, IsLowered c) :
    lowerAfter before cs = cs := by
  induction cs generalizing before with
  | nil => rfl
  | cons c rest ih =>
    have hc := h c (by simp)
    have hrest : ∀ d ∈ rest, IsLowered d := fun d hd => h d (by simp [hd])
    rw [lowerAfter, if_neg hc.ne_sigma, hc.lowerChar_eq, ih hrest, List.singleton_append]

/-- **Lowering what is lowered changes nothing.** -/
theorem lowerChars_lowerChars (cs : List Char) : lowerChars (lowerChars cs) = lowerChars cs :=
  lowerAfter_of_isLowered fun _ hd => isLowered_of_mem_lowerAfter hd

theorem lower_lower (s : String) : lower (lower s) = lower s := by
  rw [lower, lower, String.toList_ofList, lowerChars_lowerChars]

theorem lowerChars_eq_nil_iff {cs : List Char} : lowerChars cs = [] ↔ cs = [] := by
  constructor
  · intro h
    cases cs with
    | nil => rfl
    | cons c rest =>
      obtain ⟨image, himage, heq⟩ := lowerAfter_cons [] c rest
      rw [lowerChars, heq, List.append_eq_nil_iff] at h
      exact absurd h.1 himage.ne_nil
  · rintro rfl
    rfl

theorem frontClear_image {c : Char} {image : List Char} (h : Lowers c image)
    (hc : isBlank c = false) : FrontClear image ∧ FrontClear image.reverse := by
  have hclear : ∀ d ∈ image, isBlank d = false := by
    intro d hd
    rw [Bool.eq_false_iff]
    intro hblank
    have heq := h.eq_of_blank hd hblank
    rw [heq, hc] at hblank
    exact absurd hblank (by simp)
  constructor
  · intro d hd
    exact hclear d (List.mem_of_head? hd)
  · intro d hd
    exact hclear d (List.mem_reverse.1 (List.mem_of_head? hd))

theorem trimmed_lowerChars {cs : List Char} (h : Trimmed cs) : Trimmed (lowerChars cs) := by
  rcases List.eq_nil_or_concat cs with rfl | ⟨rest, c, hcs⟩
  · exact h
  · constructor
    · cases cs with
      | nil => simp at hcs
      | cons d rest =>
        obtain ⟨image, himage, heq⟩ := lowerAfter_cons [] d rest
        rw [lowerChars, heq]
        exact (frontClear_image himage (h.front d rfl)).1.append_right himage.ne_nil _
    · subst hcs
      obtain ⟨image, himage, heq⟩ := lowerAfter_cons (rest.reverse ++ []) c []
      have hc : isBlank c = false := h.back c (by simp)
      have hne : image.reverse ≠ [] := by simpa using himage.ne_nil
      rw [lowerChars, List.concat_eq_append, lowerAfter_append, heq, lowerAfter, List.append_nil,
        List.reverse_append]
      exact (frontClear_image himage hc).2.append_right hne _

end Compendium.Text
