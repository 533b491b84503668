import Compendium.Proofs.Query.Chains
import Compendium.Proofs.Text.AsciiCase

/-!
# Reading the free text of a query again

What is left of a search text without its filters holds no filter, but the free text is that in
lower case, and lowering makes letters of ASCII out of two characters that are none: the Kelvin sign
and the capital I with a dot above. Main theorem `ofString_freeText_iff`: read again, the free text
is the same free text without filters just when no such letter completes a filter.
-/

namespace Compendium.Query

/-! ## Texts without a filter -/

/-- A text holds a filter where a colon has a word character on both sides. -/
theorem exists_token_iff {cs : List Char} :
    (∃ token, IsToken token ∧ token <:+: cs) ↔
      ∃ x y, isWord x = true ∧ isWord y = true ∧ [x, ':', y] <:+: cs := by
  constructor
  · rintro ⟨token, ⟨key, value, hkey, hvalue, rfl⟩, hinside⟩
    rcases List.eq_nil_or_concat key with rfl | ⟨front, x, rfl⟩
    · exact absurd rfl hkey.1
    · cases value with
      | nil => exact absurd rfl hvalue.1
      | cons y rest =>
        refine ⟨x, y, hkey.2 x (by simp), hvalue.2 y (by simp), ?_⟩
        exact List.IsInfix.trans ⟨front, rest, by simp⟩ hinside
  · rintro ⟨x, y, hx, hy, hinside⟩
    refine ⟨[x, ':', y], ⟨[x], [y], ?_, ?_, rfl⟩, hinside⟩
    · exact isWordText_cons hx (by simp)
    · exact isWordText_cons hy (by simp)

theorem not_isToken_plainChars (cs : List Char) :
    ¬ ∃ token, IsToken token ∧ token <:+: plainChars (cut cs) := by
  have hcut := chainCut_foldr cs
  rw [cut_of_chainCut hcut, plainChars_pieces]
  exact not_isToken_leftOver hcut.maximal

theorem isWordText_of_valueAfter? {cs value rest : List Char}
    (h : valueAfter? cs = some (value, rest)) : IsWordText value := by
  unfold valueAfter? at h
  split at h
  · split at h
    · rename_i hv
      simp only [Option.some.injEq, Prod.mk.injEq] at h
      rw [← h.1]
      exact isWordText_takeWhile hv _
    · simp at h
  · simp at h

theorem isWordText_of_mem_cut {cs key value : List Char} (h : Piece.filter key value ∈ cut cs) :
    IsWordText key ∧ IsWordText value := by
  fun_induction cut cs with
  | case1 => simp at h
  | case2 c rest hc value' tail hvalue ih =>
    rcases List.mem_cons.1 h with h | h
    · obtain ⟨rfl, rfl⟩ := Piece.filter.inj h
      exact ⟨isWordText_takeWhile hc rest, isWordText_of_valueAfter? hvalue⟩
    · exact ih h
  | case3 c rest hc hvalue ih => exact ih (by simpa using h)
  | case4 c rest hc ih => exact ih (by simpa using h)

theorem isToken_of_mem_cut {cs key value : List Char} (h : Piece.filter key value ∈ cut cs) :
    IsToken (key ++ ':' :: value) := by
  obtain ⟨hkey, hvalue⟩ := isWordText_of_mem_cut h
  exact ⟨key, value, hkey, hvalue, rfl⟩

theorem plainChars_of_assignments_eq_nil {pieces : List Piece} (h : assignments pieces = []) :
    plainChars pieces = pieces.flatMap Piece.source := by
  induction pieces with
  | nil => rfl
  | cons piece rest ih =>
    cases piece with
    | filter key value => simp [assignments] at h
    | plain chars =>
      have ih' := ih (by simpa [assignments] using h)
      have hrest : plainChars (.plain chars :: rest) = chars ++ plainChars rest := rfl
      rw [hrest, ih', List.flatMap_cons, Piece.source]

theorem assignments_cut_eq_nil_iff {cs : List Char} :
    assignments (cut cs) = [] ↔ ¬ ∃ token, IsToken token ∧ token <:+: cs := by
  constructor
  · intro h
    have hplain := plainChars_of_assignments_eq_nil h
    rw [joined_cut] at hplain
    have hnone := not_isToken_plainChars cs
    rwa [hplain] at hnone
  · intro h
    rw [assignments, List.filterMap_eq_nil_iff]
    intro piece hpiece
    cases piece with
    | plain chars => rfl
    | filter key value =>
      obtain ⟨before, after, hcut⟩ := List.append_of_mem hpiece
      have hjoined := joined_cut cs
      rw [hcut, List.flatMap_append, List.flatMap_cons, ← List.append_assoc] at hjoined
      exact absurd ⟨_, isToken_of_mem_cut hpiece, _, _, hjoined⟩ h

theorem filters_eq_nil_iff {s : String} :
    (ofString s).filters = [] ↔ ¬ ∃ token, IsToken token ∧ token <:+: s.toList :=
  Fields.ofAssignments_eq_nil_iff.trans assignments_cut_eq_nil_iff

theorem ofString_of_no_token {s : String} (h : ¬ ∃ token, IsToken token ∧ token <:+: s.toList) :
    ofString s = ⟨[], String.ofList (Text.lowerChars (Text.trimChars s.toList))⟩ := by
  have hassignments := assignments_cut_eq_nil_iff.2 h
  have hplain := plainChars_of_assignments_eq_nil hassignments
  rw [joined_cut] at hplain
  rw [ofString, hassignments, hplain]
  rfl

/-! ## Filters that lowering makes -/

/-- The lower case of the character ends in a word character. -/
def endsInWord (c : Char) : Bool := isWord c || c = '\u212A'

/-- The lower case of the character begins with a word character. -/
def beginsInWord (c : Char) : Bool := isWord c || c = '\u212A' || c = '\u0130'

theorem ascii_of_isWord {c : Char} (h : isWord c = true) : c.toNat < 128 := by
  delta isWord Char.isAlphanum Char.isAlpha Char.isUpper Char.isLower Char.isDigit at h
  simp only [Bool.or_eq_true, Bool.and_eq_true, decide_eq_true_eq] at h
  rcases h with ((h | h) | h) | h
  · exact Nat.lt_of_le_of_lt (UInt32.le_iff_toNat_le.1 h.2) (by decide)
  · exact Nat.lt_of_le_of_lt (UInt32.le_iff_toNat_le.1 h.2) (by decide)
  · exact Nat.lt_of_le_of_lt (UInt32.le_iff_toNat_le.1 h.2) (by decide)
  · subst h
    decide

theorem isWord_toLower (c : Char) : isWord c.toLower = isWord c :=
  Text.apply_toLower (Text.forall_ascii (by decide)) c

section
variable {c : Char} {image : List Char}

theorem image_ascii (h : Text.Lowers c image) (hc : c.toNat < 128) : image = [c.toLower] := by
  have hsigma : c ≠ 'Σ' := by
    rintro rfl
    exact absurd hc (by decide)
  rw [h.eq_lowerChar hsigma, Text.lowerChar_ascii hc]

theorem image_dotted (h : Text.Lowers '\u0130' image) : image = ['i', '\u0307'] :=
  h.eq_lowerChar (by decide)

theorem image_kelvin (h : Text.Lowers '\u212A' image) : image = ['k'] :=
  (h.eq_lowerChar (by decide)).trans (by decide)

theorem eq_colon_of_mem_image (h : Text.Lowers c image) (hcolon : ':' ∈ image) :
    c = ':' ∧ image = [':'] := by
  rcases h.ascii hcolon (by decide) with ⟨hc, hlower⟩ | ⟨-, hk⟩ | ⟨-, hi⟩
  · obtain rfl := (Text.toLower_eq_iff (by decide) c).1 hlower.symm
    exact ⟨rfl, image_ascii h hc⟩
  · exact absurd hk (by decide)
  · exact absurd hi (by decide)

theorem getLast?_image_iff (h : Text.Lowers c image) :
    (∃ x, image.getLast? = some x ∧ isWord x = true) ↔ endsInWord c = true := by
  simp only [endsInWord, Bool.or_eq_true, decide_eq_true_eq]
  constructor
  · rintro ⟨x, hlast, hx⟩
    rcases h.ascii (List.mem_of_getLast? hlast) (ascii_of_isWord hx) with
      ⟨hc, rfl⟩ | ⟨rfl, -⟩ | ⟨rfl, rfl⟩
    · exact Or.inl (isWord_toLower c ▸ hx)
    · exact Or.inr rfl
    · -- the dot stands last in the lower case of the dotted letter
      rw [image_dotted h] at hlast
      exact absurd hlast (by decide)
  · rintro (hc | rfl)
    · have hascii := ascii_of_isWord hc
      refine ⟨c.toLower, ?_, (isWord_toLower c).trans hc⟩
      rw [image_ascii h hascii]
      rfl
    · rw [image_kelvin h]
      exact ⟨'k', rfl, by decide⟩

theorem head?_image_iff (h : Text.Lowers c image) :
    (∃ y, image.head? = some y ∧ isWord y = true) ↔ beginsInWord c = true := by
  simp only [beginsInWord, Bool.or_eq_true, decide_eq_true_eq]
  constructor
  · rintro ⟨y, hhead, hy⟩
    rcases h.ascii (List.mem_of_head? hhead) (ascii_of_isWord hy) with
      ⟨hc, rfl⟩ | ⟨rfl, -⟩ | ⟨rfl, -⟩
    · exact Or.inl (Or.inl (isWord_toLower c ▸ hy))
    · exact Or.inl (Or.inr rfl)
    · exact Or.inr rfl
  · rintro ((hc | rfl) | rfl)
    · have hascii := ascii_of_isWord hc
      refine ⟨c.toLower, ?_, (isWord_toLower c).trans hc⟩
      rw [image_ascii h hascii]
      rfl
    · rw [image_kelvin h]
      exact ⟨'k', rfl, by decide⟩
    · rw [image_dotted h]
      exact ⟨'i', rfl, by decide⟩

end

/-- What begins a text in lower case comes from the character that begins the text. -/
theorem exists_image_of_lowerAfter {before cs ds : List Char} {d : Char}
    (h : Text.lowerAfter before cs = d :: ds) :
    ∃ c rest image tail, cs = c :: rest ∧ Text.Lowers c image ∧ image = d :: tail ∧
      ds = tail ++ Text.lowerAfter (c :: before) rest := by
  cases cs with
  | nil => simp [Text.lowerAfter] at h
  | cons c rest =>
    obtain ⟨image, himage, heq⟩ := Text.lowerAfter_cons before c rest
    rw [heq] at h
    cases image with
    | nil => exact absurd rfl himage.ne_nil
    | cons e tail =>
      obtain ⟨rfl, htail⟩ := List.cons.inj h
      exact ⟨c, rest, e :: tail, tail, rfl, himage, rfl, htail.symm⟩

/-- A colon comes from a colon, so the character after it comes from the one after that. -/
theorem exists_next_of_lowerAfter {before cs ds : List Char} {y : Char} (hy : isWord y = true)
    (h : Text.lowerAfter before cs = ':' :: y :: ds) :
    ∃ b rest, cs = ':' :: b :: rest ∧ beginsInWord b = true := by
  obtain ⟨c, rest, image, tail, rfl, himage, hcons, hds⟩ := exists_image_of_lowerAfter h
  obtain ⟨rfl, hcolon⟩ := eq_colon_of_mem_image himage (by simp [hcons])
  obtain rfl : tail = [] := (List.cons.inj (hcons.symm.trans hcolon)).2
  obtain ⟨b, rest', image', tail', rfl, himage', hcons', -⟩ := exists_image_of_lowerAfter hds.symm
  exact ⟨b, rest', rfl, (head?_image_iff himage').1 ⟨y, by rw [hcons', List.head?_cons], hy⟩⟩

/-- A colon between word characters in the lower case of a text stands in the text between
characters whose lower case has word characters there. -/
theorem exists_joint_of_lowerAfter {before cs : List Char} {x y : Char} (hx : isWord x = true)
    (hy : isWord y = true) (h : [x, ':', y] <:+: Text.lowerAfter before cs) :
    ∃ a b, endsInWord a = true ∧ beginsInWord b = true ∧ [a, ':', b] <:+: cs := by
  obtain ⟨u, v, huv⟩ := h
  induction cs generalizing before u with
  | nil => simp [Text.lowerAfter] at huv
  | cons c rest ih =>
    obtain ⟨image, himage, heq⟩ := Text.lowerAfter_cons before c rest
    rw [heq, List.append_assoc, List.append_eq_append_iff] at huv
    have hlater : ∀ w, w ++ [x, ':', y] ++ v = Text.lowerAfter (c :: before) rest →
        ∃ a b, endsInWord a = true ∧ beginsInWord b = true ∧ [a, ':', b] <:+: c :: rest := by
      intro w hw
      obtain ⟨a, b, ha, hb, hinside⟩ := ih w hw
      exact ⟨a, b, ha, hb, hinside.trans (List.suffix_cons c rest).isInfix⟩
    rcases huv with ⟨w, himage', htail⟩ | ⟨w, -, htail⟩
    · cases w with
      | nil => exact hlater [] htail
      | cons d inside =>
        obtain ⟨rfl, hnext⟩ := List.cons.inj htail
        -- the image does not reach past the character before the colon
        have hinside : inside = [] := by
          cases inside with
          | nil => rfl
          | cons e inside =>
            obtain ⟨rfl, -⟩ := List.cons.inj hnext
            obtain ⟨-, hcolon⟩ := eq_colon_of_mem_image himage (by simp [himage'])
            rw [hcolon] at himage'
            have hlength := congrArg List.length himage'
            simp at hlength
            omega
        subst hinside
        obtain ⟨b, rest', rfl, hb⟩ := exists_next_of_lowerAfter hy hnext.symm
        have ha := (getLast?_image_iff himage).1 ⟨x, by rw [himage']; simp, hx⟩
        exact ⟨c, b, ha, hb, [], rest', rfl⟩
    · exact hlater w (by rw [htail, List.append_assoc])

theorem joint_lowerAfter {before cs : List Char} {a b : Char} (ha : endsInWord a = true)
    (hb : beginsInWord b = true) (h : [a, ':', b] <:+: cs) :
    ∃ x y, isWord x = true ∧ isWord y = true ∧ [x, ':', y] <:+: Text.lowerAfter before cs := by
  obtain ⟨u, v, rfl⟩ := h
  obtain ⟨imageA, hA, heqA⟩ := Text.lowerAfter_cons (u.reverse ++ before) a (':' :: b :: v)
  obtain ⟨imageC, hC, heqC⟩ := Text.lowerAfter_cons (a :: (u.reverse ++ before)) ':' (b :: v)
  obtain ⟨imageB, hB, heqB⟩ := Text.lowerAfter_cons (':' :: a :: (u.reverse ++ before)) b v
  obtain ⟨x, hlast, hx⟩ := (getLast?_image_iff hA).2 ha
  obtain ⟨y, hhead, hy⟩ := (head?_image_iff hB).2 hb
  obtain ⟨frontA, rfl⟩ := List.getLast?_eq_some_iff.1 hlast
  obtain ⟨tailB, rfl⟩ := List.head?_eq_some_iff.1 hhead
  have hcolon : imageC = [':'] := image_ascii hC (by decide)
  refine ⟨x, y, hx, hy, Text.lowerBetween before u (a :: ':' :: b :: v) ++ frontA,
    tailB ++ Text.lowerAfter (b :: ':' :: a :: (u.reverse ++ before)) v, ?_⟩
  rw [List.append_assoc u, List.cons_append, List.cons_append, List.cons_append, List.nil_append,
    Text.lowerAfter_append, heqA, heqC, heqB, hcolon]
  simp

/-! ## The free text read again -/

theorem trimmed_joint {a b : Char} (ha : endsInWord a = true) (hb : beginsInWord b = true) :
    Text.Trimmed [a, ':', b] := by
  have hword : ∀ c : Char, isWord c = true → Text.isBlank c = false := by
    intro c hc
    have hall : ∀ d : Char, d.toNat < 128 → isWord d = true → Text.isBlank d = false :=
      Text.forall_ascii (by decide)
    exact hall c (ascii_of_isWord hc) hc
  have hclear : Text.isBlank a = false ∧ Text.isBlank b = false := by
    simp only [endsInWord, beginsInWord, Bool.or_eq_true, decide_eq_true_eq] at ha hb
    constructor
    · rcases ha with ha | rfl
      · exact hword a ha
      · decide
    · rcases hb with (hb | rfl) | rfl
      · exact hword b hb
      · decide
      · decide
  constructor
  · intro c hc
    obtain rfl : a = c := by simpa using hc
    exact hclear.1
  · intro c hc
    obtain rfl : b = c := by simpa using hc
    exact hclear.2

theorem mem_of_mem_plainChars_cut {cs : List Char} {c : Char} (h : c ∈ plainChars (cut cs)) :
    c ∈ cs := by
  rw [plainChars, List.mem_flatMap] at h
  obtain ⟨piece, hpiece, hc⟩ := h
  rw [← joined_cut cs, List.mem_flatMap]
  cases piece with
  | filter key value => simp at hc
  | plain chars => exact ⟨_, hpiece, hc⟩

/-- Trimming and lowering a second time change nothing, so all that counts is the filters. -/
theorem ofString_freeText_of_no_token {s : String}
    (h : ¬ ∃ token, IsToken token ∧ token <:+: (ofString s).freeText.toList) :
    ofString (ofString s).freeText = ⟨[], (ofString s).freeText⟩ := by
  have htrimmed := Text.trimmed_lowerChars (Text.trimmed_trimChars (plainChars (cut s.toList)))
  rw [ofString_of_no_token h, toList_freeText, Text.trimChars_of_trimmed htrimmed,
    Text.lowerChars_lowerChars, ← toList_freeText, String.ofList_toList]

/-- A token of the free text comes from a joint in what is left of the search text. -/
theorem exists_token_freeText_iff (s : String) :
    (∃ token, IsToken token ∧ token <:+: (ofString s).freeText.toList) ↔
      ∃ a b, endsInWord a = true ∧ beginsInWord b = true ∧
        [a, ':', b] <:+: plainChars (cut s.toList) := by
  rw [exists_token_iff, toList_freeText, Text.lowerChars]
  constructor
  · rintro ⟨x, y, hx, hy, hlower⟩
    obtain ⟨a, b, ha, hb, hinside⟩ := exists_joint_of_lowerAfter hx hy hlower
    exact ⟨a, b, ha, hb, (Text.infix_trimChars_iff (by simp) (trimmed_joint ha hb)).1 hinside⟩
  · rintro ⟨a, b, ha, hb, hinside⟩
    have hkept := (Text.infix_trimChars_iff (by simp) (trimmed_joint ha hb)).2 hinside
    exact joint_lowerAfter ha hb hkept

/-- What is left of a search text has no joint but with one of the two letters. -/
theorem mem_of_joint_plainChars_cut {cs : List Char} {a b : Char} (ha : endsInWord a = true)
    (hb : beginsInWord b = true) (hinside : [a, ':', b] <:+: plainChars (cut cs)) :
    '\u212A' ∈ cs ∨ '\u0130' ∈ cs := by
  have hmem : ∀ c ∈ [a, ':', b], c ∈ cs := by
    intro c hc
    exact mem_of_mem_plainChars_cut (hinside.subset hc)
  simp only [endsInWord, beginsInWord, Bool.or_eq_true, decide_eq_true_eq] at ha hb
  rcases ha with ha | rfl
  · rcases hb with (hb | rfl) | rfl
    · exact absurd (exists_token_iff.2 ⟨a, b, ha, hb, hinside⟩) (not_isToken_plainChars cs)
    · exact Or.inl (hmem _ (by simp))
    · exact Or.inr (hmem _ (by simp))
  · exact Or.inl (hmem _ (by simp))

/-- **When the free text of a query, read again, is the same free text without filters**: just when
what is left of the search text has no colon between characters whose lower case has word characters
there. Without the Kelvin sign and the dotted capital I there is none. -/
theorem ofString_freeText_iff (s : String) :
    (ofString (ofString s).freeText = ⟨[], (ofString s).freeText⟩ ↔
      ∀ a b, endsInWord a = true → beginsInWord b = true →
        ¬ [a, ':', b] <:+: plainChars (cut s.toList)) ∧
    ('\u212A' ∉ s.toList → '\u0130' ∉ s.toList →
      ofString (ofString s).freeText = ⟨[], (ofString s).freeText⟩) := by
  constructor
  · constructor
    · intro h a b ha hb hinside
      have htoken := (exists_token_freeText_iff s).2 ⟨a, b, ha, hb, hinside⟩
      exact filters_eq_nil_iff.1 (congrArg Query.filters h) htoken
    · intro h
      apply ofString_freeText_of_no_token
      rw [exists_token_freeText_iff]
      rintro ⟨a, b, ha, hb, hinside⟩
      exact h a b ha hb hinside
  · intro hkelvin hdotted
    apply ofString_freeText_of_no_token
    rw [exists_token_freeText_iff]
    rintro ⟨a, b, ha, hb, hinside⟩
    rcases mem_of_joint_plainChars_cut ha hb hinside with h | h
    · exact hkelvin h
    · exact hdotted h

theorem ofString_freeText_colons :
    '\u212A' ∉ "Fire: bolt:".toList ∧ '\u0130' ∉ "Fire: bolt:".toList ∧
      ofString (ofString "Fire: bolt:").freeText = ⟨[], (ofString "Fire: bolt:").freeText⟩ := by
  have hkelvin : '\u212A' ∉ "Fire: bolt:".toList := by decide
  have hdotted : '\u0130' ∉ "Fire: bolt:".toList := by decide
  exact ⟨hkelvin, hdotted, (ofString_freeText_iff "Fire: bolt:").2 hkelvin hdotted⟩

/-- The Kelvin sign is no word character, so it is left with the rest; in lower case it is a key. -/
theorem ofString_freeText_kelvin :
    ofString "\u212A:1" = ⟨[], "k:1"⟩ ∧
      ofString (ofString "\u212A:1").freeText = ⟨[("k", "1")], ""⟩ := by
  have hcut : ChainCut "\u212A:1".toList [.other '\u212A', .other ':', .chain ["1".toList]] := by
    refine ⟨by decide, ?_⟩
    simp only [Maximal, EndsChain]
    decide
  have hcut' : ChainCut "k:1".toList [.chain ["k".toList, "1".toList]] := by
    refine ⟨by decide, ?_⟩
    simp only [Maximal, EndsChain]
    decide
  have hread : ofString "\u212A:1" = ⟨[], "k:1"⟩ := by
    rw [ofString, cut_of_chainCut hcut]
    decide +kernel
  refine ⟨hread, ?_⟩
  rw [hread, ofString, cut_of_chainCut hcut']
  decide +kernel

end Compendium.Query
