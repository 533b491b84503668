import Mathlib.Tactic.SplitIfs
import Compendium.Text.Utf8

/-!
# Octets that are a text

Octets are a text just when they are its encoding. An unfinished character is finished by the
octets that it owes (`Pending.Finishes`), and with them it is the encoding of the character whose
number they come to, never a longer form and never a surrogate (`encodeChar_of_finishes`). Main
theorem `decode_eq_ok_iff`.
-/

namespace Compendium.Text.Utf8

variable {b : UInt8} {c : Char} {p : Pending} {tail rest octets : List UInt8} {n : Nat}

/-! ## Unfinished characters -/

/-- An unfinished character with one more octet. -/
def Pending.next (p : Pending) (b : UInt8) : Pending :=
  ⟨p.octets ++ [b], p.bits * 64 + (b.toNat - 0x80), p.owed - 1, 0x80, 0xBF⟩

/-- The octets finish the character, which has the number `n`. -/
inductive Pending.Finishes : Pending → List UInt8 → Nat → Prop where
  | last {p : Pending} {b : UInt8} : p.owed = 1 → p.low ≤ b → b ≤ p.high →
      Finishes p [b] (p.bits * 64 + (b.toNat - 0x80))
  | more {p : Pending} {b : UInt8} {tail : List UInt8} {n : Nat} : p.owed ≠ 1 → p.low ≤ b →
      b ≤ p.high → Finishes (p.next b) tail n → Finishes p (b :: tail) n

theorem piecesFrom_of_finishes (h : p.Finishes tail n) (rest : List UInt8) :
    piecesFrom (some p) (tail ++ rest) = .char (Char.ofNat n) :: piecesFrom none rest := by
  induction h with
  | last howed hlow hhigh => simp [piecesFrom, howed, hlow, hhigh]
  | more howed hlow hhigh _ ih =>
    rw [List.cons_append, piecesFrom, if_pos ⟨hlow, hhigh⟩]
    dsimp only
    rw [if_neg howed]
    exact ih

/-- The pieces are characters, none of them bad. -/
def AllChars (pieces : List Piece) : Prop := ∃ cs : List Char, pieces = cs.map .char

theorem not_allChars_bad {kind : FaultKind} {run : List UInt8} {pieces : List Piece} :
    ¬ AllChars (.bad kind run :: pieces) := by
  rintro ⟨_ | ⟨c, cs⟩, h⟩ <;> simp at h

/-- An unfinished character of which no bad piece comes is finished. -/
theorem finishes_of_allChars (h : AllChars (piecesFrom (some p) octets)) :
    ∃ tail n rest, octets = tail ++ rest ∧ p.Finishes tail n := by
  induction octets generalizing p with
  | nil => exact absurd h not_allChars_bad
  | cons b rest ih =>
    rw [piecesFrom] at h
    split_ifs at h with hbounds howed
    · exact ⟨[b], _, rest, rfl, .last howed hbounds.1 hbounds.2⟩
    · obtain ⟨tail, n, rest, rfl, hfinishes⟩ := ih h
      exact ⟨b :: tail, n, rest, rfl, .more howed hbounds.1 hbounds.2 hfinishes⟩
    · exact absurd h not_allChars_bad

/-! ## The first octet -/

theorem finishes_one (howed : p.owed = 1) : p.Finishes tail n ↔
    ∃ b, tail = [b] ∧ p.low ≤ b ∧ b ≤ p.high ∧ n = p.bits * 64 + (b.toNat - 0x80) := by
  constructor
  · intro h
    cases h with
    | last _ hlow hhigh => exact ⟨_, rfl, hlow, hhigh, rfl⟩
    | more hne => exact absurd howed hne
  · rintro ⟨b, rfl, hlow, hhigh, hn⟩
    rw [hn]
    exact .last howed hlow hhigh

theorem finishes_more (howed : p.owed ≠ 1) : p.Finishes tail n ↔
    ∃ b tail', tail = b :: tail' ∧ p.low ≤ b ∧ b ≤ p.high ∧ (p.next b).Finishes tail' n := by
  constructor
  · intro h
    cases h with
    | last heq => exact absurd heq howed
    | more _ hlow hhigh hnext => exact ⟨_, _, rfl, hlow, hhigh, hnext⟩
  · rintro ⟨b, tail', rfl, hlow, hhigh, hnext⟩
    exact .more howed hlow hhigh hnext

theorem toNat_ofNat_valid (h : n.isValidChar) : (Char.ofNat n).toNat = n := by
  rw [Char.ofNat, dif_pos h]
  rfl

theorem encodeChar_of_lead_char (h : lead b = .char c) : String.utf8EncodeChar c = [b] := by
  unfold lead at h
  dsimp only at h
  split_ifs at h with hascii
  injection h with h
  subst h
  have hb : b.toNat < 128 := hascii
  have hc : (Char.ofNat b.toNat).toNat = b.toNat := toNat_ofNat_valid (Or.inl (by omega))
  rw [encodeChar_ascii (by omega), hc, UInt8.ofNat_toNat]

/-- What the first octet of a character leads to, if more than one octet is needed. -/
theorem lead_two (h : 0xC2 ≤ b.toNat ∧ b.toNat < 0xE0) :
    lead b = .pending ⟨[b], b.toNat - 0xC0, 1, 0x80, 0xBF⟩ := by
  simp only [lead, UInt8.lt_iff_toNat_lt, UInt8.reduceToNat]
  rw [if_neg (by omega), if_neg (by omega), if_pos (by omega)]

theorem lead_three (h : 0xE0 ≤ b.toNat ∧ b.toNat < 0xF0) :
    lead b = .pending ⟨[b], b.toNat - 0xE0, 2, if b = 0xE0 then 0xA0 else 0x80,
      if b = 0xED then 0x9F else 0xBF⟩ := by
  simp only [lead, UInt8.lt_iff_toNat_lt, UInt8.reduceToNat]
  rw [if_neg (by omega), if_neg (by omega), if_neg (by omega), if_pos (by omega)]

theorem lead_four (h : 0xF0 ≤ b.toNat ∧ b.toNat < 0xF5) :
    lead b = .pending ⟨[b], b.toNat - 0xF0, 3, if b = 0xF0 then 0x90 else 0x80,
      if b = 0xF4 then 0x8F else 0xBF⟩ := by
  simp only [lead, UInt8.lt_iff_toNat_lt, UInt8.reduceToNat]
  rw [if_neg (by omega), if_neg (by omega), if_neg (by omega), if_neg (by omega), if_pos (by omega)]

theorem lead_pending_cases (h : lead b = .pending p) :
    (0xC2 ≤ b.toNat ∧ b.toNat < 0xE0) ∨ (0xE0 ≤ b.toNat ∧ b.toNat < 0xF0) ∨
      (0xF0 ≤ b.toNat ∧ b.toNat < 0xF5) := by
  simp only [lead, UInt8.lt_iff_toNat_lt, UInt8.reduceToNat] at h
  split at h
  · cases h
  · split at h
    · cases h
    · rcases Nat.lt_or_ge b.toNat 0xF5 with hlt | hge
      · omega
      · rw [if_neg (by omega), if_neg (by omega), if_neg (by omega)] at h
        cases h

theorem low_le_iff {k low base : UInt8} (h : base ≤ low) {x : UInt8} :
    (if b = k then low else base) ≤ x ↔
      base.toNat ≤ x.toNat ∧ (b.toNat = k.toNat → low.toNat ≤ x.toNat) := by
  rw [UInt8.le_iff_toNat_le] at h
  by_cases hb : b = k
  · rw [if_pos hb, UInt8.le_iff_toNat_le, hb]
    omega
  · have hne : b.toNat ≠ k.toNat := fun heq => hb (UInt8.toNat_inj.1 heq)
    rw [if_neg hb, UInt8.le_iff_toNat_le]
    omega

theorem le_high_iff {k high base : UInt8} (h : high ≤ base) {x : UInt8} :
    x ≤ (if b = k then high else base) ↔
      x.toNat ≤ base.toNat ∧ (b.toNat = k.toNat → x.toNat ≤ high.toNat) := by
  rw [UInt8.le_iff_toNat_le] at h
  by_cases hb : b = k
  · rw [if_pos hb, UInt8.le_iff_toNat_le, hb]
    omega
  · have hne : b.toNat ≠ k.toNat := fun heq => hb (UInt8.toNat_inj.1 heq)
    rw [if_neg hb, UInt8.le_iff_toNat_le]
    omega

/-! ## Characters and their octets -/

theorem eq_ofNat {m : Nat} (h : m = b.toNat) : UInt8.ofNat m = b := by
  rw [h, UInt8.ofNat_toNat]

theorem encodeChar_two (h : 0x80 ≤ c.toNat) (h' : c.toNat < 0x800) :
    String.utf8EncodeChar c = [UInt8.ofNat (c.toNat / 64 + 0xC0), UInt8.ofNat (c.toNat % 64 + 0x80)] := by
  simp only [String.utf8EncodeChar, Char.toNat_val]
  rw [if_neg (by omega), if_pos (by omega), Nat.mod_eq_of_lt (by omega : c.toNat / 64 < 32)]

theorem encodeChar_three (h : 0x800 ≤ c.toNat) (h' : c.toNat < 0x10000) :
    String.utf8EncodeChar c = [UInt8.ofNat (c.toNat / 4096 + 0xE0),
      UInt8.ofNat (c.toNat / 64 % 64 + 0x80), UInt8.ofNat (c.toNat % 64 + 0x80)] := by
  simp only [String.utf8EncodeChar, Char.toNat_val]
  rw [if_neg (by omega), if_neg (by omega), if_pos (by omega),
    Nat.mod_eq_of_lt (by omega : c.toNat / 4096 < 16)]

theorem encodeChar_four (h : 0x10000 ≤ c.toNat) (h' : c.toNat < 0x110000) :
    String.utf8EncodeChar c = [UInt8.ofNat (c.toNat / 262144 + 0xF0),
      UInt8.ofNat (c.toNat / 4096 % 64 + 0x80), UInt8.ofNat (c.toNat / 64 % 64 + 0x80),
      UInt8.ofNat (c.toNat % 64 + 0x80)] := by
  simp only [String.utf8EncodeChar, Char.toNat_val]
  rw [if_neg (by omega), if_neg (by omega), if_neg (by omega),
    Nat.mod_eq_of_lt (by omega : c.toNat / 262144 < 8)]

/-- A finished character is encoded by the octets that it was finished with. -/
theorem encodeChar_of_finishes (hlead : lead b = .pending p) (h : p.Finishes tail n) :
    String.utf8EncodeChar (Char.ofNat n) = b :: tail := by
  -- The bounds of the second octet leave out what fewer octets would do for, the surrogates and all
  -- that lies beyond the last character.
  rcases lead_pending_cases hlead with hb | hb | hb
  · obtain rfl : _ = p := by simpa using (lead_two hb).symm.trans hlead
    rw [finishes_one rfl] at h
    obtain ⟨x, rfl, hx, hx', hn⟩ := h
    simp only [UInt8.le_iff_toNat_le, UInt8.reduceToNat] at hx hx' hn
    have hc : (Char.ofNat n).toNat = n := toNat_ofNat_valid (Or.inl (by omega))
    rw [encodeChar_two (by omega) (by omega), hc, eq_ofNat (b := b) (by omega),
      eq_ofNat (b := x) (by omega)]
  · obtain rfl : _ = p := by simpa using (lead_three hb).symm.trans hlead
    rw [finishes_more (by simp)] at h
    obtain ⟨x, tail', rfl, hx, hx', h⟩ := h
    rw [finishes_one rfl] at h
    obtain ⟨y, rfl, hy, hy', hn⟩ := h
    rw [low_le_iff (by decide)] at hx
    rw [le_high_iff (by decide)] at hx'
    simp only [Pending.next, UInt8.le_iff_toNat_le, UInt8.reduceToNat] at hx hx' hy hy' hn
    have hc : (Char.ofNat n).toNat = n := by
      refine toNat_ofNat_valid ?_
      unfold Nat.isValidChar
      omega
    rw [encodeChar_three (by omega) (by omega), hc, eq_ofNat (b := b) (by omega),
      eq_ofNat (b := x) (by omega), eq_ofNat (b := y) (by omega)]
  · obtain rfl : _ = p := by simpa using (lead_four hb).symm.trans hlead
    rw [finishes_more (by simp)] at h
    obtain ⟨x, tail', rfl, hx, hx', h⟩ := h
    rw [finishes_more (by simp [Pending.next])] at h
    obtain ⟨y, tail', rfl, hy, hy', h⟩ := h
    rw [finishes_one rfl] at h
    obtain ⟨z, rfl, hz, hz', hn⟩ := h
    rw [low_le_iff (by decide)] at hx
    rw [le_high_iff (by decide)] at hx'
    simp only [Pending.next, UInt8.le_iff_toNat_le, UInt8.reduceToNat] at hx hx' hy hy' hz hz' hn
    have hc : (Char.ofNat n).toNat = n := by
      refine toNat_ofNat_valid ?_
      unfold Nat.isValidChar
      omega
    rw [encodeChar_four (by omega) (by omega), hc, eq_ofNat (b := b) (by omega),
      eq_ofNat (b := x) (by omega), eq_ofNat (b := y) (by omega), eq_ofNat (b := z) (by omega)]

theorem toNat_ofNat_octet {m : Nat} (h : m < 256) : (UInt8.ofNat m).toNat = m := by
  rw [UInt8.toNat_ofNat']
  omega

/-- The encoding of a character is one octet, or a first one and those that finish it. -/
theorem exists_lead (c : Char) : (∃ b, String.utf8EncodeChar c = [b] ∧ lead b = .char c) ∨
    ∃ b p tail, String.utf8EncodeChar c = b :: tail ∧ lead b = .pending p ∧
      p.Finishes tail c.toNat := by
  rcases Nat.lt_or_ge c.toNat 0x80 with h1 | h1
  · exact Or.inl ⟨_, encodeChar_ascii h1, lead_ascii h1⟩
  right
  have hz := toNat_ofNat_octet (by omega : c.toNat % 64 + 0x80 < 256)
  rcases Nat.lt_or_ge c.toNat 0x800 with h2 | h2
  · have hb := toNat_ofNat_octet (by omega : c.toNat / 64 + 0xC0 < 256)
    refine ⟨_, _, _, encodeChar_two h1 h2, lead_two (by omega), (finishes_one rfl).2 ⟨_, rfl, ?_⟩⟩
    simp only [UInt8.le_iff_toNat_le, UInt8.reduceToNat, hz, hb]
    omega
  have hy := toNat_ofNat_octet (by omega : c.toNat / 64 % 64 + 0x80 < 256)
  rcases Nat.lt_or_ge c.toNat 0x10000 with h3 | h3
  · have hvalid : c.toNat < 0xD800 ∨ 0xDFFF < c.toNat := by
      rcases c.valid with h | h
      · exact Or.inl h
      · exact Or.inr h.1
    have hb := toNat_ofNat_octet (by omega : c.toNat / 4096 + 0xE0 < 256)
    refine ⟨_, _, _, encodeChar_three h2 h3, lead_three (by omega),
      (finishes_more (by simp)).2 ⟨_, _, rfl, ?_, ?_, (finishes_one rfl).2 ⟨_, rfl, ?_⟩⟩⟩
    · rw [low_le_iff (by decide), hb, hy]
      simp only [UInt8.reduceToNat]
      omega
    · rw [le_high_iff (by decide), hb, hy]
      simp only [UInt8.reduceToNat]
      omega
    · simp only [Pending.next, UInt8.le_iff_toNat_le, UInt8.reduceToNat, hz, hy, hb]
      omega
  · have hlast : c.toNat < 0x110000 := by
      rcases c.valid with h | h
      · exact Nat.lt_trans h (by decide)
      · exact h.2
    have hb := toNat_ofNat_octet (by omega : c.toNat / 262144 + 0xF0 < 256)
    have hx := toNat_ofNat_octet (by omega : c.toNat / 4096 % 64 + 0x80 < 256)
    refine ⟨_, _, _, encodeChar_four h3 hlast, lead_four (by omega),
      (finishes_more (by simp)).2 ⟨_, _, rfl, ?_, ?_, (finishes_more (by simp [Pending.next])).2
        ⟨_, _, rfl, ?_, ?_, (finishes_one rfl).2 ⟨_, rfl, ?_⟩⟩⟩⟩
    · rw [low_le_iff (by decide), hb, hx]
      simp only [UInt8.reduceToNat]
      omega
    · rw [le_high_iff (by decide), hb, hx]
      simp only [UInt8.reduceToNat]
      omega
    · simp only [Pending.next, UInt8.le_iff_toNat_le, UInt8.reduceToNat, hy]
      omega
    · simp only [Pending.next, UInt8.le_iff_toNat_le, UInt8.reduceToNat, hy]
      omega
    · simp only [Pending.next, UInt8.le_iff_toNat_le, UInt8.reduceToNat, hz, hy, hx, hb]
      omega

/-! ## Texts and their octets -/

theorem piecesFrom_encodeChar (c : Char) (rest : List UInt8) :
    piecesFrom none (String.utf8EncodeChar c ++ rest) = .char c :: piecesFrom none rest := by
  rcases exists_lead c with ⟨b, hencode, hlead⟩ | ⟨b, p, tail, hencode, hlead, hfinishes⟩
  · rw [hencode, List.singleton_append, piecesFrom, hlead]
  · rw [hencode, List.cons_append, piecesFrom, hlead]
    dsimp only
    rw [piecesFrom_of_finishes hfinishes, Char.ofNat_toNat]

theorem pieces_encode (cs : List Char) : pieces (encode cs) = cs.map .char := by
  induction cs with
  | nil => rfl
  | cons c rest ih =>
    rw [encode, List.flatMap_cons, pieces, piecesFrom_encodeChar, List.map_cons]
    exact congrArg _ ih

/-- Octets of which no bad piece comes begin with a character. -/
theorem exists_encodeChar (h : AllChars (pieces (b :: rest))) :
    ∃ c rest', b :: rest = String.utf8EncodeChar c ++ rest' := by
  rw [pieces, piecesFrom] at h
  split at h
  · rename_i c hlead
    exact ⟨c, rest, by rw [encodeChar_of_lead_char hlead, List.singleton_append]⟩
  · rename_i p hlead
    obtain ⟨tail, n, rest', rfl, hfinishes⟩ := finishes_of_allChars h
    exact ⟨Char.ofNat n, rest', by rw [encodeChar_of_finishes hlead hfinishes, List.cons_append]⟩
  · exact absurd h not_allChars_bad

theorem eq_encode_of_pieces {cs : List Char} (h : pieces octets = cs.map .char) :
    octets = encode cs := by
  induction cs generalizing octets with
  | nil =>
    cases octets with
    | nil => rfl
    | cons b rest =>
      obtain ⟨c, rest', heq⟩ := exists_encodeChar ⟨[], h⟩
      rw [heq, pieces, piecesFrom_encodeChar] at h
      cases h
  | cons c cs ih =>
    cases octets with
    | nil => cases h
    | cons b rest =>
      obtain ⟨c', rest', heq⟩ := exists_encodeChar ⟨c :: cs, h⟩
      rw [heq, pieces, piecesFrom_encodeChar, List.map_cons, List.cons.injEq, Piece.char.injEq] at h
      rw [heq, h.1, ih h.2]
      rfl

theorem collect_eq_ok_iff {position : Nat} {ps : List Piece} {cs : List Char} :
    collect position ps = .ok cs ↔ ps = cs.map .char := by
  constructor
  · intro h
    induction ps generalizing position cs with
    | nil =>
      obtain rfl := Except.ok.inj h
      rfl
    | cons piece rest ih =>
      cases piece with
      | bad kind run => cases h
      | char c =>
        rw [collect] at h
        cases hrest : collect (position + c.utf8Size) rest with
        | error f =>
          rw [hrest] at h
          cases h
        | ok cs' =>
          rw [hrest] at h
          obtain rfl := Except.ok.inj h
          rw [ih hrest, List.map_cons]
  · rintro rfl
    exact collect_chars position cs

/-- **Octets are read as a text just when they are its encoding.** -/
theorem decode_eq_ok_iff {cs : List Char} : decode octets = .ok cs ↔ octets = encode cs := by
  rw [decode, collect_eq_ok_iff]
  constructor
  · exact eq_encode_of_pieces
  · rintro rfl
    exact pieces_encode cs

/-- The octets of an ASCII text. -/
theorem lt_of_mem_encode {cs : List Char} (h : ∀ c ∈ cs, c.toNat < 128) (hb : b ∈ encode cs) :
    b < 128 := by
  obtain ⟨c, hc, hb⟩ := List.mem_flatMap.1 hb
  rw [encodeChar_ascii (h c hc), List.mem_singleton] at hb
  rw [hb, UInt8.lt_iff_toNat_lt, toNat_ofNat_octet (by have := h c hc; omega)]
  exact h c hc

end Compendium.Text.Utf8
