import Compendium.Json.Writer
import Compendium.Proofs.Json.Strokes

/-!
# Texts read back

A text is read back as it was, whether it was written with escapes for all but printable ASCII or
only for what cannot stand between quotes: what is written for a code point is a row of strokes that
stand for it, or for the two halves that it is made of (`ReadAs`). Halves that stand alone in the text
stand alone among the strokes too (`exists_spells`). Main theorem `readString_indentedText`: the text
comes back, and reading goes on right after its closing quote; so a written text shows where it ends
(`compactText_append_inj`).
-/

namespace Compendium

/-! ## Four hexadecimal digits -/

namespace Text

theorem hexPadded_succ (width n : Nat) :
    hexPadded (width + 2) n = hexPadded (width + 1) (n / 16) ++ [Nat.digitChar (n % 16)] := by
  unfold hexPadded
  by_cases h : n < 16
  · rw [Nat.toDigits_of_lt_base h, Nat.div_eq_of_lt h, Nat.mod_eq_of_lt h, Nat.toDigits_zero]
    simp [List.replicate_succ']
  · have hdigits := Nat.toDigits_of_base_le (b := 16) (by decide) (Nat.not_lt.1 h)
    simp [hdigits]

theorem hexPadded_four {n : Nat} (h : n < 65536) :
    hexPadded 4 n = [Nat.digitChar (n / 4096), Nat.digitChar (n / 256 % 16),
      Nat.digitChar (n / 16 % 16), Nat.digitChar (n % 16)] := by
  have hone : hexPadded 1 (n / 4096) = [Nat.digitChar (n / 4096)] := by
    simp [hexPadded, Nat.toDigits_of_lt_base (show n / 4096 < 16 by omega)]
  have htwo : n / 16 / 16 = n / 256 := by omega
  have hthree : n / 256 / 16 = n / 4096 := by omega
  rw [hexPadded_succ, hexPadded_succ, hexPadded_succ, htwo, hthree, hone]
  rfl

theorem hexValue?_digitChar {d : Nat} (h : d < 16) : hexValue? (Nat.digitChar d) = some d := by
  have hall : ∀ d < 16, hexValue? (Nat.digitChar d) = some d := by decide
  exact hall d h

end Text

namespace CodePoint

/-- The code points that a code point may be written as: itself, or the halves of a character. -/
inductive MadeOf : CodePoint → List CodePoint → Prop where
  | self (p : CodePoint) : MadeOf p [p]
  | pair (h l : Fin 1024) : MadeOf (.char (pair h l)) [.high h, .low l]

theorem join_cons_of_joined {p : CodePoint} {ps : List CodePoint} (h : join (p :: ps) = p :: ps) :
    join ps = ps := by
  rw [join.eq_def] at h
  split at h
  · rename_i hcons
    obtain ⟨rfl, rfl⟩ := List.cons.inj hcons
    exact absurd h (by simp)
  · rename_i hcons
    obtain ⟨rfl, rfl⟩ := List.cons.inj hcons
    exact (List.cons.inj h).2
  · rename_i hnil
    exact absurd hnil (by simp)

/-- In joined code points no low half stands behind a high one. -/
theorem not_low_of_joined {h : Fin 1024} {ps : List CodePoint}
    (hjoined : join (.high h :: ps) = .high h :: ps) (l : Fin 1024) (rest : List CodePoint) :
    ps ≠ .low l :: rest := by
  rintro rfl
  simp [join] at hjoined

theorem join_high_cons {h : Fin 1024} {ps : List CodePoint}
    (hps : ∀ l rest, ps ≠ .low l :: rest) : join (.high h :: ps) = .high h :: join ps := by
  rw [join]
  rintro _ l rest ⟨⟩ rfl
  exact hps l rest rfl

theorem join_low_cons (l : Fin 1024) (ps : List CodePoint) :
    join (.low l :: ps) = .low l :: join ps := by
  rw [join]
  exact fun _ _ _ h => absurd h (by simp)

end CodePoint

namespace Json

open CodePoint (MadeOf join)

/-! ## One code point -/

/-- What is written for the code point is a row of strokes that are read as it. -/
def ReadAs (p : CodePoint) (written : List Char) : Prop :=
  ∃ strokes, Spells strokes written ∧ MadeOf p (strokes.map Stroke.point)

/-- The escape of a unit is one stroke. -/
theorem spells_unicodeEscape {n : Nat} (h : n < 65536) : Spells [.unit n] (unicodeEscape n) := by
  have hspells : Spells [.unit _] _ :=
    .cons (.unit (Text.hexValue?_digitChar (by omega : n / 4096 < 16))
      (Text.hexValue?_digitChar (by omega : n / 256 % 16 < 16))
      (Text.hexValue?_digitChar (by omega : n / 16 % 16 < 16))
      (Text.hexValue?_digitChar (by omega : n % 16 < 16))) .nil
  have hvalue : ((n / 4096 * 16 + n / 256 % 16) * 16 + n / 16 % 16) * 16 + n % 16 = n := by omega
  rw [hvalue] at hspells
  rw [unicodeEscape, Text.hexPadded_four h]
  exact hspells

theorem escaped?_of_letterEscape? {c e : Char} (h : letterEscape? c = some e) :
    escaped? e = some c := by
  unfold letterEscape? at h
  split at h <;> simp only [Option.some.injEq, reduceCtorEq] at h <;> subst h <;> rfl

theorem readAs_letterEscape {c e : Char} (h : letterEscape? c = some e) :
    ReadAs (.char c) ['\\', e] :=
  ⟨[.char c], .cons (.letter (escaped?_of_letterEscape? h)) .nil, .self _⟩

/-- A character that needs no escape is read as it is. -/
theorem readAs_self {c : Char} (hletter : letterEscape? c = none) (hcontrol : 0x20 ≤ c.toNat) :
    ReadAs (.char c) [c] := by
  have hquote : c ≠ '"' := fun h => by simp [h, letterEscape?] at hletter
  have hslash : c ≠ '\\' := fun h => by simp [h, letterEscape?] at hletter
  exact ⟨[.char c], .cons (.plain hquote hslash hcontrol) .nil, .self _⟩

/-- A code point of the first plane is one unit. -/
theorem readAs_unicodeEscape {p : CodePoint} (h : p.toNat < 0x10000) :
    ReadAs p (unicodeEscape p.toNat) := by
  refine ⟨[.unit p.toNat], spells_unicodeEscape h, ?_⟩
  have hpoint : (Stroke.unit p.toNat).point = p := CodePoint.ofNat_toNat p
  rw [List.map_cons, hpoint]
  exact .self p

/-- Any other character is two units, one for each half. -/
theorem readAs_pair {c : Char} (h : 0x10000 ≤ c.toNat) :
    ReadAs (.char c) (unicodeEscape (0xD800 + (c.toNat - 0x10000) / 0x400) ++
      unicodeEscape (0xDC00 + (c.toNat - 0x10000) % 0x400)) := by
  have hbound : c.toNat < 0x110000 := by
    rcases c.valid with h | h
    · exact Nat.lt_trans h (by decide)
    · exact h.2
  let high : Fin 1024 := ⟨(c.toNat - 0x10000) / 0x400, by omega⟩
  let low : Fin 1024 := ⟨(c.toNat - 0x10000) % 0x400, by omega⟩
  have hpair : CodePoint.pair high low = c := by
    have hcode : 0x10000 + (c.toNat - 0x10000) / 0x400 * 0x400 + (c.toNat - 0x10000) % 0x400 =
        c.toNat := by omega
    rw [CodePoint.pair, hcode, Char.ofNat_toNat]
  have hhigh : (Stroke.unit (0xD800 + high.val)).point = .high high := CodePoint.ofNat_toNat (.high high)
  have hlow : (Stroke.unit (0xDC00 + low.val)).point = .low low := CodePoint.ofNat_toNat (.low low)
  refine ⟨_, (spells_unicodeEscape (by omega)).append (spells_unicodeEscape (by omega)), ?_⟩
  have hmade := MadeOf.pair high low
  rw [hpair, ← hhigh, ← hlow] at hmade
  exact hmade

theorem readAs_plainChar (c : Char) : ReadAs (.char c) (plainChar c) := by
  unfold plainChar
  cases hletter : letterEscape? c with
  | some e => exact readAs_letterEscape hletter
  | none =>
    dsimp only
    split
    · rename_i hcontrol
      exact readAs_unicodeEscape (p := .char c) (Nat.lt_trans hcontrol (by decide))
    · rename_i hcontrol
      exact readAs_self hletter (Nat.not_lt.1 hcontrol)

theorem readAs_asciiChar (c : Char) : ReadAs (.char c) (asciiChar c) := by
  unfold asciiChar
  cases hletter : letterEscape? c with
  | some e => exact readAs_letterEscape hletter
  | none =>
    dsimp only
    split_ifs with hprintable hplane
    · exact readAs_self hletter hprintable.1
    · exact readAs_unicodeEscape (p := .char c) hplane
    · exact readAs_pair (Nat.not_lt.1 hplane)

theorem readAs_half {p : CodePoint} (h : p.isHalf = true) : ReadAs p (unicodeEscape p.toNat) := by
  refine readAs_unicodeEscape ?_
  cases p with
  | char c => exact absurd h (by simp [CodePoint.isHalf])
  | high n => simp only [CodePoint.toNat]; omega
  | low n => simp only [CodePoint.toNat]; omega

theorem readAs_asciiPoint (p : CodePoint) : ReadAs p (asciiPoint p) := by
  cases p with
  | char c => exact readAs_asciiChar c
  | high n => exact readAs_half rfl
  | low n => exact readAs_half rfl

/-! ## A text -/

/-- A text between quotes, its code points written by `point`. -/
def textChars (point : CodePoint → List Char) (s : Text) : List Char :=
  '"' :: s.points.flatMap point ++ ['"']

section
variable {point : CodePoint → List Char} (hpoint : ∀ p, ReadAs p (point p))
include hpoint

/-- The written code points of a text are a row of strokes that are read as it. -/
theorem exists_spells {ps : List CodePoint} (hps : join ps = ps) :
    ∃ strokes, Spells strokes (ps.flatMap point) ∧ join (strokes.map Stroke.point) = ps ∧
      ∀ l rest, strokes.map Stroke.point = .low l :: rest → ∃ rest', ps = .low l :: rest' := by
  -- Only a low half is written as what begins with one, so a high half finds none behind it.
  induction ps with
  | nil => exact ⟨[], .nil, rfl, fun l rest h => absurd h (by simp)⟩
  | cons p ps ih =>
    obtain ⟨front, hfront, hmade⟩ := hpoint p
    obtain ⟨strokes, hspells, hjoin, hlow⟩ := ih (CodePoint.join_cons_of_joined hps)
    refine ⟨front ++ strokes, hfront.append hspells, ?_⟩
    rw [List.map_append]
    generalize front.map Stroke.point = qs at hmade
    cases hmade with
    | pair h l => exact ⟨by simp [join, hjoin], fun l rest h => absurd h (by simp)⟩
    | self =>
      refine ⟨?_, fun l rest h => ⟨ps, by rw [(List.cons.inj h).1]⟩⟩
      rw [List.singleton_append]
      cases p with
      | char c => rw [CodePoint.join_char, hjoin]
      | low l => rw [CodePoint.join_low_cons, hjoin]
      | high h =>
        rw [CodePoint.join_high_cons, hjoin]
        intro l rest hl
        obtain ⟨rest', hrest⟩ := hlow l rest hl
        exact CodePoint.not_low_of_joined hps l rest' hrest

theorem readString_written (s : Text) (offset : Nat) (rest : List Char) :
    readString offset (s.points.flatMap point ++ '"' :: rest) =
      .ok (s, ⟨offset + (textChars point s).length, rest⟩) := by
  obtain ⟨strokes, hspells, hjoin, -⟩ := exists_spells hpoint s.join_points
  have htext : Stroke.text strokes = s :=
    Text.points_inj (by rw [Stroke.text, Text.points_ofPoints, hjoin])
  rw [readString_of_spells hspells, htext]
  simp [textChars, Nat.add_assoc]

/-- What follows a written text does not change where the text ends. -/
theorem textChars_append_inj {s t : Text} {rest rest' : List Char}
    (h : textChars point s ++ rest = textChars point t ++ rest') : s = t ∧ rest = rest' := by
  have hcut : ∀ (u : Text) (tail : List Char),
      textChars point u ++ tail = '"' :: (u.points.flatMap point ++ '"' :: tail) := by
    intro u tail
    simp [textChars]
  rw [hcut, hcut] at h
  have hread := congrArg (readString 0) (List.cons.inj h).2
  rw [readString_written hpoint, readString_written hpoint, Except.ok.injEq, Prod.mk.injEq,
    Cursor.mk.injEq] at hread
  exact ⟨hread.1, hread.2.2⟩

end

/-- **A written text is read back.** -/
theorem readString_indentedText (s : Text) (offset : Nat) (rest : List Char) :
    readString offset (s.points.flatMap asciiPoint ++ '"' :: rest) =
      .ok (s, ⟨offset + (indentedText s).length, rest⟩) :=
  readString_written readAs_asciiPoint s offset rest

/-- A character as a reader sees it between quotes, and half of a pair by its code. -/
def shownPoint : CodePoint → List Char
  | .char c => plainChar c
  | half => unicodeEscape half.toNat

theorem readAs_shownPoint : ∀ p, ReadAs p (shownPoint p)
  | .char c => readAs_plainChar c
  | .high _ => readAs_half rfl
  | .low _ => readAs_half rfl

/-- A text of characters in the compact form shows where it ends. -/
theorem compactText_append_inj {s t : String} {rest rest' : List Char}
    (h : (compactText s).map CodePoint.shown ++ rest = (compactText t).map CodePoint.shown ++ rest') :
    s = t := by
  have hshown : ∀ u : String, (compactText u).map CodePoint.shown = textChars shownPoint u := by
    intro u
    simp [compactText, textChars, Text.points, plainPoint, List.map_flatMap, List.flatMap_map,
      CodePoint.shown, Function.comp_def, shownPoint]
  rw [hshown, hshown] at h
  exact Text.chars.inj (textChars_append_inj readAs_shownPoint h).1

end Json

end Compendium
