import Compendium.Json.Reader
import Mathlib.Tactic.SplitIfs

/-!
# What is written between quotes

A text between quotes is a row of strokes: characters that stand for themselves, escapes of one
letter, and escapes of one unit by its number (`Spells`). What the strokes stand for is said apart
from how they are read (`Stroke.text`): a code point each, of which a high half and the low one right
behind it make one character. Main theorems `readString_of_spells` and `spells_of_readString`: just such
rows are read, as what they stand for.
-/

namespace Compendium.Json

/-! ## Strokes -/

/-- A part of a text: a character, or a unit by its number. -/
inductive Stroke where
  | char (c : Char)
  | unit (n : Nat)

/-- How a stroke is written. -/
inductive Stroke.Written : Stroke → List Char → Prop where
  | plain {c : Char} : c ≠ '"' → c ≠ '\\' → 0x20 ≤ c.toNat → Written (.char c) [c]
  | letter {c e : Char} : escaped? e = some c → Written (.char c) ['\\', e]
  | unit {c₁ c₂ c₃ c₄ : Char} {d₁ d₂ d₃ d₄ : Nat} : Text.hexValue? c₁ = some d₁ →
      Text.hexValue? c₂ = some d₂ → Text.hexValue? c₃ = some d₃ → Text.hexValue? c₄ = some d₄ →
      Written (.unit (((d₁ * 16 + d₂) * 16 + d₃) * 16 + d₄)) ['\\', 'u', c₁, c₂, c₃, c₄]

/-- How a row of strokes is written. -/
inductive Spells : List Stroke → List Char → Prop where
  | nil : Spells [] []
  | cons {stroke : Stroke} {strokes : List Stroke} {w rest : List Char} :
      stroke.Written w → Spells strokes rest → Spells (stroke :: strokes) (w ++ rest)

theorem Spells.append {strokes strokes' : List Stroke} {w w' : List Char} (h : Spells strokes w)
    (h' : Spells strokes' w') : Spells (strokes ++ strokes') (w ++ w') := by
  induction h with
  | nil => exact h'
  | cons hstroke _ ih =>
    rw [List.append_assoc]
    exact .cons hstroke ih

theorem printable_of_hexValue? {c : Char} {d : Nat} (h : Text.hexValue? c = some d) :
    0x20 ≤ c.toNat := by
  have hle : ∀ {a : Char}, 0x20 ≤ a.toNat → a ≤ c → 0x20 ≤ c.toNat := fun ha hac =>
    Nat.le_trans ha hac
  unfold Text.hexValue? at h
  split_ifs at h with hdigit hlower hupper
  · exact hle (by decide) hdigit.1
  · exact hle (by decide) hlower.1
  · exact hle (by decide) hupper.1

theorem printable_of_escaped? {c e : Char} (h : escaped? e = some c) : 0x20 ≤ e.toNat := by
  unfold escaped? at h
  split at h <;> first | decide | cases h

theorem printable_of_written {stroke : Stroke} {w : List Char} (h : stroke.Written w) :
    ∀ c ∈ w, 0x20 ≤ c.toNat := by
  cases h with
  | plain _ _ hc => simpa using hc
  | letter he => simpa using printable_of_escaped? he
  | unit h₁ h₂ h₃ h₄ =>
    simp only [List.forall_mem_cons]
    exact ⟨by decide, by decide, printable_of_hexValue? h₁, printable_of_hexValue? h₂,
      printable_of_hexValue? h₃, printable_of_hexValue? h₄, by simp⟩

/-- No control character stands in a row of strokes. -/
theorem printable_of_spells {strokes : List Stroke} {w : List Char} (h : Spells strokes w) :
    ∀ c ∈ w, 0x20 ≤ c.toNat := by
  induction h with
  | nil => simp
  | cons hstroke _ ih => exact List.forall_mem_append.2 ⟨printable_of_written hstroke, ih⟩

def Stroke.point : Stroke → CodePoint
  | .char c => .char c
  | .unit n => .ofNat n

/-- The text that strokes stand for. -/
def Stroke.text (strokes : List Stroke) : Text := Text.ofPoints (strokes.map Stroke.point)

variable {strokes : List Stroke}

/-! ## What a reader owes -/

/-- The strokes that have been read and not given out yet, where a reader may stand between two
strokes. -/
inductive Owes : TextMode → List Stroke → Prop where
  | plain : Owes .plain []
  | unit {start value : Nat} : Owes (.hex start 4 value) [.unit value]

variable {mode : TextMode} {owed : List Stroke}

/-- Between two strokes the next character is read as at the front of a text, behind what is owed. -/
theorem textStep_of_owes (h : Owes mode owed) (offset : Nat) (c : Char) :
    textStep offset mode c = plainStep offset (owed.map Stroke.point) c := by
  cases h with
  | plain => rfl
  | unit => rfl

/-! ## Reading strokes -/

/-- What is read, with code points in front. -/
def prepend (out : List CodePoint) (r : Except Fault (List CodePoint × Cursor)) :
    Except Fault (List CodePoint × Cursor) :=
  r.map fun p => (out ++ p.1, p.2)

theorem prepend_nil (r : Except Fault (List CodePoint × Cursor)) : prepend [] r = r := by
  cases r <;> rfl

theorem readText_next {opening offset : Nat} {mode mode' : TextMode} {c : Char} {out : List CodePoint}
    (h : textStep offset mode c = .next out mode') (rest : List Char) :
    readText opening mode offset (c :: rest) =
      prepend out (readText opening mode' (offset + 1) rest) := by
  simp only [readText, h]
  cases readText opening mode' (offset + 1) rest <;> rfl

theorem readText_hexDigit {c : Char} {d : Nat} (hd : Text.hexValue? c = some d)
    (opening start count value offset : Nat) (hcount : count ≠ 4) (rest : List Char) :
    readText opening (.hex start count value) offset (c :: rest) =
      readText opening (.hex start (count + 1) (value * 16 + d)) (offset + 1) rest := by
  have hstep : textStep offset (.hex start count value) c =
      .next [] (.hex start (count + 1) (value * 16 + d)) := by
    simp [textStep, hcount, hd]
  rw [readText_next hstep, prepend_nil]

theorem ne_u_of_escaped? {e c : Char} (h : escaped? e = some c) : e ≠ 'u' := by
  rintro rfl
  simp [escaped?] at h

/-- A row of strokes is read up to the closing quote, as the code points that it stands for. -/
theorem readText_of_spells {w : List Char} (h : Spells strokes w) (howes : Owes mode owed)
    (opening offset : Nat) (rest : List Char) :
    readText opening mode offset (w ++ '"' :: rest) =
      .ok ((owed ++ strokes).map Stroke.point, ⟨offset + w.length + 1, rest⟩) := by
  -- A unit may be owed before any stroke, so the mode goes along with the strokes.
  induction h generalizing mode owed offset with
  | nil => simp [readText, textStep_of_owes howes, plainStep]
  | @cons stroke strokes w tail hstroke _ ih =>
    cases hstroke with
    | @plain c hquote hslash hcontrol =>
      have hnext : textStep offset mode c =
          .next (owed.map Stroke.point ++ [.char c]) .plain := by
        rw [textStep_of_owes howes, plainStep, if_neg hquote, if_neg hslash,
          if_neg (Nat.not_lt.2 hcontrol)]
      rw [List.append_assoc, List.singleton_append, readText_next hnext, ih .plain]
      simp [prepend, Except.map, Stroke.point]
      omega
    | @letter c e he =>
      have hslash : textStep offset mode '\\' = .next (owed.map Stroke.point) .backslash := by
        rw [textStep_of_owes howes]
        rfl
      have hletter : textStep (offset + 1) .backslash e = .next [.char c] .plain := by
        simp [textStep, ne_u_of_escaped? he, he]
      simp only [List.cons_append, List.nil_append]
      rw [readText_next hslash, readText_next hletter, ih .plain]
      simp [prepend, Except.map, Stroke.point]
      omega
    | unit h₁ h₂ h₃ h₄ =>
      have hslash : textStep offset mode '\\' = .next (owed.map Stroke.point) .backslash := by
        rw [textStep_of_owes howes]
        rfl
      have hu : textStep (offset + 1) .backslash 'u' = .next [] (.hex (offset + 1) 0 0) := rfl
      simp only [List.cons_append, List.nil_append]
      rw [readText_next hslash, readText_next hu, prepend_nil,
        readText_hexDigit h₁ _ _ _ _ _ (by decide), readText_hexDigit h₂ _ _ _ _ _ (by decide),
        readText_hexDigit h₃ _ _ _ _ _ (by decide), readText_hexDigit h₄ _ _ _ _ _ (by decide),
        Nat.zero_mul, Nat.zero_add, ih .unit]
      simp [prepend, Except.map]
      omega

theorem readString_of_spells {w : List Char} (h : Spells strokes w) (offset : Nat)
    (rest : List Char) : readString offset (w ++ '"' :: rest) =
      .ok (Stroke.text strokes, ⟨offset + w.length + 2, rest⟩) := by
  rw [readString, readText_of_spells h .plain]
  show Except.ok _ = Except.ok _
  simp [Stroke.text]
  omega

/-! ## Only strokes are read -/

/-- What is written from where a reader stands, up to the closing quote, is the rest of a row of
strokes. -/
def Continues : TextMode → List Char → Prop
  | .plain, w => ∃ strokes, Spells strokes w
  | .backslash, w => ∃ strokes, Spells strokes ('\\' :: w)
  | .hex _ count _, w => count ≤ 4 → ∃ digits tail strokes, w = digits ++ tail ∧
      digits.length + count = 4 ∧ (∀ c ∈ digits, (Text.hexValue? c).isSome) ∧ Spells strokes tail

theorem continues_plainStep {offset : Nat} {out out' : List CodePoint} {c : Char} {mode' : TextMode}
    {w : List Char} (h : plainStep offset out c = .next out' mode')
    (hw : Continues mode' w) : ∃ strokes, Spells strokes (c :: w) := by
  unfold plainStep at h
  split_ifs at h with hquote hslash hcontrol
  · cases h
    rw [hslash]
    exact hw
  · cases h
    obtain ⟨strokes, hw⟩ := hw
    exact ⟨_, .cons (.plain hquote hslash (Nat.not_lt.1 hcontrol)) hw⟩

theorem eq_of_plainStep_done {offset : Nat} {out out' : List CodePoint} {c : Char}
    (h : plainStep offset out c = .done out') : c = '"' := by
  unfold plainStep at h
  split_ifs at h with hquote
  exact hquote

/-- A character that leads on continues the row. -/
theorem continues_next {offset : Nat} {c : Char} {out : List CodePoint} {mode' : TextMode}
    {w : List Char} (h : textStep offset mode c = .next out mode') (hw : Continues mode' w) :
    Continues mode (c :: w) := by
  cases mode with
  | plain => exact continues_plainStep h hw
  | backslash =>
    simp only [textStep] at h
    split at h
    · rename_i hu
      cases h
      obtain ⟨digits, tail, strokes, rfl, hcount, hdigits, htail⟩ := hw (by decide)
      obtain ⟨c₁, c₂, c₃, c₄, rfl⟩ : ∃ c₁ c₂ c₃ c₄, digits = [c₁, c₂, c₃, c₄] := by
        match digits, hcount with
        | [c₁, c₂, c₃, c₄], _ => exact ⟨c₁, c₂, c₃, c₄, rfl⟩
      simp only [List.forall_mem_cons, Option.isSome_iff_exists] at hdigits
      obtain ⟨⟨d₁, h₁⟩, ⟨d₂, h₂⟩, ⟨d₃, h₃⟩, ⟨d₄, h₄⟩, -⟩ := hdigits
      rw [hu]
      exact ⟨_, .cons (.unit h₁ h₂ h₃ h₄) htail⟩
    · split at h
      · rename_i d hd
        cases h
        obtain ⟨strokes, hw⟩ := hw
        exact ⟨_, .cons (.letter hd) hw⟩
      · cases h
  | hex start count value =>
    intro hle
    simp only [textStep] at h
    split at h
    · rename_i hfour
      obtain ⟨strokes, hw⟩ := continues_plainStep h hw
      exact ⟨[], _, strokes, rfl, by simp [hfour], by simp, hw⟩
    · rename_i hfour
      split at h
      · rename_i d hd
        cases h
        obtain ⟨digits, tail, strokes, rfl, hcount, hdigits, htail⟩ := hw (by omega)
        refine ⟨c :: digits, tail, strokes, rfl, by simp; omega, ?_, htail⟩
        exact List.forall_mem_cons.2 ⟨by simp [hd], hdigits⟩
      · cases h

/-- A character that ends a text is its closing quote, and the row may end there. -/
theorem continues_done {offset : Nat} {c : Char} {out : List CodePoint}
    (h : textStep offset mode c = .done out) : c = '"' ∧ Continues mode [] := by
  cases mode with
  | plain => exact ⟨eq_of_plainStep_done h, [], .nil⟩
  | backslash =>
    simp only [textStep] at h
    split at h
    · cases h
    · split at h <;> cases h
  | hex start count value =>
    simp only [textStep] at h
    split at h
    · rename_i hfour
      exact ⟨eq_of_plainStep_done h, fun _ => ⟨[], [], [], rfl, by simp [hfour], by simp, .nil⟩⟩
    · split at h <;> cases h

theorem continues_of_readText {opening offset : Nat} {cs : List Char} {out : List CodePoint}
    {after : Cursor}
    (h : readText opening mode offset cs = .ok (out, after)) :
    ∃ w, cs = w ++ '"' :: after.rest ∧ Continues mode w := by
  induction cs generalizing mode offset out with
  | nil => cases h
  | cons c rest ih =>
    cases hstep : textStep offset mode c with
    | done cs =>
      obtain ⟨rfl, hw⟩ := continues_done hstep
      simp only [readText, hstep] at h
      cases h
      exact ⟨[], rfl, hw⟩
    | fail f => simp [readText, hstep] at h
    | next cs mode' =>
      rw [readText_next hstep] at h
      cases hrest : readText opening mode' (offset + 1) rest with
      | error f =>
        rw [hrest] at h
        cases h
      | ok p =>
        obtain ⟨out', after'⟩ := p
        rw [hrest] at h
        cases h
        obtain ⟨w, rfl, hw⟩ := ih hrest
        exact ⟨c :: w, rfl, continues_next hstep hw⟩

/-- **What is read up to a closing quote is a row of strokes,** and what it stands for is read. -/
theorem spells_of_readString {offset : Nat} {cs : List Char} {s : Text} {after : Cursor}
    (h : readString offset cs = .ok (s, after)) :
    ∃ strokes w, Spells strokes w ∧ cs = w ++ '"' :: after.rest ∧ s = Stroke.text strokes := by
  have htext : ∃ out, readText offset .plain (offset + 1) cs = .ok (out, after) := by
    unfold readString at h
    cases hread : readText offset .plain (offset + 1) cs with
    | error f =>
      rw [hread] at h
      cases h
    | ok p =>
      rw [hread] at h
      cases h
      exact ⟨p.1, rfl⟩
  obtain ⟨out, htext⟩ := htext
  obtain ⟨w, rfl, strokes, hspells⟩ := continues_of_readText htext
  rw [readString_of_spells hspells, Except.ok.injEq, Prod.mk.injEq] at h
  exact ⟨strokes, w, hspells, rfl, h.1.symm⟩

end Compendium.Json
