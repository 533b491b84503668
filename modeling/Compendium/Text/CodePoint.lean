/-!
# Texts of documents

A document writes a character past the first 65536 as a pair of halves, a high one and a low one, and
nothing keeps it from holding a half alone. A text is then a row of code points and no string: it is
compared, put in order and written with escapes like any other, but UTF-8 has no octets for it. A high
half with a low one right behind it is the character that they make. Main statements: a text is known
by its code points (`ofPoints_points`), and texts are in a total order (`lt_trans`, `lt_irrefl`,
`lt_of_not_lt`).
-/

namespace Compendium

/-- A character, or a half of a pair that stands alone. -/
inductive CodePoint where
  | char (c : Char)
  | high (n : Fin 1024)
  | low (n : Fin 1024)
deriving DecidableEq, Repr

namespace CodePoint

def toNat : CodePoint → Nat
  | char c => c.toNat
  | high n => 0xD800 + n
  | low n => 0xDC00 + n

/-- The code point of a number that one has. -/
def ofNat (n : Nat) : CodePoint :=
  if h : 0xD800 ≤ n ∧ n < 0xDC00 then high ⟨n - 0xD800, by omega⟩
  else if h : 0xDC00 ≤ n ∧ n < 0xE000 then low ⟨n - 0xDC00, by omega⟩
  else char (Char.ofNat n)

def isHalf : CodePoint → Bool
  | char _ => false
  | _ => true

@[simp] theorem isHalf_char (c : Char) : (char c).isHalf = false := rfl

def char? : CodePoint → Option Char
  | char c => some c
  | _ => none

/-- The code point as a reader sees it, a half as the replacement character. -/
def shown : CodePoint → Char
  | char c => c
  | _ => '\uFFFD'

/-- The character that two halves make. -/
def pair (high low : Fin 1024) : Char := Char.ofNat (0x10000 + high * 0x400 + low)

/-- The code points with the characters that halves make side by side. -/
def join : List CodePoint → List CodePoint
  | .high h :: .low l :: rest => .char (pair h l) :: join rest
  | p :: rest => p :: join rest
  | [] => []

theorem char_toNat (c : Char) : c.toNat < 0xD800 ∨ 0xE000 ≤ c.toNat := by
  rcases c.valid with h | h
  · exact .inl h
  · exact .inr h.1

theorem toNat_inj {p q : CodePoint} (h : p.toNat = q.toNat) : p = q := by
  cases p with
  | char c =>
    have hc := char_toNat c
    cases q with
    | char d => exact congrArg char (Char.toNat_inj.1 h)
    | high n => simp only [toNat] at h; omega
    | low n => simp only [toNat] at h; omega
  | high m =>
    cases q with
    | char d => have hd := char_toNat d; simp only [toNat] at h; omega
    | high n => simp only [toNat] at h; rw [Fin.ext (show m.val = n.val by omega)]
    | low n => simp only [toNat] at h; omega
  | low m =>
    cases q with
    | char d => have hd := char_toNat d; simp only [toNat] at h; omega
    | high n => simp only [toNat] at h; omega
    | low n => simp only [toNat] at h; rw [Fin.ext (show m.val = n.val by omega)]

theorem ofNat_toNat (p : CodePoint) : ofNat p.toNat = p := by
  cases p with
  | char c =>
    have hc := char_toNat c
    rw [ofNat, toNat, dif_neg (by omega), dif_neg (by omega), Char.ofNat_toNat]
  | high n =>
    have hn : 0xD800 ≤ 0xD800 + n.val ∧ 0xD800 + n.val < 0xDC00 := by omega
    simp [ofNat, toNat, dif_pos hn]
  | low n =>
    have hn : 0xDC00 ≤ 0xDC00 + n.val ∧ 0xDC00 + n.val < 0xE000 := by omega
    simp [ofNat, toNat, dif_pos hn]

/-! ## Joined code points -/

theorem join_char (c : Char) (rest : List CodePoint) : join (char c :: rest) = char c :: join rest := by
  rw [join]
  exact fun _ _ _ h => absurd h (by simp)

theorem join_map_char (cs : List Char) : join (cs.map char) = cs.map char := by
  induction cs with
  | nil => rfl
  | cons c cs ih => rw [List.map_cons, join_char, ih]

/-- No pair is left to be joined. -/
theorem join_join (ps : List CodePoint) : join (join ps) = join ps := by
  fun_induction join ps with
  | case1 h l rest ih => rw [join_char, ih]
  | case2 p rest hapart ih =>
    cases p with
    | char c => rw [join_char, ih]
    | low l => rw [join, ih]; simp
    | high h =>
      -- The first that is left behind the half is no low half, for that would have stood there before.
      rw [join, ih]
      rintro _ l rest' ⟨⟩ hrest
      cases rest with
      | nil => simp [join] at hrest
      | cons q rest =>
        cases q with
        | char c => rw [join_char] at hrest; simp at hrest
        | low l' => exact hapart h l' rest rfl rfl
        | high h' =>
          cases rest with
          | nil => simp [join] at hrest
          | cons r rest => cases r <;> simp [join] at hrest
  | case3 => rfl

end CodePoint

/-! ## Texts -/

/-- Code points that hold no pair, and a half at least. -/
structure Ragged where
  points : List CodePoint
  joined : CodePoint.join points = points
  ragged : points.any CodePoint.isHalf = true
deriving DecidableEq, Repr

/-- A text of a document. -/
inductive Text where
  | chars (s : String)
  | ragged (r : Ragged)
deriving DecidableEq, Repr

instance : Coe String Text := ⟨.chars⟩

namespace Text

def points : Text → List CodePoint
  | chars s => s.toList.map .char
  | ragged r => r.points

/-- The text of code points, pairs of which are the characters they make. -/
def ofPoints (ps : List CodePoint) : Text :=
  if h : (CodePoint.join ps).any CodePoint.isHalf then .ragged ⟨_, CodePoint.join_join ps, h⟩
  else .chars (String.ofList ((CodePoint.join ps).filterMap CodePoint.char?))

def string? : Text → Option String
  | chars s => some s
  | ragged _ => none

theorem string?_eq_some_iff {t : Text} {s : String} : t.string? = some s ↔ t = s := by
  cases t <;> simp [string?]

def isEmpty : Text → Bool
  | chars s => s.isEmpty
  | ragged _ => false

/-- The text consists of characters. -/
def isPlain : Text → Bool
  | chars _ => true
  | ragged _ => false

/-- The text as a reader sees it. -/
def shown : Text → String
  | chars s => s
  | ragged r => String.ofList (r.points.map CodePoint.shown)

@[simp] theorem isEmpty_chars (s : String) : (chars s).isEmpty = s.isEmpty := rfl

@[simp] theorem isPlain_chars (s : String) : (chars s).isPlain = true := rfl

@[simp] theorem shown_chars (s : String) : (chars s).shown = s := rfl

theorem points_ofPoints (ps : List CodePoint) : (ofPoints ps).points = CodePoint.join ps := by
  unfold ofPoints
  split
  · rfl
  · rename_i hwhole
    have hchars : ∀ qs : List CodePoint, ¬ qs.any CodePoint.isHalf = true →
        (qs.filterMap CodePoint.char?).map CodePoint.char = qs := by
      intro qs h
      induction qs with
      | nil => rfl
      | cons q qs ih =>
        simp only [List.any_cons, Bool.or_eq_true, not_or] at h
        cases q with
        | char c => simp [CodePoint.char?, ih h.2]
        | _ => exact absurd rfl h.1
    rw [points, String.toList_ofList, hchars _ hwhole]

theorem join_points (t : Text) : CodePoint.join t.points = t.points := by
  cases t with
  | chars s => exact CodePoint.join_map_char s.toList
  | ragged r => exact r.joined

/-- A text is that of its code points. -/
theorem ofPoints_points (t : Text) : ofPoints t.points = t := by
  cases t with
  | chars s =>
    have hwhole : ((s.toList.map CodePoint.char).any CodePoint.isHalf) = false := by
      simp [CodePoint.isHalf]
    have hchars : (s.toList.map CodePoint.char).filterMap CodePoint.char? = s.toList := by
      simp [List.filterMap_map, Function.comp_def, CodePoint.char?]
    simp [ofPoints, points, CodePoint.join_map_char, hwhole, hchars]
  | ragged r =>
    obtain ⟨ps, hjoined, hragged⟩ := r
    simp [ofPoints, points, hjoined, hragged]

theorem points_inj {s t : Text} (h : s.points = t.points) : s = t := by
  rw [← ofPoints_points s, h, ofPoints_points]

/-! ## Order -/

/-- The numbers of the code points, by which texts are in order. -/
def codes (t : Text) : List Nat := t.points.map CodePoint.toNat

instance : LT Text := ⟨fun s t => s.codes < t.codes⟩

instance (s t : Text) : Decidable (s < t) := inferInstanceAs (Decidable (s.codes < t.codes))

theorem codes_inj {s t : Text} (h : s.codes = t.codes) : s = t :=
  points_inj (List.map_inj_right (fun _ _ => CodePoint.toNat_inj) |>.1 h)

theorem lt_irrefl (t : Text) : ¬ t < t := List.lt_irrefl (α := Nat) t.codes

theorem lt_trans {s t u : Text} (h : s < t) (h' : t < u) : s < u := List.lt_trans (α := Nat) h h'

theorem lt_asymm {s t : Text} (h : s < t) : ¬ t < s := fun h' => lt_irrefl s (lt_trans h h')

theorem lt_of_not_lt {s t : Text} (h : ¬ s < t) (hne : s ≠ t) : t < s := by
  refine Decidable.byContradiction fun h' => hne (codes_inj ?_)
  exact List.le_antisymm (List.not_lt.1 h') (List.not_lt.1 h)

end Text

end Compendium
