import Compendium.Files.Document
import Compendium.Proofs.Json.Texts
import Compendium.Proofs.Text.Encoding

/-!
# Values read back

What the indented form of a value must be like for reading to give the value again (`ReadsBack`):
it begins with neither a blank nor a closing bracket, it is ASCII without carriage returns, and
reading it stops right behind it. Texts are so, and a list is if its items are. Main theorem
`ofOctets_toOctets`: the octets that hold such a value are a document that gives it back.
-/

namespace Compendium

namespace Json

/-- What may follow a value in the indented form: nothing, a comma, or the next line. -/
def FollowsValue (rest : List Char) : Prop := ∀ c, rest.head? = some c → c = ',' ∨ c = '\n'

/-- The indented form of a value is read back, at any depth. -/
structure ReadsBack (v : Json) : Prop where
  starts : ∀ depth, ∃ c cs, v.indentedChars depth = c :: cs ∧
    isSpace c = false ∧ c ≠ ']' ∧ c.toNat < 128
  ascii : ∀ depth, ∀ c ∈ v.indentedChars depth, c.toNat < 128 ∧ c ≠ '\r'
  reads : ∀ depth fuel offset rest, (v.indentedChars depth).length ≤ fuel → FollowsValue rest →
    readValue fuel ⟨offset, v.indentedChars depth ++ rest⟩ =
      .ok (v, ⟨offset + (v.indentedChars depth).length, rest⟩)

/-! ## Blanks -/

theorem skipSpace_stop {c : Char} (hc : isSpace c = false) (offset : Nat) (cs : List Char) :
    skipSpace offset (c :: cs) = ⟨offset, c :: cs⟩ := by
  simp [skipSpace, hc]

theorem skipSpace_append {blanks : List Char} (hblanks : ∀ c ∈ blanks, isSpace c = true)
    (offset : Nat) (cs : List Char) :
    skipSpace offset (blanks ++ cs) = skipSpace (offset + blanks.length) cs := by
  induction blanks generalizing offset with
  | nil => rfl
  | cons c blanks ih =>
    have hrest : ∀ d ∈ blanks, isSpace d = true := fun d hd => hblanks d (List.mem_cons_of_mem c hd)
    rw [List.cons_append, skipSpace, hblanks c (by simp), if_pos rfl, ih hrest, List.length_cons]
    congr 1
    omega

theorem mem_newLine {c : Char} {depth : Nat} (h : c ∈ newLine depth) : c = '\n' ∨ c = ' ' := by
  rcases List.mem_cons.1 h with rfl | h
  · exact Or.inl rfl
  · exact Or.inr (List.eq_of_mem_replicate h)

theorem isSpace_of_mem_newLine {c : Char} {depth : Nat} (h : c ∈ newLine depth) :
    isSpace c = true := by
  rcases mem_newLine h with rfl | rfl <;> decide

theorem ascii_of_mem_newLine {c : Char} {depth : Nat} (h : c ∈ newLine depth) :
    c.toNat < 128 ∧ c ≠ '\r' := by
  rcases mem_newLine h with rfl | rfl <;> decide

theorem skipSpace_newLine {c : Char} (hc : isSpace c = false) (offset depth : Nat) (cs : List Char) :
    skipSpace offset (newLine depth ++ c :: cs) = ⟨offset + (newLine depth).length, c :: cs⟩ := by
  rw [skipSpace_append (fun _ => isSpace_of_mem_newLine), skipSpace_stop hc]

theorem followsValue_newLine (depth : Nat) (cs : List Char) : FollowsValue (newLine depth ++ cs) := by
  intro c hc
  have : '\n' = c := by simpa [newLine] using hc
  exact Or.inr this.symm

theorem followsValue_comma (cs : List Char) : FollowsValue (',' :: cs) := by
  intro c hc
  have : ',' = c := by simpa using hc
  exact Or.inl this.symm

/-! ## Texts -/

theorem ascii_hexPadded {n : Nat} (h : n < 65536) {c : Char} (hc : c ∈ Text.hexPadded 4 n) :
    c.toNat < 128 ∧ c ≠ '\r' := by
  have hdigit : ∀ d < 16, (Nat.digitChar d).toNat < 128 ∧ Nat.digitChar d ≠ '\r' := by decide
  rw [Text.hexPadded_four h] at hc
  simp only [List.mem_cons, List.not_mem_nil, or_false] at hc
  rcases hc with rfl | rfl | rfl | rfl <;> exact hdigit _ (by omega)

theorem ascii_unicodeEscape {n : Nat} (h : n < 65536) {c : Char} (hc : c ∈ unicodeEscape n) :
    c.toNat < 128 ∧ c ≠ '\r' := by
  simp only [unicodeEscape, List.mem_cons] at hc
  rcases hc with rfl | rfl | hc
  · decide
  · decide
  · exact ascii_hexPadded h hc

theorem ascii_asciiChar {c d : Char} (hd : d ∈ asciiChar c) : d.toNat < 128 ∧ d ≠ '\r' := by
  unfold asciiChar at hd
  cases hletter : letterEscape? c with
  | some e =>
    rw [hletter] at hd
    have he : e.toNat < 128 ∧ e ≠ '\r' := by
      unfold letterEscape? at hletter
      split at hletter <;> simp only [Option.some.injEq, reduceCtorEq] at hletter <;>
        subst hletter <;> decide
    simp only [List.mem_cons, List.not_mem_nil, or_false] at hd
    rcases hd with rfl | rfl
    · decide
    · exact he
  | none =>
    rw [hletter] at hd
    dsimp only at hd
    have hbound : c.toNat < 0x110000 := by
      rcases c.valid with h | h
      · exact Nat.lt_trans h (by decide)
      · exact h.2
    split_ifs at hd with hprintable hplane
    · simp only [List.mem_singleton] at hd
      subst hd
      exact ⟨by omega, fun h => absurd hletter (by rw [h]; decide)⟩
    · exact ascii_unicodeEscape hplane hd
    · rcases List.mem_append.1 hd with hd | hd <;> exact ascii_unicodeEscape (by omega) hd

theorem ascii_asciiPoint {p : CodePoint} {d : Char} (hd : d ∈ asciiPoint p) :
    d.toNat < 128 ∧ d ≠ '\r' := by
  cases p with
  | char c => exact ascii_asciiChar hd
  | high n => exact ascii_unicodeEscape (by simp only [CodePoint.toNat]; omega) hd
  | low n => exact ascii_unicodeEscape (by simp only [CodePoint.toNat]; omega) hd

theorem readsBack_str (s : Text) : ReadsBack (.str s) where
  starts depth := ⟨'"', s.points.flatMap asciiPoint ++ ['"'], rfl, by decide, by decide, by decide⟩
  ascii depth c hc := by
    simp only [indentedChars, indentedText, List.cons_append, List.mem_cons, List.mem_append,
      List.mem_flatMap, List.not_mem_nil, or_false] at hc
    rcases hc with rfl | ⟨d, -, hd⟩ | rfl
    · decide
    · exact ascii_asciiPoint hd
    · decide
  reads depth fuel offset rest hfuel _ := by
    cases fuel with
    | zero => simp [indentedChars, indentedText] at hfuel
    | succ fuel =>
      have hread := readString_indentedText s offset rest
      simp only [indentedChars]
      have htext : indentedText s ++ rest =
          '"' :: (s.points.flatMap asciiPoint ++ '"' :: rest) := by simp [indentedText]
      simp only [htext, readValue, hread]
      rfl

/-! ## Lists -/

/-- The items of a list and its closing bracket, from the first item on. -/
def itemsBody (depth : Nat) (v : Json) (rest : List Json) : List Char :=
  v.indentedChars (depth + 1) ++ (if rest.isEmpty then [] else [',']) ++ indentedItems depth rest

theorem indentedItems_cons (depth : Nat) (v : Json) (rest : List Json) :
    indentedItems depth (v :: rest) = newLine (depth + 1) ++ itemsBody depth v rest := by
  simp [indentedItems, itemsBody]

theorem itemsBody_cons (depth : Nat) (v w : Json) (rest : List Json) :
    itemsBody depth v (w :: rest) =
      v.indentedChars (depth + 1) ++ ',' :: (newLine (depth + 1) ++ itemsBody depth w rest) := by
  rw [itemsBody, indentedItems_cons]
  simp

theorem readItems_indented {v : Json} {items : List Json} (hv : ReadsBack v)
    (hitems : ∀ w ∈ items, ReadsBack w) (depth fuel offset : Nat) (rest : List Char)
    (hfuel : (itemsBody depth v items).length < fuel) :
    readItems fuel ⟨offset, itemsBody depth v items ++ rest⟩ =
      .ok (v :: items, ⟨offset + (itemsBody depth v items).length, rest⟩) := by
  induction items generalizing v fuel offset with
  | nil =>
    cases fuel with
    | zero => omega
    | succ fuel =>
      have hbody : itemsBody depth v [] ++ rest =
          v.indentedChars (depth + 1) ++ (newLine depth ++ ']' :: rest) := by
        simp [itemsBody, indentedItems]
      have hlen : (itemsBody depth v []).length =
          (v.indentedChars (depth + 1)).length + (newLine depth).length + 1 := by
        simp [itemsBody, indentedItems, Nat.add_assoc]
      rw [hbody, readItems, hv.reads _ _ _ _ (by omega) (followsValue_newLine _ _), hlen]
      simp only [Bind.bind, Except.bind, Cursor.space, skipSpace_newLine (c := ']') (by decide)]
      simp [pure, Except.pure, Nat.add_assoc]
  | cons w items ih =>
    cases fuel with
    | zero => omega
    | succ fuel =>
      have hbody : itemsBody depth v (w :: items) ++ rest = v.indentedChars (depth + 1) ++
          ',' :: (newLine (depth + 1) ++ (itemsBody depth w items ++ rest)) := by
        simp [itemsBody_cons]
      have hlen : (itemsBody depth v (w :: items)).length = (v.indentedChars (depth + 1)).length + 1 +
          (newLine (depth + 1)).length + (itemsBody depth w items).length := by
        rw [itemsBody_cons, List.length_append, List.length_cons, List.length_append]
        omega
      obtain ⟨c, cs, hstart, hspace, -, -⟩ := (hitems w (by simp)).starts (depth + 1)
      obtain ⟨tail, htail⟩ : ∃ tail, itemsBody depth w items ++ rest = c :: tail := by
        rw [itemsBody, hstart]
        exact ⟨_, rfl⟩
      have hnext := ih (hitems w (by simp)) (fun x hx => hitems x (List.mem_cons_of_mem w hx))
        fuel (offset + (v.indentedChars (depth + 1)).length + 1 + (newLine (depth + 1)).length) (by omega)
      rw [htail] at hnext
      rw [hbody, readItems, hv.reads _ _ _ _ (by omega) (followsValue_comma _), htail, hlen]
      simp only [Bind.bind, Except.bind, Cursor.space, skipSpace_stop (c := ',') (by decide),
        skipSpace_newLine hspace, hnext]
      simp [pure, Except.pure, Nat.add_assoc]

theorem ascii_indentedItems {items : List Json} (hitems : ∀ v ∈ items, ReadsBack v) (depth : Nat)
    {c : Char} (hc : c ∈ indentedItems depth items) : c.toNat < 128 ∧ c ≠ '\r' := by
  induction items with
  | nil =>
    simp only [indentedItems, List.mem_append, List.mem_singleton] at hc
    rcases hc with hc | rfl
    · exact ascii_of_mem_newLine hc
    · decide
  | cons v items ih =>
    simp only [indentedItems, List.mem_append] at hc
    rcases hc with ((hc | hc) | hc) | hc
    · exact ascii_of_mem_newLine hc
    · exact (hitems v (by simp)).ascii _ c hc
    · split_ifs at hc
      · simp at hc
      · simp only [List.mem_singleton] at hc
        subst hc
        decide
    · exact ih (fun w hw => hitems w (List.mem_cons_of_mem v hw)) hc

theorem readsBack_arr {items : List Json} (hitems : ∀ v ∈ items, ReadsBack v) :
    ReadsBack (.arr items) where
  starts depth := by
    cases items with
    | nil => exact ⟨'[', [']'], rfl, by decide, by decide, by decide⟩
    | cons v items => exact ⟨'[', indentedItems depth (v :: items), rfl, by decide, by decide, by decide⟩
  ascii depth c hc := by
    cases items with
    | nil =>
      simp only [indentedChars, List.mem_cons, List.not_mem_nil, or_false] at hc
      rcases hc with rfl | rfl <;> decide
    | cons v items =>
      simp only [indentedChars, List.mem_cons] at hc
      rcases hc with rfl | hc
      · decide
      · exact ascii_indentedItems hitems depth hc
  reads depth fuel offset rest hfuel _ := by
    cases fuel with
    | zero => cases items <;> simp [indentedChars] at hfuel
    | succ fuel =>
      cases items with
      | nil => rfl
      | cons v items =>
        obtain ⟨c, cs, hstart, hspace, hbracket, -⟩ := (hitems v (by simp)).starts (depth + 1)
        obtain ⟨tail, htail⟩ : ∃ tail, itemsBody depth v items ++ rest = c :: tail := by
          rw [itemsBody, hstart]
          exact ⟨_, rfl⟩
        have hchars : (Json.arr (v :: items)).indentedChars depth =
            '[' :: (newLine (depth + 1) ++ itemsBody depth v items) := by
          rw [indentedChars, indentedItems_cons]
          simp
        rw [hchars] at hfuel ⊢
        simp only [List.length_cons, List.length_append] at hfuel
        have hnl : 0 < (newLine (depth + 1)).length := by simp [newLine]
        have hread := readItems_indented (hitems v (by simp))
          (fun w hw => hitems w (List.mem_cons_of_mem v hw)) depth fuel
          (offset + 1 + (newLine (depth + 1)).length) rest (by omega)
        have hspaced : Cursor.space ⟨offset + 1, newLine (depth + 1) ++ c :: tail⟩ =
            ⟨offset + 1 + (newLine (depth + 1)).length, c :: tail⟩ := skipSpace_newLine hspace _ _ _
        rw [htail] at hread
        rw [List.cons_append, List.append_assoc, htail, readValue]
        simp only [hspaced]
        split
        · rename_i tail' hclosed
          rw [List.cons.injEq] at hclosed
          exact absurd hclosed.1 hbracket
        · simp only [hread, Bind.bind, Except.bind, List.length_cons, List.length_append]
          simp only [pure, Except.pure, Except.ok.injEq, Prod.mk.injEq, Cursor.mk.injEq, and_true,
            true_and]
          omega

/-! ## Documents -/

theorem read_indented {v : Json} (h : ReadsBack v) : read v.indented = .ok v := by
  obtain ⟨c, cs, hstart, hspace, -, hascii⟩ := h.starts 0
  have hmark : (v.indentedChars 0).head? ≠ some '\uFEFF' := by
    rw [hstart, List.head?_cons]
    intro hc
    rw [Option.some.inj hc] at hascii
    exact absurd hascii (by decide)
  have hreads := h.reads 0 (2 * (v.indentedChars 0).length + 1) 0 [] (by omega) (by simp [FollowsValue])
  have hfront : skipSpace 0 (v.indentedChars 0) = ⟨0, v.indentedChars 0⟩ := by
    rw [hstart, skipSpace_stop hspace]
  rw [List.append_nil] at hreads
  rw [read, indented, if_neg hmark]
  simp only [readAll, hfront, hreads, Bind.bind, Except.bind, pure, Except.pure, Cursor.space, skipSpace]

end Json

namespace Document

/-- Octets hold a value just when they are UTF-8 text in which the value is read. -/
theorem ofOctets_eq_ok_iff {octets : List UInt8} {v : Json} : ofOctets octets = .ok v ↔
    ∃ cs, octets = Text.Utf8.encode cs ∧ Json.read (Text.unifyNewlines cs) = .ok v := by
  simp only [← Text.Utf8.decode_eq_ok_iff, ofOctets]
  cases Text.Utf8.decode octets with
  | error f => simp
  | ok cs => cases hread : Json.read (Text.unifyNewlines cs) <;> simp [hread]

/-- **A value that was written is read back from its octets.** -/
theorem ofOctets_toOctets {v : Json} (h : v.ReadsBack) : ofOctets (toOctets v) = .ok v := by
  have hreturn : '\r' ∉ v.indented := by
    intro hc
    exact (h.ascii 0 _ hc).2 rfl
  refine ofOctets_eq_ok_iff.2 ⟨v.indented, rfl, ?_⟩
  rw [Text.unifyNewlines_of_no_return hreturn, Json.read_indented h]

/-- What is written is ASCII. -/
theorem ascii_toOctets {v : Json} (h : v.ReadsBack) {b : UInt8} (hb : b ∈ toOctets v) : b < 128 :=
  Text.Utf8.lt_of_mem_encode (fun c hc => (h.ascii 0 c hc).1) hb

end Document

end Compendium
