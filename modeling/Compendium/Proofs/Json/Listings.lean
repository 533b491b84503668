import Compendium.Proofs.Json.Readings
import Compendium.Proofs.Json.Strokes

/-!
# Lists of texts

The ways to write a list of texts (`Listing`): brackets around rows of strokes between quotes, with
commas between them and blanks wherever they may stand. Just these are read as a list of texts
(`read_eq_ok_iff`), and how the lines of a text end makes no difference to what it lists
(`listing_unifyNewlines`), because inside quotes no line can end.
-/

namespace Compendium.Json

/-! ## The ways to write a list -/

/-- Nothing but blanks. -/
def Blanks (cs : List Char) : Prop := ∀ c ∈ cs, isSpace c = true

/-- A text between quotes, with blanks around it. -/
inductive ListingItem : Text → List Char → Prop where
  | mk {strokes : List Stroke} {before w after : List Char} : Blanks before → Spells strokes w →
      Blanks after →
      ListingItem (Stroke.text strokes) (before ++ '"' :: (w ++ '"' :: after))

/-- Texts between quotes, with commas between them. -/
inductive ListingItems : List Text → List Char → Prop where
  | last {key : Text} {w : List Char} : ListingItem key w → ListingItems [key] w
  | more {key : Text} {keys : List Text} {w rest : List Char} : ListingItem key w →
      ListingItems keys rest → ListingItems (key :: keys) (w ++ ',' :: rest)

/-- What stands between the brackets of a list of texts. -/
def ListingBody (keys : List Text) (body : List Char) : Prop :=
  keys = [] ∧ Blanks body ∨ ListingItems keys body

/-- A list of texts, with blanks around it. -/
inductive Listing : List Text → List Char → Prop where
  | mk {keys : List Text} {before body after : List Char} : Blanks before →
      ListingBody keys body → Blanks after → Listing keys (before ++ '[' :: (body ++ ']' :: after))

variable {key : Text} {keys : List Text} {cs w body : List Char}

/-! ## Every listing is read -/

theorem skipSpace_blanks {blanks : List Char} (h : Blanks blanks) {c : Char}
    (hc : isSpace c = false) (offset : Nat) (rest : List Char) :
    skipSpace offset (blanks ++ c :: rest) = ⟨offset + blanks.length, c :: rest⟩ := by
  rw [skipSpace_append h, skipSpace_stop hc]

/-- An item is read up to what follows it and is not blank. -/
theorem readValue_of_listingItem (h : ListingItem key w) (fuel offset : Nat) {c : Char}
    (hc : isSpace c = false) (rest : List Char) :
    ∃ after offset', readValue (fuel + 1) (skipSpace offset (w ++ c :: rest)) = .ok (.str key, after) ∧
      after.space = ⟨offset', c :: rest⟩ := by
  cases h with
  | @mk strokes before w after hbefore hspells hafter =>
    have hcut : before ++ '"' :: (w ++ '"' :: after) ++ c :: rest =
        before ++ '"' :: (w ++ '"' :: (after ++ c :: rest)) := by simp
    refine ⟨⟨offset + before.length + w.length + 2, after ++ c :: rest⟩, _, ?_,
      skipSpace_blanks hafter hc _ rest⟩
    rw [hcut, skipSpace_blanks hbefore (by decide), readValue]
    simp only [readString_of_spells hspells]
    rfl

theorem two_le_length_of_listingItem (h : ListingItem key w) : 2 ≤ w.length := by
  cases h
  simp
  omega

theorem readItems_of_listingItems (h : ListingItems keys body) {fuel : Nat}
    (hfuel : body.length < fuel) (offset : Nat) (rest : List Char) :
    ∃ offset', readItems fuel (skipSpace offset (body ++ ']' :: rest)) =
      .ok (keys.map .str, ⟨offset', rest⟩) := by
  induction h generalizing fuel offset with
  | @last key w hitem =>
    have hlength := two_le_length_of_listingItem hitem
    obtain ⟨fuel, rfl⟩ : ∃ fuel', fuel = fuel' + 1 + 1 := ⟨fuel - 2, by omega⟩
    obtain ⟨after, offset', hread, hspace⟩ :=
      readValue_of_listingItem hitem fuel offset (by decide : isSpace ']' = false) rest
    rw [readItems, hread]
    simp only [Bind.bind, Except.bind, hspace]
    exact ⟨_, rfl⟩
  | @more key keys w tail hitem _ ih =>
    have hlength := two_le_length_of_listingItem hitem
    rw [List.length_append, List.length_cons] at hfuel
    obtain ⟨fuel, rfl⟩ : ∃ fuel', fuel = fuel' + 1 + 1 := ⟨fuel - 2, by omega⟩
    obtain ⟨after, offset', hread, hspace⟩ :=
      readValue_of_listingItem hitem fuel offset (by decide : isSpace ',' = false) (tail ++ ']' :: rest)
    obtain ⟨last, hitems⟩ := @ih (fuel + 1) (by omega) (offset' + 1)
    rw [List.append_assoc, List.cons_append, readItems, hread]
    simp only [Bind.bind, Except.bind, hspace]
    simp only [Cursor.space, hitems]
    exact ⟨_, rfl⟩

theorem exists_quote_of_listingItems (h : ListingItems keys body) :
    ∃ blanks tail, Blanks blanks ∧ body = blanks ++ '"' :: tail := by
  have hitem : ∀ {key w}, ListingItem key w → ∃ blanks tail, Blanks blanks ∧ w = blanks ++ '"' :: tail := by
    rintro _ _ ⟨hbefore, -, -⟩
    exact ⟨_, _, hbefore, rfl⟩
  cases h with
  | last h => exact hitem h
  | more h _ =>
    obtain ⟨blanks, tail, hblanks, rfl⟩ := hitem h
    exact ⟨blanks, _, hblanks, by rw [List.append_assoc, List.cons_append]⟩

/-- A list is read from its opening bracket up to what follows its closing one. -/
theorem readValue_of_listingBody (h : ListingBody keys body) {fuel : Nat}
    (hfuel : body.length < fuel) (offset : Nat) (rest : List Char) :
    ∃ offset', readValue (fuel + 1) ⟨offset, '[' :: (body ++ ']' :: rest)⟩ =
      .ok (.arr (keys.map .str), ⟨offset', rest⟩) := by
  rw [readValue]
  rcases h with ⟨rfl, hblanks⟩ | hitems
  · simp only [Cursor.space, skipSpace_blanks (c := ']') hblanks (by decide)]
    exact ⟨_, rfl⟩
  · obtain ⟨offset', hread⟩ := readItems_of_listingItems hitems hfuel (offset + 1) rest
    obtain ⟨blanks, tail, hblanks, rfl⟩ := exists_quote_of_listingItems hitems
    rw [List.append_assoc, List.cons_append, skipSpace_blanks hblanks (by decide)] at hread
    simp only [Cursor.space, List.append_assoc, List.cons_append,
      skipSpace_blanks (c := '"') hblanks (by decide), hread, Bind.bind, Except.bind]
    exact ⟨_, rfl⟩

theorem read_of_listing (h : Listing keys cs) : read cs = .ok (.arr (keys.map .str)) := by
  cases h with
  | @mk before body after hbefore hbody hafter =>
    have hmark : (before ++ '[' :: (body ++ ']' :: after)).head? ≠ some '\uFEFF' := by
      cases before with
      | nil => simp
      | cons c before =>
        intro hc
        have hspace := hbefore c (by simp)
        rw [Option.some.inj hc] at hspace
        exact absurd hspace (by decide)
    obtain ⟨offset, hread⟩ := readValue_of_listingBody hbody
      (by simp; omega : body.length < 2 * (before ++ '[' :: (body ++ ']' :: after)).length)
      (0 + before.length) after
    have hend : (skipSpace offset after).rest = [] := by
      rw [← List.append_nil after, skipSpace_append hafter]
      rfl
    rw [read, if_neg hmark]
    simp only [readAll, skipSpace_blanks (c := '[') hbefore (by decide), hread, Bind.bind, Except.bind,
      pure, Except.pure, Cursor.space, hend]

/-! ## Nothing else is read -/

theorem exists_blanks (offset : Nat) (cs : List Char) :
    ∃ blanks, Blanks blanks ∧ cs = blanks ++ (skipSpace offset cs).rest := by
  induction cs generalizing offset with
  | nil => exact ⟨[], by simp [Blanks], rfl⟩
  | cons c cs ih =>
    rw [skipSpace]
    split
    · rename_i hc
      obtain ⟨blanks, hblanks, heq⟩ := ih (offset + 1)
      exact ⟨c :: blanks, List.forall_mem_cons.2 ⟨hc, hblanks⟩, congrArg (c :: ·) heq⟩
    · exact ⟨[], by simp [Blanks], rfl⟩

/-- A word or a number is neither a text nor a list. -/
theorem ne_of_readScalar {offset : Nat} {v : Json} {after : Cursor}
    (h : readScalar offset cs = .ok (v, after)) : (∀ s, v ≠ .str s) ∧ ∀ items, v ≠ .arr items := by
  have hscalars : HoldsOnScalars fun v => (∀ s, v ≠ .str s) ∧ ∀ items, v ≠ .arr items :=
    { word := by simp [words]
      whole := by
        intro negative digits v _ hwhole
        unfold wholeNumber at hwhole
        split at hwhole
        · obtain rfl := Except.ok.inj hwhole
          simp
        · cases hwhole
      decimal := by simp }
  exact of_readScalar hscalars h

theorem spells_of_readValue {fuel : Nat} {c after : Cursor}
    (h : readValue fuel c = .ok (.str key, after)) : ∃ strokes w, Spells strokes w ∧
      c.rest = '"' :: (w ++ '"' :: after.rest) ∧ key = Stroke.text strokes := by
  cases fuel with
  | zero => cases h
  | succ fuel =>
    rw [readValue] at h
    split at h
    · rename_i rest hrest
      obtain ⟨⟨s, after'⟩, hread, h⟩ := of_bind_ok h
      cases h
      obtain ⟨strokes, w, hspells, hcut, hkey⟩ := spells_of_readString hread
      exact ⟨strokes, w, hspells, by rw [hrest, hcut], hkey⟩
    · dsimp only at h
      split at h
      · cases h
      · obtain ⟨_, -, h⟩ := of_bind_ok h
        cases h
    · dsimp only at h
      split at h
      · cases h
      · obtain ⟨_, -, h⟩ := of_bind_ok h
        cases h
    · exact absurd rfl ((ne_of_readScalar h).1 key)

theorem ListingItem.blanks_append {blanks : List Char} (hblanks : Blanks blanks)
    (h : ListingItem key w) : ListingItem key (blanks ++ w) := by
  cases h with
  | mk hbefore hspells hafter =>
    rw [← List.append_assoc]
    exact .mk (List.forall_mem_append.2 ⟨hblanks, hbefore⟩) hspells hafter

theorem ListingItems.blanks_append {blanks : List Char} (hblanks : Blanks blanks)
    (h : ListingItems keys body) : ListingItems keys (blanks ++ body) := by
  cases h with
  | last h => exact .last (h.blanks_append hblanks)
  | more h hrest =>
    rw [← List.append_assoc]
    exact .more (h.blanks_append hblanks) hrest

/-- An item that was read, with the blanks behind it. -/
theorem listingItem_of_readValue {fuel : Nat} {c after : Cursor}
    (h : readValue fuel c = .ok (.str key, after)) :
    ∃ w, ListingItem key w ∧ c.rest = w ++ after.space.rest := by
  obtain ⟨strokes, w, hspells, hrest, rfl⟩ := spells_of_readValue h
  obtain ⟨blanks, hblanks, hcut⟩ := exists_blanks after.offset after.rest
  refine ⟨_, @ListingItem.mk strokes [] w blanks (by simp [Blanks]) hspells hblanks, ?_⟩
  rw [hrest, hcut]
  simp [Cursor.space]

theorem listingItems_of_readItems {fuel : Nat} {c after : Cursor}
    (h : readItems fuel c = .ok (keys.map .str, after)) :
    ∃ body, ListingItems keys body ∧ c.rest = body ++ ']' :: after.rest := by
  induction fuel generalizing c keys after with
  | zero => cases h
  | succ fuel ih =>
    rw [readItems] at h
    obtain ⟨⟨v, next⟩, hvalue, h⟩ := of_bind_ok h
    dsimp only at h
    split at h
    -- What stands behind the item is the end, a comma, or neither.
    · rename_i rest hrest
      obtain ⟨hkeys, hafter⟩ := Prod.mk.inj (Except.ok.inj h)
      obtain ⟨key, rfl, rfl⟩ := List.map_eq_singleton_iff.1 hkeys.symm
      obtain ⟨w, hitem, hcut⟩ := listingItem_of_readValue hvalue
      exact ⟨w, .last hitem, by rw [hcut, hrest, ← hafter]⟩
    · rename_i rest hrest
      obtain ⟨⟨items, last⟩, hitems, h⟩ := of_bind_ok h
      obtain ⟨hkeys, hafter⟩ := Prod.mk.inj (Except.ok.inj h)
      obtain ⟨key, keys, rfl, rfl, rfl⟩ := List.map_eq_cons_iff.1 hkeys.symm
      obtain ⟨w, hitem, hcut⟩ := listingItem_of_readValue hvalue
      obtain ⟨body, hbody, hlast⟩ := ih hitems
      obtain ⟨blanks, hblanks, hspace⟩ := exists_blanks (next.space.offset + 1) rest
      refine ⟨_, .more hitem (hbody.blanks_append hblanks), ?_⟩
      rw [Cursor.space] at hlast
      rw [hcut, hrest, hspace, hlast, ← hafter]
      simp
    · cases h

theorem listingBody_of_readValue {fuel : Nat} {c after : Cursor}
    (h : readValue fuel c = .ok (.arr (keys.map .str), after)) :
    ∃ body, ListingBody keys body ∧ c.rest = '[' :: (body ++ ']' :: after.rest) := by
  cases fuel with
  | zero => cases h
  | succ fuel =>
    rw [readValue] at h
    split at h
    · obtain ⟨_, -, h⟩ := of_bind_ok h
      cases h
    · rename_i rest hrest
      obtain ⟨blanks, hblanks, hcut⟩ := exists_blanks (c.offset + 1) rest
      dsimp only at h
      split at h
      · rename_i tail htail
        obtain ⟨hkeys, hafter⟩ := Prod.mk.inj (Except.ok.inj h)
        have hnone : keys = [] := List.map_eq_nil_iff.1 (Json.arr.inj hkeys).symm
        rw [Cursor.space] at htail
        exact ⟨blanks, .inl ⟨hnone, hblanks⟩, by rw [hrest, hcut, htail, ← hafter]⟩
      · obtain ⟨⟨items, last⟩, hitems, h⟩ := of_bind_ok h
        obtain ⟨hkeys, hafter⟩ := Prod.mk.inj (Except.ok.inj h)
        obtain rfl := Json.arr.inj hkeys
        obtain ⟨body, hbody, hlast⟩ := listingItems_of_readItems hitems
        rw [Cursor.space] at hlast
        refine ⟨_, .inr (hbody.blanks_append hblanks), ?_⟩
        rw [hrest, hcut, hlast, ← hafter]
        simp
    · dsimp only at h
      split at h
      · cases h
      · obtain ⟨_, -, h⟩ := of_bind_ok h
        cases h
    · exact absurd rfl ((ne_of_readScalar h).2 _)

theorem listing_of_read (h : read cs = .ok (.arr (keys.map .str))) : Listing keys cs := by
  obtain ⟨⟨v, after⟩, hvalue, h⟩ := of_bind_ok (readAll_of_read h)
  dsimp only at h
  split at h
  · rename_i hend
    obtain rfl := Except.ok.inj h
    obtain ⟨body, hbody, hcut⟩ := listingBody_of_readValue hvalue
    obtain ⟨before, hbefore, hfront⟩ := exists_blanks 0 cs
    obtain ⟨blanks, hafter, hback⟩ := exists_blanks after.offset after.rest
    rw [Cursor.space] at hend
    rw [hfront, hcut, hback, hend, List.append_nil]
    exact .mk hbefore hbody hafter
  · cases h

/-- **Just the listings of texts are read as lists of texts.** -/
theorem read_eq_ok_iff : read cs = .ok (.arr (keys.map .str)) ↔ Listing keys cs :=
  ⟨listing_of_read, read_of_listing⟩

/-! ## Ends of lines -/

open Text (unifyNewlines)

theorem blanks_unifyNewlines : Blanks (unifyNewlines cs) ↔ Blanks cs :=
  @Text.forall_mem_unifyNewlines (isSpace · = true) rfl rfl cs

/-- No line ends in a row of strokes, so it is the same whatever the ends of lines are. -/
theorem unifyNewlines_quoted {strokes : List Stroke} (h : Spells strokes w) (rest : List Char) :
    unifyNewlines ('"' :: (w ++ '"' :: rest)) = '"' :: (w ++ '"' :: unifyNewlines rest) := by
  have hreturn : '\r' ∉ w := fun hm => absurd (printable_of_spells h _ hm) (by decide)
  rw [Text.unifyNewlines_cons (by decide), Text.unifyNewlines_append_of_no_return hreturn,
    Text.unifyNewlines_cons (by decide)]

theorem exists_of_unifyNewlines_quoted {strokes : List Stroke} (h : Spells strokes w)
    {rest : List Char} (hcs : unifyNewlines cs = '"' :: (w ++ '"' :: rest)) :
    ∃ rest', cs = '"' :: (w ++ '"' :: rest') ∧ unifyNewlines rest' = rest := by
  have hfeed : '\n' ∉ '"' :: (w ++ ['"']) := by
    have hw : '\n' ∉ w := fun hm => absurd (printable_of_spells h _ hm) (by decide)
    simp [hw]
  have hcut : unifyNewlines cs = '"' :: (w ++ ['"']) ++ rest := by simp [hcs]
  obtain ⟨rest', rfl, hrest⟩ := Text.exists_of_unifyNewlines_append_of_no_feed hcut hfeed
  exact ⟨rest', by simp, hrest⟩

theorem listingItem_unifyNewlines : ListingItem key (unifyNewlines w) ↔ ListingItem key w := by
  constructor
  · intro h
    generalize hu : unifyNewlines w = u at h
    cases h with
    | mk hbefore hspells hafter =>
      obtain ⟨before, tail, rfl, rfl, htail⟩ := Text.exists_of_unifyNewlines_append hu
      obtain ⟨after, rfl, rfl⟩ := exists_of_unifyNewlines_quoted hspells htail
      exact .mk (blanks_unifyNewlines.1 hbefore) hspells (blanks_unifyNewlines.1 hafter)
  · rintro ⟨hbefore, hspells, hafter⟩
    rw [Text.unifyNewlines_append (by simp), unifyNewlines_quoted hspells]
    exact .mk (blanks_unifyNewlines.2 hbefore) hspells (blanks_unifyNewlines.2 hafter)

theorem listingItems_unifyNewlines :
    ListingItems keys (unifyNewlines body) ↔ ListingItems keys body := by
  constructor
  · intro h
    generalize hu : unifyNewlines body = u at h
    induction h generalizing body with
    | last h =>
      subst hu
      exact .last (listingItem_unifyNewlines.1 h)
    | @more key keys w rest h _ ih =>
      obtain ⟨w', tail, rfl, rfl, htail⟩ := Text.exists_of_unifyNewlines_append hu
      obtain ⟨rest', rfl, hrest⟩ :=
        @Text.exists_of_unifyNewlines_append_of_no_feed tail [','] rest htail (by decide)
      exact .more (listingItem_unifyNewlines.1 h) (ih hrest)
  · intro h
    induction h with
    | last h => exact .last (listingItem_unifyNewlines.2 h)
    | more h _ ih =>
      rw [Text.unifyNewlines_append (by simp), Text.unifyNewlines_cons (by decide)]
      exact .more (listingItem_unifyNewlines.2 h) ih

/-- **How its lines end makes no difference to what a text lists.** -/
theorem listing_unifyNewlines : Listing keys (unifyNewlines cs) ↔ Listing keys cs := by
  have hbody : ∀ {body}, ListingBody keys (unifyNewlines body) ↔ ListingBody keys body :=
    or_congr (and_congr_right fun _ => blanks_unifyNewlines) listingItems_unifyNewlines
  constructor
  · intro h
    generalize hu : unifyNewlines cs = u at h
    cases h with
    | mk hbefore hlist hafter =>
      obtain ⟨before, opened, rfl, rfl, hopened⟩ := Text.exists_of_unifyNewlines_append hu
      obtain ⟨inside, rfl, hinside⟩ :=
        @Text.exists_of_unifyNewlines_append_of_no_feed _ ['['] _ hopened (by decide)
      obtain ⟨body, closed, rfl, rfl, hclosed⟩ := Text.exists_of_unifyNewlines_append hinside
      obtain ⟨after, rfl, rfl⟩ :=
        @Text.exists_of_unifyNewlines_append_of_no_feed _ [']'] _ hclosed (by decide)
      exact .mk (blanks_unifyNewlines.1 hbefore) (hbody.1 hlist) (blanks_unifyNewlines.1 hafter)
  · rintro ⟨hbefore, hlist, hafter⟩
    rw [Text.unifyNewlines_append (by simp), Text.unifyNewlines_cons (by decide),
      Text.unifyNewlines_append (by simp), Text.unifyNewlines_cons (by decide)]
    exact .mk (blanks_unifyNewlines.2 hbefore) (hbody.2 hlist) (blanks_unifyNewlines.2 hafter)

end Compendium.Json
