import Compendium.Proofs.Query.Joining
import Compendium.Proofs.Query.Rereading

/-!
# Queries written as search texts

A query is written as its filters, in their order, and then its free text, with a blank between.
Reading that text sets the filters one after another, and then those that the free text holds
(`ofString_written`). What is read from any search text is in normal form, but for filters that
lowering makes in its free text (`normal_ofString`). Main theorem `ofString_written_iff`: the
queries that read back from what they are written as are just those in normal form.
-/

namespace Compendium.Query

/-! ## Normal form -/

/-- A lower-case letter of ASCII, a digit or the underscore. -/
def isLowWord (c : Char) : Bool := c.isLower || c.isDigit || c = '_'

/-- One or more word characters, none of them a capital. -/
def IsLowText (w : String) : Prop := w ≠ "" ∧ ∀ c ∈ w.toList, isLowWord c = true

/-- The keys are all different, keys and values are words without capitals, and the free text has no
blanks at its ends, is its own lower case and holds no filter. -/
structure Normal (q : Query) : Prop where
  nodup : (Fields.names q.filters).Nodup
  words : ∀ f ∈ q.filters, IsLowText f.1 ∧ IsLowText f.2
  trimmed : Text.trimChars q.freeText.toList = q.freeText.toList
  lowered : Text.lower q.freeText = q.freeText
  no_token : ¬ ∃ token, IsToken token ∧ token <:+: q.freeText.toList

/-- The filters of a query in their order and then its free text, with a blank between. -/
def written (q : Query) : String :=
  " ".intercalate (q.filters.map (fun f => f.1 ++ ":" ++ f.2) ++ [q.freeText])

example : written ⟨[("tier", "1"), ("lv", "2b")], ":fire:"⟩ = "tier:1 lv:2b :fire:" := by decide

/-! ## Words without capitals -/

theorem isWord_of_isLowWord {c : Char} (h : isLowWord c = true) : isWord c = true := by
  delta isLowWord at h
  delta isWord Char.isAlphanum Char.isAlpha
  simp only [Bool.or_eq_true] at h ⊢
  rcases h with (hlower | hdigit) | hunderscore
  · exact .inl (.inl (.inr hlower))
  · exact .inl (.inr hdigit)
  · exact .inr hunderscore

theorem toLower_of_isLowWord {c : Char} (h : isLowWord c = true) : c.toLower = c := by
  have hall : ∀ c : Char, c.toNat < 128 → isLowWord c = true → c.toLower = c :=
    Text.forall_ascii (by decide)
  exact hall c (ascii_of_isWord (isWord_of_isLowWord h)) h

theorem isLowWord_toLower {c : Char} (h : isWord c = true) : isLowWord c.toLower = true := by
  have hall : ∀ c : Char, c.toNat < 128 → isWord c = true → isLowWord c.toLower = true :=
    Text.forall_ascii (by decide)
  exact hall c (ascii_of_isWord h) h

theorem lowerAfter_word {before w : List Char} (hw : ∀ c ∈ w, isWord c = true) :
    Text.lowerAfter before w = w.map Char.toLower := by
  induction w generalizing before with
  | nil => rfl
  | cons c rest ih =>
    have hc := ascii_of_isWord (hw c (by simp))
    obtain ⟨image, himage, heq⟩ := Text.lowerAfter_cons before c rest
    rw [heq, image_ascii himage hc, ih fun d hd => hw d (by simp [hd])]
    rfl

namespace IsLowText

variable {w : String}

theorem isWordText (h : IsLowText w) : IsWordText w.toList := by
  refine ⟨fun hnil => h.1 (String.toList_eq_nil_iff.1 hnil), fun c hc => ?_⟩
  exact isWord_of_isLowWord (h.2 c hc)

/-- A word without capitals is its own lower case. -/
theorem lower_eq (h : IsLowText w) : Text.lower w = w := by
  have hmap : w.toList.map Char.toLower = w.toList.map id :=
    List.map_congr_left fun c hc => toLower_of_isLowWord (h.2 c hc)
  rw [Text.lower, Text.lowerChars, lowerAfter_word h.isWordText.2, hmap, List.map_id,
    String.ofList_toList]

end IsLowText

theorem isLowText_lower {w : List Char} (hw : IsWordText w) :
    IsLowText (String.ofList (Text.lowerChars w)) := by
  rw [Text.lowerChars, lowerAfter_word hw.2]
  constructor
  · intro hnil
    have hnil' := congrArg String.toList hnil
    rw [String.toList_ofList] at hnil'
    exact hw.1 (List.map_eq_nil_iff.1 hnil')
  · intro c hc
    rw [String.toList_ofList, List.mem_map] at hc
    obtain ⟨d, hd, rfl⟩ := hc
    exact isLowWord_toLower (hw.2 d hd)

/-! ## What is read is in normal form -/

theorem isLowText_of_mem_filters {s : String} {f : String × String}
    (h : f ∈ (ofString s).filters) : IsLowText f.1 ∧ IsLowText f.2 := by
  have hmem : f ∈ assignments (cut s.toList) := by
    rcases Fields.mem_putAll h with hnone | hmem
    · simp at hnone
    · exact hmem
  rw [assignments, List.mem_filterMap] at hmem
  obtain ⟨piece, hpiece, hf⟩ := hmem
  cases piece with
  | plain chars => simp at hf
  | filter key value =>
    obtain ⟨hkey, hvalue⟩ := isWordText_of_mem_cut hpiece
    obtain rfl := Option.some.inj hf
    exact ⟨isLowText_lower hkey, isLowText_lower hvalue⟩

/-- What is read from a search text is in normal form, unless lowering makes a filter in its free
text. -/
theorem normal_ofString {s : String}
    (h : ¬ ∃ token, IsToken token ∧ token <:+: (ofString s).freeText.toList) : (ofString s).Normal where
  nodup := Fields.nodup_ofAssignments _
  words _ hf := isLowText_of_mem_filters hf
  trimmed := by
    rw [toList_freeText]
    exact Text.trimChars_of_trimmed (Text.trimmed_lowerChars (Text.trimmed_trimChars _))
  lowered := by
    rw [Text.lower, toList_freeText, Text.lowerChars_lowerChars]
    rfl
  no_token := h

/-! ## Reading what is written -/

theorem written_nil (t : String) : written ⟨[], t⟩ = t := by
  rw [written, List.map_nil, List.nil_append, String.intercalate_singleton]

theorem written_cons (f : String × String) (rest : List (String × String)) (t : String) :
    written ⟨f :: rest, t⟩ = f.1 ++ ":" ++ f.2 ++ " " ++ written ⟨rest, t⟩ := by
  rw [written, List.map_cons, List.cons_append, String.intercalate_cons_of_ne_nil (by simp), written]

/-- Filters that are written are set one after another, and then those of the free text. -/
theorem ofString_written {filters : List (String × String)} (t : String)
    (hwords : ∀ f ∈ filters, IsLowText f.1 ∧ IsLowText f.2) :
    ofString (written ⟨filters, t⟩) =
      ⟨Fields.ofAssignments (filters ++ (ofString t).filters), (ofString t).freeText⟩ := by
  induction filters with
  | nil =>
    have hown : Fields.ofAssignments (ofString t).filters = (ofString t).filters :=
      Fields.ofAssignments_of_nodup (Fields.nodup_ofAssignments _)
    rw [written_nil, List.nil_append, hown]
  | cons f rest ih =>
    obtain ⟨hkey, hvalue⟩ := hwords f (by simp)
    rw [written_cons, ofString_token_joined hkey.isWordText hvalue.isWordText,
      ih fun g hg => hwords g (by simp [hg]), hkey.lower_eq, hvalue.lower_eq,
      Fields.putAll_ofAssignments (by simp [Fields.names])]
    rfl

/-- A free text that is read as itself holds no filter. -/
theorem no_token_of_freeText_eq {t : String} (h : (ofString t).freeText = t) :
    ¬ ∃ token, IsToken token ∧ token <:+: t.toList := by
  have hread : Text.lowerChars (Text.trimChars (plainChars (cut t.toList))) = t.toList := by
    rw [← toList_freeText, h]
  have hpart := Text.infix_of_trimChars (plainChars (cut t.toList))
  -- the characters that are left stand in the text, so they are in lower case already
  have hlowered : ∀ c ∈ Text.trimChars (plainChars (cut t.toList)), Text.IsLowered c := by
    intro c hc
    have hmem := mem_of_mem_plainChars_cut (hpart.subset hc)
    rw [← hread] at hmem
    exact Text.isLowered_of_mem_lowerAfter hmem
  rw [Text.lowerChars, Text.lowerAfter_of_isLowered hlowered] at hread
  rintro ⟨token, htoken, hinside⟩
  rw [hread] at hpart
  exact not_isToken_plainChars t.toList ⟨token, htoken, hinside.trans hpart⟩

/-- **The queries that read back from what they are written as are those in normal form.** -/
theorem ofString_written_iff (q : Query) : ofString q.written = q ↔ q.Normal := by
  obtain ⟨filters, t⟩ := q
  constructor
  · intro h
    have hwords : ∀ f ∈ filters, IsLowText f.1 ∧ IsLowText f.2 := by
      intro f hf
      apply isLowText_of_mem_filters (s := written ⟨filters, t⟩)
      rwa [h]
    have hfree : (ofString t).freeText = t := by
      rw [ofString_written t hwords] at h
      exact congrArg Query.freeText h
    rw [← h]
    apply normal_ofString
    rw [h]
    exact no_token_of_freeText_eq hfree
  · intro h
    have hlower : String.ofList (Text.lowerChars (Text.trimChars t.toList)) = t := by
      rw [h.trimmed]
      exact h.lowered
    rw [ofString_written t h.words, ofString_of_no_token h.no_token, hlower, List.append_nil,
      Fields.ofAssignments_of_nodup h.nodup]

end Compendium.Query
