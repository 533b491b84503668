import Compendium.Catalog.Bundled
import Compendium.Proofs.Query.Rereading
import Compendium.Proofs.Search.Places
import Compendium.Proofs.Text.AsciiCase

/-!
# Search texts that differ in the case of letters

Where a search text is cut does not depend on the case of its ASCII letters, so the pieces of the text
in lower case are the pieces of the text, in lower case (`cut_map_toLower`). Keys and values are
lowered and so is the free text, where no letter counts for another by its case. Main theorem
`search_caseless`: texts that differ in nothing but the case of ASCII letters are one query, and
searches for them give the same list.
-/

namespace Compendium

namespace Query

/-! ## Cutting -/

theorem isWordText_map_toLower {w : List Char} (h : IsWordText w) :
    IsWordText (w.map Char.toLower) := by
  refine ⟨fun hnil => h.1 (List.map_eq_nil_iff.1 hnil), fun c hc => ?_⟩
  obtain ⟨d, hd, rfl⟩ := List.mem_map.1 hc
  rw [isWord_toLower]
  exact h.2 d hd

theorem startsPlain_map_toLower {cs : List Char} (h : StartsPlain cs) :
    StartsPlain (cs.map Char.toLower) := by
  intro c hc
  rw [List.head?_map, Option.map_eq_some_iff] at hc
  obtain ⟨d, hd, rfl⟩ := hc
  rw [isWord_toLower]
  exact h d hd

theorem startsPlain_dropWhile (cs : List Char) : StartsPlain (cs.dropWhile isWord) := by
  intro c hc
  have hhead := List.head?_dropWhile_not isWord cs
  rw [hc] at hhead
  exact hhead

theorem takeWhile_map_toLower (cs : List Char) :
    (cs.map Char.toLower).takeWhile isWord = (cs.takeWhile isWord).map Char.toLower := by
  have hword : isWord ∘ Char.toLower = isWord := funext isWord_toLower
  rw [List.takeWhile_map, hword]

theorem valueAfter?_of_ne {c : Char} (hc : c ≠ ':') (cs : List Char) : valueAfter? (c :: cs) = none := by
  unfold valueAfter?
  split
  · rename_i heq
    exact absurd (List.cons.inj heq).1 hc
  · rfl

theorem valueAfter?_map_toLower (cs : List Char) :
    valueAfter? (cs.map Char.toLower) =
      (valueAfter? cs).map fun v => (v.1.map Char.toLower, v.2.map Char.toLower) := by
  match cs with
  | [] => rfl
  | [c] => simp [valueAfter?]
  | c :: v :: rest =>
    by_cases hc : c = ':'
    · subst hc
      have hcolon : ':'.toLower = ':' := by decide
      rw [List.map_cons, List.map_cons, hcolon, valueAfter?, valueAfter?, isWord_toLower,
        takeWhile_map_toLower, Text.dropWhile_map_toLower isWord_toLower]
      cases isWord v <;> rfl
    · have hc' : c.toLower ≠ ':' := by
        rwa [Ne, Text.toLower_eq_iff (by decide)]
      rw [List.map_cons, valueAfter?_of_ne hc, valueAfter?_of_ne hc']
      rfl

/-- A piece with its ASCII letters in lower case. -/
def Piece.toLower : Piece → Piece
  | .filter key value => .filter (key.map Char.toLower) (value.map Char.toLower)
  | .plain chars => .plain (chars.map Char.toLower)

/-- A text that begins with a word character, as a word and what follows it. -/
theorem map_toLower_word {c : Char} (rest : List Char) :
    (c :: rest).map Char.toLower = (c :: rest.takeWhile isWord).map Char.toLower ++
      (rest.dropWhile isWord).map Char.toLower := by
  rw [← List.map_append, List.cons_append, List.takeWhile_append_dropWhile]

/-- A text is cut in the same places whatever the case of its letters. -/
theorem cut_map_toLower (cs : List Char) :
    cut (cs.map Char.toLower) = (cut cs).map Piece.toLower := by
  fun_induction cut cs with
  | case1 => simp [cut]
  | case2 c rest hc value tail hvalue ih =>
    have hword := isWordText_map_toLower (isWordText_takeWhile hc rest)
    have hplain := startsPlain_map_toLower (startsPlain_dropWhile rest)
    have hvalue' := valueAfter?_map_toLower (rest.dropWhile isWord)
    rw [hvalue] at hvalue'
    rw [map_toLower_word, cut_word_some hword hplain hvalue', ih]
    rfl
  | case3 c rest hc hvalue ih =>
    have hword := isWordText_map_toLower (isWordText_takeWhile hc rest)
    have hplain := startsPlain_map_toLower (startsPlain_dropWhile rest)
    have hvalue' := valueAfter?_map_toLower (rest.dropWhile isWord)
    rw [hvalue] at hvalue'
    rw [map_toLower_word, cut_word_none hword hplain hvalue', ih]
    rfl
  | case4 c rest hc ih =>
    rw [List.map_cons, cut_plain (by rw [isWord_toLower]; simpa using hc), ih]
    rfl

/-! ## Queries -/

theorem assignments_map_toLower (pieces : List Piece) :
    assignments (pieces.map Piece.toLower) = assignments pieces := by
  rw [assignments, List.filterMap_map, assignments]
  congr 1
  funext piece
  cases piece with
  | filter key value => simp [Piece.toLower, Text.lowerChars_map_toLower]
  | plain chars => rfl

theorem plainChars_map_toLower (pieces : List Piece) :
    plainChars (pieces.map Piece.toLower) = (plainChars pieces).map Char.toLower := by
  rw [plainChars, List.flatMap_map, plainChars, List.map_flatMap]
  congr 1
  funext piece
  cases piece <;> rfl

/-- The texts differ in nothing but the case of ASCII letters, which are all that `Char.toLower`
changes. -/
def SameLetters (s t : String) : Prop := s.toList.map Char.toLower = t.toList.map Char.toLower

instance (s t : String) : Decidable (SameLetters s t) := inferInstanceAs (Decidable (_ = _))

theorem ofString_map_toLower (s : String) :
    ofString (String.ofList (s.toList.map Char.toLower)) = ofString s := by
  rw [ofString, String.toList_ofList, cut_map_toLower, assignments_map_toLower, plainChars_map_toLower,
    Text.trimChars_map_toLower, Text.lowerChars_map_toLower, ofString]

theorem ofString_caseless {s t : String} (h : SameLetters s t) : ofString s = ofString t := by
  rw [← ofString_map_toLower s, h, ofString_map_toLower]

end Query

namespace Catalog

/-- **The case of ASCII letters in a search text makes no difference**, neither to the query nor to
what is found. -/
theorem search_caseless {s t : String} (h : Query.SameLetters s t) :
    Query.ofString s = Query.ofString t ∧
      ∀ (catalog : Catalog) (bookmarks : List String) (label : String),
        catalog.search bookmarks label s = catalog.search bookmarks label t := by
  have hquery := Query.ofString_caseless h
  refine ⟨hquery, fun catalog bookmarks label => ?_⟩
  rw [search_eq, search_eq, hquery]

/-- The sigma stands at the end of a word after a letter that is written in both cases. -/
theorem search_caseless_sigma :
    Query.SameLetters "TIER:1A AΣ :Fire" "tier:1a aΣ :fIRE" ∧
      Query.ofString "TIER:1A AΣ :Fire" = Query.ofString "tier:1a aΣ :fIRE" ∧
      bundled.search ["spell:Light"] "bookmarks" "TIER:1A AΣ :Fire" =
        bundled.search ["spell:Light"] "bookmarks" "tier:1a aΣ :fIRE" := by
  have hsame : Query.SameLetters "TIER:1A AΣ :Fire" "tier:1a aΣ :fIRE" := by decide
  obtain ⟨hquery, hsearch⟩ := search_caseless hsame
  exact ⟨hsame, hquery, hsearch bundled ["spell:Light"] "bookmarks"⟩

end Catalog

end Compendium
