import Compendium.Proofs.Query.Chains
import Compendium.Proofs.Text.Words

/-!
# Search texts with a blank between

A filter does not reach over a character that is neither of a word nor a colon, so a search text
that is put together with a blank between is cut part by part (`cut_joined`). Where one part has no
free text, the free text is that of the other (`freeText_joined`, `freeText_joined_right`), so
a filter in front is set first and changes nothing else (`ofString_token_joined`). Main theorem
`ofString_joined`: the filters of the second part are set over those of the first, and the words of
the free text are those of both parts in turn.
-/

namespace Compendium.Query

/-! ## Cutting part by part -/

theorem maximal_joined {c : Char} (hc : isWord c = false) (hcolon : c ≠ ':') {a b : List Segment}
    (ha : Maximal a) (hb : Maximal b) : Maximal (a ++ .other c :: b) := by
  induction a with
  | nil => exact ⟨hc, hb⟩
  | cons segment rest ih =>
    cases segment with
    | other d => exact ⟨ha.1, ih ha.2⟩
    | chain words =>
      obtain ⟨hne, hwords, hends, hrest⟩ := ha
      refine ⟨hne, hwords, ?_, ih hrest⟩
      -- the character ends the chain as the end of the text did
      match rest, hends with
      | [], _ =>
        cases b with
        | nil => trivial
        | cons next b =>
          cases next with
          | other e => trivial
          | chain words' => exact hcolon
      | [.other d], _ => trivial
      | .other d :: .other e :: rest, _ => trivial
      | .other d :: .chain words' :: rest, hends => exact hends
      | .chain words' :: rest, hends => exact hends.elim

/-- What stands before and what stands after a character that is in no filter is cut by itself. -/
theorem cut_joined {c : Char} (hc : isWord c = false) (hcolon : c ≠ ':') (a b : List Char) :
    cut (a ++ c :: b) = cut a ++ .plain [c] :: cut b := by
  have ha := chainCut_foldr a
  have hb := chainCut_foldr b
  have hjoined := cut_eq (maximal_joined hc hcolon ha.maximal hb.maximal)
  rw [List.flatMap_append, List.flatMap_cons, ha.text, hb.text, List.flatMap_append,
    List.flatMap_cons, ← cut_of_chainCut ha, ← cut_of_chainCut hb] at hjoined
  exact hjoined

/-! ## The query of both parts -/

theorem cut_toList_joined (q r : String) :
    cut (q ++ " " ++ r).toList = cut q.toList ++ .plain [' '] :: cut r.toList := by
  have hchars : (q ++ " " ++ r).toList = q.toList ++ ' ' :: r.toList := by
    rw [String.toList_append, String.toList_append, List.append_assoc]
    rfl
  rw [hchars]
  exact cut_joined (by decide) (by decide) _ _

theorem assignments_cut_joined (q r : String) :
    assignments (cut (q ++ " " ++ r).toList) =
      assignments (cut q.toList) ++ assignments (cut r.toList) := by
  rw [cut_toList_joined, assignments_append]
  rfl

theorem plainChars_cut_joined (q r : String) :
    plainChars (cut (q ++ " " ++ r).toList) =
      plainChars (cut q.toList) ++ ' ' :: plainChars (cut r.toList) := by
  rw [cut_toList_joined, plainChars_append]
  rfl

/-- The filters of the second part are set over those of the first. -/
theorem filters_joined (q r : String) :
    (ofString (q ++ " " ++ r)).filters =
      Fields.putAll (ofString q).filters (ofString r).filters := by
  have hfilters : ∀ s : String,
      (ofString s).filters = Fields.ofAssignments (assignments (cut s.toList)) := fun _ => rfl
  rw [hfilters, hfilters, hfilters, assignments_cut_joined,
    Fields.putAll_ofAssignments (Fields.nodup_ofAssignments _)]
  exact Fields.putAll_append _ _ _

theorem get?_filters_joined (q r : String) (key : String) :
    Fields.get? (ofString (q ++ " " ++ r)).filters key =
      (Fields.get? (ofString r).filters key).or (Fields.get? (ofString q).filters key) := by
  have hnodup : (Fields.names (ofString r).filters).Nodup := Fields.nodup_ofAssignments _
  rw [filters_joined, Fields.get?_putAll, Fields.get?_reverse hnodup]

theorem blank_of_freeText_eq_empty {r : String} (h : (ofString r).freeText = "") :
    ∀ c ∈ plainChars (cut r.toList), Text.isBlank c = true := by
  have hchars : Text.lowerChars (Text.trimChars (plainChars (cut r.toList))) = [] := by
    rw [← toList_freeText, h]
    rfl
  exact Text.blank_of_trimChars_eq_nil (Text.lowerChars_eq_nil_iff.1 hchars)

theorem freeText_joined (q : String) {r : String} (h : (ofString r).freeText = "") :
    (ofString (q ++ " " ++ r)).freeText = (ofString q).freeText := by
  have hblanks : ∀ c ∈ ' ' :: plainChars (cut r.toList), Text.isBlank c = true := by
    intro c hc
    rcases List.mem_cons.1 hc with rfl | hc
    · decide
    · exact blank_of_freeText_eq_empty h c hc
  rw [freeText_eq, freeText_eq, plainChars_cut_joined, Text.trimChars_append_blanks _ hblanks]

theorem freeText_joined_right {q : String} (h : (ofString q).freeText = "") (r : String) :
    (ofString (q ++ " " ++ r)).freeText = (ofString r).freeText := by
  have hblanks : ∀ c ∈ plainChars (cut q.toList) ++ [' '], Text.isBlank c = true := by
    intro c hc
    rcases List.mem_append.1 hc with hc | hc
    · exact blank_of_freeText_eq_empty h c hc
    · obtain rfl := List.mem_singleton.1 hc
      decide
  rw [freeText_eq, freeText_eq, plainChars_cut_joined, ← List.singleton_append, ← List.append_assoc,
    Text.trimChars_blanks_append hblanks]

/-- A filter in front of a search text is set before the filters of the text. -/
theorem ofString_token_joined {key value : String} (hkey : IsWordText key.toList)
    (hvalue : IsWordText value.toList) (s : String) :
    ofString (key ++ ":" ++ value ++ " " ++ s) =
      ⟨Fields.putAll [(Text.lower key, Text.lower value)] (ofString s).filters,
        (ofString s).freeText⟩ := by
  have htoken := ofString_token hkey hvalue
  have hfilters := filters_joined (key ++ ":" ++ value) s
  have hfree := freeText_joined_right (congrArg Query.freeText htoken) s
  rw [htoken] at hfilters
  exact congrArg₂ Query.mk hfilters hfree

/-! ## The words of both parts -/

theorem words_freeText (s : String) :
    Text.words (ofString s).freeText.toList =
      Text.words (Text.lowerChars (plainChars (cut s.toList))) := by
  rw [toList_freeText, Text.words_lowerChars_trimChars]

/-- **A search text of two parts with a blank between is read part by part.** Its filters are those
of the first part with those of the second set over them, each key where it came up first; the words
of its free text are those of the first part and then those of the second. -/
theorem ofString_joined (q r : String) :
    (ofString (q ++ " " ++ r)).filters =
        Fields.putAll (ofString q).filters (ofString r).filters ∧
      Text.words (ofString (q ++ " " ++ r)).freeText.toList =
        Text.words (ofString q).freeText.toList ++ Text.words (ofString r).freeText.toList := by
  refine ⟨filters_joined q r, ?_⟩
  have hblank : Text.isBlank ' ' = true := by decide
  rw [words_freeText, plainChars_cut_joined, Text.words_lowerChars_blank hblank, words_freeText,
    words_freeText]

end Compendium.Query
