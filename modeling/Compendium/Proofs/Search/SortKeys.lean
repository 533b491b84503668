import Compendium.Proofs.Text.Folding
import Compendium.Search
import Mathlib.Logic.Relation

/-!
# What a sort key does not see

The folded part of a sort key is read from the decomposition of a name, in which marks may have
changed places with each other (`IsDecomposed`); as all marks are left out, it does not matter how
they stand (`filter_marks_of_exchanged`). Main theorem `folded_ignores`: neither lower case nor a
mark put in anywhere shows in it.
-/

namespace Compendium.SortKey

open Text

/-- Two marks beside each other have changed places. -/
inductive MarksExchanged : List Char → List Char → Prop
  | intro (before : List Char) {m n : Char} (after : List Char) (hm : isMark m = true)
    (hn : isMark n = true) :
    MarksExchanged (before ++ m :: n :: after) (before ++ n :: m :: after)

/-- The second is a decomposition of the first, with its marks in some order of their own. -/
def IsDecomposed (cs ds : List Char) : Prop :=
  Relation.ReflTransGen MarksExchanged (cs.flatMap decomposeChar) ds

/-- The folded part of a sort key, given the decomposition of the name. -/
def foldedOf (ds : List Char) : String := String.ofList (foldChars (ds.filter (!isMark ·)))

theorem filter_marks_of_exchange {cs ds : List Char} (h : MarksExchanged cs ds) :
    ds.filter (!isMark ·) = cs.filter (!isMark ·) := by
  obtain ⟨before, after, hm, hn⟩ := h
  simp only [List.filter_append, List.filter_cons, hm, hn, Bool.not_true, Bool.false_eq_true,
    if_false]

theorem filter_marks_of_exchanged {cs ds : List Char}
    (h : Relation.ReflTransGen MarksExchanged cs ds) :
    ds.filter (!isMark ·) = cs.filter (!isMark ·) := by
  induction h with
  | refl => rfl
  | tail _ hstep ih => rw [filter_marks_of_exchange hstep, ih]

theorem foldedOf_of_isDecomposed {name : String} {ds : List Char}
    (h : IsDecomposed name.toList ds) : foldedOf ds = (ofName name).folded := by
  rw [foldedOf, filter_marks_of_exchanged h]
  rfl

/-- Names whose folded base characters are the same sort as one. -/
theorem folded_eq_of_foldedBase {a b : String} (h : foldedBase a.toList = foldedBase b.toList) :
    (ofName a).folded = (ofName b).folded :=
  congrArg String.ofList h

/-- **Accents and case fold away.** The folded part of a sort key is the same whatever order the
marks of a decomposed name are put in, for the name and for its lower case, and with or without a
mark at any place of the name. -/
theorem folded_ignores (name : String) :
    (∀ ds, IsDecomposed name.toList ds → foldedOf ds = (ofName name).folded) ∧
    (ofName (lower name)).folded = (ofName name).folded ∧
    ∀ before m after, name.toList = before ++ after → isMark m = true →
      (ofName (String.ofList (before ++ m :: after))).folded = (ofName name).folded := by
  refine ⟨fun ds h => foldedOf_of_isDecomposed h, ?_, ?_⟩
  · apply folded_eq_of_foldedBase
    rw [lower, String.toList_ofList, foldedBase_lowerChars]
  · intro before m after hname hm
    apply folded_eq_of_foldedBase
    rw [String.toList_ofList, foldedBase_insert hm, hname]

example : (ofName "Éclair").folded = "eclair" := by decide +kernel

/-- A capital with two marks, which are put in the order of their classes. -/
theorem folded_ignores_etude :
    (IsDecomposed "\u00C9\u0323tude".toList "E\u0323\u0301tude".toList ∧
      foldedOf "E\u0323\u0301tude".toList = (ofName "\u00C9\u0323tude").folded) ∧
    (ofName (lower "\u00C9\u0323tude")).folded = (ofName "\u00C9\u0323tude").folded ∧
    ("\u00C9\u0323tude".toList = "\u00C9\u0323t".toList ++ "ude".toList ∧ isMark '\u0308' = true ∧
      (ofName (String.ofList ("\u00C9\u0323t".toList ++ '\u0308' :: "ude".toList))).folded =
        (ofName "\u00C9\u0323tude").folded) := by
  obtain ⟨horder, hlower, hmark⟩ := folded_ignores "\u00C9\u0323tude"
  have hdecomposed : IsDecomposed "\u00C9\u0323tude".toList "E\u0323\u0301tude".toList :=
    Relation.ReflTransGen.single (MarksExchanged.intro ['E'] "tude".toList (by decide) (by decide))
  exact ⟨⟨hdecomposed, horder _ hdecomposed⟩, hlower, rfl, by decide, hmark _ _ _ rfl (by decide)⟩

end Compendium.SortKey
