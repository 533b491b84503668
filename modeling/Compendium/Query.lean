import Compendium.Fields
import Compendium.Text.Case
import Compendium.Text.Class

/-!
# Queries

A search text is cut into filters and free text. A filter is two runs of word characters with a
colon between, taken from the front and as long as they go, so in `a:b:c` the filter is `a:b` and
`:c` is left. Keys and values are lowered, and a repeated key keeps its first place and takes its
last value. The free text is what is left, trimmed and lowered. Main statement: cutting loses
nothing (`joined_cut`).
-/

namespace Compendium

namespace Query

/-- The characters of filter keys and values: ASCII letters, digits and the underscore. -/
def isWord (c : Char) : Bool := c.isAlphanum || c = '_'

/-- A piece of a search text. -/
inductive Piece where
  | filter (key value : List Char)
  | plain (chars : List Char)
deriving DecidableEq, Repr

def Piece.source : Piece → List Char
  | .filter key value => key ++ ':' :: value
  | .plain chars => chars

/-- The value of a filter, and what follows it, in a text that stands after the key. -/
def valueAfter? : List Char → Option (List Char × List Char)
  | ':' :: v :: rest =>
    if isWord v then some (v :: rest.takeWhile isWord, rest.dropWhile isWord) else none
  | _ => none

theorem eq_append_of_valueAfter? {cs value rest : List Char}
    (h : valueAfter? cs = some (value, rest)) : cs = ':' :: (value ++ rest) := by
  unfold valueAfter? at h
  split at h
  · split at h
    · simp only [Option.some.injEq, Prod.mk.injEq] at h
      simp [← h.1, ← h.2]
    · simp at h
  · simp at h

theorem length_dropWhile_le (p : Char → Bool) (cs : List Char) :
    (cs.dropWhile p).length ≤ cs.length :=
  (List.dropWhile_suffix p).length_le

/-- The pieces of a search text, from the front. A run of word characters that no value follows is
plain, and so is every other character. -/
def cut : List Char → List Piece
  | [] => []
  | c :: rest =>
    if isWord c then
      match _h : valueAfter? (rest.dropWhile isWord) with
      | some (value, tail) => .filter (c :: rest.takeWhile isWord) value :: cut tail
      | none => .plain (c :: rest.takeWhile isWord) :: cut (rest.dropWhile isWord)
    else .plain [c] :: cut rest
termination_by cs => cs.length
decreasing_by
  · have h₁ := length_dropWhile_le isWord rest
    rw [eq_append_of_valueAfter? _h] at h₁
    simp only [List.length_cons, List.length_append] at h₁ ⊢
    omega
  · have h₁ := length_dropWhile_le isWord rest
    simp only [List.length_cons]
    omega
  · simp

def plainChars (pieces : List Piece) : List Char :=
  pieces.flatMap fun
    | .filter _ _ => []
    | .plain chars => chars

/-- The filters of some pieces, lowered, in their order. -/
def assignments (pieces : List Piece) : List (String × String) :=
  pieces.filterMap fun
    | .filter key value =>
      some (String.ofList (Text.lowerChars key), String.ofList (Text.lowerChars value))
    | .plain _ => none

end Query

/-- A search text taken apart. -/
structure Query where
  filters : List (String × String)
  freeText : String
deriving DecidableEq, Repr

namespace Query

def ofString (s : String) : Query :=
  let pieces := cut s.toList
  { filters := Fields.ofAssignments (assignments pieces)
    freeText := String.ofList (Text.lowerChars (Text.trimChars (plainChars pieces))) }

def isEmpty (q : Query) : Bool := q.filters.isEmpty && q.freeText.isEmpty

theorem ofString_empty : ofString "" = ⟨[], ""⟩ := by
  simp [ofString, cut, assignments, plainChars, Fields.ofAssignments, Fields.putAll, Text.trimChars,
    Text.lowerChars, Text.lowerAfter]

/-! ## Cutting -/

/-- Cutting loses nothing. -/
theorem joined_cut (cs : List Char) : (cut cs).flatMap Piece.source = cs := by
  fun_induction cut cs with
  | case1 => rfl
  | case2 c rest hc value tail h ih =>
    have hs := List.takeWhile_append_dropWhile (p := isWord) (l := rest)
    rw [eq_append_of_valueAfter? h] at hs
    simpa [ih, Piece.source] using hs
  | case3 c rest hc h ih => simp [ih, Piece.source]
  | case4 c rest hc ih => simp [ih, Piece.source]

end Query

end Compendium
