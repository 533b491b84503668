import Compendium.Proofs.Assignments
import Compendium.Query
import Mathlib.Data.List.Infix

/-!
# Chains of words in a search text

A search text falls into chains `w0:w1:…:wn` of words joined by single colons, as long as they go,
and characters that are in no chain (`ChainCut`). Main theorem `ofString_of_chainCut`: every text
has such a cut, and from it the query is read off: of each chain the pairs `w0:w1`, `w2:w3`, … are
its filters, and what is left when they are taken out holds no further filter, even where two
pieces come together.
-/

namespace Compendium.Query

/-! ## Texts in chains -/

/-- A word: one or more word characters. -/
def IsWordText (w : List Char) : Prop := w ≠ [] ∧ ∀ c ∈ w, isWord c = true

instance (w : List Char) : Decidable (IsWordText w) :=
  decidable_of_iff (w ≠ [] ∧ w.all isWord = true) (and_congr_right fun _ => List.all_eq_true)

def IsToken (cs : List Char) : Prop :=
  ∃ key value, IsWordText key ∧ IsWordText value ∧ cs = key ++ ':' :: value

/-- The words of a chain, or a character that is in no chain. -/
inductive Segment where
  | chain (words : List (List Char))
  | other (c : Char)
deriving DecidableEq, Repr

/-- Words with a colon between. -/
def chainText : List (List Char) → List Char
  | [] => []
  | [w] => w
  | w :: v :: rest => w ++ ':' :: chainText (v :: rest)

/-- The first word with the second, the third with the fourth, and so on. -/
def chainPairs : List (List Char) → List (List Char × List Char)
  | key :: value :: rest => (key, value) :: chainPairs rest
  | _ => []

/-- The text of a chain without its pairs: the colons between pairs, and the last word if it is in
none. -/
def chainRest : List (List Char) → List Char
  | [] => []
  | [w] => w
  | [_, _] => []
  | _ :: _ :: w :: rest => ':' :: chainRest (w :: rest)

namespace Segment

def text : Segment → List Char
  | .chain words => chainText words
  | .other c => [c]

def pairs : Segment → List (List Char × List Char)
  | .chain words => chainPairs words
  | .other _ => []

/-- The characters of a segment without its filters. -/
def leftOver : Segment → List Char
  | .chain words => chainRest words
  | .other c => [c]

end Segment

/-- What follows a chain does not make it longer. -/
def EndsChain : List Segment → Prop
  | .chain _ :: _ => False
  | .other c :: .chain _ :: _ => c ≠ ':'
  | _ => True

/-- Every word character is in a chain, and no chain could be longer. -/
def Maximal : List Segment → Prop
  | [] => True
  | .other c :: rest => isWord c = false ∧ Maximal rest
  | .chain words :: rest =>
    words ≠ [] ∧ (∀ w ∈ words, IsWordText w) ∧ EndsChain rest ∧ Maximal rest

/-- The segments are the text, cut into its longest chains. -/
structure ChainCut (cs : List Char) (segments : List Segment) : Prop where
  text : segments.flatMap Segment.text = cs
  maximal : Maximal segments

/-! ## Every text has a cut -/

/-- The segments with one more character in front. -/
def addChar (c : Char) (segments : List Segment) : List Segment :=
  if isWord c then
    match segments with
    | .chain (w :: words) :: rest => .chain ((c :: w) :: words) :: rest
    | .other ':' :: .chain (w :: words) :: rest => .chain ([c] :: w :: words) :: rest
    | segments => .chain [[c]] :: segments
  else .other c :: segments

theorem isWordText_cons {c : Char} {w : List Char} (hc : isWord c = true)
    (hw : ∀ d ∈ w, isWord d = true) : IsWordText (c :: w) := by
  refine ⟨by simp, fun d hd => ?_⟩
  rcases List.mem_cons.1 hd with rfl | hd
  · exact hc
  · exact hw d hd

theorem isWordText_takeWhile {c : Char} (hc : isWord c = true) (rest : List Char) :
    IsWordText (c :: rest.takeWhile isWord) :=
  isWordText_cons hc (List.all_eq_true.1 List.all_takeWhile)

theorem chainText_cons (c : Char) (w : List Char) (words : List (List Char)) :
    chainText ((c :: w) :: words) = c :: chainText (w :: words) := by
  cases words <;> rfl

theorem maximal_addChar {c : Char} {segments : List Segment} (h : Maximal segments) :
    Maximal (addChar c segments) := by
  unfold addChar
  split
  · rename_i hc
    split
    · obtain ⟨-, hwords, hends, hrest⟩ := h
      refine ⟨by simp, fun v hv => ?_, hends, hrest⟩
      rcases List.mem_cons.1 hv with rfl | hv
      · exact isWordText_cons hc (hwords _ (by simp)).2
      · exact hwords v (by simp [hv])
    · obtain ⟨-, -, hwords, hends, hrest⟩ := h
      refine ⟨by simp, fun v hv => ?_, hends, hrest⟩
      rcases List.mem_cons.1 hv with rfl | hv
      · exact isWordText_cons hc (by simp)
      · exact hwords v hv
    · rename_i hchain hcolon
      refine ⟨by simp, by simpa using isWordText_cons hc (by simp), ?_, h⟩
      -- a chain that follows, at once or after a colon, has a first word and was taken up above
      match segments, h with
      | [], _ => trivial
      | .chain [] :: rest, h => exact absurd rfl h.1
      | .chain (w :: words) :: rest, _ => exact absurd rfl (hchain w words rest)
      | [.other d], _ => trivial
      | .other d :: .other e :: rest, _ => trivial
      | .other d :: .chain [] :: rest, h => exact absurd rfl h.2.1
      | .other d :: .chain (w :: words) :: rest, _ =>
        intro hd
        exact hcolon w words rest (by rw [hd])
  · rename_i hc
    exact ⟨by simpa using hc, h⟩

theorem text_addChar (c : Char) (segments : List Segment) :
    (addChar c segments).flatMap Segment.text = c :: segments.flatMap Segment.text := by
  unfold addChar
  split
  · split
    · simp [Segment.text, chainText_cons]
    · simp [Segment.text, chainText]
    · simp [Segment.text, chainText]
  · simp [Segment.text]

/-- Every text has a cut into its longest chains. -/
theorem chainCut_foldr (cs : List Char) : ChainCut cs (cs.foldr addChar []) := by
  induction cs with
  | nil => exact ⟨rfl, trivial⟩
  | cons c rest ih => exact ⟨by rw [List.foldr_cons, text_addChar, ih.text], maximal_addChar ih.maximal⟩

/-! ## Cutting a text in chains -/

/-- The text does not begin with a word character. -/
def StartsPlain (cs : List Char) : Prop := ∀ c, cs.head? = some c → isWord c = false

theorem takeWhile_word {w cs : List Char} (hw : ∀ c ∈ w, isWord c = true) (hcs : StartsPlain cs) :
    (w ++ cs).takeWhile isWord = w := by
  rw [List.takeWhile_append_of_pos hw]
  cases cs with
  | nil => simp
  | cons c rest => simp [hcs c rfl]

theorem dropWhile_word {w cs : List Char} (hw : ∀ c ∈ w, isWord c = true) (hcs : StartsPlain cs) :
    (w ++ cs).dropWhile isWord = cs := by
  rw [List.dropWhile_append_of_pos hw]
  cases cs with
  | nil => rfl
  | cons c rest => simp [hcs c rfl]

theorem startsPlain_colon (cs : List Char) : StartsPlain (':' :: cs) := by
  intro c hc
  have : ':' = c := by simpa using hc
  subst this
  decide

theorem valueAfter?_word {w cs : List Char} (hw : IsWordText w) (hcs : StartsPlain cs) :
    valueAfter? (':' :: (w ++ cs)) = some (w, cs) := by
  obtain ⟨hne, hall⟩ := hw
  cases w with
  | nil => exact absurd rfl hne
  | cons c w =>
    have hrest : ∀ d ∈ w, isWord d = true := fun d hd => hall d (by simp [hd])
    simp [valueAfter?, hall c (by simp), takeWhile_word hrest hcs, dropWhile_word hrest hcs]

theorem cut_word_none {w cs : List Char} (hw : IsWordText w) (hcs : StartsPlain cs)
    (h : valueAfter? cs = none) : cut (w ++ cs) = .plain w :: cut cs := by
  obtain ⟨hne, hall⟩ := hw
  cases w with
  | nil => exact absurd rfl hne
  | cons c w =>
    have hrest : ∀ d ∈ w, isWord d = true := fun d hd => hall d (by simp [hd])
    rw [List.cons_append, cut]
    simp only [hall c (by simp), if_true, takeWhile_word hrest hcs, dropWhile_word hrest hcs]
    split
    · rename_i h'
      simp [dropWhile_word hrest hcs, h] at h'
    · rfl

theorem cut_word_some {w value cs tail : List Char} (hw : IsWordText w) (hcs : StartsPlain cs)
    (h : valueAfter? cs = some (value, tail)) : cut (w ++ cs) = .filter w value :: cut tail := by
  obtain ⟨hne, hall⟩ := hw
  cases w with
  | nil => exact absurd rfl hne
  | cons c w =>
    have hrest : ∀ d ∈ w, isWord d = true := fun d hd => hall d (by simp [hd])
    rw [List.cons_append, cut]
    simp only [hall c (by simp), if_true, takeWhile_word hrest hcs]
    split
    · rename_i h'
      rw [dropWhile_word hrest hcs, h] at h'
      simp only [Option.some.injEq, Prod.mk.injEq] at h'
      rw [h'.1, h'.2]
    · rename_i h'
      simp [dropWhile_word hrest hcs, h] at h'

theorem cut_plain {c : Char} (hc : isWord c = false) (cs : List Char) :
    cut (c :: cs) = .plain [c] :: cut cs := by
  rw [cut]
  simp [hc]

def chainPieces : List (List Char) → List Piece
  | [] => []
  | [w] => [.plain w]
  | [key, value] => [.filter key value]
  | key :: value :: w :: rest => .filter key value :: .plain [':'] :: chainPieces (w :: rest)

def Segment.pieces : Segment → List Piece
  | .chain words => chainPieces words
  | .other c => [.plain [c]]

theorem cut_chain {words : List (List Char)} (hwords : ∀ w ∈ words, IsWordText w) {cs : List Char}
    (hcs : StartsPlain cs) (hvalue : valueAfter? cs = none) :
    cut (chainText words ++ cs) = chainPieces words ++ cut cs := by
  induction words using chainPieces.induct with
  | case1 => rfl
  | case2 w => exact cut_word_none (hwords w (by simp)) hcs hvalue
  | case3 key value =>
    have hv := valueAfter?_word (hwords value (by simp)) hcs
    simpa [chainText, chainPieces] using
      cut_word_some (hwords key (by simp)) (startsPlain_colon _) hv
  | case4 key value w rest ih =>
    have hv := valueAfter?_word (hwords value (by simp))
      (startsPlain_colon (chainText (w :: rest) ++ cs))
    have ih' := ih fun v hv => hwords v (List.mem_cons_of_mem _ (List.mem_cons_of_mem _ hv))
    have hcut := cut_word_some (hwords key (by simp)) (startsPlain_colon _) hv
    rw [cut_plain (by decide), ih'] at hcut
    simpa [chainText, chainPieces] using hcut

theorem startsPlain_of_endsChain {segments : List Segment} (hends : EndsChain segments)
    (h : Maximal segments) : StartsPlain (segments.flatMap Segment.text) := by
  match segments, hends, h with
  | [], _, _ => simp [StartsPlain]
  | .other c :: rest, _, h =>
    intro d hd
    have : c = d := by simpa [Segment.text] using hd
    exact this ▸ h.1
  | .chain _ :: _, hends, _ => exact hends.elim

theorem valueAfter?_of_endsChain {segments : List Segment} (hends : EndsChain segments)
    (h : Maximal segments) : valueAfter? (segments.flatMap Segment.text) = none := by
  match segments, hends, h with
  | [], _, _ => rfl
  | [.other c], _, _ => simp [Segment.text, valueAfter?]
  | .other c :: .other d :: rest, _, h =>
    have hd := h.2.1
    simp only [List.flatMap_cons, Segment.text, List.singleton_append]
    unfold valueAfter?
    split
    · rename_i heq
      simp only [List.cons.injEq] at heq
      simp [← heq.2.1, hd]
    · rfl
  | .other c :: .chain words :: rest, hends, _ =>
    simp only [List.flatMap_cons, Segment.text, List.singleton_append]
    unfold valueAfter?
    split
    · rename_i heq
      simp only [List.cons.injEq] at heq
      exact absurd heq.1 hends
    · rfl
  | .chain _ :: _, hends, _ => exact hends.elim

/-- A text in longest chains is cut chain by chain. -/
theorem cut_eq {segments : List Segment} (h : Maximal segments) :
    cut (segments.flatMap Segment.text) = segments.flatMap Segment.pieces := by
  induction segments with
  | nil => simp [cut]
  | cons segment rest ih =>
    cases segment with
    | other c =>
      simpa [Segment.text, Segment.pieces, ih h.2] using cut_plain h.1 (rest.flatMap Segment.text)
    | chain words =>
      obtain ⟨-, hwords, hends, hrest⟩ := h
      have hcut := cut_chain hwords (startsPlain_of_endsChain hends hrest)
        (valueAfter?_of_endsChain hends hrest)
      simpa [Segment.text, Segment.pieces, ih hrest] using hcut

theorem cut_of_chainCut {cs : List Char} {segments : List Segment} (h : ChainCut cs segments) :
    cut cs = segments.flatMap Segment.pieces := by
  rw [← h.text, cut_eq h.maximal]

theorem assignments_append (a b : List Piece) :
    assignments (a ++ b) = assignments a ++ assignments b :=
  List.filterMap_append

theorem plainChars_append (a b : List Piece) :
    plainChars (a ++ b) = plainChars a ++ plainChars b :=
  List.flatMap_append

theorem freeText_eq (s : String) : (ofString s).freeText =
    String.ofList (Text.lowerChars (Text.trimChars (plainChars (cut s.toList)))) := rfl

theorem toList_freeText (s : String) :
    (ofString s).freeText.toList = Text.lowerChars (Text.trimChars (plainChars (cut s.toList))) :=
  String.toList_ofList

theorem assignments_pieces (segments : List Segment) :
    assignments (segments.flatMap Segment.pieces) =
      (segments.flatMap Segment.pairs).map fun p =>
        (String.ofList (Text.lowerChars p.1), String.ofList (Text.lowerChars p.2)) := by
  have hchain : ∀ words, assignments (chainPieces words) = (chainPairs words).map fun p =>
      (String.ofList (Text.lowerChars p.1), String.ofList (Text.lowerChars p.2)) := by
    intro words
    induction words using chainPieces.induct with
    | case4 key value w rest ih => simpa [chainPieces, chainPairs, assignments] using ih
    | _ => simp [chainPieces, chainPairs, assignments]
  induction segments with
  | nil => rfl
  | cons segment rest ih =>
    rw [List.flatMap_cons, List.flatMap_cons, assignments_append, List.map_append, ih]
    cases segment with
    | other c => rfl
    | chain words => rw [Segment.pieces, hchain, Segment.pairs]

theorem plainChars_pieces (segments : List Segment) :
    plainChars (segments.flatMap Segment.pieces) = segments.flatMap Segment.leftOver := by
  have hchain : ∀ words, plainChars (chainPieces words) = chainRest words := by
    intro words
    induction words using chainPieces.induct with
    | case4 key value w rest ih => simpa [chainPieces, chainRest, plainChars] using ih
    | _ => simp [chainPieces, chainRest, plainChars]
  induction segments with
  | nil => rfl
  | cons segment rest ih =>
    rw [List.flatMap_cons, List.flatMap_cons, plainChars_append, ih]
    cases segment with
    | other c => rfl
    | chain words => rw [Segment.pieces, hchain, Segment.leftOver]

/-! ## What is left holds no filter -/

/-- How much of a filter the characters before a place make up: nothing, a part of its key, or its
key and the colon. -/
inductive Progress where
  | nothing
  | key
  | colon
deriving DecidableEq, Repr

/-- One more character; none if it completes a filter. -/
def Progress.step (p : Progress) (c : Char) : Option Progress :=
  if isWord c then (if p = .colon then none else some .key)
  else if c = ':' ∧ p = .key then some .colon
  else some .nothing

/-- Goes past a text; none if it holds a filter. -/
def Progress.past (p : Progress) : List Char → Option Progress
  | [] => some p
  | c :: rest => (p.step c).bind fun q => q.past rest

theorem Progress.past_append (p : Progress) (a b : List Char) :
    p.past (a ++ b) = (p.past a).bind fun q => q.past b := by
  induction a generalizing p with
  | nil => rfl
  | cons c rest ih =>
    simp only [List.cons_append, past]
    cases p.step c with
    | none => rfl
    | some q => exact ih q

theorem Progress.key_past {w : List Char} (hw : ∀ c ∈ w, isWord c = true) :
    Progress.key.past w = some .key := by
  induction w with
  | nil => rfl
  | cons c w ih =>
    have hc : Progress.key.step c = some .key := by simp [step, hw c (by simp)]
    simp only [past, hc, Option.bind_some]
    exact ih fun d hd => hw d (by simp [hd])

theorem Progress.past_word (p : Progress) {w : List Char} (hw : IsWordText w) :
    p.past w = if p = .colon then none else some .key := by
  obtain ⟨hne, hall⟩ := hw
  cases w with
  | nil => exact absurd rfl hne
  | cons c w =>
    have hrest := key_past fun d hd => hall d (List.mem_cons_of_mem c hd)
    cases p <;> simp [past, step, hall c (by simp), hrest]

/-- A text that holds a filter is not gone past to its end. -/
theorem Progress.past_token (p : Progress) {token : List Char} (h : IsToken token) :
    p.past token = none := by
  obtain ⟨key, value, hkey, hvalue, rfl⟩ := h
  have hcolon : Progress.key.step ':' = some .colon := rfl
  rw [past_append, past_word p hkey]
  cases p <;> simp [past, hcolon, past_word _ hvalue]

theorem not_isToken_of_past {p q : Progress} {cs : List Char} (h : p.past cs = some q) :
    ¬ ∃ token, IsToken token ∧ token <:+: cs := by
  rintro ⟨token, htoken, before, after, rfl⟩
  rw [Progress.past_append, Progress.past_append] at h
  cases hbefore : p.past before with
  | none => simp [hbefore] at h
  | some r => simp [hbefore, r.past_token htoken] at h

/-- The segments may follow a text that makes up so much of a filter. -/
def Progress.Fits : Progress → List Segment → Prop
  | .nothing, _ => True
  | .key, segments => EndsChain segments
  | .colon, segments => ∀ words rest, segments ≠ .chain words :: rest

theorem Progress.past_chainRest {words : List (List Char)} (h : ∀ w ∈ words, IsWordText w) :
    Progress.nothing.past (chainRest words) = some .nothing ∨
      Progress.nothing.past (chainRest words) = some .key := by
  induction words using chainRest.induct with
  | case1 => exact Or.inl rfl
  | case2 w => exact Or.inr (past_word .nothing (h w (by simp)))
  | case3 key value => exact Or.inl rfl
  | case4 key value w rest ih =>
    have ih' := ih fun v hv => h v (List.mem_cons_of_mem _ (List.mem_cons_of_mem _ hv))
    have hcolon : Progress.nothing.step ':' = some .nothing := rfl
    simpa [chainRest, past, hcolon] using ih'

/-- The invariant: after each segment, what is left so far makes up no more of a filter than the
next segment may follow. -/
theorem Progress.past_leftOver {segments : List Segment} (h : Maximal segments) {p : Progress}
    (hp : p.Fits segments) : ∃ q, p.past (segments.flatMap Segment.leftOver) = some q := by
  induction segments generalizing p with
  | nil => exact ⟨p, rfl⟩
  | cons segment rest ih =>
    cases segment with
    | other c =>
      obtain ⟨hc, hrest⟩ := h
      simp only [List.flatMap_cons, Segment.leftOver, List.singleton_append, past]
      by_cases hcolon : c = ':' ∧ p = .key
      · obtain ⟨rfl, rfl⟩ := hcolon
        have hstep : Progress.key.step ':' = some .colon := rfl
        rw [hstep]
        refine ih hrest fun words rest' hrest' => ?_
        subst hrest'
        exact hp rfl
      · have hstep : p.step c = some .nothing := by simp [step, hc, hcolon]
        rw [hstep]
        exact ih hrest trivial
    | chain words =>
      obtain ⟨-, hwords, hends, hrest⟩ := h
      have hnothing : p = .nothing := by
        cases p with
        | nothing => rfl
        | key => exact hp.elim
        | colon => exact absurd rfl (hp words rest)
      subst hnothing
      rw [List.flatMap_cons, past_append, Segment.leftOver]
      rcases past_chainRest hwords with hover | hover
      · rw [hover]
        exact ih hrest trivial
      · rw [hover]
        exact ih hrest hends

/-- What is left of longest chains holds no filter. -/
theorem not_isToken_leftOver {segments : List Segment} (h : Maximal segments) :
    ¬ ∃ token, IsToken token ∧ token <:+: segments.flatMap Segment.leftOver := by
  obtain ⟨q, hq⟩ := Progress.past_leftOver (p := .nothing) h trivial
  exact not_isToken_of_past hq

/-! ## Queries in chains -/

/-- The pairs of the chains, lowered, in their order. -/
def chainAssignments (segments : List Segment) : List (String × String) :=
  (segments.flatMap Segment.pairs).map fun p =>
    (String.ofList (Text.lowerChars p.1), String.ofList (Text.lowerChars p.2))

/-- A search text that is one filter. -/
theorem ofString_token {key value : String} (hkey : IsWordText key.toList)
    (hvalue : IsWordText value.toList) :
    ofString (key ++ ":" ++ value) = ⟨[(Text.lower key, Text.lower value)], ""⟩ := by
  have hcut : ChainCut (key ++ ":" ++ value).toList [.chain [key.toList, value.toList]] := by
    constructor
    · simp [Segment.text, chainText, String.toList_append]
    · exact ⟨by simp, by simpa using ⟨hkey, hvalue⟩, trivial, trivial⟩
  have hpieces := cut_of_chainCut hcut
  simp only [List.flatMap_cons, List.flatMap_nil, List.append_nil, Segment.pieces,
    chainPieces] at hpieces
  rw [ofString, hpieces]
  rfl

/-- **A query is read off the chains of its text.** Every text has a cut into longest chains. The
filters are the pairs of the chains, each key where it comes up first with the value that it is
given last; the free text is what is left without them, and no filter is left in it. -/
theorem ofString_of_chainCut (s : String) :
    (∃ segments, ChainCut s.toList segments) ∧
    ∀ segments, ChainCut s.toList segments →
      Fields.names (ofString s).filters = (Fields.names (chainAssignments segments)).eraseDups ∧
      (∀ key, Fields.get? (ofString s).filters key =
        Fields.get? (chainAssignments segments).reverse key) ∧
      (ofString s).freeText = String.ofList (Text.lowerChars (Text.trimChars
        (segments.flatMap Segment.leftOver))) ∧
      ¬ ∃ token, IsToken token ∧ token <:+: segments.flatMap Segment.leftOver := by
  refine ⟨⟨_, chainCut_foldr s.toList⟩, fun segments h => ?_⟩
  have hcut := cut_of_chainCut h
  have hfilters : (ofString s).filters = Fields.ofAssignments (chainAssignments segments) := by
    rw [ofString, hcut, assignments_pieces, chainAssignments]
  refine ⟨?_, fun key => ?_, ?_, ?_⟩
  · rw [hfilters, Fields.names_ofAssignments]
  · rw [hfilters, Fields.get?_ofAssignments]
  · rw [ofString, hcut, plainChars_pieces]
  · exact not_isToken_leftOver h.maximal

/-- A chain of three words leaves the last, a doubled colon parts two chains, and a key that comes
up again keeps its place and takes the new value. -/
theorem ofString_of_chainCut_odd :
    ChainCut "lv:1:x::B:c tier:2:LV:3".toList
      [.chain ["lv".toList, "1".toList, "x".toList], .other ':', .other ':',
        .chain ["B".toList, "c".toList], .other ' ',
        .chain ["tier".toList, "2".toList, "LV".toList, "3".toList]] ∧
    Fields.names (ofString "lv:1:x::B:c tier:2:LV:3").filters = ["lv", "b", "tier"] ∧
    Fields.get? (ofString "lv:1:x::B:c tier:2:LV:3").filters "lv" = some "3" ∧
    (ofString "lv:1:x::B:c tier:2:LV:3").freeText = ":x:: :" := by
  have hcut : ChainCut "lv:1:x::B:c tier:2:LV:3".toList
      [.chain ["lv".toList, "1".toList, "x".toList], .other ':', .other ':',
        .chain ["B".toList, "c".toList], .other ' ',
        .chain ["tier".toList, "2".toList, "LV".toList, "3".toList]] := by
    refine ⟨by decide, ?_⟩
    simp only [Maximal, EndsChain]
    decide
  obtain ⟨hnames, hget, hfree, -⟩ := (ofString_of_chainCut _).2 _ hcut
  exact ⟨hcut, hnames.trans (by decide), (hget _).trans (by decide), hfree.trans (by decide)⟩

end Compendium.Query
