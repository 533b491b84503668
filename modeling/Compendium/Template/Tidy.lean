import Compendium.Text.Class

/-!
# Blanks around tags

Before a template is taken apart, the blanks next to a tag that has a tilde on that side go, and so
does what surrounds block tags and comments that have a line to themselves: the blanks before and
after them, and one end of line. Main statement: a text without braces stays as it is
(`tidy_of_no_brace`).
-/

namespace Compendium.Template

/-- A blank inside a line. -/
def isGap (c : Char) : Bool := c = ' ' || c = '\t'

/-- A character that is no brace. -/
def isTagChar (c : Char) : Bool := c ≠ '\x7b' && c ≠ '\x7d'

/-- The inside of a tag that opens or closes a block, or of a comment: one of the marks, and more. -/
def isMarked (marks : List Char) : List Char → Bool
  | mark :: _ :: _ => mark ∈ marks
  | _ => false

/-- The inside of a tag between two branches. -/
def isBranch (inside : List Char) : Bool :=
  inside = "else".toList ||
    ("else if ".toList.isPrefixOf inside && "else if ".toList.length < inside.length)

/-- The inside of a tag that stands at the front after blanks, and what follows it and its own
blanks. -/
def leadingTag? (cs : List Char) : Option (List Char × List Char) :=
  match cs.dropWhile isGap with
  | '\x7b' :: '\x7b' :: rest =>
    match rest.dropWhile isTagChar with
    | '\x7d' :: '\x7d' :: after => some (rest.takeWhile isTagChar, after.dropWhile isGap)
    | _ => none
  | _ => none

/-- The insides of the tags at the front that are of the right kind, at most `fuel` of them, and
what follows. -/
def leadingTags (ofKind : List Char → Bool) : Nat → List Char → List (List Char) × List Char
  | 0, cs => ([], cs)
  | fuel + 1, cs =>
    match leadingTag? cs with
    | some (inside, rest) =>
      if ofKind inside then
        let more := leadingTags ofKind fuel rest
        (inside :: more.1, more.2)
      else ([], cs)
    | none => ([], cs)

/-- A tag, without the tilde before its end. -/
def writeTag (inside : List Char) : List Char :=
  let kept := if inside.getLast? = some '~' then inside.dropLast else inside
  '\x7b' :: '\x7b' :: kept ++ ['\x7d', '\x7d']

/-- What follows an end of line. -/
def afterLineEnd? : List Char → Option (List Char)
  | '\r' :: '\n' :: rest => some rest
  | '\n' :: rest => some rest
  | _ => none

/-- Tags that fill a line, and what follows the line. -/
def tagLine? (ofKind : List Char → Bool) (cs : List Char) : Option (List Char × List Char) :=
  match leadingTags ofKind cs.length cs with
  | ([], _) => none
  | (tags, rest) => (afterLineEnd? rest).map fun after => (tags.flatMap writeTag, after)

/-- Tags that fill the last line, with the end of line before them. A last line feed may follow. -/
def lastLine? (cs : List Char) : Option (List Char × List Char) :=
  match afterLineEnd? cs with
  | none => none
  | some line =>
    match leadingTags (isMarked ['/', '!']) line.length line with
    | ([], _) => none
    | (tags, rest) =>
      if rest = [] ∨ rest = ['\n'] then some (tags.flatMap writeTag, rest) else none

/-- A tag's end with a tilde, and what follows the blanks behind it. -/
def tildeEnd? : List Char → Option (List Char × List Char)
  | '~' :: '\x7d' :: '\x7d' :: rest => some (['\x7d', '\x7d'], rest.dropWhile Text.isBlank)
  | _ => none

/-- Blanks and a tag's start with a tilde. -/
def tildeStart? (cs : List Char) : Option (List Char × List Char) :=
  match cs.dropWhile Text.isBlank with
  | '\x7b' :: '\x7b' :: '~' :: rest => some (['\x7b', '\x7b'], rest)
  | _ => none

/-- What is to be replaced at the front, given the character before: what takes its place, and what
follows. -/
def tidied? (before : Option Char) (cs : List Char) : Option (List Char × List Char) :=
  (tildeEnd? cs).or <|
  (tildeStart? cs).or <|
  (if before = some '\n' then tagLine? (fun t => isMarked ['#', '/', '!'] t || isBranch t) cs
    else none).or <|
  (if before = none then tagLine? (isMarked ['#', '!']) cs else none).or <|
  lastLine? cs

/-- The text with `skip` characters left out first. -/
def tidyFrom : Option Char → Nat → List Char → List Char
  | _, _, [] => []
  | _, skip + 1, c :: rest => tidyFrom (some c) skip rest
  | before, 0, c :: rest =>
    match tidied? before (c :: rest) with
    | some (out, after) => out ++ tidyFrom (some c) (rest.length - after.length) rest
    | none => c :: tidyFrom (some c) 0 rest

/-- The text without the blanks that its tags do away with. -/
def tidy (cs : List Char) : List Char := tidyFrom none 0 cs

/-! ## Texts without braces -/

theorem leadingTag?_of_no_brace {cs : List Char} (h : '\x7b' ∉ cs) : leadingTag? cs = none := by
  unfold leadingTag?
  split
  · rename_i rest heq
    have hs := List.dropWhile_suffix (p := isGap) (l := cs)
    rw [heq] at hs
    exact absurd (hs.subset (List.mem_cons_self ..)) h
  · rfl

theorem leadingTags_of_no_brace {cs : List Char} (ofKind : List Char → Bool) (fuel : Nat)
    (h : '\x7b' ∉ cs) : leadingTags ofKind fuel cs = ([], cs) := by
  cases fuel with
  | zero => rfl
  | succ fuel => simp [leadingTags, leadingTag?_of_no_brace h]

theorem tidied?_of_no_brace {cs : List Char} (before : Option Char) (h : '\x7b' ∉ cs)
    (h' : '\x7d' ∉ cs) : tidied? before cs = none := by
  have h1 : tildeEnd? cs = none := by
    unfold tildeEnd?
    split
    · simp at h'
    · rfl
  have h2 : tildeStart? cs = none := by
    unfold tildeStart?
    split
    · rename_i rest heq
      have hs := List.dropWhile_suffix (p := Text.isBlank) (l := cs)
      rw [heq] at hs
      exact absurd (hs.subset (List.mem_cons_self ..)) h
    · rfl
  have h3 : ∀ ofKind, tagLine? ofKind cs = none := fun ofKind => by
    simp [tagLine?, leadingTags_of_no_brace ofKind _ h]
  have h4 : lastLine? cs = none := by
    unfold lastLine?
    split
    · rfl
    · rename_i line heq
      have hl : '\x7b' ∉ line := by
        unfold afterLineEnd? at heq
        split at heq <;> simp_all
      rw [leadingTags_of_no_brace _ _ hl]
  simp [tidied?, h1, h2, h3, h4]

/-- Without a tag there is nothing to do. -/
theorem tidy_of_no_brace {cs : List Char} (h : '\x7b' ∉ cs) (h' : '\x7d' ∉ cs) : tidy cs = cs := by
  suffices ∀ before, tidyFrom before 0 cs = cs from this none
  induction cs with
  | nil => exact fun _ => rfl
  | cons c rest ih =>
    intro before
    simp only [List.mem_cons, not_or] at h h'
    rw [tidyFrom, tidied?_of_no_brace before (by simp [h]) (by simp [h'])]
    simp [ih h.2 h'.2]

end Compendium.Template
