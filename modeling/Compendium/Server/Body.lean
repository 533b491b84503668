import Compendium.Json.Reader
import Compendium.Json.Writer
import Compendium.Text.Utf8

/-!
# Bodies

A body holds one JSON value. Its text may be in UTF-8, UTF-16 or UTF-32, which a mark in front or the
zeros among its first octets tell, and a half of a pair may stand in it as it is, with octets of its
own. The value is the one that is read where such a half is spelled as an escape.
-/

namespace Compendium.Body

/-! ## Encodings -/

inductive Encoding where
  | utf8
  | utf16 (bigEndian : Bool)
  | utf32 (bigEndian : Bool)
deriving DecidableEq, Repr

/-- The encoding that the zeros in front tell. The first character is always one of ASCII. -/
def guessed : List UInt8 → Encoding
  | a :: b :: c :: d :: _ =>
    if a = 0 then if b = 0 then .utf32 true else .utf16 true
    else if b = 0 then if c = 0 ∧ d = 0 then .utf32 false else .utf16 false
    else .utf8
  | [a, b] => if a = 0 then .utf16 true else if b = 0 then .utf16 false else .utf8
  | _ => .utf8

/-- The encoding of a body, and the octets behind its mark. -/
def encodingOf : List UInt8 → Encoding × List UInt8
  | 0x00 :: 0x00 :: 0xFE :: 0xFF :: rest => (.utf32 true, rest)
  | 0xFF :: 0xFE :: 0x00 :: 0x00 :: rest => (.utf32 false, rest)
  | 0xFE :: 0xFF :: rest => (.utf16 true, rest)
  | 0xFF :: 0xFE :: rest => (.utf16 false, rest)
  | 0xEF :: 0xBB :: 0xBF :: rest => (.utf8, rest)
  | body => (guessed body, body)

/-- The number that octets are, the first of which counts most if they are big-endian. -/
def numberOf (bigEndian : Bool) (octets : List UInt8) : Nat :=
  (if bigEndian then octets else octets.reverse).foldl (fun n o => n * 256 + o.toNat) 0

/-- The numbers that pairs of octets are. -/
def pairs? (bigEndian : Bool) : List UInt8 → Option (List Nat)
  | [] => some []
  | a :: b :: rest => (pairs? bigEndian rest).map (numberOf bigEndian [a, b] :: ·)
  | _ => none

/-- The numbers that groups of four octets are. -/
def fours? (bigEndian : Bool) : List UInt8 → Option (List Nat)
  | [] => some []
  | a :: b :: c :: d :: rest => (fours? bigEndian rest).map (numberOf bigEndian [a, b, c, d] :: ·)
  | _ => none

/-- The half that three octets are, none of which is part of a character. -/
def halfOf? (a b c : UInt8) : Option CodePoint :=
  if a = 0xED ∧ 0xA0 ≤ b ∧ b ≤ 0xBF ∧ 0x80 ≤ c ∧ c ≤ 0xBF then
    some (.ofNat (0xD000 + (b.toNat - 0x80) * 0x40 + (c.toNat - 0x80)))
  else none

/-- The code points of pieces, among which a half is three bad ones. -/
def collect? : List Text.Utf8.Piece → Option (List CodePoint)
  | [] => some []
  | .char c :: rest => (collect? rest).map (.char c :: ·)
  | .bad _ [a] :: .bad _ [b] :: .bad _ [c] :: rest => do
    let half ← halfOf? a b c
    let ps ← collect? rest
    return half :: ps
  | _ => none

/-- The code point of a number, if it has one. -/
def point? (n : Nat) : Option CodePoint := if n < 0x110000 then some (.ofNat n) else none

/-- The code points of a body. -/
def points? (body : List UInt8) : Option (List CodePoint) :=
  match encodingOf body with
  | (.utf8, octets) => collect? (Text.Utf8.pieces octets)
  | (.utf16 bigEndian, octets) =>
    (pairs? bigEndian octets).map fun units => CodePoint.join (units.map .ofNat)
  | (.utf32 bigEndian, octets) => (fours? bigEndian octets).bind (List.mapM point?)

/-! ## Halves as escapes -/

/-- Where a text stands with its quotes: outside of them, inside, or inside behind a backslash. -/
inductive QuoteMode where
  | outside
  | inside
  | escaping

def QuoteMode.next : QuoteMode → Char → QuoteMode
  | .outside, '"' => .inside
  | .outside, _ => .outside
  | .inside, '"' => .outside
  | .inside, '\\' => .escaping
  | _, _ => .inside

/-- The spelling of each code point: that of a half inside quotes is its escape, if more follows. Nowhere
else is a half part of a value, and no more is the replacement character. -/
def spellings : QuoteMode → List CodePoint → List (List Char)
  | _, [] => []
  | mode, .char c :: rest => [c] :: spellings (mode.next c) rest
  | .inside, half :: p :: rest => Json.unicodeEscape half.toNat :: spellings .inside (p :: rest)
  | mode, half :: rest => [half.shown] :: spellings (mode.next half.shown) rest

/-- How many of the spellings end in the first characters. -/
def spelledBefore : List (List Char) → Nat → Nat
  | [], _ => 0
  | cs :: rest, count => if count < cs.length then 0 else 1 + spelledBefore rest (count - cs.length)

/-! ## The value -/

/-- Why a body holds no value: its text cannot be read, or something stands out of place in it after
`offset` code points. -/
inductive Fault where
  | unreadable
  | malformed (kind : Json.FaultKind) (offset : Nat)
deriving DecidableEq, Repr

/-- The value that a body holds. -/
def read (body : List UInt8) : Except Fault Json :=
  match points? body with
  | none => .error .unreadable
  | some ps =>
    let spelled := spellings .outside ps
    match Json.readAll spelled.flatten with
    | .ok v => .ok v
    | .error (.misplaced kind offset) => .error (.malformed kind (spelledBefore spelled offset))
    | .error (.tooManyDigits _) => .error .unreadable

end Compendium.Body
