import Compendium.Text.CodePoint

/-!
# UTF-8

Octets are cut into pieces from the front: a piece is a character, or the longest run of octets
that begins one and goes wrong. A strict reader stops at the first bad piece and says where it is,
a lenient one puts the replacement character in its place. An ASCII character is one octet, which
leads to just that character (`encodeChar_ascii`, `lead_ascii`).
-/

namespace Compendium.Text.Utf8

/-- What is wrong with a run of octets. -/
inductive FaultKind where
  /-- No character begins with the octet. -/
  | start
  /-- The next octet does not continue the character. -/
  | continuation
  /-- The octets end inside the character. -/
  | ending
deriving DecidableEq, Repr

/-- A run of octets that is no character, and how many octets stand before it. -/
structure Fault where
  kind : FaultKind
  octets : List UInt8
  position : Nat
deriving DecidableEq, Repr

/-- A character, or octets that are none. -/
inductive Piece where
  | char (c : Char)
  | bad (kind : FaultKind) (octets : List UInt8)

/-- An unfinished character: its octets so far, the bits they hold, how many octets are owed, and
the bounds of the next one. -/
structure Pending where
  octets : List UInt8
  bits : Nat
  owed : Nat
  low : UInt8
  high : UInt8

/-- What the first octet of a character leads to. -/
inductive Lead where
  | char (c : Char)
  | pending (p : Pending)
  | bad

/-- The first octet of a character. The bounds of the second octet leave out surrogates, code
points past the last one, and forms longer than they need be. -/
def lead (b : UInt8) : Lead :=
  let n := b.toNat
  if b < 0x80 then .char (Char.ofNat n)
  else if b < 0xC2 then .bad
  else if b < 0xE0 then .pending ⟨[b], n - 0xC0, 1, 0x80, 0xBF⟩
  else if b < 0xF0 then
    .pending ⟨[b], n - 0xE0, 2, if b = 0xE0 then 0xA0 else 0x80, if b = 0xED then 0x9F else 0xBF⟩
  else if b < 0xF5 then
    .pending ⟨[b], n - 0xF0, 3, if b = 0xF0 then 0x90 else 0x80, if b = 0xF4 then 0x8F else 0xBF⟩
  else .bad

/-- The pieces of a list of octets, the first of which may continue an unfinished character. -/
def piecesFrom : Option Pending → List UInt8 → List Piece
  | none, [] => []
  | some p, [] => [.bad .ending p.octets]
  | none, b :: rest =>
    match lead b with
    | .char c => .char c :: piecesFrom none rest
    | .pending p => piecesFrom (some p) rest
    | .bad => .bad .start [b] :: piecesFrom none rest
  | some p, b :: rest =>
    if p.low ≤ b ∧ b ≤ p.high then
      let bits := p.bits * 64 + (b.toNat - 0x80)
      if p.owed = 1 then .char (Char.ofNat bits) :: piecesFrom none rest
      else piecesFrom (some ⟨p.octets ++ [b], bits, p.owed - 1, 0x80, 0xBF⟩) rest
    else
      .bad .continuation p.octets ::
        match lead b with
        | .char c => .char c :: piecesFrom none rest
        | .pending q => piecesFrom (some q) rest
        | .bad => .bad .start [b] :: piecesFrom none rest

/-- The pieces of a list of octets. -/
def pieces (octets : List UInt8) : List Piece := piecesFrom none octets

def encode (cs : List Char) : List UInt8 := cs.flatMap String.utf8EncodeChar

/-- The characters of pieces that follow `position` octets, or the first bad piece. -/
def collect (position : Nat) : List Piece → Except Fault (List Char)
  | [] => .ok []
  | .char c :: rest => do
    let cs ← collect (position + c.utf8Size) rest
    return c :: cs
  | .bad kind octets :: _ => .error ⟨kind, octets, position⟩

/-- The text that the octets are, or the first run of octets that is no character. -/
def decode (octets : List UInt8) : Except Fault (List Char) := collect 0 (pieces octets)

/-- The text that the octets are, with the replacement character for each run that is none. -/
def decodeLenient (octets : List UInt8) : List Char :=
  (pieces octets).map fun
    | .char c => c
    | .bad _ _ => '\uFFFD'

/-- Two hexadecimal digits of an octet. -/
def hexOctet (b : UInt8) : String :=
  String.ofList [Nat.digitChar (b.toNat / 16), Nat.digitChar (b.toNat % 16)]

def FaultKind.message : FaultKind → String
  | .start => "invalid start byte"
  | .continuation => "invalid continuation byte"
  | .ending => "unexpected end of data"

/-- Where the fault is and what is wrong. One octet is named, of several the positions. -/
def Fault.message (f : Fault) : String :=
  let place :=
    match f.octets with
    | [b] => s!"byte 0x{hexOctet b} in position {f.position}"
    | _ => s!"bytes in position {f.position}-{f.position + f.octets.length - 1}"
  s!"'utf-8' codec can't decode {place}: {f.kind.message}"

/-! ## Halves of pairs -/

/-- A run of halves, for which there are no octets, and how many code points stand before it. -/
structure HalvesFault where
  first : CodePoint
  count : Nat
  position : Nat
deriving DecidableEq, Repr

/-- The first run of halves, if there is any. -/
def firstHalves? (ps : List CodePoint) : Option HalvesFault :=
  match ps.dropWhile (!·.isHalf) with
  | [] => none
  | p :: rest =>
    some ⟨p, 1 + (rest.takeWhile CodePoint.isHalf).length, (ps.takeWhile (!·.isHalf)).length⟩

/-- Where the halves are. A single one is named, of several the positions. -/
def HalvesFault.message (f : HalvesFault) : String :=
  let place :=
    if f.count = 1 then
      s!"character '\\u{String.ofList (Nat.toDigits 16 f.first.toNat)}' in position {f.position}"
    else s!"characters in position {f.position}-{f.position + f.count - 1}"
  s!"'utf-8' codec can't encode {place}: surrogates not allowed"

/-! ## ASCII characters -/

theorem encodeChar_ascii {c : Char} (h : c.toNat < 128) :
    String.utf8EncodeChar c = [UInt8.ofNat c.toNat] := by
  simp only [String.utf8EncodeChar, Char.toNat_val]
  rw [if_pos (by omega)]

theorem lead_ascii {c : Char} (h : c.toNat < 128) : lead (UInt8.ofNat c.toNat) = .char c := by
  have hn : (UInt8.ofNat c.toNat).toNat = c.toNat := by
    rw [UInt8.toNat_ofNat']
    omega
  have hlt : UInt8.ofNat c.toNat < 0x80 := by
    rw [UInt8.lt_iff_toNat_lt, hn]
    exact h
  simp [lead, hlt, hn]

/-! ## Characters only -/

theorem collect_chars (n : Nat) (cs : List Char) : collect n (cs.map .char) = .ok cs := by
  induction cs generalizing n with
  | nil => rfl
  | cons c rest ih =>
    rw [List.map_cons, collect, ih]
    rfl

end Compendium.Text.Utf8
