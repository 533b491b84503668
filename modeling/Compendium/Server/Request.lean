import Compendium.Text.Hex
import Compendium.Text.Utf8

/-!
# Requests

A request has a method, a path, the text after the question mark, and a body. That text is a list
of parameters with an ampersand between; a parameter is a name and a value with an equals sign
between, a plus stands for a blank and a percent sign with two digits for an octet. Of several
values of a name the last counts.
-/

namespace Compendium

/-- A request; the path has no escapes left. -/
structure Request where
  method : String
  path : String
  query : String
  body : List UInt8

namespace Request

/-- The octets of a text without characters outside ASCII, escapes resolved. -/
def octetsOf : List Char → List UInt8
  | [] => []
  | '%' :: a :: b :: rest =>
    match Text.hexValue? a, Text.hexValue? b with
    | some h, some l => UInt8.ofNat (h * 16 + l) :: octetsOf rest
    | _, _ => 0x25 :: octetsOf (a :: b :: rest)
  | c :: rest => UInt8.ofNat c.toNat :: octetsOf rest

def isAscii (c : Char) : Bool := c.toNat < 0x80

/-- The text with the escapes between characters outside ASCII resolved; `pending` are the
characters in ASCII that stand before it, last first. -/
def unescapeFrom : List Char → List Char → List Char
  | pending, [] => Text.Utf8.decodeLenient (octetsOf pending.reverse)
  | pending, c :: rest =>
    if isAscii c then unescapeFrom (c :: pending) rest
    else Text.Utf8.decodeLenient (octetsOf pending.reverse) ++ c :: unescapeFrom [] rest

/-- A name or a value as it is meant. -/
def unescape (cs : List Char) : String :=
  String.ofList (unescapeFrom [] (cs.map fun c => if c = '+' then ' ' else c))

/-- A parameter; one without an equals sign has an empty value. -/
def parameterOf (cs : List Char) : String × String :=
  (unescape (cs.takeWhile (· ≠ '=')), unescape ((cs.dropWhile (· ≠ '=')).drop 1))

/-- The parameters of a request in their order. Each octet of the text is a character by itself. -/
def parameters (r : Request) : List (String × String) :=
  let text := (Text.Utf8.encode r.query.toList).map fun o => Char.ofNat o.toNat
  ((text.splitOn '&').filter (!·.isEmpty)).map parameterOf

def parameter? (r : Request) (name : String) : Option String := r.parameters.reverse.lookup name

end Request

end Compendium
