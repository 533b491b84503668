import Compendium.Server.Form
import Compendium.Session.Basic

/-!
# Replies

A reply is a status, a text, and, if the request is sent elsewhere, a location. A JSON reply is
compact, and there is none for a value that holds a number that is not finite, or a half of a pair
that stands alone.
-/

namespace Compendium

structure Reply where
  status : Nat
  body : String
  location : Option String
deriving DecidableEq, Repr

namespace Reply

def ofJson (status : Nat) (v : Json) : Activity Reply :=
  if !v.isFinite then Activity.fail .notFinite
  else
    match Text.Utf8.firstHalves? v.compactPoints with
    | some f => Activity.fail (.unencodable f)
    | none => return ⟨status, v.compact, none⟩

/-- A reply that says in a few words what is wrong. -/
def refusal (status : Nat) (detail : String) : Activity Reply :=
  ofJson status (.obj [("detail", .str detail)])

def complaints (cs : List Json) : Activity Reply := ofJson 422 (.obj [("detail", .arr cs)])

/-- Nothing answers at that path. -/
def notFound : Activity Reply := refusal 404 "Not Found"

def entryNotFound : Activity Reply := refusal 404 "Entry not found"

/-- The method is none of those that are answered at that path. -/
def methodNotAllowed : Activity Reply := refusal 405 "Method Not Allowed"

def ofFile (octets : List UInt8) : Reply :=
  ⟨200, String.ofList (Text.Utf8.decodeLenient octets), none⟩

/-! ## Locations -/

def isPlainInLocation (c : Char) : Bool :=
  c.isAlphanum || c ∈ "_.-~:/%#?=@[]!$&'()*+,;".toList

/-- An octet as an escape. -/
def escapeOctet (o : UInt8) : List Char :=
  '%' :: (Text.hexPadded 2 o.toNat).map Char.toUpper

/-- A character in a location. -/
def locationChar (c : Char) : List Char :=
  if isPlainInLocation c then [c] else (Text.Utf8.encode [c]).flatMap escapeOctet

/-- A reply that sends the request to another path, with the same parameters. -/
def redirect (path query : String) : Reply :=
  let target := "http://test" ++ path ++ (if query.isEmpty then "" else "?" ++ query)
  ⟨307, "", some (String.ofList (target.toList.flatMap locationChar))⟩

end Reply

end Compendium
