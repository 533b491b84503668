import Compendium.Files.Tree
import Compendium.Json.Reader
import Compendium.Json.Writer
import Compendium.Text.Utf8

/-!
# JSON documents

A document is a file of UTF-8 text that holds one JSON value. It is written indented, in ASCII.
-/

namespace Compendium

inductive DocumentFault where
  | encoding (f : Text.Utf8.Fault)
  | malformed (text : List Char) (f : Json.Fault)
deriving DecidableEq, Repr

def DocumentFault.message : DocumentFault → String
  | .encoding f => f.message
  | .malformed text f => f.message text

namespace Document

def ofOctets (octets : List UInt8) : Except DocumentFault Json :=
  match Text.Utf8.decode octets with
  | .error f => .error (.encoding f)
  | .ok cs =>
    let text := Text.unifyNewlines cs
    match Json.read text with
    | .error f => .error (.malformed text f)
    | .ok v => .ok v

def toOctets (v : Json) : List UInt8 := Text.Utf8.encode v.indented

end Document

end Compendium
