import Compendium.Text.Quoted

/-!
# The launcher's command line

An option may be shortened as long as it stays the only one that begins so. An argument stands in
the next word or after an equals sign, and the last of several counts. Words after a double dash,
and words that do not begin with a dash, are no options; there is no use for them. Asking for help
ends the reading. Main statement: a command line without words has every option at rest
(`read_nil`).
-/

namespace Compendium.Launcher

/-- The options. -/
inductive Flag where
  | help
  | data
  | catalog
  | demo
deriving DecidableEq, Repr

def spellings : List (String × Flag) :=
  [("-h", .help), ("--help", .help), ("--data-dir", .data), ("--catalog-dir", .catalog),
   ("--demo", .demo)]

/-- The option as a message names it. -/
def Flag.title : Flag → String
  | .help => "-h/--help"
  | .data => "--data-dir"
  | .catalog => "--catalog-dir"
  | .demo => "--demo"

structure Options where
  data : Option String
  catalog : Option String
  demo : Bool
deriving DecidableEq, Repr

inductive OptionFault where
  | ambiguous (word : String) (matching : List String)
  | noArgument (flag : Flag)
  | unusedArgument (flag : Flag) (argument : String)
  | unrecognized (words : List String)
deriving DecidableEq, Repr

def OptionFault.message : OptionFault → String
  | .ambiguous word matching =>
    s!"ambiguous option: {word} could match " ++ ", ".intercalate matching
  | .noArgument flag => s!"argument {flag.title}: expected one argument"
  | .unusedArgument flag argument =>
    s!"argument {flag.title}: ignored explicit argument {Text.quoted argument}"
  | .unrecognized words => "unrecognized arguments: " ++ " ".intercalate words

/-- How the reading of a command line ends. -/
inductive Reading where
  | options (o : Options)
  | help
  | fault (f : OptionFault)
deriving DecidableEq, Repr

/-! ## Words -/

/-- A word of the command line. An option may be unknown; its argument stands after an equals sign
or, for a short one, right behind it. -/
inductive Word where
  | plain (text : String)
  | divider
  | option (flag : Flag) (isShort : Bool) (argument : Option (Bool × String))
  | unknown (text : String)
deriving DecidableEq, Repr

/-- The part of a word before its equals sign, and the part after it. -/
def splitWord (word : String) : String × Option String :=
  let cs := word.toList
  (String.ofList (cs.takeWhile (· ≠ '=')),
    match cs.dropWhile (· ≠ '=') with
    | _ :: rest => some (String.ofList rest)
    | [] => none)

/-- The word is a number with a minus sign in front. -/
def isNegativeNumber (cs : List Char) : Bool :=
  match cs with
  | '-' :: rest =>
    let after := rest.dropWhile Char.isDigit
    match after with
    | [] => !rest.isEmpty
    | '.' :: digits => !digits.isEmpty && digits.all Char.isDigit
    | _ => false
  | _ => false

/-- A word that is the beginning of no option. -/
def strayWord (word : String) : Word :=
  if isNegativeNumber word.toList || ' ' ∈ word.toList then .plain word else .unknown word

/-- The options that begin like the word, with the argument in it. -/
def candidates (word : String) : List (String × Word) :=
  match word.toList with
  | '-' :: '-' :: _ =>
    let (front, argument) := splitWord word
    (spellings.filter fun s => front.toList.isPrefixOf s.1.toList).map fun s =>
      (s.1, .option s.2 false (argument.map (true, ·)))
  | '-' :: c :: rest =>
    (spellings.filter fun s => s.1.toList = ['-', c]).map fun s =>
      (s.1, .option s.2 true (some (false, String.ofList rest)))
  | _ => []

def exactly? (word : String) (argument : Option (Bool × String)) : Option Word :=
  (spellings.lookup word).map fun flag => .option flag (word.length = 2) argument

def dashedWord (word : String) : Except OptionFault Word :=
  let (front, argument) := splitWord word
  let whole := (exactly? word none).or (argument.bind fun a => exactly? front (some (true, a)))
  match whole, candidates word with
  | some w, _ => .ok w
  | none, [] => .ok (strayWord word)
  | none, [c] => .ok c.2
  | none, cs => .error (.ambiguous word (cs.map (·.1)))

/-- A word before any double dash. -/
def readWord (word : String) : Except OptionFault Word :=
  match word.toList with
  | '-' :: _ :: _ => dashedWord word
  | _ => .ok (.plain word)

def readWords : List String → Except OptionFault (List Word)
  | [] => .ok []
  | "--" :: rest => .ok (.divider :: rest.map .plain)
  | word :: rest => do
    let w ← readWord word
    let ws ← readWords rest
    return w :: ws

/-! ## Options -/

def Options.set (o : Options) (flag : Flag) (argument : String) : Options :=
  match flag with
  | .data => { o with data := some argument }
  | .catalog => { o with catalog := some argument }
  | .demo => { o with demo := true }
  | .help => o

def Flag.takesArgument : Flag → Bool
  | .data => true
  | .catalog => true
  | _ => false

/-- What follows a short option that asks for help: other short options. -/
def afterHelp : Bool → List Char → Reading
  | _, [] => .help
  | joined, c :: rest =>
    if joined || c = '-' then .fault (.unusedArgument .help (String.ofList (c :: rest)))
    else if c = 'h' then
      match rest with
      | ['='] => .fault (.unusedArgument .help "")
      | '=' :: more => afterHelp true more
      | more => afterHelp false more
    else .help

/-- An option without an argument of its own that is given one. -/
def withArgument (flag : Flag) (isShort joined : Bool) (argument : String) : Reading :=
  if isShort && !argument.isEmpty then afterHelp joined argument.toList
  else .fault (.unusedArgument flag argument)

/-- The options that words set, and the words without use. -/
def readFrom (o : Options) (stray : List String) : List Word → Reading
  | [] => if stray.isEmpty then .options o else .fault (.unrecognized stray)
  | .plain text :: rest => readFrom o (stray ++ [text]) rest
  | .unknown text :: rest => readFrom o (stray ++ [text]) rest
  | .divider :: rest => readFrom o (stray ++ ["--"]) rest
  | .option flag isShort (some (joined, argument)) :: rest =>
    if flag.takesArgument then readFrom (o.set flag argument) stray rest
    else withArgument flag isShort joined argument
  | .option flag _ none :: rest =>
    if flag = .help then .help
    else if flag.takesArgument then
      match rest with
      | .plain text :: rest => readFrom (o.set flag text) stray rest
      | _ => .fault (.noArgument flag)
    else readFrom (o.set flag "") stray rest

def read (args : List String) : Reading :=
  match readWords args with
  | .error f => .fault f
  | .ok words => readFrom ⟨none, none, false⟩ [] words

theorem read_nil : read [] = .options ⟨none, none, false⟩ := rfl

end Compendium.Launcher
