import Compendium.Entry.Basic
import Compendium.Template.Render
import Compendium.Text.Case

/-!
# Statblocks

The text that an entry is shown as. A template per kind lays it out, a dash stands for what is
missing, and blank lines are collapsed to one.
-/

namespace Compendium.Statblock

open Template (placeholder)

/-! ## What a template is given -/

/-- The abilities that come first, in their order. -/
def abilityOrder : List String := ["str", "dex", "con", "int", "wis", "cha"]

/-- The value of an ability; a number of at least zero has a plus sign. -/
def modifier (s : Scalar) : String := if s.nonnegative then "+" ++ s.label else s.label

/-- The abilities in the order in which they are shown. -/
def orderedStats (stats : List (String × Scalar)) : List (String × Scalar) :=
  abilityOrder.filterMap (fun k => (stats.lookup k).map (k, ·)) ++
    stats.filter fun s => s.1 ∉ abilityOrder

def statsText (stats : List (String × Scalar)) : String :=
  ", ".intercalate ((orderedStats stats).map fun s => Text.upper s.1 ++ " " ++ modifier s.2)

def nameOrDash (name : String) : String := if name.isEmpty then placeholder else name

/-- A scalar as a label, or null. -/
def labelJson (s : Option Scalar) : Json := Json.ofText? (s.map Scalar.label)

def actionJson (a : Action) : Json :=
  .obj [("name", .str (nameOrDash a.name)), ("description", .str a.description)]

/-- What a template sees of every entry. -/
def headingContext (e : Entry) : List (Text × Json) :=
  [("key", .str e.key), ("kind", .str e.kind.label), ("name", .str (nameOrDash e.name)),
   ("description", .str (e.description.getD "")), ("source", .str (e.source.getD ""))]

def creatureContext (c : Creature) : List (Text × Json) :=
  [("level", labelJson c.level), ("alignment", Json.ofText? c.alignment), ("ac", labelJson c.ac),
   ("armor_type", labelJson c.armorType), ("hp", labelJson c.hp), ("attack", labelJson c.attack),
   ("movement", labelJson c.movement), ("stats", .str (statsText (c.stats.getD []))),
   ("actions", .arr (c.actions.map actionJson))]

def spellContext (s : Spell) : List (Text × Json) :=
  [("tier", labelJson s.tier), ("dc", labelJson s.dc), ("duration", labelJson s.duration),
   ("range", labelJson s.range), ("classes", Json.ofTexts (s.classes.getD []))]

def itemContext (i : Item) : List (Text × Json) :=
  [("item_type", Json.ofText? i.itemType), ("bonus", Json.ofText? i.bonus),
   ("benefit", Json.ofText? i.benefit), ("personality", Json.ofText? i.personality),
   ("curse", Json.ofText? i.curse)]

def context (e : Entry) : List (Text × Json) :=
  headingContext e ++
    match e with
    | .creature c => creatureContext c
    | .spell s => spellContext s
    | .item i => itemContext i

/-! ## Layouts -/

def field (name : String) : TemplatePart := .value false [name] []

def fieldOrDash (name : String) : TemplatePart := .value false ["default"] [.path [name]]

/-- Parts that are there if the field is. -/
def ifPresent (name : String) (body : Template) : TemplatePart := .block "if" [.path [name]] body []

/-- A list of texts with commas between. -/
def classList (name : String) : TemplatePart :=
  .value false ["join"] [.path [name], .literal (.str ", ")]

def actionLayout : Template := [field "name", .text ". ", field "description", .text "\n"]

def creatureLayout : Template :=
  [field "name", ifPresent "level" [.text " (LV ", field "level", .text ")"], .text "\n",
   ifPresent "description" [field "description", .text "\n"],
   .text "AC ", fieldOrDash "ac", ifPresent "armor_type" [.text " (", field "armor_type", .text ")"],
   .text ", HP ", fieldOrDash "hp", .text ", ATK ", fieldOrDash "attack",
   .text ", MV ", fieldOrDash "movement", .text "\n",
   ifPresent "stats" [field "stats", .text "\n"],
   .text "AL ", fieldOrDash "alignment", .text "\n",
   .block "each" [.path ["actions"]] actionLayout [],
   ifPresent "source" [.text "Source: ", field "source"]]

def spellLayout : Template :=
  [field "name", .text "\nTier ", fieldOrDash "tier",
   ifPresent "classes" [.text ", ", classList "classes"],
   .text "\nDC ", fieldOrDash "dc", .text " | Duration ", fieldOrDash "duration",
   .text " | Range ", fieldOrDash "range", .text "\n",
   ifPresent "description" [field "description", .text "\n"],
   ifPresent "source" [.text "Source: ", field "source"]]

def itemLayout : Template :=
  [field "name", ifPresent "item_type" [.text " (", field "item_type", .text ")"], .text "\n",
   ifPresent "description" [field "description", .text "\n"],
   ifPresent "bonus" [.text "Bonus. ", field "bonus"],
   ifPresent "benefit" [.text "\nBenefit. ", field "benefit"],
   ifPresent "personality" [.text "\nPersonality. ", field "personality"],
   ifPresent "curse" [.text "\nCurse. ", field "curse"],
   ifPresent "source" [.text "\n\nSource: ", field "source"]]

def layout : Kind → Template
  | .creature => creatureLayout
  | .spell => spellLayout
  | .item => itemLayout

/-! ## Texts of layouts -/

/-- The text that lays out a creature, in pieces; braces stand as their codes. -/
def creatureSource : List String :=
  ["\x7b\x7b\x7bname\x7d\x7d\x7d",
   "\x7b\x7b#if level\x7d\x7d (LV \x7b\x7b\x7blevel\x7d\x7d\x7d)\x7b\x7b/if\x7d\x7d\n",
   "\x7b\x7b#if description\x7d\x7d\x7b\x7b\x7bdescription\x7d\x7d\x7d\n\x7b\x7b/if\x7d\x7d",
   "\n", "AC \x7b\x7b\x7bdefault ac\x7d\x7d\x7d",
   "\x7b\x7b#if armor_type\x7d\x7d (\x7b\x7b\x7barmor_type\x7d\x7d\x7d)\x7b\x7b/if\x7d\x7d, ",
   "HP \x7b\x7b\x7bdefault hp\x7d\x7d\x7d, ATK \x7b\x7b\x7bdefault attack\x7d\x7d\x7d, ",
   "MV \x7b\x7b\x7bdefault movement\x7d\x7d\x7d\n",
   "\x7b\x7b#if stats\x7d\x7d\x7b\x7b\x7bstats\x7d\x7d\x7d\n\x7b\x7b/if\x7d\x7d",
   "AL \x7b\x7b\x7bdefault alignment\x7d\x7d\x7d\n", "\x7b\x7b#each actions\x7d\x7d\n",
   "\x7b\x7b\x7bname\x7d\x7d\x7d. \x7b\x7b\x7bdescription\x7d\x7d\x7d\n", "\x7b\x7b/each\x7d\x7d",
   "\x7b\x7b#if source\x7d\x7d\nSource: \x7b\x7b\x7bsource\x7d\x7d\x7d\x7b\x7b/if\x7d\x7d"]

/-- The text that lays out a spell, in pieces. -/
def spellSource : List String :=
  ["\x7b\x7b\x7bname\x7d\x7d\x7d\n", "Tier \x7b\x7b\x7bdefault tier\x7d\x7d\x7d",
   "\x7b\x7b#if classes\x7d\x7d, \x7b\x7b\x7bjoin classes \", \"\x7d\x7d\x7d\x7b\x7b/if\x7d\x7d\n",
   "DC \x7b\x7b\x7bdefault dc\x7d\x7d\x7d | ",
   "Duration \x7b\x7b\x7bdefault duration\x7d\x7d\x7d | ",
   "Range \x7b\x7b\x7bdefault range\x7d\x7d\x7d\n",
   "\x7b\x7b#if description\x7d\x7d\n\x7b\x7b\x7bdescription\x7d\x7d\x7d\n\x7b\x7b/if\x7d\x7d",
   "\x7b\x7b#if source\x7d\x7d\nSource: \x7b\x7b\x7bsource\x7d\x7d\x7d\x7b\x7b/if\x7d\x7d"]

/-- The text that lays out an item, in pieces. -/
def itemSource : List String :=
  ["\x7b\x7b\x7bname\x7d\x7d\x7d",
   "\x7b\x7b#if item_type\x7d\x7d (\x7b\x7b\x7bitem_type\x7d\x7d\x7d)\x7b\x7b/if\x7d\x7d\n",
   "\x7b\x7b#if description\x7d\x7d\x7b\x7b\x7bdescription\x7d\x7d\x7d\n\x7b\x7b/if\x7d\x7d",
   "\x7b\x7b#if bonus\x7d\x7d\nBonus. \x7b\x7b\x7bbonus\x7d\x7d\x7d\x7b\x7b/if\x7d\x7d",
   "\x7b\x7b#if benefit\x7d\x7d\nBenefit. \x7b\x7b\x7bbenefit\x7d\x7d\x7d\x7b\x7b/if\x7d\x7d",
   "\x7b\x7b#if personality\x7d\x7d\nPersonality. \x7b\x7b\x7bpersonality\x7d\x7d\x7d\x7b\x7b/if\x7d\x7d",
   "\x7b\x7b#if curse\x7d\x7d\nCurse. \x7b\x7b\x7bcurse\x7d\x7d\x7d\x7b\x7b/if\x7d\x7d",
   "\x7b\x7b#if source\x7d\x7d\n\nSource: \x7b\x7b\x7bsource\x7d\x7d\x7d\x7b\x7b/if\x7d\x7d"]

/-- The pieces of the text that lays out a kind. -/
def sourcePieces : Kind → List String
  | .creature => creatureSource
  | .spell => spellSource
  | .item => itemSource

/-- The text that lays out a kind. -/
def source (k : Kind) : String := String.join (sourcePieces k)

/-! ## The text -/

/-- The text with at most two line feeds in a row; `run` of them stand before it. -/
def collapseFrom : Nat → List Char → List Char
  | _, [] => []
  | run, c :: rest =>
    if c = '\n' then
      if run < 2 then c :: collapseFrom (run + 1) rest else collapseFrom run rest
    else c :: collapseFrom 0 rest

/-- The text with at most two line feeds in a row. -/
def collapse (cs : List Char) : List Char := collapseFrom 0 cs

/-- What the layout of an entry comes to, before blank lines are collapsed. -/
def laidOut (e : Entry) : List Char :=
  match Template.render (layout e.kind) (.obj (context e)) with
  | .ok cs => cs
  | .error _ => []

/-- The text that an entry is shown as. -/
def text (e : Entry) : String := String.ofList (Text.trimChars (collapse (laidOut e)))

end Compendium.Statblock
