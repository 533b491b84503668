import Compendium.Files.Document
import Compendium.Text.Contains

/-!
# Settings

How a reader wants the compendium shown: the tab that opens first, whether sources are shown, the
width, and three groups of font fields. Updates are merged over what is stored, and what is stored
over the defaults; a value overwrites, a font group takes the fields it is given, and groups of
other names are dropped. An update is stored as a whole or not at all (`update_eq_ok_iff`).
-/

namespace Compendium

/-- The settings. A value may be any JSON value, because what is stored is taken as it is. -/
structure Settings where
  defaultCategory : Json
  showSource : Json
  appWidthPercent : Json
  body : List (Text × Json)
  heading : List (Text × Json)
  statblock : List (Text × Json)

/-- Why values cannot be merged into settings. -/
inductive SettingsFault where
  | notFields
  | fontsNotFields
deriving DecidableEq, Repr

namespace Settings

def font (family : String) (size : Int) : List (Text × Json) :=
  [("family", .str family), ("size", .int size), ("style", .str "normal")]

/-- The settings of a reader who has made no choice. -/
def defaults : Settings where
  defaultCategory := .str "all"
  showSource := .bool true
  appWidthPercent := .int 100
  body := font "Crimson Text" 18
  heading := font "Cinzel" 20
  statblock := font "Crimson Text" 16

def toJson (s : Settings) : Json :=
  .obj [("default_category", s.defaultCategory), ("show_source", s.showSource),
    ("app_width_percent", s.appWidthPercent),
    ("font_settings",
      .obj [("body", .obj s.body), ("heading", .obj s.heading), ("statblock", .obj s.statblock)])]

def names : List String := ["default_category", "show_source", "app_width_percent", "font_settings"]

/-- The settings with the fields of one font group set; groups of other names are dropped. -/
def mergeGroup (s : Settings) (group : Text × Json) : Settings :=
  match group with
  | (.chars "body", .obj fields) => { s with body := Fields.putAll s.body fields }
  | (.chars "heading", .obj fields) => { s with heading := Fields.putAll s.heading fields }
  | (.chars "statblock", .obj fields) => { s with statblock := Fields.putAll s.statblock fields }
  | _ => s

def mergeFonts (s : Settings) : Option Json → Except SettingsFault Settings
  | none => .ok s
  | some (.obj groups) => .ok (groups.foldl mergeGroup s)
  | some _ => .error .fontsNotFields

/-- The settings with those of the fields that are settings merged into them. -/
def mergeFields (s : Settings) (fields : List (Text × Json)) : Except SettingsFault Settings :=
  mergeFonts
    { s with
      defaultCategory := (Fields.get? fields "default_category").getD s.defaultCategory
      showSource := (Fields.get? fields "show_source").getD s.showSource
      appWidthPercent := (Fields.get? fields "app_width_percent").getD s.appWidthPercent }
    (Fields.get? fields "font_settings")

/-- A list or a text that speaks of a setting. -/
def mentionsSetting : Json → Bool
  | .arr items =>
    items.any fun
      | .str (.chars s) => s ∈ names
      | _ => false
  | .str s => names.any fun n => Text.occursIn n.toList s.shown.toList
  | _ => false

/-- The settings with a value merged into them. A list or a text has no fields, but is let pass
while it speaks of no setting. -/
def merge (s : Settings) (v : Json) : Except SettingsFault Settings :=
  match v with
  | .obj fields => mergeFields s fields
  | .arr _ | .str _ => if mentionsSetting v then .error .notFields else .ok s
  | _ => .error .notFields

/-! ## The store -/

/-- The document in a data directory that holds the settings. -/
def file (directory : Path) : Path := directory.child "config.json"

/-- Why there are no settings, or they cannot be stored. -/
inductive StoreFault where
  | document (f : DocumentFault)
  | settings (f : SettingsFault)
  | file (f : FileFault)
deriving DecidableEq, Repr

def ofOctets (octets : List UInt8) : Except StoreFault Settings :=
  match Document.ofOctets octets with
  | .error f => .error (.document f)
  | .ok v =>
    match defaults.merge v with
    | .error f => .error (.settings f)
    | .ok s => .ok s

def load (t : Tree) (directory : Path) : Except StoreFault Settings :=
  match t.octets? (file directory) with
  | none => .ok defaults
  | some octets => ofOctets octets

/-- The settings with a value merged into them, and the tree in which they are stored. -/
def update (t : Tree) (directory : Path) (fields : Json) : Except StoreFault (Settings × Tree) :=
  match load t directory with
  | .error f => .error f
  | .ok s =>
    match s.merge fields with
    | .error f => .error (.settings f)
    | .ok s' =>
      match t.write (file directory) (Document.toOctets s'.toJson) with
      | .error f => .error (.file f)
      | .ok t' => .ok (s', t')

/-- What an update comes to: the stored settings are merged, and what they come to is written. -/
theorem update_eq_ok_iff {t : Tree} {directory : Path} {fields : Json} {out : Settings × Tree} :
    update t directory fields = .ok out ↔ ∃ stored, load t directory = .ok stored ∧
      stored.merge fields = .ok out.1 ∧
      t.write (file directory) (Document.toOctets out.1.toJson) = .ok out.2 := by
  constructor
  · intro h
    unfold update at h
    split at h
    · exact absurd h (by simp)
    · rename_i stored hload
      split at h
      · exact absurd h (by simp)
      · rename_i merged hmerge
        split at h
        · exact absurd h (by simp)
        · rename_i tree hwrite
          obtain rfl := Except.ok.inj h
          exact ⟨stored, hload, hmerge, hwrite⟩
  · rintro ⟨stored, hload, hmerge, hwrite⟩
    simp only [update, hload, hmerge, hwrite]

/-- An update is stored by writing the settings that it comes to. -/
theorem write_of_update {t : Tree} {directory : Path} {fields : Json} {out : Settings × Tree}
    (h : update t directory fields = .ok out) :
    t.write (file directory) (Document.toOctets out.1.toJson) = .ok out.2 := by
  obtain ⟨stored, -, -, hwrite⟩ := update_eq_ok_iff.1 h
  exact hwrite

end Settings

end Compendium
