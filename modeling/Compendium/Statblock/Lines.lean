import Compendium.Statblock.Basic
import Compendium.Template.Lemmas

/-!
# The lines of a statblock

What the layouts come to, written out. Main statement: every entry has lines, and its layout gives
them (`render_layout`), so a statblock never lacks a text.
-/

namespace Compendium.Statblock

open Template

/-- A text, or the placeholder if it is missing or empty. -/
def orDash (s : Option String) : List Char :=
  match s with
  | some t => (if t.isEmpty then placeholder else t).toList
  | none => placeholder.toList

/-- What a text that is there and not empty leads to. -/
def whenPresent (s : Option String) (out : List Char → List Char) : List Char :=
  match s with
  | some t => if t.isEmpty then [] else out t.toList
  | none => []

def label (s : Option Scalar) : Option String := s.map Scalar.label

def actionLine (a : Action) : List Char :=
  (nameOrDash a.name).toList ++ ". ".toList ++ a.description.toList ++ "\n".toList

def creatureLines (c : Creature) : List Char :=
  (nameOrDash c.name).toList ++
  whenPresent (label c.level) (fun t => " (LV ".toList ++ t ++ ")".toList) ++ "\n".toList ++
  whenPresent c.description (fun t => t ++ "\n".toList) ++
  "AC ".toList ++ orDash (label c.ac) ++
  whenPresent (label c.armorType) (fun t => " (".toList ++ t ++ ")".toList) ++
  ", HP ".toList ++ orDash (label c.hp) ++ ", ATK ".toList ++ orDash (label c.attack) ++
  ", MV ".toList ++ orDash (label c.movement) ++ "\n".toList ++
  whenPresent (some (statsText (c.stats.getD []))) (fun t => t ++ "\n".toList) ++
  "AL ".toList ++ orDash c.alignment ++ "\n".toList ++
  c.actions.flatMap actionLine ++
  whenPresent c.source (fun t => "Source: ".toList ++ t)

def classesText (classes : List String) : List Char :=
  if classes.isEmpty then [] else ", ".toList ++ (", ".intercalate classes).toList

def spellLines (s : Spell) : List Char :=
  (nameOrDash s.name).toList ++ "\nTier ".toList ++ orDash (label s.tier) ++
  classesText (s.classes.getD []) ++
  "\nDC ".toList ++ orDash (label s.dc) ++ " | Duration ".toList ++ orDash (label s.duration) ++
  " | Range ".toList ++ orDash (label s.range) ++ "\n".toList ++
  whenPresent s.description (fun t => t ++ "\n".toList) ++
  whenPresent s.source (fun t => "Source: ".toList ++ t)

def itemLines (i : Item) : List Char :=
  (nameOrDash i.name).toList ++
  whenPresent i.itemType (fun t => " (".toList ++ t ++ ")".toList) ++ "\n".toList ++
  whenPresent i.description (fun t => t ++ "\n".toList) ++
  whenPresent i.bonus (fun t => "Bonus. ".toList ++ t) ++
  whenPresent i.benefit (fun t => "\nBenefit. ".toList ++ t) ++
  whenPresent i.personality (fun t => "\nPersonality. ".toList ++ t) ++
  whenPresent i.curse (fun t => "\nCurse. ".toList ++ t) ++
  whenPresent i.source (fun t => "\n\nSource: ".toList ++ t)

def lines : Entry → List Char
  | .creature c => creatureLines c
  | .spell s => spellLines s
  | .item i => itemLines i

/-! ## Parts of a layout -/

variable {root : Json} {fields : List (Text × Json)} {outer : View} {name : String}
variable {s : Option String}

theorem truthy_ofText (s : Option String) : (Json.ofText? s).truthy = !(s.getD "").isEmpty := by
  cases s <;> simp [Json.ofText?, Json.truthy]

theorem whenPresent_eq (s : Option String) (out : List Char → List Char) :
    whenPresent s out = if (s.getD "").isEmpty then [] else out (s.getD "").toList := by
  cases s <;> simp [whenPresent]

theorem whenPresent_getD (s : Option String) (out : List Char → List Char) :
    whenPresent (some (s.getD "")) out = whenPresent s out := by
  cases s <;> simp [whenPresent]

theorem renderPart_fieldOrDash (h : Fields.get? fields name = some (Json.ofText? s))
    (hn : IsFieldName name) :
    renderPart root (fieldOrDash name) (.scope (.obj fields) outer none) = .ok (orDash s) := by
  have hd : "default" ∈ helpers := by decide
  simp only [fieldOrDash, renderPart, callOrFollow, hd, if_true, evaluateAll_field h hn]
  simp only [evaluateAll, ok_bind, pure_bind, callHelper, Arguments.bind?]
  cases s with
  | none => rfl
  | some t =>
    by_cases ht : t = ""
    · subst ht
      rfl
    · simp [ok_bind, Json.ofText?, defaultTo, View.truthy, Json.truthy, orDash, ht, fill_text]

theorem renderPart_whenPresent {body : Template} {out : List Char → List Char}
    (h : Fields.get? fields name = some (Json.ofText? s)) (hn : IsFieldName name)
    (hb : renderAll root body (.scope (.obj fields) outer none) = .ok (out (s.getD "").toList)) :
    renderPart root (ifPresent name body) (.scope (.obj fields) outer none) =
      .ok (whenPresent s out) := by
  rw [ifPresent, renderPart_if h hn, hb, truthy_ofText, whenPresent_eq]
  split <;> simp_all

/-- A field after a text. -/
theorem renderAll_after (before : String) (h : Fields.get? fields name = some (Json.ofText? s))
    (hn : IsFieldName name) :
    renderAll root [.text before, field name] (.scope (.obj fields) outer none) =
      .ok (before.toList ++ (s.getD "").toList) := by
  rw [← List.append_nil (s.getD "").toList]
  exact renderAll_cons_ok (renderPart_text ..)
    (renderAll_cons_ok (renderPart_field h hn) (renderAll_nil _))

/-- A field before a text. -/
theorem renderAll_before (after : String) (h : Fields.get? fields name = some (Json.ofText? s))
    (hn : IsFieldName name) :
    renderAll root [field name, .text after] (.scope (.obj fields) outer none) =
      .ok ((s.getD "").toList ++ after.toList) := by
  rw [← List.append_nil after.toList]
  exact renderAll_cons_ok (renderPart_field h hn)
    (renderAll_cons_ok (renderPart_text ..) (renderAll_nil _))

/-- A field between two texts. -/
theorem renderAll_between (before after : String)
    (h : Fields.get? fields name = some (Json.ofText? s)) (hn : IsFieldName name) :
    renderAll root [.text before, field name, .text after] (.scope (.obj fields) outer none) =
      .ok (before.toList ++ (s.getD "").toList ++ after.toList) := by
  rw [List.append_assoc]
  exact renderAll_cons_ok (renderPart_text ..) (renderAll_before after h hn)

/-! ## Actions and classes -/

theorem renderAll_action (a : Action) (outer : View) (loop : Option Loop) :
    renderAll root actionLayout (.scope (actionJson a) outer loop) = .ok (actionLine a) := by
  simp only [actionLine, List.append_assoc]
  rw [← List.append_nil "\n".toList]
  refine renderAll_cons_ok (renderPart_field (s := some (nameOrDash a.name)) rfl (by decide)) ?_
  refine renderAll_cons_ok (renderPart_text ..) ?_
  refine renderAll_cons_ok (renderPart_field (s := some a.description) rfl (by decide)) ?_
  exact renderAll_cons_ok (renderPart_text ..) (renderAll_nil _)

theorem renderPart_classes {classes : List String}
    (h : Fields.get? fields name = some (.ofTexts classes)) (hn : IsFieldName name) :
    renderPart root (classList name)
      (.scope (.obj fields) outer none) = .ok (", ".intercalate classes).toList := by
  have hd : "join" ∈ helpers := by decide
  simp only [classList, renderPart, callOrFollow, hd, if_true, evaluateAll_field h hn]
  simp only [evaluateAll, evaluate, ok_bind, pure_bind, callHelper, Arguments.bind?]
  change (joined _ (some (.plain (.str ", "))) >>= fill false) = _
  rw [joined_texts]
  rfl

theorem renderPart_ifClasses {classes : List String}
    (h : Fields.get? fields name = some (.ofTexts classes)) (hn : IsFieldName name) :
    renderPart root (ifPresent name [.text ", ", classList name]) (.scope (.obj fields) outer none) =
      .ok (classesText classes) := by
  rw [ifPresent, renderPart_if h hn, classesText, ← List.append_nil (", ".intercalate classes).toList]
  rw [renderAll_cons_ok (renderPart_text ..)
    (renderAll_cons_ok (renderPart_classes h hn) (renderAll_nil _))]
  cases classes <;> simp [Json.ofTexts, Json.truthy]

/-! ## Layouts -/

theorem render_creatureLayout (c : Creature) :
    render creatureLayout (.obj (context (.creature c))) = .ok (creatureLines c) := by
  unfold render creatureLayout creatureLines
  simp only [List.append_assoc, View.opened]
  rw [← whenPresent_getD c.description, ← whenPresent_getD c.source,
    ← List.append_nil (whenPresent (some (c.source.getD "")) _)]
  refine renderAll_cons_ok (renderPart_field (s := some _) rfl (by decide)) ?_
  refine renderAll_cons_ok (renderPart_whenPresent (s := label c.level) rfl (by decide)
    (renderAll_between _ _ rfl (by decide))) ?_
  refine renderAll_cons_ok (renderPart_text ..) ?_
  refine renderAll_cons_ok (renderPart_whenPresent (s := some _) rfl (by decide)
    (renderAll_before (s := some _) _ rfl (by decide))) ?_
  refine renderAll_cons_ok (renderPart_text ..) ?_
  refine renderAll_cons_ok (renderPart_fieldOrDash rfl (by decide)) ?_
  refine renderAll_cons_ok (renderPart_whenPresent (s := label c.armorType) rfl (by decide)
    (renderAll_between _ _ rfl (by decide))) ?_
  refine renderAll_cons_ok (renderPart_text ..) ?_
  refine renderAll_cons_ok (renderPart_fieldOrDash rfl (by decide)) ?_
  refine renderAll_cons_ok (renderPart_text ..) ?_
  refine renderAll_cons_ok (renderPart_fieldOrDash rfl (by decide)) ?_
  refine renderAll_cons_ok (renderPart_text ..) ?_
  refine renderAll_cons_ok (renderPart_fieldOrDash rfl (by decide)) ?_
  refine renderAll_cons_ok (renderPart_text ..) ?_
  refine renderAll_cons_ok (renderPart_whenPresent (s := some _) rfl (by decide)
    (renderAll_before (s := some _) _ rfl (by decide))) ?_
  refine renderAll_cons_ok (renderPart_text ..) ?_
  refine renderAll_cons_ok (renderPart_fieldOrDash rfl (by decide)) ?_
  refine renderAll_cons_ok (renderPart_text ..) ?_
  refine renderAll_cons_ok (renderPart_each rfl (by decide) fun a => renderAll_action a _) ?_
  exact renderAll_cons_ok (renderPart_whenPresent (s := some _) rfl (by decide)
    (renderAll_after (s := some _) _ rfl (by decide))) (renderAll_nil _)

theorem render_spellLayout (s : Spell) :
    render spellLayout (.obj (context (.spell s))) = .ok (spellLines s) := by
  unfold render spellLayout spellLines
  simp only [List.append_assoc, View.opened]
  rw [← whenPresent_getD s.description, ← whenPresent_getD s.source,
    ← List.append_nil (whenPresent (some (s.source.getD "")) _)]
  refine renderAll_cons_ok (renderPart_field (s := some _) rfl (by decide)) ?_
  refine renderAll_cons_ok (renderPart_text ..) ?_
  refine renderAll_cons_ok (renderPart_fieldOrDash rfl (by decide)) ?_
  refine renderAll_cons_ok (renderPart_ifClasses rfl (by decide)) ?_
  refine renderAll_cons_ok (renderPart_text ..) ?_
  refine renderAll_cons_ok (renderPart_fieldOrDash rfl (by decide)) ?_
  refine renderAll_cons_ok (renderPart_text ..) ?_
  refine renderAll_cons_ok (renderPart_fieldOrDash rfl (by decide)) ?_
  refine renderAll_cons_ok (renderPart_text ..) ?_
  refine renderAll_cons_ok (renderPart_fieldOrDash rfl (by decide)) ?_
  refine renderAll_cons_ok (renderPart_text ..) ?_
  refine renderAll_cons_ok (renderPart_whenPresent (s := some _) rfl (by decide)
    (renderAll_before (s := some _) _ rfl (by decide))) ?_
  exact renderAll_cons_ok (renderPart_whenPresent (s := some _) rfl (by decide)
    (renderAll_after (s := some _) _ rfl (by decide))) (renderAll_nil _)

theorem render_itemLayout (i : Item) :
    render itemLayout (.obj (context (.item i))) = .ok (itemLines i) := by
  unfold render itemLayout itemLines
  simp only [List.append_assoc, View.opened]
  rw [← whenPresent_getD i.description, ← whenPresent_getD i.source,
    ← List.append_nil (whenPresent (some (i.source.getD "")) _)]
  refine renderAll_cons_ok (renderPart_field (s := some _) rfl (by decide)) ?_
  refine renderAll_cons_ok (renderPart_whenPresent (s := i.itemType) rfl (by decide)
    (renderAll_between _ _ rfl (by decide))) ?_
  refine renderAll_cons_ok (renderPart_text ..) ?_
  refine renderAll_cons_ok (renderPart_whenPresent (s := some _) rfl (by decide)
    (renderAll_before (s := some _) _ rfl (by decide))) ?_
  refine renderAll_cons_ok (renderPart_whenPresent (s := i.bonus) rfl (by decide)
    (renderAll_after _ rfl (by decide))) ?_
  refine renderAll_cons_ok (renderPart_whenPresent (s := i.benefit) rfl (by decide)
    (renderAll_after _ rfl (by decide))) ?_
  refine renderAll_cons_ok (renderPart_whenPresent (s := i.personality) rfl (by decide)
    (renderAll_after _ rfl (by decide))) ?_
  refine renderAll_cons_ok (renderPart_whenPresent (s := i.curse) rfl (by decide)
    (renderAll_after _ rfl (by decide))) ?_
  exact renderAll_cons_ok (renderPart_whenPresent (s := some _) rfl (by decide)
    (renderAll_after (s := some _) _ rfl (by decide))) (renderAll_nil _)

/-- The layout of an entry can be rendered, and gives its lines. -/
theorem render_layout (e : Entry) : render (layout e.kind) (.obj (context e)) = .ok (lines e) := by
  cases e with
  | creature c => exact render_creatureLayout c
  | spell s => exact render_spellLayout s
  | item i => exact render_itemLayout i

theorem laidOut_eq_lines (e : Entry) : laidOut e = lines e := by
  rw [laidOut, render_layout]

end Compendium.Statblock
