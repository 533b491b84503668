import Compendium.Template.Render

/-!
# Rendering, part by part

What each part of a template comes to when the value at hand is an object that has the field. A
name must not be one that paths and helpers keep for themselves (`IsFieldName`).
-/

namespace Compendium.Template

/-- The names that paths keep for themselves. -/
def reservedNames : List String :=
  ["", "this", "@root", "@_parent", "@index", "@key", "@first", "@last"]

/-- The name can only be that of a field. -/
def IsFieldName (name : String) : Prop :=
  name ∉ reservedNames ∧ name ∉ helpers ∧ carriesMark name = false

instance (name : String) : Decidable (IsFieldName name) := by unfold IsFieldName; infer_instance

variable {root : Json} {fields : List (Text × Json)} {outer : View} {loop : Option Loop}
variable {name : String}

theorem ok_bind {ε α β : Type} (a : α) (f : α → Except ε β) : (Except.ok a >>= f) = f a := rfl

/-! ## Paths and arguments -/

theorem loopVariable?_of_isFieldName (h : IsFieldName name) (l : Loop) :
    loopVariable? l name = none := by
  have h := h.1
  simp only [reservedNames, List.mem_cons, List.not_mem_nil, or_false, not_or] at h
  simp [loopVariable?, *]

theorem follow_field {v : Json} (h : Fields.get? fields name = some v) (hn : IsFieldName name) :
    follow root (.scope (.obj fields) outer loop) [name] = .ok (.plain v) := by
  have hl : loop.bind (loopVariable? · name) = none := by
    cases loop with
    | none => rfl
    | some l => exact loopVariable?_of_isFieldName hn l
  have hr := hn.1
  simp only [reservedNames, List.mem_cons, List.not_mem_nil, or_false, not_or] at hr
  obtain ⟨h1, h2, h3, h4, -⟩ := hr
  have hs : resolve root (.scope (.obj fields) outer loop) [name] = .ok (.plain v) := by
    rw [resolve]
    · simp [stepFrom, h2, h3, h4, hl, pick, h, resolve]
    · simpa using h1
  unfold follow
  split
  · rename_i heq
    simp only [List.cons.injEq, and_true] at heq
    exact absurd heq h1
  · simpa [moveMarks, hn.2.2] using hs

theorem evaluateAll_field {v : Json} (h : Fields.get? fields name = some v) (hn : IsFieldName name)
    (rest : List TemplateExpr) :
    evaluateAll root (.scope (.obj fields) outer loop) (.path [name] :: rest) = (do
      let args ← evaluateAll root (.scope (.obj fields) outer loop) rest
      return ⟨.plain v :: args.positional, args.named⟩) := by
  simp only [evaluateAll, evaluate, follow_field h hn, ok_bind]

/-! ## Helpers -/

theorem joined_texts (items : List String) (between : String) :
    joined (.plain (.ofTexts items)) (some (.plain (.str between))) =
      .ok (.plain (.str (between.intercalate items))) := by
  have hd : (items.map fun s => Json.str (.chars s)).map Json.display = items := by
    rw [List.map_map]
    exact List.map_id items
  cases items with
  | nil => rfl
  | cons a rest =>
    have ht : (Json.ofTexts (a :: rest)).truthy = true := by simp [Json.ofTexts, Json.truthy]
    rw [Json.ofTexts] at ht ⊢
    simp only [joined, Option.getD_some, View.truthy, ht, View.items, ok_bind, hd, Text.shown]
    rfl

/-! ## Sequences -/

theorem concatenated_cons_ok {r : Rendered} {rest : List Rendered} {a b : List Char}
    (hr : r = .ok a) (hrest : concatenated rest = .ok b) :
    concatenated (r :: rest) = .ok (a ++ b) := by
  subst hr
  unfold concatenated at hrest ⊢
  cases h : rest.mapM id with
  | error f =>
    rw [h] at hrest
    cases hrest
  | ok l =>
    rw [h, ok_bind] at hrest
    cases hrest
    simp only [List.mapM_cons, id, ok_bind, h]
    rfl

theorem renderAll_nil (view : View) : renderAll root [] view = .ok [] := by simp [renderAll]

theorem renderAll_cons_ok {p : TemplatePart} {rest : Template} {view : View} {a b : List Char}
    (hp : renderPart root p view = .ok a) (hr : renderAll root rest view = .ok b) :
    renderAll root (p :: rest) view = .ok (a ++ b) := by
  simp only [renderAll, hp, hr, ok_bind]
  rfl

/-! ## Parts -/

theorem renderPart_text (s : String) (view : View) :
    renderPart root (.text s) view = .ok s.toList := by simp [renderPart]

theorem fill_text (s : String) : fill false (.plain (.str s)) = .ok s.toList := rfl

/-- A field fills in as its text, and as nothing if it is null. -/
theorem renderPart_field {s : Option String} (h : Fields.get? fields name = some (Json.ofText? s))
    (hn : IsFieldName name) :
    renderPart root (.value false [name] []) (.scope (.obj fields) outer loop) =
      .ok (s.getD "").toList := by
  simp only [renderPart, callOrFollow, hn.2.1, if_false, follow_field h hn, evaluateAll, ok_bind]
  cases s with
  | none => by_cases hname : name = "" <;> simp only [Json.ofText?, hname, if_true, if_false] <;> rfl
  | some s => exact fill_text s

/-- A block that asks for a field is its body if the field is present, and nothing otherwise. -/
theorem renderPart_if {v : Json} (h : Fields.get? fields name = some v) (hn : IsFieldName name)
    (body : Template) :
    renderPart root (.block "if" [.path [name]] body []) (.scope (.obj fields) outer loop) =
      if v.truthy then renderAll root body (.scope (.obj fields) outer loop) else .ok [] := by
  have hd : "if" ∈ blockHelpers := by decide
  have hh : "if" ∈ helpers := by decide
  simp only [renderPart, plan, planOfHelper, hd, hh, if_true, evaluateAll_field h hn]
  simp only [evaluateAll, ok_bind, pure_bind, Arguments.bind?]
  by_cases hv : v.truthy = true
  · simp [hv, ok_bind, planOf, called, branchOn, View.truthy, Plan.rendered]
  · simp [hv, ok_bind, planOf, called, branchOn, View.truthy, Plan.rendered, renderAll_nil]

theorem concatenated_loopViews {α : Type} {view : View} {f : View → Rendered} {value : α → Json}
    {g : α → List Char} {items : List α} (index : Nat)
    (h : ∀ a loop, f (.scope (value a) view loop) = .ok (g a)) :
    concatenated ((loopViews view index ((items.map value).map (none, ·))).map
      fun v => lenient (f v)) = .ok (items.flatMap g) := by
  induction items generalizing index with
  | nil => rfl
  | cons a rest ih =>
    exact concatenated_cons_ok (by simp only [h, lenient]) (ih (index + 1))

/-- A block that repeats over a list is its body for each item. -/
theorem renderPart_each {α : Type} {value : α → Json} {items : List α} {body : Template}
    {g : α → List Char} (h : Fields.get? fields name = some (.arr (items.map value)))
    (hn : IsFieldName name)
    (hb : ∀ a inner,
      renderAll root body (.scope (value a) (.scope (.obj fields) outer loop) inner) =
        .ok (g a)) :
    renderPart root (.block "each" [.path [name]] body []) (.scope (.obj fields) outer loop) =
      .ok (items.flatMap g) := by
  have hd : "each" ∈ blockHelpers := by decide
  have hh : "each" ∈ helpers := by decide
  simp only [renderPart, plan, planOfHelper, hd, hh, if_true, evaluateAll_field h hn]
  simp only [evaluateAll, ok_bind, pure_bind, Arguments.bind?]
  cases items with
  | nil => exact @renderAll_nil root (.scope (.obj fields) outer loop)
  | cons a rest => exact @concatenated_loopViews _ _ _ _ _ (a :: rest) 0 hb

end Compendium.Template
