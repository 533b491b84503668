import Compendium.Statblock.Lines

/-!
# Reading the layouts

The text that lays out a kind is read as a template whose texts are cut at blanks and ends of line. A
template renders alike if neighbouring texts are joined (`renderAll_fused`), and with its texts joined
each of the three is the layout of its kind. The places that were looked at need not be followed
through a text: whoever has read it to its end has looked there (`ofString_of_parts`). Main theorem
`renderText_source`.
-/

namespace Compendium

namespace Rule

/-- A rule that was not tried as often as it may be was last tried where it does not match. -/
theorem missing_of_upTo {α : Type} {r : Rule α} {fuel place place' furthest furthest' : Nat}
    {cs rest : List Char} {as : List α}
    (h : upTo r fuel place cs furthest = (.found as place' rest, furthest'))
    (hfuel : as.length < fuel) : ∃ before, r place' rest before = (.missing, furthest') := by
  induction fuel generalizing place cs furthest as with
  | zero => exact absurd hfuel (Nat.not_lt_zero _)
  | succ fuel ih =>
    simp only [upTo] at h
    split at h
    · split at h
      · next hmore =>
        cases h
        exact ih hmore (Nat.lt_of_succ_lt_succ hfuel)
      · next hnone => exact absurd h (hnone _ _ _ _)
    · next hmissing =>
      cases h
      exact ⟨_, hmissing⟩
    · cases h

end Rule

namespace Template

/-! ## Joining texts -/

/-- A part in front of a template; a text is joined to the text that the template begins with. -/
def withFront : TemplatePart → Template → Template
  | .text s, .text t :: rest => .text (s ++ t) :: rest
  | p, rest => p :: rest

mutual

/-- The part with neighbouring texts joined in its branches. -/
def fusedPart : TemplatePart → TemplatePart
  | .block name args body alternative => .block name args (fused body) (fused alternative)
  | p => p

def fused : List TemplatePart → Template
  | [] => []
  | p :: rest => withFront (fusedPart p) (fused rest)

end

variable (root : Json)

theorem renderAll_withFront (p : TemplatePart) (rest : Template) (view : View) :
    renderAll root (withFront p rest) view = renderAll root (p :: rest) view := by
  unfold withFront
  split
  · simp only [renderAll, renderPart_text, ok_bind, bind_assoc, pure_bind, String.toList_append,
      List.append_assoc]
  · rfl

mutual

theorem renderPart_fusedPart : ∀ (p : TemplatePart) (view : View),
    renderPart root (fusedPart p) view = renderPart root p view
  | .block name args body alternative, view => by
    simp only [fusedPart, renderPart, renderAll_fused body, renderAll_fused alternative]
  | .text _, _ | .value _ _ _, _ | .verbatim _ _ _, _ | .other _ _, _ => rfl

/-- A template renders alike with neighbouring texts joined. -/
theorem renderAll_fused : ∀ (t : List TemplatePart) (view : View),
    renderAll root (fused t) view = renderAll root t view
  | [], _ => rfl
  | p :: rest, view => by
    rw [fused, renderAll_withFront, renderAll, renderAll, renderPart_fusedPart p view,
      renderAll_fused rest view]

end

/-! ## Comparing templates -/

/-- Arguments that are the same path or the same text. -/
def sameArgument : TemplateExpr → TemplateExpr → Bool
  | .path p, .path q => p = q
  | .literal (.str s), .literal (.str t) => s = t
  | _, _ => false

mutual

/-- Parts that are the same, if they are made of texts, values and blocks with such arguments. -/
def samePart : TemplatePart → TemplatePart → Bool
  | .text s, .text t => s = t
  | .value escaped p args, .value escaped' q args' =>
    escaped = escaped' && p = q && args.isEqv args' sameArgument
  | .block name args body alternative, .block name' args' body' alternative' =>
    name = name' && args.isEqv args' sameArgument && same body body' &&
      same alternative alternative'
  | _, _ => false

/-- Templates of the same such parts. -/
def same : List TemplatePart → List TemplatePart → Bool
  | [], [] => true
  | p :: rest, q :: rest' => samePart p q && same rest rest'
  | _, _ => false

end

theorem eq_of_sameArgument {a b : TemplateExpr} (h : sameArgument a b = true) : a = b := by
  unfold sameArgument at h
  split at h <;> simp_all

theorem eq_of_sameArguments {args args' : List TemplateExpr}
    (h : args.isEqv args' sameArgument = true) : args = args' := by
  induction args generalizing args' with
  | nil => cases args' <;> simp_all [List.isEqv]
  | cons a rest ih =>
    cases args' with
    | nil => simp [List.isEqv] at h
    | cons b rest' =>
      simp only [List.isEqv, Bool.and_eq_true] at h
      rw [eq_of_sameArgument h.1, ih h.2]

mutual

theorem eq_of_samePart : ∀ {p q : TemplatePart}, samePart p q = true → p = q
  | .text _, .text _, h => by simpa [samePart] using h
  | .value _ _ _, .value _ _ _, h => by
    simp only [samePart, Bool.and_eq_true, decide_eq_true_eq] at h
    rw [h.1.1, h.1.2, eq_of_sameArguments h.2]
  | .block _ _ _ _, .block _ _ _ _, h => by
    simp only [samePart, Bool.and_eq_true, decide_eq_true_eq] at h
    rw [h.1.1.1, eq_of_sameArguments h.1.1.2, eq_of_same h.1.2, eq_of_same h.2]

theorem eq_of_same : ∀ {t t' : List TemplatePart}, same t t' = true → t = t'
  | [], [], _ => rfl
  | _ :: _, _ :: _, h => by
    simp only [same, Bool.and_eq_true] at h
    rw [eq_of_samePart h.1, eq_of_same h.2]

end

/-! ## Reading to the end -/

theorem le_of_part_missing {r : Rule Template} {fuel place before after : Nat}
    (h : part r fuel place [] before = (.missing, after)) : place ≤ after := by
  obtain rfl := (congrArg Prod.snd h).symm
  exact Nat.le_max_right ..

/-- A text that is read to its end is the template that was read. -/
theorem ofString_of_parts {s : String} {text : List Char} {t : Template}
    (htext : tidy s.toList = text)
    (h : (parts (text.length + 1) 0 text 0).1 = .found t text.length [])
    (hfew : t.length ≤ text.length) : Template.ofString s = settled t := by
  have hparts : parts (text.length + 1) 0 text 0 =
      (.found t text.length [], (parts (text.length + 1) 0 text 0).2) := Prod.ext h rfl
  obtain ⟨before, hmissing⟩ := Rule.missing_of_upTo hparts (Nat.lt_succ_of_le hfew)
  have hend := le_of_part_missing hmissing
  have hrun : (parts (text.length + 1)).run? text =
      some (some t, (parts (text.length + 1) 0 text 0).2) := by
    rw [Rule.run?, hparts]
  unfold Template.ofString
  rw [htext]
  dsimp only
  rw [hrun]
  exact if_neg (Nat.not_lt.2 hend)

/-- The text is read to its end, and its parts are those of a template once neighbouring texts are
joined. -/
def readsAs (text : List Char) (t : Template) : Bool :=
  match (parts (text.length + 1) 0 text 0).1 with
  | .found read place [] => place = text.length && read.length ≤ text.length &&
    match settled read with
    | .ok u => same (fused u) t
    | .error _ => false
  | _ => false

theorem ofString_of_readsAs {s : String} {t : Template} (h : readsAs (tidy s.toList) t = true) :
    ∃ u, Template.ofString s = .ok u ∧ fused u = t := by
  unfold readsAs at h
  split at h
  · next read place hread =>
    simp only [Bool.and_eq_true, decide_eq_true_eq] at h
    obtain ⟨⟨rfl, hfew⟩, hsame⟩ := h
    rw [ofString_of_parts rfl hread hfew]
    split at hsame
    · next u hsettled => exact ⟨u, hsettled, eq_of_same hsame⟩
    · cases hsame
  · cases h

end Template

namespace Statblock

open Template

theorem readsAs_source (k : Kind) : readsAs (tidy (source k).toList) (layout k) = true := by
  rw [source, String.toList_join]
  cases k <;> decide +kernel

/-- **The text that lays out a kind is a template that renders as the layout of the kind,** whatever
values it is given. -/
theorem render_source (k : Kind) :
    ∃ t, Template.ofString (source k) = .ok t ∧ ∀ v, render t v = render (layout k) v := by
  obtain ⟨t, hread, hfused⟩ := ofString_of_readsAs (readsAs_source k)
  refine ⟨t, hread, fun v => ?_⟩
  rw [render, render, ← hfused, renderAll_fused]

/-- What an entry is shown as, before blank lines are collapsed, is the text that lays out its kind
rendered with what a template sees of the entry. -/
theorem renderText_source (e : Entry) :
    renderText (source e.kind) (.obj (context e)) = .ok (String.ofList (laidOut e)) := by
  obtain ⟨t, hread, hsame⟩ := render_source e.kind
  rw [renderText, hread, ok_bind, hsame, render_layout, laidOut_eq_lines]
  rfl

end Statblock

end Compendium
