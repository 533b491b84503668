import Compendium.Proofs.Json.Demands
import Compendium.Proofs.Settings.Choices

/-!
# Settings that can be shown

Every value that is read from a form is finite, and merging takes each value from one side or the other:
what meets a demand stays so when a value that meets it is merged into it (`meets_merge`). So settings
whose document can be shown can be shown, and so can what an update by a form comes to that gives texts
of characters. Main theorem `isShowable_update`.
-/

namespace Compendium

/-! ## Forms -/

namespace Form

variable {fields : List (Text × Json)}

theorem isFinite_readFields {wanted : List (String × (Json → Except FieldFault Json))}
    (hwanted : ∀ f ∈ wanted, ∃ t : ValueType, f.2 = t.check) (hfields : (Json.obj fields).Tidy)
    (place : List String) : (Json.obj (readFields place fields wanted).fields).isFinite = true := by
  rw [Json.isFinite_obj_iff, fields_readFields]
  intro f hf
  obtain ⟨g, hg, hf⟩ := List.mem_flatMap.1 hf
  obtain ⟨w, htaken, rfl⟩ := Option.map_eq_some_iff.1 (Option.mem_toList.1 hf)
  obtain ⟨v, hget, hcheck⟩ := of_taken?_eq_some htaken
  obtain ⟨t, ht⟩ := hwanted g hg
  rw [ht] at hcheck
  exact (ValueType.admits_of_check (hfields.get? hget) hcheck).isFinite

theorem isFinite_readGroup {group : Text × Json} (h : group.2.Tidy) (place : List String) :
    (Json.obj (readGroup place group).fields).isFinite = true := by
  obtain ⟨name, v⟩ := group
  cases v with
  | obj fields =>
    rw [Json.isFinite_obj_iff]
    intro f hf
    obtain rfl := List.mem_singleton.1 hf
    refine isFinite_readFields ?_ h _
    simp only [List.forall_mem_cons, List.not_mem_nil, false_imp_iff, implies_true, and_true]
    exact ⟨⟨.text, rfl⟩, ⟨.whole, rfl⟩, ⟨.text, rfl⟩⟩
  | _ => rfl

theorem isFinite_readGroups (h : (Json.obj fields).Tidy) (place : List String) :
    (Json.obj (readGroups place fields).fields).isFinite = true := by
  rw [Settings.fields_readGroups]
  split
  · rename_i groups hget
    have hgroups : ∀ g ∈ groups, g.2.Tidy := by
      cases h.get? hget with
      | obj _ hgroups => exact hgroups
    rw [Json.isFinite_obj_iff]
    intro f hf
    obtain rfl := List.mem_singleton.1 hf
    rw [Json.isFinite_obj_iff]
    intro f hf
    obtain ⟨g, hg, hf⟩ := List.mem_flatMap.1 hf
    exact Json.isFinite_obj_iff.1 (isFinite_readGroup (hgroups g hg) _) f hf
  · rfl

/-- What is read from a form is finite. -/
theorem isFinite_of_read {form w : Json} (hform : form.Tidy) (h : read form = .ok w) :
    w.isFinite = true := by
  obtain ⟨fields, rfl, -, rfl⟩ := read_eq_ok_iff.1 h
  have hwanted : ∀ f ∈ Settings.wantedSettings, ∃ t : ValueType, f.2 = t.check := by
    simp only [Settings.wantedSettings, List.forall_mem_cons, List.not_mem_nil, false_imp_iff,
      implies_true, and_true]
    exact ⟨⟨.category, rfl⟩, ⟨.flag, rfl⟩, ⟨.whole, rfl⟩⟩
  have hbeside := isFinite_readFields hwanted hform ["body"]
  have hgroups := isFinite_readGroups hform ["body"]
  rw [Json.isFinite_obj_iff] at hbeside hgroups ⊢
  intro f hf
  exact (List.mem_append.1 hf).elim (hbeside f) (hgroups f)

end Form

/-! ## Settings -/

namespace Settings

variable {s out : Settings} {v : Json} {d : Json.Demand}

section
variable (hd : ∀ name : String, d.text name = true)
include hd

theorem meets_toJson_iff : s.toJson.meets d = true ↔
    (s.defaultCategory.meets d = true ∧ s.showSource.meets d = true ∧
      s.appWidthPercent.meets d = true) ∧
    (Json.obj s.body).meets d = true ∧ (Json.obj s.heading).meets d = true ∧
      (Json.obj s.statblock).meets d = true := by
  simp [toJson, hd, and_assoc]

theorem meets_mergeGroup (h : s.toJson.meets d = true) {group : Text × Json}
    (hgroup : group.2.meets d = true) : (s.mergeGroup group).toJson.meets d = true := by
  rw [meets_toJson_iff hd] at h ⊢
  obtain ⟨hscalars, hbody, hheading, hstatblock⟩ := h
  unfold mergeGroup
  split
  · exact ⟨hscalars, Json.meets_putAll hbody hgroup, hheading, hstatblock⟩
  · exact ⟨hscalars, hbody, Json.meets_putAll hheading hgroup, hstatblock⟩
  · exact ⟨hscalars, hbody, hheading, Json.meets_putAll hstatblock hgroup⟩
  · exact ⟨hscalars, hbody, hheading, hstatblock⟩

theorem meets_foldl_mergeGroup {groups : List (Text × Json)} (h : s.toJson.meets d = true)
    (hgroups : ∀ group ∈ groups, group.2.meets d = true) :
    (groups.foldl mergeGroup s).toJson.meets d = true := by
  induction groups generalizing s with
  | nil => exact h
  | cons group rest ih =>
    rw [List.forall_mem_cons] at hgroups
    exact ih (meets_mergeGroup hd h hgroups.1) hgroups.2

theorem meets_mergeFonts {groups : Option Json} (h : s.toJson.meets d = true)
    (hgroups : ∀ v, groups = some v → v.meets d = true) (hmerge : s.mergeFonts groups = .ok out) :
    out.toJson.meets d = true := by
  unfold mergeFonts at hmerge
  split at hmerge
  · rwa [← Except.ok.inj hmerge]
  · rw [← Except.ok.inj hmerge]
    exact meets_foldl_mergeGroup hd h fun group hgroup =>
      (Json.meets_obj_iff.1 (hgroups _ rfl) group hgroup).2
  · exact absurd hmerge (by simp)

/-- Merging what meets a demand into settings that meet it gives settings that meet it. -/
theorem meets_merge (h : s.toJson.meets d = true) (hv : v.meets d = true)
    (hmerge : s.merge v = .ok out) : out.toJson.meets d = true := by
  unfold merge at hmerge
  split at hmerge
  · rename_i fields
    refine meets_mergeFonts hd ?_ (fun u hget => Json.meets_of_get? hv hget) hmerge
    rw [meets_toJson_iff hd] at h ⊢
    obtain ⟨⟨hcategory, hsource, hwidth⟩, hfonts⟩ := h
    exact ⟨⟨Json.meets_getD hv hcategory, Json.meets_getD hv hsource,
      Json.meets_getD hv hwidth⟩, hfonts⟩
  · split at hmerge
    · exact absurd hmerge (by simp)
    · rwa [← Except.ok.inj hmerge]
  · split at hmerge
    · exact absurd hmerge (by simp)
    · rwa [← Except.ok.inj hmerge]
  · exact absurd hmerge (by simp)

end

/-! ## The store -/

variable {t : Tree} {directory : Path}

/-- The document of the settings can be shown, if there is one and it can be read. -/
def HoldsShowable (t : Tree) (directory : Path) : Prop :=
  ∀ octets v, t.octets? (file directory) = some octets → Document.ofOctets octets = .ok v →
    v.isShowable = true

theorem isShowable_of_load (h : HoldsShowable t directory) (hload : load t directory = .ok s) :
    s.toJson.isShowable = true := by
  unfold load at hload
  split at hload
  · rw [← Except.ok.inj hload]
    rfl
  · rename_i octets hoctets
    unfold ofOctets at hload
    split at hload
    · exact absurd hload (by simp)
    · rename_i v hread
      split at hload
      · exact absurd hload (by simp)
      · rename_i merged hmerge
        rw [← Except.ok.inj hload]
        exact meets_merge (s := defaults) (fun _ => rfl) rfl (h octets v hoctets hread) hmerge

/-- **An update by a form that gives texts of characters can be shown, if the document can be.** -/
theorem isShowable_update {form w : Json} (h : HoldsShowable t directory) (hform : form.Tidy)
    (hread : Form.read form = .ok w) (hplain : w.isPlain = true) {after : Settings × Tree}
    (hupdate : update t directory w = .ok after) : after.1.toJson.isShowable = true := by
  obtain ⟨stored, hload, hmerge, -⟩ := update_eq_ok_iff.1 hupdate
  have hw : w.isShowable = true := by
    rw [Json.isShowable_eq, Form.isFinite_of_read hform hread, hplain, Bool.and_self]
  exact meets_merge (fun _ => rfl) (isShowable_of_load h hload) hw hmerge

end Settings

end Compendium
