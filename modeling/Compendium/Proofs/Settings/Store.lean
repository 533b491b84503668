import Compendium.Proofs.Files.Writing
import Compendium.Proofs.Settings.Choices

/-!
# The store of settings

What it means that a data directory stores choices (`Stored`): the document holds the settings with
these values, each of its type, or there is none and no choice was made. Settings that are written
are read back from their document, and merged over the defaults they are themselves
(`merge_toJson`), so stored choices are loaded. Main theorem `update_of_stored`: an update of stored
choices succeeds and stores the updated ones.
-/

namespace Compendium.Settings

variable {t t' : Tree} {directory : Path} {value : Choice → Json}

/-! ## Settings as a document -/

theorem readsBack_fontFields {value : FontField → Json} (h : ∀ f, (value f).ReadsBack) :
    (Json.obj (fontFields value)).ReadsBack := by
  have hnames : Fields.names (fontFields value) = ["family", "size", "style"] := rfl
  refine Json.readsBack_obj (by rw [hnames]; decide) ?_
  intro field hfield
  obtain ⟨f, -, rfl⟩ := List.mem_map.1 hfield
  exact h f

theorem readsBack_toJson (h : Choice.Valid value) : (ofValues value).toJson.ReadsBack := by
  have hvalue : ∀ c, (value c).ReadsBack := fun c => (h c).readsBack
  have hgroups : (Json.obj [("body", .obj (ofValues value).body),
      ("heading", .obj (ofValues value).heading),
      ("statblock", .obj (ofValues value).statblock)]).ReadsBack := by
    refine Json.readsBack_obj (by simp [Fields.names]) ?_
    simp only [List.forall_mem_cons, List.not_mem_nil, false_imp_iff, implies_true, and_true]
    exact ⟨readsBack_fontFields fun f => hvalue _, readsBack_fontFields fun f => hvalue _,
      readsBack_fontFields fun f => hvalue _⟩
  refine Json.readsBack_obj (by simp [Fields.names]) ?_
  simp only [List.forall_mem_cons, List.not_mem_nil, false_imp_iff, implies_true, and_true]
  exact ⟨hvalue .category, hvalue .source, hvalue .width, hgroups⟩

theorem isFinite_toJson (h : Choice.Valid value) : (ofValues value).toJson.isFinite = true := by
  have hvalue : ∀ c, (value c).meets ⟨Double.isFinite, fun _ => true⟩ = true := fun c => (h c).isFinite
  simp [toJson, ofValues, fontFields, FontField.all, Json.isFinite, Json.meets, Json.fieldsMeet, hvalue]

/-- Settings that are merged over the defaults are themselves. -/
theorem merge_toJson (value : Choice → Json) :
    defaults.merge (ofValues value).toJson = .ok (ofValues value) := rfl

/-! ## Stored choices -/

/-- The document in the directory holds the settings with these values, or there is none and no
choice was made. -/
structure Stored (t : Tree) (directory : Path) (value : Choice → Json) : Prop where
  valid : Choice.Valid value
  held : (t.at? (file directory) = none ∧ value = Choice.default) ∨
    ∃ octets, t.at? (file directory) = some (.file octets) ∧
      Document.ofOctets octets = .ok (ofValues value).toJson

theorem stored_of_absent (h : t.at? (file directory) = none) : Stored t directory Choice.default :=
  ⟨Choice.valid_default, Or.inl ⟨h, rfl⟩⟩

theorem Stored.not_directory (h : Stored t directory value) :
    t.at? (file directory) ≠ some .directory := by
  rcases h.held with ⟨habsent, -⟩ | ⟨octets, hfile, -⟩
  · simp [habsent]
  · simp [hfile]

theorem load_of_stored (h : Stored t directory value) : load t directory = .ok (ofValues value) := by
  rcases h.held with ⟨habsent, rfl⟩ | ⟨octets, hfile, hread⟩
  · simp only [load, Tree.octets?, habsent, defaults_eq]
  · simp only [load, Tree.octets?, hfile, ofOctets, hread, merge_toJson]

theorem stored_of_write (hvalid : Choice.Valid value)
    (hwrite : t.write (file directory) (Document.toOctets (ofValues value).toJson) = .ok t') :
    Stored t' directory value :=
  ⟨hvalid, Or.inr ⟨_, Tree.at?_of_write hwrite, Document.ofOctets_toOctets (readsBack_toJson hvalid)⟩⟩

/-- Writing another file of the directory does not touch the store. -/
theorem Stored.write_other {name : String} {octets : List UInt8} (h : Stored t directory value)
    (hname : name ≠ "..") (hother : name ≠ "config.json")
    (hdirectory : t.at? directory = some .directory)
    (hwrite : t.write (directory.child name) octets = .ok t') : Stored t' directory value := by
  have hsame : t'.at? (file directory) = t.at? (file directory) :=
    (Tree.at?_write_child hname (by decide) hdirectory hwrite).trans (if_neg (Ne.symm hother))
  exact ⟨h.valid, by rw [hsame]; exact h.held⟩

/-- **An update of stored choices succeeds, and the updated choices are stored then.** -/
theorem update_of_stored (hdirectory : t.at? directory = some .directory)
    (h : Stored t directory value) {form w : Json} (hform : form.Tidy)
    (hread : Form.read form = .ok w) :
    ∃ t', update t directory w = .ok (ofValues (Choice.updated value form), t') ∧
      t'.at? directory = some .directory ∧ Stored t' directory (Choice.updated value form) := by
  obtain ⟨t', hwrite⟩ : ∃ t', t.write (file directory)
      (Document.toOctets (ofValues (Choice.updated value form)).toJson) = .ok t' :=
    Tree.write_child "config.json" (by decide) hdirectory h.not_directory _
  refine ⟨t', ?_, ?_, stored_of_write (Choice.valid_updated h.valid hform) hwrite⟩
  · simp only [update, load_of_stored h, merge_of_read hform hread, hwrite]
  · exact Tree.at?_directory_of_keeps (Tree.keepsDirectories_write hwrite) hdirectory

end Compendium.Settings
