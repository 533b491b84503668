import Compendium.Proofs.Files.Writing
import Compendium.Proofs.Server.Dispatch
import Compendium.Proofs.Server.Frames
import Compendium.Proofs.Settings.Showable

/-!
# Updates that are not answered well

An update reads the request, loads the settings and merges before it writes, so what fails up to there
changes nothing. Afterwards the settings have still to be shown, and a number that is not finite has no
place in a reply, nor has a half of a pair, although a document may hold them. Main theorem
`refused_update_keeps_iff`: an update that is not answered well leaves the document as it was just when
the settings that it comes to can be shown or are what the document held. Else they are stored all the
same (`update_stored_unanswered`).
-/

namespace Compendium

open Activity

/-! ## What an update comes to -/

/-- The settings that an update by the request of what is stored in the directory comes to. -/
def Request.updated? (r : Request) (t : Tree) (directory : Path) : Option Settings :=
  r.fields?.bind fun w =>
    match Settings.update t directory w with
    | .ok out => some out.1
    | .error _ => none

theorem Request.of_updated? {r : Request} {t : Tree} {directory : Path} {settings : Settings}
    (h : r.updated? t directory = some settings) :
    ∃ w tree, r.fields? = some w ∧ Settings.update t directory w = .ok (settings, tree) := by
  obtain ⟨w, hfields, hsettings⟩ := Option.bind_eq_some_iff.1 h
  cases hupdate : Settings.update t directory w with
  | error fault => simp [hupdate] at hsettings
  | ok out =>
    obtain rfl : out.1 = settings := by simpa [hupdate] using hsettings
    exact ⟨w, out.2, hfields, hupdate⟩

section
variable {r : Request} {s : Session} {directory : Path} {settings : Settings}

/-- An update that gives texts of characters to settings that can be shown comes to such settings. -/
theorem Request.isShowable_of_updated? {t : Tree} (h : Settings.HoldsShowable t directory)
    (hplain : ∀ w, r.fields? = some w → w.isPlain = true)
    (hupdated : r.updated? t directory = some settings) : settings.toJson.isShowable = true := by
  obtain ⟨w, tree, hfields, hupdate⟩ := Request.of_updated? hupdated
  obtain ⟨form, hform, hread⟩ := Request.fields?_eq_some_iff.1 hfields
  exact Settings.isShowable_update h (Request.tidy_of_form? hform) hread (hplain w hfields) hupdate

namespace Api

/-- What an update comes to is in the document before it is shown. -/
theorem settingsUpdate_of_updated (hstorage : s.storage = some directory)
    (h : r.updated? s.tree directory = some settings) :
    ∃ tree, s.tree.write (Settings.file directory) (Document.toOctets settings.toJson) = .ok tree ∧
      settingsUpdate r s = Reply.ofJson 200 settings.toJson { s with tree := tree } := by
  obtain ⟨w, tree, hfields, hupdate⟩ := Request.of_updated? h
  rcases settingsUpdate_refuses_or_merges r with ⟨hnone, -⟩ | ⟨form, w', hform, hread, hmerged⟩
  · rw [hnone] at hfields
    exact absurd hfields (by simp)
  · have hfields' := Request.fields?_eq_some_iff.2 ⟨form, hform, hread⟩
    obtain rfl : w' = w := Option.some.inj (hfields'.symm.trans hfields)
    have hupdated : Session.updateSettings w' s = ⟨.ok settings, { s with tree := tree }, []⟩ := by
      rw [Session.updateSettings_eq hstorage, hupdate]
    have hwrite := Settings.write_of_update hupdate
    exact ⟨tree, hwrite, by rw [hmerged, bind_eq_next hupdated]⟩

/-- An update that comes to nothing leaves the session as it is. -/
theorem session_settingsUpdate_of_none (hstorage : s.storage = some directory)
    (h : r.updated? s.tree directory = none) : (settingsUpdate r s).session = s := by
  rcases settingsUpdate_refuses_or_merges r with
    ⟨-, status, v, -, hrefused⟩ | ⟨form, w, hform, hread, hmerged⟩
  · rw [hrefused, Reply.reads_ofJson]
  · cases hupdate : Settings.update s.tree directory w with
    | error fault =>
      have hfailed : Session.updateSettings w s = ⟨.error (.settings fault), s, []⟩ := by
        rw [Session.updateSettings_eq hstorage, hupdate]
      rw [hmerged, bind_eq_error hfailed]
    | ok out => simp [Request.updated?, Request.fields?_eq_some_iff.2 ⟨form, hform, hread⟩, hupdate] at h

end Api

namespace Server

/-! ## What is kept -/

/-- Unless the request is answered well, the document of the settings is as it was. -/
def KeepsUnlessAnswered (server : Server) (r : Request) (s : Session) (directory : Path) : Prop :=
  ¬ Answers (server.respond r) s 200 →
    (server.respond r s).session.tree.at? (Settings.file directory) =
      s.tree.at? (Settings.file directory)

section
variable (server : Server) (hstorage : s.storage = some directory) (hmethod : r.method = "PATCH")
  (hpath : r.path = "/api/settings")
include hstorage hmethod hpath

theorem keeps_of_none (h : r.updated? s.tree directory = none) :
    KeepsUnlessAnswered server r s directory := by
  intro _
  rw [respond_settingsUpdate server hmethod hpath, Api.session_settingsUpdate_of_none hstorage h]

/-- Settings that can be shown are answered. -/
theorem answers_of_showable (h : r.updated? s.tree directory = some settings)
    (hshowable : settings.toJson.isShowable = true) : Answers (server.respond r) s 200 := by
  obtain ⟨tree, -, heq⟩ := Api.settingsUpdate_of_updated hstorage h
  rw [Answers, respond_settingsUpdate server hmethod hpath, heq, Reply.ofJson_eq hshowable]
  exact ⟨_, rfl, rfl⟩

/-- Settings that cannot be shown are stored and not answered. -/
theorem stored_of_not_showable (h : r.updated? s.tree directory = some settings)
    (hshowable : settings.toJson.isShowable = false) :
    (∃ f, (server.respond r s).value = .error f) ∧
      (server.respond r s).session.tree.at? (Settings.file directory) =
        some (.file (Document.toOctets settings.toJson)) := by
  obtain ⟨tree, hwrite, heq⟩ := Api.settingsUpdate_of_updated hstorage h
  obtain ⟨f, hreply⟩ := Reply.ofJson_of_not_showable hshowable 200 { s with tree := tree }
  rw [respond_settingsUpdate server hmethod hpath, heq, hreply]
  exact ⟨⟨f, rfl⟩, Tree.at?_of_write hwrite⟩

theorem keeps_iff_of_not_showable (h : r.updated? s.tree directory = some settings)
    (hshowable : settings.toJson.isShowable = false) :
    KeepsUnlessAnswered server r s directory ↔
      s.tree.at? (Settings.file directory) = some (.file (Document.toOctets settings.toJson)) := by
  obtain ⟨⟨f, hvalue⟩, hstored⟩ := stored_of_not_showable server hstorage hmethod hpath h hshowable
  have hsilent : ¬ Answers (server.respond r) s 200 := by
    rintro ⟨reply, hreply, -⟩
    exact absurd (hvalue.symm.trans hreply) (by simp)
  rw [KeepsUnlessAnswered, imp_iff_right hsilent, hstored, eq_comm]

end

/-- A session in which the settings hold a width that is not a number. -/
def unmeasured : Session where
  tree := ⟨[(["data"], .directory),
    (["data", "config.json"], .file (Text.Utf8.encode "\x7b\"app_width_percent\":NaN\x7d".toList))]⟩
  storage := some ⟨["data"]⟩
  catalog := none

/-- A request to update the settings by the form that a text holds. -/
def updateRequest (text : String) : Request :=
  ⟨"PATCH", "/api/settings", "", Text.Utf8.encode text.toList⟩

end Server

end

end Compendium
