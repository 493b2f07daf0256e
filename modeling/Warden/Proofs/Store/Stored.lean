import Warden.Proofs.Codec.Principal
import Warden.Proofs.Grants.Decoded
import Warden.Proofs.Store.Mirror

namespace Warden

open Json

structure EntryForm.Returns {α : Type} (form : EntryForm α) (a : α) : Prop where
  text : RoundTrips form.toJson form.ofJson a
  file : ∀ {dir d d'}, Folder.save form dir a d = .ok d' →
    Folder.load form dir (form.nameOf a) d' = .ok (some a)

theorem EntryForm.Reads.returns {α : Type} {form : EntryForm α} {a : α} (h : form.Reads a) :
    form.Returns a where
  text := roundTrips_of_plain h.plain h.decode
  file {dir d d'} hsave := by
    obtain ⟨file, hfile, hput⟩ := Folder.put?_of_save hsave
    rw [Folder.load_eq hfile, Disk.find?_put? hput]
    dsimp only
    rw [Text.chars_bytes, h.decodeChars_indented]
    rfl

theorem User.reads {u : User} (hu : u.grants.Lawful) : User.form.Reads u :=
  ⟨u.plain_toJson, User.ofJson_toJson hu (Medium.admits_text (by decide))⟩

theorem Role.reads {r : Role} (hr : r.grants.Lawful) : Role.form.Reads r :=
  ⟨r.plain_toJson, Role.ofJson_toJson hr (Medium.admits_text (by decide))⟩

/-- Every user and every role comes back as it was stored. -/
theorem principals_return {u : User} {r : Role} (hu : u.grants.Built) (hr : r.grants.Built) :
    User.form.Returns u ∧ Role.form.Returns r :=
  ⟨(User.reads hu.lawful).returns, (Role.reads hr.lawful).returns⟩

/-- Names with quotes, line breaks and a null character, an empty name of a database, and a table
that was granted something and has lost it again. -/
theorem odd_principals_return :
    let sg := (Pattern.parse "root.\"sg\".**").toOption.getD .everything
    let changes : List Grants.Change := [.grant .readData (.path sg) true,
      .grant .select (.object "" none) false, .grant .insert (.object "" (some "t\\\n")) true,
      .grant .delete (.object "дб" (some "\x01")) false, .revoke .delete (.object "дб" (some "\x01"))]
    let g := changes.foldl Grants.after .empty
    let u : User := ⟨"\"ann\"\x00", none, false, NameSet.ofNames ["", "роль"], g⟩
    let r : Role := ⟨"\t", g⟩
    g.allows .insert (.object "" (some "t\\\n")) true = true ∧
      User.form.Returns u ∧ Role.form.Returns r := by
  intro sg changes g u r
  have hg : g.Built := Grants.Built.empty.afterAll changes
  exact ⟨by decide +kernel, principals_return hg hg⟩

end Warden
