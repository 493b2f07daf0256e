import Mathlib.Data.List.Sort
import Warden.Proofs.Json.RoundTrip
import Warden.Proofs.Store.Disk

namespace Warden

namespace Disk

theorem find?_append (path rest : List String) (d : Disk) :
    d.find? (path ++ rest) = (d.find? path).bind (find? rest) := by
  induction path generalizing d with
  | nil => rfl
  | cons name path ih =>
    rw [List.cons_append, find?_cons, find?_cons]
    cases Entries.find? name d.entries with
    | none => rfl
    | some e => exact ih e

theorem find?_one (name : String) (d : Disk) : d.find? [name] = Entries.find? name d.entries := by
  rw [find?_cons]
  cases Entries.find? name d.entries <;> rfl

theorem find?_file (dir : List String) (file : String) {d : Disk} {entries : List (String × Disk)}
    (h : d.find? dir = some (folder entries)) :
    d.find? (dir ++ [file]) = Entries.find? file entries := by
  rw [find?_append, h, Option.bind_some, find?_one, Disk.entries]

/-- A change inside one folder leaves the folders beside it alone. -/
theorem AgreeOff.beside {name other file : String} {d d' : Disk}
    (h : AgreeOff ([name] ++ [file]) d d') (hne : other ≠ name) :
    d'.find? [other] = d.find? [other] := by
  refine h [other] ?_ ?_
  · simp
  · simp [hne]

/-- A change of one folder reaches a folder that is there, whatever stands on the way to it. -/
theorem edit_folder (edit : List String → Disk → Option Disk) {file : String}
    {f : List (String × Disk) → List (String × Disk)}
    (hhere : ∀ entries, edit [file] (folder entries) = some (folder (f entries)))
    (hbelow : ∀ name next path siblings, edit (name :: next :: path) (folder siblings) =
      (Entries.find? name siblings).bind fun e =>
        (edit (next :: path) e).map fun e' => folder (Entries.insert name e' siblings))
    (dir : List String) {d : Disk} {entries : List (String × Disk)}
    (h : d.find? dir = some (folder entries)) :
    ∃ d', edit (dir ++ [file]) d = some d' ∧ d'.find? dir = some (folder (f entries)) := by
  induction dir generalizing d with
  | nil =>
    obtain rfl : d = folder entries := Option.some.inj h
    exact ⟨_, hhere entries, rfl⟩
  | cons name dir ih =>
    cases d with
    | file content => cases h
    | folder siblings =>
      obtain ⟨e, he, hrest⟩ := Option.bind_eq_some_iff.1 h
      change Entries.find? name siblings = some e at he
      obtain ⟨e', hedit, hfind⟩ := ih hrest
      obtain ⟨next, path, hpath⟩ : ∃ next path, dir ++ [file] = next :: path :=
        List.exists_cons_of_ne_nil (by simp)
      refine ⟨folder (Entries.insert name e' siblings), ?_, ?_⟩
      · rw [hpath] at hedit
        rw [List.cons_append, hpath, hbelow, he, Option.bind_some, hedit, Option.map_some]
      · rw [find?_cons, Disk.entries, Entries.find?_insert, if_pos rfl, Option.bind_some, hfind]

theorem put?_folder (dir : List String) (file : String) {d : Disk}
    {entries : List (String × Disk)} (h : d.find? dir = some (folder entries)) (new : Disk) :
    ∃ d', d.put? (dir ++ [file]) new = some d' ∧
      d'.find? dir = some (folder (Entries.insert file new entries)) := by
  refine edit_folder (put? · · new) (fun _ => rfl) (fun name next path siblings => ?_) dir h
  cases he : Entries.find? name siblings with
  | none => simp [put?, he]
  | some e => cases hput : put? (next :: path) e new <;> simp [put?, he, hput]

theorem remove?_folder (dir : List String) (file : String) {d : Disk}
    {entries : List (String × Disk)} (h : d.find? dir = some (folder entries)) :
    ∃ d', d.remove? (dir ++ [file]) = some d' ∧
      d'.find? dir = some (folder (Entries.erase file entries)) := by
  refine edit_folder remove? (fun _ => rfl) (fun name next path siblings => ?_) dir h
  cases he : Entries.find? name siblings with
  | none => simp [remove?, he]
  | some e => cases hremove : remove? (next :: path) e <;> simp [remove?, he, hremove]

end Disk

structure EntryForm.Reads {α : Type} (form : EntryForm α) (a : α) : Prop where
  plain : (form.toJson a).plain = true
  decode : form.ofJson .document (form.toJson a) = .ok a

theorem EntryForm.Reads.decodeChars_indented {α : Type} {form : EntryForm α} {a : α}
    (h : form.Reads a) :
    Json.decodeChars form.ofJson ((form.toJson a).text Json.indented).toList = .ok a :=
  (Json.roundTrips_of_plain h.plain h.decode).indented

namespace Folder

open Disk

variable {α : Type} {form : EntryForm α} {dir : List String} {m : KeyMap α} {d d' : Disk}
  {name file : String}

def Fits (name : String) : Prop := nameFlaw? name = none

instance (name : String) : Decidable (Fits name) := decidable_of_iff (nameFlaw? name = none) .rfl

def written (form : EntryForm α) (a : α) : Disk :=
  .file (Text.bytes ((form.toJson a).text Json.indented))

theorem fileName_eq (h : Fits name) : fileName name = .ok (entryFile name) := by
  rw [fileName, h]
  rfl

theorem entryName?_entryFile (h : Fits name) : entryName? (entryFile name) = some name := by
  have hname : name ≠ "" := by
    rintro rfl
    cases h
  have hdot : name.toList.head? ≠ some '.' := by
    intro hdot
    rw [Fits, nameFlaw?, if_neg hname, if_pos hdot] at h
    cases h
  have hnil : name.toList ≠ [] := fun hnil => hname (String.toList_eq_nil_iff.1 hnil)
  rw [entryName?, entryFile, String.toList_ofList, List.length_append, Nat.add_sub_cancel,
    List.take_left, String.ofList_toList]
  exact if_pos ⟨rfl, hnil, hdot⟩

/-- The folder has a file for each entry of the map, and no others. -/
structure Mirrors (form : EntryForm α) (dir : List String) (m : KeyMap α) (d : Disk) : Prop where
  folder : ∃ entries, d.find? dir = some (.folder entries) ∧
    ∀ file, Entries.find? file entries = ((entryName? file).bind m.get?).map (written form)
  fits : ∀ {name a}, m.get? name = some a → Fits name

theorem Mirrors.of_same (h : Mirrors form dir m d) (hsame : d'.find? dir = d.find? dir) :
    Mirrors form dir m d' where
  folder := by
    rw [hsame]
    exact h.folder
  fits := h.fits

theorem mirrors_empty (h : d.find? dir = some (.folder [])) : Mirrors form dir .empty d where
  folder := ⟨[], h, fun file => by cases entryName? file <;> rfl⟩
  fits h := by cases h

theorem Mirrors.find? (h : Mirrors form dir m d) (hname : Fits name) :
    d.find? (dir ++ [entryFile name]) = (m.get? name).map (written form) := by
  obtain ⟨entries, hfolder, hentries⟩ := h.folder
  rw [find?_file dir _ hfolder, hentries, entryName?_entryFile hname, Option.bind_some]

theorem Mirrors.load (h : Mirrors form dir m d) (hname : Fits name)
    (hreads : ∀ a, m.get? name = some a → form.Reads a) :
    Folder.load form dir name d = .ok (m.get? name) := by
  rw [load_eq (fileName_eq hname), h.find? hname]
  cases ha : m.get? name with
  | none => rfl
  | some a =>
    rw [Option.map_some, written]
    dsimp only
    rw [Text.chars_bytes, (hreads a ha).decodeChars_indented]
    rfl

/-- One entry is changed on both sides. -/
theorem Mirrors.update (h : Mirrors form dir m d) (hname : Fits name) {m' : KeyMap α}
    {entries entries' : List (String × Disk)} {a : Option α}
    (hfolder : d.find? dir = some (.folder entries))
    (hfolder' : d'.find? dir = some (.folder entries'))
    (hentries : ∀ file, Entries.find? file entries' =
      if file = entryFile name then a.map (written form) else Entries.find? file entries)
    (hm : ∀ other, m'.get? other = if other = name then a else m.get? other) :
    Mirrors form dir m' d' := by
  obtain ⟨siblings, hsiblings, hfiles⟩ := h.folder
  obtain rfl : siblings = entries := Disk.folder.inj (Option.some.inj (hsiblings.symm.trans hfolder))
  refine ⟨⟨entries', hfolder', fun file => ?_⟩, fun {other b} hb => ?_⟩
  · rw [hentries]
    by_cases hfile : file = entryFile name
    · rw [if_pos hfile, hfile, entryName?_entryFile hname, Option.bind_some, hm, if_pos rfl]
    · rw [if_neg hfile, hfiles]
      cases hentry : entryName? file with
      | none => rfl
      | some other =>
        -- The file has another name than the one of the change, and so has its entry.
        have hother : other ≠ name := by
          rintro rfl
          exact hfile (of_entryName? hentry)
        rw [Option.bind_some, Option.bind_some, hm, if_neg hother]
  · rw [hm] at hb
    split at hb
    · rename_i heq
      rw [heq]
      exact hname
    · exact h.fits hb

theorem Mirrors.save (h : Mirrors form dir m d) {a : α} (hname : Fits (form.nameOf a)) :
    ∃ d', Folder.save form dir a d = .ok d' ∧
      Mirrors form dir (m.insert (form.nameOf a) a) d' ∧
      AgreeOff (dir ++ [entryFile (form.nameOf a)]) d d' := by
  obtain ⟨entries, hfolder, -⟩ := h.folder
  obtain ⟨d', hput, hfolder'⟩ :=
    put?_folder dir (entryFile (form.nameOf a)) hfolder (written form a)
  have hwrite : d.write? (dir ++ [entryFile (form.nameOf a)])
      (Text.bytes ((form.toJson a).text Json.indented)) = some d' := by
    rw [write?, h.find? hname]
    cases m.get? (form.nameOf a) <;> exact hput
  refine ⟨d', ?_, ?_, agreeOff_put? hput⟩
  · rw [save_eq (fileName_eq hname), hwrite]
    rfl
  · exact h.update (a := some a) hname hfolder hfolder' (fun file => Entries.find?_insert _ _ _ file)
      fun other => KeyMap.get?_insert _ _ _ other

theorem Mirrors.delete (h : Mirrors form dir m d) (hname : Fits name) :
    ∃ d', Folder.delete dir name d = .ok (m.contains name, d') ∧
      Mirrors form dir (m.erase name) d' ∧ AgreeOff (dir ++ [entryFile name]) d d' := by
  obtain ⟨entries, hfolder, -⟩ := h.folder
  rw [delete_eq (fileName_eq hname), h.find? hname]
  cases ha : m.get? name with
  | none =>
    refine ⟨d, ?_, ?_, fun _ _ _ => rfl⟩
    · rw [KeyMap.contains_of_none ha]
      rfl
    · rw [KeyMap.erase_eq_self ha]
      exact h
  | some a =>
    obtain ⟨d', hremove, hfolder'⟩ := remove?_folder dir (entryFile name) hfolder
    have hunlink : d.unlink? (dir ++ [entryFile name]) = some d' := by
      rw [unlink?, h.find? hname, ha]
      exact hremove
    refine ⟨d', ?_, ?_, agreeOff_remove? hremove⟩
    · rw [KeyMap.contains_of_get? ha, hunlink]
      rfl
    · exact h.update (a := none) hname hfolder hfolder' (fun file => Entries.find?_erase _ _ file)
        fun other => KeyMap.get?_erase _ _ other

/-- The files of a folder have the names of the map. -/
theorem Mirrors.names (h : Mirrors form dir m d) : Folder.names dir d = .ok m.keys := by
  obtain ⟨entries, hfolder, hentries⟩ := h.folder
  have hmem (name : String) :
      (∃ file ∈ entries.map (·.1), entryName? file = some name) ↔ name ∈ m.keys := by
    rw [KeyMap.mem_keys_iff]
    constructor
    · rintro ⟨file, hfile, hentry⟩
      rw [Entries.mem_keys_iff, hentries, hentry] at hfile
      simpa using hfile
    · intro hname
      obtain ⟨a, ha⟩ := Option.isSome_iff_exists.1 hname
      have hfits := h.fits ha
      refine ⟨_, ?_, entryName?_entryFile hfits⟩
      rw [Entries.mem_keys_iff, hentries, entryName?_entryFile hfits, Option.bind_some, ha]
      rfl
  obtain ⟨listed, hnames, hascending, hlisted⟩ := names_of_folder hfolder
  -- Both lists are ascending, so the same names stand in both of them at the same places.
  have hkeys : listed = m.keys := List.Pairwise.eq_of_mem_iff hascending m.keys_ascending
    fun name => (hlisted name).trans (hmem name)
  rw [hnames, hkeys]

end Folder

end Warden
