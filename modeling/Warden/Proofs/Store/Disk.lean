import Warden.Proofs.Sorting
import Warden.Store.Folder

namespace Warden

namespace Disk

theorem find?_cons (name : String) (path : List String) (d : Disk) :
    d.find? (name :: path) = (Entries.find? name d.entries).bind (find? path) := rfl

def AgreeOff (path : List String) (d d' : Disk) : Prop :=
  ∀ other, ¬path <+: other → ¬other <+: path → d'.find? other = d.find? other

theorem agreeOff_nil (d d' : Disk) : AgreeOff [] d d' :=
  fun _ hbeyond => absurd List.nil_prefix hbeyond

theorem agreeOff_folder {name : String} {path : List String}
    {entries entries' : List (String × Disk)}
    (hothers : ∀ other, other ≠ name → Entries.find? other entries' = Entries.find? other entries)
    (hbelow : path = [] ∨ ∃ e e', Entries.find? name entries = some e ∧
      Entries.find? name entries' = some e' ∧ AgreeOff path e e') :
    AgreeOff (name :: path) (folder entries) (folder entries') := by
  intro other hbeyond hbefore
  cases other with
  | nil => exact absurd List.nil_prefix hbefore
  | cons k rest =>
    rw [find?_cons, find?_cons]
    dsimp only [Disk.entries]
    by_cases hk : k = name
    · subst hk
      rw [List.prefix_cons_inj] at hbeyond hbefore
      rcases hbelow with rfl | ⟨e, e', he, he', hagree⟩
      · exact absurd List.nil_prefix hbeyond
      · rw [he, he']
        exact hagree rest hbeyond hbefore
    · rw [hothers k hk]

theorem put?_below {name next : String} {path : List String} {entries : List (String × Disk)}
    {new d' : Disk} (h : (folder entries).put? (name :: next :: path) new = some d') :
    ∃ e e', Entries.find? name entries = some e ∧ e.put? (next :: path) new = some e' ∧
      folder (Entries.insert name e' entries) = d' := by
  rw [put?] at h
  · obtain ⟨e, he, h⟩ := Option.bind_eq_some_iff.1 h
    obtain ⟨e', he', h⟩ := Option.bind_eq_some_iff.1 h
    exact ⟨e, e', he, he', Option.some.inj h⟩
  · exact List.cons_ne_nil next path

theorem remove?_below {name next : String} {path : List String} {entries : List (String × Disk)}
    {d' : Disk} (h : (folder entries).remove? (name :: next :: path) = some d') :
    ∃ e e', Entries.find? name entries = some e ∧ e.remove? (next :: path) = some e' ∧
      folder (Entries.insert name e' entries) = d' := by
  rw [remove?] at h
  · obtain ⟨e, he, h⟩ := Option.bind_eq_some_iff.1 h
    obtain ⟨e', he', h⟩ := Option.bind_eq_some_iff.1 h
    exact ⟨e, e', he, he', Option.some.inj h⟩
  · exact List.cons_ne_nil next path

theorem agreeOff_insert (name : String) {path : List String} {entries : List (String × Disk)}
    {e' : Disk} (hbelow : path = [] ∨
      ∃ e, Entries.find? name entries = some e ∧ AgreeOff path e e') :
    AgreeOff (name :: path) (folder entries) (folder (Entries.insert name e' entries)) := by
  refine agreeOff_folder (fun other hother => ?_) (hbelow.imp_right ?_)
  · rw [Entries.find?_insert, if_neg hother]
  · rintro ⟨e, he, hagree⟩
    refine ⟨e, e', he, ?_, hagree⟩
    rw [Entries.find?_insert, if_pos rfl]

theorem agreeOff_put? {path : List String} {d d' new : Disk} (h : d.put? path new = some d') :
    AgreeOff path d d' := by
  induction path generalizing d d' with
  | nil => exact agreeOff_nil d d'
  | cons name path ih =>
    cases d with
    | file content => cases path <;> simp [put?] at h
    | folder entries =>
      cases path with
      | nil =>
        obtain rfl : folder (Entries.insert name new entries) = d' := Option.some.inj h
        exact agreeOff_insert name (.inl rfl)
      | cons next path =>
        obtain ⟨e, e', he, hput, rfl⟩ := put?_below h
        exact agreeOff_insert name (.inr ⟨e, he, ih hput⟩)

theorem agreeOff_remove? {path : List String} {d d' : Disk} (h : d.remove? path = some d') :
    AgreeOff path d d' := by
  induction path generalizing d d' with
  | nil => exact agreeOff_nil d d'
  | cons name path ih =>
    cases d with
    | file content => cases path <;> simp [remove?] at h
    | folder entries =>
      cases path with
      | nil =>
        obtain rfl : folder (Entries.erase name entries) = d' := Option.some.inj h
        refine agreeOff_folder (fun other hother => ?_) (.inl rfl)
        rw [Entries.find?_erase, if_neg hother]
      | cons next path =>
        obtain ⟨e, e', he, hremove, rfl⟩ := remove?_below h
        exact agreeOff_insert name (.inr ⟨e, he, ih hremove⟩)

theorem find?_remove? {path : List String} {d d' : Disk} (h : d.remove? path = some d') :
    d'.find? path = none := by
  induction path generalizing d d' with
  | nil => cases d <;> cases h
  | cons name path ih =>
    cases d with
    | file content => cases path <;> simp [remove?] at h
    | folder entries =>
      rw [find?_cons]
      cases path with
      | nil =>
        obtain rfl : folder (Entries.erase name entries) = d' := Option.some.inj h
        rw [Disk.entries, Entries.find?_erase, if_pos rfl, Option.bind_none]
      | cons next path =>
        obtain ⟨e, e', -, hremove, rfl⟩ := remove?_below h
        rw [Disk.entries, Entries.find?_insert, if_pos rfl, Option.bind_some]
        exact ih hremove

theorem find?_put? {path : List String} {d d' new : Disk} (h : d.put? path new = some d') :
    d'.find? path = some new := by
  induction path generalizing d d' with
  | nil =>
    obtain rfl : new = d' := by cases d <;> exact Option.some.inj h
    rfl
  | cons name path ih =>
    cases d with
    | file content => cases path <;> simp [put?] at h
    | folder entries =>
      rw [find?_cons]
      cases path with
      | nil =>
        obtain rfl : folder (Entries.insert name new entries) = d' := Option.some.inj h
        rw [Disk.entries, Entries.find?_insert, if_pos rfl, Option.bind_some]
        rfl
      | cons next path =>
        obtain ⟨e, e', -, hput, rfl⟩ := put?_below h
        rw [Disk.entries, Entries.find?_insert, if_pos rfl, Option.bind_some]
        exact ih hput

/-- What is there can be replaced. -/
theorem exists_put? {path : List String} {d e : Disk} (h : d.find? path = some e) (new : Disk) :
    ∃ d', d.put? path new = some d' := by
  induction path generalizing d with
  | nil => exact ⟨new, by cases d <;> rfl⟩
  | cons name path ih =>
    cases d with
    | file content => cases h
    | folder entries =>
      obtain ⟨x, hx, hbelow⟩ := Option.bind_eq_some_iff.1 h
      cases path with
      | nil => exact ⟨_, rfl⟩
      | cons next path =>
        obtain ⟨x', hx'⟩ := ih hbelow
        change Entries.find? name entries = some x at hx
        refine ⟨folder (Entries.insert name x' entries), ?_⟩
        rw [put?]
        · simp only [hx, hx', bind, Option.bind, pure]
        · exact List.cons_ne_nil next path

end Disk

namespace Folder

open Disk

variable {α : Type} {form : EntryForm α} {dir : List String} {name other file : String}
  {d d' : Disk}

theorem fileName_injective (h : fileName name = .ok file) (h' : fileName other = .ok file) :
    name = other := by
  have htext {name : String} (h : fileName name = .ok file) :
      String.ofList (name.toList ++ extension) = file := by
    rw [fileName] at h
    split at h
    · cases h
    · exact Except.ok.inj h
  have hlists := String.ofList_injective ((htext h).trans (htext h').symm)
  exact String.toList_injective (List.append_cancel_right hlists)

theorem load_misnamed {fault : Fault} (h : fileName name = .error fault) :
    load form dir name d = .error fault := by
  rw [load, h]
  rfl

theorem load_eq (h : fileName name = .ok file) :
    load form dir name d =
      match d.find? (dir ++ [file]) with
      | none => .ok none
      | some (.folder _) => .error .storage
      | some (.file content) =>
        (Json.decodeChars form.ofJson (Text.chars content)).map some := by
  rw [load, h]
  rfl

theorem save_eq {entry : α} (h : fileName (form.nameOf entry) = .ok file) :
    save form dir entry d = must (d.write? (dir ++ [file])
      (Text.bytes ((form.toJson entry).text Json.indented))) := by
  rw [save, h]
  rfl

theorem delete_eq (h : fileName name = .ok file) :
    delete dir name d =
      match d.find? (dir ++ [file]) with
      | none => .ok (false, d)
      | some _ => (must (d.unlink? (dir ++ [file]))).map (Prod.mk true) := by
  rw [delete, h]
  rfl

/-- An entry that can be read is a file. -/
theorem of_load {entry : α} (h : load form dir name d = .ok (some entry)) :
    ∃ file content, fileName name = .ok file ∧ d.find? (dir ++ [file]) = some (.file content) := by
  cases hfile : fileName name with
  | error fault =>
    rw [load_misnamed hfile] at h
    cases h
  | ok file =>
    rw [load_eq hfile] at h
    split at h
    · cases h
    · cases h
    · rename_i content hfound
      exact ⟨file, content, rfl, hfound⟩

theorem of_load_none (h : load form dir name d = .ok none) :
    ∃ file, fileName name = .ok file ∧ d.find? (dir ++ [file]) = none := by
  cases hfile : fileName name with
  | error fault =>
    rw [load_misnamed hfile] at h
    cases h
  | ok file =>
    rw [load_eq hfile] at h
    split at h
    · exact ⟨file, rfl, ‹_›⟩
    · cases h
    · rename_i content _
      cases hdecoded : Json.decodeChars form.ofJson (Text.chars content) with
      | error fault =>
        rw [hdecoded] at h
        cases h
      | ok entry =>
        rw [hdecoded] at h
        cases h

theorem load_of_find? (hfile : fileName name = .ok file) (h : d.find? (dir ++ [file]) = none) :
    load form dir name d = .ok none := by
  rw [load_eq hfile, h]

theorem load_congr (h : ∀ file, fileName name = .ok file →
    d'.find? (dir ++ [file]) = d.find? (dir ++ [file])) :
    load form dir name d' = load form dir name d := by
  cases hfile : fileName name with
  | error fault => rw [load_misnamed hfile, load_misnamed hfile]
  | ok file => rw [load_eq hfile, load_eq hfile, h file hfile]

theorem names_congr (h : d'.find? dir = d.find? dir) : names dir d' = names dir d := by
  rw [names, names, names?, names?, h]

def entryFile (name : String) : String := String.ofList (name.toList ++ extension)

/-- Only one file is that of a name. -/
theorem of_entryName? (h : entryName? file = some name) : file = entryFile name := by
  rw [entryName?] at h
  split at h
  · rename_i hstem
    obtain rfl := Option.some.inj h
    rw [entryFile, String.toList_ofList, hstem.1, String.ofList_toList]
  · cases h

theorem nodup_files {files : List String} (h : d.names? dir = some files) : files.Nodup := by
  rw [names?] at h
  split at h
  · exact Option.some.inj h ▸ Sorting.nodup_eraseDups _
  · cases h

/-- No two files of a folder are of one entry. -/
theorem nodup_entryNames {files : List String} (h : files.Nodup) :
    (files.filterMap entryName?).Nodup := by
  refine List.Pairwise.filterMap _ (fun file file' hne name hname name' hname' heq => hne ?_) h
  exact (of_entryName? hname).trans (of_entryName? (heq ▸ hname')).symm

theorem names_eq {files : List String} (h : d.names? dir = some files) :
    names dir d = .ok (sortNames (files.filterMap entryName?)) := by
  rw [names, h]
  rfl

theorem ascending_names {listed : List String} (h : names dir d = .ok listed) :
    listed.Pairwise (· < ·) := by
  cases hfiles : d.names? dir with
  | none =>
    rw [names, hfiles] at h
    cases h
  | some files =>
    obtain rfl := Except.ok.inj ((names_eq hfiles).symm.trans h)
    exact sortNames_ascending (nodup_entryNames (nodup_files hfiles))

theorem nodup_names {listed : List String} (h : names dir d = .ok listed) : listed.Nodup :=
  (ascending_names h).imp String.ne_of_lt

/-- The files of a folder are listed by the names of their entries, each name once. -/
theorem names_of_folder {entries : List (String × Disk)}
    (h : d.find? dir = some (.folder entries)) :
    ∃ listed, names dir d = .ok listed ∧ listed.Pairwise (· < ·) ∧
      ∀ name, name ∈ listed ↔ ∃ file ∈ entries.map (·.1), entryName? file = some name := by
  have hfiles : d.names? dir = some (entries.map (·.1)).eraseDups := by rw [names?, h]
  have hnames := names_eq hfiles
  refine ⟨_, hnames, ascending_names hnames, fun name => ?_⟩
  rw [mem_sortNames, List.mem_filterMap]
  simp only [List.mem_eraseDups]

/-- A change of one entry is none of another entry of the folder. -/
theorem load_of_agreeOff (hagree : AgreeOff (dir ++ [file]) d d') (hfile : fileName other = .ok file)
    (hne : name ≠ other) : load form dir name d' = load form dir name d := by
  refine load_congr fun file' hname => ?_
  have hfiles : file ≠ file' := by
    rintro rfl
    exact hne (fileName_injective hname hfile)
  apply hagree
  · simpa [List.prefix_append_right_inj] using hfiles
  · simpa [List.prefix_append_right_inj] using hfiles.symm

/-- An entry is saved by putting its file in place. -/
theorem put?_of_save {entry : α} (h : save form dir entry d = .ok d') :
    ∃ file, fileName (form.nameOf entry) = .ok file ∧ d.put? (dir ++ [file])
      (.file (Text.bytes ((form.toJson entry).text Json.indented))) = some d' := by
  cases hfile : fileName (form.nameOf entry) with
  | error fault =>
    rw [save, hfile] at h
    cases h
  | ok file =>
    refine ⟨file, rfl, ?_⟩
    rw [save_eq hfile, write?] at h
    split at h
    · cases h
    · cases hput : d.put? (dir ++ [file]) _ with
      | none =>
        rw [hput] at h
        cases h
      | some written =>
        rw [hput] at h
        exact congrArg some (Except.ok.inj h)

theorem of_save {entry : α} (h : save form dir entry d = .ok d') :
    ∃ file, fileName (form.nameOf entry) = .ok file ∧ AgreeOff (dir ++ [file]) d d' := by
  obtain ⟨file, hfile, hput⟩ := put?_of_save h
  exact ⟨file, hfile, agreeOff_put? hput⟩

/-- What can be read can be written over. -/
theorem exists_save {entry : α} (h : load form dir name d = .ok (some entry)) (entry' : α)
    (hname : form.nameOf entry' = name) : ∃ d', save form dir entry' d = .ok d' := by
  obtain ⟨file, content, hfile, hfound⟩ := of_load h
  obtain ⟨d', hput⟩ := exists_put? hfound
    (.file (Text.bytes ((form.toJson entry').text Json.indented)))
  refine ⟨d', ?_⟩
  rw [save_eq (by rw [hname, hfile]), write?, hfound]
  dsimp only
  rw [hput]
  rfl

theorem of_delete_true (h : delete dir name d = .ok (true, d')) :
    ∃ file, fileName name = .ok file ∧ (d.find? (dir ++ [file])).isSome = true ∧
      d'.find? (dir ++ [file]) = none ∧ AgreeOff (dir ++ [file]) d d' := by
  cases hfile : fileName name with
  | error fault =>
    rw [delete, hfile] at h
    cases h
  | ok file =>
    rw [delete_eq hfile] at h
    cases hfound : d.find? (dir ++ [file]) with
    | none =>
      rw [hfound] at h
      cases h
    | some e =>
      rw [hfound] at h
      cases e with
      | folder entries =>
        rw [unlink?, hfound] at h
        cases h
      | file content =>
        rw [unlink?, hfound] at h
        cases hremove : d.remove? (dir ++ [file]) with
        | none =>
          rw [hremove] at h
          cases h
        | some removed =>
          rw [hremove] at h
          obtain rfl : removed = d' := congrArg Prod.snd (Except.ok.inj h)
          exact ⟨file, rfl, by rw [hfound]; rfl, find?_remove? hremove, agreeOff_remove? hremove⟩

theorem of_delete_false (h : delete dir name d = .ok (false, d')) : d' = d := by
  cases hfile : fileName name with
  | error fault =>
    rw [delete, hfile] at h
    cases h
  | ok file =>
    rw [delete_eq hfile] at h
    split at h
    · exact (congrArg Prod.snd (Except.ok.inj h)).symm
    · cases hunlink : d.unlink? (dir ++ [file]) with
      | none =>
        rw [hunlink] at h
        cases h
      | some removed =>
        rw [hunlink] at h
        cases h

end Folder

end Warden
