import Warden.Authority.Basic
import Warden.Proofs.Store.Mirror

namespace Warden

namespace Text

theorem split_append_split (sep : Char) (cs rest : List Char) :
    split sep (cs ++ sep :: rest) = split sep cs ++ split sep rest := by
  induction cs with
  | nil =>
    change split sep (sep :: rest) = [] :: split sep rest
    rw [split, if_pos rfl]
  | cons c cs ih =>
    rw [List.cons_append, split, split]
    by_cases hc : c = sep
    · rw [if_pos hc, if_pos hc, ih, List.cons_append]
    · rw [if_neg hc, if_neg hc, ih]
      cases hcs : split sep cs with
      | nil => exact absurd hcs (split_ne_nil sep cs)
      | cons piece pieces => rfl

end Text

namespace Disk

/-- A name that leads one step down from a folder: neither nowhere, nor up, nor further. -/
structure IsStep (file : String) : Prop where
  ne_empty : file ≠ ""
  ne_dot : file ≠ "."
  ne_dots : file ≠ ".."
  unbroken : ∀ c ∈ file.toList, c ≠ '/' ∧ c ≠ '\\' ∧ c ≠ '\x00'

theorem path_append (dir : String) {file : String} (h : IsStep file) :
    path (dir ++ "/" ++ file) = path dir ++ [file] := by
  have htext : (dir ++ "/" ++ file).toList = dir.toList ++ '/' :: file.toList := by simp
  have hsplit : Text.split '/' file.toList = [file.toList] :=
    Text.split_of_notMem fun hslash => (h.unbroken _ hslash).1 rfl
  have hkept : [file].filter (fun s => s ≠ "" && s ≠ ".") = [file] :=
    List.filter_eq_self.2 (by simp [h.ne_empty, h.ne_dot])
  rw [path, htext, Text.split_append_split, hsplit, List.map_append, List.map_singleton,
    String.ofList_toList, List.filter_append, hkept, path]

end Disk

namespace Folder

open Disk

variable {name file : String}

/-- A file is cut at its last dot into stem and extension; a dot in front is no place to cut. -/
structure Divided (file stem extension : String) : Prop where
  joined : file.toList = stem.toList ++ '.' :: extension.toList
  last : '.' ∉ extension.toList
  stem_ne : stem ≠ ""

theorem Divided.toList_ne_nil {extension : String} (h : Divided file name extension) :
    name.toList ≠ [] :=
  fun hnil => h.stem_ne (String.toList_eq_nil_iff.1 hnil)

theorem fits_iff : Fits name ↔ name ≠ "" ∧ name.toList.head? ≠ some '.' ∧
    ∀ c ∈ name.toList, c ≠ '/' ∧ c ≠ '\\' ∧ c ≠ '\x00' := by
  rw [Fits, nameFlaw?]
  split
  · simp [*]
  · split
    · simp [*]
    · split
      · rename_i hsep
        obtain ⟨c, hc, hsep⟩ := List.any_eq_true.1 hsep
        refine iff_of_false (Option.some_ne_none _) fun h => ?_
        have hplain := h.2.2 c hc
        simp [hplain] at hsep
      · rename_i hname hdot hsep
        refine iff_of_true rfl ⟨hname, hdot, fun c hc => ?_⟩
        have hplain := List.any_eq_false.1 (Bool.eq_false_iff.2 hsep) c hc
        simpa [not_or, and_assoc] using hplain

theorem fits_of_fileName (h : fileName name = .ok file) : Fits name := by
  rw [fileName] at h
  split at h
  · cases h
  · assumption

theorem eq_entryFile (h : fileName name = .ok file) : file = entryFile name :=
  (Except.ok.inj ((fileName_eq (fits_of_fileName h)).symm.trans h)).symm

theorem fileName_illegal (h : ¬Fits name) :
    ∃ reason, fileName name = .error (.illegalName .entry name reason) := by
  cases hflaw : nameFlaw? name with
  | none => exact absurd hflaw h
  | some reason => exact ⟨reason, by rw [fileName, hflaw]⟩

theorem toList_entryFile (name : String) :
    (entryFile name).toList = name.toList ++ '.' :: "json".toList := by
  rw [entryFile, String.toList_ofList]
  rfl

theorem isStep_entryFile (h : Fits name) : IsStep (entryFile name) := by
  obtain ⟨hname, hdot, hplain⟩ := fits_iff.1 h
  -- Five characters come after the name, so the file is neither a dot nor two of them.
  have hlong : 3 ≤ (entryFile name).toList.length := by
    rw [toList_entryFile, List.length_append]
    exact Nat.le_add_left_of_le (by decide)
  have hne (short : String) (hshort : short.toList.length < 3) : entryFile name ≠ short := by
    rintro heq
    rw [heq] at hlong
    omega
  refine ⟨hne _ (by decide), hne _ (by decide), hne _ (by decide), fun c hc => ?_⟩
  rw [toList_entryFile, List.mem_append] at hc
  rcases hc with hc | hc
  · exact hplain c hc
  · simp only [String.reduceToList, List.mem_cons, List.not_mem_nil, or_false] at hc
    rcases hc with rfl | rfl | rfl | rfl | rfl <;> decide

/-- Files are read as entries by the last dot of their names. -/
theorem entryName?_eq_some : entryName? file = some name ↔
    Divided file name "json" ∧ name.toList.head? ≠ some '.' := by
  constructor
  · intro h
    obtain rfl := of_entryName? h
    rw [entryName?] at h
    split at h
    · rename_i hstem
      have hname := Option.some.inj h
      rw [← String.toList_inj, String.toList_ofList] at hname
      rw [hname] at hstem
      refine ⟨⟨toList_entryFile name, by decide, ?_⟩, hstem.2.2⟩
      exact fun hempty => hstem.2.1 (String.toList_eq_nil_iff.2 hempty)
    · cases h
  · rintro ⟨hdivided, hdot⟩
    have hfile : file.toList = name.toList ++ extension := hdivided.joined
    rw [entryName?, hfile, List.length_append, Nat.add_sub_cancel, List.take_left,
      String.ofList_toList]
    exact if_pos ⟨rfl, hdivided.toList_ne_nil, hdot⟩

theorem not_hidden_of_entryName? (h : entryName? file = some name) :
    file.toList.head? ≠ some '.' := by
  obtain ⟨hdivided, hdot⟩ := entryName?_eq_some.1 h
  rw [hdivided.joined, List.head?_append_of_ne_nil _ hdivided.toList_ne_nil]
  exact hdot

theorem mem_files_iff {entries : List (String × Disk)} (h : Fits name) :
    (∃ file ∈ entries.map (·.1), entryName? file = some name) ↔
      entryFile name ∈ entries.map (·.1) := by
  constructor
  · rintro ⟨file, hfile, hentry⟩
    exact of_entryName? hentry ▸ hfile
  · exact fun hfile => ⟨_, hfile, entryName?_entryFile h⟩

end Folder

namespace Authority

variable {σ : Type}

/-- Names that an authority takes for users and roles are names of files. -/
theorem fits_of_nameFlaw? {a : Authority σ} {name : String} (hlength : 0 < a.minNameLength)
    (h : a.nameFlaw? name = none) : Folder.Fits name := by
  rw [nameFlaw?] at h
  split at h
  · cases h
  · rename_i hrange
    split at h
    · rename_i hchars
      have hchar (c : Char) (hc : c ∈ name.toList) : isNameChar c = true :=
        List.all_eq_true.1 hchars c hc
      refine Folder.fits_iff.2 ⟨?_, fun hdot => ?_, fun c hc => ⟨?_, ?_, ?_⟩⟩
      · rintro rfl
        exact hrange (.inl hlength)
      · exact absurd (hchar '.' (List.mem_of_mem_head? hdot)) (by decide)
      all_goals
        rintro rfl
        exact absurd (hchar _ hc) (by decide)
    · cases h

end Authority

namespace Folder

open Disk

variable {name file : String}

/-- A name is refused by a fault that tells it, or it has a file of its own one step below any folder.
Cutting the file at its last dot gives the name back. A folder is listed by the names whose files are in
it, each of them once and in order, and hidden files have no part in this. Under settings that meet their
rules, every name that a user or a role can be given has a file. -/
theorem files_of_names :
    (∀ name, (∃ reason, fileName name = .error (.illegalName .entry name reason)) ∨
      ∃ file, fileName name = .ok file ∧ IsStep file ∧
        ∀ dir, path (dir ++ "/" ++ file) = path dir ++ [file]) ∧
    (∀ name other file, fileName name = .ok file → fileName other = .ok file → name = other) ∧
    (∀ file name, entryName? file = some name ↔
      Divided file name "json" ∧ name.toList.head? ≠ some '.') ∧
    (∀ name file, fileName name = .ok file → entryName? file = some name) ∧
    (∀ dir d entries, d.find? dir = some (.folder entries) →
      ∃ listed, names dir d = .ok listed ∧ listed.Pairwise (· < ·) ∧
        (∀ name file, fileName name = .ok file →
          (name ∈ listed ↔ file ∈ entries.map (·.1))) ∧
        ∀ name ∈ listed, ∃ file ∈ entries.map (·.1),
          entryName? file = some name ∧ file.toList.head? ≠ some '.') ∧
    ∀ (σ : Type) (a : Authority σ) (config : Config), config.validate = .ok () →
      a.minNameLength = config.minNameLength →
        ∀ name, a.nameFlaw? name = none → ∃ file, fileName name = .ok file := by
  refine ⟨fun name => ?_, fun name other file => fileName_injective,
    fun file name => entryName?_eq_some, fun name file h => ?_, fun dir d entries h => ?_,
    fun σ a config hconfig hlength name h => ?_⟩
  · by_cases hname : Fits name
    · have hstep := isStep_entryFile hname
      exact .inr ⟨_, fileName_eq hname, hstep, fun dir => path_append dir hstep⟩
    · exact .inl (fileName_illegal hname)
  · rw [eq_entryFile h]
    exact entryName?_entryFile (fits_of_fileName h)
  · obtain ⟨listed, hlisted, hascending, hmem⟩ := names_of_folder h
    refine ⟨listed, hlisted, hascending, fun name file hname => ?_, fun name hname => ?_⟩
    · rw [hmem, mem_files_iff (fits_of_fileName hname), eq_entryFile hname]
    · obtain ⟨file, hfile, hentry⟩ := (hmem name).1 hname
      exact ⟨file, hfile, hentry, not_hidden_of_entryName? hentry⟩
  · have hpos : 0 < a.minNameLength :=
      hlength ▸ Config.minNameLength_pos (Config.flaw?_of_validate hconfig)
    exact ⟨_, fileName_eq (Authority.fits_of_nameFlaw? hpos h)⟩

/-- Names that end in a dot, in the ending of a file and in a blank, next to a file in the making and a
text that is no entry. -/
theorem files_of_odd_names :
    let users : List (String × Disk) := [(".ann..json.k3Z0aB", .file []), (".json", .file []),
      ("ann .json", .file []), ("ann..json", .file []), ("ann.json.json", .file []),
      ("ann.txt", .file [])]
    let d : Disk := .folder [("users", .folder users)]
    fileName "ann." = .ok "ann..json" ∧ entryName? "ann..json" = some "ann." ∧
      fileName "ann.json" = .ok "ann.json.json" ∧ fileName "ann " = .ok "ann .json" ∧
      ∃ listed, names ["users"] d = .ok listed ∧ "ann." ∈ listed ∧ "ann.json" ∈ listed ∧
        "ann " ∈ listed ∧ ∀ name ∈ listed, name ≠ ".ann..json" ∧ name ≠ "" := by
  intro users d
  obtain ⟨-, -, hdivided, hentry, hlist, -⟩ := files_of_names
  have hdot : fileName "ann." = .ok "ann..json" := by rfl
  have hending : fileName "ann.json" = .ok "ann.json.json" := by rfl
  have hblank : fileName "ann " = .ok "ann .json" := by rfl
  obtain ⟨listed, hlisted, -, hmem, hplain⟩ := hlist ["users"] d users rfl
  refine ⟨hdot, hentry _ _ hdot, hending, hblank, listed, hlisted, (hmem _ _ hdot).2 (by decide),
    (hmem _ _ hending).2 (by decide), (hmem _ _ hblank).2 (by decide), fun name hname => ?_⟩
  obtain ⟨file, -, hfile, -⟩ := hplain name hname
  obtain ⟨hcut, hhead⟩ := (hdivided file name).1 hfile
  refine ⟨?_, hcut.stem_ne⟩
  rintro rfl
  exact hhead rfl

end Folder

end Warden
