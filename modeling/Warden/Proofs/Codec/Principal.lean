import Warden.Codec.Principal
import Warden.Proofs.Grants.Changes
import Warden.Proofs.Json.Records
import Warden.Proofs.Path.Written

namespace Warden

open Json

theorem Privilege.ofJson_toJson (medium : Medium) (p : Privilege) : ofJson medium p.toJson = .ok p := by
  rw [ofJson, toJson, decodeName, ofName?_name]
  rfl

namespace PrivilegeSet

theorem ofJson_toJson (medium : Medium) (s : PrivilegeSet) : ofJson medium s.toJson = .ok s := by
  have hlist : decodeList Privilege.ofJson medium s.toJson = .ok s.toList :=
    decodeList_map fun p _ => Privilege.ofJson_toJson medium.inner p
  rw [ofJson, hlist]
  exact congrArg Except.ok s.ofList_toList

theorem textual (s : PrivilegeSet) (depth : Nat) : Textual (depth + 1) s.toJson := by
  refine .array fun j hj => ?_
  obtain ⟨p, -, rfl⟩ := List.mem_map.1 hj
  exact .string p.name

end PrivilegeSet

namespace Holding

theorem Sound.subset {h : Holding} (hs : h.Sound) : h.grantable.subset h.held = true :=
  PrivilegeSet.subset_iff.2 hs

def record (h : Holding) : List (String × Option Json) :=
  [("privileges", some h.held.toJson), ("grant_option", some h.grantable.toJson)]

theorem parts_eq {row : Row} {record : List (String × Option Json)} (hrow : row.Writes record)
    (h : Holding) (hrecord : h.record ⊆ record) : parts row = .value (h.held, h.grantable) := by
  have hheld : row.withDefault "privileges" .empty PrivilegeSet.ofJson = .value h.held :=
    Row.withDefault_written hrow (hrecord List.mem_cons_self) (h.held.ofJson_toJson row.medium)
  have hgrantable : row.withDefault "grant_option" .empty PrivilegeSet.ofJson =
      .value h.grantable :=
    Row.withDefault_written hrow (hrecord (.tail _ List.mem_cons_self))
      (h.grantable.ofJson_toJson row.medium)
  rw [parts, hheld, hgrantable]
  rfl

theorem ofParts_eq {h : Holding} (hs : h.Sound) : checked (ofParts h.held h.grantable) = .ok h := by
  rw [ofParts, if_pos hs.subset]
  rfl

theorem ofJson_toJson {h : Holding} (hs : h.Sound) (medium : Medium) :
    ofJson medium h.toJson = .ok h := by
  have hrow : Row.Writes ⟨medium.inner, h.fields⟩ h.record := ⟨rfl, by simp [record]⟩
  have hrecord : decodeRecord names parts medium h.toJson = .ok (h.held, h.grantable) :=
    decodeRecord_object (parts_eq hrow h fun _ hf => hf) (by simp [fields, names])
  rw [ofJson, hrecord]
  exact ofParts_eq hs

theorem textual_fields (h : Holding) (depth : Nat) : ∀ f ∈ h.fields, Textual (depth + 1) f.2 := by
  simp only [fields, List.forall_mem_cons]
  exact ⟨h.held.textual depth, h.grantable.textual depth, nofun⟩

theorem textual (h : Holding) (depth : Nat) : Textual (depth + 2) h.toJson :=
  .object (h.textual_fields depth)

end Holding

namespace PathGrant

theorem checkScopes_eq {ps : List Privilege} (h : ∀ p ∈ ps, p.scope = .path) :
    checkScopes ps = .ok () := by
  induction ps with
  | nil => rfl
  | cons p ps ih =>
    obtain ⟨hp, hps⟩ := List.forall_mem_cons.1 h
    rw [checkScopes, Privilege.check_eq_ok hp]
    exact ih hps

def record (g : PathGrant) : List (String × Option Json) :=
  ("pattern", some g.pattern.toJson) :: g.holding.record

theorem parts_eq {row : Row} (g : PathGrant) (hrow : row.Writes g.record) :
    parts row = .value (g.pattern, g.holding.held, g.holding.grantable) := by
  have hpattern : row.required "pattern" Pattern.ofJson = .value g.pattern :=
    Row.required_eq hrow List.mem_cons_self (g.pattern.ofJson_toJson row.medium)
  have hheld : row.required "privileges" PrivilegeSet.ofJson = .value g.holding.held :=
    Row.required_eq hrow (.tail _ List.mem_cons_self) (g.holding.held.ofJson_toJson row.medium)
  have hgrantable : row.withDefault "grant_option" .empty PrivilegeSet.ofJson =
      .value g.holding.grantable :=
    Row.withDefault_written hrow (.tail _ (.tail _ List.mem_cons_self))
      (g.holding.grantable.ofJson_toJson row.medium)
  rw [parts, hpattern, hheld, hgrantable]
  rfl

theorem ofJson_toJson {g : PathGrant} (hg : g.holding.Pathwise) (medium : Medium) :
    ofJson medium g.toJson = .ok g := by
  have hrow : Row.Writes ⟨medium.inner, ("pattern", g.pattern.toJson) :: g.holding.fields⟩
      g.record := ⟨rfl, by simp [record, Holding.record]⟩
  have hrecord : decodeRecord names parts medium g.toJson =
      .ok (g.pattern, g.holding.held, g.holding.grantable) :=
    decodeRecord_object (parts_eq g hrow) (by simp [Holding.fields, names])
  have hscopes : checkScopes g.holding.held.toList = .ok () :=
    checkScopes_eq fun _ hp => hg.scope (PrivilegeSet.mem_toList.1 hp)
  rw [ofJson, hrecord]
  change checked (ofParts g.pattern g.holding.held g.holding.grantable) = .ok g
  rw [ofParts, hscopes]
  change checked (if _ then _ else _) = .ok g
  rw [if_pos hg.sound.subset]
  rfl

theorem textual (g : PathGrant) (depth : Nat) : Textual (depth + 2) g.toJson := by
  refine .object (List.forall_mem_cons.2 ⟨.string _, g.holding.textual_fields depth⟩)

end PathGrant

namespace DatabaseGrants

theorem textual_map {α : Type} {encode : α → Json} {depth : Nat}
    (h : ∀ a, Textual depth (encode a)) (m : KeyMap α) :
    Textual (depth + 1) (mapToJson encode m) := by
  refine .object fun f hf => ?_
  obtain ⟨e, -, rfl⟩ := List.mem_map.1 hf
  exact h e.2

def tableField (d : DatabaseGrants) : String × Option Json :=
  ("tables", if d.tables.isEmpty then none else some (mapToJson Holding.toJson d.tables))

theorem toJson_eq (d : DatabaseGrants) :
    d.toJson = .object (sparse (d.own.record ++ [d.tableField])) := by
  rw [toJson, sparse_append, tableField]
  cases d.tables.isEmpty <;> rfl

theorem tables_eq {row : Row} {record : List (String × Option Json)} (hrow : row.Writes record)
    {d : DatabaseGrants} (hmem : d.tableField ∈ record) (hs : d.Sound) :
    row.withDefault "tables" .empty (decodeMap Holding.ofJson) = .value d.tables := by
  refine Row.withDefault_eq hrow hmem (fun hnone => ?_) fun j hj => ?_
  · split at hnone
    · exact KeyMap.eq_empty ‹_›
    · cases hnone
  · split at hj
    · cases hj
    · cases hj
      exact decodeMap_entries fun e he => Holding.ofJson_toJson (hs.tables e he) _

theorem textual_fields (d : DatabaseGrants) (depth : Nat) :
    ∀ f ∈ sparse (d.own.record ++ [d.tableField]), Textual (depth + 3) f.2 := by
  intro f hf
  rw [sparse_append, List.mem_append] at hf
  rcases hf with hf | hf
  · exact d.own.textual_fields (depth + 2) f hf
  · have hmem : (f.1, some f.2) ∈ [d.tableField] := mem_sparse.1 hf
    rw [List.mem_singleton, tableField, Prod.mk.injEq] at hmem
    obtain ⟨-, htables⟩ := hmem
    split at htables
    · cases htables
    · rw [Option.some.inj htables]
      exact textual_map (fun h => h.textual depth) d.tables

theorem textual (d : DatabaseGrants) (depth : Nat) : Textual (depth + 4) d.toJson := by
  rw [toJson_eq]
  exact .object (d.textual_fields depth)

theorem ofJson_toJson {d : DatabaseGrants} (hs : d.Sound) : ofJson .aside d.toJson = .ok d := by
  have hrow : Row.Writes ⟨.aside, sparse (d.own.record ++ [d.tableField])⟩
      (d.own.record ++ [d.tableField]) := ⟨rfl, by simp [Holding.record, tableField]⟩
  have hrest : (sparse (d.own.record ++ [d.tableField])).filter
      (fun f => !(["tables"].contains f.1)) = d.own.fields := by
    rw [filter_sparse _ fun name => !(["tables"].contains name)]
    rfl
  have hown : Holding.parts ⟨.aside, d.own.fields⟩ = .value (d.own.held, d.own.grantable) :=
    Holding.parts_eq ⟨rfl, by simp [Holding.record]⟩ d.own fun _ hf => hf
  have hspread : decodeSpread ["tables"]
      (·.withDefault "tables" .empty (decodeMap Holding.ofJson)) Holding.parts .aside d.toJson =
      .ok (d.tables, d.own.held, d.own.grantable) := by
    rw [toJson_eq]
    refine decodeSpread_object (tables_eq hrow (List.mem_append_right _ List.mem_cons_self) hs)
      (fun f hf => .inr ⟨(d.textual_fields 0 f hf).named, rfl⟩) ?_
    rw [hrest]
    exact hown
  rw [ofJson, hspread]
  change (do return (⟨← checked (Holding.ofParts d.own.held d.own.grantable), d.tables⟩ :
    DatabaseGrants)) = Except.ok d
  rw [Holding.ofParts_eq hs.own]
  rfl

end DatabaseGrants

namespace ObjectGrants

theorem textual (o : ObjectGrants) (depth : Nat) : Textual (depth + 5) o.toJson :=
  DatabaseGrants.textual_map (fun d => d.textual depth) o.databases

theorem ofJson_toJson {o : ObjectGrants} (ho : o.Lawful) : ofJson .aside o.toJson = .ok o := by
  have hmap : decodeMap DatabaseGrants.ofJson .aside o.toJson = .ok o.databases :=
    decodeMap_entries fun e he => DatabaseGrants.ofJson_toJson (ho e he)
  rw [ofJson, hmap]
  rfl

end ObjectGrants

namespace Grants

def record (g : Grants) : List (String × Option Json) :=
  [("system", some g.system.toJson),
   ("path_privileges",
    if g.paths.isEmpty then none else some (.array (g.paths.map PathGrant.toJson))),
   ("object_privileges", if g.objects.isEmpty then none else some g.objects.toJson)]

theorem fields_eq (g : Grants) : g.fields = sparse g.record := by
  rw [fields, record]
  cases List.isEmpty g.paths <;> cases g.objects.isEmpty <;> rfl

theorem textual_fields (g : Grants) (depth : Nat) : ∀ f ∈ g.fields, Textual (depth + 5) f.2 := by
  rintro ⟨name, j⟩ hf
  rw [fields_eq, mem_sparse] at hf
  simp only [record, List.mem_cons, Prod.mk.injEq, List.not_mem_nil, or_false] at hf
  rcases hf with ⟨-, hj⟩ | ⟨-, hj⟩ | ⟨-, hj⟩
  · rw [Option.some.inj hj]
    exact g.system.textual (depth + 3)
  · split at hj
    · cases hj
    · rw [Option.some.inj hj]
      refine .array fun j' hj' => ?_
      obtain ⟨entry, -, rfl⟩ := List.mem_map.1 hj'
      exact entry.textual (depth + 2)
  · split at hj
    · cases hj
    · rw [Option.some.inj hj]
      exact g.objects.textual depth

theorem parts_eq {g : Grants} (hg : g.Lawful) {row : Row} (hrow : row.Writes g.record)
    (hmedium : row.medium = .aside) : parts row = .value g := by
  have hsystem : row.withDefault "system" .empty Holding.ofJson = .value g.system :=
    Row.withDefault_written hrow List.mem_cons_self
      (Holding.ofJson_toJson hg.system row.medium)
  have hpaths : row.withDefault "path_privileges" [] (decodeList PathGrant.ofJson) =
      .value g.paths :=
    Row.list_eq hrow (.tail _ List.mem_cons_self) fun entry hentry =>
      PathGrant.ofJson_toJson (hg.paths entry hentry) _
  have hobjects : row.withDefault "object_privileges" .empty ObjectGrants.ofJson =
      .value g.objects := by
    refine Row.withDefault_eq hrow (.tail _ (.tail _ List.mem_cons_self)) (fun hnone => ?_)
      fun j hj => ?_
    · split at hnone
      · have hempty : g.objects.databases = .empty := KeyMap.eq_empty ‹_›
        exact congrArg ObjectGrants.mk hempty
      · cases hnone
    · split at hj
      · cases hj
      · cases hj
        rw [hmedium]
        exact ObjectGrants.ofJson_toJson hg.objects
  rw [parts, hsystem, hpaths, hobjects]
  rfl

theorem nodup_record (g : Grants) : (g.record.map Prod.fst).Nodup := by simp [record]

/-- Beside the fields of its holder, what is written of the grants can be set aside. -/
theorem keeps_spread (g : Grants) {own : List (String × Option Json)} {names : List String}
    {medium : Medium} (hown : ∀ f ∈ own, f.1 ∈ names) (hmedium : medium.Admits 5) :
    ∀ f ∈ sparse (own ++ g.record), f.1 ∈ names ∨
      Row.others.named f.2 = true ∧ medium.keeps f.2 = true := by
  intro f hf
  rw [sparse_append, List.mem_append, ← g.fields_eq] at hf
  rcases hf with hf | hf
  · exact .inl (hown _ (mem_sparse.1 hf))
  · have htextual : Textual 5 f.2 := g.textual_fields 0 f hf
    exact .inr ⟨htextual.named, hmedium f.2 htextual⟩

theorem textual_spread (g : Grants) {own : List (String × Option Json)}
    (hown : ∀ f ∈ sparse own, Textual 5 f.2) : Textual 6 (.object (sparse (own ++ g.record))) := by
  refine .object fun f hf => ?_
  rw [sparse_append, List.mem_append, ← g.fields_eq] at hf
  rcases hf with hf | hf
  · exact hown f hf
  · exact g.textual_fields 0 f hf

end Grants

namespace Role

def record (r : Role) : List (String × Option Json) := [("name", some (.string r.name))]

theorem toJson_eq (r : Role) : r.toJson = .object (sparse (r.record ++ r.grants.record)) := by
  rw [toJson, r.grants.fields_eq]
  rfl

theorem ofJson_toJson {r : Role} (hr : r.grants.Lawful) {medium : Medium}
    (hmedium : medium.inner.Admits 5) : ofJson medium r.toJson = .ok r := by
  have hrow : Row.Writes ⟨medium.inner, sparse (r.record ++ r.grants.record)⟩
      (r.record ++ r.grants.record) := ⟨rfl, by simp [record, Grants.record]⟩
  have hname : Row.required ⟨medium.inner, sparse (r.record ++ r.grants.record)⟩ "name"
      decodeText = .value r.name := Row.required_eq hrow List.mem_cons_self rfl
  have hrest : (sparse (r.record ++ r.grants.record)).filter (fun f => !(["name"].contains f.1)) =
      sparse r.grants.record := by
    rw [filter_sparse _ fun name => !(["name"].contains name)]
    rfl
  have hspread : decodeSpread ["name"] (·.required "name" decodeText) Grants.parts medium
      r.toJson = .ok (r.name, r.grants) := by
    rw [toJson_eq]
    refine decodeSpread_object hname (r.grants.keeps_spread (by simp [record]) hmedium) ?_
    rw [hrest]
    exact Grants.parts_eq hr ⟨rfl, r.grants.nodup_record⟩ rfl
  rw [ofJson, hspread]
  rfl

theorem plain_toJson (r : Role) : r.toJson.plain = true := by
  have htextual : Textual 6 r.toJson := by
    rw [toJson_eq]
    exact r.grants.textual_spread (List.forall_mem_singleton.2 (.string r.name))
  exact htextual.plain

end Role

namespace User

def record (u : User) : List (String × Option Json) :=
  [("name", some (.string u.name)), ("password_hash", u.passwordHash.map .string),
   ("open_id", some (.bool u.openId)),
   ("roles", if u.roles.keys.isEmpty then none else some (.array (u.roles.keys.map .string)))]

theorem toJson_eq (u : User) : u.toJson = .object (sparse (u.record ++ u.grants.record)) := by
  rw [toJson, u.grants.fields_eq, sparse_append, record, listField]
  cases u.passwordHash <;> cases u.roles.keys.isEmpty <;> rfl

theorem parts_eq {u : User} {row : Row} (hrow : row.Writes (u.record ++ u.grants.record)) :
    ∃ build, parts row = .value build ∧ build u.grants = u := by
  have hname : row.required "name" decodeText = .value u.name :=
    Row.required_eq hrow List.mem_cons_self rfl
  have hhash : row.optional "password_hash" decodeText = .value u.passwordHash :=
    Row.optional_eq hrow (.tail _ List.mem_cons_self) fun _ _ => ⟨nofun, rfl⟩
  have hopen : row.withDefault "open_id" false decodeBool = .value u.openId :=
    Row.withDefault_written hrow (.tail _ (.tail _ List.mem_cons_self)) rfl
  have hroles : row.withDefault "roles" [] (decodeList decodeText) = .value u.roles.keys :=
    Row.list_eq hrow (.tail _ (.tail _ (.tail _ List.mem_cons_self))) fun _ _ => rfl
  refine ⟨_, by rw [parts, hname, hhash, hopen, hroles]; rfl, ?_⟩
  change User.mk u.name u.passwordHash u.openId (NameSet.ofNames u.roles.keys) u.grants = u
  rw [NameSet.ofNames_keys]

theorem ofJson_toJson {u : User} (hu : u.grants.Lawful) {medium : Medium}
    (hmedium : medium.inner.Admits 5) : ofJson medium u.toJson = .ok u := by
  have hrow : Row.Writes ⟨medium.inner, sparse (u.record ++ u.grants.record)⟩
      (u.record ++ u.grants.record) := ⟨rfl, by simp [record, Grants.record]⟩
  obtain ⟨build, hparts, hbuild⟩ := parts_eq hrow
  have hrest : (sparse (u.record ++ u.grants.record)).filter (fun f => !names.contains f.1) =
      sparse u.grants.record := by
    rw [filter_sparse _ fun name => !names.contains name]
    rfl
  have hspread : decodeSpread names parts Grants.parts medium u.toJson = .ok (build, u.grants) := by
    rw [toJson_eq]
    refine decodeSpread_object hparts (u.grants.keeps_spread (by simp [record, names]) hmedium) ?_
    rw [hrest]
    exact Grants.parts_eq hu ⟨rfl, u.grants.nodup_record⟩ rfl
  rw [ofJson, hspread]
  exact congrArg Except.ok hbuild

theorem plain_toJson (u : User) : u.toJson.plain = true := by
  have hown : ∀ f ∈ sparse u.record, Textual 5 f.2 := by
    rintro ⟨name, j⟩ hf
    rw [mem_sparse] at hf
    simp only [record, List.mem_cons, Prod.mk.injEq, List.not_mem_nil, or_false] at hf
    rcases hf with ⟨-, hj⟩ | ⟨-, hj⟩ | ⟨-, hj⟩ | ⟨-, hj⟩
    · rw [Option.some.inj hj]
      exact .string u.name
    · obtain ⟨hash, -, rfl⟩ := Option.map_eq_some_iff.1 hj.symm
      exact .string hash
    · rw [Option.some.inj hj]
      exact .bool u.openId
    · split at hj
      · cases hj
      · rw [Option.some.inj hj]
        refine .array fun j' hj' => ?_
        obtain ⟨rolename, -, rfl⟩ := List.mem_map.1 hj'
        exact .string rolename
  have htextual : Textual 6 u.toJson := by
    rw [toJson_eq]
    exact u.grants.textual_spread hown
  exact htextual.plain

end User

end Warden
