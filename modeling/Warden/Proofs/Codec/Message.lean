import Warden.Codec.Config
import Warden.Codec.Message
import Warden.Proofs.Codec.Principal
import Warden.Proofs.Grants.Decoded

namespace Warden

open Json

theorem plain_object {fields : List (String × Json)} (h : ∀ f ∈ fields, f.2.plain = true) :
    (Json.object fields).plain = true := plainFields_iff.2 h

theorem plain_optionalField {α : Type} {name : String} {encode : α → Json} {a? : Option α}
    (h : ∀ a, a? = some a → (encode a).plain = true) :
    ∀ f ∈ optionalField name (a?.map encode), f.2.plain = true := by
  cases a? with
  | none => exact nofun
  | some a => exact List.forall_mem_singleton.2 (h a rfl)

theorem plain_array {α : Type} {encode : α → Json} {items : List α}
    (h : ∀ a ∈ items, (encode a).plain = true) : (Json.array (items.map encode)).plain = true :=
  plainItems_iff.2 (List.forall_mem_map.2 h)

theorem plain_listField {α : Type} {name : String} {encode : α → Json} {items : List α}
    (h : ∀ a ∈ items, (encode a).plain = true) :
    ∀ f ∈ listField name encode items, f.2.plain = true := by
  rw [listField]
  split
  · exact List.forall_mem_nil _
  · exact List.forall_mem_singleton.2 (plain_array h)

section Texts

variable {α : Type} {field field' : String} {medium : Medium}

theorem decodeRecord_text (make : String → α) (text : String) :
    decodeRecord [field] (fun row => make <$> row.required field decodeText) medium
      (.object [(field, .string text)]) = .ok (make text) := by
  refine @decodeRecord_sparse _ _ _ _ [(field, some (.string text))] _ rfl (by simp)
    fun row _ hrow => ?_
  have htext : row.required field decodeText = .value text :=
    Row.required_eq hrow List.mem_cons_self rfl
  rw [htext]
  rfl

theorem decodeRecord_texts (hfields : [field, field'].Nodup) (make : String → String → α)
    (text text' : String) :
    decodeRecord [field, field'] (fun row =>
        make <$> row.required field decodeText <*> row.required field' decodeText) medium
      (.object [(field, .string text), (field', .string text')]) = .ok (make text text') := by
  refine @decodeRecord_sparse _ _ _ _
    [(field, some (.string text)), (field', some (.string text'))] _ rfl hfields
    fun row _ hrow => ?_
  have htext : row.required field decodeText = .value text :=
    Row.required_eq hrow List.mem_cons_self rfl
  have htext' : row.required field' decodeText = .value text' :=
    Row.required_eq hrow (.tail _ List.mem_cons_self) rfl
  rw [htext, htext']
  rfl

end Texts

namespace Scope

theorem ofName?_name (s : Scope) : ofName? s.name = some s := by
  cases s <;> decide

theorem ofJson_toJson (medium : Medium) (s : Scope) : ofJson medium s.toJson = .ok s := by
  rw [ofJson, toJson, decodeName, ofName?_name]
  rfl

end Scope

theorem StatusCode.ofJson_toJson (medium : Medium) (c : StatusCode) :
    ofJson medium c.toJson = .ok c := by
  rw [ofJson, toJson, decodeName, ofName?_name]
  rfl

namespace Status

def record (s : Status) : List (String × Option Json) :=
  [("code", some s.code.toJson), ("message", s.message.map .string)]

theorem toJson_eq (s : Status) : s.toJson = .object (sparse s.record) := by
  rw [toJson, record]
  cases s.message <;> rfl

theorem ofJson_toJson (medium : Medium) (s : Status) : ofJson medium s.toJson = .ok s := by
  rw [toJson_eq]
  refine decodeRecord_sparse rfl (by decide) fun row _ hrow => ?_
  have hcode : row.required "code" StatusCode.ofJson = .value s.code :=
    Row.required_eq hrow List.mem_cons_self (s.code.ofJson_toJson _)
  have hmessage : row.optional "message" decodeText = .value s.message :=
    Row.optional_eq hrow (.tail _ List.mem_cons_self) fun _ _ => ⟨nofun, rfl⟩
  rw [hcode, hmessage]
  rfl

theorem plain_toJson (s : Status) : s.toJson.plain = true := by
  rw [toJson]
  cases s.message <;> rfl

end Status

namespace Target

def objectRecord (database : String) (table : Option String) : List (String × Option Json) :=
  [("database", some (.string database)), ("table", table.map .string)]

theorem ofValue_object (medium : Medium) (database : String) (table : Option String) :
    ofValue .object medium (.object (sparse (objectRecord database table))) =
      .ok (.object database table) := by
  rw [ofValue]
  refine decodeRecord_sparse rfl (by decide) fun row _ hrow => ?_
  have hdatabase : row.required "database" decodeText = .value database :=
    Row.required_eq hrow List.mem_cons_self rfl
  have htable : row.optional "table" decodeText = .value table :=
    Row.optional_eq hrow (.tail _ List.mem_cons_self) fun _ _ => ⟨nofun, rfl⟩
  rw [hdatabase, htable]
  rfl

/-- The kind stands in front of the value, so the value is read where it stands. -/
theorem ofJson_valued {kind : Kind} {j : Json} {t : Target} {medium : Medium}
    (h : ofValue kind medium.inner j = .ok t) :
    ofJson medium (.object [("kind", .string kind.name), ("value", j)]) = .ok t := by
  have hname : decodeName Kind.ofName? medium.inner (.string kind.name) = .ok kind := by
    cases kind <;> rfl
  refine decodeRecord_object ?_ (by simp)
  have hkind : Row.places ⟨medium.inner, [("kind", .string kind.name), ("value", j)]⟩ "kind" =
      [(0, .string kind.name)] := rfl
  have hvalue : Row.places ⟨medium.inner, [("kind", .string kind.name), ("value", j)]⟩ "value" =
      [(1, j)] := rfl
  rw [part, Row.once, Row.once, hkind, hvalue]
  dsimp only
  rw [hname]
  dsimp only
  rw [valuePart, hvalue]
  dsimp only
  rw [if_pos Nat.zero_lt_one, h]
  rfl

theorem ofJson_toJson (medium : Medium) (t : Target) : ofJson medium t.toJson = .ok t := by
  cases t with
  | system => rfl
  | path pattern =>
    refine @ofJson_valued .path _ _ _ ?_
    rw [ofValue, pattern.ofJson_toJson]
    rfl
  | object database table =>
    have hvalue := ofValue_object medium.inner database table
    cases table <;> exact @ofJson_valued .object _ _ _ hvalue

theorem textual_toJson (t : Target) : Textual 2 t.toJson := by
  cases t with
  | system => exact .object (List.forall_mem_singleton.2 (.string _))
  | path pattern => exact .object (by simp [Textual.string, Pattern.toJson])
  | object database table =>
    refine .object (List.forall_mem_cons.2 ⟨.string _, List.forall_mem_singleton.2 ?_⟩)
    cases table <;> exact .object (by simp [Textual.string, optionalField])

end Target

namespace CheckRequest

def record (r : CheckRequest) : List (String × Option Json) :=
  [("principal", some (.string r.principal)), ("privilege", some r.privilege.toJson),
    ("target", some r.target.toJson), ("grant_option", some (.bool r.grantOption))]

theorem ofJson_toJson (medium : Medium) (r : CheckRequest) : ofJson medium r.toJson = .ok r := by
  have htoJson : r.toJson = .object (sparse r.record) := rfl
  rw [htoJson]
  refine decodeRecord_sparse rfl (by decide) fun row _ hrow => ?_
  have hprincipal : row.required "principal" decodeText = .value r.principal :=
    Row.required_eq hrow (List.mem_of_getElem? (i := 0) rfl) rfl
  have hprivilege : row.required "privilege" Privilege.ofJson = .value r.privilege :=
    Row.required_eq hrow (List.mem_of_getElem? (i := 1) rfl) (r.privilege.ofJson_toJson _)
  have htarget : row.required "target" Target.ofJson = .value r.target :=
    Row.required_eq hrow (List.mem_of_getElem? (i := 2) rfl) (r.target.ofJson_toJson _)
  have hoption : row.withDefault "grant_option" false decodeBool = .value r.grantOption :=
    Row.withDefault_written hrow (List.mem_of_getElem? (i := 3) rfl) rfl
  rw [hprincipal, hprivilege, htarget, hoption]
  rfl

theorem plain_toJson (r : CheckRequest) : r.toJson.plain = true := by
  refine plain_object ?_
  simp only [List.forall_mem_cons]
  exact ⟨rfl, rfl, r.target.textual_toJson.plain, rfl, nofun⟩

end CheckRequest

namespace PrivilegeRequest

def record (r : PrivilegeRequest) : List (String × Option Json) :=
  [("username", some (.string r.username)), ("scope", some r.scope.toJson),
    ("privilege", some r.privilege.toJson),
    ("paths", if r.paths.isEmpty then none else some (.array (r.paths.map Pattern.toJson))),
    ("database", r.database.map .string), ("table", r.table.map .string),
    ("grant_option", some (.bool r.grantOption))]

theorem toJson_eq (r : PrivilegeRequest) : r.toJson = .object (sparse r.record) := by
  rw [toJson, record, listField]
  cases r.paths.isEmpty <;> cases r.database <;> cases r.table <;> rfl

theorem ofJson_toJson (medium : Medium) (r : PrivilegeRequest) :
    ofJson medium r.toJson = .ok r := by
  rw [toJson_eq]
  refine decodeRecord_sparse rfl (by decide) fun row _ hrow => ?_
  have husername : row.required "username" decodeText = .value r.username :=
    Row.required_eq hrow (List.mem_of_getElem? (i := 0) rfl) rfl
  have hscope : row.required "scope" Scope.ofJson = .value r.scope :=
    Row.required_eq hrow (List.mem_of_getElem? (i := 1) rfl) (r.scope.ofJson_toJson _)
  have hprivilege : row.required "privilege" Privilege.ofJson = .value r.privilege :=
    Row.required_eq hrow (List.mem_of_getElem? (i := 2) rfl) (r.privilege.ofJson_toJson _)
  have hpaths : row.withDefault "paths" [] (decodeList Pattern.ofJson) = .value r.paths :=
    Row.list_eq hrow (List.mem_of_getElem? (i := 3) rfl) fun p _ => p.ofJson_toJson _
  have hdatabase : row.optional "database" decodeText = .value r.database :=
    Row.optional_eq hrow (List.mem_of_getElem? (i := 4) rfl) fun _ _ => ⟨nofun, rfl⟩
  have htable : row.optional "table" decodeText = .value r.table :=
    Row.optional_eq hrow (List.mem_of_getElem? (i := 5) rfl) fun _ _ => ⟨nofun, rfl⟩
  have hoption : row.withDefault "grant_option" false decodeBool = .value r.grantOption :=
    Row.withDefault_written hrow (List.mem_of_getElem? (i := 6) rfl) rfl
  rw [husername, hscope, hprivilege, hpaths, hdatabase, htable, hoption]
  rfl

theorem plain_toJson (r : PrivilegeRequest) : r.toJson.plain = true := by
  refine plain_object ?_
  simp only [List.forall_mem_append, List.forall_mem_cons]
  exact ⟨⟨⟨⟨⟨rfl, rfl, rfl, nofun⟩, plain_listField fun _ _ => rfl⟩,
    plain_optionalField fun _ _ => rfl⟩, plain_optionalField fun _ _ => rfl⟩, rfl, nofun⟩

end PrivilegeRequest

theorem LoginRequest.ofJson_toJson (medium : Medium) (r : LoginRequest) :
    ofJson medium r.toJson = .ok r := decodeRecord_texts (by decide) ..

theorem MembershipRequest.ofJson_toJson (medium : Medium) (r : MembershipRequest) :
    ofJson medium r.toJson = .ok r := decodeRecord_texts (by decide) ..

namespace QueryResponse

def record (r : QueryResponse) : List (String × Option Json) :=
  [("status", some r.status.toJson),
    ("names", if r.names.isEmpty then none else some (.array (r.names.map .string)))]

theorem toJson_eq (r : QueryResponse) : r.toJson = .object (sparse r.record) := by
  rw [toJson, record, listField]
  cases r.names.isEmpty <;> rfl

theorem ofJson_toJson (medium : Medium) (r : QueryResponse) : ofJson medium r.toJson = .ok r := by
  rw [toJson_eq]
  refine decodeRecord_sparse rfl (by decide) fun row _ hrow => ?_
  have hstatus : row.required "status" Status.ofJson = .value r.status :=
    Row.required_eq hrow List.mem_cons_self (r.status.ofJson_toJson _)
  have hnames : row.withDefault "names" [] (decodeList decodeText) = .value r.names :=
    Row.list_eq hrow (.tail _ List.mem_cons_self) fun _ _ => rfl
  rw [hstatus, hnames]
  rfl

theorem plain_toJson (r : QueryResponse) : r.toJson.plain = true :=
  plain_object (List.forall_mem_cons.2 ⟨r.status.plain_toJson, plain_listField fun _ _ => rfl⟩)

end QueryResponse

theorem decodeCount_natural {medium : Medium} {n : Nat} (h : n < 18446744073709551616) :
    decodeCount medium (.natural n) = .ok n := if_pos h

section Principals

variable {row : Row} {record : List (String × Option Json)} {name : String} {user : Option User}
  {roles : List Role}

/-- A principal stands in an answer with room for its grants. -/
theorem optional_user (hrow : row.Writes record) (hmem : (name, user.map User.toJson) ∈ record)
    (hroom : row.medium.inner.Admits 5) (h : ∀ u, user = some u → u.grants.Built) :
    row.optional name User.ofJson = .value user :=
  Row.optional_eq hrow hmem fun u hu => ⟨nofun, User.ofJson_toJson (h u hu).lawful hroom⟩

theorem list_roles (hrow : row.Writes record)
    (hmem : (name, if roles.isEmpty then none else some (.array (roles.map Role.toJson))) ∈ record)
    (hroom : row.medium.inner.inner.Admits 5) (h : ∀ r ∈ roles, r.grants.Built) :
    row.withDefault name [] (decodeList Role.ofJson) = .value roles :=
  Row.list_eq hrow hmem fun r hr => Role.ofJson_toJson (h r hr).lawful hroom

end Principals

namespace PermissionInfo

/-- The principals came about as principals do, and the positions are machine words. -/
structure Formed (i : PermissionInfo) : Prop where
  user : ∀ u, i.user = some u → u.grants.Built
  roles : ∀ r ∈ i.roles, r.grants.Built
  positions : ∀ n ∈ i.failedPositions, n < 18446744073709551616

def record (i : PermissionInfo) : List (String × Option Json) :=
  [("status", some i.status.toJson), ("user", i.user.map User.toJson),
    ("roles", if i.roles.isEmpty then none else some (.array (i.roles.map Role.toJson))),
    ("failed_positions",
      if i.failedPositions.isEmpty then none else some (.array (i.failedPositions.map .natural)))]

theorem toJson_eq (i : PermissionInfo) : i.toJson = .object (sparse i.record) := by
  rw [toJson, record, listField, listField]
  cases i.user <;> cases i.roles.isEmpty <;> cases i.failedPositions.isEmpty <;> rfl

theorem ofJson_toJson {i : PermissionInfo} (hi : i.Formed) : ofJson .document i.toJson = .ok i := by
  rw [toJson_eq]
  refine decodeRecord_sparse rfl (by decide) fun row hmedium hrow => ?_
  have hstatus : row.required "status" Status.ofJson = .value i.status :=
    Row.required_eq hrow (List.mem_of_getElem? (i := 0) rfl) (i.status.ofJson_toJson _)
  have huser : row.optional "user" User.ofJson = .value i.user :=
    optional_user hrow (List.mem_of_getElem? (i := 1) rfl)
      (hmedium ▸ Medium.admits_text (by decide)) hi.user
  have hroles : row.withDefault "roles" [] (decodeList Role.ofJson) = .value i.roles :=
    list_roles hrow (List.mem_of_getElem? (i := 2) rfl)
      (hmedium ▸ Medium.admits_text (by decide)) hi.roles
  have hpositions : row.withDefault "failed_positions" [] (decodeList decodeCount) =
      .value i.failedPositions :=
    Row.list_eq hrow (List.mem_of_getElem? (i := 3) rfl) fun n hn =>
      decodeCount_natural (hi.positions n hn)
  rw [hstatus, huser, hroles, hpositions]
  rfl

theorem plain_toJson (i : PermissionInfo) : i.toJson.plain = true := by
  refine plain_object ?_
  simp only [List.forall_mem_append, List.forall_mem_cons]
  exact ⟨⟨⟨⟨i.status.plain_toJson, nofun⟩, plain_optionalField fun u _ => u.plain_toJson⟩,
    plain_listField fun r _ => r.plain_toJson⟩, plain_listField fun _ _ => rfl⟩

end PermissionInfo

namespace PatternTreeInfo

structure Formed (i : PatternTreeInfo) : Prop where
  user : ∀ u, i.user = some u → u.grants.Built
  roles : ∀ r ∈ i.roles, r.grants.Built

def record (i : PatternTreeInfo) : List (String × Option Json) :=
  [("status", some i.status.toJson), ("pattern_tree", some (.array (i.tree.map byteToJson))),
    ("user", i.user.map User.toJson),
    ("roles", if i.roles.isEmpty then none else some (.array (i.roles.map Role.toJson)))]

theorem toJson_eq (i : PatternTreeInfo) : i.toJson = .object (sparse i.record) := by
  rw [toJson, record, listField]
  cases i.user <;> cases i.roles.isEmpty <;> rfl

theorem decodeByte_byteToJson (medium : Medium) (b : UInt8) :
    decodeByte medium (byteToJson b) = .ok b := by
  rw [decodeByte, byteToJson, decodeBelow, if_pos b.toNat_lt]
  exact congrArg Except.ok (UInt8.ofNat_toNat)

theorem ofJson_toJson {i : PatternTreeInfo} (hi : i.Formed) :
    ofJson .document i.toJson = .ok i := by
  rw [toJson_eq]
  refine decodeRecord_sparse rfl (by decide) fun row hmedium hrow => ?_
  have hstatus : row.required "status" Status.ofJson = .value i.status :=
    Row.required_eq hrow (List.mem_of_getElem? (i := 0) rfl) (i.status.ofJson_toJson _)
  have htree : row.withDefault "pattern_tree" [] (decodeList decodeByte) = .value i.tree :=
    Row.withDefault_written hrow (List.mem_of_getElem? (i := 1) rfl)
      (decodeList_map fun b _ => decodeByte_byteToJson _ b)
  have huser : row.optional "user" User.ofJson = .value i.user :=
    optional_user hrow (List.mem_of_getElem? (i := 2) rfl)
      (hmedium ▸ Medium.admits_text (by decide)) hi.user
  have hroles : row.withDefault "roles" [] (decodeList Role.ofJson) = .value i.roles :=
    list_roles hrow (List.mem_of_getElem? (i := 3) rfl)
      (hmedium ▸ Medium.admits_text (by decide)) hi.roles
  rw [hstatus, htree, huser, hroles]
  rfl

theorem plain_toJson (i : PatternTreeInfo) : i.toJson.plain = true := by
  refine plain_object ?_
  simp only [List.forall_mem_append, List.forall_mem_cons]
  exact ⟨⟨⟨i.status.plain_toJson, plain_array fun _ _ => rfl, nofun⟩,
    plain_optionalField fun u _ => u.plain_toJson⟩, plain_listField fun r _ => r.plain_toJson⟩

end PatternTreeInfo

namespace Operation

variable {medium : Medium}

theorem held_written {field : String} (hfield : [field, "privilege", "target"].Nodup)
    (make : String → Privilege → Target → Operation) (name : String) (privilege : Privilege)
    (target : Target) :
    held field make medium (.object [(field, .string name), ("privilege", privilege.toJson),
      ("target", target.toJson)]) = .ok (make name privilege target) := by
  refine @decodeRecord_sparse _ _ _ _ [(field, some (.string name)),
    ("privilege", some privilege.toJson), ("target", some target.toJson)] _ rfl hfield
    fun row _ hrow => ?_
  have hname : row.required field decodeText = .value name :=
    Row.required_eq hrow List.mem_cons_self rfl
  have hprivilege : row.required "privilege" Privilege.ofJson = .value privilege :=
    Row.required_eq hrow (.tail _ List.mem_cons_self) (privilege.ofJson_toJson _)
  have htarget : row.required "target" Target.ofJson = .value target :=
    Row.required_eq hrow (.tail _ (.tail _ List.mem_cons_self)) (target.ofJson_toJson _)
  rw [hname, hprivilege, htarget]
  rfl

theorem granted_written {field : String}
    (hfield : [field, "privilege", "target", "grant_option"].Nodup)
    (make : String → Privilege → Target → Bool → Operation) (name : String) (privilege : Privilege)
    (target : Target) (option : Bool) :
    granted field make medium (.object [(field, .string name), ("privilege", privilege.toJson),
      ("target", target.toJson), ("grant_option", .bool option)]) =
      .ok (make name privilege target option) := by
  refine @decodeRecord_sparse _ _ _ _ [(field, some (.string name)),
    ("privilege", some privilege.toJson), ("target", some target.toJson),
    ("grant_option", some (.bool option))] _ rfl hfield fun row _ hrow => ?_
  have hname : row.required field decodeText = .value name :=
    Row.required_eq hrow (List.mem_of_getElem? (i := 0) rfl) rfl
  have hprivilege : row.required "privilege" Privilege.ofJson = .value privilege :=
    Row.required_eq hrow (List.mem_of_getElem? (i := 1) rfl) (privilege.ofJson_toJson _)
  have htarget : row.required "target" Target.ofJson = .value target :=
    Row.required_eq hrow (List.mem_of_getElem? (i := 2) rfl) (target.ofJson_toJson _)
  have hoption : row.withDefault "grant_option" false decodeBool = .value option :=
    Row.withDefault_written hrow (List.mem_of_getElem? (i := 3) rfl) rfl
  rw [hname, hprivilege, htarget, hoption]
  rfl

/-- Each operation is decoded by the decoder that its name stands for. -/
theorem exists_decoder (o : Operation) :
    ∃ decoder, decoder? o.name = some decoder ∧ decoder .aside (.object o.fields) = .ok o := by
  cases o with
  | createUser username password => exact ⟨_, rfl, decodeRecord_texts (by decide) ..⟩
  | dropUser username => exact ⟨_, rfl, decodeRecord_text ..⟩
  | updatePassword username password => exact ⟨_, rfl, decodeRecord_texts (by decide) ..⟩
  | createRole rolename => exact ⟨_, rfl, decodeRecord_text ..⟩
  | dropRole rolename => exact ⟨_, rfl, decodeRecord_text ..⟩
  | grantRoleToUser rolename username => exact ⟨_, rfl, decodeRecord_texts (by decide) ..⟩
  | revokeRoleFromUser rolename username => exact ⟨_, rfl, decodeRecord_texts (by decide) ..⟩
  | grantUser username privilege target option => exact ⟨_, rfl, granted_written (by decide) ..⟩
  | revokeUser username privilege target => exact ⟨_, rfl, held_written (by decide) ..⟩
  | revokeUserGrantOption username privilege target => exact ⟨_, rfl, held_written (by decide) ..⟩
  | grantRole rolename privilege target option => exact ⟨_, rfl, granted_written (by decide) ..⟩
  | revokeRole rolename privilege target => exact ⟨_, rfl, held_written (by decide) ..⟩
  | revokeRoleGrantOption rolename privilege target => exact ⟨_, rfl, held_written (by decide) ..⟩

theorem textual_fields (o : Operation) : ∀ f ∈ o.fields, f.1 ≠ "op" ∧ Textual 2 f.2 := by
  cases o <;> simp [fields, userGrantFields, roleGrantFields, Textual.string, Textual.bool,
    Privilege.toJson, Target.textual_toJson]

theorem ofJson_toJson (hmedium : medium.inner.Admits 2) (o : Operation) :
    ofJson medium o.toJson = .ok o := by
  obtain ⟨decoder, hdecoder, hfields⟩ := o.exists_decoder
  refine decodeTagged_object hdecoder (fun f hf => ?_) hfields
  obtain ⟨hname, htextual⟩ := o.textual_fields f hf
  exact ⟨hname, htextual.named, hmedium f.2 htextual⟩

theorem plain_toJson (o : Operation) : o.toJson.plain = true :=
  plain_object (List.forall_mem_cons.2 ⟨rfl, fun f hf => (o.textual_fields f hf).2.plain⟩)

end Operation

namespace Query

theorem ofJson_toJson (medium : Medium) (q : Query) : ofJson medium q.toJson = .ok q := by
  have hkeeps (text : String) : medium.inner.keeps (.string text) = true := by
    cases medium <;> rfl
  cases q with
  | listUsers => exact decodeTagged_object rfl nofun rfl
  | listRoles => exact decodeTagged_object rfl nofun rfl
  | listRolesOfUser username =>
    exact decodeTagged_object rfl (List.forall_mem_singleton.2 ⟨by simp, rfl, hkeeps username⟩)
      (decodeRecord_text ..)
  | listUsersOfRole rolename =>
    exact decodeTagged_object rfl (List.forall_mem_singleton.2 ⟨by simp, rfl, hkeeps rolename⟩)
      (decodeRecord_text ..)

theorem plain_toJson (q : Query) : q.toJson.plain = true := by cases q <;> rfl

end Query

namespace Config

structure InWords (c : Config) : Prop where
  heartbeat : c.heartbeatTimeoutMs < 18446744073709551616
  rpc : c.rpcTimeoutMs < 18446744073709551616
  workers : c.rpcWorkers < 18446744073709551616
  name : c.minNameLength < 18446744073709551616
  password : c.minPasswordLength < 18446744073709551616

def record (c : Config) : List (String × Option Json) :=
  [("admin_name", some (.string c.adminName)), ("admin_password", some (.string c.adminPassword)),
    ("heartbeat_timeout_ms", some (.natural c.heartbeatTimeoutMs)),
    ("rpc_timeout_ms", some (.natural c.rpcTimeoutMs)),
    ("rpc_workers", some (.natural c.rpcWorkers)), ("accept_cache", some (.bool c.acceptCache)),
    ("min_name_len", some (.natural c.minNameLength)),
    ("min_password_len", some (.natural c.minPasswordLength))]

theorem ofJson_toJson {c : Config} (hc : c.InWords) (medium : Medium) :
    ofJson medium c.toJson = .ok c := by
  have htoJson : c.toJson = .object (sparse c.record) := rfl
  rw [htoJson]
  refine decodeRecord_sparse rfl (by decide) fun row _ hrow => ?_
  have hadmin : row.withDefault "admin_name" standard.adminName decodeText = .value c.adminName :=
    Row.withDefault_written hrow (List.mem_of_getElem? (i := 0) rfl) rfl
  have hpassword : row.withDefault "admin_password" standard.adminPassword decodeText =
      .value c.adminPassword :=
    Row.withDefault_written hrow (List.mem_of_getElem? (i := 1) rfl) rfl
  have hheartbeat : row.withDefault "heartbeat_timeout_ms" standard.heartbeatTimeoutMs
      decodeCount = .value c.heartbeatTimeoutMs :=
    Row.withDefault_written hrow (List.mem_of_getElem? (i := 2) rfl)
      (decodeCount_natural hc.heartbeat)
  have hrpc : row.withDefault "rpc_timeout_ms" standard.rpcTimeoutMs decodeCount =
      .value c.rpcTimeoutMs :=
    Row.withDefault_written hrow (List.mem_of_getElem? (i := 3) rfl) (decodeCount_natural hc.rpc)
  have hworkers : row.withDefault "rpc_workers" standard.rpcWorkers decodeCount =
      .value c.rpcWorkers :=
    Row.withDefault_written hrow (List.mem_of_getElem? (i := 4) rfl)
      (decodeCount_natural hc.workers)
  have hcache : row.withDefault "accept_cache" standard.acceptCache decodeBool =
      .value c.acceptCache :=
    Row.withDefault_written hrow (List.mem_of_getElem? (i := 5) rfl) rfl
  have hname : row.withDefault "min_name_len" standard.minNameLength decodeCount =
      .value c.minNameLength :=
    Row.withDefault_written hrow (List.mem_of_getElem? (i := 6) rfl) (decodeCount_natural hc.name)
  have hlength : row.withDefault "min_password_len" standard.minPasswordLength decodeCount =
      .value c.minPasswordLength :=
    Row.withDefault_written hrow (List.mem_of_getElem? (i := 7) rfl)
      (decodeCount_natural hc.password)
  rw [parts, hadmin, hpassword, hheartbeat, hrpc, hworkers, hcache, hname, hlength]
  rfl

end Config

/-- Every message is read as it was written. -/
theorem messages_roundTrip :
    (∀ o, RoundTrips Operation.toJson Operation.ofJson o) ∧
      (∀ q, RoundTrips Query.toJson Query.ofJson q) ∧
      (∀ r, RoundTrips QueryResponse.toJson QueryResponse.ofJson r) ∧
      (∀ t, RoundTrips Target.toJson Target.ofJson t) ∧
      (∀ r, RoundTrips CheckRequest.toJson CheckRequest.ofJson r) ∧
      (∀ r, RoundTrips PrivilegeRequest.toJson PrivilegeRequest.ofJson r) ∧
      (∀ r, RoundTrips LoginRequest.toJson LoginRequest.ofJson r) ∧
      (∀ r, RoundTrips MembershipRequest.toJson MembershipRequest.ofJson r) ∧
      (∀ i : PermissionInfo, i.Formed → RoundTrips PermissionInfo.toJson PermissionInfo.ofJson i) ∧
      (∀ i : PatternTreeInfo, i.Formed →
        RoundTrips PatternTreeInfo.toJson PatternTreeInfo.ofJson i) ∧
      (∀ s, RoundTrips Status.toJson Status.ofJson s) ∧
      ∀ c : Config, c.InWords → RoundTrips Config.toJson Config.ofJson c := by
  have hdocument : Medium.document.inner.Admits 2 := Medium.admits_text (by decide)
  refine ⟨fun o => ?_, fun q => ?_, fun r => ?_, fun t => ?_, fun r => ?_, fun r => ?_,
    fun r => ?_, fun r => ?_, fun i hi => ?_, fun i hi => ?_, fun s => ?_, fun c hc => ?_⟩
  · exact roundTrips_of_plain o.plain_toJson (o.ofJson_toJson hdocument)
  · exact roundTrips_of_plain q.plain_toJson (q.ofJson_toJson _)
  · exact roundTrips_of_plain r.plain_toJson (r.ofJson_toJson _)
  · exact roundTrips_of_plain t.textual_toJson.plain (t.ofJson_toJson _)
  · exact roundTrips_of_plain r.plain_toJson (r.ofJson_toJson _)
  · exact roundTrips_of_plain r.plain_toJson (r.ofJson_toJson _)
  · exact roundTrips_of_plain rfl (r.ofJson_toJson _)
  · exact roundTrips_of_plain rfl (r.ofJson_toJson _)
  · exact roundTrips_of_plain i.plain_toJson (PermissionInfo.ofJson_toJson hi)
  · exact roundTrips_of_plain i.plain_toJson (PatternTreeInfo.ofJson_toJson hi)
  · exact roundTrips_of_plain s.plain_toJson (s.ofJson_toJson _)
  · exact roundTrips_of_plain rfl (Config.ofJson_toJson hc _)

/-- A refusal of two positions, the last of them the highest there is, that brings a user and a role
along; a tree of two bytes; an operation with a line break in a name; and the standard settings. -/
theorem answers_roundTrip :
    let sg := (Pattern.parse "root.sg.**").toOption.getD .everything
    let g := Grants.empty.after (.grant .readData (.path sg) true)
    let denied : Status := ⟨.noPermission, some "\"no\""⟩
    let info : PermissionInfo :=
      ⟨denied, some ⟨"ann", none, true, NameSet.ofNames ["r"], g⟩, [⟨"r", g⟩],
        [0, 18446744073709551615]⟩
    let tree : PatternTreeInfo := ⟨denied, [0, 255], none, [⟨"r", g⟩]⟩
    RoundTrips PermissionInfo.toJson PermissionInfo.ofJson info ∧
      RoundTrips PatternTreeInfo.toJson PatternTreeInfo.ofJson tree ∧
      RoundTrips Operation.toJson Operation.ofJson
        (.grantUser "a\nb" .select (.object "" (some "t")) false) ∧
      RoundTrips Config.toJson Config.ofJson .standard := by
  intro sg g denied info tree
  have hg : g.Built := Grants.Built.empty.after _
  have hroles : ∀ r ∈ [(⟨"r", g⟩ : Role)], r.grants.Built := List.forall_mem_singleton.2 hg
  have hinfo : info.Formed := {
    user := by
      rintro u hu
      obtain rfl := Option.some.inj hu
      exact hg
    roles := hroles
    positions := by decide }
  obtain ⟨hoperation, -, -, -, -, -, -, -, hinfos, htrees, -, hconfig⟩ := messages_roundTrip
  exact ⟨hinfos info hinfo, htrees tree ⟨nofun, hroles⟩, hoperation _,
    hconfig .standard (by constructor <;> decide)⟩

end Warden
