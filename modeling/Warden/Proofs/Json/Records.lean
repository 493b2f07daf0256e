import Mathlib.Data.List.Nodup
import Warden.Proofs.Json.Ensures
import Warden.Proofs.Json.RoundTrip

namespace Warden.Json

/-- Built from texts and truth values alone, and nested at most so deep. -/
inductive Textual : Nat → Json → Prop
  | string {depth : Nat} (text : String) : Textual depth (.string text)
  | bool {depth : Nat} (value : Bool) : Textual depth (.bool value)
  | array {depth : Nat} {items : List Json} (hitems : ∀ j ∈ items, Textual depth j) :
      Textual (depth + 1) (.array items)
  | object {depth : Nat} {fields : List (String × Json)}
      (hfields : ∀ f ∈ fields, Textual depth f.2) : Textual (depth + 1) (.object fields)

theorem plainItems_iff {items : List Json} :
    plainItems items = true ↔ ∀ j ∈ items, j.plain = true := by
  induction items with
  | nil => simp [plainItems]
  | cons j items ih => rw [plainItems, Bool.and_eq_true, ih, List.forall_mem_cons]

theorem plainFields_iff {fields : List (String × Json)} :
    plainFields fields = true ↔ ∀ f ∈ fields, f.2.plain = true := by
  induction fields with
  | nil => simp [plainFields]
  | cons f fields ih =>
    have hf : plainField f = f.2.plain := by cases f; rfl
    rw [plainFields, Bool.and_eq_true, ih, List.forall_mem_cons, hf]

theorem keepableItems_iff {room : Nat} {items : List Json} :
    keepableItems room items = true ↔ ∀ j ∈ items, keepable room j = true := by
  induction items with
  | nil => simp [keepableItems]
  | cons j items ih => rw [keepableItems, Bool.and_eq_true, ih, List.forall_mem_cons]

theorem keepableFields_iff {room : Nat} {fields : List (String × Json)} :
    keepableFields room fields = true ↔ ∀ f ∈ fields, keepable room f.2 = true := by
  induction fields with
  | nil => simp [keepableFields]
  | cons f fields ih =>
    have hf : keepableField room f = keepable room f.2 := by cases f; rfl
    rw [keepableFields, Bool.and_eq_true, ih, List.forall_mem_cons, hf]

namespace Textual

variable {depth : Nat} {j : Json}

theorem plain (h : Textual depth j) : j.plain = true := by
  induction h with
  | string text => rfl
  | bool value => rfl
  | array _ ih => exact plainItems_iff.2 ih
  | object _ ih => exact plainFields_iff.2 ih

theorem keepable (h : Textual depth j) {room : Nat} (hroom : depth ≤ room) :
    keepable room j = true := by
  induction h generalizing room with
  | string text => rfl
  | bool value => rfl
  | array _ ih =>
    rw [Json.keepable, Bool.and_eq_true, decide_eq_true_iff]
    exact ⟨by omega, keepableItems_iff.2 fun j hj => ih j hj (by omega)⟩
  | object _ ih =>
    rw [Json.keepable, Bool.and_eq_true, decide_eq_true_iff]
    exact ⟨by omega, keepableFields_iff.2 fun f hf => ih f hf (by omega)⟩

theorem named (h : Textual depth j) : Row.others.named j = true := by
  cases h <;> rfl

end Textual

namespace Medium

/-- Whatever is built from texts and nested at most so deep can be set aside here. -/
def Admits (medium : Medium) (depth : Nat) : Prop := ∀ j, Textual depth j → medium.keeps j = true

theorem admits_text {depth room : Nat} (h : depth ≤ room) : (text room).Admits depth :=
  fun _ hj => hj.keepable h

end Medium

theorem mapM_map {α β : Type} {encode : α → β} {decode : β → Except Fault α} {xs : List α}
    (h : ∀ x ∈ xs, decode (encode x) = .ok x) : (xs.map encode).mapM decode = .ok xs := by
  rw [mapM_eq_ok, List.map_map]
  exact List.map_congr_left h

theorem decodeList_map {α : Type} {encode : α → Json} {decoder : Decoder α} {medium : Medium}
    {xs : List α} (h : ∀ x ∈ xs, decoder medium.inner (encode x) = .ok x) :
    decodeList decoder medium (.array (xs.map encode)) = .ok xs := mapM_map h

theorem decodeMap_entries {α : Type} {encode : α → Json} {decoder : Decoder α} {medium : Medium}
    {m : KeyMap α} (h : ∀ e ∈ m.entries, decoder medium.inner (encode e.2) = .ok e.2) :
    decodeMap decoder medium (.object (m.entries.map fun e => (e.1, encode e.2))) = .ok m := by
  have hentries : (m.entries.map fun e => (e.1, encode e.2)).mapM
      (fun f => return (f.1, ← decoder medium.inner f.2) : String × Json → Except Fault _) =
      .ok m.entries := by
    refine mapM_map fun e he => ?_
    simp only [h e he, bind, Except.bind, pure, Except.pure]
  simp only [decodeMap]
  rw [hentries]
  exact congrArg Except.ok m.ofList_entries

def sparse (record : List (String × Option Json)) : List (String × Json) :=
  record.filterMap fun f => f.2.map (Prod.mk f.1)

theorem sparse_append (xs ys : List (String × Option Json)) :
    sparse (xs ++ ys) = sparse xs ++ sparse ys := List.filterMap_append ..

theorem mem_sparse {record : List (String × Option Json)} {name : String} {j : Json} :
    (name, j) ∈ sparse record ↔ (name, some j) ∈ record := by
  rw [sparse, List.mem_filterMap]
  constructor
  · rintro ⟨⟨name', j?⟩, hmem, hf⟩
    obtain ⟨j', hj, heq⟩ := Option.map_eq_some_iff.1 hf
    dsimp only at hj heq
    obtain ⟨rfl, rfl⟩ := Prod.mk.inj heq
    rw [← hj]
    exact hmem
  · intro hmem
    exact ⟨(name, some j), hmem, rfl⟩

theorem filter_sparse (record : List (String × Option Json)) (test : String → Bool) :
    (sparse record).filter (fun f => test f.1) = sparse (record.filter fun f => test f.1) := by
  rw [sparse, sparse, List.filter_filterMap, List.filterMap_filter]
  refine List.filterMap_congr fun f _ => ?_
  obtain ⟨name, j⟩ := f
  cases htest : test name <;> cases j <;> simp [htest]

namespace Row

variable {α : Type} {record : List (String × Option Json)} {row : Row} {name : String}
  {decoder : Decoder α} {a : α}

structure Writes (row : Row) (record : List (String × Option Json)) : Prop where
  fields : row.fields = sparse record
  nodup : (record.map Prod.fst).Nodup

theorem places_of_notMem {fields : List (String × Json)} {start : Nat}
    (h : ∀ f ∈ fields, f.1 ≠ name) : (fields.zipIdx start).filterMap (fun (field, place) =>
      if field.1 = name then some (place, field.2) else none) = [] := by
  rw [List.filterMap_eq_nil_iff]
  rintro ⟨f, place⟩ hmem
  exact if_neg (h f (List.fst_mem_of_mem_zipIdx hmem))

theorem places_written (h : row.Writes record) {j : Json} (hmem : (name, some j) ∈ record) :
    ∃ place, row.places name = [(place, j)] := by
  obtain ⟨before, after, rfl⟩ := List.append_of_mem hmem
  have hnodup := h.nodup
  rw [List.map_append, List.map_cons, List.nodup_append, List.nodup_cons] at hnodup
  obtain ⟨-, ⟨hafter, -⟩, hbefore⟩ := hnodup
  have hfields : row.fields = sparse before ++ (name, j) :: sparse after := by
    rw [h.fields, sparse_append]
    rfl
  refine ⟨(sparse before).length, ?_⟩
  rw [places, hfields, List.zipIdx_append, List.filterMap_append, List.zipIdx_cons,
    places_of_notMem, List.filterMap_cons, places_of_notMem, Nat.zero_add]
  · dsimp only
    rw [if_pos rfl]
    rfl
  · rintro ⟨other, j'⟩ hf rfl
    have hwritten : (other, some j') ∈ after := mem_sparse.1 hf
    exact hafter (List.mem_map.2 ⟨_, hwritten, rfl⟩)
  · rintro ⟨other, j'⟩ hf rfl
    have hwritten : (other, some j') ∈ before := mem_sparse.1 hf
    exact hbefore other (List.mem_map.2 ⟨_, hwritten, rfl⟩) other List.mem_cons_self rfl

theorem places_unwritten (h : row.Writes record) (hmem : (name, none) ∈ record) :
    row.places name = [] := by
  rw [places, h.fields]
  refine places_of_notMem ?_
  rintro ⟨other, j⟩ hf rfl
  have hsame := List.inj_on_of_nodup_map h.nodup (mem_sparse.1 hf) hmem rfl
  cases hsame

/-- What is read of a field. -/
theorem field?_eq (h : row.Writes record) {j? : Option Json} (hmem : (name, j?) ∈ record)
    (hj : ∀ j, j? = some j → decoder row.medium j = .ok a) :
    row.field? name decoder = .value (j?.map fun _ => a) := by
  cases j? with
  | none =>
    rw [field?, once, places_unwritten h hmem]
    rfl
  | some j =>
    obtain ⟨place, hplaces⟩ := places_written h hmem
    rw [field?, once, hplaces]
    dsimp only
    rw [hj j rfl]
    rfl

theorem required_eq (h : row.Writes record) {j : Json} (hmem : (name, some j) ∈ record)
    (hj : decoder row.medium j = .ok a) : row.required name decoder = .value a := by
  have hfield : row.field? name decoder = .value (some a) :=
    field?_eq h hmem fun j' hj' => by cases hj'; exact hj
  rw [required, hfield]

theorem withDefault_eq (h : row.Writes record) {j? : Option Json} (hmem : (name, j?) ∈ record)
    {default : α} (hnone : j? = none → a = default)
    (hj : ∀ j, j? = some j → decoder row.medium j = .ok a) :
    row.withDefault name default decoder = .value a := by
  rw [withDefault, field?_eq h hmem hj]
  cases j? with
  | none => rw [hnone rfl]; rfl
  | some j => rfl

/-- A field that is always written. -/
theorem withDefault_written (h : row.Writes record) {j : Json} (hmem : (name, some j) ∈ record)
    {default : α} (hj : decoder row.medium j = .ok a) :
    row.withDefault name default decoder = .value a := by
  refine withDefault_eq h hmem nofun fun j' hj' => ?_
  obtain rfl := Option.some.inj hj'
  exact hj

/-- A field that is left out where there is no value. -/
theorem optional_eq (h : row.Writes record) {a? : Option α} {encode : α → Json}
    (hmem : (name, a?.map encode) ∈ record)
    (hj : ∀ a, a? = some a → encode a ≠ .null ∧ decoder row.medium (encode a) = .ok a) :
    row.optional name decoder = .value a? := by
  refine withDefault_eq h hmem Option.map_eq_none_iff.1 fun j hwritten => ?_
  obtain ⟨a, rfl, rfl⟩ := Option.map_eq_some_iff.1 hwritten
  obtain ⟨hnull, hdecode⟩ := hj a rfl
  rw [decodeOptional, hdecode]
  · rfl
  · exact hnull

/-- A field that is left out where a list is empty. -/
theorem list_eq (h : row.Writes record) {items : List α} {encode : α → Json}
    (hmem : (name, if items.isEmpty then none else some (.array (items.map encode))) ∈ record)
    (hj : ∀ a ∈ items, decoder row.medium.inner (encode a) = .ok a) :
    row.withDefault name [] (decodeList decoder) = .value items := by
  refine withDefault_eq h hmem (fun hnone => ?_) fun j hwritten => ?_
  · split at hnone
    · exact List.isEmpty_iff.1 ‹_›
    · cases hnone
  · split at hwritten
    · cases hwritten
    · obtain rfl := Option.some.inj hwritten
      exact decodeList_map hj

theorem others_eq {names : List String} {test : Json → Bool}
    (h : ∀ f ∈ row.fields, f.1 ∈ names ∨ others.named f.2 = true ∧ test f.2 = true) :
    row.others names test = .value () := by
  have hnone : row.fields.zipIdx.find? (fun (field, _) =>
      !names.contains field.1 && !(others.named field.2 && test field.2)) = none := by
    rw [List.find?_eq_none]
    rintro ⟨f, place⟩ hmem
    rcases h f (List.fst_mem_of_mem_zipIdx hmem) with hname | ⟨hnamed, htest⟩
    · simp [hname]
    · simp [hnamed, htest]
  rw [others, hnone]

end Row

theorem decodeRecord_object {α : Type} {names : List String} {build : Row → Reading α}
    {medium : Medium} {fields : List (String × Json)} {a : α}
    (hbuild : build ⟨medium.inner, fields⟩ = .value a) (hnames : ∀ f ∈ fields, f.1 ∈ names) :
    decodeRecord names build medium (.object fields) = .ok a := by
  have hothers : Row.othersPass ⟨medium.inner, fields⟩ names = .value () :=
    Row.others_eq fun f hf => .inl (hnames f hf)
  rw [decodeRecord, hbuild, hothers]
  rfl

/-- A record that is written under the names under which it is read. -/
theorem decodeRecord_sparse {α : Type} {names : List String} {build : Row → Reading α}
    {medium : Medium} {record : List (String × Option Json)} {a : α}
    (hnames : record.map Prod.fst = names) (hnodup : names.Nodup)
    (hbuild : ∀ row : Row, row.medium = medium.inner → row.Writes record → build row = .value a) :
    decodeRecord names build medium (.object (sparse record)) = .ok a := by
  refine decodeRecord_object (hbuild _ rfl ⟨rfl, hnames ▸ hnodup⟩) ?_
  rintro ⟨name, j⟩ hf
  rw [← hnames]
  exact List.mem_map_of_mem (mem_sparse.1 hf)

/-- A record whose kind stands in front. -/
theorem decodeTagged_object {α : Type} {tag kind : String}
    {decoder? : String → Option (Decoder α)} {decoder : Decoder α} {medium : Medium}
    {fields : List (String × Json)} {a : α} (hkind : decoder? kind = some decoder)
    (hfields : ∀ f ∈ fields, f.1 ≠ tag ∧ Row.others.named f.2 = true ∧
      medium.inner.keeps f.2 = true)
    (h : decoder .aside (.object fields) = .ok a) :
    decodeTagged tag decoder? medium (.object ((tag, .string kind) :: fields)) = .ok a := by
  have hplaces : Row.places ⟨medium.inner, (tag, .string kind) :: fields⟩ tag =
      [(0, .string kind)] := by
    rw [Row.places, List.zipIdx_cons, List.filterMap_cons,
      Row.places_of_notMem fun f hf => (hfields f hf).1]
    dsimp only
    rw [if_pos rfl]
  have hdecode : decodeTagged.kind decoder? medium.inner (.string kind) = .ok decoder := by
    change known (decoder? kind) = .ok decoder
    rw [hkind]
    rfl
  have hrequired : Row.required ⟨medium.inner, (tag, .string kind) :: fields⟩ tag
      (decodeTagged.kind decoder?) = .value decoder := by
    rw [Row.required, Row.field?, Row.once, hplaces]
    dsimp only
    rw [hdecode]
    rfl
  have hothers : Row.othersKeep ⟨medium.inner, (tag, .string kind) :: fields⟩ [tag] = .value () :=
    Row.others_eq (List.forall_mem_cons.2
      ⟨.inl List.mem_cons_self, fun f hf => .inr (hfields f hf).2⟩)
  have hrest : ((tag, .string kind) :: fields).filter (fun f => f.1 ≠ tag) = fields := by
    rw [List.filter_cons_of_neg (by simp)]
    exact List.filter_eq_self.2 fun f hf => decide_eq_true (hfields f hf).1
  rw [decodeTagged, hrequired, hothers]
  change decoder .aside (.object _) = .ok a
  rw [hrest, h]

theorem decodeSpread_object {α β : Type} {names : List String} {build : Row → Reading α}
    {spread : Row → Reading β} {medium : Medium} {fields : List (String × Json)} {a : α} {b : β}
    (hbuild : build ⟨medium.inner, fields⟩ = .value a)
    (hkeeps : ∀ f ∈ fields, f.1 ∈ names ∨
      Row.others.named f.2 = true ∧ medium.inner.keeps f.2 = true)
    (hspread : spread ⟨.aside, fields.filter fun f => !names.contains f.1⟩ = .value b) :
    decodeSpread names build spread medium (.object fields) = .ok (a, b) := by
  have hothers : Row.othersKeep ⟨medium.inner, fields⟩ names = .value () :=
    Row.others_eq hkeeps
  rw [decodeSpread, hbuild, hothers, hspread]
  rfl

end Warden.Json
