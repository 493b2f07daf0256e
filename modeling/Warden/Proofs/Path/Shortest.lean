import Mathlib.Data.List.Nodup
import Warden.Proofs.Path.Canonical

namespace Warden

/-- There is always one more name. -/
theorem PlainName.exists_fresh (texts : List String) : ∃ name, PlainName name ∧ name ∉ texts := by
  -- The name is longer than all of the texts together.
  let count := (texts.map String.toList).flatten.length
  refine ⟨String.ofList ('a' :: List.replicate count 'a'), ⟨?_, ?_, ?_, ?_⟩, fun hmem => ?_⟩
  · simp
  · rw [String.toList_ofList, ← List.replicate_succ]
    simp [List.mem_replicate]
  · exact fun h => absurd (String.ofList_injective h) (by simp)
  · exact fun h => absurd (String.ofList_injective h) (by simp)
  · have hsub := List.sublist_flatten_of_mem (List.mem_map_of_mem (f := String.toList) hmem)
    have hle := hsub.length_le
    rw [String.toList_ofList, List.length_cons, List.length_replicate] at hle
    exact Nat.not_succ_le_self _ hle

namespace Pattern

variable {p q : Pattern} {s : String} {segments level level' names stem : List String}

/-- Segments that stand for paths of one length: the names of a path, or `*`. -/
def Level (level : List String) : Prop := ∀ s ∈ level, s ≠ "" ∧ '.' ∉ s.toList ∧ s ≠ anyRest

theorem Level.inner (h : Level level) : flaw?.inner level = none := by
  induction level with
  | nil => rfl
  | cons s level ih =>
    obtain ⟨⟨hempty, -, hrest⟩, hlevel⟩ := List.forall_mem_cons.1 h
    exact inner_cons.2 ⟨hempty, fun hs => absurd hs hrest, ih hlevel⟩

theorem level_of_plain (h : ∀ name ∈ names, PlainName name) : Level names :=
  fun name hname => ⟨(h name hname).ne_empty, (h name hname).undotted, (h name hname).ne_anyRest⟩

theorem length_eq_of_covers (h : Level level) (h' : Level level')
    (hcovers : coversSegments level level' = true) : level.length = level'.length := by
  induction level generalizing level' with
  | nil =>
    cases level' with
    | nil => rfl
    | cons b bs => cases hcovers
  | cons a as ih =>
    obtain ⟨⟨-, -, ha⟩, has⟩ := List.forall_mem_cons.1 h
    cases level' with
    | nil => simp [coversSegments, ha] at hcovers
    | cons b bs =>
      obtain ⟨-, -, hcovers⟩ := (coversSegments_cons ha).1 hcovers
      rw [List.length_cons, List.length_cons, ih has (List.forall_mem_cons.1 h').2 hcovers]

/-- Covering is standing for, if the covered segments are names. -/
theorem stands_iff_covers (hsegments : flaw?.inner segments = none)
    (h : ∀ name ∈ names, PlainName name) :
    Stands segments names ↔ coversSegments segments names = true := by
  induction segments generalizing names with
  | nil =>
    cases names with
    | nil => exact iff_of_true .done rfl
    | cons name names => exact iff_of_false nofun nofun
  | cons a as ih =>
    obtain ⟨-, hlast, has⟩ := inner_cons.1 hsegments
    by_cases ha : a = anyRest
    · rw [ha, hlast ha]
      exact iff_of_true (.rest names) (by cases names <;> simp [coversSegments])
    · cases names with
      | nil => exact iff_of_false (not_stands_nil ha) (by simp [coversSegments, ha])
      | cons name names =>
        obtain ⟨hname, hnames⟩ := List.forall_mem_cons.1 h
        rw [stands_cons ha, coversSegments_cons ha, ih has hnames]
        exact ⟨fun hcovers => ⟨hname.ne_anyRest, hcovers⟩, And.right⟩

theorem matches_iff_covers {path : Path} :
    p.Matches path ↔ coversSegments p.segments path.names = true :=
  stands_iff_covers p.formed.inner path.plain

def spell (fresh : String) (level : List String) : List String :=
  level.map fun s => if s = anyName then fresh else s

theorem plain_spell {fresh : String} (hfresh : PlainName fresh) (h : Level level) :
    ∀ name ∈ spell fresh level, PlainName name := by
  intro name hname
  obtain ⟨s, hs, rfl⟩ := List.mem_map.1 hname
  obtain ⟨hempty, hdots, hrest⟩ := h s hs
  split
  · exact hfresh
  · rename_i hany
    exact ⟨hempty, hdots, hany, hrest⟩

theorem covers_spell {fresh : String} (hfresh : PlainName fresh) (h : Level level) :
    coversSegments level (spell fresh level) = true := by
  induction level with
  | nil => rfl
  | cons s level ih =>
    obtain ⟨⟨-, -, hrest⟩, hlevel⟩ := List.forall_mem_cons.1 h
    rw [spell, List.map_cons, coversSegments_cons hrest]
    by_cases hany : s = anyName
    · rw [if_pos hany]
      exact ⟨hfresh.ne_anyRest, .inl hany, ih hlevel⟩
    · rw [if_neg hany]
      exact ⟨hrest, .inr rfl, ih hlevel⟩

/-- Segments that do not have the name cover the spelled level only if they cover all of the level. -/
theorem covers_of_covers_spell {fresh : String} (hfresh : fresh ∉ segments) (h : Level level)
    (hcovers : coversSegments segments (spell fresh level) = true) :
    coversSegments segments level = true := by
  induction segments generalizing level with
  | nil =>
    cases level with
    | nil => rfl
    | cons s level => cases hcovers
  | cons a as ih =>
    by_cases ha : a = anyRest
    · cases level <;> simp [coversSegments, ha]
    cases level with
    | nil => simp [spell, coversSegments, ha] at hcovers
    | cons s level =>
      obtain ⟨⟨-, -, hrest⟩, hlevel⟩ := List.forall_mem_cons.1 h
      rw [List.mem_cons, not_or] at hfresh
      obtain ⟨-, hs, hcovers⟩ := (coversSegments_cons ha).1 hcovers
      refine (coversSegments_cons ha).2 ⟨hrest, ?_, ih hfresh.2 hlevel hcovers⟩
      rcases hs with hs | hs
      · exact .inl hs
      · dsimp only at hs
        split at hs
        · exact absurd hs.symm hfresh.1
        · exact .inr hs

/-- Segments for one length: the closing `**`, if there is one, drawn out to some number of `*`. -/
inductive Drawn : List String → List String → Prop
  | done : Drawn [] []
  | rest (count : Nat) : Drawn [anyRest] (List.replicate count anyName)
  | next {s : String} (hs : s ≠ anyRest) {segments level : List String} (h : Drawn segments level) :
      Drawn (s :: segments) (s :: level)

namespace Drawn

theorem level_of_segments (h : Drawn segments level)
    (hsegments : ∀ s ∈ segments, s ≠ "" ∧ '.' ∉ s.toList) : Level level := by
  induction h with
  | done => exact List.forall_mem_nil _
  | rest count =>
    intro s hs
    rw [List.eq_of_mem_replicate hs]
    decide
  | next hs h ih =>
    obtain ⟨hplain, hsegments⟩ := List.forall_mem_cons.1 hsegments
    exact List.forall_mem_cons.2 ⟨⟨hplain.1, hplain.2, hs⟩, ih hsegments⟩

theorem level_of (h : Drawn p.segments level) : Level level :=
  h.level_of_segments fun s hs => ⟨p.formed.ne_empty hs, p.formed.undotted s hs⟩

theorem covers (h : Drawn segments level) : coversSegments segments level = true := by
  induction h with
  | done => rfl
  | rest count => cases count <;> simp [coversSegments, List.replicate_succ]
  | next hs h ih => exact (coversSegments_cons hs).2 ⟨hs, .inr rfl, ih⟩

theorem eq_or (h : Drawn segments level) :
    segments = level ∨ ∃ stem count, segments = stem ++ [anyRest] ∧
      level = stem ++ List.replicate count anyName := by
  induction h with
  | done => exact .inl rfl
  | rest count => exact .inr ⟨[], count, rfl, rfl⟩
  | @next s hs segments level h ih =>
    rcases ih with rfl | ⟨stem, count, rfl, rfl⟩
    · exact .inl rfl
    · exact .inr ⟨s :: stem, count, rfl, rfl⟩

/-- For each length, segments are drawn out in one way. -/
theorem unique (h : Drawn segments level) (h' : Drawn segments level')
    (hlength : level.length = level'.length) : level = level' := by
  induction h generalizing level' with
  | done =>
    cases h'
    rfl
  | rest count =>
    cases h' with
    | rest count' => simpa using hlength
    | next hs => exact absurd rfl hs
  | next hs h ih =>
    cases h' with
    | rest count' => exact absurd rfl hs
    | next hs' h' => rw [ih h' (Nat.succ.inj hlength)]

/-- Only a closing `**` is drawn out to several lengths. -/
theorem of_lt (h : Drawn segments level) (h' : Drawn segments level')
    (hlt : level.length < level'.length) : ∃ stem count more, segments = stem ++ [anyRest] ∧
      level = stem ++ List.replicate count anyName ∧
      level' = level ++ List.replicate more anyName := by
  induction h generalizing level' with
  | done =>
    cases h'
    exact absurd hlt (Nat.lt_irrefl _)
  | rest count =>
    cases h' with
    | rest count' =>
      rw [List.length_replicate, List.length_replicate] at hlt
      refine ⟨[], count, count' - count, rfl, rfl, ?_⟩
      rw [List.replicate_append_replicate, Nat.add_sub_cancel' hlt.le]
    | next hs => exact absurd rfl hs
  | @next s hs segments level h ih =>
    cases h' with
    | rest count' => exact absurd rfl hs
    | next hs' h' =>
      obtain ⟨stem, count, more, rfl, rfl, rfl⟩ := ih h' (Nat.lt_of_succ_lt_succ hlt)
      exact ⟨s :: stem, count, more, rfl, rfl, rfl⟩

end Drawn

theorem covers_replicate (h : Level level) :
    coversSegments (List.replicate level.length anyName) level = true := by
  induction level with
  | nil => rfl
  | cons s level ih =>
    obtain ⟨⟨-, -, hrest⟩, hlevel⟩ := List.forall_mem_cons.1 h
    rw [List.length_cons, List.replicate_succ, coversSegments_cons (by decide)]
    exact ⟨hrest, .inl rfl, ih hlevel⟩

/-- What segments cover of one length, they cover when drawn out to that length. -/
theorem exists_drawn (hsegments : flaw?.inner segments = none) (h : Level level)
    (hcovers : coversSegments segments level = true) :
    ∃ drawn, Drawn segments drawn ∧ coversSegments drawn level = true := by
  induction segments generalizing level with
  | nil => exact ⟨[], .done, hcovers⟩
  | cons a as ih =>
    obtain ⟨-, hlast, has⟩ := inner_cons.1 hsegments
    by_cases ha : a = anyRest
    · rw [ha, hlast ha]
      exact ⟨_, .rest level.length, covers_replicate h⟩
    · cases level with
      | nil => simp [coversSegments, ha] at hcovers
      | cons s level =>
        obtain ⟨hs, hname, hcovers⟩ := (coversSegments_cons ha).1 hcovers
        obtain ⟨drawn, hdrawn, hcovers⟩ := ih has (List.forall_mem_cons.1 h).2 hcovers
        exact ⟨a :: drawn, .next ha hdrawn, (coversSegments_cons ha).2 ⟨hs, hname, hcovers⟩⟩

/-- Below a place there are the place itself and all that is below the places one step down. -/
theorem stands_append_rest (h : anyRest ∉ stem) : Stands (stem ++ [anyRest]) names ↔
    Stands stem names ∨ Stands (stem ++ [anyName, anyRest]) names := by
  induction stem generalizing names with
  | nil =>
    refine iff_of_true (.rest names) ?_
    cases names with
    | nil => exact .inl .done
    | cons name names => exact .inr (.any name (.rest names))
  | cons a stem ih =>
    rw [List.mem_cons, not_or] at h
    have ha : a ≠ anyRest := Ne.symm h.1
    cases names with
    | nil =>
      exact iff_of_false (not_stands_nil ha) (not_or.2 ⟨not_stands_nil ha, not_stands_nil ha⟩)
    | cons name names =>
      rw [List.cons_append, List.cons_append, stands_cons ha, stands_cons ha, stands_cons ha,
        ih h.2, and_or_left]

theorem covers_append_rest (stem rest : List String) :
    coversSegments (stem ++ [anyRest]) (stem ++ rest) = true := by
  induction stem with
  | nil => cases rest <;> simp [coversSegments]
  | cons a stem ih =>
    rw [List.cons_append, List.cons_append, coversSegments]
    by_cases ha : a = anyRest
    · rw [if_pos ha]
    · simp [ha, ih]

def Region (ps : List Pattern) (path : Path) : Prop := ∃ p ∈ ps, p.Matches path

def Shortest (ps : List Pattern) : Prop :=
  ∀ qs : List Pattern, (∀ path, Region qs path ↔ Region ps path) → ps.length ≤ qs.length

/-- Each path of the pattern is a path of another one of the list. -/
def Spare (ps : List Pattern) (p : Pattern) : Prop :=
  ∀ path, p.Matches path → ∃ q ∈ ps, q ≠ p ∧ q.Matches path

/-- The second pattern goes on after the first with wildcards alone, and all that begins as the first
pattern does is a path of the list. -/
structure Joins (ps : List Pattern) (p q : Pattern) : Prop where
  ne : p ≠ q
  longer : ∃ rest, (∀ s ∈ rest, s = anyName ∨ s = anyRest) ∧ q.segments = p.segments ++ rest
  whole : ∀ path : Path, Stands (p.segments ++ [anyRest]) path.names → Region ps path

variable {ps qs : List Pattern}

/-- A level is not made up of what several patterns cover of it. -/
theorem exists_covers_level (hsub : ∀ path, Region ps path → Region qs path) (hp : p ∈ ps)
    (h : Level level) (hcovers : coversSegments p.segments level = true) :
    ∃ q ∈ qs, coversSegments q.segments level = true := by
  obtain ⟨fresh, hfresh, hnew⟩ := PlainName.exists_fresh (qs.flatMap Pattern.segments)
  have hplain := plain_spell hfresh h
  have hstands : Stands p.segments (spell fresh level) :=
    (stands_iff_covers p.formed.inner hplain).2
      (coversSegments_trans hcovers (covers_spell hfresh h))
  let path : Path := ⟨spell fresh level, head?_of_stands hstands, hplain⟩
  obtain ⟨q, hq, hmatches⟩ := hsub path ⟨p, hp, hstands⟩
  refine ⟨q, hq, covers_of_covers_spell (fun hmem => hnew ?_) h (matches_iff_covers.1 hmatches)⟩
  exact List.mem_flatMap.2 ⟨q, hq, hmem⟩

structure Alone (ps : List Pattern) (p : Pattern) (level : List String) : Prop where
  drawn : Drawn p.segments level
  eq : ∀ q ∈ ps, coversSegments q.segments level = true → q = p

theorem exists_alone (h : ¬Spare ps p) : ∃ level, Alone ps p level := by
  simp only [Spare, not_forall] at h
  obtain ⟨path, hmatches, hothers⟩ := h
  obtain ⟨level, hdrawn, hcovers⟩ := exists_drawn p.formed.inner (level_of_plain path.plain)
    (matches_iff_covers.1 hmatches)
  refine ⟨level, hdrawn, fun q hq hlevel => Decidable.byContradiction fun hne => hothers ?_⟩
  exact ⟨q, hq, hne, matches_iff_covers.2 (coversSegments_trans hlevel hcovers)⟩

/-- Any list with the same paths has a pattern with the same level. -/
theorem Alone.exists_drawn (h : Alone ps p level) (hp : p ∈ ps)
    (hsame : ∀ path, Region qs path ↔ Region ps path) :
    ∃ q ∈ qs, Drawn q.segments level := by
  have hlevel := h.drawn.level_of
  obtain ⟨q, hq, hcovers⟩ :=
    exists_covers_level (fun path => (hsame path).2) hp hlevel h.drawn.covers
  obtain ⟨drawn, hdrawn, hbelow⟩ := Pattern.exists_drawn q.formed.inner hlevel hcovers
  have hdrawn' := hdrawn.level_of
  -- The list covers all of the level of `q`, and only by `p`, since no other pattern covers `level`.
  obtain ⟨x, hx, hxdrawn⟩ :=
    exists_covers_level (fun path => (hsame path).1) hq hdrawn' hdrawn.covers
  obtain rfl : x = p := h.eq x hx (coversSegments_trans hxdrawn hbelow)
  obtain ⟨again, hagain, habove⟩ := Pattern.exists_drawn x.formed.inner hdrawn' hxdrawn
  have hlength : again.length = level.length :=
    (length_eq_of_covers hagain.level_of hdrawn' habove).trans
      (length_eq_of_covers hdrawn' hlevel hbelow)
  rw [hagain.unique h.drawn hlength] at habove
  obtain rfl := coversSegments_antisymm hlevel.inner hdrawn'.inner habove hbelow
  exact ⟨q, hq, hdrawn⟩

/-- Two levels of one pattern belong to patterns that can be joined. -/
theorem Alone.joins (h : Alone ps p level) (h' : Alone ps q level') (hp : p ∈ ps) (hq : q ∈ ps)
    (hne : p ≠ q) {x : Pattern} (hx : Drawn x.segments level) (hx' : Drawn x.segments level')
    (hsub : ∀ path, x.Matches path → Region ps path) (hle : level.length ≤ level'.length) :
    Joins ps p q := by
  have hnot : coversSegments p.segments level' ≠ true := fun hcovers => hne (h'.eq p hp hcovers)
  have hnot' : coversSegments q.segments level ≠ true :=
    fun hcovers => hne (h.eq q hq hcovers).symm
  have hlt : level.length < level'.length := by
    refine Nat.lt_of_le_of_ne hle fun hlength => hnot ?_
    rw [← hx.unique hx' hlength]
    exact h.drawn.covers
  obtain ⟨stem, count, more, hstem, hlevel, rfl⟩ := hx.of_lt hx' hlt
  -- A `**` at the end of `p` would reach the longer level.
  have hp : p.segments = level := by
    refine h.drawn.eq_or.resolve_right ?_
    rintro ⟨stem, count, hstem, hlevel⟩
    rw [hstem, hlevel, List.append_assoc] at hnot
    exact hnot (covers_append_rest stem _)
  refine ⟨hne, ?_, fun path hstands => hsub path ?_⟩
  · rcases h'.drawn.eq_or with hq | ⟨stem, count, hq, hlevel'⟩
    · exact ⟨_, fun s hs => .inl (List.eq_of_mem_replicate hs), by rw [hq, hp]⟩
    · rcases List.append_eq_append_iff.1 hlevel' with ⟨rest, hstem, hmore⟩ | ⟨rest, hlevel, -⟩
      · refine ⟨rest ++ [anyRest], fun s hs => ?_, by rw [hq, hstem, hp, List.append_assoc]⟩
        rw [List.mem_append, List.mem_singleton] at hs
        refine hs.imp_left fun hs => List.eq_of_mem_replicate (n := more) ?_
        rw [hmore]
        exact List.mem_append_left _ hs
      · -- A `**` that begins within the shorter level would cover it.
        rw [hq, hlevel] at hnot'
        exact absurd (covers_append_rest stem rest) hnot'
  · refine stands_of_covers x.formed.inner ?_ hstands
    rw [hstem, hp, hlevel, List.append_assoc]
    exact covers_append_rest stem _

/-- A list is shortest if no pattern of it is spare and no two can be joined: the patterns of any other
list with the same paths are enough to give each pattern one of its own. -/
theorem shortest_of_lasting (hnodup : ps.Nodup) (hspare : ∀ p ∈ ps, ¬Spare ps p)
    (hjoins : ∀ p ∈ ps, ∀ q ∈ ps, ¬Joins ps p q) : Shortest ps := by
  intro qs hsame
  have hown (p : Pattern) (hp : p ∈ ps) :
      ∃ q ∈ qs, ∃ level, Alone ps p level ∧ Drawn q.segments level := by
    obtain ⟨level, halone⟩ := exists_alone (hspare p hp)
    obtain ⟨q, hq, hdrawn⟩ := halone.exists_drawn hp hsame
    exact ⟨q, hq, level, halone, hdrawn⟩
  choose! own hmem level halone hdrawn using hown
  have hinjective : ∀ p ∈ ps, ∀ q ∈ ps, own p = own q → p = q := by
    intro p hp q hq hown
    by_contra hne
    have hsub (x : Pattern) (hx : x ∈ ps) (path : Path) (hmatches : (own x).Matches path) :
        Region ps path := (hsame path).1 ⟨own x, hmem x hx, hmatches⟩
    rcases Nat.le_total (level p).length (level q).length with hle | hle
    · exact hjoins p hp q hq ((halone p hp).joins (halone q hq) hp hq hne (hdrawn p hp)
        (hown ▸ hdrawn q hq) (hsub p hp) hle)
    · exact hjoins q hq p hp ((halone q hq).joins (halone p hp) hq hp (Ne.symm hne) (hdrawn q hq)
        (hown ▸ hdrawn p hp) (hsub q hq) hle)
  have hsub : ps.map own ⊆ qs := by
    intro q hq
    obtain ⟨p, hp, rfl⟩ := List.mem_map.1 hq
    exact hmem p hp
  have hlength := (hnodup.map_on hinjective).length_le_of_subset hsub
  rwa [List.length_map] at hlength

theorem not_shortest_of_spare (hp : p ∈ ps) (h : Spare ps p) : ¬Shortest ps := by
  intro hshortest
  have hlength := hshortest (ps.erase p) fun path => by
    constructor
    · rintro ⟨q, hq, hmatches⟩
      exact ⟨q, List.mem_of_mem_erase hq, hmatches⟩
    · rintro ⟨q, hq, hmatches⟩
      by_cases hqp : q = p
      · obtain ⟨x, hx, hne, hmatches⟩ := h path (hqp ▸ hmatches)
        exact ⟨x, (List.mem_erase_of_ne hne).2 hx, hmatches⟩
      · exact ⟨q, (List.mem_erase_of_ne hqp).2 hq, hmatches⟩
  have hpos := List.length_pos_of_mem hp
  rw [List.length_erase_of_mem hp] at hlength
  omega

theorem inner_append_rest (h : flaw?.inner segments = none) (hnone : anyRest ∉ segments) :
    flaw?.inner (segments ++ [anyRest]) = none := by
  induction segments with
  | nil => rfl
  | cons s segments ih =>
    obtain ⟨hempty, -, hsegments⟩ := inner_cons.1 h
    rw [List.mem_cons, not_or] at hnone
    exact inner_cons.2 ⟨hempty, fun hs => absurd hs.symm hnone.1, ih hsegments hnone.2⟩

theorem formed_append_rest (h : Formed segments) (hnone : anyRest ∉ segments) :
    Formed (segments ++ [anyRest]) where
  sound := by
    have hhead : (segments ++ [anyRest]).head? = some "root" := by
      rw [List.head?_append, h.head]
      rfl
    have hne : segments ++ [anyRest] ≠ [""] := by
      intro heq
      rw [heq] at hhead
      exact absurd hhead (by decide)
    rw [flaw?, if_neg hne, if_neg (not_not_intro hhead), inner_append_rest h.inner hnone]
  undotted s hs := by
    rw [List.mem_append, List.mem_singleton] at hs
    rcases hs with hs | rfl
    · exact h.undotted s hs
    · decide
  trimmed s c hs hc := by
    obtain rfl : anyRest = s := by simpa using hs
    obtain rfl : '*' = c := by simpa [anyRest] using hc
    decide

/-- Nothing goes on after a `**`. -/
theorem eq_nil_of_inner (h : flaw?.inner (stem ++ anyRest :: segments) = none) : segments = [] := by
  induction stem with
  | nil => exact (inner_cons.1 h).2.1 rfl
  | cons s stem ih => exact ih (inner_cons.1 h).2.2

theorem Joins.notMem_rest (h : Joins ps p q) : anyRest ∉ p.segments := by
  obtain ⟨rest, -, hlonger⟩ := h.longer
  intro hmem
  obtain ⟨stem, after, hsegments⟩ := List.append_of_mem hmem
  have hinner := q.formed.inner
  rw [hlonger, hsegments, List.append_assoc, List.cons_append] at hinner
  obtain ⟨-, hrest⟩ := List.append_eq_nil_iff.1 (eq_nil_of_inner hinner)
  rw [hrest, List.append_nil] at hlonger
  exact h.ne (segments_injective hlonger.symm)

/-- Two patterns that can be joined are joined by a `**` after the first. -/
theorem not_shortest_of_joins (hp : p ∈ ps) (hq : q ∈ ps) (h : Joins ps p q) : ¬Shortest ps := by
  let joined : Pattern := ⟨p.segments ++ [anyRest], formed_append_rest p.formed h.notMem_rest⟩
  obtain ⟨rest, -, hlonger⟩ := h.longer
  have hjoined {x : Pattern} {after : List String} (hx : x.segments = p.segments ++ after)
      {path : Path} (hmatches : x.Matches path) : joined.Matches path := by
    refine stands_of_covers joined.formed.inner ?_ hmatches
    rw [hx]
    exact covers_append_rest p.segments after
  intro hshortest
  have hlength := hshortest (joined :: (ps.erase p).erase q) fun path => by
    constructor
    · rintro ⟨x, hx, hmatches⟩
      rcases List.mem_cons.1 hx with rfl | hx
      · exact h.whole path hmatches
      · exact ⟨x, List.mem_of_mem_erase (List.mem_of_mem_erase hx), hmatches⟩
    · rintro ⟨x, hx, hmatches⟩
      by_cases hxp : x = p
      · exact ⟨joined, List.mem_cons_self, hjoined (by rw [hxp, List.append_nil]) hmatches⟩
      by_cases hxq : x = q
      · exact ⟨joined, List.mem_cons_self, hjoined (hxq ▸ hlonger) hmatches⟩
      refine ⟨x, List.mem_cons_of_mem _ ?_, hmatches⟩
      rw [List.mem_erase_of_ne hxq, List.mem_erase_of_ne hxp]
      exact hx
  have hq' : q ∈ ps.erase p := (List.mem_erase_of_ne h.ne.symm).2 hq
  have hpos := List.length_pos_of_mem hq'
  have hlong := List.length_erase_of_mem hp
  rw [List.length_cons, List.length_erase_of_mem hq'] at hlength
  omega

end Pattern

namespace PatternTree

open Pattern

theorem Canonical.nodup {t : PatternTree} (ht : t.Canonical) : t.patterns.Nodup := by
  refine List.Pairwise.imp (fun {p q} happart => ?_) ht
  rintro rfl
  exact absurd happart (Std.Irrefl.irrefl p)

theorem region_ofList (ps : List Pattern) (path : Path) :
    Region (ofList ps).patterns path ↔ Region ps path := by
  constructor
  · rintro ⟨p, hp, hmatches⟩
    exact ⟨p, (mem_ofList.1 hp).1, hmatches⟩
  · rintro ⟨p, hp, hmatches⟩
    obtain ⟨x, hx, hxp⟩ := covers_iff.1 (covers_ofList.2 ⟨p, hp, covers_refl p⟩)
    exact ⟨x, hx, stands_of_covers x.formed.inner hxp hmatches⟩

/-- The tree of a list has the paths of the list. Its patterns are as few as can be unless one of them
is spare or two of them can be joined. -/
theorem ofList_shortest_iff (ps : List Pattern) :
    (∀ path, Region (ofList ps).patterns path ↔ Region ps path) ∧
      (Shortest (ofList ps).patterns ↔
        ¬((∃ p ∈ (ofList ps).patterns, Spare (ofList ps).patterns p) ∨
          ∃ p ∈ (ofList ps).patterns, ∃ q ∈ (ofList ps).patterns,
            Joins (ofList ps).patterns p q)) := by
  refine ⟨region_ofList ps, fun hshortest => ?_, fun hnone => ?_⟩
  · rintro (⟨p, hp, hspare⟩ | ⟨p, hp, q, hq, hjoins⟩)
    · exact not_shortest_of_spare hp hspare hshortest
    · exact not_shortest_of_joins hp hq hjoins hshortest
  · rw [not_or] at hnone
    refine shortest_of_lasting (canonical_ofList ps).nodup (fun p hp hspare => ?_)
      fun p hp q hq hjoins => ?_
    · exact hnone.1 ⟨p, hp, hspare⟩
    · exact hnone.2 ⟨p, hp, q, hq, hjoins⟩

/-- A place and all that is below it: the tree keeps two patterns, and one is enough. -/
theorem ofList_not_shortest :
    let pattern (text : String) := (Pattern.parse text).toOption.getD .everything
    let ps := [pattern "root.sg", pattern "root.sg.*.**"]
    (ofList ps).patterns = ps ∧
      (∀ path, Region [pattern "root.sg.**"] path ↔ Region (ofList ps).patterns path) ∧
      ¬Shortest (ofList ps).patterns := by
  intro pattern ps
  have hpatterns : (ofList ps).patterns = ps := by decide +kernel
  have hregion (path : Path) :
      Region [pattern "root.sg.**"] path ↔ Region (ofList ps).patterns path := by
    have hmatches (p : Pattern) : p.Matches path ↔ Stands p.segments path.names := Iff.rfl
    have hwhole : (pattern "root.sg.**").segments = ["root", "sg"] ++ [anyRest] := by rfl
    have hplace : (pattern "root.sg").segments = ["root", "sg"] := by rfl
    have hbelow : (pattern "root.sg.*.**").segments = ["root", "sg"] ++ [anyName, anyRest] := by rfl
    rw [hpatterns, Region, Region, List.exists_mem_cons_iff, List.exists_mem_cons_iff,
      List.exists_mem_cons_iff, hmatches, hmatches, hmatches, hwhole, hplace, hbelow,
      stands_append_rest (by decide)]
    simp
  refine ⟨hpatterns, hregion, fun hshortest => ?_⟩
  have hlength := hshortest _ hregion
  rw [hpatterns] at hlength
  exact absurd hlength (by decide)

end PatternTree

end Warden
