import Mathlib.Data.List.DropRight
import Mathlib.Data.List.TakeDrop
import Warden.Json.Record
import Warden.Json.Writer

namespace Warden.Json

theorem skip_append {blanks : List Char} (h : ∀ c ∈ blanks, isSpace c = true) (cs : List Char) :
    skip (blanks ++ cs) = skip cs := by
  induction blanks with
  | nil => rfl
  | cons c blanks ih =>
    obtain ⟨hc, hblanks⟩ := List.forall_mem_cons.1 h
    rw [List.cons_append, skip, List.dropWhile_cons_of_pos hc]
    exact ih hblanks

theorem skip_cons {c : Char} (h : isSpace c = false) (cs : List Char) : skip (c :: cs) = c :: cs :=
  List.dropWhile_cons_of_neg (Bool.eq_false_iff.1 h)

theorem skip_idem (cs : List Char) : skip (skip cs) = skip cs := by
  rw [skip, skip, List.dropWhile_idempotent]

theorem readValue_skip (fuel : Nat) (cs : List Char) :
    readValue fuel (skip cs) = readValue fuel cs := by
  cases fuel with
  | zero => rfl
  | succ fuel => rw [readValue, readValue, skip_idem]

theorem readFields_append {blanks : List Char} (h : ∀ c ∈ blanks, isSpace c = true) (fuel : Nat)
    (cs : List Char) : readFields fuel (blanks ++ cs) = readFields fuel cs := by
  cases fuel with
  | zero => rfl
  | succ fuel => rw [readFields, readFields, skip_append h]

theorem readValue_append {blanks : List Char} (h : ∀ c ∈ blanks, isSpace c = true) (fuel : Nat)
    (cs : List Char) : readValue fuel (blanks ++ cs) = readValue fuel cs := by
  rw [← readValue_skip fuel (blanks ++ cs), skip_append h, readValue_skip]

def Stops (rest : List Char) : Prop :=
  ∀ c, rest.head? = some c → c.isDigit = false ∧ c ≠ '.' ∧ c ≠ 'e' ∧ c ≠ 'E'

theorem stops_nil : Stops [] := nofun

theorem value_toDigits (n : Nat) : Numeral.value (Nat.toDigits 10 n) = n :=
  Nat.ofDigitChars_toDigits (by decide) (by decide)

theorem spanDigits_append {ds rest : List Char} (hds : ∀ c ∈ ds, c.isDigit = true)
    (hrest : Stops rest) : spanDigits (ds ++ rest) = (ds, rest) := by
  have hdrop : rest.takeWhile Char.isDigit = [] ∧ rest.dropWhile Char.isDigit = rest := by
    cases rest with
    | nil => exact ⟨rfl, rfl⟩
    | cons c rest => simp [(hrest c rfl).1]
  rw [spanDigits, List.span_eq_takeWhile_dropWhile, List.takeWhile_append_of_pos hds,
    List.dropWhile_append_of_pos hds, hdrop.1, hdrop.2, List.append_nil]

/-- A number is written without a zero in front. -/
theorem head?_toDigits (n : Nat) (h : (Nat.toDigits 10 n).head? = some '0') :
    Nat.toDigits 10 n = ['0'] := by
  induction n using Nat.strongRecOn with
  | ind n ih =>
    by_cases hn : n < 10
    · rw [Nat.toDigits_of_lt_base hn] at h ⊢
      rw [List.head?_singleton, Option.some.injEq] at h
      rw [h]
    · have hle : 10 ≤ n := Nat.not_lt.1 hn
      rw [Nat.toDigits_of_base_le (by decide) hle,
        List.head?_append_of_ne_nil _ Nat.toDigits_ne_nil] at h
      -- The front digits would be a lone zero, but then the number has one digit.
      have hzero := ih (n / 10) (by omega) h
      have hvalue := value_toDigits (n / 10)
      rw [hzero] at hvalue
      have : n / 10 = 0 := hvalue.symm
      omega

theorem readNumber_toDigits (n : Nat) {rest : List Char} (hrest : Stops rest) :
    readNumber (Nat.toDigits 10 n ++ rest) = (.natural n, rest) := by
  have hdigits : ∀ c ∈ Nat.toDigits 10 n, c.isDigit = true :=
    fun c hc => Nat.isDigit_of_mem_toDigits (by decide) (by decide) hc
  -- A digit is no minus sign, and what stops a number begins no fraction and no exponent.
  have hsign : readSign (Nat.toDigits 10 n ++ rest) = (false, Nat.toDigits 10 n ++ rest) := by
    rw [readSign]
    intro cs heq
    cases hd : Nat.toDigits 10 n with
    | nil => exact absurd hd Nat.toDigits_ne_nil
    | cons d ds =>
      rw [hd, List.cons_append] at heq
      obtain ⟨rfl, -⟩ := List.cons.inj heq
      have hminus := hdigits '-' (by rw [hd]; exact List.mem_cons_self)
      cases hminus
  have hfraction : readFraction rest = some ([], rest) := by
    rw [readFraction]
    rintro cs rfl
    exact (hrest '.' rfl).2.1 rfl
  have hexponent : readExponent rest = some (none, rest) := by
    rw [readExponent]
    · rintro cs rfl
      exact (hrest 'e' rfl).2.2.1 rfl
    · rintro cs rfl
      exact (hrest 'E' rfl).2.2.2 rfl
  have hwhole : ¬ (Nat.toDigits 10 n = [] ∨
      (Nat.toDigits 10 n).head? = some '0' ∧ Nat.toDigits 10 n ≠ ['0']) := by
    rintro (hnil | ⟨hzero, hne⟩)
    · exact Nat.toDigits_ne_nil hnil
    · exact hne (head?_toDigits n hzero)
  simp only [readNumber, hsign, spanDigits_append hdigits hrest, if_neg hwhole, hfraction, hexponent,
    numberOf, value_toDigits, and_self, if_true]

def Piece.before (c : Char) : Option (List Piece × List Char) → Option (List Piece × List Char) :=
  Option.map fun x => (.char c :: x.1, x.2)

theorem scan_plain {c : Char} (hquote : c ≠ '"') (hslash : c ≠ '\\') (hc : ¬ c.toNat < 0x20)
    (rest : List Char) : scan (c :: rest) = Piece.before c (scan rest) := by
  rw [scan, if_neg hc]
  · cases scan rest <;> rfl
  · exact hquote
  · intro _ _ _ _ _ h
    exact absurd h hslash
  · intro _ _ h
    exact absurd h hslash

theorem scan_short {c d : Char} (hd : d ≠ 'u') (h : unescape? d = some c) (rest : List Char) :
    scan ('\\' :: d :: rest) = Piece.before c (scan rest) := by
  rw [scan, h]
  · cases scan rest <;> rfl
  · intro _ _ _ _ _ heq
    exact absurd heq hd

theorem hexUnit?_control : ∀ n < 0x20,
    hexUnit? '0' '0' (Nat.digitChar (n / 16)) (Nat.digitChar (n % 16)) = some n := by
  decide

theorem ofUnit_control {n : Nat} (hn : n < 0x20) : Piece.ofUnit n = .char (Char.ofNat n) := by
  have hhigh : isHigh n = false := by
    rw [isHigh, Bool.and_eq_false_iff]
    exact .inl (decide_eq_false (by omega))
  have hlow : isLow n = false := by
    rw [isLow, Bool.and_eq_false_iff]
    exact .inl (decide_eq_false (by omega))
  simp [Piece.ofUnit, hhigh, hlow]

theorem scan_control {c : Char} (hc : c.toNat < 0x20) (rest : List Char) :
    scan ('\\' :: 'u' :: '0' :: '0' :: Nat.digitChar (c.toNat / 16) ::
      Nat.digitChar (c.toNat % 16) :: rest) = Piece.before c (scan rest) := by
  rw [scan, hexUnit?_control c.toNat hc]
  rw [Option.bind_eq_bind, Option.bind_some, ofUnit_control hc, Char.ofNat_toNat]
  cases scan rest <;> rfl

theorem scan_escapeChar (c : Char) (rest : List Char) :
    scan (escapeChar c ++ rest) = Piece.before c (scan rest) := by
  by_cases hquote : c = '"'
  · subst hquote
    exact scan_short (by decide) (by decide) rest
  by_cases hslash : c = '\\'
  · subst hslash
    exact scan_short (by decide) (by decide) rest
  by_cases hback : c = '\x08'
  · subst hback
    exact scan_short (by decide) (by decide) rest
  by_cases htab : c = '\t'
  · subst htab
    exact scan_short (by decide) (by decide) rest
  by_cases hline : c = '\n'
  · subst hline
    exact scan_short (by decide) (by decide) rest
  by_cases hfeed : c = '\x0c'
  · subst hfeed
    exact scan_short (by decide) (by decide) rest
  by_cases hreturn : c = '\r'
  · subst hreturn
    exact scan_short (by decide) (by decide) rest
  rw [escapeChar, if_neg hquote, if_neg hslash, if_neg hback, if_neg htab, if_neg hline,
    if_neg hfeed, if_neg hreturn]
  by_cases hc : c.toNat < 0x20
  · rw [if_pos hc]
    exact scan_control hc rest
  · rw [if_neg hc]
    exact scan_plain hquote hslash hc rest

theorem scan_escaped (cs rest : List Char) :
    scan (cs.flatMap escapeChar ++ '"' :: rest) = some (cs.map .char, rest) := by
  induction cs with
  | nil => simp [scan]
  | cons c cs ih =>
    rw [List.flatMap_cons, List.append_assoc, scan_escapeChar, ih]
    rfl

theorem joinHalves_chars (cs : List Char) : joinHalves (cs.map .char) = some cs := by
  induction cs with
  | nil => rfl
  | cons c cs ih =>
    rw [List.map_cons, joinHalves, ih]
    rfl

/-- The text inside of quotes, and what stands after it. -/
theorem readString_escaped (text : String) (rest : List Char) :
    readString (text.toList.flatMap escapeChar ++ '"' :: rest) = some (some text, rest) := by
  rw [readString, scan_escaped]
  simp [joinHalves_chars]

mutual

/-- Every part of the value has a text that tells it from all others. -/
def plain : Json → Bool
  | .null | .bool _ | .natural _ | .string _ => true
  | .array items => plainItems items
  | .object fields => plainFields fields
  | .number _ | .unpaired | .misnamed _ | .broken => false
termination_by structural j => j

def plainItems : List Json → Bool
  | [] => true
  | j :: js => plain j && plainItems js
termination_by structural js => js

def plainFields : List (String × Json) → Bool
  | [] => true
  | f :: fs => plainField f && plainFields fs
termination_by structural fs => fs

def plainField : String × Json → Bool
  | (_, j) => plain j
termination_by structural f => f

end

structure Layout.Blank (layout : Layout) : Prop where
  gap : ∀ depth, ∀ c ∈ layout.gap depth, isSpace c = true
  afterColon : ∀ c ∈ layout.afterColon, isSpace c = true

theorem blank_compact : compact.Blank where
  gap := nofun
  afterColon := nofun

theorem blank_indented : indented.Blank where
  gap depth c hc := by
    rcases List.mem_cons.1 hc with rfl | hc
    · rfl
    · rw [(List.mem_replicate.1 hc).2]
      rfl
  afterColon c hc := by
    rw [List.mem_singleton.1 hc]
    rfl

theorem stops_cons {c : Char} (hc : c.isDigit = false ∧ c ≠ '.' ∧ c ≠ 'e' ∧ c ≠ 'E')
    (rest : List Char) : Stops (c :: rest) := by
  intro d hd
  obtain rfl : c = d := Option.some.inj hd
  exact hc

theorem stops_append {blanks : List Char} (h : ∀ c ∈ blanks, isSpace c = true) {rest : List Char}
    (hrest : Stops rest) : Stops (blanks ++ rest) := by
  cases blanks with
  | nil => exact hrest
  | cons c blanks =>
    have hc := h c List.mem_cons_self
    simp only [isSpace, Bool.or_eq_true, decide_eq_true_eq] at hc
    rcases hc with ((rfl | rfl) | rfl) | rfl <;> exact stops_cons (by decide) _

variable {layout : Layout}

/-- A value does not begin like a blank or like the end of a list. -/
theorem write_head {j : Json} (hj : j.plain = true) (layout : Layout) (depth : Nat) :
    ∃ c cs, write layout depth j = c :: cs ∧ isSpace c = false ∧ c ≠ ']' ∧ c ≠ '\x7d' := by
  cases j with
  | null => exact ⟨'n', _, rfl, by decide⟩
  | bool value => cases value <;> exact ⟨_, _, rfl, by decide⟩
  | natural n =>
    cases hd : Nat.toDigits 10 n with
    | nil => exact absurd hd Nat.toDigits_ne_nil
    | cons d ds =>
      have hdigit : d.isDigit = true :=
        Nat.isDigit_of_mem_toDigits (by decide) (by decide) (hd ▸ List.mem_cons_self)
      refine ⟨d, ds, hd, ?_, ?_, ?_⟩
      · rw [Bool.eq_false_iff]
        intro hspace
        simp only [isSpace, Bool.or_eq_true, decide_eq_true_eq] at hspace
        rcases hspace with ((rfl | rfl) | rfl) | rfl <;> cases hdigit
      · rintro rfl
        cases hdigit
      · rintro rfl
        cases hdigit
  | string text => exact ⟨'"', _, rfl, by decide⟩
  | array items => cases items <;> exact ⟨'[', _, rfl, by decide⟩
  | object fields => cases fields <;> exact ⟨'\x7b', _, rfl, by decide⟩
  | number n => cases hj
  | unpaired => cases hj
  | misnamed value => cases hj
  | broken => cases hj

theorem skip_write {j : Json} (hj : j.plain = true) (layout : Layout) (depth : Nat)
    (rest : List Char) : skip (write layout depth j ++ rest) = write layout depth j ++ rest := by
  obtain ⟨c, cs, hwrite, hc, -⟩ := write_head hj layout depth
  rw [hwrite, List.cons_append, skip_cons hc]

theorem stops_writeItems (hl : layout.Blank) (depth close : Nat) (items : List Json)
    (rest : List Char) :
    Stops (writeItems layout depth items ++ (layout.gap close ++ ']' :: rest)) := by
  cases items with
  | nil =>
    exact stops_append (hl.gap close) (stops_cons (by decide) rest)
  | cons item items => exact stops_cons (by decide) _

theorem stops_writeFields (hl : layout.Blank) (depth close : Nat) (fields : List (String × Json))
    (rest : List Char) :
    Stops (writeFields layout depth fields ++ (layout.gap close ++ '\x7d' :: rest)) := by
  cases fields with
  | nil =>
    exact stops_append (hl.gap close) (stops_cons (by decide) rest)
  | cons field fields => exact stops_cons (by decide) _

theorem readValue_natural (fuel n : Nat) {rest : List Char} (hrest : Stops rest) :
    readValue (fuel + 1) (Nat.toDigits 10 n ++ rest) = (.natural n, rest) := by
  have hskip := skip_write (j := .natural n) rfl compact 0 rest
  rw [write_natural] at hskip
  rw [readValue, hskip]
  cases hd : Nat.toDigits 10 n with
  | nil => exact absurd hd Nat.toDigits_ne_nil
  | cons d ds =>
    have hdigit : d.isDigit = true :=
      Nat.isDigit_of_mem_toDigits (by decide) (by decide) (hd ▸ List.mem_cons_self)
    have hread := readNumber_toDigits n hrest
    rw [hd] at hread
    -- Only the last case of the reader begins with a digit.
    split
    case h_7 => exact hread
    all_goals
      rename_i heq
      obtain ⟨rfl, -⟩ := List.cons.inj heq
      cases hdigit

theorem readValue_string (fuel : Nat) (text : String) (rest : List Char) :
    readValue (fuel + 1) (quote text ++ rest) = (.string text, rest) := by
  have hcs : quote text ++ rest = '"' :: (text.toList.flatMap escapeChar ++ '"' :: rest) := by
    simp [quote]
  rw [hcs, readValue, skip_cons (by decide)]
  simp only [readString_escaped]

theorem readValue_array {fuel : Nat} {cs : List Char} {items : List Json} {rest : List Char}
    (hcs : ∀ cs', skip cs ≠ ']' :: cs') (h : readItems fuel (skip cs) = (items, rest)) :
    readValue (fuel + 1) ('[' :: cs) = (.array items, rest) := by
  simp only [readValue, skip_cons (show isSpace '[' = false by decide)]
  rw [h]

theorem readValue_object {fuel : Nat} {cs : List Char} {fields : List (String × Json)}
    {rest : List Char} (hcs : ∀ cs', skip cs ≠ '\x7d' :: cs')
    (h : readFields fuel (skip cs) = (fields, rest)) :
    readValue (fuel + 1) ('\x7b' :: cs) = (.object fields, rest) := by
  simp only [readValue, skip_cons (show isSpace '\x7b' = false by decide)]
  rw [h]

/-- The last item of an array. -/
theorem readItems_last {fuel : Nat} {cs tail : List Char} {item : Json} {rest : List Char}
    (h : readValue fuel cs = (item, tail)) (htail : skip tail = ']' :: rest) :
    readItems (fuel + 1) cs = ([item], rest) := by
  rw [readItems, h]
  simp only [htail]

theorem readItems_more {fuel : Nat} {cs tail : List Char} {item : Json} {items : List Json}
    {rest : List Char} (h : readValue fuel cs = (item, ',' :: tail))
    (hitems : readItems fuel tail = (items, rest)) :
    readItems (fuel + 1) cs = (item :: items, rest) := by
  rw [readItems, h]
  simp only [skip_cons (show isSpace ',' = false by decide), hitems]

theorem readFields_last {fuel : Nat} (name : String) {cs tail : List Char} {value : Json}
    {rest : List Char} (h : readValue fuel cs = (value, tail)) (htail : skip tail = '\x7d' :: rest) :
    readFields (fuel + 1) (quote name ++ ':' :: cs) = ([(name, value)], rest) := by
  have hcs : quote name ++ ':' :: cs =
      '"' :: (name.toList.flatMap escapeChar ++ '"' :: ':' :: cs) := by simp [quote]
  rw [hcs, readFields, skip_cons (by decide)]
  simp only [readString_escaped, skip_cons (show isSpace ':' = false by decide), h, htail]
  rfl

theorem readFields_more {fuel : Nat} (name : String) {cs tail : List Char} {value : Json}
    {fields : List (String × Json)} {rest : List Char}
    (h : readValue fuel cs = (value, ',' :: tail)) (hfields : readFields fuel tail = (fields, rest)) :
    readFields (fuel + 1) (quote name ++ ':' :: cs) = ((name, value) :: fields, rest) := by
  have hcs : quote name ++ ':' :: cs =
      '"' :: (name.toList.flatMap escapeChar ++ '"' :: ':' :: cs) := by simp [quote]
  rw [hcs, readFields, skip_cons (by decide)]
  simp only [readString_escaped, skip_cons (show isSpace ':' = false by decide), h,
    skip_cons (show isSpace ',' = false by decide), hfields]
  rfl

mutual

/-- With two steps for each character, a value is read from its text. -/
theorem readValue_write (hl : layout.Blank) (j : Json) (hj : j.plain = true) (depth fuel : Nat)
    (rest : List Char) (hfuel : 2 * (write layout depth j).length ≤ fuel) (hrest : Stops rest) :
    readValue fuel (write layout depth j ++ rest) = (j, rest) := by
  -- No value has an empty text, so there is a step to take.
  obtain ⟨fuel, rfl⟩ : ∃ n, fuel = n + 1 := by
    obtain ⟨c, cs, hwrite, -⟩ := write_head hj layout depth
    rw [hwrite, List.length_cons] at hfuel
    exact ⟨fuel - 1, by omega⟩
  cases j with
  | null => rfl
  | bool value => cases value <;> rfl
  | natural n => exact readValue_natural fuel n hrest
  | string text => exact readValue_string fuel text rest
  | array items =>
    cases items with
    | nil => rfl
    | cons item items =>
      obtain ⟨hitem, hitems⟩ := (Bool.and_eq_true _ _).mp hj
      rw [write_array] at hfuel ⊢
      simp only [List.cons_append, List.append_assoc, List.nil_append, List.length_cons,
        List.length_append, List.length_nil] at hfuel ⊢
      have hskip (cs : List Char) : skip (layout.gap (depth + 1) ++
          (write layout (depth + 1) item ++ cs)) = write layout (depth + 1) item ++ cs := by
        rw [skip_append (hl.gap (depth + 1)), skip_write hitem]
      refine readValue_array (fun cs => ?_) ?_
      · obtain ⟨c, cs', hwrite, -, hc, -⟩ := write_head hitem layout (depth + 1)
        rw [hskip, hwrite]
        exact fun h => hc (List.cons.inj h).1
      · rw [hskip]
        obtain ⟨fuel, rfl⟩ : ∃ n, fuel = n + 1 := ⟨fuel - 1, by omega⟩
        refine readItems_write hl items hitems (depth + 1) depth fuel rest (by omega) ?_
        exact readValue_write hl item hitem (depth + 1) fuel _ (by omega)
          (stops_writeItems hl (depth + 1) depth items rest)
  | object fields =>
    cases fields with
    | nil => rfl
    | cons field fields =>
      obtain ⟨name, value⟩ := field
      obtain ⟨hvalue, hfields⟩ := (Bool.and_eq_true _ _).mp hj
      rw [write_object] at hfuel ⊢
      simp only [List.cons_append, List.append_assoc, List.nil_append, List.length_cons,
        List.length_append, List.length_nil] at hfuel ⊢
      have hskip (cs : List Char) :
          skip (layout.gap (depth + 1) ++ (quote name ++ cs)) = quote name ++ cs := by
        rw [skip_append (hl.gap (depth + 1))]
        exact skip_cons (by decide) _
      refine readValue_object (fun cs => ?_) ?_
      · rw [hskip]
        exact fun h => absurd (List.cons.inj h).1 (by decide)
      · rw [hskip]
        obtain ⟨fuel, rfl⟩ : ∃ n, fuel = n + 1 := ⟨fuel - 1, by omega⟩
        refine readFields_write hl fields hfields (depth + 1) depth fuel rest (by omega) ?_
        rw [readValue_append hl.afterColon]
        exact readValue_write hl value hvalue (depth + 1) fuel _ (by omega)
          (stops_writeFields hl (depth + 1) depth fields rest)
  | number n => cases hj
  | unpaired => cases hj
  | misnamed value => cases hj
  | broken => cases hj

/-- The items after one that is read, up to the end of their array. -/
theorem readItems_write (hl : layout.Blank) (items : List Json) (hitems : plainItems items = true)
    (depth close fuel : Nat) (rest : List Char)
    (hfuel : 2 * (writeItems layout depth items).length ≤ fuel) {cs : List Char} {item : Json}
    (hitem : readValue fuel cs =
      (item, writeItems layout depth items ++ (layout.gap close ++ ']' :: rest))) :
    readItems (fuel + 1) cs = (item :: items, rest) := by
  cases items with
  | nil =>
    refine readItems_last hitem ?_
    rw [writeItems_nil, List.nil_append, skip_append (hl.gap close), skip_cons (by decide)]
  | cons next items =>
    obtain ⟨hnext, hitems⟩ := (Bool.and_eq_true _ _).mp hitems
    rw [writeItems_cons] at hfuel hitem
    simp only [List.cons_append, List.append_assoc, List.length_cons, List.length_append] at hfuel hitem
    obtain ⟨fuel, rfl⟩ : ∃ n, fuel = n + 1 := ⟨fuel - 1, by omega⟩
    refine readItems_more hitem ?_
    refine readItems_write hl items hitems depth close fuel rest (by omega) ?_
    rw [readValue_append (hl.gap depth)]
    exact readValue_write hl next hnext depth fuel _ (by omega)
      (stops_writeItems hl depth close items rest)

/-- The fields after the name of one, up to the end of their object. -/
theorem readFields_write (hl : layout.Blank) (fields : List (String × Json))
    (hfields : plainFields fields = true) (depth close fuel : Nat) (rest : List Char)
    (hfuel : 2 * (writeFields layout depth fields).length ≤ fuel) {cs : List Char} {name : String}
    {value : Json} (hvalue : readValue fuel cs =
      (value, writeFields layout depth fields ++ (layout.gap close ++ '\x7d' :: rest))) :
    readFields (fuel + 1) (quote name ++ ':' :: cs) = ((name, value) :: fields, rest) := by
  cases fields with
  | nil =>
    refine readFields_last name hvalue ?_
    rw [writeFields_nil, List.nil_append, skip_append (hl.gap close), skip_cons (by decide)]
  | cons field fields =>
    obtain ⟨key, next⟩ := field
    obtain ⟨hnext, hfields⟩ := (Bool.and_eq_true _ _).mp hfields
    rw [writeFields_cons] at hfuel hvalue
    simp only [List.cons_append, List.append_assoc, List.length_cons, List.length_append]
      at hfuel hvalue
    obtain ⟨fuel, rfl⟩ : ∃ n, fuel = n + 1 := ⟨fuel - 1, by omega⟩
    refine readFields_more name hvalue ?_
    rw [readFields_append (hl.gap depth)]
    refine readFields_write hl fields hfields depth close fuel rest (by omega) ?_
    rw [readValue_append hl.afterColon]
    exact readValue_write hl next hnext depth fuel _ (by omega)
      (stops_writeFields hl depth close fields rest)

end

/-- The text of a value is a clean document of the value. -/
theorem read_text (hl : layout.Blank) {j : Json} (hj : j.plain = true) :
    read (j.text layout).toList = ⟨j, true⟩ := by
  rw [text, String.toList_ofList, read]
  have hread := readValue_write hl j hj 0 (2 * (write layout 0 j).length + 2) [] (by omega) stops_nil
  rw [List.append_nil] at hread
  rw [hread]
  rfl

theorem decodeChars_text {α : Type} (decoder : Decoder α) (hl : layout.Blank) {j : Json}
    (hj : j.plain = true) : decodeChars decoder (j.text layout).toList = decode decoder j := by
  rw [decodeChars, read_text hl hj]
  cases decode decoder j <;> rfl

structure RoundTrips {α : Type} (encode : α → Json) (decoder : Decoder α) (a : α) : Prop where
  line : decodeChars decoder ((encode a).text compact).toList = .ok a
  indented : decodeChars decoder ((encode a).text indented).toList = .ok a

theorem roundTrips_of_plain {α : Type} {encode : α → Json} {decoder : Decoder α} {a : α}
    (hplain : (encode a).plain = true) (h : decoder .document (encode a) = .ok a) :
    RoundTrips encode decoder a where
  line := (decodeChars_text decoder blank_compact hplain).trans h
  indented := (decodeChars_text decoder blank_indented hplain).trans h

end Warden.Json
