/-
  How dates and times are spelled.

  A text is decided on twice, by an outline and by a reader that makes numbers of its fields, and
  neither says what the text looks like.  Here every part has a spelling, given by a rule that reads
  nothing: `Digits n`, `DateText`, `TimeText`, `FractionText`, `OffsetText`, and `DateTimeText`,
  which puts them together.  A day is told by the rules of the calendar (`GregorianDay`).

  1. **The crux: a reader has no freedom in an outline.**  The free reader passes white space, takes
     short fields and signs; but the outline has told already that as many digits of some script
     stand here (`Decimals`), and white space and signs are no digits.  A field that is taken short
     stops before a digit, where the mark that has to follow does not stand.  So wherever reading
     goes on, the field was taken whole, and it is one of ASCII digits (`TakesDigits`).

  2. Hence each of the four ways to read three fields takes exactly the spelled fields
     (`ReadsFields`), strict or free, of a date or of a time.

  3. What follows the seconds is read to its end, with nothing left (`exists_of_readFraction`,
     `isOffset_iff`).  The free reader takes the texts without a distance from universal time and
     the strict one those with it, so together they take all spellings (`isDateTime_iff`).

  Facts about dates and times are from here on facts about spellings: which characters they have
  (`isCalendarChar`), how they start, how long they are.
-/
import SampleSchema.Calendar

namespace SampleSchema

/-! ## Digits of all scripts -/

theorem isDecimal_of_isDigit {c : Char} (h : c.isDigit = true) : isDecimal c = true := by
  obtain ⟨hlow, hhigh⟩ := Char.isDigit_iff_toNat.mp h
  refine List.any_eq_true.mpr ⟨0x30, List.mem_cons_self, ?_⟩
  rw [Bool.and_eq_true, decide_eq_true_eq, decide_eq_true_eq]
  exact ⟨hlow, hhigh⟩

/-- White space lies apart from the digits of every script. -/
theorem isWhiteSpace_of_isDecimal {c : Char} (h : isDecimal c = true) :
    isWhiteSpace c = false := by
  have hapart : ∀ z ∈ decimalZeros, ∀ r ∈ whiteSpace, r.2 < z ∨ z + 9 < r.1 := by decide +kernel
  obtain ⟨z, hz, hc⟩ := List.any_eq_true.mp h
  rw [Bool.and_eq_true, decide_eq_true_eq, decide_eq_true_eq] at hc
  refine List.any_eq_false.mpr fun r hr hspace => ?_
  rw [Bool.and_eq_true, decide_eq_true_eq, decide_eq_true_eq] at hspace
  have := hapart z hz r hr
  omega

namespace Calendar

/-! ## The spellings -/

/-- As many ASCII digits. -/
structure Digits (n : Nat) (ds : List Char) : Prop where
  length : ds.length = n
  digit : ∀ c ∈ ds, c.isDigit = true

/-- As many digits, of any script. -/
structure Decimals (n : Nat) (ds : List Char) : Prop where
  length : ds.length = n
  decimal : ∀ c ∈ ds, isDecimal c = true

/-- A day of the Gregorian calendar, which is extended back to the year zero. -/
structure GregorianDay (year month day : Nat) : Prop where
  january : 1 ≤ month
  december : month ≤ 12
  first : 1 ≤ day
  last : day ≤ 31
  short : month = 4 ∨ month = 6 ∨ month = 9 ∨ month = 11 → day ≤ 30
  february : month = 2 → day ≤ 29
  /-- The 29th of February comes in every fourth year, but of the full centuries only in every
      fourth one. -/
  leap : month = 2 → day = 29 → 4 ∣ year ∧ (100 ∣ year → 400 ∣ year)

/-- A day that exists. -/
inductive DateText : List Char → Prop where
  | intro {year month day : List Char} (hyear : Digits 4 year) (hmonth : Digits 2 month)
      (hday : Digits 2 day)
      (exists_day : GregorianDay (decimalValue year) (decimalValue month) (decimalValue day)) :
      DateText (year ++ '-' :: (month ++ '-' :: day))

/-- Hours, minutes and seconds. -/
inductive TimeText : List Char → Prop where
  | intro {hour minute second : List Char} (hhour : Digits 2 hour) (hminute : Digits 2 minute)
      (hsecond : Digits 2 second) (hours : decimalValue hour ≤ 23)
      (minutes : decimalValue minute ≤ 59) (seconds : decimalValue second ≤ 60) :
      TimeText (hour ++ ':' :: (minute ++ ':' :: second))

/-- A fraction of a second, or nothing. -/
inductive FractionText : List Char → Prop where
  | none : FractionText []
  | digits {ds : List Char} (hne : ds ≠ []) (digit : ∀ c ∈ ds, c.isDigit = true) :
      FractionText ('.' :: ds)

/-- The distance from universal time, or nothing. -/
inductive OffsetText : List Char → Prop where
  | none : OffsetText []
  | zero {c : Char} (h : c = 'Z' ∨ c = 'z') : OffsetText [c]
  | distance {sign : Char} {hour minute : List Char} (hsign : isSign sign = true)
      (hhour : Digits 2 hour) (hminute : Digits 2 minute) (hours : decimalValue hour ≤ 23)
      (minutes : decimalValue minute ≤ 59) : OffsetText (sign :: (hour ++ ':' :: minute))

/-- A date with a time. -/
inductive DateTimeText : List Char → Prop where
  | intro {date time fraction offset : List Char} (hdate : DateText date) (htime : TimeText time)
      (hfraction : FractionText fraction) (hoffset : OffsetText offset) :
      DateTimeText (date ++ 'T' :: (time ++ (fraction ++ offset)))

/-! ## Days -/

theorem isLeapYear_iff {year : Nat} :
    isLeapYear year = true ↔ 4 ∣ year ∧ (100 ∣ year → 400 ∣ year) := by
  unfold isLeapYear
  simp only [Bool.and_eq_true, Bool.or_eq_true, decide_eq_true_eq]
  omega

theorem daysInMonth_of_no_month {year : Int} {month : Nat} (h : ¬ (1 ≤ month ∧ month ≤ 12)) :
    daysInMonth year month = 0 := by
  unfold daysInMonth
  split <;> first | rfl | omega

/-- The months have as many days as the calendar says. -/
theorem le_daysInMonth_iff {year month day : Nat} :
    1 ≤ day ∧ day ≤ daysInMonth year month ↔ GregorianDay year month day := by
  have hday : GregorianDay year month day ↔ 1 ≤ month ∧ month ≤ 12 ∧ 1 ≤ day ∧ day ≤ 31 ∧
      (month = 4 ∨ month = 6 ∨ month = 9 ∨ month = 11 → day ≤ 30) ∧ (month = 2 → day ≤ 29) ∧
      (month = 2 → day = 29 → isLeapYear year = true) := by
    rw [isLeapYear_iff]
    exact ⟨fun h => ⟨h.1, h.2, h.3, h.4, h.5, h.6, h.7⟩,
      fun ⟨h₁, h₂, h₃, h₄, h₅, h₆, h₇⟩ => ⟨h₁, h₂, h₃, h₄, h₅, h₆, h₇⟩⟩
  rw [hday]
  by_cases hmonth : 1 ≤ month ∧ month ≤ 12
  · have htable : month = 1 ∨ month = 2 ∨ month = 3 ∨ month = 4 ∨ month = 5 ∨ month = 6 ∨
        month = 7 ∨ month = 8 ∨ month = 9 ∨ month = 10 ∨ month = 11 ∨ month = 12 := by omega
    unfold daysInMonth
    rcases htable with rfl | rfl | rfl | rfl | rfl | rfl | rfl | rfl | rfl | rfl | rfl | rfl <;>
      cases isLeapYear year <;> simp <;> omega
  · rw [daysInMonth_of_no_month hmonth]
    omega

theorem isDay_iff {year month day : Nat} (hyear : year ≤ 9999) :
    isDay year month day = true ↔ GregorianDay year month day := by
  have hknown : firstYear ≤ (year : Int) ∧ (year : Int) ≤ lastYear := by
    unfold firstYear lastYear
    omega
  rw [isDay, decide_eq_true_eq, ← le_daysInMonth_iff]
  exact ⟨fun h => h.2.2, fun h => ⟨hknown.1, hknown.2, h⟩⟩

/-- Four digits spell no number above 9999. -/
theorem Digits.year_le {ds : List Char} (h : Digits 4 ds) : decimalValue ds ≤ 9999 := by
  match ds, h with
  | [a, b, c, d], h =>
    have ha := digitValue_le (h.digit a (by simp))
    have hb := digitValue_le (h.digit b (by simp))
    have hc := digitValue_le (h.digit c (by simp))
    have hd := digitValue_le (h.digit d (by simp))
    show 10 * (10 * (10 * (10 * 0 + digitValue a) + digitValue b) + digitValue c) + digitValue d ≤ _
    omega
  | [], h | [_], h | [_, _], h | [_, _, _], h | _ :: _ :: _ :: _ :: _ :: _, h =>
    have hlength := h.length
    simp at hlength

/-! ## Outlines -/

theorem Digits.decimals {n : Nat} {ds : List Char} (h : Digits n ds) : Decimals n ds :=
  ⟨h.length, fun c hc => isDecimal_of_isDigit (h.digit c hc)⟩

theorem readOutline_append (ps qs : List Place) : ∀ cs : List Char,
    readOutline (ps ++ qs) cs = (readOutline ps cs).bind (readOutline qs) := by
  induction ps with
  | nil => intro cs; rfl
  | cons p ps ih =>
    intro cs
    cases cs with
    | nil => rfl
    | cons c cs =>
      rw [List.cons_append, readOutline, readOutline, ih]
      split <;> rfl

theorem readOutline_digits_iff {n : Nat} {cs rest : List Char} :
    readOutline (List.replicate n .digit) cs = some rest ↔
      ∃ ds, Decimals n ds ∧ cs = ds ++ rest := by
  induction n generalizing cs with
  | zero =>
    rw [List.replicate_zero, readOutline, Option.some_inj]
    constructor
    · rintro rfl
      exact ⟨[], ⟨rfl, nofun⟩, rfl⟩
    · rintro ⟨ds, hds, rfl⟩
      rw [List.eq_nil_of_length_eq_zero hds.length]
      rfl
  | succ n ih =>
    rw [List.replicate_succ]
    cases cs with
    | nil =>
      refine iff_of_false nofun ?_
      rintro ⟨ds, hds, hnil⟩
      rw [(List.append_eq_nil_iff.mp hnil.symm).1] at hds
      cases hds.length
    | cons c cs =>
      rw [readOutline, Option.ite_none_right_eq_some, ih]
      constructor
      · rintro ⟨hc, ds, hds, rfl⟩
        refine ⟨c :: ds, ⟨congrArg (· + 1) hds.length, ?_⟩, rfl⟩
        exact List.forall_mem_cons.mpr ⟨hc, hds.decimal⟩
      · rintro ⟨ds, hds, hcs⟩
        cases ds with
        | nil => cases hds.length
        | cons d ds =>
          cases hcs
          obtain ⟨hc, hrest⟩ := List.forall_mem_cons.mp hds.decimal
          exact ⟨hc, ds, ⟨Nat.succ.inj hds.length, hrest⟩, rfl⟩

theorem readOutline_mark_iff {m : Char} {ps : List Place} {cs rest : List Char} :
    readOutline (.mark m :: ps) cs = some rest ↔
      ∃ tail, cs = m :: tail ∧ readOutline ps tail = some rest := by
  cases cs with
  | nil => exact iff_of_false nofun (by rintro ⟨_, h, _⟩; cases h)
  | cons c cs =>
    rw [readOutline, Option.ite_none_right_eq_some]
    show decide (c = m) = true ∧ _ ↔ _
    rw [decide_eq_true_eq]
    constructor
    · rintro ⟨rfl, h⟩
      exact ⟨cs, rfl, h⟩
    · rintro ⟨tail, hcs, h⟩
      cases hcs
      exact ⟨rfl, h⟩

/-- An outline of fields is followed by a text that has as many digits in them. -/
theorem readOutline_fields_iff {n : Nat} {m : Char} {cs rest : List Char} :
    readOutline (fieldsOutline n m) cs = some rest ↔
      ∃ x y z, Decimals n x ∧ Decimals 2 y ∧ Decimals 2 z ∧
        cs = x ++ m :: (y ++ m :: (z ++ rest)) := by
  unfold fieldsOutline
  simp only [readOutline_append, Option.bind_eq_some_iff, readOutline_digits_iff,
    readOutline_mark_iff]
  constructor
  · rintro ⟨_, ⟨x, hx, rfl⟩, _, rfl, _, ⟨y, hy, rfl⟩, _, rfl, z, hz, rfl⟩
    exact ⟨x, y, z, hx, hy, hz, rfl⟩
  · rintro ⟨x, y, z, hx, hy, hz, rfl⟩
    exact ⟨_, ⟨x, hx, rfl⟩, _, rfl, _, ⟨y, hy, rfl⟩, _, rfl, z, hz, rfl⟩

/-! ## Fields inside an outline -/

/-- What is left goes on with no digit, of whatever script. -/
def Undigital (cs : List Char) : Prop := ∀ c ∈ cs.head?, isDecimal c = false

/-- Where `n` digits stand, of any script, the reader takes a number only if they are ASCII digits,
    and then all of them; unless it stops before a digit. -/
structure TakesDigits {α : Type} (n : Nat) (r : List Char → Option (α × List Char))
    (value : Nat → α) : Prop where
  digits : ∀ {ds} (rest : List Char), Digits n ds →
    r (ds ++ rest) = some (value (decimalValue ds), rest)
  whole : ∀ {ds cs v rest}, Decimals n ds → r (ds ++ cs) = some (v, rest) → Undigital rest →
    Digits n ds ∧ v = value (decimalValue ds) ∧ rest = cs

theorem readNumber_takes {least n : Nat} (h : least ≤ n) :
    TakesDigits n (readNumber least n) id where
  digits := by
    intro ds rest hds
    have hall : ds.takeWhile Char.isDigit = ds := by
      have hfront : (ds ++ []).takeWhile Char.isDigit = ds ++ [].takeWhile Char.isDigit :=
        List.takeWhile_append_of_pos hds.digit
      rwa [List.append_nil, List.takeWhile_nil, List.append_nil] at hfront
    have htaken : ((ds ++ rest).take n).takeWhile Char.isDigit = ds := by
      rw [← hds.length, List.take_left, hall]
    rw [readNumber, htaken, hds.length, if_pos h, ← hds.length, List.drop_left]
    rfl
  whole := by
    intro ds cs v rest hds hread hrest
    have htaken : ((ds ++ cs).take n).takeWhile Char.isDigit = ds.takeWhile Char.isDigit := by
      rw [← hds.length, List.take_left]
    have hparts := (List.takeWhile_append_dropWhile (p := Char.isDigit) (l := ds)).symm
    have hfront : ∀ c ∈ ds.takeWhile Char.isDigit, c.isDigit = true :=
      List.all_eq_true.mp List.all_takeWhile
    rw [readNumber, htaken, Option.ite_none_right_eq_some, Option.some_inj, Prod.mk.injEq] at hread
    obtain ⟨_, rfl, hleft⟩ := hread
    generalize ds.takeWhile Char.isDigit = front, ds.dropWhile Char.isDigit = left
      at hparts hfront hleft
    subst hparts
    rw [List.append_assoc, List.drop_left] at hleft
    subst hleft
    cases left with
    | nil =>
      rw [List.append_nil] at hds ⊢
      exact ⟨⟨hds.length, hfront⟩, rfl, rfl⟩
    | cons c left =>
      -- a digit of the outline would be left
      have hno : isDecimal c = false := hrest c rfl
      rw [hds.decimal c (List.mem_append_right _ List.mem_cons_self)] at hno
      cases hno

/-- A number of a fixed length is spelled by the digits at the start. -/
theorem exists_of_readNumber {n v : Nat} {cs rest : List Char}
    (h : readNumber n n cs = some (v, rest)) :
    ∃ ds, Digits n ds ∧ cs = ds ++ rest ∧ v = decimalValue ds := by
  have hdigit : ∀ c ∈ (cs.take n).takeWhile Char.isDigit, c.isDigit = true :=
    List.all_eq_true.mp List.all_takeWhile
  have hprefix : (cs.take n).takeWhile Char.isDigit <+: cs :=
    (List.takeWhile_prefix _).trans (List.take_prefix n cs)
  have hlength : ((cs.take n).takeWhile Char.isDigit).length ≤ n :=
    Nat.le_trans (List.takeWhile_prefix _).length_le (List.length_take_le n cs)
  rw [readNumber, Option.ite_none_right_eq_some, Option.some_inj, Prod.mk.injEq] at h
  obtain ⟨hlong, rfl, hrest⟩ := h
  refine ⟨_, ⟨Nat.le_antisymm hlength hlong, hdigit⟩, ?_, rfl⟩
  rw [← hrest]
  exact (List.prefix_iff_eq_append.mp hprefix).symm

/-- No white space stands before a digit. -/
theorem dropWhile_decimals {n : Nat} {ds : List Char} (hds : Decimals (n + 1) ds) (cs : List Char) :
    (ds ++ cs).dropWhile isWhiteSpace = ds ++ cs := by
  cases ds with
  | nil => cases hds.length
  | cons c ds =>
    have hc := isWhiteSpace_of_isDecimal (hds.decimal c List.mem_cons_self)
    exact List.dropWhile_cons_of_neg (by rw [hc]; decide)

theorem readField_takes (n : Nat) : TakesDigits (n + 1) (readField (n + 1)) id where
  digits := by
    intro ds rest hds
    rw [readField, dropWhile_decimals hds.decimals]
    exact (readNumber_takes (by omega)).digits rest hds
  whole := by
    intro ds cs v rest hds hread hrest
    rw [readField, dropWhile_decimals hds] at hread
    exact (readNumber_takes (by omega)).whole hds hread hrest

/-- No sign stands before a digit either. -/
theorem readYear_decimals {n : Nat} {ds : List Char} (hds : Decimals (n + 1) ds) (cs : List Char) :
    readYear (ds ++ cs) = (readNumber 1 4 (ds ++ cs)).map fun r => ((r.1 : Int), r.2) := by
  rw [readYear, dropWhile_decimals hds]
  cases ds with
  | nil => cases hds.length
  | cons c ds =>
    have hsign : ∀ s, isDecimal s = false → c ≠ s := by
      rintro s hs rfl
      rw [hds.decimal c List.mem_cons_self] at hs
      cases hs
    show ite _ _ _ = _
    rw [if_neg (hsign '-' (by decide)), if_neg (hsign '+' (by decide))]
    rfl

theorem readYear_takes : TakesDigits 4 readYear (fun n => (n : Int)) where
  digits := by
    intro ds rest hds
    rw [readYear_decimals hds.decimals, (readNumber_takes (by omega)).digits rest hds]
    rfl
  whole := by
    intro ds cs v rest hds hread hrest
    rw [readYear_decimals hds] at hread
    obtain ⟨r, hnumber, hr⟩ := Option.map_eq_some_iff.mp hread
    cases hr
    obtain ⟨hdigits, hvalue, hcs⟩ :=
      (readNumber_takes (show 1 ≤ 4 by decide)).whole hds hnumber hrest
    exact ⟨hdigits, congrArg Nat.cast hvalue, hcs⟩

/-! ## Three fields inside an outline -/

theorem readMark_eq_some_iff {m : Char} {cs rest : List Char} :
    readMark m cs = some rest ↔ cs = m :: rest := by
  cases cs with
  | nil => simp [readMark]
  | cons c cs => simp [readMark, eq_comm]

/-- Inside an outline of fields the reader takes exactly the fields, if they are of ASCII digits and
    have what is asked of them; and at any rate if it stops before a digit. -/
structure ReadsFields (n : Nat) (m : Char) (p : Nat → Nat → Nat → Prop)
    (r : List Char → Option (List Char)) : Prop where
  fields : ∀ {x y z} (rest : List Char), Digits n x → Digits 2 y → Digits 2 z →
    p (decimalValue x) (decimalValue y) (decimalValue z) →
    r (x ++ m :: (y ++ m :: (z ++ rest))) = some rest
  whole : ∀ {x y z cs rest}, Decimals n x → Decimals 2 y → Decimals 2 z →
    r (x ++ m :: (y ++ m :: (z ++ cs))) = some rest → Undigital rest →
    (Digits n x ∧ Digits 2 y ∧ Digits 2 z ∧
      p (decimalValue x) (decimalValue y) (decimalValue z)) ∧ rest = cs

theorem undigital_cons {c : Char} (h : isDecimal c = false) (cs : List Char) :
    Undigital (c :: cs) := by
  rintro _ ⟨⟩
  exact h

/-- **A reader has no freedom in an outline.** -/
theorem readFields_reads {α : Type} {n : Nat} {m : Char} {value : Nat → α}
    {first : List Char → Option (α × List Char)} {next : List Char → Option (Nat × List Char)}
    {p : α → Nat → Nat → Bool} (hfirst : TakesDigits n first value)
    (hnext : TakesDigits 2 next id) (hm : isDecimal m = false) :
    ReadsFields n m (fun a b c => p (value a) b c = true) (readFields first next m p) where
  fields := by
    intro x y z rest hx hy hz hp
    have hmark : ∀ cs, readMark m (m :: cs) = some cs := fun cs => readMark_eq_some_iff.mpr rfl
    simp only [readFields, hfirst.digits _ hx, hnext.digits _ hy, hnext.digits _ hz, hmark,
      Option.bind_eq_bind, Option.bind_some, id, if_pos hp]
  whole := by
    intro x y z cs rest hx hy hz hread hrest
    simp only [readFields, Option.bind_eq_bind, Option.bind_eq_some_iff, Prod.exists,
      readMark_eq_some_iff, Option.ite_none_right_eq_some, Option.some_inj] at hread
    obtain ⟨a, _, ha, cs₁, rfl, b, _, hb, cs₂, rfl, c, cs₃, hc, hp, rfl⟩ := hread
    obtain ⟨hx, rfl, htail⟩ := hfirst.whole hx ha (undigital_cons hm _)
    cases htail
    obtain ⟨hy, rfl, htail⟩ := hnext.whole hy hb (undigital_cons hm _)
    cases htail
    obtain ⟨hz, rfl, htail⟩ := hnext.whole hz hc hrest
    exact ⟨⟨hx, hy, hz, hp⟩, htail⟩

theorem readFreeDate_reads : ReadsFields 4 '-' (fun y m d => isDay y m d = true) readFreeDate :=
  readFields_reads readYear_takes (readField_takes 1) (by decide)

theorem readDate_reads : ReadsFields 4 '-' (fun y m d => isDay y m d = true) readDate :=
  readFields_reads (p := fun y m d => isDay (y : Nat) m d) (readNumber_takes (by decide))
    (readNumber_takes (by decide)) (by decide)

theorem readFreeTime_reads : ReadsFields 2 ':' (fun h m s => isTime h m s = true) readFreeTime :=
  readFields_reads (readField_takes 1) (readField_takes 1) (by decide)

theorem readTime_reads : ReadsFields 2 ':' (fun h m s => isTime h m s = true) readTime :=
  readFields_reads (readNumber_takes (by decide)) (readNumber_takes (by decide)) (by decide)

/-! ## Dates -/

theorem undigital_nil : Undigital [] := nofun

/-- The fields of a day that exists spell a date. -/
theorem dateText_of_fields {x y z : List Char} (h : Digits 4 x ∧ Digits 2 y ∧ Digits 2 z ∧
    isDay (decimalValue x) (decimalValue y) (decimalValue z) = true) :
    DateText (x ++ '-' :: (y ++ '-' :: z)) := by
  obtain ⟨hx, hy, hz, hday⟩ := h
  exact .intro hx hy hz ((isDay_iff hx.year_le).mp hday)

theorem timeText_of_fields {x y z : List Char} (h : Digits 2 x ∧ Digits 2 y ∧ Digits 2 z ∧
    isTime (decimalValue x) (decimalValue y) (decimalValue z) = true) :
    TimeText (x ++ ':' :: (y ++ ':' :: z)) := by
  obtain ⟨hx, hy, hz, htime⟩ := h
  obtain ⟨hours, minutes, seconds⟩ := of_decide_eq_true htime
  exact .intro hx hy hz hours minutes seconds

/-- Every reader of dates takes what spells a date. -/
theorem DateText.read {r : List Char → Option (List Char)}
    (hr : ReadsFields 4 '-' (fun y m d => isDay y m d = true) r) {date : List Char}
    (h : DateText date) (rest : List Char) : r (date ++ rest) = some rest := by
  cases h with
  | @intro x y z hx hy hz hday =>
    have hread := hr.fields rest hx hy hz ((isDay_iff hx.year_le).mpr hday)
    simpa using hread

theorem TimeText.read {r : List Char → Option (List Char)}
    (hr : ReadsFields 2 ':' (fun h m s => isTime h m s = true) r) {time : List Char}
    (h : TimeText time) (rest : List Char) : r (time ++ rest) = some rest := by
  cases h with
  | @intro x y z hx hy hz hours minutes seconds =>
    have hread := hr.fields rest hx hy hz (decide_eq_true ⟨hours, minutes, seconds⟩)
    simpa using hread

theorem DateText.readOutline {date : List Char} (h : DateText date) (rest : List Char) :
    readOutline dateOutline (date ++ rest) = some rest := by
  cases h with
  | @intro x y z hx hy hz _ =>
    exact readOutline_fields_iff.mpr ⟨x, y, z, hx.decimals, hy.decimals, hz.decimals, by simp⟩

theorem TimeText.readOutline {time : List Char} (h : TimeText time) (rest : List Char) :
    readOutline (fieldsOutline 2 ':') (time ++ rest) = some rest := by
  cases h with
  | @intro x y z hx hy hz _ _ _ =>
    exact readOutline_fields_iff.mpr ⟨x, y, z, hx.decimals, hy.decimals, hz.decimals, by simp⟩

/-- **A date is what its spelling says.** -/
theorem isDate_iff {s : String} : isDate s = true ↔ DateText s.toList := by
  unfold isDate
  rw [Bool.and_eq_true, decide_eq_true_eq, decide_eq_true_eq]
  constructor
  · rintro ⟨houtline, hread⟩
    obtain ⟨x, y, z, hx, hy, hz, hs⟩ := readOutline_fields_iff.mp houtline
    rw [hs] at hread
    obtain ⟨hfields, _⟩ := readFreeDate_reads.whole hx hy hz hread undigital_nil
    rw [hs, List.append_nil]
    exact dateText_of_fields hfields
  · intro h
    have houtline := h.readOutline []
    have hread := h.read readFreeDate_reads []
    rw [List.append_nil] at houtline hread
    exact ⟨houtline, hread⟩

/-! ## What follows the seconds -/

/-- A fraction is as long as it can be, so its spelling alone does not tell what is left. -/
theorem exists_of_readFraction {cs rest : List Char} (h : readFraction cs = some rest) :
    ∃ fraction, FractionText fraction ∧ cs = fraction ++ rest := by
  unfold readFraction at h
  split at h
  · next c cs =>
    split at h
    · next hc =>
      cases h
      refine ⟨'.' :: c :: cs.takeWhile Char.isDigit, .digits nofun ?_, ?_⟩
      · exact List.forall_mem_cons.mpr ⟨hc, List.all_eq_true.mp List.all_takeWhile⟩
      · simp [List.takeWhile_append_dropWhile]
    · cases h
  · cases h
  · cases h
    exact ⟨[], .none, rfl⟩

/-- A point is no digit. -/
theorem FractionText.undigital {fraction rest : List Char} (h : FractionText fraction)
    (hrest : Undigital rest) : Undigital (fraction ++ rest) := by
  cases h with
  | none => exact hrest
  | digits _ _ => exact undigital_cons (by decide) _

/-- A fraction is read to its end where no digit and no point follows. -/
theorem FractionText.read {fraction rest : List Char} (h : FractionText fraction)
    (hrest : ∀ c ∈ rest.head?, c.isDigit = false ∧ c ≠ '.') :
    readFraction (fraction ++ rest) = some rest := by
  cases h with
  | none =>
    cases rest with
    | nil => rfl
    | cons c rest =>
      have hc : c ≠ '.' := (hrest c rfl).2
      rw [List.nil_append, readFraction]
      · rintro d ds hcs
        exact hc (List.cons.inj hcs).1
      · intro hcs
        exact hc (List.cons.inj hcs).1
  | @digits ds hne digit =>
    cases ds with
    | nil => exact absurd rfl hne
    | cons c ds =>
      obtain ⟨hc, hds⟩ := List.forall_mem_cons.mp digit
      have hend : rest.dropWhile Char.isDigit = rest := by
        cases rest with
        | nil => rfl
        | cons d rest => exact List.dropWhile_cons_of_neg (by rw [(hrest d rfl).1]; decide)
      show (if c.isDigit then some ((ds ++ rest).dropWhile Char.isDigit) else Option.none) =
        some rest
      rw [if_pos hc, List.dropWhile_append_of_pos hds, hend]

theorem isSign_iff {c : Char} : isSign c = true ↔ c = '+' ∨ c = '-' ∨ c = '\u2212' := by
  simp [isSign, or_assoc]

/-- What starts a distance is no digit and no point. -/
theorem OffsetText.starts {cs : List Char} (h : OffsetText cs) :
    ∀ c ∈ cs.head?, isDecimal c = false ∧ c.isDigit = false ∧ c ≠ '.' := by
  cases h with
  | none => exact nofun
  | zero hc =>
    rintro _ ⟨⟩
    rcases hc with rfl | rfl <;> decide
  | distance hsign _ _ _ _ =>
    rintro _ ⟨⟩
    rcases isSign_iff.mp hsign with rfl | rfl | rfl <;> decide

/-- A distance is what its spelling says, if it is there. -/
theorem isOffset_iff {cs : List Char} : isOffset cs = true ↔ OffsetText cs ∧ cs ≠ [] := by
  constructor
  · intro h
    refine ⟨?_, by rintro rfl; cases h⟩
    unfold isOffset at h
    split at h
    · cases h
    · next c cs =>
      split at h
      · next hc =>
        rw [List.isEmpty_iff.mp h]
        exact .zero hc
      · split at h
        · next hsign =>
          split at h
          · cases h
          · next hours ds hhour =>
            split at h
            · next minutes hminute =>
              obtain ⟨es, hmark, hminute⟩ := Option.bind_eq_some_iff.mp hminute
              obtain ⟨hour, hhour', rfl, rfl⟩ := exists_of_readNumber hhour
              obtain ⟨minute, hminute', rfl, rfl⟩ := exists_of_readNumber hminute
              rw [Bool.and_eq_true, decide_eq_true_eq, decide_eq_true_eq] at h
              rw [readMark_eq_some_iff.mp hmark, List.append_nil]
              exact .distance hsign hhour' hminute' h.1 h.2
            · cases h
        · cases h
  · rintro ⟨h, hne⟩
    cases h with
    | none => exact absurd rfl hne
    | zero hc => exact if_pos hc
    | @distance sign hour minute hsign hhour hminute hours minutes =>
      have hzulu : ¬ (sign = 'Z' ∨ sign = 'z') := by
        rcases isSign_iff.mp hsign with rfl | rfl | rfl <;> decide
      have htwo : TakesDigits 2 (readNumber 2 2) id := readNumber_takes (Nat.le_refl 2)
      have hfirst := htwo.digits (':' :: minute) hhour
      have hsecond := htwo.digits [] hminute
      rw [List.append_nil] at hsecond
      have hmark : readMark ':' (':' :: minute) = some minute := readMark_eq_some_iff.mpr rfl
      rw [isOffset, if_neg hzulu, if_pos hsign, hfirst]
      simp only [hmark, Option.bind_some, hsecond, id, hours, minutes, decide_true, Bool.and_true]

/-! ## Dates with a time -/

/-- What stands between date and time is no digit. -/
def Separates (r : List Char → Option (List Char)) : Prop :=
  (∀ cs, r ('T' :: cs) = some cs) ∧ ∀ cs rest, r cs = some rest → Undigital cs

theorem separates_readMark : Separates (readMark 'T') := by
  refine ⟨fun cs => readMark_eq_some_iff.mpr rfl, fun cs rest h => ?_⟩
  rw [readMark_eq_some_iff.mp h]
  exact undigital_cons (by decide) rest

theorem separates_readSeparator : Separates readSeparator := by
  refine ⟨fun cs => rfl, fun cs rest h => ?_⟩
  cases cs with
  | nil => cases h
  | cons c cs =>
    obtain ⟨hc, _⟩ := Option.ite_none_right_eq_some.mp h
    refine undigital_cons ?_ cs
    rcases hc with rfl | rfl | rfl <;> decide

section

variable {date mark time : List Char → Option (List Char)} {cs rest : List Char}

/-- Inside the outline, strict and free readers take spellings. -/
theorem exists_of_read (hdate : ReadsFields 4 '-' (fun y m d => isDay y m d = true) date)
    (hmark : Separates mark) (htime : ReadsFields 2 ':' (fun h m s => isTime h m s = true) time)
    (houtline : (readOutline dateTimeOutline cs).isSome = true)
    (hread : (((date cs).bind mark).bind time).bind readFraction = some rest)
    (hrest : Undigital rest) : ∃ d t f, DateText d ∧ TimeText t ∧ FractionText f ∧
      cs = d ++ 'T' :: (t ++ (f ++ rest)) := by
  obtain ⟨tail, htail⟩ := Option.isSome_iff_exists.mp houtline
  rw [dateTimeOutline, readOutline_append] at htail
  obtain ⟨cs₁, hfirst, hsecond⟩ := Option.bind_eq_some_iff.mp htail
  obtain ⟨cs₂, rfl, hthird⟩ := readOutline_mark_iff.mp hsecond
  obtain ⟨x, y, z, hx, hy, hz, rfl⟩ := readOutline_fields_iff.mp hfirst
  obtain ⟨u, v, w, hu, hv, hw, rfl⟩ := readOutline_fields_iff.mp hthird
  obtain ⟨cs₅, hread, hfraction⟩ := Option.bind_eq_some_iff.mp hread
  obtain ⟨cs₄, hread, hclock⟩ := Option.bind_eq_some_iff.mp hread
  obtain ⟨cs₃, hday, hbetween⟩ := Option.bind_eq_some_iff.mp hread
  obtain ⟨hfields, rfl⟩ := hdate.whole hx hy hz hday (hmark.2 _ _ hbetween)
  cases (hmark.1 _).symm.trans hbetween
  obtain ⟨f, hf, rfl⟩ := exists_of_readFraction hfraction
  obtain ⟨hfields', rfl⟩ := htime.whole hu hv hw hclock (hf.undigital hrest)
  exact ⟨_, _, f, dateText_of_fields hfields, timeText_of_fields hfields', hf, by simp⟩

/-- Strict and free readers take all spellings, up to what may follow a fraction. -/
theorem read_spelled (hdate : ReadsFields 4 '-' (fun y m d => isDay y m d = true) date)
    (hmark : Separates mark) (htime : ReadsFields 2 ':' (fun h m s => isTime h m s = true) time)
    {d t f : List Char} (hd : DateText d) (ht : TimeText t) (hf : FractionText f)
    (hrest : OffsetText rest) :
    (((date (d ++ 'T' :: (t ++ (f ++ rest)))).bind mark).bind time).bind readFraction =
      some rest := by
  rw [hd.read hdate, Option.bind_some, hmark.1, Option.bind_some, ht.read htime, Option.bind_some]
  exact hf.read fun c hc => (hrest.starts c hc).2

end

/-- **A date with a time is what its spelling says.** -/
theorem isDateTime_iff {s : String} : isDateTime s = true ↔ DateTimeText s.toList := by
  unfold isDateTime
  rw [Bool.and_eq_true, Bool.or_eq_true]
  constructor
  · rintro ⟨houtline, hzoned | hlocal⟩
    · unfold isZonedTime at hzoned
      split at hzoned
      · next rest hread =>
        obtain ⟨hoffset, _⟩ := isOffset_iff.mp hzoned
        obtain ⟨d, t, f, hd, ht, hf, hs⟩ := exists_of_read readDate_reads separates_readSeparator
          readTime_reads houtline hread fun c hc => (hoffset.starts c hc).1
        exact hs ▸ .intro hd ht hf hoffset
      · cases hzoned
    · obtain ⟨d, t, f, hd, ht, hf, hs⟩ := exists_of_read readFreeDate_reads separates_readMark
        readFreeTime_reads houtline (of_decide_eq_true hlocal) undigital_nil
      exact hs ▸ .intro hd ht hf .none
  · intro h
    generalize s.toList = cs at h
    cases h with
    | @intro d t f offset hd ht hf hoffset =>
      constructor
      · rw [dateTimeOutline, readOutline_append, hd.readOutline, Option.bind_some,
          readOutline_mark_iff.mpr ⟨_, rfl, ht.readOutline _⟩]
        rfl
      · by_cases hnone : offset = []
        · subst hnone
          exact Or.inr (decide_eq_true
            (read_spelled readFreeDate_reads separates_readMark readFreeTime_reads hd ht hf .none))
        · refine Or.inl ?_
          rw [isZonedTime, read_spelled readDate_reads separates_readSeparator readTime_reads hd ht
            hf hoffset]
          exact isOffset_iff.mpr ⟨hoffset, hnone⟩

/-! ## The characters -/

/-- The characters of dates and times. -/
def isCalendarChar (c : Char) : Bool :=
  c.isDigit || c = '-' || c = 'T' || c = ':' || c = '.' || c = 'Z' || c = 'z' || isSign c

theorem isCalendarChar_of_isDigit {c : Char} (h : c.isDigit = true) : isCalendarChar c = true := by
  simp [isCalendarChar, h]

theorem Digits.chars {n : Nat} {ds : List Char} (h : Digits n ds) :
    ∀ c ∈ ds, isCalendarChar c = true := fun c hc => isCalendarChar_of_isDigit (h.digit c hc)

theorem DateText.chars {cs : List Char} (h : DateText cs) : ∀ c ∈ cs, isCalendarChar c = true := by
  cases h with
  | intro hyear hmonth hday _ =>
    simp only [List.forall_mem_append, List.forall_mem_cons]
    exact ⟨hyear.chars, by decide, hmonth.chars, by decide, hday.chars⟩

theorem TimeText.chars {cs : List Char} (h : TimeText cs) : ∀ c ∈ cs, isCalendarChar c = true := by
  cases h with
  | intro hhour hminute hsecond _ _ _ =>
    simp only [List.forall_mem_append, List.forall_mem_cons]
    exact ⟨hhour.chars, by decide, hminute.chars, by decide, hsecond.chars⟩

theorem FractionText.chars {cs : List Char} (h : FractionText cs) :
    ∀ c ∈ cs, isCalendarChar c = true := by
  cases h with
  | none => exact nofun
  | digits _ digit =>
    exact List.forall_mem_cons.mpr ⟨by decide, fun c hc => isCalendarChar_of_isDigit (digit c hc)⟩

theorem OffsetText.chars {cs : List Char} (h : OffsetText cs) :
    ∀ c ∈ cs, isCalendarChar c = true := by
  cases h with
  | none => exact nofun
  | zero h => exact List.forall_mem_singleton.mpr (by rcases h with rfl | rfl <;> decide)
  | distance hsign hhour hminute _ _ =>
    simp only [List.forall_mem_append, List.forall_mem_cons]
    exact ⟨by simp [isCalendarChar, hsign], hhour.chars, by decide, hminute.chars⟩

theorem DateTimeText.chars {cs : List Char} (h : DateTimeText cs) :
    ∀ c ∈ cs, isCalendarChar c = true := by
  cases h with
  | intro hdate htime hfraction hoffset =>
    simp only [List.forall_mem_append, List.forall_mem_cons]
    exact ⟨hdate.chars, by decide, htime.chars, hfraction.chars, hoffset.chars⟩

/-! ## The start and the length -/

theorem DateText.length {cs : List Char} (h : DateText cs) : cs.length = 10 := by
  cases h with
  | intro hyear hmonth hday _ => simp [hyear.length, hmonth.length, hday.length]

theorem DateTimeText.length {cs : List Char} (h : DateTimeText cs) : 10 < cs.length := by
  cases h with
  | intro hdate _ _ _ =>
    rw [List.length_append, hdate.length, List.length_cons]
    omega

theorem DateText.starts {cs : List Char} (h : DateText cs) :
    ∃ c rest, cs = c :: rest ∧ c.isDigit = true := by
  cases h with
  | @intro year month day hyear _ _ _ =>
    cases year with
    | nil => cases hyear.length
    | cons c year => exact ⟨c, _, rfl, hyear.digit c List.mem_cons_self⟩

theorem DateTimeText.starts {cs : List Char} (h : DateTimeText cs) :
    ∃ c rest, cs = c :: rest ∧ c.isDigit = true := by
  cases h with
  | intro hdate _ _ _ =>
    obtain ⟨c, rest, rfl, hc⟩ := hdate.starts
    exact ⟨c, _, rfl, hc⟩

/-! ## What is accepted -/

/-- **What is accepted as a date and as a date with a time.**  A date is `YYYY-MM-DD` in ASCII
    digits, where the day is one of the Gregorian calendar.  A date with a time is a date, the
    letter `T`, a time of day with up to sixty-one seconds in a minute, then maybe a fraction of a
    second and maybe a distance from universal time of less than a day; and nothing before it or
    after it.  So both go by the same calendar. -/
theorem accepted_iff_spelled (s : String) :
    (isDate s = true ↔ DateText s.toList) ∧
      (isDateTime s = true ↔ ∃ date time fraction offset : String,
        s = date ++ "T" ++ time ++ fraction ++ offset ∧ isDate date = true ∧
          TimeText time.toList ∧ FractionText fraction.toList ∧ OffsetText offset.toList) := by
  refine ⟨isDate_iff, ?_⟩
  rw [isDateTime_iff]
  constructor
  · intro h
    generalize hs : s.toList = cs at h
    cases h with
    | @intro d t f offset hd ht hf hoffset =>
      refine ⟨.ofList d, .ofList t, .ofList f, .ofList offset, ?_, isDate_iff.mpr ?_, ?_, ?_, ?_⟩
      · rw [← String.toList_inj, hs]
        simp
      all_goals rwa [String.toList_ofList]
  · rintro ⟨date, time, fraction, offset, rfl, hdate, htime, hfraction, hoffset⟩
    have hspelled := DateTimeText.intro (isDate_iff.mp hdate) htime hfraction hoffset
    simpa using hspelled

-- digits of another script fit the outline, and no reader takes them
example : (readOutline dateOutline "\u0662\u0660\u0662\u0664-01-15".toList).isSome = true ∧
    isDate "\u0662\u0660\u0662\u0664-01-15" = false ∧ isDate "2024-02-29" = true ∧
    isDate "2100-02-29" = false := by decide +kernel

-- a leap second, and the long minus sign
example : isDateTime "2016-12-31T23:59:60.123456789012\u221205:30" = true ∧
    isDateTime "2016-12-31T23:59:60" = true ∧ isDateTime "2016-12-31t23:59:60Z" = false := by
  decide +kernel

end Calendar
end SampleSchema
