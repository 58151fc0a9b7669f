/-
  Which formats a text can have at once.

  The detectors are asked in a fixed order.  The order matters only where two of them say yes to one
  text, and no two can but those for URLs and for mail addresses:

  1. **Dates and times have few characters and start with a digit**, so there is no sign of a mail
     address in them (`not_isEmail`), and nothing that a URL starts with
     (`Url.not_isAbsolute_of_starts`).  A date is shorter than a date with a time.

  2. **Of the formats that a text has in view of the toggles** there is at most one, or these two
     (`matching_cases`).

  3. **The order of the others is of no consequence.**  To ask in some order is to take the first of
     the formats that match, in that order (`detectIn_eq_head?`), and a list of at most one format
     has one order only (`detectIn_eq_or`).
-/
import Mathlib.Data.List.Permutation
import SampleSchema.Format
import SampleSchema.Proofs.CalendarText

namespace SampleSchema

/-! ## A digit in front -/

namespace Url

theorem not_isAlpha_of_isDigit {c : Char} (h : c.isDigit = true) : c.isAlpha = false := by
  have hdigit : c.toNat ≤ 57 := (Char.isDigit_iff_toNat.mp h).2
  have hbelow : ∀ {a b : UInt32}, 57 < a.toNat → ¬ (a ≤ c.val ∧ c.val ≤ b) := by
    intro a b ha hac
    have hle : a.toNat ≤ c.toNat := UInt32.le_iff_toNat_le.mp hac.1
    omega
  have hupper : c.isUpper = false := decide_eq_false (hbelow (by decide))
  have hlower : c.isLower = false := by
    refine Bool.eq_false_iff.mpr fun hc => ?_
    obtain ⟨hfirst, hlast⟩ := Bool.and_eq_true_iff.mp hc
    exact hbelow (by decide) ⟨of_decide_eq_true hfirst, of_decide_eq_true hlast⟩
  show (c.isUpper || c.isLower) = false
  rw [hupper, hlower]
  rfl

/-- A text keeps its first character when characters of another sort are dropped from its end. -/
theorem exists_reverse_dropWhile (p : Char → Bool) {c : Char} (cs : List Char)
    (hc : ¬ p c = true) : ∃ rest, ((c :: cs).reverse.dropWhile p).reverse = c :: rest := by
  rw [List.reverse_cons, List.dropWhile_append]
  split
  · rw [List.dropWhile_cons_of_neg hc]
    exact ⟨[], rfl⟩
  · rw [List.reverse_append]
    exact ⟨_, rfl⟩

/-- Nothing is dropped from the front of a text that starts with a digit. -/
theorem cleaned_of_starts {s : String} {c : Char} {cs : List Char} (hs : s.toList = c :: cs)
    (hc : c.isDigit = true) : ∃ rest, cleaned s = c :: rest := by
  have hdigit : 48 ≤ c.toNat := (Char.isDigit_iff_toNat.mp hc).1
  let outer : Char → Bool := fun d => decide (d ≤ ' ')
  have houter : ¬ outer c = true := by
    intro hle
    have hspace : c.toNat ≤ 32 := UInt32.le_iff_toNat_le.mp (of_decide_eq_true hle)
    omega
  have hkept : ∀ d : Char, d.toNat < 48 → c ≠ d := by
    rintro d hd rfl
    omega
  obtain ⟨rest, hrest⟩ := exists_reverse_dropWhile outer cs houter
  refine ⟨rest.filter fun d => d ≠ '\t' && d ≠ '\n' && d ≠ '\r', ?_⟩
  show List.filter _ ((s.toList.dropWhile outer).reverse.dropWhile outer).reverse = _
  rw [hs, List.dropWhile_cons_of_neg houter, hrest, List.filter_cons_of_pos]
  simp [hkept '\t' (by decide), hkept '\n' (by decide), hkept '\r' (by decide)]

/-- A scheme starts with a letter. -/
theorem not_isAbsolute_of_starts {s : String} {c : Char} {cs : List Char} (hs : s.toList = c :: cs)
    (hc : c.isDigit = true) : isAbsolute s = false := by
  obtain ⟨rest, hrest⟩ := cleaned_of_starts hs hc
  have hsplit : splitScheme (c :: rest) = none := if_neg (by simp [not_isAlpha_of_isDigit hc])
  unfold isAbsolute
  rw [hrest, hsplit]

end Url

namespace Format

/-- The first format in the list that is switched on and matches. -/
def detectIn (order : List Format) (t : Toggles) (s : String) : Option Format :=
  order.find? fun f => enabled t f && matchesText f s

theorem not_isEmail {s : String} (h : ∀ c ∈ s.toList, Calendar.isCalendarChar c = true) :
    isEmail s = false := by
  have hat : ¬ '@' ∈ s.toList := fun hc => absurd (h _ hc) (by decide)
  simp [isEmail, hat]

/-- No text is a date both with a time and without. -/
theorem not_isDateTime {s : String} (h : Calendar.isDate s = true) :
    Calendar.isDateTime s = false := by
  refine Bool.eq_false_iff.mpr fun htime => ?_
  have hlonger := (Calendar.isDateTime_iff.mp htime).length
  have hlength := (Calendar.isDate_iff.mp h).length
  omega

/-- A date is nothing else. -/
theorem date_only {s : String} (h : Calendar.isDate s = true) :
    ∀ f, f ≠ .date → matchesText f s = false := by
  have hdate := Calendar.isDate_iff.mp h
  obtain ⟨c, rest, hs, hc⟩ := hdate.starts
  intro f hf
  cases f with
  | uri => exact Url.not_isAbsolute_of_starts hs hc
  | email => exact not_isEmail hdate.chars
  | date => exact absurd rfl hf
  | dateTime => exact not_isDateTime h

/-- A date with a time is nothing else. -/
theorem dateTime_only {s : String} (h : Calendar.isDateTime s = true) :
    ∀ f, f ≠ .dateTime → matchesText f s = false := by
  have htime := Calendar.isDateTime_iff.mp h
  obtain ⟨c, rest, hs, hc⟩ := htime.starts
  intro f hf
  cases f with
  | uri => exact Url.not_isAbsolute_of_starts hs hc
  | email => exact not_isEmail htime.chars
  | date =>
    refine Bool.eq_false_iff.mpr fun hdate => ?_
    rw [not_isDateTime hdate] at h
    cases h
  | dateTime => exact absurd rfl hf

/-! ## Asking in any order -/

section

variable {t : Toggles} {s : String}

/-- The formats in the list that are switched on and match. -/
def matching (order : List Format) (t : Toggles) (s : String) : List Format :=
  order.filter fun f => enabled t f && matchesText f s

theorem detectIn_eq_head? (order : List Format) : detectIn order t s = (matching order t s).head? :=
  List.head?_filter.symm

theorem mem_matching {order : List Format} {f : Format} :
    f ∈ matching order t s ↔ f ∈ order ∧ enabled t f = true ∧ matchesText f s = true := by
  rw [matching, List.mem_filter, Bool.and_eq_true]

theorem sublist_matching_iff {order fs : List Format} :
    fs.Sublist (matching order t s) ↔
      fs.Sublist order ∧ ∀ f ∈ fs, enabled t f = true ∧ matchesText f s = true := by
  constructor
  · exact fun h => ⟨h.trans List.filter_sublist, fun f hf => (mem_matching.mp (h.subset hf)).2⟩
  · rintro ⟨hsub, hfs⟩
    have hkept : matching fs t s = fs :=
      List.filter_eq_self.mpr fun f hf => Bool.and_eq_true_iff.mpr (hfs f hf)
    exact hkept ▸ hsub.filter _

/-- A format that excludes all others is the only one that matches. -/
theorem matching_eq_singleton {f : Format} (hon : enabled t f = true)
    (hf : matchesText f s = true) (honly : ∀ g, g ≠ f → matchesText g s = false) :
    matching all t s = [f] := by
  have hsame : ∀ g ∈ all, (enabled t g && matchesText g s) = decide (g = f) := by
    intro g _
    by_cases hg : g = f
    · rw [hg, hon, hf]
      simp
    · rw [honly g hg, Bool.and_false, decide_eq_false hg]
  rw [matching, List.filter_congr hsame]
  cases f <;> rfl

/-- At most one format is switched on and matches, or these two. -/
theorem matching_cases (t : Toggles) (s : String) :
    matching all t s = [] ∨ (∃ f, matching all t s = [f]) ∨ matching all t s = [.uri, .email] := by
  by_cases hdate : enabled t .date = true ∧ matchesText .date s = true
  · exact Or.inr (Or.inl ⟨_, matching_eq_singleton hdate.1 hdate.2 (date_only hdate.2)⟩)
  · by_cases htime : enabled t .dateTime = true ∧ matchesText .dateTime s = true
    · exact Or.inr (Or.inl ⟨_, matching_eq_singleton htime.1 htime.2 (dateTime_only htime.2)⟩)
    · rw [← Bool.and_eq_true, Bool.not_eq_true] at hdate htime
      unfold matching all
      simp only [List.filter_cons, hdate, htime, List.filter_nil]
      cases (enabled t .uri && matchesText .uri s) <;>
        cases (enabled t .email && matchesText .email s) <;> simp

/-- Every order gives the same answer, or these two stand in it the other way round. -/
theorem detectIn_eq_or {order : List Format} (h : order.Perm all) (t : Toggles) (s : String) :
    (detectIn order t s = detect t s ∧ ¬ [email, uri].Sublist (matching order t s)) ∨
      (detectIn order t s = some .email ∧ detect t s = some .uri ∧
        [email, uri].Sublist (matching order t s)) := by
  have hperm : (matching order t s).Perm (matching all t s) := h.filter _
  have hrow : matching order t s = matching all t s ∨
      (matching order t s = [.email, .uri] ∧ matching all t s = [.uri, .email]) := by
    rcases matching_cases t s with hall | ⟨f, hall⟩ | hall
    · rw [hall] at hperm ⊢
      exact Or.inl (List.perm_nil.mp hperm)
    · rw [hall] at hperm ⊢
      exact Or.inl (List.perm_singleton.mp hperm)
    · rw [hall] at hperm ⊢
      exact (List.perm_pair.mp hperm).imp id fun hrow => ⟨hrow, rfl⟩
  rw [detectIn_eq_head?, show detect t s = (matching all t s).head? from detectIn_eq_head? all]
  rcases hrow with hsame | ⟨hrow, hall⟩
  · rw [hsame]
    refine Or.inl ⟨rfl, fun hsub => ?_⟩
    exact absurd (hsub.trans List.filter_sublist) (by decide)
  · rw [hrow, hall]
    exact Or.inr ⟨rfl, rfl, List.Sublist.refl _⟩

end

/-- **Only URLs and mail addresses overlap.**  A date is nothing else and a date with a time is
    nothing else, so each of them is found exactly when it is switched on and matches.  Another
    order of the detectors gives another answer exactly when it asks for mail addresses before URLs
    and the text is both, with both switched on; then one order gives the one and the other order
    the other. -/
theorem detect_overlap (t : Toggles) (s : String) :
    (Calendar.isDate s = true →
        Url.isAbsolute s = false ∧ isEmail s = false ∧ Calendar.isDateTime s = false) ∧
      (Calendar.isDateTime s = true → Url.isAbsolute s = false ∧ isEmail s = false) ∧
      (detect t s = some .date ↔ t.date = true ∧ Calendar.isDate s = true) ∧
      (detect t s = some .dateTime ↔ t.dateTime = true ∧ Calendar.isDateTime s = true) ∧
      ∀ order : List Format, order.Perm all →
        (detectIn order t s ≠ detect t s ↔
          [email, uri].Sublist order ∧ (t.uri = true ∧ Url.isAbsolute s = true) ∧
            (t.email = true ∧ isEmail s = true)) ∧
        (detectIn order t s ≠ detect t s →
          detectIn order t s = some .email ∧ detect t s = some .uri) := by
  have hdetect : detect t s = (matching all t s).head? := detectIn_eq_head? all
  have hfound : ∀ {f}, detect t s = some f → enabled t f = true ∧ matchesText f s = true := by
    intro f hf
    rw [hdetect] at hf
    exact (mem_matching.mp (List.mem_of_mem_head? hf)).2
  refine ⟨?_, ?_, ⟨hfound, ?_⟩, ⟨hfound, ?_⟩, fun order horder => ?_⟩
  · intro h
    exact ⟨date_only h .uri nofun, date_only h .email nofun, date_only h .dateTime nofun⟩
  · intro h
    exact ⟨dateTime_only h .uri nofun, dateTime_only h .email nofun⟩
  · rintro ⟨hon, h⟩
    have hall : matching all t s = [.date] := matching_eq_singleton hon h (date_only h)
    rw [hdetect, hall]
    rfl
  · rintro ⟨hon, h⟩
    have hall : matching all t s = [.dateTime] := matching_eq_singleton hon h (dateTime_only h)
    rw [hdetect, hall]
    rfl
  · have hboth : [email, uri].Sublist (matching order t s) ↔
        [email, uri].Sublist order ∧ (t.uri = true ∧ Url.isAbsolute s = true) ∧
          (t.email = true ∧ isEmail s = true) := by
      rw [sublist_matching_iff, List.forall_mem_cons, List.forall_mem_singleton,
        and_comm (a := enabled t email = true ∧ _)]
      rfl
    rw [← hboth]
    rcases detectIn_eq_or horder t s with ⟨hsame, hnot⟩ | ⟨hemail, huri, hsub⟩
    · exact ⟨⟨fun h => absurd hsame h, fun h => absurd h hnot⟩, fun h => absurd hsame h⟩
    · exact ⟨⟨fun _ => hsub, fun _ => by rw [hemail, huri]; nofun⟩, fun _ => ⟨hemail, huri⟩⟩

/-- A leap day, a leap second, and a text that is both a URL and a mail address. -/
theorem detect_overlap_mail :
    let day := "2024-02-29"
    let second := "2016-12-31T23:59:60Z"
    let mail := "mailto:a@b.c"
    (Calendar.isDate day = true ∧ Url.isAbsolute day = false ∧ isEmail day = false ∧
        Calendar.isDateTime day = false ∧ detect {} day = some .date) ∧
      (Calendar.isDateTime second = true ∧ Url.isAbsolute second = false ∧
        isEmail second = false ∧ detect {} second = some .dateTime) ∧
      [email, uri, date, dateTime].Perm all ∧ Url.isAbsolute mail = true ∧ isEmail mail = true ∧
        detectIn [email, uri, date, dateTime] {} mail = some .email ∧
        detect {} mail = some .uri := by
  intro day second mail
  have hday : Calendar.isDate day = true := by decide +kernel
  have hsecond : Calendar.isDateTime second = true := by decide +kernel
  have hmail : Url.isAbsolute mail = true ∧ isEmail mail = true := by decide +kernel
  have horder : [email, uri, date, dateTime].Perm all := by decide
  have hdiffers := ((detect_overlap {} mail).2.2.2.2 _ horder).1.mpr
    ⟨by decide, ⟨rfl, hmail.1⟩, ⟨rfl, hmail.2⟩⟩
  obtain ⟨hurl, haddress, hnotime⟩ := (detect_overlap {} day).1 hday
  obtain ⟨hurl', haddress'⟩ := (detect_overlap {} second).2.1 hsecond
  exact ⟨⟨hday, hurl, haddress, hnotime, (detect_overlap {} day).2.2.1.mpr ⟨rfl, hday⟩⟩,
    ⟨hsecond, hurl', haddress', (detect_overlap {} second).2.2.2.1.mpr ⟨rfl, hsecond⟩⟩,
    horder, hmail.1, hmail.2, ((detect_overlap {} mail).2.2.2.2 _ horder).2 hdiffers⟩

end Format
end SampleSchema
