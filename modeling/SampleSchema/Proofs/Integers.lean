/-
  A whole number is read as one, however long it is.

  Digits that fit into 64 bits are kept as they are.  Other ones become a double, by way of a
  significand that leaves digits out and of two roundings, so it is not plain that what comes out
  has no fractional part.

  1. **The crux: rounding does not go below a power of two** that the exact value reaches
     (`nearest_atLeast`), since that power is a double itself.  What is carried along is
     `Magnitude.AtLeast j`: a full mantissa, and a value of at least `2 ^ j`.  Products keep it
     (`mul_atLeast`), and with `j` at 52 or more every such double is whole (`AtLeast.isWhole`).

  2. **Digits are left out of large significands only** (`gather_cases`): the first digit that is
     left out would have taken the significand beyond 64 bits.  And digits that are all kept make a
     double in two cases, when they are beyond 64 bits with their sign, or when they are a negative
     zero (`whole?_eq_none`).  Zero is the only double here that is not large, and it is whole.

  3. A reader takes all digits of a literal and goes on behind them (`scan_digits`), wherever the
     literal stands (`isWhole_readValue`).  So inference finds an integer there
     (`infer_wholeLiteral`).
-/
import SampleSchema.Proofs.Headroom

namespace SampleSchema

/-! ## Rounding keeps what is large -/

namespace Magnitude

/-- Rounding goes down to the whole part at most. -/
theorem div_le_roundHalfEven (n d : Nat) : n / d ≤ roundHalfEven n d := by
  unfold roundHalfEven
  dsimp only
  split_ifs <;> omega

/-- The largest power of two below a fraction is no smaller than any other one below it. -/
theorem binade_of_pow_le {n d j : Nat} (hd : 0 < d) (h : d * Nat.pow 2 j ≤ n) :
    ∃ k : Nat, binade n d = k ∧ j ≤ k ∧ d * Nat.pow 2 k ≤ n := by
  have hn : n ≠ 0 := by
    have hpow : 0 < d * Nat.pow 2 j := Nat.mul_pos hd (Nat.two_pow_pos j)
    omega
  have hlow : Nat.pow 2 n.log2 ≤ n := Nat.log2_self_le hn
  have hlog : d.log2 + j ≤ n.log2 := by
    refine (Nat.le_log2 hn).mpr (Nat.le_trans ?_ h)
    rw [Nat.pow_add]
    exact Nat.mul_le_mul_right _ (Nat.log2_self_le (Nat.ne_of_gt hd))
  obtain ⟨g, hg⟩ : ∃ g, n.log2 = d.log2 + g := ⟨n.log2 - d.log2, by omega⟩
  have hguess : (n.log2 : Int) - d.log2 = (g : Nat) := by omega
  unfold binade
  rw [hguess]
  simp only [Int.natCast_nonneg, if_true, Int.toNat_natCast]
  by_cases hreached : d * Nat.pow 2 g ≤ n
  · exact ⟨g, if_pos (decide_eq_true hreached), by omega, hreached⟩
  · -- the guess is one too large, and only then
    have hlarger : j < g := by
      by_contra hc
      exact hreached (show j = g by omega ▸ h)
    obtain ⟨k, rfl⟩ : ∃ k, g = k + 1 := ⟨g - 1, by omega⟩
    refine ⟨k, ?_, by omega, Nat.le_trans ?_ hlow⟩
    · rw [if_neg (by simpa using hreached)]
      omega
    · have hup : d ≤ Nat.pow 2 (d.log2 + 1) := Nat.le_of_lt Nat.lt_log2_self
      calc d * Nat.pow 2 k ≤ Nat.pow 2 (d.log2 + 1) * Nat.pow 2 k := Nat.mul_le_mul_right _ hup
        _ = Nat.pow 2 (d.log2 + 1 + k) := (Nat.pow_add 2 _ _).symm
        _ = Nat.pow 2 n.log2 := by rw [hg]; congr 1; omega

/-- The mantissa of a fraction of at least one is full before it is rounded, and so after it. -/
theorem pow_le_scaled {n d k : Nat} (hd : 0 < d) (h : d * Nat.pow 2 k ≤ n) :
    Nat.pow 2 52 ≤ scaled n d ((k : Int) - 52) := by
  unfold scaled
  by_cases hk : 52 ≤ k
  · rw [if_pos (by omega), show ((k : Int) - 52).toNat = k - 52 by omega]
    refine Nat.le_trans ?_ (div_le_roundHalfEven _ _)
    refine (Nat.le_div_iff_mul_le (Nat.mul_pos hd (Nat.two_pow_pos _))).mpr ?_
    calc Nat.pow 2 52 * (d * Nat.pow 2 (k - 52))
        = d * (Nat.pow 2 (k - 52) * Nat.pow 2 52) := by
          rw [Nat.mul_left_comm, Nat.mul_comm (Nat.pow 2 52)]
      _ = d * Nat.pow 2 k := congrArg (d * ·) (Nat.pow_sub_mul_pow 2 hk)
      _ ≤ n := h
  · rw [if_neg (by omega), show (-((k : Int) - 52)).toNat = 52 - k by omega]
    refine Nat.le_trans ?_ (div_le_roundHalfEven _ _)
    refine (Nat.le_div_iff_mul_le hd).mpr ?_
    calc Nat.pow 2 52 * d = Nat.pow 2 (52 - k) * Nat.pow 2 k * d :=
          congrArg (· * d) (Nat.pow_sub_mul_pow 2 (Nat.le_of_not_le hk)).symm
      _ = d * Nat.pow 2 k * Nat.pow 2 (52 - k) := by rw [Nat.mul_comm, Nat.mul_comm (Nat.pow _ _),
          Nat.mul_assoc]
      _ ≤ n * Nat.pow 2 (52 - k) := Nat.mul_le_mul_right _ h

/-- The mantissa is full, and the value at least this power of two. -/
structure AtLeast (j : Nat) (x : Magnitude) : Prop where
  mantissa : Nat.pow 2 52 ≤ x.mantissa
  exponent : (j : Int) - 52 ≤ x.exponent

/-- **A power of two stays below what is rounded**, if it was below. -/
theorem nearest_atLeast {n d j : Nat} {x : Magnitude} (hd : 0 < d) (h : d * Nat.pow 2 j ≤ n)
    (hx : nearest n d = some x) : x.AtLeast j := by
  obtain ⟨k, hbinade, hjk, hk⟩ := binade_of_pow_le hd h
  have hfull := pow_le_scaled hd hk
  have hn : n ≠ 0 := by
    have hpow : 0 < d * Nat.pow 2 j := Nat.mul_pos hd (Nat.two_pow_pos j)
    omega
  have hexponent : max ((k : Int) - 52) (-1074) = k - 52 := by omega
  unfold nearest at hx
  rw [if_neg hn, hbinade, hexponent] at hx
  dsimp only at hx
  split_ifs at hx with hcarry hlarge hlarge
  · cases hx
    exact ⟨Nat.le_refl _, by dsimp only; omega⟩
  · cases hx
    exact ⟨hfull, by dsimp only; omega⟩

/-- The same said of the value as a fraction. -/
theorem AtLeast.fraction {j : Nat} {x : Magnitude} (h : x.AtLeast j) :
    0 < x.fraction.2 ∧ x.fraction.2 * Nat.pow 2 j ≤ x.fraction.1 := by
  have hmantissa := h.mantissa
  have hexponent := h.exponent
  unfold Magnitude.fraction
  split_ifs with he
  · refine ⟨Nat.one_pos, ?_⟩
    calc 1 * Nat.pow 2 j ≤ Nat.pow 2 (52 + x.exponent.toNat) := by
          rw [Nat.one_mul]
          exact Nat.pow_le_pow_right (by decide) (by omega)
      _ = Nat.pow 2 52 * Nat.pow 2 x.exponent.toNat := Nat.pow_add 2 _ _
      _ ≤ x.mantissa * Nat.pow 2 x.exponent.toNat := Nat.mul_le_mul_right _ hmantissa
  · refine ⟨Nat.two_pow_pos _, ?_⟩
    calc Nat.pow 2 (-x.exponent).toNat * Nat.pow 2 j = Nat.pow 2 ((-x.exponent).toNat + j) :=
          (Nat.pow_add 2 _ _).symm
      _ ≤ Nat.pow 2 52 := Nat.pow_le_pow_right (by decide) (by omega)
      _ ≤ x.mantissa := hmantissa

/-- A product is at least the product of what its factors are. -/
theorem mul_atLeast {i j : Nat} {x y z : Magnitude} (hx : x.AtLeast i) (hy : y.AtLeast j)
    (hz : x.mul y = some z) : z.AtLeast (i + j) := by
  obtain ⟨hxpos, hxlow⟩ := hx.fraction
  obtain ⟨hypos, hylow⟩ := hy.fraction
  refine nearest_atLeast (Nat.mul_pos hxpos hypos) ?_ hz
  have hpow : Nat.pow 2 (i + j) = Nat.pow 2 i * Nat.pow 2 j := Nat.pow_add 2 i j
  rw [hpow, Nat.mul_mul_mul_comm]
  exact Nat.mul_le_mul hxlow hylow

/-- **From `2 ^ 52` on all doubles are whole.** -/
theorem AtLeast.isWhole {j : Nat} {x : Magnitude} (h : x.AtLeast j) (hj : 52 ≤ j) :
    x.isWhole = true := by
  have hexponent := h.exponent
  have hpos : 0 ≤ x.exponent := by omega
  simp [Magnitude.isWhole, hpos]

/-! ## Decimals -/

/-- What stays below a power of two that is a double has a double that is nearest to it. -/
theorem exists_nearest {n d j : Nat} (hd : 0 < d) (hj : j ≤ 1023) (h : n < d * Nat.pow 2 j) :
    ∃ x, nearest n d = some x := by
  have hbinade : binade n d < 1023 := by
    by_cases hone : d ≤ n
    · obtain ⟨k, hk, _, hlow⟩ := binade_of_pow_le (j := 0) hd (by simpa using hone)
      have hlt : k < j := by
        by_contra hc
        have hpow : Nat.pow 2 j ≤ Nat.pow 2 k := Nat.pow_le_pow_right (by decide) (by omega)
        exact absurd (Nat.le_trans (Nat.mul_le_mul_left d hpow) hlow) (Nat.not_le.mpr h)
      omega
    · have hlog : n.log2 ≤ d.log2 := by
        by_cases hn : n = 0
        · rw [hn]
          exact Nat.zero_le _
        · exact (Nat.le_log2 (Nat.ne_of_gt hd)).mpr
            (Nat.le_trans (Nat.log2_self_le hn) (Nat.le_of_not_le hone))
      unfold binade
      dsimp only
      split_ifs <;> omega
  unfold nearest
  generalize binade n d = b at hbinade ⊢
  dsimp only
  split_ifs with hn hcarry hlarge hlarge
  · exact ⟨_, rfl⟩
  · dsimp only at hlarge
    omega
  · exact ⟨_, rfl⟩
  · dsimp only at hlarge
    omega
  · exact ⟨_, rfl⟩

/-- The powers of ten that are multiplied with are doubles, and at least one. -/
theorem powerOfTen_atLeast {k : Nat} (hk : k ≤ largestPower) : (powerOfTen k).AtLeast 0 := by
  obtain ⟨p, hp⟩ : ∃ p, nearest (Nat.pow 10 k) 1 = some p := by
    rcases Nat.lt_or_eq_of_le hk with hlt | rfl
    · have hpow : ∀ e, k ≤ e → Nat.pow 10 k ≤ Nat.pow 10 e :=
        fun e he => Nat.pow_le_pow_right (by decide) he
      exact exists_nearest Nat.one_pos (Nat.le_refl 1023)
        (Nat.lt_of_le_of_lt (hpow 307 (Nat.le_of_lt_succ hlt)) (by decide +kernel))
    · exact Option.isSome_iff_exists.mp (by decide +kernel)
  have hone : 1 * Nat.pow 2 0 ≤ Nat.pow 10 k := Nat.pow_pos (by decide)
  rw [powerOfTen, hp]
  exact nearest_atLeast Nat.one_pos hone hp

/-- A large significand times a power of ten is read as a large double, if as any. -/
theorem ofDecimal_atLeast {s k j : Nat} {z : Magnitude} (hs : Nat.pow 2 j ≤ s)
    (hz : ofDecimal s k = some z) : z.AtLeast j := by
  obtain ⟨x, hx, hgrow⟩ := Option.bind_eq_some_iff.mp hz
  have hlow : x.AtLeast j := nearest_atLeast Nat.one_pos (by rwa [Nat.one_mul]) hx
  rw [if_pos (Int.natCast_nonneg k), Int.toNat_natCast] at hgrow
  unfold grow at hgrow
  split_ifs at hgrow with hk hzero
  · exact mul_atLeast hlow (powerOfTen_atLeast hk) hgrow
  · -- a full mantissa is not zero
    have hfull := hlow.mantissa
    rw [hzero] at hfull
    exact absurd hfull (by decide)

theorem ofDecimal_zero : ofDecimal 0 (0 : Nat) = some zero := by decide +kernel

theorem isWhole_zero : zero.isWhole = true := by decide +kernel

end Magnitude

/-! ## Digits -/

namespace Json

theorem isBlank_of_isDigit {c : Char} (h : c.isDigit = true) : isBlank c = false := by
  rw [Bool.eq_false_iff]
  intro hc
  simp only [isBlank, Bool.or_eq_true, decide_eq_true_eq] at hc
  rcases hc with ((rfl | rfl) | rfl) | rfl <;> cases h

/-- A whole number as it may be written: a minus sign perhaps, and digits, however many. -/
structure WholeLiteral where
  negative : Bool
  digits : List Char
  nonempty : digits ≠ []
  digit : ∀ c ∈ digits, c.isDigit = true

namespace WholeLiteral

/-- The characters of the literal. -/
def chars (l : WholeLiteral) : List Char := (if l.negative then ['-'] else []) ++ l.digits

end WholeLiteral

namespace Numeral

/-- Where digits are left out, those that are kept make a large significand. -/
theorem gather_cases {ds : List Char} (hds : ∀ c ∈ ds, c.isDigit = true) : ∀ s,
    (gather s ds).2 = 0 ∧ (gather s ds).1 = ds.foldl (fun n d => 10 * n + digitValue d) s ∨
      Nat.pow 2 60 ≤ (gather s ds).1 := by
  induction ds with
  | nil => exact fun s => Or.inl ⟨rfl, rfl⟩
  | cons d ds ih =>
    intro s
    have hd := digitValue_le (hds d List.mem_cons_self)
    rw [gather, List.foldl_cons]
    split_ifs with hnext
    · exact ih (fun c hc => hds c (List.mem_cons_of_mem _ hc)) _
    · refine Or.inr ?_
      have hfar : Nat.pow 2 64 ≤ 10 * s + digitValue d := Nat.le_of_not_lt hnext
      simp only [Nat.pow_eq] at hfar ⊢
      omega

/-- What no whole number of 64 bits stands for is zero behind a minus sign, or large. -/
theorem whole?_eq_none {negative : Bool} {ds : List Char}
    (h : whole? ⟨negative, ds, [], none⟩ = none) :
    decimalValue ds = 0 ∨ Nat.pow 2 63 ≤ decimalValue ds := by
  have hone : Nat.pow 2 63 ≤ Nat.pow 2 64 := Nat.pow_le_pow_right (by decide) (by decide)
  unfold whole? at h
  simp only [List.isEmpty_nil, Option.isNone_none, Bool.and_self, if_true] at h
  split_ifs at h <;> omega

/-- **Digits without point and exponent stand for a whole number**, if for any. -/
theorem isWhole_value {negative : Bool} {ds : List Char} (hds : ∀ c ∈ ds, c.isDigit = true)
    {v : Number} (hv : value ⟨negative, ds, [], none⟩ = some v) : v.isWhole = true := by
  have hparts : scientificParts ⟨negative, ds, [], none⟩ =
      ((gather 0 ds).1, ((gather 0 ds).2 : Int)) := by
    simp [scientificParts, gather]
  cases hwhole : whole? ⟨negative, ds, [], none⟩ with
  | some m =>
    rw [value, hwhole] at hv
    cases hv
    rfl
  | none =>
    rw [value, hwhole, hparts] at hv
    obtain ⟨z, hz, rfl⟩ := Option.map_eq_some_iff.mp hv
    show z.isWhole = true
    rcases gather_cases hds 0 with ⟨hkept, hvalue⟩ | hlarge
    · rcases whole?_eq_none hwhole with hzero | hlarge
      · have hpair : Magnitude.ofDecimal 0 (0 : Nat) = some z := by
          rwa [hvalue, hkept, show ds.foldl _ 0 = 0 from hzero] at hz
        rw [Magnitude.ofDecimal_zero] at hpair
        rw [← Option.some.inj hpair]
        exact Magnitude.isWhole_zero
      · rw [hvalue] at hz
        exact (Magnitude.ofDecimal_atLeast hlarge hz).isWhole (by decide)
    · exact (Magnitude.ofDecimal_atLeast hlarge hz).isWhole (by decide)

/-! ## Reading -/

/-- No number goes on with this text. -/
def Ends (rest : List Char) : Prop :=
  ∀ c ∈ rest.head?, c.isDigit = false ∧ c ≠ '.' ∧ isMark c = false

theorem scanWhole_digits {ds rest : List Char} (hne : ds ≠ [])
    (hds : ∀ c ∈ ds, c.isDigit = true) (hrest : Ends rest) {w : Reading (List Char) (ds ++ rest)}
    (h : scanWhole (ds ++ rest) = .ok w) : w.value = ds ∧ w.rest = rest := by
  obtain ⟨d, ds, rfl⟩ := List.exists_cons_of_ne_nil hne
  have hothers : ∀ c ∈ ds, c.isDigit = true := fun c hc => hds c (List.mem_cons_of_mem _ hc)
  have htake : rest.takeWhile Char.isDigit = [] ∧ rest.dropWhile Char.isDigit = rest := by
    cases rest with
    | nil => exact ⟨rfl, rfl⟩
    | cons c r =>
      have hc := (hrest c rfl).1
      exact ⟨List.takeWhile_cons_of_neg (by simp [hc]), List.dropWhile_cons_of_neg (by simp [hc])⟩
  revert h
  show scanWhole (d :: (ds ++ rest)) = .ok w → _
  intro h
  rw [scanWhole] at h
  split_ifs at h with hzero hnext hdigit
  · cases h
  · cases h
    cases ds with
    | nil => exact ⟨by rw [hzero]; rfl, rfl⟩
    | cons c ds => exact absurd (hothers c List.mem_cons_self) (by simpa using hnext)
  · cases h
    refine ⟨?_, ?_⟩
    · show d :: (ds ++ rest).takeWhile Char.isDigit = d :: ds
      rw [List.takeWhile_append_of_pos hothers, htake.1, List.append_nil]
    · show (ds ++ rest).dropWhile Char.isDigit = rest
      rw [List.dropWhile_append_of_pos hothers, htake.2]
  · cases h

theorem scanFraction_ends {rest : List Char} (hrest : Ends rest) :
    scanFraction rest = .ok (.start [] rest) := by
  unfold scanFraction
  split
  · exact absurd rfl (hrest '.' rfl).2.1
  · exact absurd rfl (hrest '.' rfl).2.1
  · rfl

theorem scanExponent_ends {rest : List Char} (hrest : Ends rest) :
    scanExponent rest = .ok (.start none rest) := by
  cases rest with
  | nil => rfl
  | cons c r => rw [scanExponent, if_neg (by simp [(hrest c rfl).2.2])]

/-- Digits are scanned as they are, if they are no fault. -/
theorem scan_digits {negative : Bool} {ds rest : List Char} (hne : ds ≠ [])
    (hds : ∀ c ∈ ds, c.isDigit = true) (hrest : Ends rest) {q : Reading Numeral (ds ++ rest)}
    (h : scan negative (ds ++ rest) = .ok q) :
    q.value = ⟨negative, ds, [], none⟩ ∧ q.rest = rest := by
  unfold scan at h
  cases hw : scanWhole (ds ++ rest) with
  | error e =>
    rw [hw] at h
    cases h
  | ok w =>
    obtain ⟨hvalue, hafter⟩ := scanWhole_digits hne hds hrest hw
    obtain ⟨digits, after, hshorter⟩ := w
    obtain rfl : digits = ds := hvalue
    obtain rfl : after = rest := hafter
    rw [hw] at h
    simp only [bind, Except.bind] at h
    rw [scanFraction_ends hrest] at h
    simp only [Tail.start] at h
    rw [scanExponent_ends hrest] at h
    cases h
    exact ⟨rfl, rfl⟩

/-- Digits are read as a whole number, if they are read. -/
theorem isWhole_read {negative : Bool} {ds rest : List Char} (hne : ds ≠ [])
    (hds : ∀ c ∈ ds, c.isDigit = true) (hrest : Ends rest) {r : Reading Number (ds ++ rest)}
    (h : read negative (ds ++ rest) = .ok r) : r.value.isWhole = true ∧ r.rest = rest := by
  unfold read at h
  cases hq : scan negative (ds ++ rest) with
  | error e =>
    rw [hq] at h
    cases h
  | ok q =>
    obtain ⟨hvalue, hafter⟩ := scan_digits hne hds hrest hq
    rw [hq] at h
    simp only [bind, Except.bind, hvalue] at h
    split at h
    · next v hv =>
      cases h
      exact ⟨isWhole_value hds hv, hafter⟩
    · cases h

end Numeral

/-- Whatever is read from a minus sign on is a number that was read behind it. -/
theorem number_of_readValue_minus {cs tail : List Char} (hskip : skipBlanks cs = '-' :: tail)
    {room : Nat} {r : Reading Json cs} (h : readValue room cs = .ok r) :
    ∃ q : Reading Number tail, Numeral.read true tail = .ok q ∧ r.value = .number q.value ∧
      r.rest = q.rest := by
  unfold readValue at h
  split at h
  · next heq =>
    rw [hskip] at heq
    cases heq
  · next heq =>
    cases hskip.symm.trans heq
    obtain ⟨q, hq, rfl⟩ := ok_of_map h
    exact ⟨q, hq, rfl, rfl⟩

/-- Whatever is read from a digit on is a number. -/
theorem number_of_readValue_digit {cs tail : List Char} {d : Char} (hd : d.isDigit = true)
    (hskip : skipBlanks cs = d :: tail) {room : Nat} {r : Reading Json cs}
    (h : readValue room cs = .ok r) :
    ∃ q : Reading Number (d :: tail), Numeral.read false (d :: tail) = .ok q ∧
      r.value = .number q.value ∧ r.rest = q.rest := by
  have hne : ∀ {c : Char}, c.isDigit = false → d ≠ c := by
    rintro c hc rfl
    rw [hd] at hc
    cases hc
  unfold readValue at h
  split at h
  · next heq =>
    rw [hskip] at heq
    cases heq
  · next heq =>
    cases hskip.symm.trans heq
    rw [if_neg (hne (by decide)), if_neg (hne (by decide)), if_neg (hne (by decide)),
      if_neg (hne (by decide)), if_pos hd] at h
    obtain ⟨q, hq, rfl⟩ := ok_of_map h
    exact ⟨q, hq, rfl, rfl⟩

/-- **A literal without point and exponent is read as a whole number**, wherever it stands and
    however long it is, if it is read. -/
theorem isWhole_readValue (l : WholeLiteral) {before rest : List Char} (hbefore : Blank before)
    (hrest : Numeral.Ends rest) {room : Nat} {r : Reading Json (before ++ (l.chars ++ rest))}
    (h : readValue room (before ++ (l.chars ++ rest)) = .ok r) :
    ∃ n, r.value = .number n ∧ n.isWhole = true ∧ r.rest = rest := by
  obtain ⟨negative, ds, hne, hds⟩ := l
  cases negative with
  | true =>
    have hskip : skipBlanks (before ++ ('-' :: (ds ++ rest))) = '-' :: (ds ++ rest) :=
      skipBlanks_append hbefore rfl
    obtain ⟨q, hq, hvalue, hafter⟩ := number_of_readValue_minus hskip h
    obtain ⟨hwhole, hend⟩ := Numeral.isWhole_read hne hds hrest hq
    exact ⟨q.value, hvalue, hwhole, hafter.trans hend⟩
  | false =>
    obtain ⟨d, ds, rfl⟩ := List.exists_cons_of_ne_nil hne
    have hd := hds d List.mem_cons_self
    have hskip : skipBlanks (before ++ (d :: (ds ++ rest))) = d :: (ds ++ rest) :=
      skipBlanks_append hbefore (isBlank_of_isDigit hd)
    obtain ⟨q, hq, hvalue, hafter⟩ := number_of_readValue_digit hd hskip h
    obtain ⟨hwhole, hend⟩ := Numeral.isWhole_read hne hds hrest hq
    exact ⟨q.value, hvalue, hwhole, hafter.trans hend⟩

theorem Numeral.ends_of_blank {after : List Char} (h : Blank after) : Numeral.Ends after := by
  intro c hc
  have hblank := h c (List.mem_of_mem_head? hc)
  simp only [isBlank, Bool.or_eq_true, decide_eq_true_eq] at hblank
  rcases hblank with ((rfl | rfl) | rfl) | rfl <;> exact ⟨by decide, by decide, by decide⟩

/-- A text with nothing but such a literal holds a whole number. -/
theorem isWhole_parse (l : WholeLiteral) {before after : List Char} (hbefore : Blank before)
    (hafter : Blank after) {text : String} (htext : text.toList = before ++ (l.chars ++ after))
    {v : Json} (h : parse text = .ok v) : ∃ n, v = .number n ∧ n.isWhole = true := by
  unfold parse at h
  rw [htext] at h
  split at h
  · next w hchars =>
    cases h
    unfold parseChars at hchars
    split at hchars
    · cases hchars
    · next r hr =>
      obtain ⟨n, hvalue, hwhole, _⟩ := isWhole_readValue l hbefore (Numeral.ends_of_blank hafter) hr
      unfold finish at hchars
      split at hchars
      · cases hchars
        exact ⟨n, hvalue, hwhole⟩
      · cases hchars
  · cases h

theorem schemaAt_whole {n : Number} (h : n.isWhole = true) (s : Settings) (depth : Nat) :
    schemaAt s depth (.number n) = .ofKind .integer := by
  rw [schemaAt_eq, outline]
  exact congrArg Schema.ofKind (if_pos h)

end Json

/-- **A whole number is an integer, however long it is**: as a sample of its own, and wherever it
    stands in one. -/
theorem infer_wholeLiteral (l : Json.WholeLiteral) (s : Settings) {before : List Char}
    (hbefore : Json.Blank before) :
    (∀ after path text v, Json.Blank after → text.toList = before ++ (l.chars ++ after) →
      readSample path (.ok text) = .ok v → (inferJson s v).schema = .ofKind .integer) ∧
    (∀ rest room r depth, Json.Numeral.Ends rest →
      Json.readValue room (before ++ (l.chars ++ rest)) = .ok r →
      Json.schemaAt s depth r.value = .ofKind .integer) := by
  refine ⟨?_, ?_⟩
  · intro after path text v hafter htext h
    unfold readSample at h
    split at h
    · cases h
    · next t ht =>
      cases ht
      split at h
      · next w hparse =>
        cases h
        obtain ⟨n, rfl, hwhole⟩ := Json.isWhole_parse l hbefore hafter htext hparse
        rw [Json.schema_inferJson, Json.schemaAt_whole hwhole]
      · cases h
  · intro rest room r depth hrest h
    obtain ⟨n, hvalue, hwhole, _⟩ := Json.isWhole_readValue l hbefore hrest h
    rw [hvalue, Json.schemaAt_whole hwhole]

/-- Forty digits behind a minus sign, half of which do not fit into 64 bits: as a text with a blank
    before and a line break after them, and as the last item of an array. -/
theorem infer_wholeLiteral_forty :
    let text := " -1234567890123456789012345678901234567890\n"
    let item := " -1234567890123456789012345678901234567890]".toList
    (∃ v, readSample "n.json" (.ok text) = .ok v ∧
      (inferJson {} v).schema = .ofKind .integer) ∧
    ∃ r, Json.readValue 1 item = .ok r ∧ Json.schemaAt {} 1 r.value = .ofKind .integer := by
  intro text item
  let digits := "1234567890123456789012345678901234567890".toList
  let l : Json.WholeLiteral := ⟨true, digits, by decide, List.all_eq_true.mp (by decide)⟩
  have hbefore : Json.Blank [' '] := List.all_eq_true.mp (by decide)
  obtain ⟨hsample, hitem⟩ := infer_wholeLiteral l {} hbefore
  refine ⟨?_, ?_⟩
  · have hafter : Json.Blank ['\n'] := List.all_eq_true.mp (by decide)
    have htext : text.toList = ' ' :: '-' :: (digits ++ ['\n']) := by decide +kernel
    have hread : (readSample "n.json" (.ok text)).isOk = true := by decide +kernel
    cases h : readSample "n.json" (.ok text) with
    | error f =>
      rw [h] at hread
      cases hread
    | ok v => exact ⟨v, rfl, hsample ['\n'] "n.json" text v hafter htext h⟩
  · have hends : Json.Numeral.Ends [']'] := by
      rintro c ⟨⟩
      exact ⟨by decide, by decide, by decide⟩
    have htext : item = ' ' :: '-' :: (digits ++ [']']) := by decide +kernel
    have hread : (Json.readValue 1 item).isOk = true := by decide +kernel
    rw [htext] at hread ⊢
    cases h : Json.readValue 1 (' ' :: '-' :: (digits ++ [']'])) with
    | error f =>
      rw [h] at hread
      cases hread
    | ok r => exact ⟨r, rfl, hitem [']'] 1 r 1 hends h⟩

end SampleSchema
