/-
  Samples that look alike, seen through different views.

  What inference makes of a sample is told by its outline, and the outline looks at the sample one
  layer at a time.  So two samples have the same outline when their layers agree wherever the walk
  gets to: the same scalars, the same keys, and containers that both repeat one around them or both
  do not.  Which identities they have does not matter beyond that.

  `Simulates` says this for one step, of a relation between values in their places (a value together
  with the identities of the containers around it); `outline_eq_of_simulates` draws the conclusion
  for a whole sample, by induction on the room above the limit.  No recursion over the samples is
  needed, and the samples may go round in cycles.

  The plainest view of a JSON value is `Json.look`, in which no container has an identity.  A value
  whose containers are numbered is simulated by it, since a number is given out once
  (`numbered_simulates`).  Hence inference on JSON values may be reasoned about without numbers
  (`inferJson_eq`).
-/
import Mathlib.Data.List.Forall2
import SampleSchema.Proofs.Outline

namespace SampleSchema

variable {σ τ : Type}

/-! ## Lists that are related member by member -/

/-- Parts that are related one by one satisfy what each of them does. -/
theorem forall₂_of_mem {α β : Type} {R S : α → β → Prop} {xs : List α} {ys : List β}
    (h : List.Forall₂ R xs ys) (hRS : ∀ x ∈ xs, ∀ y, R x y → S x y) : List.Forall₂ S xs ys := by
  induction h with
  | nil => exact .nil
  | cons hxy _ ih =>
    exact .cons (hRS _ List.mem_cons_self _ hxy)
      (ih fun x hx => hRS x (List.mem_cons_of_mem _ hx))

theorem exists_of_mem_right {α β : Type} {R : α → β → Prop} {xs : List α} {vs : List β}
    (h : List.Forall₂ R xs vs) {v : β} (hv : v ∈ vs) : ∃ x ∈ xs, R x v := by
  induction h with
  | nil => exact absurd hv List.not_mem_nil
  | @cons x w xs ws hxw _ ih =>
    rcases List.mem_cons.mp hv with rfl | hv
    · exact ⟨x, List.mem_cons_self, hxw⟩
    · obtain ⟨y, hy, hyv⟩ := ih hv
      exact ⟨y, List.mem_cons_of_mem _ hy, hyv⟩

theorem exists_of_mem_left {α β : Type} {R : α → β → Prop} {xs : List α} {vs : List β}
    (h : List.Forall₂ R xs vs) {x : α} (hx : x ∈ xs) : ∃ v ∈ vs, R x v :=
  exists_of_mem_right h.flip hx

/-- Functions that agree on related members agree on related lists. -/
theorem map_eq_map_of_forall₂ {α β γ : Type} {R : α → β → Prop} {f : α → γ} {g : β → γ}
    {xs : List α} {ys : List β} (h : List.Forall₂ R xs ys)
    (hfg : ∀ x ∈ xs, ∀ y, R x y → f x = g y) : xs.map f = ys.map g := by
  induction h with
  | nil => rfl
  | cons hxy _ ih =>
    rw [List.map_cons, List.map_cons, hfg _ List.mem_cons_self _ hxy,
      ih fun x hx => hfg x (List.mem_cons_of_mem _ hx)]

/-- Entries related key by key and value by value. -/
theorem forall₂_entries_iff {α β : Type} {R : α → β → Prop} {es : List (String × α)} :
    ∀ {fs : List (String × β)},
      List.Forall₂ (fun e f => e.1 = f.1 ∧ R e.2 f.2) es fs ↔
        es.map (·.1) = fs.map (·.1) ∧ List.Forall₂ R (es.map (·.2)) (fs.map (·.2)) := by
  induction es with
  | nil =>
    intro fs
    cases fs with
    | nil => exact ⟨fun _ => ⟨rfl, .nil⟩, fun _ => .nil⟩
    | cons f fs => exact ⟨nofun, fun h => absurd h.1 nofun⟩
  | cons e es ih =>
    intro fs
    cases fs with
    | nil => exact ⟨nofun, fun h => absurd h.1 nofun⟩
    | cons f fs =>
      simp only [List.map_cons, List.forall₂_cons, List.cons.injEq, ih]
      exact ⟨fun ⟨⟨hk, hr⟩, hks, hrs⟩ => ⟨⟨hk, hks⟩, hr, hrs⟩,
        fun ⟨⟨hk, hks⟩, hr, hrs⟩ => ⟨⟨hk, hr⟩, hks, hrs⟩⟩

/-! ## One step -/

/-- Two layers tell the same, inside the containers `above` and `above'`; parts that stand at one
    place are related by `R`, inside the containers that are around them. -/
inductive Layer.Matches (R : List Nat → List Nat → σ → τ → Prop) (above above' : List Nat) :
    Layer σ → Layer τ → Prop where
  | null : Matches R above above' .null .null
  | boolean : Matches R above above' .boolean .boolean
  | number (n : Number) : Matches R above above' (.number n) (.number n)
  | string (s : String) : Matches R above above' (.string s) (.string s)
  | foreign : Matches R above above' .foreign .foreign
  | array {i j : Option Nat} {xs : List σ} {ys : List τ}
      (guard : Repeats i above ↔ Repeats j above')
      (items : List.Forall₂ (R (i.toList ++ above) (j.toList ++ above')) xs ys) :
      Matches R above above' (.array i xs) (.array j ys)
  | object {i j : Option Nat} {es : List (String × σ)} {fs : List (String × τ)}
      (guard : Repeats i above ↔ Repeats j above')
      (entries : List.Forall₂
        (fun e f => e.1 = f.1 ∧ R (i.toList ++ above) (j.toList ++ above') e.2 f.2) es fs) :
      Matches R above above' (.object i es) (.object j fs)

/-- Values that `R` relates have layers that tell the same, and so on for their parts. -/
def Simulates (look : σ → Layer σ) (look' : τ → Layer τ)
    (R : List Nat → List Nat → σ → τ → Prop) : Prop :=
  ∀ above above' x y, R above above' x y → Layer.Matches R above above' (look x) (look' y)

/-! ## A whole sample -/

/-- **Related values have one outline.**  The induction is on the room above the limit. -/
theorem outline_eq_of_simulates {look : σ → Layer σ} {look' : τ → Layer τ}
    {R : List Nat → List Nat → σ → τ → Prop} (h : Simulates look look' R) (limit : Nat) :
    ∀ (room depth : Nat) (above above' : List Nat) (x : σ) (y : τ), limit - depth = room →
      R above above' x y →
      outline limit look depth above x = outline limit look' depth above' y := by
  intro room
  induction room with
  | zero =>
    -- at the limit both containers are cut off, whatever their identities
    intro depth above above' x y hroom hxy
    have hlimit : limit ≤ depth := by omega
    have hlayers := h above above' x y hxy
    rw [outline, outline.eq_def limit look']
    generalize look x = layer, look' y = layer' at hlayers ⊢
    cases hlayers with
    | array guard items => simp only [if_pos hlimit]
    | object guard entries => simp only [if_pos hlimit]
    | _ => rfl
  | succ room ih =>
    intro depth above above' x y hroom hxy
    have hlimit : ¬ limit ≤ depth := by omega
    have hnext : limit - (depth + 1) = room := by omega
    have hlayers := h above above' x y hxy
    rw [outline, outline.eq_def limit look']
    generalize look x = layer, look' y = layer' at hlayers ⊢
    cases hlayers with
    | @array i j xs ys guard items =>
      simp only [if_neg hlimit]
      by_cases hrep : Repeats i above
      · rw [if_pos hrep, if_pos (guard.mp hrep)]
      · rw [if_neg hrep, if_neg fun hc => hrep (guard.mpr hc)]
        congr 1
        exact map_eq_map_of_forall₂ items fun a _ b hab => ih (depth + 1) _ _ a b hnext hab
    | @object i j es fs guard entries =>
      simp only [if_neg hlimit]
      by_cases hrep : Repeats i above
      · rw [if_pos hrep, if_pos (guard.mp hrep)]
      · rw [if_neg hrep, if_neg fun hc => hrep (guard.mpr hc)]
        congr 1
        refine map_eq_map_of_forall₂ entries ?_
        rintro a _ b ⟨hkey, hab⟩
        rw [hkey, ih (depth + 1) _ _ a.2 b.2 hnext hab]
    | _ => rfl

/-- **Related samples infer alike**, events included. -/
theorem infer_eq_of_simulates {look : σ → Layer σ} {look' : τ → Layer τ}
    {R : List Nat → List Nat → σ → τ → Prop} (h : Simulates look look' R) (s : Settings)
    {x : σ} {y : τ} (hxy : R [] [] x y) : infer s look x = infer s look' y := by
  rw [infer_eq, infer_eq, outline_eq_of_simulates h s.maxDepth _ 0 [] [] x y rfl hxy]

/-! ## JSON values without identities -/

namespace Json

/-- One layer of a JSON value, whose containers have no identity. -/
def look : Json → Layer Json
  | null => .null
  | bool _ => .boolean
  | number n => .number n
  | string s => .string s
  | array xs => .array none xs
  | object es => .object none es

/-! ## Numbers are given out once -/

mutual

/-- Numbering goes up. -/
theorem le_numberFrom (n : Nat) : ∀ v : Json, n ≤ (v.numberFrom n).2
  | null | bool _ | number _ | string _ => Nat.le_refl n
  | array xs => Nat.le_of_succ_le (le_numberItems (n + 1) xs)
  | object es => Nat.le_of_succ_le (le_numberEntries (n + 1) es)

theorem le_numberItems (n : Nat) : ∀ xs : List Json, n ≤ (numberItems n xs).2
  | [] => Nat.le_refl n
  | x :: xs => Nat.le_trans (le_numberFrom n x) (le_numberItems _ xs)

theorem le_numberEntries (n : Nat) : ∀ es : List (String × Json), n ≤ (numberEntries n es).2
  | [] => Nat.le_refl n
  | (_, x) :: es => Nat.le_trans (le_numberFrom n x) (le_numberEntries _ es)

end

/-- `x` is `v` with its containers numbered, from a number on which none of the containers around it
    has reached. -/
def IsNumbered (above _above' : List Nat) (x : Node) (v : Json) : Prop :=
  ∃ n, (∀ i ∈ above, i < n) ∧ x = (v.numberFrom n).1

theorem forall₂_numberItems {above above' : List Nat} (xs : List Json) : ∀ n, (∀ i ∈ above, i < n) →
    List.Forall₂ (IsNumbered above above') (numberItems n xs).1 xs := by
  induction xs with
  | nil => intro n _; exact .nil
  | cons x xs ih =>
    intro n hn
    refine .cons ⟨n, hn, rfl⟩ (ih _ ?_)
    intro i hi
    exact Nat.lt_of_lt_of_le (hn i hi) (le_numberFrom n x)

theorem forall₂_numberEntries {above above' : List Nat} (es : List (String × Json)) :
    ∀ n, (∀ i ∈ above, i < n) →
    List.Forall₂ (fun e f => e.1 = f.1 ∧ IsNumbered above above' e.2 f.2)
      (numberEntries n es).1 es := by
  induction es with
  | nil => intro n _; exact .nil
  | cons e es ih =>
    intro n hn
    refine .cons ⟨rfl, n, hn, rfl⟩ (ih _ ?_)
    intro i hi
    exact Nat.lt_of_lt_of_le (hn i hi) (le_numberFrom n e.2)

/-- **A number is not met inside itself**, so numbers make no difference. -/
theorem numbered_simulates : Simulates Node.look look IsNumbered := by
  rintro above above' x v ⟨n, hn, rfl⟩
  -- the container gets `n`, those around it have less, and those inside it get more
  have hguard : Repeats (some n) above ↔ Repeats none above' := by
    constructor
    · rintro ⟨i, hi, hni⟩
      have hlt := hn i hi
      cases hni
      omega
    · rintro ⟨i, _, hni⟩
      cases hni
  have hinside : ∀ i ∈ (some n).toList ++ above, i < n + 1 := by
    intro i hi
    rcases List.mem_cons.mp hi with rfl | hi
    · exact Nat.lt_succ_self i
    · exact Nat.lt_succ_of_lt (hn i hi)
  cases v with
  | null => exact .null
  | bool b => exact .boolean
  | number m => exact .number m
  | string s => exact .string s
  | array xs => exact .array hguard (forall₂_numberItems xs (n + 1) hinside)
  | object es => exact .object hguard (forall₂_numberEntries es (n + 1) hinside)

end Json

/-- The outline of a numbered value, at any depth, is that of the value without numbers. -/
theorem outline_numbered (limit depth : Nat) (v : Json) :
    outline limit Node.look depth [] v.numbered = outline limit Json.look depth [] v := by
  refine outline_eq_of_simulates Json.numbered_simulates limit _ depth [] [] _ v rfl ?_
  exact ⟨0, fun i hi => absurd hi List.not_mem_nil, rfl⟩

/-- Inference on a JSON value sees no identities. -/
theorem inferJson_eq (s : Settings) (v : Json) : inferJson s v = infer s Json.look v := by
  unfold inferJson
  rw [infer_eq, infer_eq, outline_numbered]

end SampleSchema
