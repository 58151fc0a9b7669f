/-
  Copies of JSON values.

  A copy makes new containers and nothing else: one for each array and object of the value.  So it
  shares nothing with what was there before, neither at first nor later.

  1. **The crux is where the containers stand** (`Heap.Laid`): those of a part of the value are a
     stretch of places, the stretches of the items of a container follow each other, and the
     container stands right behind them.  Copying lays a value out in this way, from the end of the
     heap on (`laid_ofJson`); what was laid before stays laid while more containers are added.

  2. The layout tells the rest.  Read from the root it is the value (`Laid.unfolds`); and going
     through all positions in the value, each place of the stretch is met exactly once
     (`Laid.enumerates`), because the stretches of different parts do not meet.

  3. Nor does a layout depend on anything outside its stretch (`Laid.frame`).  A call changes the
     contents of one place at most (`Session.kept_step`), so the copy unfolds to the value for as
     long as no call is made on its own containers (`Session.copy_fresh`).
-/
import SampleSchema.Proofs.Descent
import SampleSchema.Proofs.Unfolding

namespace SampleSchema

/-! ## Giving out numbers -/

/-- `f` gives out the numbers from `n` up to `m`, each of them once. -/
structure Enumerates {α : Type} (f : α → Option Nat) (n m : Nat) : Prop where
  le : n ≤ m
  within : ∀ a p, f a = some p → n ≤ p ∧ p < m
  once : ∀ p, n ≤ p → p < m → ∃! a, f a = some p

theorem enumerates_none {α : Type} {f : α → Option Nat} (h : ∀ a, f a = none) (n : Nat) :
    Enumerates f n n := by
  refine ⟨Nat.le_refl n, ?_, fun p hn hm => absurd hm (Nat.not_lt.mpr hn)⟩
  intro a p ha
  rw [h a] at ha
  cases ha

/-- What is made of two parts gives out the numbers of the one and then those of the other. -/
theorem Enumerates.append {α β γ : Type} {f : α → Option Nat} {g : β → Option Nat}
    {F : γ → Option Nat} {n k m : Nat} (hf : Enumerates f n k) (hg : Enumerates g k m)
    (left : α → γ) (right : β → γ) (hleft : ∀ a, F (left a) = f a)
    (hright : ∀ b, F (right b) = g b)
    (hall : ∀ c p, F c = some p → (∃ a, c = left a) ∨ ∃ b, c = right b) :
    Enumerates F n m := by
  refine ⟨Nat.le_trans hf.le hg.le, ?_, ?_⟩
  · intro c p hc
    rcases hall c p hc with ⟨a, rfl⟩ | ⟨b, rfl⟩
    · obtain ⟨hn, hk⟩ := hf.within a p ((hleft a).symm.trans hc)
      exact ⟨hn, Nat.lt_of_lt_of_le hk hg.le⟩
    · obtain ⟨hk, hm⟩ := hg.within b p ((hright b).symm.trans hc)
      exact ⟨Nat.le_trans hf.le hk, hm⟩
  · intro p hn hm
    by_cases hk : p < k
    · obtain ⟨a, ha, hone⟩ := hf.once p hn hk
      refine ⟨left a, (hleft a).trans ha, fun c hc => ?_⟩
      rcases hall c p hc with ⟨a', rfl⟩ | ⟨b, rfl⟩
      · rw [hone a' ((hleft a').symm.trans hc)]
      · -- the other part gives out greater numbers
        have := (hg.within b p ((hright b).symm.trans hc)).1
        omega
    · obtain ⟨b, hb, hone⟩ := hg.once p (Nat.le_of_not_lt hk) hm
      refine ⟨right b, (hright b).trans hb, fun c hc => ?_⟩
      rcases hall c p hc with ⟨a, rfl⟩ | ⟨b', rfl⟩
      · exact absurd (hf.within a p ((hleft a).symm.trans hc)).2 hk
      · rw [hone b' ((hright b').symm.trans hc)]

section

variable {σ : Type} {look : σ → Layer σ} {x : σ} {n m : Nat}

/-- A value that is no container and holds nothing has no identities inside. -/
theorem enumerates_scalar (hroot : (look x).identity? = none) (hparts : (look x).parts = []) :
    Enumerates (identityAt? look x) n n := by
  refine enumerates_none (fun p => ?_) n
  cases hp : identityAt? look x p with
  | none => rfl
  | some i =>
    rcases List.eq_nil_or_concat p with rfl | ⟨p, k, rfl⟩
    · exact hp.symm.trans hroot
    · rw [List.concat_eq_append] at hp
      obtain ⟨a, ha⟩ := exists_part_of_identityAt? hp
      rw [hparts] at ha
      cases ha

/-- A container gives out its identity after those of its parts. -/
theorem enumerates_container (hroot : (look x).identity? = some m)
    (hparts : Enumerates (fun at' : Nat × List Nat =>
      (look x).parts[at'.1]?.bind fun a => identityAt? look a at'.2) n m) :
    Enumerates (identityAt? look x) n (m + 1) := by
  have hself : Enumerates (fun _ : Unit => some m) m (m + 1) := by
    refine ⟨Nat.le_succ m, ?_, ?_⟩
    · rintro _ p ⟨⟩
      exact ⟨Nat.le_refl m, Nat.lt_succ_self m⟩
    · intro p hp hlt
      exact ⟨(), congrArg some (Nat.le_antisymm hp (Nat.le_of_lt_succ hlt)), fun _ _ => rfl⟩
  refine hparts.append hself (fun at' => at'.2 ++ [at'.1]) (fun _ => []) ?_ (fun _ => hroot) ?_
  · rintro ⟨k, p⟩
    cases hk : (look x).parts[k]? with
    | some a => exact identityAt?_part hk p
    | none =>
      show identityAt? look x (p ++ [k]) = none
      have hpart : partAt? look x [k] = none := hk
      rw [identityAt?_append, hpart]
      rfl
  · intro p _ _
    rcases List.eq_nil_or_concat p with rfl | ⟨p, k, rfl⟩
    · exact Or.inr ⟨(), rfl⟩
    · exact Or.inl ⟨(k, p), List.concat_eq_append⟩

end

/-! ## Layouts -/

/-- Members at the same places are related, over stretches that follow each other from `n` up to
    `m`. -/
inductive Row {α β : Type} (R : Nat → Nat → α → β → Prop) : Nat → Nat → List α → List β → Prop where
  | nil (n : Nat) : Row R n n [] []
  | cons {n k m : Nat} {x : α} {y : β} {xs : List α} {ys : List β} (le : n ≤ k) (head : R n k x y)
      (tail : Row R k m xs ys) : Row R n m (x :: xs) (y :: ys)

namespace Row

variable {α β : Type} {R : Nat → Nat → α → β → Prop} {n m : Nat} {xs : List α} {ys : List β}

theorem le (h : Row R n m xs ys) : n ≤ m := by
  induction h with
  | nil n => exact Nat.le_refl n
  | cons le _ _ ih => exact Nat.le_trans le ih

theorem imp {S : Nat → Nat → α → β → Prop} (h : Row R n m xs ys)
    (himp : ∀ a b x, ∀ y ∈ ys, n ≤ a → b ≤ m → R a b x y → S a b x y) : Row S n m xs ys := by
  induction h with
  | nil n => exact .nil n
  | cons le head tail ih =>
    refine .cons le (himp _ _ _ _ List.mem_cons_self (Nat.le_refl _) tail.le head) (ih ?_)
    intro a b x y hy ha hb hR
    exact himp a b x y (List.mem_cons_of_mem _ hy) (Nat.le_trans le ha) hb hR

theorem forall₂ {S : α → β → Prop} (h : Row R n m xs ys)
    (himp : ∀ a b x, ∀ y ∈ ys, R a b x y → S x y) : List.Forall₂ S xs ys := by
  induction h with
  | nil _ => exact .nil
  | cons _ head _ ih =>
    refine .cons (himp _ _ _ _ List.mem_cons_self head) (ih ?_)
    exact fun a b x y hy hR => himp a b x y (List.mem_cons_of_mem _ hy) hR

/-- If each member gives out the numbers of its stretch, all of them give out those of the row. -/
theorem enumerates {γ : Type} {f : α → γ → Option Nat} (h : Row R n m xs ys)
    (himp : ∀ a b x, ∀ y ∈ ys, R a b x y → Enumerates (f x) a b) :
    Enumerates (fun at' : Nat × γ => xs[at'.1]?.bind fun x => f x at'.2) n m := by
  induction h with
  | nil n => exact enumerates_none (fun _ => rfl) n
  | cons le head tail ih =>
    have hhead := himp _ _ _ _ List.mem_cons_self head
    have htail := ih fun a b x y hy hR => himp a b x y (List.mem_cons_of_mem _ hy) hR
    refine hhead.append htail (fun c => (0, c)) (fun at' => (at'.1 + 1, at'.2)) (fun _ => rfl)
      (fun _ => rfl) ?_
    rintro ⟨k, c⟩ _ _
    cases k with
    | zero => exact Or.inl ⟨c, rfl⟩
    | succ k => exact Or.inr ⟨(k, c), rfl⟩

end Row

namespace Heap

/-- The value stands behind the handle, with its containers at the places from `n` up to `m`: those
    of the parts one after the other, and the container right behind them. -/
inductive Laid (h : Heap) : Nat → Nat → Handle → Json → Prop where
  | null (n : Nat) : Laid h n n .null .null
  | boolean (n : Nat) (b : Bool) : Laid h n n (.boolean b) (.bool b)
  | number (n : Nat) (x : Number) : Laid h n n (.number x) (.number x)
  | string (n : Nat) (s : String) : Laid h n n (.string s) (.string s)
  | array {n m : Nat} {rs : List Handle} {vs : List Json} (items : Row (Laid h) n m rs vs)
      (cell : h.cells[m]? = some (.array rs)) : Laid h n (m + 1) (.array m) (.array vs)
  | object {n m : Nat} {es : Keyed Handle} {fs : List (String × Json)}
      (keys : es.map (·.1) = fs.map (·.1))
      (values : Row (Laid h) n m (es.map (·.2)) (fs.map (·.2)))
      (cell : h.cells[m]? = some (.object es)) : Laid h n (m + 1) (.object m) (.object fs)

variable {h h' : Heap} {n m p : Nat} {r : Handle} {v : Json}

theorem Laid.le (hr : h.Laid n m r v) : n ≤ m := by
  cases hr with
  | array items _ => exact Nat.le_succ_of_le items.le
  | object _ values _ => exact Nat.le_succ_of_le values.le
  | _ => exact Nat.le_refl _

/-- **A layout depends on its own places only.** -/
theorem Laid.frame (hr : h.Laid n m r v)
    (hkept : ∀ p c, n ≤ p → p < m → h.cells[p]? = some c → h'.cells[p]? = some c) :
    h'.Laid n m r v := by
  induction v generalizing n m r with
  | array vs ih =>
    cases hr with
    | @array _ m _ _ items cell =>
      refine .array (items.imp ?_) (hkept m _ items.le (Nat.lt_succ_self m) cell)
      intro a b x y hy ha hb hx
      exact ih y hy hx fun p c hp hlt => hkept p c (by omega) (by omega)
  | object fs ih =>
    cases hr with
    | @object _ m _ _ keys values cell =>
      refine .object keys (values.imp ?_) (hkept m _ values.le (Nat.lt_succ_self m) cell)
      intro a b x y hy ha hb hx
      obtain ⟨f, hf, rfl⟩ := List.mem_map.mp hy
      exact ih f hf hx fun p c hp hlt => hkept p c (by omega) (by omega)
  | null => cases hr; exact .null _
  | bool b => cases hr; exact .boolean _ b
  | number x => cases hr; exact .number _ x
  | string s => cases hr; exact .string _ s

theorem itemsAt_eq {rs : List Handle} (hp : h.cells[p]? = some (.array rs)) :
    h.itemsAt p = rs := by
  rw [itemsAt, hp]

theorem entriesAt_eq {es : Keyed Handle} (hp : h.cells[p]? = some (.object es)) :
    h.entriesAt p = es := by
  rw [entriesAt, hp]

/-- Read from its root, a layout is the value. -/
theorem Laid.unfolds (hr : h.Laid n m r v) : h.Unfolds r v := by
  induction v generalizing n m r with
  | array vs ih =>
    cases hr with
    | array items cell =>
      refine .array ?_
      rw [itemsAt_eq cell]
      exact items.forall₂ fun a b x y hy hx => ih y hy hx
  | object fs ih =>
    cases hr with
    | object keys values cell =>
      have hes := entriesAt_eq cell
      refine .object (by rw [hes, keys]) ?_
      rw [hes]
      refine values.forall₂ fun a b x y hy hx => ?_
      obtain ⟨f, hf, rfl⟩ := List.mem_map.mp hy
      exact ih f hf hx
  | null => cases hr; exact .null
  | bool b => cases hr; exact .boolean b
  | number x => cases hr; exact .number x
  | string s => cases hr; exact .string s

/-- **The containers of a layout stand at all of its places**, each at one. -/
theorem Laid.enumerates (hr : h.Laid n m r v) : Enumerates (identityAt? h.look r) n m := by
  induction v generalizing n m r with
  | array vs ih =>
    cases hr with
    | array items cell =>
      refine enumerates_container rfl ?_
      rw [look, Layer.parts_array, itemsAt_eq cell]
      exact items.enumerates fun a b x y hy hx => ih y hy hx
  | object fs ih =>
    cases hr with
    | object keys values cell =>
      refine enumerates_container rfl ?_
      rw [look, Layer.parts_object, entriesAt_eq cell]
      refine values.enumerates fun a b x y hy hx => ?_
      obtain ⟨f, hf, rfl⟩ := List.mem_map.mp hy
      exact ih f hf hx
  | _ =>
    cases hr
    exact enumerates_scalar rfl rfl

/-! ## Copying lays a value out -/

theorem laid_pushCell (hr : h.Laid n m r v) (c : Cell) : Laid ⟨h.cells.push c⟩ n m r v :=
  hr.frame fun _ _ _ _ hp => getElem?_pushCell c hp

mutual

/-- **Copying a value lays it out from the end of the heap on.** -/
theorem laid_ofJson (h : Heap) : ∀ {v : Json}, v.WellKeyed →
    (h.ofJson v).2.Laid h.cells.size (h.ofJson v).2.cells.size (h.ofJson v).1 v
  | .null, _ => .null _
  | .bool b, _ => .boolean _ b
  | .number x, _ => .number _ x
  | .string s, _ => .string _ s
  | .array xs, hv => by
    have hxs : ∀ x ∈ xs, x.WellKeyed := by
      cases hv with
      | array items => exact items
    have hitems := laid_ofItems h xs hxs
    rw [ofJson]
    dsimp only
    rw [Array.size_push]
    refine .array (hitems.imp fun a b x y _ _ _ hx => laid_pushCell hx _) ?_
    exact Array.getElem?_push_size
  | .object es, hv => by
    obtain ⟨hdistinct, hes⟩ : Keyed.Distinct es ∧ ∀ e ∈ es, e.2.WellKeyed := by
      cases hv with
      | object distinct entries => exact ⟨distinct, entries⟩
    obtain ⟨hkeys, hvalues⟩ := laid_ofJsonEntries h es hes
    -- the copy sets the keys one after the other, and none of them twice
    have hcopied : Keyed.ofEntries (h.ofJsonEntries es).1 = (h.ofJsonEntries es).1 := by
      refine Keyed.ofEntries_of_distinct ?_
      show ((h.ofJsonEntries es).1.map (·.1)).Nodup
      rw [hkeys]
      exact hdistinct
    rw [ofJson]
    dsimp only
    rw [Array.size_push, hcopied]
    refine .object hkeys (hvalues.imp fun a b x y _ _ _ hx => laid_pushCell hx _) ?_
    exact Array.getElem?_push_size

theorem laid_ofItems (h : Heap) : ∀ xs : List Json, (∀ x ∈ xs, x.WellKeyed) →
    Row (h.ofItems xs).2.Laid h.cells.size (h.ofItems xs).2.cells.size (h.ofItems xs).1 xs
  | [], _ => .nil _
  | x :: xs, hxs => by
    obtain ⟨hx, hxs⟩ := List.forall_mem_cons.mp hxs
    have hhead := laid_ofJson h hx
    have htail := laid_ofItems (h.ofJson x).2 xs hxs
    rw [ofItems]
    exact .cons hhead.le (hhead.frame fun _ _ _ _ hp => getElem?_ofItems hp xs) htail

theorem laid_ofJsonEntries (h : Heap) : ∀ es : List (String × Json), (∀ e ∈ es, e.2.WellKeyed) →
    (h.ofJsonEntries es).1.map (·.1) = es.map (·.1) ∧
      Row (h.ofJsonEntries es).2.Laid h.cells.size (h.ofJsonEntries es).2.cells.size
        ((h.ofJsonEntries es).1.map (·.2)) (es.map (·.2))
  | [], _ => ⟨rfl, .nil _⟩
  | (key, x) :: es, hes => by
    obtain ⟨hx, hes⟩ := List.forall_mem_cons.mp hes
    have hhead := laid_ofJson h hx
    obtain ⟨hkeys, htail⟩ := laid_ofJsonEntries (h.ofJson x).2 es hes
    rw [ofJsonEntries]
    refine ⟨congrArg (key :: ·) hkeys, ?_⟩
    exact .cons hhead.le (hhead.frame fun _ _ _ _ hp => getElem?_ofJsonEntries hp es) htail

end

/-! ## Nodes of the value and containers of the copy -/

theorem rel_getElem? {α β : Type} {R : α → β → Prop} {xs : List α} {ys : List β}
    (hxy : List.Forall₂ R xs ys) (k : Nat) : Option.Rel R xs[k]? ys[k]? := by
  induction hxy generalizing k with
  | nil => exact .none
  | cons head _ ih =>
    cases k with
    | zero => exact .some head
    | succ k => exact ih k

/-- What a handle unfolds to has something at the same positions, and that stands unfolded. -/
theorem Unfolds.rel_partAt? (hv : h.Unfolds r v) (node : List Nat) :
    Option.Rel h.Unfolds (partAt? h.look r node) (partAt? Json.look v node) := by
  induction node with
  | nil => exact .some hv
  | cons k node ih =>
    rw [partAt?, partAt?]
    generalize partAt? h.look r node = a, partAt? Json.look v node = w at ih
    cases ih with
    | none => exact .none
    | some hw => exact rel_getElem? hw.parts k

/-- There is a container where the value has a node, and nowhere else. -/
theorem Unfolds.makes_iff (hv : h.Unfolds r v) {node : List Nat} :
    (Operation.copy v).Makes node ↔ ∃ p, identityAt? h.look r node = some p := by
  have hpart := hv.rel_partAt? node
  unfold identityAt?
  constructor
  · rintro (_ | _ | hw | hw)
    all_goals
      rw [hw] at hpart
      generalize partAt? h.look r node = a at hpart
      cases hpart with
      | some hpart => cases hpart; exact ⟨_, rfl⟩
  · rintro ⟨p, hp⟩
    obtain ⟨a, ha, hp⟩ := Option.bind_eq_some_iff.mp hp
    rw [ha] at hpart
    cases hw : partAt? Json.look v node with
    | none => rw [hw] at hpart; cases hpart
    | some w =>
      rw [hw] at hpart
      cases hpart with
      | some hpart =>
        cases hpart with
        | array _ => exact .items hw
        | object _ _ => exact .entries hw
        | _ => cases hp

/-! ## Calls on other containers -/

theorem kept_modify {c : Cell} (hc : h.cells[p]? = some c) {q : Nat} (f : Cell → Cell)
    (hne : some q ≠ some p) : (h.cells.modify q f)[p]? = some c := by
  rw [Array.getElem?_modify, if_neg fun hq => hne (congrArg some hq)]
  exact hc

theorem kept_push {c : Cell} (hc : h.cells[p]? = some c) {a : Handle} (ha : a.place? ≠ some p)
    (b : Handle) : (h.push a b).2.cells[p]? = some c := by
  cases a with
  | array q => exact kept_modify hc _ ha
  | _ => exact hc

theorem kept_insert {c : Cell} (hc : h.cells[p]? = some c) {a : Handle} (ha : a.place? ≠ some p)
    (key : String) (b : Handle) : (h.insert a key b).2.cells[p]? = some c := by
  cases a with
  | object q => exact kept_modify hc _ ha
  | _ => exact hc

theorem kept_clear {c : Cell} (hc : h.cells[p]? = some c) {a : Handle} (ha : a.place? ≠ some p) :
    (h.clear a).cells[p]? = some c := by
  unfold clear
  split
  · exact hc
  · next q hq => exact kept_modify hc _ (hq ▸ ha)

end Heap

/-- The register of the handle that a call is made on, if it may change something. -/
def Operation.receiver? : Operation → Option Nat
  | .push r _ | .insert r _ _ | .clear r => some r
  | _ => none

namespace Session

variable {S : Session} {p : Nat} {c : Cell}

/-- **A call that is meant for another container leaves this one as it is**, whatever the handles
    refer to. -/
theorem kept_step (hc : S.heap.cells[p]? = some c) {op : Operation}
    (hother : ∀ x, S.change? op ≠ some (p, x)) : (S.step op).heap.cells[p]? = some c := by
  cases op with
  | newArray => exact Heap.getElem?_pushCell _ hc
  | newObject => exact Heap.getElem?_pushCell _ hc
  | foreign label => exact hc
  | copy v => exact Heap.getElem?_ofJson hc v
  | duplicate r | item r index | entry r key =>
    rw [Session.step, heap_keep?]
    exact hc
  | push r v =>
    rw [Session.step]
    split
    · next a b ha hb =>
      refine Heap.kept_push hc (fun hap => hother (.push b) ?_) b
      simp [change?, ha, hb, hap]
    · exact hc
  | insert r key v =>
    rw [Session.step]
    split
    · next a b ha hb =>
      refine Heap.kept_insert hc (fun hap => hother (.insert key b) ?_) key b
      simp [change?, ha, hb, hap]
    · exact hc
  | clear r =>
    rw [Session.step]
    split
    · next a ha =>
      refine Heap.kept_clear hc fun hap => hother .clear ?_
      simp [change?, ha, hap]
    · exact hc

theorem changesAt_eq_nil_iff {op : Operation} :
    S.changesAt p op = [] ↔ ∀ x, S.change? op ≠ some (p, x) := by
  unfold changesAt
  cases S.change? op with
  | none => simp
  | some x =>
    obtain ⟨q, x⟩ := x
    by_cases hq : q = p <;> simp [Option.filter_some, hq]

/-- **A container that no call is meant for is kept** over a whole run. -/
theorem kept_run {later : List Operation} (hc : S.heap.cells[p]? = some c)
    (hother : changes p S later = []) : (later.foldl Session.step S).heap.cells[p]? = some c := by
  induction later generalizing S with
  | nil => exact hc
  | cons op later ih =>
    rw [changes, List.append_eq_nil_iff] at hother
    exact ih (kept_step hc (changesAt_eq_nil_iff.mp hother.1)) hother.2

/-! ## Handles from before -/

theorem receiver_of_change {op : Operation} {x : Change} (h : S.change? op = some (p, x)) :
    ∃ r a, op.receiver? = some r ∧ S.registers[r]? = some a ∧ a.place? = some p := by
  cases op with
  | push r v | insert r key v =>
    obtain ⟨a, ha, h⟩ := Option.bind_eq_some_iff.mp h
    obtain ⟨b, _, h⟩ := Option.bind_eq_some_iff.mp h
    obtain ⟨q, hq, h⟩ := Option.map_eq_some_iff.mp h
    cases h
    exact ⟨r, a, rfl, ha, hq⟩
  | clear r =>
    obtain ⟨a, ha, h⟩ := Option.bind_eq_some_iff.mp h
    obtain ⟨q, hq, h⟩ := Option.map_eq_some_iff.mp h
    cases h
    exact ⟨r, a, rfl, ha, hq⟩
  | _ => cases h

/-- A client keeps the handles that it holds. -/
theorem registers_step (S : Session) (op : Operation) :
    S.registers <+: (S.step op).registers := by
  have hkeep : ∀ (o : Option Handle), S.registers <+: (S.keep? o).registers := by
    intro o
    cases o with
    | none => exact List.prefix_refl _
    | some r => exact List.prefix_append _ _
  cases op with
  | newArray | newObject | foreign label | copy v => exact List.prefix_append _ _
  | duplicate r | item r index | entry r key => exact hkeep _
  | push r v | insert r key v | clear r =>
    rw [Session.step]
    split <;> exact List.prefix_refl _

/-- Calls on handles that were held when the heap had `n` containers change none that came later. -/
theorem changes_of_receivers {older : List Handle} {n : Nat}
    (holder : ∀ a ∈ older, ∀ q, a.place? = some q → q < n) (hp : n ≤ p) :
    ∀ {later : List Operation} {T : Session}, older <+: T.registers →
      (∀ op ∈ later, ∀ r, op.receiver? = some r → r < older.length) → changes p T later = [] := by
  intro later
  induction later with
  | nil => intro T _ _; rfl
  | cons op later ih =>
    intro T hT hlater
    obtain ⟨hop, hlater⟩ := List.forall_mem_cons.mp hlater
    rw [changes, List.append_eq_nil_iff]
    refine ⟨changesAt_eq_nil_iff.mpr fun x hx => ?_, ih (hT.trans (registers_step T op)) hlater⟩
    obtain ⟨r, a, hr, ha, hap⟩ := receiver_of_change hx
    -- the handle stood in this register from the start
    obtain ⟨rest, hrest⟩ := hT
    have hold : older[r]? = some a := by
      rw [← ha, ← hrest, List.getElem?_append_left (hop r hr)]
    exact absurd (holder a (List.mem_of_getElem? hold) p hap) (Nat.not_lt.mpr hp)

/-! ## Copies in a run -/

/-- A copy unfolds to the value for as long as no call is made on its own containers. -/
theorem unfolds_of_unchanged {v : Json} (hv : v.WellKeyed) {later : List Operation}
    (hlater : ∀ p, S.heap.cells.size ≤ p → p < (S.heap.ofJson v).2.cells.size →
      changes p (S.step (.copy v)) later = []) :
    (later.foldl Session.step (S.step (.copy v))).heap.Unfolds (S.heap.ofJson v).1 v := by
  refine Heap.Laid.unfolds ((Heap.laid_ofJson S.heap hv).frame ?_)
  intro p c hp hlt hc
  exact kept_run hc (hlater p hp hlt)

/-- **Copies are faithful and fresh**, in every heap.  Copying a value leaves every container as it
    is, and makes exactly one new container for each array and each object of the value: the
    identities in the copy are the new places, each of them at one node.  The copy unfolds to the
    value, to nothing else, and leads to no cycle.  That stays so for as long as the calls that
    follow are not made on the new containers; and calls on handles that a client held before are
    not. -/
theorem copy_fresh (S : Session) {v : Json} (hv : v.WellKeyed) :
    let h := S.heap
    let r := (h.ofJson v).1
    let h' := (h.ofJson v).2
    (∀ (p : Nat) (c : Cell), h.cells[p]? = some c → h'.cells[p]? = some c) ∧
      (∀ node, (Operation.copy v).Makes node ↔ ∃ p, identityAt? h'.look r node = some p) ∧
      Enumerates (identityAt? h'.look r) h.cells.size h'.cells.size ∧
      (∀ w, h'.Unfolds r w ↔ w = v) ∧ h'.AcyclicFrom r ∧
      (∀ later : List Operation, (∀ p, h.cells.size ≤ p → p < h'.cells.size →
          changes p (S.step (.copy v)) later = []) →
        ∀ w, (later.foldl Session.step (S.step (.copy v))).heap.Unfolds r w ↔ w = v) ∧
      (S.Sound → ∀ later : List Operation,
          (∀ op ∈ later, ∀ a, op.receiver? = some a → a < S.registers.length) →
        ∀ w, (later.foldl Session.step (S.step (.copy v))).heap.Unfolds r w ↔ w = v) := by
  intro h r h'
  have hlaid : h'.Laid h.cells.size h'.cells.size r v := Heap.laid_ofJson h hv
  have honly : ∀ {g : Heap}, g.Unfolds r v → ∀ w, g.Unfolds r w ↔ w = v :=
    fun hg w => ⟨fun hw => hw.unique hg, fun hw => hw ▸ hg⟩
  refine ⟨fun p c hc => Heap.getElem?_ofJson hc v, fun node => hlaid.unfolds.makes_iff,
    hlaid.enumerates, honly hlaid.unfolds, hlaid.unfolds.acyclicFrom,
    fun later hlater => honly (unfolds_of_unchanged hv hlater), ?_⟩
  intro hsound later hlater
  refine honly (unfolds_of_unchanged hv fun p hp _ => ?_)
  have holder : ∀ a ∈ S.registers, ∀ q, a.place? = some q → q < S.heap.cells.size :=
    fun a ha q hq => (hsound.refers a ha).place_lt hq
  exact changes_of_receivers holder hp (registers_step S (.copy v)) hlater

/-- A list that holds itself gets a copy pushed into it and is cleared, and an object takes the copy
    in: the copy stays. -/
theorem copy_fresh_knot :
    let S := run [.newArray, .newObject, .push 0 0]
    let v : Json := .object [("rows", .array [.null, .array []]), ("none", .object [])]
    let later : List Operation := [.push 0 2, .insert 1 "copy" 2, .clear 0]
    v.WellKeyed ∧ S.Sound ∧
      (S.heap.ofJson v).2.cells = #[.array [.array 0], .object [], .array [],
        .array [.null, .array 2], .object [], .object [("rows", .array 3), ("none", .object 4)]] ∧
      (later.foldl Session.step (S.step (.copy v))).heap.cells[0]? = some (.array []) ∧
      (later.foldl Session.step (S.step (.copy v))).heap.cells[1]? =
        some (.object [("copy", .object 5)]) ∧
      (later.foldl Session.step (S.step (.copy v))).heap.Unfolds (.object 5) v := by
  intro S v later
  have hv : v.WellKeyed := by
    refine .object (show List.Nodup ["rows", "none"] by decide) ?_
    simp only [List.forall_mem_cons]
    refine ⟨.array ?_, .object List.nodup_nil ?_, ?_⟩
    · simp only [List.forall_mem_cons]
      exact ⟨.null, .array (fun x hx => absurd hx List.not_mem_nil),
        fun x hx => absurd hx List.not_mem_nil⟩
    · exact fun e he => absurd he List.not_mem_nil
    · exact fun e he => absurd he List.not_mem_nil
  have hS : S.Sound := sound_run _
  have hlater : ∀ op ∈ later, ∀ a, op.receiver? = some a → a < S.registers.length := by
    simp only [later, List.forall_mem_cons, Operation.receiver?, Option.some.injEq]
    refine ⟨?_, ?_, ?_, fun op hop => absurd hop List.not_mem_nil⟩
    all_goals
      rintro a rfl
      decide
  refine ⟨hv, hS, by decide +kernel, by decide +kernel, by decide +kernel, ?_⟩
  exact ((copy_fresh S hv).2.2.2.2.2.2 hS later hlater v).mpr rfl

end Session
end SampleSchema
