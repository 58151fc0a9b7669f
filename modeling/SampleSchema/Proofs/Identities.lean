/-
  Which identities matter.

  An identity is whatever number a container happens to have, and the walk compares it with those of
  all the containers that are open.  Inference depends on far less: on whether a container has the
  identity of one of the containers AROUND it.

  1. **Positions.**  A sample is looked at from its root: `partAt?` is the value at a position,
     `identityAt?` the identity of the container there.  A container stands around a value if its
     position is what the position of the value ends in.

  2. **Two samples** are one tree (`SameTree`) when at every position both have a value of the same
     kind, with the same scalar, keys and number of items; their identities agree along the paths
     (`SamePaths`) when a container has the identity of one around it in both samples or in neither.

  3. **The crux (`sameTree_simulates`).**  Going down both samples in step, the containers around
     the present position are told by `around` on either side, and whether the container here
     repeats one of them is a matter of the path alone (`repeats_around_iff`).  So the step is one
     of `Simulates`, and whole samples infer alike.

  4. Giving other identities (`relabel`) keeps the tree, hence an injective renaming changes
     nothing, and neither do new identities for containers that no path meets twice
     (`infer_eq_of_sameTree`).
-/
import Mathlib.Data.List.Forall2
import SampleSchema.Proofs.Simulation
import SampleSchema.Proofs.Termination

namespace SampleSchema

variable {σ τ : Type} {look : σ → Layer σ} {look' : τ → Layer τ} {x : σ} {y : τ}

/-! ## Positions -/

/-- The value at a position.  A position says which part to take at each container on the way down,
    the last one first. -/
def partAt? (look : σ → Layer σ) (x : σ) : List Nat → Option σ
  | [] => some x
  | n :: position => (partAt? look x position).bind fun y => (look y).parts[n]?

/-- The identity of the container at a position, if there is one and it has one. -/
def identityAt? (look : σ → Layer σ) (x : σ) (position : List Nat) : Option Nat :=
  (partAt? look x position).bind fun y => (look y).identity?

/-- Are there containers at both positions that have the same identity? -/
def SharesIdentity (look : σ → Layer σ) (x : σ) (p q : List Nat) : Prop :=
  ∃ i, identityAt? look x p = some i ∧ identityAt? look x q = some i

/-- There is something at positions that share an identity. -/
theorem SharesIdentity.exists_parts {p q : List Nat} (h : SharesIdentity look x p q) :
    ∃ a b, partAt? look x p = some a ∧ partAt? look x q = some b := by
  obtain ⟨i, hp, hq⟩ := h
  obtain ⟨a, ha, _⟩ := Option.bind_eq_some_iff.mp hp
  obtain ⟨b, hb, _⟩ := Option.bind_eq_some_iff.mp hq
  exact ⟨a, b, ha, hb⟩

/-- The identities of the containers around a position, innermost first. -/
def around (look : σ → Layer σ) (x : σ) : List Nat → List Nat
  | [] => []
  | _ :: position => (identityAt? look x position).toList ++ around look x position

theorem identityAt?_eq {p : List Nat} {a : σ} (h : partAt? look x p = some a) :
    identityAt? look x p = (look a).identity? := by
  rw [identityAt?, h]
  rfl

theorem mem_around {i : Nat} {p : List Nat} :
    i ∈ around look x p ↔
      ∃ path q, path ≠ [] ∧ p = path ++ q ∧ identityAt? look x q = some i := by
  induction p with
  | nil =>
    constructor
    · intro h
      exact absurd h List.not_mem_nil
    · rintro ⟨path, q, hpath, hp, _⟩
      exact absurd (List.append_eq_nil_iff.mp hp.symm).1 hpath
  | cons n p ih =>
    rw [around, List.mem_append, Option.mem_toList, ih]
    constructor
    · rintro (hi | ⟨path, q, _, rfl, hi⟩)
      · exact ⟨[n], p, List.cons_ne_nil _ _, rfl, hi⟩
      · exact ⟨n :: path, q, List.cons_ne_nil _ _, rfl, hi⟩
    · rintro ⟨path, q, hpath, hp, hi⟩
      -- the container is the innermost one, or one further out
      obtain ⟨m, path, rfl⟩ := List.exists_cons_of_ne_nil hpath
      obtain ⟨rfl, rfl⟩ := List.cons.inj hp
      cases path with
      | nil => exact Or.inl hi
      | cons k path => exact Or.inr ⟨k :: path, q, List.cons_ne_nil _ _, rfl, hi⟩

/-- **A container repeats one around it** exactly if it shares its identity with one further out on
    its path. -/
theorem repeats_around_iff {p : List Nat} :
    Repeats (identityAt? look x p) (around look x p) ↔
      ∃ path q, path ≠ [] ∧ p = path ++ q ∧ SharesIdentity look x p q := by
  constructor
  · rintro ⟨i, hi, hpi⟩
    obtain ⟨path, q, hpath, hp, hqi⟩ := mem_around.mp hi
    exact ⟨path, q, hpath, hp, i, hpi, hqi⟩
  · rintro ⟨path, q, hpath, hp, i, hpi, hqi⟩
    exact ⟨i, mem_around.mpr ⟨path, q, hpath, hp, hqi⟩, hpi⟩

/-! ## Two samples that are one tree -/

/-- What a layer tells besides identities: the kind, the scalar, the number of items, the keys. -/
def Layer.front : Layer σ → Layer Unit
  | .null => .null
  | .boolean => .boolean
  | .number n => .number n
  | .string s => .string s
  | .array _ xs => .array none (xs.map fun _ => ())
  | .object _ es => .object none (es.map fun e => (e.1, ()))
  | .foreign => .foreign

/-- The same kinds, scalars, keys and children everywhere. -/
def SameTree (look : σ → Layer σ) (x : σ) (look' : τ → Layer τ) (y : τ) : Prop :=
  ∀ p, (partAt? look x p).map (fun a => (look a).front) =
    (partAt? look' y p).map fun b => (look' b).front

/-- A container has the identity of one around it in both samples or in neither. -/
def SamePaths (look : σ → Layer σ) (x : σ) (look' : τ → Layer τ) (y : τ) : Prop :=
  ∀ path q, path ≠ [] →
    (SharesIdentity look x (path ++ q) q ↔ SharesIdentity look' y (path ++ q) q)

/-- Lists of one length are related, if their members are, place by place. -/
theorem forall₂_of_getElem? {α β : Type} {R : α → β → Prop} {xs : List α} {ys : List β}
    (hlength : xs.length = ys.length)
    (h : ∀ (n : Nat) a b, xs[n]? = some a → ys[n]? = some b → R a b) : List.Forall₂ R xs ys := by
  refine List.forall₂_iff_get.mpr ⟨hlength, ?_⟩
  intro n hx hy
  exact h n _ _ (List.getElem?_eq_getElem hx) (List.getElem?_eq_getElem hy)

/-- Layers with one front tell the same, if their guards agree and so do their parts, place by
    place. -/
theorem Layer.matches_of_front {R : List Nat → List Nat → σ → τ → Prop} {above above' : List Nat}
    {l : Layer σ} {l' : Layer τ} (hfront : l.front = l'.front)
    (hguard : Repeats l.identity? above ↔ Repeats l'.identity? above')
    (hparts : ∀ (n : Nat) a b, l.parts[n]? = some a → l'.parts[n]? = some b →
      R (l.identity?.toList ++ above) (l'.identity?.toList ++ above') a b) :
    Layer.Matches R above above' l l' := by
  cases l with
  | array i xs =>
    cases l' with
    | array j ys =>
      have hlength : xs.length = ys.length := by
        simpa [front, items] using congrArg (fun l => l.items.length) hfront
      refine .array hguard (forall₂_of_getElem? hlength ?_)
      intro n a b ha hb
      exact hparts n a b (by rwa [parts_array]) (by rwa [parts_array])
    | _ => cases hfront
  | object i es =>
    cases l' with
    | object j fs =>
      have hkeys : es.map (·.1) = fs.map (·.1) := by
        simpa [front, entries, Function.comp_def] using
          congrArg (fun l => l.entries.map (·.1)) hfront
      have hlength : es.length = fs.length := by
        simpa using congrArg List.length hkeys
      refine .object hguard (forall₂_of_getElem? hlength ?_)
      intro n e f he hf
      have hkey : some e.1 = some f.1 := by
        simpa [he, hf] using congrArg (fun ks => ks[n]?) hkeys
      refine ⟨Option.some.inj hkey, hparts n e.2 f.2 ?_ ?_⟩
      · simp [he]
      · simp [hf]
    | _ => cases hfront
  | _ =>
    cases l' <;> cases hfront
    constructor

/-! ## Going down both samples in step -/

/-- Two values at one position, with the containers around them. -/
def InStep (look : σ → Layer σ) (x : σ) (look' : τ → Layer τ) (y : τ) (above above' : List Nat)
    (a : σ) (b : τ) : Prop :=
  ∃ p, partAt? look x p = some a ∧ partAt? look' y p = some b ∧
    above = around look x p ∧ above' = around look' y p

/-- The guard decides alike at every position. -/
theorem SamePaths.repeats_iff (h : SamePaths look x look' y) (p : List Nat) :
    Repeats (identityAt? look x p) (around look x p) ↔
      Repeats (identityAt? look' y p) (around look' y p) := by
  rw [repeats_around_iff, repeats_around_iff]
  constructor
  · rintro ⟨path, q, hpath, rfl, hshares⟩
    exact ⟨path, q, hpath, rfl, (h path q hpath).mp hshares⟩
  · rintro ⟨path, q, hpath, rfl, hshares⟩
    exact ⟨path, q, hpath, rfl, (h path q hpath).mpr hshares⟩

/-- **One step down.**  What stands at one position of one tree tells the same on both sides, and
    the parts of it stand at one position again. -/
theorem sameTree_simulates (htree : SameTree look x look' y) (hpaths : SamePaths look x look' y) :
    Simulates look look' (InStep look x look' y) := by
  rintro above above' a b ⟨p, ha, hb, rfl, rfl⟩
  have hfront : (look a).front = (look' b).front := by
    simpa [ha, hb] using htree p
  have hguard := hpaths.repeats_iff p
  rw [identityAt?_eq ha, identityAt?_eq hb] at hguard
  refine Layer.matches_of_front hfront hguard ?_
  intro n c d hc hd
  refine ⟨n :: p, ?_, ?_, ?_, ?_⟩
  · simpa [partAt?, ha] using hc
  · simpa [partAt?, hb] using hd
  · rw [around, identityAt?_eq ha]
  · rw [around, identityAt?_eq hb]

/-- Two samples that are one tree, with identities that agree along the paths, infer alike. -/
theorem infer_eq_of_samePaths (s : Settings) (htree : SameTree look x look' y)
    (hpaths : SamePaths look x look' y) : infer s look x = infer s look' y :=
  infer_eq_of_simulates (sameTree_simulates htree hpaths) s ⟨[], rfl, rfl, rfl, rfl⟩

/-! ## Other identities for the same sample -/

/-- The layer with another identity, if it is one of a container. -/
def Layer.withIdentity (i : Option Nat) : Layer σ → Layer σ
  | .array _ xs => .array i xs
  | .object _ es => .object i es
  | l => l

/-- The view of the same values in which each container has the identity that `label` gives it. -/
def relabel (look : σ → Layer σ) (label : σ → Option Nat) (x : σ) : Layer σ :=
  (look x).withIdentity (label x)

theorem parts_relabel (label : σ → Option Nat) (a : σ) :
    (relabel look label a).parts = (look a).parts := by
  unfold relabel
  cases look a <;> rfl

theorem front_relabel (label : σ → Option Nat) (a : σ) :
    (relabel look label a).front = (look a).front := by
  unfold relabel
  cases look a <;> rfl

theorem partAt?_relabel (label : σ → Option Nat) (p : List Nat) :
    partAt? (relabel look label) x p = partAt? look x p := by
  induction p with
  | nil => rfl
  | cons n p ih => simp only [partAt?, ih, parts_relabel]

/-- The tree does not change. -/
theorem sameTree_relabel (label : σ → Option Nat) : SameTree look x (relabel look label) x := by
  intro p
  simp only [partAt?_relabel, front_relabel]

theorem identityAt?_relabel (label : σ → Option Nat) {p : List Nat} {a : σ}
    (h : partAt? look x p = some a) :
    identityAt? (relabel look label) x p = (relabel look label a).identity? :=
  identityAt?_eq ((partAt?_relabel label p).trans h)

/-- A renaming reaches every container that has an identity. -/
theorem identityAt?_rename (f : Nat → Nat) (p : List Nat) :
    identityAt? (relabel look fun a => (look a).identity?.map f) x p =
      (identityAt? look x p).map f := by
  unfold identityAt?
  rw [partAt?_relabel]
  cases partAt? look x p with
  | none => rfl
  | some a =>
    show ((look a).withIdentity ((look a).identity?.map f)).identity? = (look a).identity?.map f
    cases look a <;> rfl

/-- An injective renaming keeps apart what was apart. -/
theorem samePaths_rename {f : Nat → Nat} (hf : Function.Injective f) :
    SamePaths look x (relabel look fun a => (look a).identity?.map f) x := by
  intro path q _
  unfold SharesIdentity
  simp only [identityAt?_rename, Option.map_eq_some_iff]
  constructor
  · rintro ⟨i, hp, hq⟩
    exact ⟨f i, ⟨i, hp, rfl⟩, ⟨i, hq, rfl⟩⟩
  · rintro ⟨_, ⟨i, hp, rfl⟩, ⟨j, hq, hji⟩⟩
    obtain rfl : j = i := hf hji
    exact ⟨j, hp, hq⟩

/-- A container that keeps its identity has it in both views. -/
theorem identity?_relabel_of_eq {label : σ → Option Nat} {a : σ}
    (h : label a = (look a).identity?) : (relabel look label a).identity? = (look a).identity? := by
  unfold relabel
  rw [h]
  cases look a <;> rfl

/-- New identities for containers that no path meets twice, neither by the old identities nor by the
    new ones. -/
theorem samePaths_relabel {label : σ → Option Nat}
    (h : ∀ path q a b, path ≠ [] → partAt? look x (path ++ q) = some a →
      partAt? look x q = some b →
      label a ≠ (look a).identity? ∨ label b ≠ (look b).identity? →
      ¬ SharesIdentity look x (path ++ q) q ∧
        ¬ SharesIdentity (relabel look label) x (path ++ q) q) :
    SamePaths look x (relabel look label) x := by
  intro path q hpath
  have hiff : ∀ a b, partAt? look x (path ++ q) = some a → partAt? look x q = some b →
      (SharesIdentity look x (path ++ q) q ↔
        SharesIdentity (relabel look label) x (path ++ q) q) := by
    intro a b ha hb
    by_cases hkept : label a = (look a).identity? ∧ label b = (look b).identity?
    · unfold SharesIdentity
      rw [identityAt?_relabel label ha, identityAt?_relabel label hb,
        identity?_relabel_of_eq hkept.1, identity?_relabel_of_eq hkept.2, identityAt?_eq ha,
        identityAt?_eq hb]
    · have hboth := h path q a b hpath ha hb (not_and_or.mp hkept)
      exact iff_of_false hboth.1 hboth.2
  constructor
  · intro hshares
    obtain ⟨a, b, ha, hb⟩ := hshares.exists_parts
    exact (hiff a b ha hb).mp hshares
  · intro hshares
    obtain ⟨a, b, ha, hb⟩ := hshares.exists_parts
    rw [partAt?_relabel] at ha hb
    exact (hiff a b ha hb).mpr hshares

/-! ## Samples in which nothing repeats -/

/-- No container has the identity of one around it. -/
def Unrepeated (look : σ → Layer σ) (x : σ) : Prop :=
  ∀ path q, path ≠ [] → ¬ SharesIdentity look x (path ++ q) q

/-- Has the value, or a container inside it, this identity? -/
def Within (look : σ → Layer σ) (x : σ) (i : Nat) : Prop :=
  ∃ p, identityAt? look x p = some i

/-- A position inside a part, seen from the part and from the whole. -/
theorem partAt?_append (p q : List Nat) :
    partAt? look x (p ++ q) = (partAt? look x q).bind fun a => partAt? look a p := by
  induction p with
  | nil => exact (Option.bind_fun_some _).symm
  | cons n p ih =>
    show (partAt? look x (p ++ q)).bind _ = _
    rw [ih, Option.bind_assoc]
    rfl

theorem identityAt?_append (p q : List Nat) :
    identityAt? look x (p ++ q) = (partAt? look x q).bind fun a => identityAt? look a p := by
  unfold identityAt?
  rw [partAt?_append, Option.bind_assoc]

theorem identityAt?_part {n : Nat} {a : σ} (h : (look x).parts[n]? = some a) (p : List Nat) :
    identityAt? look x (p ++ [n]) = identityAt? look a p := by
  have hpart : partAt? look x [n] = some a := h
  rw [identityAt?_append, hpart]
  rfl

/-- Where there is an identity below the root, there is a part that has it at the rest of the
    position. -/
theorem exists_part_of_identityAt? {n i : Nat} {p : List Nat}
    (h : identityAt? look x (p ++ [n]) = some i) : ∃ a, (look x).parts[n]? = some a := by
  rw [identityAt?_append] at h
  obtain ⟨a, ha, _⟩ := Option.bind_eq_some_iff.mp h
  exact ⟨a, ha⟩

theorem within_iff {i : Nat} :
    Within look x i ↔ (look x).identity? = some i ∨ ∃ a ∈ (look x).parts, Within look a i := by
  constructor
  · rintro ⟨p, hp⟩
    rcases List.eq_nil_or_concat p with rfl | ⟨p, n, rfl⟩
    · exact Or.inl hp
    · rw [List.concat_eq_append] at hp
      obtain ⟨a, ha⟩ := exists_part_of_identityAt? hp
      rw [identityAt?_part ha] at hp
      exact Or.inr ⟨a, List.mem_of_getElem? ha, p, hp⟩
  · rintro (hi | ⟨a, ha, p, hp⟩)
    · exact ⟨[], hi⟩
    · obtain ⟨n, hn⟩ := List.mem_iff_getElem?.mp ha
      exact ⟨p ++ [n], (identityAt?_part hn p).trans hp⟩

/-- **Nothing repeats** in a sample exactly if nothing inside its root has the identity of the root,
    and nothing repeats in its parts. -/
theorem unrepeated_iff :
    Unrepeated look x ↔
      (∀ i, (look x).identity? = some i → ∀ a ∈ (look x).parts, ¬ Within look a i) ∧
        ∀ a ∈ (look x).parts, Unrepeated look a := by
  constructor
  · intro h
    refine ⟨?_, ?_⟩
    · rintro i hi a ha ⟨p, hp⟩
      obtain ⟨n, hn⟩ := List.mem_iff_getElem?.mp ha
      have hinside : identityAt? look x (p ++ [n] ++ []) = some i := by
        rw [List.append_nil, identityAt?_part hn, hp]
      exact h (p ++ [n]) [] (by simp) ⟨i, hinside, hi⟩
    · rintro a ha path q hpath ⟨i, hp, hq⟩
      obtain ⟨n, hn⟩ := List.mem_iff_getElem?.mp ha
      refine h path (q ++ [n]) hpath ⟨i, ?_, ?_⟩
      · rw [← List.append_assoc, identityAt?_part hn, hp]
      · rw [identityAt?_part hn, hq]
  · rintro ⟨hroot, hparts⟩ path q hpath ⟨i, hp, hq⟩
    rcases List.eq_nil_or_concat q with rfl | ⟨q, n, rfl⟩
    · -- the outer container is the root
      rw [List.append_nil] at hp
      obtain ⟨path, n, rfl⟩ := (List.eq_nil_or_concat path).resolve_left hpath
      rw [List.concat_eq_append] at hp
      obtain ⟨a, ha⟩ := exists_part_of_identityAt? hp
      rw [identityAt?_part ha] at hp
      exact hroot i hq a (List.mem_of_getElem? ha) ⟨path, hp⟩
    · rw [List.concat_eq_append] at hp hq
      obtain ⟨a, ha⟩ := exists_part_of_identityAt? hq
      rw [← List.append_assoc, identityAt?_part ha] at hp
      rw [identityAt?_part ha] at hq
      exact hparts a (List.mem_of_getElem? ha) path q hpath ⟨i, hp, hq⟩

/-- Where nothing repeats, identities may be left out. -/
theorem infer_eq_of_unrepeated (s : Settings) (h : Unrepeated look x) :
    infer s look x = infer s (relabel look fun _ => none) x := by
  refine infer_eq_of_samePaths s (sameTree_relabel _) (samePaths_relabel ?_)
  intro path q a b hpath _ hb _
  refine ⟨h path q hpath, ?_⟩
  rintro ⟨i, _, hq⟩
  rw [identityAt?_relabel _ hb, relabel] at hq
  cases hlook : look b <;> rw [hlook] at hq <;> cases hq

/-! ## Samples that are one tree infer alike -/

/-- **Identities do not matter beyond the paths.**  Two samples that are one tree infer alike,
    events included, if a container has the identity of one around it in both or in neither.  So
    nothing changes when identities are renamed by an injective function, or when containers get new
    identities, or none, that share neither the old nor the new ones with a container on their
    path. -/
theorem infer_eq_of_sameTree (s : Settings) (look : σ → Layer σ) (x : σ) :
    (∀ {τ : Type} (look' : τ → Layer τ) (y : τ), SameTree look x look' y →
      SamePaths look x look' y → infer s look x = infer s look' y) ∧
    (∀ f : Nat → Nat, Function.Injective f →
      infer s look x = infer s (relabel look fun a => (look a).identity?.map f) x) ∧
    (∀ label : σ → Option Nat,
      (∀ path q a b, path ≠ [] → partAt? look x (path ++ q) = some a →
        partAt? look x q = some b →
        label a ≠ (look a).identity? ∨ label b ≠ (look b).identity? →
        ¬ SharesIdentity look x (path ++ q) q ∧
          ¬ SharesIdentity (relabel look label) x (path ++ q) q) →
      infer s look x = infer s (relabel look label) x) := by
  refine ⟨?_, ?_, ?_⟩
  · intro τ look' y htree hpaths
    exact infer_eq_of_samePaths s htree hpaths
  · intro f hf
    exact infer_eq_of_samePaths s (sameTree_relabel _) (samePaths_rename hf)
  · intro label hlabel
    exact infer_eq_of_samePaths s (sameTree_relabel label) (samePaths_relabel hlabel)

/-- An array inside which its own identity occurs, and siblings that share one: dropping it from one
    of them and renaming the rest changes nothing. -/
theorem infer_eq_of_sameTree_siblings :
    let x : Node := .array (some 5) [.array (some 5) [], .object (some 6) [], .object (some 6) []]
    let y : Node := .array (some 0) [.array (some 0) [], .object none [], .object (some 7) []]
    SameTree Node.look x Node.look y ∧ SamePaths Node.look x Node.look y ∧
      infer {} Node.look x = infer {} Node.look y ∧
      infer {} Node.look y =
        ⟨.arrayOf (.choice [.ofKind .array, .objectSeen [], .objectSeen []]),
          [.cyclic .array 1, .disagreed ⟨3, 2⟩, .inferred (some .array) false]⟩ := by
  intro x y
  -- below the parts of the array there is nothing
  have hdeep : ∀ z : Node, (∀ a ∈ z.look.parts, a.look.parts = []) →
      ∀ p m n, partAt? Node.look z (m :: n :: p) = none := by
    intro z hz p
    induction p with
    | nil =>
      intro m n
      show (z.look.parts[n]?.bind fun a => a.look.parts[m]?) = none
      cases hn : z.look.parts[n]? with
      | none => rfl
      | some a =>
        show a.look.parts[m]? = none
        rw [hz a (List.mem_of_getElem? hn), List.getElem?_nil]
    | cons k p ih =>
      intro m n
      rw [partAt?, ih n k, Option.bind_none]
  have hx := hdeep x (by simp [x, Node.look, Layer.parts, Layer.items, Layer.entries])
  have hy := hdeep y (by simp [y, Node.look, Layer.parts, Layer.items, Layer.entries])
  have htree : SameTree Node.look x Node.look y := by
    intro p
    match p with
    | [] | [0] | [1] | [2] | [n + 3] => rfl
    | m :: n :: p => rw [hx p m n, hy p m n]
  have hpaths : SamePaths Node.look x Node.look y := by
    intro path q hpath
    obtain ⟨k, path, rfl⟩ := List.exists_cons_of_ne_nil hpath
    show SharesIdentity Node.look x (k :: (path ++ q)) q ↔
      SharesIdentity Node.look y (k :: (path ++ q)) q
    cases hpq : path ++ q with
    | cons m p =>
      refine iff_of_false ?_ ?_
      · rintro ⟨i, hi, _⟩
        simp [identityAt?, hx p k m] at hi
      · rintro ⟨i, hi, _⟩
        simp [identityAt?, hy p k m] at hi
    | nil =>
      obtain ⟨rfl, rfl⟩ := List.append_eq_nil_iff.mp hpq
      match k with
      | 0 => exact iff_of_true ⟨5, rfl, rfl⟩ ⟨0, rfl, rfl⟩
      | 1 | 2 =>
        refine iff_of_false ?_ ?_
        · rintro ⟨i, hi, hj⟩
          exact absurd (hi.trans hj.symm) (by decide)
        · rintro ⟨i, hi, hj⟩
          exact absurd (hi.trans hj.symm) (by decide)
      | n + 3 => exact iff_of_false (fun ⟨i, hi, _⟩ => nomatch hi) fun ⟨i, hi, _⟩ => nomatch hi
  exact ⟨htree, hpaths, (infer_eq_of_sameTree {} Node.look x).1 Node.look y htree hpaths, rfl⟩

end SampleSchema
