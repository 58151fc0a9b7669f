/-
  Copies of a sample.

  A sample that is given several times says no more than the same sample given once:

  1. **Schemas.**  Unifying copies of an inferred schema gives the schema back
     (`Typed.unify_replicate`).  For objects this is due to the shape of inferred schemas and to
     nothing else: an object that is merged keeps its properties and its required keys only, so one
     that had a format would lose it, and one that required a key twice would require it once.  An
     inferred object has no other parts, and requires the keys of its properties.

  2. **Commands.**  Every copy of a file is read anew, to the same end, since nothing is written
     before all is read.  So `unify` and `infer` come to the same text or to the same failure
     (`result_evaluate_copies`), and leave the same behind.  Standard input is another matter: it
     is empty from the second time on.

  3. **Arrays.**  An array of copies has the items of an array of one.  The two arrays may be
     different containers as long as what they hold does not tell them apart
     (`outline_eq_of_around`).
-/
import SampleSchema.Proofs.Identities
import SampleSchema.Proofs.Outcome
import SampleSchema.Proofs.Placement

namespace SampleSchema

/-! ## Copies of an inferred schema -/

theorem Keyed.ofEntries_copies {α : Type} {m : Keyed α} (hm : m.Distinct) (n : Nat) :
    Keyed.ofEntries (List.replicate (n + 1) m).flatten = m := by
  rw [List.replicate_succ, List.flatten_cons, ofEntries, insertAll_append]
  have hfirst : insertAll [] m = m := ofEntries_of_distinct hm
  rw [hfirst]
  refine insertAll_of_get? fun e he => ?_
  obtain ⟨row, hrow, he⟩ := List.mem_flatten.mp he
  rw [List.eq_of_mem_replicate hrow] at he
  exact (get?_eq_some_iff hm).mpr he

namespace Typed

variable {t : Toggles} {s : Schema}

/-- Only strings have a format. -/
theorem format_eq_none (h : Typed t s) (hk : s.kind ≠ some .string) : s.format = none := by
  cases h with
  | intro kind _ format _ _ _ _ _ _ =>
    cases hf : s.format with
    | none => rfl
    | some f => exact absurd (kind.trans (congrArg some (format f hf).1)) hk

theorem mergeObjects_replicate (h : Typed t s) (hs : s.kind = some .object) (n : Nat) :
    Schema.mergeObjects (List.replicate (n + 1) s) = s := by
  have hproperties : (Schema.mergeObjects (List.replicate (n + 1) s)).properties =
      s.properties := by
    show (Schema.pooled ((List.replicate (n + 1) s).map (·.properties))).map Keyed.ofEntries = _
    rw [List.map_replicate]
    cases hp : s.properties with
    | none => rw [Schema.pooled_eq_none fun p hp => List.eq_of_mem_replicate hp, Option.map_none]
    | some p =>
      have hne : List.replicate (n + 1) p ≠ [] := List.cons_ne_nil _ _
      rw [← List.map_replicate, Schema.pooled_map_some hne, Option.map_some,
        Keyed.ofEntries_copies (h.distinct_properties p hp)]
  have hrequired : (Schema.mergeObjects (List.replicate (n + 1) s)).required = s.required := by
    rw [Schema.required_mergeObjects fun c hc => List.eq_of_mem_replicate hc ▸ h.required_eq,
      hproperties, h.required_eq]
  rw [Schema.mergeObjects_eq hproperties hrequired]
  have hanyOf := h.anyOf_eq
  have hitems := h.items_eq_none (by rw [hs]; decide)
  have hformat := h.format_eq_none (by rw [hs]; decide)
  obtain ⟨k, a, p, i, r, f⟩ := s
  cases hs
  cases hanyOf
  cases hitems
  cases hformat
  rfl

/-- **Copies of an inferred schema unify to it.** -/
theorem unify_replicate (h : Typed t s) {n : Nat} (hn : 0 < n) :
    Schema.unify (List.replicate n s) = s := by
  obtain ⟨n, rfl⟩ := Nat.exists_eq_succ_of_ne_zero (Nat.ne_of_gt hn)
  have hkind : ∀ c ∈ List.replicate (n + 1) s, c.kind = s.kind := fun c hc =>
    congrArg Schema.kind (List.eq_of_mem_replicate hc)
  by_cases hs : s.kind = some .object
  · have hne : List.replicate (n + 1) s ≠ [] := List.cons_ne_nil _ _
    rw [Schema.unify_objects hne fun c hc => (hkind c hc).trans hs, h.mergeObjects_replicate hs]
  · exact Schema.unify_alike hs fun c hc => hkind c (List.mem_cons_of_mem _ hc)

end Typed

/-! ## Copies of a file -/

/-- What comes of steps depends on what came of each, and not on what they reported. -/
theorem Evaluation.result_andThen_congr {α β : Type} {x y : Evaluation α} {f g : α → Evaluation β}
    (hfirst : x.result = y.result) (hthen : ∀ v, (f v).result = (g v).result) :
    (x.andThen f).result = (y.andThen g).result := by
  unfold andThen
  rw [hfirst]
  cases y.result with
  | error e => rfl
  | ok v => exact hthen v

namespace Sources

variable {src : Sources} {path : String} {n : Nat}

theorem Supplies.replicate {v : Json} (hpath : path ≠ standardInput)
    (h : readSample path (src.textOf path) = .ok v) (n : Nat) :
    src.Supplies (List.replicate n path) (List.replicate n v) := by
  induction n with
  | zero => exact .nil
  | succ n ih =>
    refine .cons h ?_
    rw [src.without_file hpath]
    exact ih

theorem Fails.replicate {f : Failure} (h : readSample path (src.textOf path) = .error f)
    (hn : 0 < n) : src.Fails (List.replicate n path) f := by
  obtain ⟨n, rfl⟩ := Nat.exists_eq_succ_of_ne_zero (Nat.ne_of_gt hn)
  exact fails_cons_iff.mpr (Or.inl h)

end Sources

/-- **Copies of a file** have the schema of the file, or fail as it does. -/
theorem Task.result_evaluate_copies (s : Settings) (src : Sources) {path : String}
    (hpath : path ≠ standardInput) {n : Nat} (hn : 0 < n) :
    (Task.evaluate s src (.unify (List.replicate n path))).result =
      (Task.evaluate s src (.infer path)).result := by
  cases h : readSample path (src.textOf path) with
  | error f =>
    have hcopies : src.Fails (unify (List.replicate n path)).samples f := .replicate h hn
    rw [result_evaluate_error s hcopies]
    exact (result_inferFile_error s h).symm
  | ok v =>
    have hcopies : src.Supplies (unify (List.replicate n path)).samples (List.replicate n v) :=
      .replicate hpath h n
    have htyped : Typed s.formats (inferJson s v).schema := (infer_shape s Node.look v.numbered).1
    rw [result_evaluate_ok s hcopies, join, List.map_replicate, htyped.unify_replicate hn]
    exact (result_inferFile s h).symm

namespace Command

/-- Where the text goes is decided by the options; a command that comes to the same text, or to the
    same failure, leaves the same behind. -/
theorem run_eq_of_result {c c' : Command} {files : Files} {input : Except Denial String}
    (h : (c'.evaluate ⟨files.read, input⟩).result = (c.evaluate ⟨files.read, input⟩).result)
    (hout : c'.options.output = c.options.output) :
    (c'.run files input).files = (c.run files input).files ∧
      (c'.run files input).printed = (c.run files input).printed ∧
      (c'.run files input).failure = (c.run files input).failure := by
  unfold run
  dsimp only
  rw [h, hout]
  cases (c.evaluate ⟨files.read, input⟩).result with
  | error f => exact ⟨rfl, rfl, rfl⟩
  | ok text =>
    cases c.options.output with
    | none => exact ⟨rfl, rfl, rfl⟩
    | some path =>
      dsimp only
      cases files.write path text <;> exact ⟨rfl, rfl, rfl⟩

theorem result_evaluate_copies (o : Options) (src : Sources) {path : String}
    (hpath : path ≠ standardInput) {n : Nat} (hn : 0 < n) :
    (evaluate ⟨o, .unify (List.replicate n path)⟩ src).result =
      (evaluate ⟨o, .infer path⟩ src).result := by
  refine Evaluation.result_andThen_congr ?_ fun _ => rfl
  exact Evaluation.result_andThen_congr rfl fun s => Task.result_evaluate_copies s src hpath hn

end Command

/-! ## Arrays of copies -/

variable {σ : Type} {look : σ → Layer σ}

/-- **Identities that do not occur in a value do not count** among those around it. -/
theorem outline_eq_of_around {limit depth : Nat} {above above' : List Nat} {x : σ}
    (h : ∀ k, Within look x k → (k ∈ above ↔ k ∈ above')) :
    outline limit look depth above x = outline limit look depth above' x := by
  have hsimulates : Simulates look look fun above above' a b =>
      b = a ∧ ∀ k, Within look a k → (k ∈ above ↔ k ∈ above') := by
    rintro above above' _ a ⟨rfl, h⟩
    refine Layer.matches_of_front rfl ?_ ?_
    · constructor
      · rintro ⟨k, hk, hid⟩
        exact ⟨k, (h k (within_iff.mpr (Or.inl hid))).mp hk, hid⟩
      · rintro ⟨k, hk, hid⟩
        exact ⟨k, (h k (within_iff.mpr (Or.inl hid))).mpr hk, hid⟩
    · intro n c d hc hd
      refine ⟨Option.some.inj (hd.symm.trans hc), fun k hk => ?_⟩
      have hinside : Within look a k := within_iff.mpr (Or.inr ⟨c, List.mem_of_getElem? hc, hk⟩)
      rw [List.mem_append, List.mem_append, h k hinside]
  exact outline_eq_of_simulates hsimulates limit _ depth above above' x x rfl ⟨rfl, h⟩

/-- An array of copies is cut off at the limit, or has items as one of the copies is. -/
theorem schema_outline_copies {limit : Nat} {x v : σ} {i : Option Nat} {n : Nat} (t : Toggles)
    (hx : look x = .array i (List.replicate n v)) (hn : 0 < n) :
    (outline limit look 0 [] x).schema t =
      if limit ≤ 0 then .ofKind .array
      else .arrayOf ((outline limit look 1 i.toList v).schema t) := by
  have hroot : ¬ Repeats i [] := fun ⟨_, hk, _⟩ => List.not_mem_nil hk
  rw [schema_opened_array t hx hroot, List.map_replicate,
    (Outline.schema_typed t _).unify_replicate hn, List.append_nil]

/-- **Repeating a sample adds nothing.**  Any number of copies of an inferred schema, at least one,
    unify to that schema.  Hence a command that unifies copies of a file other than standard input
    prints, writes or fails like the command that infers the file, whatever the options and the
    stores; and an array of copies has the schema of an array of one, for JSON values, and for any
    samples if the two arrays have the same identity, or identities that do not occur in what they
    hold. -/
theorem infer_repeated :
    (∀ {σ : Type} (s : Settings) (look : σ → Layer σ) (x : σ) (n : Nat), 0 < n →
      Schema.unify (List.replicate n (infer s look x).schema) = (infer s look x).schema) ∧
    (∀ (o : Options) (path : String) (n : Nat) (files : Files) (input : Except Denial String),
      path ≠ standardInput → 0 < n →
      let many := Command.run ⟨o, .unify (List.replicate n path)⟩ files input
      let one := Command.run ⟨o, .infer path⟩ files input
      many.files = one.files ∧ many.printed = one.printed ∧ many.failure = one.failure) ∧
    (∀ (s : Settings) (v : Json) (n : Nat), 0 < n →
      (inferJson s (.array (List.replicate n v))).schema = (inferJson s (.array [v])).schema) ∧
    (∀ {σ : Type} (s : Settings) (look : σ → Layer σ) (x y v : σ) (i j : Option Nat) (n : Nat),
      0 < n → look x = .array i (List.replicate n v) → look y = .array j [v] →
      (∀ k, Within look v k → (i = some k ↔ j = some k)) →
      (infer s look x).schema = (infer s look y).schema) := by
  have harrays : ∀ {σ : Type} (s : Settings) (look : σ → Layer σ) (x y v : σ) (i j : Option Nat)
      (n : Nat), 0 < n → look x = .array i (List.replicate n v) → look y = .array j [v] →
      (∀ k, Within look v k → (i = some k ↔ j = some k)) →
      (infer s look x).schema = (infer s look y).schema := by
    intro σ s look x y v i j n hn hx hy h
    have haround : outline s.maxDepth look 1 i.toList v = outline s.maxDepth look 1 j.toList v :=
      outline_eq_of_around fun k hk => by rw [Option.mem_toList, Option.mem_toList]; exact h k hk
    have hy' : look y = .array j (List.replicate 1 v) := hy
    rw [infer_eq, infer_eq, schema_outline_copies s.formats hx hn,
      schema_outline_copies s.formats hy' Nat.one_pos, haround]
  refine ⟨?_, ?_, ?_, harrays⟩
  · intro σ s look x n hn
    exact (infer_shape s look x).1.unify_replicate hn
  · intro o path n files input hpath hn
    exact Command.run_eq_of_result (Command.result_evaluate_copies o _ hpath hn) rfl
  · intro s v n hn
    rw [inferJson_eq, inferJson_eq]
    exact harrays s Json.look _ _ v none none n hn rfl rfl fun _ _ => Iff.rfl

/-- Three times a file with objects that disagree, written to a file; and two arrays in one heap,
    which hold one container twice and once. -/
theorem infer_repeated_shared :
    let o : Options := { output := some "/out" }
    let files : Files := .ofList [("/a", .text "[\x7b\"k\":1\x7d,\x7b\"k\":[],\"l\":null\x7d]")]
    let many := Command.run ⟨o, .unify ["/a", "/a", "/a"]⟩ files (.ok "")
    let one := Command.run ⟨o, .infer "/a"⟩ files (.ok "")
    let look := Heap.look ⟨#[.object [("me", .object 0), ("x", .null)],
      .array [.object 0, .object 0], .array [.object 0]]⟩
    one.failure = none ∧ one.files ≠ files ∧ many.files = one.files ∧
      many.printed = one.printed ∧ many.failure = one.failure ∧
      (infer {} look (.array 1)).schema = (infer {} look (.array 2)).schema ∧
      (infer {} look (.array 2)).schema = .arrayOf (.objectSeen
        [("me", .ofKind .object), ("x", .ofKind .null)]) ∧
      Schema.unify (List.replicate 3 (infer {} look (.object 0)).schema) =
        (infer {} look (.object 0)).schema ∧
      (inferJson {} (.array [.bool true, .bool true])).schema =
        (inferJson {} (.array [.bool true])).schema := by
  intro o files many one look
  have hdone : one.failure = none ∧ one.files ≠ files := by decide +kernel
  obtain ⟨hfiles, hprinted, hfailure⟩ :=
    infer_repeated.2.1 o "/a" 3 files (.ok "") (by decide) (by decide)
  -- from the object one gets back to it, or to a scalar, and to neither of the arrays
  have hpart : ∀ p a, partAt? look (.object 0) p = some a → a = .object 0 ∨ a = .null := by
    intro p
    induction p with
    | nil =>
      intro a ha
      exact Or.inl (Option.some.inj ha).symm
    | cons n p ih =>
      intro a ha
      obtain ⟨b, hb, hab⟩ := Option.bind_eq_some_iff.mp ha
      rcases ih b hb with rfl | rfl
      · simpa [look, Heap.look, Heap.entriesAt, Layer.parts, Layer.items, Layer.entries] using
          List.mem_of_getElem? hab
      · simp [look, Heap.look, Layer.parts, Layer.items, Layer.entries] at hab
  have hwithin : ∀ k, Within look (.object 0) k → (some 1 = some k ↔ some 2 = some k) := by
    rintro k ⟨p, hk⟩
    obtain ⟨a, ha, hak⟩ := Option.bind_eq_some_iff.mp hk
    rcases hpart p a ha with rfl | rfl
    · cases hak
      decide
    · cases hak
  have harrays := infer_repeated.2.2.2 {} look (.array 1) (.array 2) (.object 0) (some 1) (some 2) 2
    (by decide) rfl rfl hwithin
  exact ⟨hdone.1, hdone.2, hfiles, hprinted, hfailure, harrays, rfl,
    infer_repeated.1 {} look (.object 0) 3 (by decide),
    infer_repeated.2.2.1 {} (.bool true) 2 (by decide)⟩

end SampleSchema
