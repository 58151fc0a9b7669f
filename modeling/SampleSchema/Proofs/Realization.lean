/-
  Every schema of the grammar is the schema of a sample.

  Inference builds the schemas that `Typed` describes and no others; here it is shown to build all
  of them, up to what the limit on depth rules out.  The sample is read off the schema
  (`Schema.sample`):

  * a scalar type, or a format, is shown by one value of it;
  * an array says of its items what one item shows, or none; and a choice is shown by an item for
    each alternative, in their order;
  * **a bare container is the crux**: nothing is so deep, so it has to be met inside itself.  It is
    given the identity of the root, which is open all the time.  The other containers inside have no
    identity and are opened always, and the root is opened since nothing is around it.

  What one schema has to bring along for its sample to show it is the same for the root and for all
  that stands inside, with another identity and other containers around (`Sampled`).  It goes from
  the parts of a schema to the schema (`Built.sampled`), and from the alternatives below `items` to
  what stands there (`SampledItems`); the induction is on the grammar.
-/
import SampleSchema.Proofs.Cuts
import SampleSchema.Proofs.Repetition

namespace SampleSchema

/-! ## The grammar, case by case -/

/-- The ways in which a schema of the grammar is built. -/
inductive Built (t : Toggles) : Schema → Prop where
  /-- A type and nothing else, be it a scalar or a bare container. -/
  | bare (k : Kind) : Built t (.ofKind k)
  | text (f : Format) : Built t (.text (some f))
  | array {i : Schema} (item : ItemShape t i) : Built t (.arrayOf i)
  | object {p : Keyed Schema} (distinct : p.Distinct) (property : ∀ e ∈ p, Typed t e.2) :
      Built t (.objectSeen p)

/-- There is no other way. -/
theorem Typed.built {t : Toggles} {s : Schema} (h : Typed t s) : Built t s := by
  cases h with
  | @intro _ k kind anyOf format items item properties required distinct property =>
    obtain ⟨_, _, p, i, r, f⟩ := s
    cases kind
    cases anyOf
    obtain rfl : r = p.map Keyed.keys := required
    cases i with
    | some i =>
      cases items nofun
      cases p with
      | some p => cases properties nofun
      | none =>
        cases f with
        | some f => cases (format f rfl).1
        | none => exact .array (item i rfl)
    | none =>
      cases p with
      | some p =>
        cases properties nofun
        cases f with
        | some f => cases (format f rfl).1
        | none => exact .object (distinct p rfl) (property p rfl)
      | none =>
        cases f with
        | some f =>
          cases (format f rfl).1
          exact .text f
        | none => exact .bare k

namespace Schema

/-! ## Samples -/

/-- The double for one half. -/
def oneHalf : Double := ⟨false, ⟨4503599627370496, -53⟩⟩

/-- A text with a format, or with none. -/
def sampleText : Option Format → String
  | none => ""
  | some .uri => "a:b"
  | some .email => "a@b.c"
  | some .date => "2024-02-29"
  | some .dateTime => "2024-02-29T12:00:00Z"

mutual

/-- A sample that shows a schema.  If it is a container that says something of its contents it has
    the identity `own`, and those inside have none; bare containers have that of the root, zero. -/
def sample (own : Option Nat) : Schema → Node
  | ⟨k, _, p, i, _, f⟩ =>
    match k with
    | none | some .null => .null
    | some .boolean => .boolean true
    | some .integer => .number (.whole 0)
    | some .number => .number (.double oneHalf)
    | some .string => .string (sampleText f)
    | some .array =>
      match i with
      | none => .array (some 0) []
      | some x => .array own (sampleItems (sample none x) x)
    | some .object =>
      match p with
      | none => .object (some 0) []
      | some es => .object own (sampleEntries es)

/-- Items that show what stands below `items`: `alone`, where that is one type. -/
def sampleItems (alone : Node) : Schema → List Node
  | ⟨some _, _, _, _, _, _⟩ => [alone]
  | ⟨none, none, _, _, _, _⟩ => []
  | ⟨none, some ss, _, _, _, _⟩ => samples ss

/-- A sample for each of some schemas. -/
def samples : List Schema → List Node
  | [] => []
  | s :: ss => sample none s :: samples ss

/-- A sample for each of some named schemas. -/
def sampleEntries : List (String × Schema) → List (String × Node)
  | [] => []
  | (key, s) :: es => (key, sample none s) :: sampleEntries es

end

theorem samples_eq_map (ss : List Schema) : samples ss = ss.map (sample none) := by
  induction ss with
  | nil => rfl
  | cons s ss ih => rw [samples, ih, List.map_cons]

theorem sampleEntries_eq_mapValues (p : List (String × Schema)) :
    sampleEntries p = Keyed.mapValues (sample none) p := by
  induction p with
  | nil => rfl
  | cons e p ih =>
    rw [sampleEntries, ih]
    rfl

theorem sampleItems_of_kind {s : Schema} {k : Kind} (hs : s.kind = some k) (alone : Node) :
    sampleItems alone s = [alone] := by
  obtain ⟨_, a, p, i, r, f⟩ := s
  cases hs
  rfl

theorem detect_sampleText (f : Option Format) : Format.detect {} (sampleText f) = f := by
  rcases f with _ | _ | _ | _ | _ <;> decide +kernel

/-- A container that says something of its contents stands above the limit. -/
def StandsAbove (limit depth : Nat) (s : Schema) : Prop :=
  IsContainer s.kind → ¬ s.Bare → depth < limit

end Schema

/-! ## What samples show -/

/-- The sample shows the schema, wherever it stands: inside the root, if the schema is bare, and
    with an identity that is open nowhere around it. -/
def Sampled (limit : Nat) (s : Schema) : Prop :=
  ∀ (depth : Nat) (above : List Nat) (own : Option Nat), (s.Bare → 0 ∈ above) →
    ¬ Repeats own above → 0 ∈ own.toList ++ above → s.Everywhere (Schema.StandsAbove limit) depth →
    (outline limit Node.look depth above (s.sample own)).schema {} = s

/-- Inside the root, the items show what stands below `items`. -/
def SampledItems (limit : Nat) (i : Schema) : Prop :=
  ∀ (depth : Nat) (above : List Nat), 0 ∈ above → i.Everywhere (Schema.StandsAbove limit) depth →
    Schema.unify ((Schema.sampleItems (i.sample none) i).map fun x =>
      (outline limit Node.look depth above x).schema {}) = i

variable {limit : Nat} {s : Schema}

/-- Inside the root, samples without identity show their schemas. -/
theorem Sampled.inside (h : Sampled limit s) {depth : Nat} {above : List Nat} (habove : 0 ∈ above)
    (hroom : s.Everywhere (Schema.StandsAbove limit) depth) :
    (outline limit Node.look depth above (s.sample none)).schema {} = s :=
  h depth above none (fun _ => habove) (not_repeats_none above) habove hroom

/-- **A sample shows its schema, if those of the parts do.** -/
theorem Built.sampled (h : Built {} s) (hitem : ∀ i, s.items = some i → SampledItems limit i)
    (hproperty : ∀ p, s.properties = some p → ∀ e ∈ p, Sampled limit e.2) : Sampled limit s := by
  intro depth above own hbare hown hroot hroom
  cases h with
  | bare k =>
    -- a bare container has the identity of the root, which stands around it
    cases k with
    | array =>
      have hrepeats : Repeats (some 0) above := ⟨0, hbare (.inl ⟨rfl, rfl⟩), rfl⟩
      exact (schema_outline_bare_iff ⟨limit, {}⟩ Node.look depth above _ rfl).mpr (.inr hrepeats)
    | object =>
      have hrepeats : Repeats (some 0) above := ⟨0, hbare (.inr ⟨rfl, rfl⟩), rfl⟩
      exact (schema_outline_bare_iff ⟨limit, {}⟩ Node.look depth above _ rfl).mpr (.inr hrepeats)
    | _ =>
      rw [outline]
      rfl
  | text f =>
    have htext : (Schema.text (some f)).sample own = .string (Schema.sampleText (some f)) := rfl
    rw [htext, outline, Node.look]
    exact congrArg Schema.text (Schema.detect_sampleText (some f))
  | @array i item =>
    have hlt : depth < limit := hroom.self (.inl rfl) (by rintro (⟨_, h⟩ | ⟨h, _⟩) <;> cases h)
    have hitems := hitem i rfl (depth + 1) _ hroot (hroom.item rfl)
    have harray : ((Schema.arrayOf i).sample own).look =
        .array own (Schema.sampleItems (i.sample none) i) := rfl
    rw [schema_opened_array {} harray hown, if_neg (Nat.not_le.mpr hlt), hitems]
  | @object p distinct property =>
    have hlt : depth < limit := hroom.self (.inr rfl) (by rintro (⟨h, _⟩ | ⟨_, h⟩) <;> cases h)
    have hentries : Keyed.mapValues (fun x =>
        (outline limit Node.look (depth + 1) (own.toList ++ above) x).schema {})
        (Schema.sampleEntries p) = p := by
      rw [Schema.sampleEntries_eq_mapValues, Keyed.mapValues, Keyed.mapValues, List.map_map]
      refine (List.map_congr_left fun e he => ?_).trans (List.map_id p)
      have hshown := (hproperty p rfl e he).inside hroot (hroom.property rfl he)
      exact congrArg (Prod.mk e.1) hshown
    have hobject : ((Schema.objectSeen p).sample own).look =
        .object own (Schema.sampleEntries p) := rfl
    rw [schema_opened_object {} hobject hown, if_neg (Nat.not_le.mpr hlt), hentries,
      Keyed.ofEntries_of_distinct distinct]

/-- No item shows that nothing is known. -/
theorem sampledItems_any : SampledItems limit .any := fun _ _ _ _ => rfl

/-- One item shows one type. -/
theorem sampledItems_typed (h : Typed {} s) (hs : Sampled limit s) : SampledItems limit s := by
  intro depth above habove hroom
  obtain ⟨k, hk⟩ : ∃ k, s.kind = some k := by
    cases h with
    | intro kind _ _ _ _ _ _ _ _ => exact ⟨_, kind⟩
  rw [Schema.sampleItems_of_kind hk, List.map_singleton, hs.inside habove hroom]
  exact h.unify_replicate (n := 1) Nat.one_pos

/-- An item for each alternative shows a choice. -/
theorem sampledItems_choice {ss : List Schema} (hss : ∀ s ∈ ss, Sampled limit s)
    (differ : ∃ a ∈ ss, ∃ b ∈ ss, a.kind ≠ b.kind) : SampledItems limit (.choice ss) := by
  intro depth above habove hroom
  have hitems : Schema.sampleItems ((Schema.choice ss).sample none) (.choice ss) =
      ss.map (Schema.sample none) := Schema.samples_eq_map ss
  rw [hitems, List.map_map]
  have hshown : ss.map ((fun x => (outline limit Node.look depth above x).schema {}) ∘
      Schema.sample none) = ss :=
    (List.map_congr_left fun s hs => (hss s hs).inside habove (hroom.alternative rfl hs)).trans
      (List.map_id ss)
  rw [hshown, Schema.unify_mixed differ]

mutual

/-- **Every schema of the grammar is shown by its sample.** -/
theorem Typed.sampled {s : Schema} : Typed {} s → Sampled limit s
  | .intro kind anyOf format items item properties required distinct property => by
    have hitem : ∀ i, s.items = some i → SampledItems limit i := fun i hi => (item i hi).sampled
    have hproperty : ∀ p, s.properties = some p → ∀ e ∈ p, Sampled limit e.2 :=
      fun p hp e he => (property p hp e he).sampled
    have htyped : Typed {} s :=
      .intro kind anyOf format items item properties required distinct property
    exact htyped.built.sampled hitem hproperty

theorem ItemShape.sampled {i : Schema} : ItemShape {} i → SampledItems limit i
  | .any => sampledItems_any
  | .typed h => sampledItems_typed h h.sampled
  | .choice h _ differ => sampledItems_choice (fun s hs => (h s hs).sampled) differ

end

/-- The sample of a schema that is not bare at the root shows it, with an identity at the root. -/
theorem infer_sample {T : Schema} (hT : Typed {} T) (hroot : ¬ T.Bare) {maxDepth : Nat}
    (hroom : T.Everywhere (Schema.StandsAbove maxDepth) 0) :
    (infer { maxDepth := maxDepth } Node.look (T.sample (some 0))).schema = T := by
  rw [infer_eq]
  have hnothing : ¬ Repeats (some 0) [] := by
    rintro ⟨i, hi, _⟩
    exact absurd hi List.not_mem_nil
  exact hT.sampled 0 [] (some 0) (fun hbare => absurd hbare hroot) hnothing List.mem_cons_self hroom

/-- **Every shape that the grammar allows occurs.**  A schema of the grammar that is no bare
    container is the schema of a sample, under every limit that all containers which say something
    of their contents stand above. -/
theorem exists_sample_of_typed {T : Schema} (hT : Typed {} T) (hroot : ¬ T.Bare) {maxDepth : Nat}
    (hroom : T.Everywhere (Schema.StandsAbove maxDepth) 0) :
    ∃ x : Node, (infer { maxDepth := maxDepth } Node.look x).schema = T :=
  ⟨T.sample (some 0), infer_sample hT hroot hroom⟩

/-- A choice with a bare object and an array of nothing known, inside an object that has a bare
    array as well, under the lowest limit for it. -/
theorem exists_sample_of_typed_mixed :
    let T := Schema.objectSeen
      [("b", .arrayOf (.choice [.text (some .uri), .ofKind .object, .arrayOf .any])),
        ("a", .ofKind .array), ("n", .ofKind .number)]
    Typed {} T ∧ ¬ T.Bare ∧ T.Everywhere (Schema.StandsAbove 3) 0 ∧
      T.sample (some 0) = .object (some 0)
        [("b", .array none [.string "a:b", .object (some 0) [], .array none []]),
          ("a", .array (some 0) []), ("n", .number (.double Schema.oneHalf))] ∧
      ∃ x : Node, (infer { maxDepth := 3 } Node.look x).schema = T := by
  intro T
  have halternatives : ∀ s ∈ [Schema.text (some .uri), .ofKind .object, .arrayOf .any],
      Typed {} s ∧ s.Everywhere (Schema.StandsAbove 3) 2 := by
    simp only [List.forall_mem_cons]
    refine ⟨⟨.text (by rintro _ ⟨⟩; rfl), .plain fun _ _ => ?_⟩, ⟨.ofKind _, .plain fun _ _ => ?_⟩,
      ⟨.arrayOf .any, .arrayOf (fun _ _ => ?_) (.plain fun h => ?_)⟩, nofun⟩
    · decide
    · decide
    · decide
    · exact absurd h (by decide)
  have hT : Typed {} T := by
    refine .objectSeen (show List.Nodup ["b", "a", "n"] by decide) ?_
    simp only [List.forall_mem_cons]
    refine ⟨.arrayOf (.choice (fun s hs => (halternatives s hs).1) (by decide) ?_), .ofKind _,
      .ofKind _, nofun⟩
    exact ⟨_, List.mem_cons_self, _, List.mem_cons_of_mem _ List.mem_cons_self, by decide⟩
  have hroot : ¬ T.Bare := by
    rintro (⟨hkind, _⟩ | ⟨_, hproperties⟩)
    · cases hkind
    · cases hproperties
  have hroom : T.Everywhere (Schema.StandsAbove 3) 0 := by
    have hlow : ∀ {depth : Nat} {s : Schema}, depth < 3 → Schema.StandsAbove 3 depth s :=
      fun h _ _ => h
    refine .objectSeen (hlow (by decide)) ?_
    simp only [List.forall_mem_cons]
    refine ⟨.arrayOf (hlow (by decide)) (.intro (hlow (by decide)) nofun nofun ?_),
      .plain (hlow (by decide)), .plain (hlow (by decide)), nofun⟩
    rintro _ ⟨⟩ s hs
    exact (halternatives s hs).2
  exact ⟨hT, hroot, hroom, rfl, exists_sample_of_typed hT hroot hroom⟩

end SampleSchema
