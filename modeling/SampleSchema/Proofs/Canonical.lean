/-
  Schemas that were read from any text, written down again.

  Readers take many spellings of one schema: fields in any order, `null` for an absent part, fields
  that are not known, an array in place of an object, a name that is the key of an object, a
  property that is set twice.  The writer has one spelling.  So writing what was read is a normal
  form of texts, and the question is whether the normal form can always be read, although it may
  nest no deeper than 127 containers.

  1. **What a reader gives** (`Yields`).  As `Decodes` says what comes of the writer's own texts,
     `Yields` says of any text what is known about a value that was read off it.  The readers of
     parts hand it on from their items.

  2. **A schema that was read fits into the room of its reader** (`yields_readSchema`): its maps set
     no key twice, and its document nests no deeper than there was room.  The crux is that no
     spelling of a schema takes fewer levels than the writer's: what the writer puts into a
     container was read inside a container, at the same level of the document.  A field that is
     absent so far takes no level, hence the loops over fields only have to keep what holds of each
     field (`FieldFits`).

  3. Hence the normal form is read back as the same schema, in both layouts (`parse_rewritten`).
-/
import SampleSchema.Proofs.Headroom

namespace SampleSchema
namespace Schema

open Json

variable {α : Type}

/-! ## What a reader gives -/

/-- Every value that `R` reads satisfies `P`, whatever the text. -/
def Yields (R : Reader α) (P : α → Prop) : Prop :=
  ∀ (cs : List Char) (r : Reading α cs), R cs = .ok r → P r.value

/-- A refusal is no reading. -/
theorem refuse_ne_ok {expected : String} {cs : List Char} {x : α} : refuse expected cs ≠ .ok x := by
  -- a scalar is read first, and then refused all the same
  have hbind : ∀ {β : Type} (outcome : Except Fault β) {after : β → Except Fault α},
      (∀ b, after b ≠ .ok x) → (outcome >>= after) ≠ .ok x := by
    intro β outcome after hafter h
    cases outcome with
    | error e => cases h
    | ok b => exact hafter b h
  intro h
  unfold refuse at h
  split at h
  · cases h
  · split_ifs at h <;> first
      | cases h
      | exact hbind _ (fun _ hc => by cases hc) h

theorem yields_optional {R : Reader α} {P : α → Prop} (h : Yields R P) :
    Yields (readOptional R) fun v => ∀ x, v = some x → P x := by
  have hsome : ∀ {cs : List Char} {r : Reading (Option α) cs},
      (R cs).map (Reading.map some) = .ok r → ∀ x, r.value = some x → P x := by
    intro cs r hr x hx
    obtain ⟨q, hq, rfl⟩ := ok_of_map hr
    cases hx
    exact h cs q hq
  intro cs r hr
  unfold readOptional at hr
  split at hr
  · exact hsome hr
  · split_ifs at hr
    · obtain ⟨q, hq, rfl⟩ := ok_of_map hr
      intro x hx
      cases (value_of_wordValue hq).symm.trans hx
    · exact hsome hr

/-- A list was opened, and its items were read with one level less. -/
theorem yields_list {item : Option (Reader α)} {room : Nat} {P : Nat → α → Prop}
    (h : Deeper (fun R room => Yields R (P room)) room item) :
    Yields (readList item) fun xs => ∃ inner, room = inner + 1 ∧ ∀ x ∈ xs, P inner x := by
  intro cs r hr
  unfold readList at hr
  split at hr
  · cases hr
  · split_ifs at hr
    · cases h with
      | none => cases hr
      | @some R inner hR =>
        obtain ⟨q, hq, rfl⟩ := ok_of_map hr
        refine ⟨inner, rfl, ?_⟩
        intro x hx
        obtain ⟨ds, i, hi, rfl⟩ := mem_readItems true _ hq x hx
        exact hR ds i hi
    · exact absurd hr refuse_ne_ok

/-- A map was opened, its values were read with one level less, and of a key that was set twice the
    map has one entry. -/
theorem yields_map {item : Option (Reader α)} {room : Nat} {P : Nat → α → Prop}
    (h : Deeper (fun R room => Yields R (P room)) room item) :
    Yields (readMap item) fun es =>
      Keyed.Distinct es ∧ ∃ inner, room = inner + 1 ∧ ∀ e ∈ es, P inner e.2 := by
  intro cs r hr
  unfold readMap at hr
  split at hr
  · cases hr
  · split_ifs at hr
    · cases h with
      | none => cases hr
      | @some R inner hR =>
        obtain ⟨q, hq, rfl⟩ := ok_of_map hr
        refine ⟨Keyed.distinct_ofEntries q.value, inner, rfl, ?_⟩
        intro e he
        obtain ⟨ds, i, hi, hvalue⟩ := mem_readEntries true _ hq e (Keyed.mem_of_mem_ofEntries he)
        rw [← hvalue]
        exact hR ds i hi
    · exact absurd hr refuse_ne_ok

/-! ## Schemas that fit -/

/-- The maps of the schema set no key twice, and its document nests at most `n` levels. -/
def Fits (n : Nat) (s : Schema) : Prop := s.WellKeyed ∧ s.toJson.nesting ≤ n

/-- What the fields hold nests at most `n` levels, and the map of properties sets no key twice.
    Names take no level. -/
structure FieldsFit (n : Nat) (s : Schema) : Prop where
  anyOf : ∀ ss, s.anyOf = some ss → ∃ m, n = m + 1 ∧ ∀ a ∈ ss, Fits m a
  properties : ∀ p, s.properties = some p →
    Keyed.Distinct p ∧ ∃ m, n = m + 1 ∧ ∀ e ∈ p, Fits m e.2
  items : ∀ i, s.items = some i → Fits n i
  required : ∀ keys, s.required = some keys → 0 < n

/-- A schema takes one level more than its fields. -/
theorem FieldsFit.fits {n : Nat} {s : Schema} (h : FieldsFit n s) : Fits (n + 1) s := by
  constructor
  · refine .intro ?_ ?_ ?_ (fun i hi => (h.items i hi).1)
    · intro ss hss a ha
      obtain ⟨m, _, hfits⟩ := h.anyOf ss hss
      exact (hfits a ha).1
    · exact fun p hp => (h.properties p hp).1
    · intro p hp e he
      obtain ⟨_, m, _, hfits⟩ := h.properties p hp
      exact (hfits e he).1
  · refine nesting_toJson_le.mpr ?_
    intro f j hj
    cases f with
    | kind =>
      obtain ⟨k, _, rfl⟩ := Option.map_eq_some_iff.mp hj
      exact Nat.zero_le n
    | anyOf =>
      obtain ⟨ss, hss, rfl⟩ := Option.map_eq_some_iff.mp hj
      obtain ⟨m, rfl, hfits⟩ := h.anyOf ss hss
      exact nesting_array_le.mpr (List.forall_mem_map.mpr fun a ha => (hfits a ha).2)
    | properties =>
      obtain ⟨p, hp, rfl⟩ := Option.map_eq_some_iff.mp hj
      obtain ⟨_, m, rfl, hfits⟩ := h.properties p hp
      exact nesting_object_le.mpr (List.forall_mem_map.mpr fun e he => (hfits e he).2)
    | items =>
      obtain ⟨i, hi, rfl⟩ := Option.map_eq_some_iff.mp hj
      exact (h.items i hi).2
    | required =>
      obtain ⟨keys, hkeys, rfl⟩ := Option.map_eq_some_iff.mp hj
      obtain ⟨m, rfl⟩ := Nat.exists_eq_succ_of_ne_zero (Nat.ne_of_gt (h.required keys hkeys))
      exact nesting_array_le.mpr (List.forall_mem_map.mpr fun _ _ => Nat.zero_le m)
    | format =>
      obtain ⟨g, _, rfl⟩ := Option.map_eq_some_iff.mp hj
      exact Nat.zero_le n

/-- A schema without parts fits anywhere. -/
theorem fieldsFit_any (n : Nat) : FieldsFit n {} where
  anyOf := by intro _ h; cases h
  properties := by intro _ h; cases h
  items := by intro _ h; cases h
  required := by intro _ h; cases h

/-! ## The readers of fields -/

/-- **Reading a field keeps the fields fitting**: the one that was read, for readers of schemas that
    have its room and one level less, and the others as they are. -/
theorem yields_field {room : Nat} {here : Reader Schema} {inside : Option (Reader Schema)}
    (hhere : Yields here (Fits room))
    (hinside : Deeper (fun R room => Yields R (Fits room)) room inside) (f : Field) (s : Schema)
    (h : FieldsFit room s) : Yields (readField here inside (room != 0) f s) (FieldsFit room) := by
  intro cs r hr
  cases f with
  | kind =>
    obtain ⟨q, _, rfl⟩ := ok_of_map hr
    exact { h with }
  | anyOf =>
    obtain ⟨q, hq, rfl⟩ := ok_of_map hr
    have hread := yields_optional (yields_list hinside) cs q hq
    exact { h with anyOf := hread }
  | properties =>
    obtain ⟨q, hq, rfl⟩ := ok_of_map hr
    have hread := yields_optional (yields_map hinside) cs q hq
    exact { h with properties := hread }
  | items =>
    obtain ⟨q, hq, rfl⟩ := ok_of_map hr
    have hread := yields_optional hhere cs q hq
    exact { h with items := hread }
  | required =>
    obtain ⟨q, hq, rfl⟩ := ok_of_map hr
    have hkey : Deeper (fun R _ => Yields R fun _ => True) room
        (if room != 0 then some (readText "a string") else none) := by
      cases room with
      | zero => exact .none
      | succ room => exact .some fun _ _ _ => trivial
    have hread := yields_optional (yields_list hkey) cs q hq
    refine { h with required := ?_ }
    intro keys hkeys
    obtain ⟨m, rfl, _⟩ := hread keys hkeys
    exact Nat.succ_pos m
  | format =>
    obtain ⟨q, _, rfl⟩ := ok_of_map hr
    exact { h with }

/-- **The loop over fields by their keys** keeps what reading one field keeps. -/
theorem yields_readFields {field : Field → Schema → Reader Schema} {P : Schema → Prop}
    (hfield : ∀ f s, P s → Yields (field f s) P) (seen : List Field) (s : Schema) (first : Bool)
    (cs : List Char) (hs : P s) {r : Reading Schema cs}
    (h : readFields field seen s first cs = .ok r) : P r.value := by
  fun_induction readFields field seen s first cs with
  | case2 =>
    cases h
    exact hs
  | case7 _ _ _ _ _ _ _ _ _ _ _ _ _ _ _ _ _ rest hrest ih =>
    -- the key is not known
    cases h
    exact ih hs hrest
  | case12 _ s _ _ _ _ _ _ _ _ f _ _ c _ _ q hq _ rest hrest ih =>
    cases h
    exact ih (hfield f s hs c.rest q hq) hrest
  | _ => cases h

/-- The loop over fields by their places, likewise. -/
theorem yields_readFieldList {field : Field → Schema → Reader Schema} {P : Schema → Prop}
    (hfield : ∀ f s, P s → Yields (field f s) P) (fs : List Field) :
    ∀ (s : Schema) (first : Bool) (cs : List Char), P s → ∀ {r : Reading Schema cs},
      readFieldList field fs s first cs = .ok r → P r.value := by
  induction fs with
  | nil =>
    intro s first cs hs r h
    obtain ⟨q, _, rfl⟩ := ok_of_map h
    exact hs
  | cons f fs ih =>
    intro s first cs hs r h
    rw [readFieldList] at h
    split at h
    · cases h
    · cases h
      exact hs
    · split at h
      · cases h
      · next q hq =>
        split at h
        · cases h
        · next rest hrest =>
          cases h
          exact ih q.value false q.rest (hfield f s hs _ q hq) hrest

/-! ## Schemas -/

/-- **A schema that was read fits into the room** that its reader had. -/
theorem yields_readSchema (room : Nat) : Yields (readSchema room) (Fits room) := by
  induction room using Nat.strongRecOn with
  | _ room ih =>
    intro cs r h
    unfold readSchema at h
    split at h
    · cases h
    · next c ds _ =>
      by_cases hopen : c = '\x7b' ∨ c = '['
      · rw [if_pos hopen] at h
        cases room with
        | zero => cases h
        | succ room =>
          have hhere : Yields (readSchema room) (Fits room) := ih room (Nat.lt_succ_self room)
          have hfields : ∀ inside, Deeper (fun R room => Yields R (Fits room)) room inside →
              ∀ q : Reading Schema ds,
                (if c = '[' then
                    readFieldList (readField (readSchema room) inside (room != 0)) Field.all {}
                      true ds
                  else readFields (readField (readSchema room) inside (room != 0)) [] {} true ds) =
                  .ok q →
                Fits (room + 1) q.value := by
            intro inside hinside q hq
            have hfield := yields_field hhere hinside
            have hany := fieldsFit_any room
            split_ifs at hq
            · exact (yields_readFieldList hfield Field.all {} true ds hany hq).fits
            · exact (yields_readFields hfield [] {} true ds hany hq).fits
          obtain ⟨q, hq, rfl⟩ := ok_of_map h
          cases room with
          | zero => exact hfields none .none q hq
          | succ deeper => exact hfields _ (.some (ih deeper (by omega))) q hq
      · rw [if_neg hopen] at h
        exact absurd h refuse_ne_ok

theorem fits_parse {text : String} {s : Schema} (h : parse text = .ok s) : Fits deepest s := by
  unfold parse at h
  split at h
  · next t hchars =>
    cases h
    unfold parseChars at hchars
    split at hchars
    · cases hchars
    · next r hr =>
      unfold finish at hchars
      split at hchars
      · cases hchars
        exact yields_readSchema deepest _ r hr
      · cases hchars
  · cases h

/-- **Reading and writing is a normal form.**  Whatever the text that a schema was read from, the
    schema is well formed and nests no deeper than texts may; what is written of it, in either
    layout, is read without an error, as the same schema; and that is written the same again. -/
theorem parse_rewritten {text : String} {s : Schema} (h : parse text = .ok s) :
    s.WellKeyed ∧ s.toJson.nesting ≤ deepest ∧
      ∀ l, ∃ t, parse (s.write l) = .ok t ∧ t = s ∧ ∀ m, t.write m = s.write m := by
  obtain ⟨hkeys, hdeep⟩ := fits_parse h
  refine ⟨hkeys, hdeep, ?_⟩
  intro l
  rcases parse_cases hkeys l with ⟨_, hread⟩ | ⟨htoo, _⟩
  · exact ⟨s, hread, rfl, fun _ => rfl⟩
  · exact absurd hdeep (Nat.not_le.mpr htoo)

/-- Keys out of order, an absent part as `null`, a key that is not known, a property that is set
    twice, a schema as an array that leaves fields out, and names as keys of objects. -/
theorem parse_rewritten_spellings :
    let text := "\x7b\"required\": [\"a\"], \"note\": [\x7b\x7d], \"properties\": " ++
      "\x7b\"a\": [\"null\"], \"a\": [\x7b\"array\": null\x7d, null, null, \x7b\x7d]\x7d, " ++
      "\"format\": null, \"type\": \x7b\"object\": null\x7d\x7d"
    ∃ s, parse text = .ok s ∧
      s.write .compact = (objectOf [("a", .arrayOf .any)] ["a"]).write .compact ∧
      s.WellKeyed ∧ s.toJson.nesting ≤ deepest ∧
      ∀ l, ∃ t, parse (s.write l) = .ok t ∧ t = s ∧ ∀ m, t.write m = s.write m := by
  intro text
  have hread : (parse text).toOption.map (write .compact) =
      some ((objectOf [("a", .arrayOf .any)] ["a"]).write .compact) := by decide +kernel
  cases hparse : parse text with
  | error e =>
    rw [hparse] at hread
    cases hread
  | ok s =>
    rw [hparse] at hread
    exact ⟨s, rfl, Option.some.inj hread, parse_rewritten hparse⟩

end Schema
end SampleSchema
