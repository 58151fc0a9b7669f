/-
  What is read from a text fits below the limit.

  Two limits bear on how deep containers may nest, and they are set apart from each other: the one
  with which texts are read, and the one with which samples are looked at.  The second is far above
  the first by default.

  1. **What was read nests no deeper than the reader had room** (`nesting_readValue_le`).  The loops
     over items and entries hold nothing that the reader of one item did not give
     (`mem_readItems`, `mem_readEntries`), so one level goes with each bracket.

  2. **A value that nests no deeper than the limit is looked at as a whole**
     (`events_outline_of_nesting`): a container at some depth is opened if there is room for one
     level more, and the guard against cycles has nothing to say about a tree.  The only events are
     then disagreements between items.

  3. Hence a limit at or above the one for reading is as good as any other, and nothing is lost
     (`infer_readSample`).
-/
import SampleSchema.Proofs.Cuts
import SampleSchema.Proofs.JsonText
import SampleSchema.Proofs.Placement
import SampleSchema.Proofs.ReadBack
import SampleSchema.Proofs.Running

namespace SampleSchema
namespace Json

/-! ## How deep the values nest that are read -/

variable {α : Type}

/-- Each of the items was read as one item, somewhere in the text. -/
theorem mem_readItems {item : Reader α} (first : Bool) (cs : List Char)
    {r : Reading (List α) cs} (h : readItems item first cs = .ok r) :
    ∀ x ∈ r.value, ∃ ds, ∃ q : Reading α ds, item ds = .ok q ∧ q.value = x := by
  fun_induction readItems item first cs with
  | case1 | case3 | case4 => cases h
  | case2 =>
    cases h
    exact fun x hx => absurd hx List.not_mem_nil
  | case5 first cs start hstart hnext q hq _ rest hrest ih =>
    cases h
    exact List.forall_mem_cons.mpr ⟨⟨start, q, hq, rfl⟩, ih hrest⟩

/-- The value of each entry was read as one item, somewhere in the text. -/
theorem mem_readEntries {item : Reader α} (first : Bool) (cs : List Char)
    {r : Reading (List (String × α)) cs} (h : readEntries item first cs = .ok r) :
    ∀ e ∈ r.value, ∃ ds, ∃ q : Reading α ds, item ds = .ok q ∧ q.value = e.2 := by
  fun_induction readEntries item first cs with
  | case1 | case3 | case4 | case5 | case6 => cases h
  | case2 =>
    cases h
    exact fun e he => absurd he List.not_mem_nil
  | case7 first cs start hstart hnext key hkey colon hcolon q hq _ _ _ rest hrest ih =>
    cases h
    exact List.forall_mem_cons.mpr ⟨⟨colon.rest, q, hq, rfl⟩, ih hrest⟩

/-- A reading that was changed was a reading before. -/
theorem ok_of_map {ε β γ : Type} {f : β → γ} {outcome : Except ε β} {r : γ}
    (h : outcome.map f = .ok r) : ∃ q, outcome = .ok q ∧ f q = r := by
  cases outcome with
  | error e => cases h
  | ok q =>
    cases h
    exact ⟨q, rfl, rfl⟩

theorem value_of_wordValue {v : α} {letters cs : List Char} {r : Reading α cs}
    (h : wordValue v letters cs = .ok r) : r.value = v := by
  unfold wordValue at h
  split at h
  · cases h
  · next rest =>
    cases hword : readWord letters rest with
    | error e =>
      rw [hword] at h
      cases h
    | ok q =>
      rw [hword] at h
      cases h
      rfl

/-- What a value may be that was read: a scalar, or a container whose parts were read with one level
    less. -/
inductive ReadWith : Nat → Json → Prop where
  | null (room : Nat) : ReadWith room .null
  | bool (room : Nat) (b : Bool) : ReadWith room (.bool b)
  | number (room : Nat) (n : Number) : ReadWith room (.number n)
  | string (room : Nat) (s : String) : ReadWith room (.string s)
  | array {room : Nat} {ds : List Char} {q : Reading (List Json) ds}
      (h : readItems (readValue room) true ds = .ok q) : ReadWith (room + 1) (.array q.value)
  | object {room : Nat} {ds : List Char} {q : Reading (List (String × Json)) ds}
      (h : readEntries (readValue room) true ds = .ok q) :
      ReadWith (room + 1) (.object (Keyed.ofEntries q.value))

theorem readWith_of_readValue {room : Nat} {cs : List Char} {r : Reading Json cs}
    (h : readValue room cs = .ok r) : ReadWith room r.value := by
  have hword : ∀ {v : Json} {letters ds : List Char} {hskip : skipBlanks cs = ds},
      (wordValue v letters ds).map (Reading.afterBlanks hskip) = .ok r → r.value = v := by
    intro v letters ds hskip h
    obtain ⟨q, hq, rfl⟩ := ok_of_map h
    show q.value = v
    exact value_of_wordValue hq
  unfold readValue at h
  split at h
  · cases h
  · split_ifs at h with hn ht hf hminus hdigit hquote hbracket hbrace
    · exact hword h ▸ .null room
    · exact hword h ▸ .bool room true
    · exact hword h ▸ .bool room false
    · obtain ⟨q, _, rfl⟩ := ok_of_map h
      exact .number room q.value
    · obtain ⟨q, _, rfl⟩ := ok_of_map h
      exact .number room q.value
    · obtain ⟨q, _, rfl⟩ := ok_of_map h
      exact .string room q.value
    · cases room with
      | zero => cases h
      | succ room =>
        obtain ⟨q, hq, rfl⟩ := ok_of_map h
        exact .array hq
    · cases room with
      | zero => cases h
      | succ room =>
        obtain ⟨q, hq, rfl⟩ := ok_of_map h
        exact .object hq
    · cases h

/-- **What was read nests no deeper than there was room.** -/
theorem nesting_readValue_le (room : Nat) : ∀ {cs : List Char} {r : Reading Json cs},
    readValue room cs = .ok r → r.value.nesting ≤ room := by
  induction room with
  | zero =>
    intro cs r h
    have hvalue := readWith_of_readValue h
    generalize r.value = v at hvalue ⊢
    cases hvalue <;> exact Nat.le_refl 0
  | succ room ih =>
    intro cs r h
    have hvalue := readWith_of_readValue h
    generalize r.value = v at hvalue ⊢
    cases hvalue with
    | array hitems =>
      refine nesting_array_le.mpr fun x hx => ?_
      obtain ⟨ds, q, hq, rfl⟩ := mem_readItems true _ hitems x hx
      exact ih hq
    | object hentries =>
      refine nesting_object_le.mpr fun e he => ?_
      obtain ⟨ds, q, hq, hvalue⟩ :=
        mem_readEntries true _ hentries e (Keyed.mem_of_mem_ofEntries he)
      exact hvalue ▸ ih hq
    | _ => exact Nat.zero_le _

theorem nesting_parse_le {text : String} {v : Json} (h : parse text = .ok v) :
    v.nesting ≤ deepest := by
  unfold parse at h
  split at h
  · next w hchars =>
    cases h
    unfold parseChars at hchars
    split at hchars
    · cases hchars
    · next r hr =>
      unfold finish at hchars
      split at hchars
      · cases hchars
        exact nesting_readValue_le deepest hr
      · cases hchars
  · cases h

end Json

/-- **A sample nests no deeper than what is read.** -/
theorem nesting_readSample_le {path : String} {text : Except Denial String} {v : Json}
    (h : readSample path text = .ok v) : v.nesting ≤ Json.deepest := by
  unfold readSample at h
  split at h
  · cases h
  · split at h
    · next w hparse =>
      cases h
      exact Json.nesting_parse_le hparse
    · cases h

/-! ## Looking at all of it -/

/-- With as many levels as the value nests, nothing is cut off; the only events are disagreements
    between items. -/
theorem events_outline_of_nesting (limit : Nat) (t : Toggles) (v : Json) : ∀ depth,
    depth + v.nesting ≤ limit →
    ∀ e ∈ (outline limit Json.look depth [] v).events t, ∃ d, e = .disagreed d := by
  induction v with
  | array xs ih =>
    intro depth hdepth e he
    have hpos := Json.nesting_array_pos xs
    have hlimit : ¬ limit ≤ depth := by omega
    have hitems := Json.nesting_array_le.mp (show (Json.array xs).nesting ≤ limit - depth - 1 + 1 by
      omega)
    rw [outline_array rfl, if_neg hlimit, Outline.mem_events_array] at he
    rcases he with ⟨o, ho, he⟩ | ⟨d, _, rfl⟩
    · obtain ⟨x, hx, rfl⟩ := List.mem_map.mp ho
      have hfits := hitems x hx
      exact ih x hx (depth + 1) (by omega) e he
    · exact ⟨d, rfl⟩
  | object es ih =>
    intro depth hdepth e he
    have hpos := Json.nesting_object_pos es
    have hlimit : ¬ limit ≤ depth := by omega
    have hentries := Json.nesting_object_le.mp
      (show (Json.object es).nesting ≤ limit - depth - 1 + 1 by omega)
    rw [outline_object rfl, if_neg hlimit, Outline.mem_events_object] at he
    obtain ⟨_, hmem, he⟩ := he
    obtain ⟨a, ha, rfl⟩ := List.mem_map.mp hmem
    have hfits := hentries a ha
    exact ih a ha (depth + 1) (by omega) e he
  | _ =>
    intro depth _ e he
    rw [outline] at he
    exact absurd he List.not_mem_nil

/-- **Nothing is lost of a sample that was read**, if the limit is at least the one for reading, as
    it is by default.  The schema and the events are then the same for all such limits; no event
    tells of a container at the limit, nor of one met inside itself; and nowhere in the schema is
    there an array without items or an object without properties. -/
theorem infer_readSample {path : String} {text : Except Denial String} {v : Json}
    (h : readSample path text = .ok v) (t : Toggles) :
    ∃ r : Inferred, (∀ limit, Json.deepest ≤ limit → inferJson ⟨limit, t⟩ v = r) ∧
      inferJson { formats := t } v = r ∧
      (∀ e ∈ r.log, e.level ≠ .warn ∧ ∀ kind depth, e ≠ .cyclic kind depth) ∧
      (∀ k part, Schema.Occurs part k r.schema → ¬ part.Bare) := by
  have hnesting := nesting_readSample_le h
  have hevents := events_outline_of_nesting Json.deepest t v 0 (by omega)
  have hlimit : ∀ kind d limit, .tooDeep kind d limit ∉
      (outline Json.deepest Json.look 0 [] v).events t := by
    intro kind d limit hc
    obtain ⟨_, hd⟩ := hevents _ hc
    cases hd
  have hcycle : ∀ kind d, .cyclic kind d ∉ (outline Json.deepest Json.look 0 [] v).events t := by
    intro kind d hc
    obtain ⟨_, hd⟩ := hevents _ hc
    cases hd
  have hsame : ∀ limit, Json.deepest ≤ limit →
      inferJson ⟨limit, t⟩ v = inferJson ⟨Json.deepest, t⟩ v := by
    intro limit hlow
    rw [inferJson_eq, inferJson_eq, infer_eq, infer_eq,
      outline_eq_of_not_tooDeep hlow Json.look t _ 0 [] v rfl hlimit]
  refine ⟨inferJson ⟨Json.deepest, t⟩ v, hsame, hsame _ (by decide), ?_, ?_⟩
  · intro e he
    rw [inferJson_eq, infer_eq] at he
    rcases List.mem_append.mp he with he | he
    · obtain ⟨d, rfl⟩ := hevents e he
      exact ⟨nofun, nofun⟩
    · rw [List.mem_singleton.mp he]
      exact ⟨nofun, nofun⟩
  · rw [inferJson_eq, infer_eq]
    exact Outline.filled_schema _ hlimit hcycle

/-- As many objects inside one another as are read: a limit with not one level to spare shows all of
    them, as every higher one does. -/
theorem infer_readSample_nested :
    let v := Json.nested 126
    readSample "nested.json" (.ok (v.write .compact)) = .ok v ∧ v.nesting = Json.deepest ∧
      ∃ r : Inferred, (∀ limit, Json.deepest ≤ limit → inferJson ⟨limit, {}⟩ v = r) ∧
        inferJson { formats := {} } v = r ∧
        (∀ e ∈ r.log, e.level ≠ .warn ∧ ∀ kind depth, e ≠ .cyclic kind depth) ∧
        (∀ k part, Schema.Occurs part k r.schema → ¬ part.Bare) := by
  intro v
  have hnesting : v.nesting = Json.deepest := Json.nesting_nested 126
  have hparse := (Json.textual_nested 126).parse_write (Nat.le_of_eq hnesting) .compact
  have hread := readSample_of_parse hparse "nested.json"
  exact ⟨hread, hnesting, infer_readSample hread {}⟩

end SampleSchema
