/-
  Schemas are read back from their texts.

  A schema is written field by field, in a fixed order and only where a part is present; it is read
  field by field, in whatever order they come, into a schema that is empty at first.  The crux is
  the loop over the fields (`gives_readFields`): when the fields that are left are those of `fs`,
  reading adds exactly their parts to the schema read so far (`copyFields`), and none of them counts
  as a repeated one, because a document has each field once.  Copying every field of `s` to the
  empty schema gives `s` (`copyFields_all`).

  Absent, empty and `{}` stay apart on the way: an absent part has no entry in the document, and an
  entry that is there is never `null`.

  As in `Decodes`, what is read back and what is not is one statement: a schema is read back if its
  document nests no deeper than reading goes, and otherwise refused as too deep (`decodes_schema`).
  Everything holds for any schema whose maps set no key twice, whether inference builds it or not.
-/
import SampleSchema.Proofs.JsonText
import SampleSchema.Proofs.Shape
import SampleSchema.Schema.Document
import SampleSchema.Schema.Reader

namespace SampleSchema
namespace Schema

open Json

/-! ## Schemas whose maps set no key twice -/

/-- No map of properties sets a key twice, at any depth. -/
inductive WellKeyed : Schema → Prop where
  | intro {s : Schema}
      (alternative : ∀ ss, s.anyOf = some ss → ∀ a ∈ ss, WellKeyed a)
      (distinct : ∀ p, s.properties = some p → Keyed.Distinct p)
      (property : ∀ p, s.properties = some p → ∀ e ∈ p, WellKeyed e.2)
      (item : ∀ i, s.items = some i → WellKeyed i) : WellKeyed s

/-! ## A schema as a document, field by field -/

/-- What the document of a schema holds in a field. -/
def part? (s : Schema) : Field → Option Json
  | .kind => s.kind.map fun k => .string k.name
  | .anyOf => s.anyOf.map fun ss => .array (ss.map toJson)
  | .properties => s.properties.map fun p => .object (Keyed.mapValues toJson p)
  | .items => s.items.map toJson
  | .required => s.required.map fun keys => .array (keys.map .string)
  | .format => s.format.map fun f => .string f.name

/-- The entries that a document has for these fields. -/
def entriesOf (s : Schema) (fs : List Field) : List (String × Json) :=
  fs.filterMap fun f => (s.part? f).map (Prod.mk f.key)

theorem toJsonItems_eq_map (ss : List Schema) : toJsonItems ss = ss.map toJson := by
  induction ss with
  | nil => rfl
  | cons s ss ih => rw [toJsonItems, ih, List.map_cons]

theorem toJsonEntries_eq_mapValues (p : List (String × Schema)) :
    toJsonEntries p = Keyed.mapValues toJson p := by
  induction p with
  | nil => rfl
  | cons e p ih =>
    rw [toJsonEntries, ih]
    rfl

theorem toJson_eq (s : Schema) : s.toJson = .object (s.entriesOf Field.all) := by
  obtain ⟨k, a, p, i, r, f⟩ := s
  rw [toJson.eq_def]
  simp only [toJsonItems_eq_map, toJsonEntries_eq_mapValues]
  cases k <;> cases a <;> cases p <;> cases i <;> cases r <;> cases f <;> rfl

theorem Field.ofKey?_key (f : Field) : Field.ofKey? f.key = some f := by cases f <;> decide

/-- A schema with one field taken from another one. -/
def copyField (s t : Schema) : Field → Schema
  | .kind => { t with kind := s.kind }
  | .anyOf => { t with anyOf := s.anyOf }
  | .properties => { t with properties := s.properties }
  | .items => { t with items := s.items }
  | .required => { t with required := s.required }
  | .format => { t with format := s.format }

/-- A schema with those of these fields taken from another one that are present there. -/
def copyFields (s : Schema) (fs : List Field) (t : Schema) : Schema :=
  fs.foldl (fun t f => if (s.part? f).isSome then s.copyField t f else t) t

/-- Nothing of a schema is outside its fields. -/
theorem copyFields_all (s : Schema) : s.copyFields Field.all {} = s := by
  obtain ⟨k, a, p, i, r, f⟩ := s
  cases k <;> cases a <;> cases p <;> cases i <;> cases r <;> cases f <;> rfl

/-! ## The readers of the parts -/

variable {α : Type}

/-- What reads the contents of a container, where `room` levels are left: nothing when there is no
    room for the container, and otherwise a reader that has one level less. -/
inductive Deeper (P : Reader α → Nat → Prop) : Nat → Option (Reader α) → Prop where
  | none : Deeper P 0 none
  | some {R : Reader α} {room : Nat} (h : P R room) : Deeper P (room + 1) (some R)

theorem Deeper.imp {P Q : Reader α → Nat → Prop} {room : Nat} {R : Option (Reader α)}
    (h : Deeper P room R) (himp : ∀ R room, P R room → Q R room) : Deeper Q room R := by
  cases h with
  | none => exact .none
  | some h => exact .some (himp _ _ h)

theorem decodes_text (expected : String) (room : Nat) (s : String) :
    Decodes (readText expected) room (.string s) s := by
  refine ⟨delimited_string s, ?_⟩
  intro l depth gap rest hgap
  have hskip := skipBlanks_string hgap l depth s rest
  unfold readText
  split
  · next h =>
    rw [hskip] at h
    cases h
  · next h =>
    cases hskip.symm.trans h
    exact (gives_readString room s rest).map (fun _ hv => hv) (fun _ => rfl)

/-- A name is read as what it stands for. -/
theorem decodes_name (roomy : Bool) {v : Vocabulary α} {name : String} {x : α}
    (hname : v.ofName? name = some x) (room : Nat) :
    Decodes (readName roomy v) room (.string name) x := by
  refine ⟨delimited_string name, ?_⟩
  intro l depth gap rest hgap
  have hskip := skipBlanks_string hgap l depth name rest
  have hknown : Gives (readKnown v ('"' :: (name.toList.flatMap escapedChar ++ '"' :: rest)))
      ((Json.string name).nesting ≤ room) x rest := by
    have htext := (decodes_text "variant identifier" room name).gives_here .compact 0 rest
    rw [chars, stringChars_append] at htext
    rcases htext with ⟨hfits, hlt, hread⟩ | ⟨hfits, _⟩
    · unfold readKnown
      rw [hread]
      simp only [Vocabulary.lookUp, hname]
      exact .ok hfits rfl
    · exact absurd (Nat.zero_le room) hfits
  unfold readName
  split
  · next h =>
    rw [hskip] at h
    cases h
  · next h =>
    cases hskip.symm.trans h
    exact hknown.map (fun _ hv => hv) (fun _ => rfl)

theorem ofName?_kindNames (k : Kind) : kindNames.ofName? k.name = some k := Kind.ofName?_name k

theorem ofName?_formatNames (f : Format) : formatNames.ofName? f.name = some f :=
  Format.ofName?_name f

/-- A part that is there is never `null`. -/
theorem decodes_optional {R : Reader α} {room : Nat} {j : Json} {x : α} (h : Decodes R room j x) :
    Decodes (readOptional R) room j (some x) := by
  refine ⟨h.delimited, ?_⟩
  intro l depth gap rest hgap
  have hpart := h.gives l depth gap rest hgap
  obtain ⟨c, r, _, hskip, hc⟩ := h.delimited.skipBlanks_eq l depth hgap rest
  have hnull : c ≠ 'n' := by rcases hc with rfl | rfl | rfl <;> decide
  unfold readOptional
  split
  · next heq =>
    rw [hskip] at heq
    cases heq
  · next heq =>
    cases hskip.symm.trans heq
    rw [if_neg hnull]
    exact hpart.map (fun _ hv => congrArg some hv) (fun _ => rfl)

theorem decodes_list {item : Option (Reader α)} {room : Nat} {f : α → Json} {xs : List α}
    (h : Deeper (fun R room => ∀ x ∈ xs, Decodes R room (f x) x) room item) :
    Decodes (readList item) room (.array (xs.map f)) xs := by
  refine ⟨delimited_array _, ?_⟩
  intro l depth gap rest hgap
  have hskip := skipBlanks_array hgap l depth (xs.map f) rest
  unfold readList
  split
  · next heq =>
    rw [hskip] at heq
    cases heq
  · next heq =>
    cases hskip.symm.trans heq
    cases h with
    | none => exact .tooDeep (Nat.not_le.mpr (nesting_array_pos _)) rfl rfl
    | @some R room h =>
      have hitems := gives_readItems h l depth rest true
      have hfits : (∀ x ∈ xs, (f x).nesting ≤ room) ↔
          (Json.array (xs.map f)).nesting ≤ room + 1 := by
        rw [nesting_array_le, List.forall_mem_map]
      exact (hitems.congr hfits).map (fun _ hv => hv) (fun _ => rfl)

theorem decodes_map {item : Option (Reader α)} {room : Nat} {f : α → Json} {es : Keyed α}
    (hdistinct : es.Distinct)
    (h : Deeper (fun R room => ∀ e ∈ es, Decodes R room (f e.2) e.2) room item) :
    Decodes (readMap item) room (.object (Keyed.mapValues f es)) es := by
  refine ⟨delimited_object _, ?_⟩
  intro l depth gap rest hgap
  have hskip := skipBlanks_object hgap l depth (Keyed.mapValues f es) rest
  unfold readMap
  split
  · next heq =>
    rw [hskip] at heq
    cases heq
  · next heq =>
    cases hskip.symm.trans heq
    cases h with
    | none => exact .tooDeep (Nat.not_le.mpr (nesting_object_pos _)) rfl rfl
    | @some R room h =>
      have hentries := gives_readEntries h l depth rest true
      have hfits : (∀ e ∈ es, (f e.2).nesting ≤ room) ↔
          (Json.object (Keyed.mapValues f es)).nesting ≤ room + 1 := by
        rw [nesting_object_le, Keyed.mapValues, List.forall_mem_map]
      refine (hentries.congr hfits).map (fun x hv => ?_) (fun _ => rfl)
      show Keyed.ofEntries x.value = es
      rw [hv, Keyed.ofEntries_of_distinct hdistinct]

/-! ## The reader of a field -/

/-- `R` reads the schemas that stand in a container inside the document of `s`: the alternatives,
    and those of the properties. -/
structure PartsReadBy (s : Schema) (R : Reader Schema) (room : Nat) : Prop where
  alternative : ∀ ss, s.anyOf = some ss → ∀ a ∈ ss, Decodes R room a.toJson a
  property : ∀ p, s.properties = some p → ∀ e ∈ p, Decodes R room e.2.toJson e.2

/-- **A field is read as the part of the schema** that its document holds, for readers of the
    schemas in it: `here` has as much room as the field, and `inside` is for the schemas in a
    container. -/
theorem decodes_field {s : Schema} {room : Nat} {here : Reader Schema}
    {inside : Option (Reader Schema)} (hkeys : ∀ p, s.properties = some p → Keyed.Distinct p)
    (hitem : ∀ i, s.items = some i → Decodes here room i.toJson i)
    (hinside : Deeper s.PartsReadBy room inside) (f : Field) (j : Json) (hj : s.part? f = some j)
    (t : Schema) :
    Decodes (readField here inside (room != 0) f t) room j (s.copyField t f) := by
  cases f with
  | kind =>
    obtain ⟨k, hk, rfl⟩ := Option.map_eq_some_iff.mp hj
    have hread := decodes_optional (decodes_name (room != 0) (ofName?_kindNames k) room)
    rw [copyField, hk]
    exact hread.map fun v => { t with kind := v }
  | anyOf =>
    obtain ⟨ss, hss, rfl⟩ := Option.map_eq_some_iff.mp hj
    have hitems : Deeper (fun R room => ∀ a ∈ ss, Decodes R room a.toJson a) room inside :=
      hinside.imp fun _ _ h => h.alternative ss hss
    rw [copyField, hss]
    exact (decodes_optional (decodes_list hitems)).map fun v => { t with anyOf := v }
  | properties =>
    obtain ⟨p, hp, rfl⟩ := Option.map_eq_some_iff.mp hj
    have hentries : Deeper (fun R room => ∀ e ∈ p, Decodes R room e.2.toJson e.2) room inside :=
      hinside.imp fun _ _ h => h.property p hp
    rw [copyField, hp]
    exact (decodes_optional (decodes_map (hkeys p hp) hentries)).map
      fun v => { t with properties := v }
  | items =>
    obtain ⟨i, hi, rfl⟩ := Option.map_eq_some_iff.mp hj
    rw [copyField, hi]
    exact (decodes_optional (hitem i hi)).map fun v => { t with items := v }
  | required =>
    obtain ⟨keys, hr, rfl⟩ := Option.map_eq_some_iff.mp hj
    have hitems : Deeper (fun R room => ∀ key ∈ keys, Decodes R room (.string key) key) room
        (if room != 0 then some (readText "a string") else none) := by
      cases room with
      | zero => exact .none
      | succ room => exact .some fun key _ => decodes_text "a string" room key
    rw [copyField, hr]
    exact (decodes_optional (decodes_list hitems)).map fun v => { t with required := v }
  | format =>
    obtain ⟨g, hg, rfl⟩ := Option.map_eq_some_iff.mp hj
    have hread := decodes_optional (decodes_name (room != 0) (ofName?_formatNames g) room)
    rw [copyField, hg]
    exact hread.map fun v => { t with format := v }

/-! ## The fields of a document -/

/-- **The loop over the fields** copies the parts that the document has, up to the first one that
    is too deep.  `seen` are fields that were read before, none of which is left. -/
theorem gives_readFields {field : Field → Schema → Reader Schema} {room : Nat} {s : Schema}
    (l : Layout) (depth : Nat) (rest : List Char) (fs : List Field)
    (hread : ∀ f ∈ fs, ∀ j, s.part? f = some j → ∀ t,
      Decodes (field f t) room j (s.copyField t f)) (hnodup : fs.Nodup) :
    ∀ (seen : List Field) (t : Schema) (first : Bool), (∀ f ∈ fs, f ∉ seen) →
    Gives (readFields field seen t first (entriesTail l depth first (s.entriesOf fs) ++ rest))
      (∀ e ∈ s.entriesOf fs, e.2.nesting ≤ room) (s.copyFields fs t) rest := by
  induction fs with
  | nil =>
    intro seen t first _
    obtain ⟨hlt, hnext⟩ := nextKey_end l depth first rest
    rw [entriesOf, List.filterMap_nil, readFields, hnext]
    exact .ok (fun _ he => absurd he List.not_mem_nil) rfl
  | cons f fs ih =>
    intro seen t first hseen
    have ih := ih (fun g hg => hread g (List.mem_cons_of_mem _ hg)) (List.nodup_cons.mp hnodup).2
    have hseen' : ∀ g ∈ fs, g ∉ seen := fun g hg => hseen g (List.mem_cons_of_mem _ hg)
    cases hpart : s.part? f with
    | none =>
      -- the document has no entry for this field
      have hentries : s.entriesOf (f :: fs) = s.entriesOf fs := by
        rw [entriesOf, List.filterMap_cons, hpart]
        rfl
      have hcopy : s.copyFields (f :: fs) t = s.copyFields fs t := by
        rw [copyFields, List.foldl_cons, hpart]
        rfl
      rw [hentries, hcopy]
      exact ih seen t first hseen'
    | some j =>
      have hentries : s.entriesOf (f :: fs) = (f.key, j) :: s.entriesOf fs := by
        rw [entriesOf, List.filterMap_cons, hpart]
        rfl
      have hcopy : s.copyFields (f :: fs) t = s.copyFields fs (s.copyField t f) := by
        rw [copyFields, List.foldl_cons, hpart]
        rfl
      have hvalue := (hread f List.mem_cons_self j hpart t).gives l (depth + 1) l.colon.tail
        (entriesTail l depth false (s.entriesOf fs) ++ rest) (blank_tail_colon l)
      rw [hentries, hcopy, readFields]
      obtain ⟨hle, hnext⟩ := nextKey_item l depth first f.key j (s.entriesOf fs) rest
      rw [hnext]
      dsimp only
      obtain ⟨hlt, hkey⟩ := readKey_written f.key _
      rw [hkey]
      dsimp only
      rw [Field.ofKey?_key]
      dsimp only
      rw [if_neg (hseen f List.mem_cons_self)]
      obtain ⟨hlt', hcolon⟩ := readColon_written l _
      rw [hcolon]
      dsimp only
      rcases hvalue with ⟨hfits, hlt, hvalue⟩ | ⟨hfits, e, hvalue, he⟩
      · rw [hvalue]
        dsimp only
        have hseen'' : ∀ g ∈ fs, g ∉ f :: seen := by
          intro g hg hmem
          rcases List.mem_cons.mp hmem with rfl | hmem
          · exact (List.nodup_cons.mp hnodup).1 hg
          · exact hseen' g hg hmem
        rcases ih (f :: seen) (s.copyField t f) false hseen'' with
          ⟨hrest, hlt, hfields⟩ | ⟨hrest, e, hfields, he⟩
        · rw [hfields]
          exact .ok (List.forall_mem_cons.mpr ⟨hfits, hrest⟩) rfl
        · rw [hfields]
          exact .tooDeep (fun hc => hrest (List.forall_mem_cons.mp hc).2) rfl he
      · rw [hvalue]
        exact .tooDeep (fun hc => hfits (List.forall_mem_cons.mp hc).1) rfl he

/-! ## Schemas -/

/-- **A schema is read back** off every text of its document that fits, and refused as too deep
    otherwise. -/
theorem decodes_schema {s : Schema} (h : s.WellKeyed) :
    ∀ room, Decodes (readSchema room) room s.toJson s := by
  induction h with
  | @intro s _ hkeys _ _ ihalternative ihproperty ihitem =>
    intro room
    rw [toJson_eq]
    refine ⟨delimited_object _, ?_⟩
    intro l depth gap rest hgap
    have hskip := skipBlanks_object hgap l depth (s.entriesOf Field.all) rest
    unfold readSchema
    split
    · next heq =>
      rw [hskip] at heq
      cases heq
    · next heq =>
      cases hskip.symm.trans heq
      rw [if_pos (Or.inl rfl)]
      cases room with
      | zero => exact .tooDeep (Nat.not_le.mpr (nesting_object_pos _)) rfl rfl
      | succ room =>
        have hfields : ∀ inside, Deeper s.PartsReadBy room inside → Gives
            (readFields (readField (readSchema room) inside (room != 0)) [] {} true
              (entriesTail l depth true (s.entriesOf Field.all) ++ rest))
            ((Json.object (s.entriesOf Field.all)).nesting ≤ room + 1) s rest := by
          intro inside hinside
          have hread := gives_readFields l depth rest Field.all
            (fun f _ => decodes_field hkeys (fun i hi => ihitem i hi room) hinside f)
            (by decide) [] {} true (fun _ _ => List.not_mem_nil)
          rw [copyFields_all] at hread
          exact hread.congr nesting_object_le.symm
        cases room with
        | zero => exact (hfields none .none).map (fun _ hv => hv) (fun _ => rfl)
        | succ deeper =>
          have hparts : s.PartsReadBy (readSchema deeper) deeper :=
            ⟨fun ss hss a ha => ihalternative ss hss a ha deeper,
              fun p hp e he => ihproperty p hp e he deeper⟩
          exact (hfields _ (.some hparts)).map (fun _ hv => hv) (fun _ => rfl)

/-- What comes of reading the whole text of a schema. -/
theorem parse_cases {s : Schema} (h : s.WellKeyed) (l : Layout) :
    (s.toJson.nesting ≤ deepest ∧ parse (s.write l) = .ok s) ∨
      (deepest < s.toJson.nesting ∧ ∃ place : Position,
        parse (s.write l) = .error ("recursion limit exceeded at " ++ place.describe)) := by
  rw [parse, write, Json.write, String.toList_ofList, parseChars]
  rcases (decodes_schema h deepest).gives_whole l 0 with
    ⟨hfits, hlt, hread⟩ | ⟨hfits, f, hread, hf⟩
  · rw [hread]
    exact Or.inl ⟨hfits, rfl⟩
  · rw [hread]
    refine Or.inr ⟨Nat.not_le.mp hfits, f.position (s.toJson.chars l 0), ?_⟩
    show Except.error (f.describe _) = _
    rw [Fault.describe, hf]
    rfl

/-- **Decoding undoes encoding.**  Every schema whose maps set no key twice, and whose document
    nests no deeper than texts may, is read back from either of its texts, with everything in its
    order. -/
theorem parse_written (s : Schema) (hkeys : s.WellKeyed) (hdeep : s.toJson.nesting ≤ deepest)
    (l : Layout) : parse (s.write l) = .ok s := by
  rcases parse_cases hkeys l with ⟨_, hread⟩ | ⟨htoo, _⟩
  · exact hread
  · exact absurd hdeep (Nat.not_le.mpr htoo)

/-- A schema that no inference builds, with a quote, a backslash and a control character in a key,
    with parts that are empty and a part that is `{}`. -/
theorem parse_written_odd :
    let s : Schema :=
      { anyOf := some []
        properties := some [("\"\\\x01", .any), ("", .arrayOf .any)]
        items := some .any
        required := some ["b", "", "a"]
        format := some .dateTime }
    s.WellKeyed ∧ s.toJson.nesting ≤ deepest ∧ parse (s.write .indented) = .ok s := by
  intro s
  have hany : any.WellKeyed := .intro nofun nofun nofun nofun
  have harray : (arrayOf any).WellKeyed := by
    refine .intro nofun nofun nofun ?_
    rintro _ ⟨⟩
    exact hany
  have hkeys : s.WellKeyed := by
    refine .intro ?_ ?_ ?_ ?_
    · rintro _ ⟨⟩ a ha
      exact absurd ha List.not_mem_nil
    · rintro _ ⟨⟩
      exact List.nodup_cons.mpr (by decide)
    · rintro _ ⟨⟩ e he
      rcases List.mem_cons.mp he with rfl | he
      · exact hany
      · rw [List.mem_singleton.mp he]
        exact harray
    · rintro _ ⟨⟩
      exact hany
  have hdeep : s.toJson.nesting ≤ deepest := by decide
  exact ⟨hkeys, hdeep, parse_written s hkeys hdeep .indented⟩

end Schema
end SampleSchema
