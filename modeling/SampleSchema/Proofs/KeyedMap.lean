/-
  What a row of settings leaves in a map that keeps the order of first appearance.

  `Keyed.ofEntries` runs `insert` over a row of entries.  Everything later modules need of it is
  said by its two views, apart from each other:

  * the KEYS are the keys of the row, each at its first place (`keys_ofEntries`), whatever the
    values are;
  * the VALUES all come out of the row (`mem_of_mem_ofEntries`), and changing every value alike
    commutes with building the map (`mapValues_ofEntries`).

  Building goes in parts (`insertAll_insertAll`): what a part of the row leaves, taken for a row,
  serves as well as that part.  The crux is that a key which has its place may be set earlier or
  later as long as it is not set in between (`insertAll_insert_of_mem`).  Of such parts the last one
  that has a key decides what is found under it (`get?_insertAll_flatten`).

  `firstSeen`, the view of the keys, repeats nothing (`nodup_firstSeen`); hence no built map sets a
  key twice (`distinct_ofEntries`).
-/
import SampleSchema.Keyed

namespace SampleSchema

/-! ## Rows of keys in order of first appearance -/

theorem nodup_addUnseen {ks : List String} (k : String) (h : ks.Nodup) :
    (addUnseen ks k).Nodup := by
  unfold addUnseen
  split
  · exact h
  · next hk =>
    rw [List.nodup_append]
    refine ⟨h, by simp, ?_⟩
    intro a ha b hb hab
    rw [List.mem_singleton] at hb
    exact hk (hb ▸ hab ▸ ha)

theorem nodup_foldl_addUnseen (ks : List String) : ∀ acc : List String,
    acc.Nodup → (ks.foldl addUnseen acc).Nodup := by
  induction ks with
  | nil => intro acc h; exact h
  | cons k ks ih => intro acc h; exact ih _ (nodup_addUnseen k h)

theorem nodup_firstSeen (ks : List String) : (firstSeen ks).Nodup :=
  nodup_foldl_addUnseen ks [] List.nodup_nil

theorem mem_addUnseen {ks : List String} {k a : String} : a ∈ addUnseen ks k ↔ a ∈ ks ∨ a = k := by
  unfold addUnseen
  split
  · next hk =>
    constructor
    · exact Or.inl
    · rintro (ha | rfl)
      · exact ha
      · exact hk
  · rw [List.mem_append, List.mem_singleton]

/-- Dropping repeats drops no key. -/
theorem mem_firstSeen {ks : List String} {a : String} : a ∈ firstSeen ks ↔ a ∈ ks := by
  have haux : ∀ (ks acc : List String), a ∈ ks.foldl addUnseen acc ↔ a ∈ acc ∨ a ∈ ks := by
    intro ks
    induction ks with
    | nil => intro acc; simp
    | cons k ks ih =>
      intro acc
      rw [List.foldl_cons, ih, mem_addUnseen, List.mem_cons, or_assoc]
  unfold firstSeen
  rw [haux]
  simp

/-- Keys in order of first appearance are the keys without their repeats. -/
theorem firstSeen_eq_eraseDups (ks : List String) : firstSeen ks = ks.eraseDups := by
  -- one side grows its row at the end, the other one at the front and turns it round
  have haux : ∀ (ks acc : List String),
      ks.foldl addUnseen acc.reverse = List.eraseDupsBy.loop (· == ·) ks acc := by
    intro ks
    induction ks with
    | nil => intro acc; rfl
    | cons k ks ih =>
      intro acc
      have hany : acc.any (k == ·) = decide (k ∈ acc.reverse) := by
        rw [Bool.eq_iff_iff]
        simp
      rw [List.foldl_cons, List.eraseDupsBy.loop, hany, addUnseen]
      by_cases hk : k ∈ acc.reverse
      · rw [if_pos hk, decide_eq_true hk]
        exact ih acc
      · rw [if_neg hk, decide_eq_false hk, ← List.reverse_cons]
        exact ih (k :: acc)
  exact haux ks []

namespace Keyed

variable {α β : Type}

/-! ## The keys -/

/-- One setting, seen by the keys alone. -/
theorem keys_insert (m : Keyed α) (k : String) (v : α) :
    (m.insert k v).keys = addUnseen m.keys k := by
  unfold addUnseen
  split
  · next h => exact keys_insert_of_mem m v h
  · next h => exact keys_insert_of_not_mem m v h

theorem keys_insertAll (es : List (String × α)) : ∀ m : Keyed α,
    (insertAll m es).keys = (es.map (·.1)).foldl addUnseen m.keys := by
  induction es with
  | nil => intro m; rfl
  | cons e es ih =>
    intro m
    show (insertAll (m.insert e.1 e.2) es).keys = _
    rw [ih, keys_insert]
    rfl

/-- **The keys of a built map** are the keys of the row, each at its first place. -/
theorem keys_ofEntries (es : List (String × α)) :
    (ofEntries es).keys = firstSeen (es.map (·.1)) :=
  keys_insertAll es []

theorem distinct_ofEntries (es : List (String × α)) : (ofEntries es).Distinct := by
  show (ofEntries es).keys.Nodup
  rw [keys_ofEntries]
  exact nodup_firstSeen _

theorem mem_keys_ofEntries {es : List (String × α)} {k : String} :
    k ∈ (ofEntries es).keys ↔ ∃ e ∈ es, e.1 = k := by
  rw [keys_ofEntries, mem_firstSeen, List.mem_map]

theorem mem_keys {m : Keyed α} {k : String} : k ∈ m.keys ↔ ∃ e ∈ m, e.1 = k := List.mem_map

/-- Setting a new key puts its entry last. -/
theorem insert_of_not_mem {m : Keyed α} {k : String} (v : α) (h : k ∉ m.keys) :
    m.insert k v = m ++ [(k, v)] := by
  induction m with
  | nil => rfl
  | cons e m ih =>
    obtain ⟨k', v'⟩ := e
    rw [keys_cons, List.mem_cons, not_or] at h
    have hk : ¬ k' = k := fun hc => h.1 hc.symm
    rw [insert, if_neg hk, ih h.2]
    rfl

/-- Setting a key that is there replaces its value in its place. -/
theorem insert_of_mem {m : Keyed α} (hm : m.Distinct) {k : String} (v : α) (hk : k ∈ m.keys) :
    m.insert k v = m.map fun e => if e.1 = k then (k, v) else e := by
  induction m with
  | nil => exact absurd hk List.not_mem_nil
  | cons e m ih =>
    have hnodup : e.1 ∉ keys m ∧ (keys m).Nodup := List.nodup_cons.mp hm
    by_cases he : e.1 = k
    · -- no other entry has the key
      have hrest : (m.map fun e => if e.1 = k then (k, v) else e) = m.map id := by
        refine List.map_congr_left fun a ha => if_neg fun hak => ?_
        exact hnodup.1 (mem_keys.mpr ⟨a, ha, hak.trans he.symm⟩)
      rw [insert, if_pos he, List.map_cons, if_pos he, hrest, List.map_id, he]
    · have hmem : k ∈ keys m := (List.mem_cons.mp hk).resolve_left fun h => he h.symm
      rw [insert, if_neg he, List.map_cons, if_neg he, ih hnodup.2 hmem]

/-- A row without repeats is the map that it builds. -/
theorem ofEntries_of_distinct {es : List (String × α)} (h : Distinct es) : ofEntries es = es := by
  have haux : ∀ (es : List (String × α)) (m : Keyed α), Distinct (m ++ es) →
      insertAll m es = m ++ es := by
    intro es
    induction es with
    | nil => intro m _; exact (List.append_nil m).symm
    | cons e es ih =>
      intro m hm
      have hnew : e.1 ∉ keys m := by
        intro hmem
        unfold Distinct keys at hm
        rw [List.map_append, List.nodup_append] at hm
        exact hm.2.2 _ hmem _ List.mem_cons_self rfl
      have hmove : m ++ e :: es = (m ++ [e]) ++ es := (List.append_cons m e es)
      show insertAll (m.insert e.1 e.2) es = _
      rw [insert_of_not_mem e.2 hnew, hmove]
      exact ih _ (hmove ▸ hm)
  exact haux es [] h

/-! ## The values -/

theorem mem_of_mem_insert {m : Keyed α} {k : String} {v : α} {e : String × α}
    (h : e ∈ m.insert k v) : e ∈ m ∨ e = (k, v) := by
  induction m with
  | nil => exact Or.inr (List.mem_singleton.mp h)
  | cons a m ih =>
    obtain ⟨k', v'⟩ := a
    by_cases hk : k' = k
    · rw [insert, if_pos hk] at h
      rcases List.mem_cons.mp h with h | h
      · exact Or.inr (h.trans (by rw [hk]))
      · exact Or.inl (List.mem_cons_of_mem _ h)
    · rw [insert, if_neg hk] at h
      rcases List.mem_cons.mp h with h | h
      · exact Or.inl (h ▸ List.mem_cons_self)
      · rcases ih h with h | h
        · exact Or.inl (List.mem_cons_of_mem _ h)
        · exact Or.inr h

theorem mem_of_mem_insertAll {e : String × α} (es : List (String × α)) : ∀ m : Keyed α,
    e ∈ insertAll m es → e ∈ m ∨ e ∈ es := by
  induction es with
  | nil => intro m h; exact Or.inl h
  | cons a es ih =>
    intro m h
    rcases ih (m.insert a.1 a.2) h with h | h
    · rcases mem_of_mem_insert h with h | h
      · exact Or.inl h
      · exact Or.inr (h ▸ List.mem_cons_self)
    · exact Or.inr (List.mem_cons_of_mem _ h)

/-- A built map holds nothing that was not set. -/
theorem mem_of_mem_ofEntries {es : List (String × α)} {e : String × α} (h : e ∈ ofEntries es) :
    e ∈ es := by
  rcases mem_of_mem_insertAll es [] h with h | h
  · exact absurd h List.not_mem_nil
  · exact h

/-- A look-up finds an entry of the map. -/
theorem mem_of_get? {m : Keyed α} {k : String} {v : α} (h : m.get? k = some v) : (k, v) ∈ m := by
  induction m with
  | nil => cases h
  | cons e m ih =>
    rw [get?_cons] at h
    split at h
    · next hk =>
      cases h
      exact hk ▸ List.mem_cons_self
    · exact List.mem_cons_of_mem _ (ih h)

/-- A map is told by its row of keys and by the values under them. -/
theorem eq_of_keys {m : Keyed α} : ∀ {n : Keyed α}, m.keys = n.keys →
    (∀ k v w, (k, v) ∈ m → (k, w) ∈ n → v = w) → m = n := by
  induction m with
  | nil =>
    intro n hkeys _
    have hn : n.map (·.1) = [] := hkeys.symm
    exact (List.map_eq_nil_iff.mp hn).symm
  | cons e m ih =>
    intro n hkeys hvalues
    cases n with
    | nil => cases hkeys
    | cons a n =>
      obtain ⟨k, v⟩ := e
      obtain ⟨k', w⟩ := a
      have hk : k = k' := (List.cons.inj hkeys).1
      subst hk
      have hv : v = w := hvalues k v w List.mem_cons_self List.mem_cons_self
      have hrest : m = n := by
        refine ih (List.cons.inj hkeys).2 ?_
        intro k v w hm hn
        exact hvalues k v w (List.mem_cons_of_mem _ hm) (List.mem_cons_of_mem _ hn)
      rw [hv, hrest]

/-! ## Changing every value alike -/

/-- Apply `f` to every value; keys and places stay. -/
def mapValues (f : α → β) (m : List (String × α)) : List (String × β) :=
  m.map fun e => (e.1, f e.2)

@[simp] theorem keys_mapValues (f : α → β) (m : Keyed α) : keys (mapValues f m) = keys m := by
  unfold keys mapValues
  rw [List.map_map]
  rfl

theorem distinct_mapValues {f : α → β} {m : Keyed α} :
    Distinct (mapValues f m) ↔ m.Distinct := by
  unfold Distinct
  rw [keys_mapValues]

theorem mem_mapValues {f : α → β} {m : List (String × α)} {e : String × β} :
    e ∈ mapValues f m ↔ ∃ a ∈ m, (a.1, f a.2) = e :=
  List.mem_map

theorem mapValues_insert (f : α → β) (m : Keyed α) (k : String) (v : α) :
    mapValues f (m.insert k v) = Keyed.insert (mapValues f m) k (f v) := by
  induction m with
  | nil => rfl
  | cons a m ih =>
    obtain ⟨k', v'⟩ := a
    show mapValues f (if k' = k then _ else _) = if k' = k then _ else _
    split
    · rfl
    · show (k', f v') :: mapValues f (Keyed.insert m k v) = _
      rw [ih]
      rfl

theorem mapValues_insertAll (f : α → β) (es : List (String × α)) : ∀ m : Keyed α,
    mapValues f (insertAll m es) = insertAll (mapValues f m) (mapValues f es) := by
  induction es with
  | nil => intro m; rfl
  | cons e es ih =>
    intro m
    show mapValues f (insertAll (m.insert e.1 e.2) es) = _
    rw [ih, mapValues_insert]
    rfl

/-- **Building a map and changing its values commute.** -/
theorem mapValues_ofEntries (f : α → β) (es : List (String × α)) :
    mapValues f (ofEntries es) = ofEntries (mapValues f es) :=
  mapValues_insertAll f es []

theorem get?_mapValues (f : α → β) (m : Keyed α) (k : String) :
    get? (mapValues f m) k = (m.get? k).map f := by
  induction m with
  | nil => rfl
  | cons e m ih =>
    show (if e.1 = k then some (f e.2) else get? (mapValues f m) k) = _
    rw [get?_cons, ih]
    split <;> rfl

/-! ## Maps built in parts -/

theorem insert_cons_self (m : Keyed α) (k : String) (v w : α) :
    Keyed.insert ((k, w) :: m) k v = (k, v) :: m :=
  if_pos rfl

theorem insert_cons_of_ne (m : Keyed α) {k a : String} (v w : α) (h : a ≠ k) :
    Keyed.insert ((a, w) :: m) k v = (a, w) :: m.insert k v :=
  if_neg h

/-- Of two settings of one key the second is decisive. -/
theorem insert_insert_self (m : Keyed α) (k : String) (v w : α) :
    (m.insert k v).insert k w = m.insert k w := by
  induction m with
  | nil => exact insert_cons_self [] k w v
  | cons e m ih =>
    obtain ⟨a, u⟩ := e
    by_cases ha : a = k
    · subst ha
      simp only [insert_cons_self]
    · simp only [insert_cons_of_ne m _ _ ha, insert_cons_of_ne _ _ _ ha, ih]

/-- A key that has its place already may be set before another key or after it. -/
theorem insert_comm_of_mem {m : Keyed α} {k k' : String} (v v' : α) (hk : k ∈ m.keys)
    (hne : k ≠ k') : (m.insert k v).insert k' v' = (m.insert k' v').insert k v := by
  induction m with
  | nil => exact absurd hk List.not_mem_nil
  | cons e m ih =>
    obtain ⟨a, w⟩ := e
    by_cases ha : a = k
    · subst ha
      simp only [insert_cons_self, insert_cons_of_ne _ _ _ hne]
    · have hmem : k ∈ keys m := (List.mem_cons.mp hk).resolve_left fun h => ha h.symm
      by_cases ha' : a = k'
      · subst ha'
        simp only [insert_cons_self, insert_cons_of_ne _ _ _ ha]
      · simp only [insert_cons_of_ne _ _ _ ha, insert_cons_of_ne _ _ _ ha', ih hmem]

theorem mem_keys_insert {m : Keyed α} {k a : String} (v : α) :
    a ∈ (m.insert k v).keys ↔ a ∈ m.keys ∨ a = k := by
  rw [keys_insert, mem_addUnseen]

/-- A key that has its place may also be set before a whole row in which it does not occur. -/
theorem insertAll_insert_of_mem {es : List (String × α)} {k : String} (v : α)
    (hnew : k ∉ keys es) : ∀ m : Keyed α, k ∈ m.keys →
      insertAll (m.insert k v) es = (insertAll m es).insert k v := by
  induction es with
  | nil => intro m _; rfl
  | cons e es ih =>
    intro m hk
    rw [keys_cons, List.mem_cons, not_or] at hnew
    show insertAll ((m.insert k v).insert e.1 e.2) es = _
    rw [insert_comm_of_mem v e.2 hk hnew.1]
    exact ih hnew.2 _ ((mem_keys_insert e.2).mpr (Or.inl hk))

/-- Setting a key in a map, and then the map in another one: as if the key were set last. -/
theorem insertAll_insert {n : Keyed α} (k : String) (v : α) (hn : n.Distinct) : ∀ m : Keyed α,
    insertAll m (n.insert k v) = (insertAll m n).insert k v := by
  induction n with
  | nil => intro m; rfl
  | cons e n ih =>
    intro m
    obtain ⟨a, w⟩ := e
    have hnodup : a ∉ keys n ∧ (keys n).Nodup := List.nodup_cons.mp hn
    by_cases ha : a = k
    · subst ha
      have hplace : a ∈ (m.insert a w).keys := (mem_keys_insert w).mpr (Or.inr rfl)
      rw [insert_cons_self]
      calc insertAll (m.insert a v) n
          = insertAll ((m.insert a w).insert a v) n := by rw [insert_insert_self]
        _ = (insertAll (m.insert a w) n).insert a v := insertAll_insert_of_mem v hnodup.1 _ hplace
    · rw [insert_cons_of_ne n v w ha]
      exact ih hnodup.2 (m.insert a w)

/-- **Setting entries goes in parts**: a row that is set in one map, and that map in another one,
    leaves what the same settings leave one by one. -/
theorem insertAll_insertAll (m : Keyed α) (es : List (String × α)) : ∀ n : Keyed α, n.Distinct →
    insertAll m (insertAll n es) = insertAll (insertAll m n) es := by
  induction es with
  | nil => intro n _; rfl
  | cons e es ih =>
    intro n hn
    show insertAll m (insertAll (n.insert e.1 e.2) es) = _
    rw [ih _ (distinct_insert n e.1 e.2 hn), insertAll_insert e.1 e.2 hn]
    rfl

theorem insertAll_append (m : Keyed α) (es fs : List (String × α)) :
    insertAll m (es ++ fs) = insertAll (insertAll m es) fs :=
  List.foldl_append

/-- **Building a map from maps**, each built from its row, is building it from all the rows. -/
theorem ofEntries_flatten (rows : List (List (String × α))) :
    ofEntries (rows.map ofEntries).flatten = ofEntries rows.flatten := by
  have haux : ∀ (rows : List (List (String × α))) (m : Keyed α),
      insertAll m (rows.map ofEntries).flatten = insertAll m rows.flatten := by
    intro rows
    induction rows with
    | nil => intro m; rfl
    | cons row rows ih =>
      intro m
      rw [List.map_cons, List.flatten_cons, List.flatten_cons, insertAll_append, insertAll_append,
        ofEntries, insertAll_insertAll m row [] List.nodup_nil]
      exact ih _
  exact haux rows []

/-! ## Look-ups -/

theorem get?_of_not_mem {m : Keyed α} {k : String} (h : k ∉ m.keys) : m.get? k = none := by
  cases hv : m.get? k with
  | none => rfl
  | some v => exact absurd (mem_keys.mpr ⟨_, mem_of_get? hv, rfl⟩) h

/-- Where no key is set twice, every entry is found under its key. -/
theorem get?_eq_some_iff {m : Keyed α} (hm : m.Distinct) {k : String} {v : α} :
    m.get? k = some v ↔ (k, v) ∈ m := by
  refine ⟨mem_of_get?, ?_⟩
  induction m with
  | nil => intro h; exact absurd h List.not_mem_nil
  | cons e m ih =>
    intro h
    have hnodup : e.1 ∉ keys m ∧ (keys m).Nodup := List.nodup_cons.mp hm
    rw [get?_cons]
    rcases List.mem_cons.mp h with rfl | h
    · exact if_pos rfl
    · rw [if_neg fun he => hnodup.1 (mem_keys.mpr ⟨_, h, he.symm⟩)]
      exact ih hnodup.2 h

theorem get?_insert (m : Keyed α) (k a : String) (v : α) :
    (m.insert k v).get? a = if k = a then some v else m.get? a := by
  split
  · next h =>
    subst h
    exact get?_insert_self m k v
  · next h => exact get?_insert_of_ne m v h

/-- A row that is set in a map decides on the keys that it has. -/
theorem get?_insertAll {es : List (String × α)} (hes : Distinct es) (k : String) :
    ∀ m : Keyed α, (insertAll m es).get? k = (get? es k).or (m.get? k) := by
  induction es with
  | nil => intro m; rfl
  | cons e es ih =>
    intro m
    have hnodup : e.1 ∉ keys es ∧ (keys es).Nodup := List.nodup_cons.mp hes
    show (insertAll (m.insert e.1 e.2) es).get? k = _
    rw [ih hnodup.2, get?_insert, get?_cons]
    split
    · next h =>
      subst h
      rw [get?_of_not_mem hnodup.1]
      rfl
    · rfl

/-- **Of rows that are set one after the other the last one that has a key decides on it.** -/
theorem get?_insertAll_flatten {rows : List (List (String × α))} (hrows : ∀ r ∈ rows, Distinct r)
    (k : String) : ∀ m : Keyed α,
      (insertAll m rows.flatten).get? k = (rows.reverse.findSome? (get? · k)).or (m.get? k) := by
  induction rows with
  | nil => intro m; rfl
  | cons row rows ih =>
    intro m
    rw [List.flatten_cons, insertAll_append, ih fun r hr => hrows r (List.mem_cons_of_mem _ hr),
      get?_insertAll (hrows row List.mem_cons_self), List.reverse_cons, List.findSome?_append,
      Option.or_assoc, List.findSome?_singleton]

/-- Setting a key to what is found under it changes nothing. -/
theorem insert_of_get? {m : Keyed α} {k : String} {v : α} (h : m.get? k = some v) :
    m.insert k v = m := by
  induction m with
  | nil => cases h
  | cons e m ih =>
    obtain ⟨a, w⟩ := e
    rw [get?_cons] at h
    by_cases ha : a = k
    · subst ha
      cases (if_pos rfl).symm.trans h
      exact insert_cons_self m a w w
    · rw [insert_cons_of_ne m v w ha, ih ((if_neg ha).symm.trans h)]

/-- Nor does setting a row of entries all of which are found. -/
theorem insertAll_of_get? {m : Keyed α} {es : List (String × α)}
    (h : ∀ e ∈ es, m.get? e.1 = some e.2) : insertAll m es = m := by
  induction es with
  | nil => rfl
  | cons e es ih =>
    show insertAll (m.insert e.1 e.2) es = m
    rw [insert_of_get? (h e List.mem_cons_self)]
    exact ih fun a ha => h a (List.mem_cons_of_mem _ ha)

/-- Look-ups do not see the order of the entries. -/
theorem get?_congr_of_perm {m n : Keyed α} (hm : m.Distinct) (h : List.Perm m n) (k : String) :
    m.get? k = n.get? k := by
  have hn : n.Distinct := (h.map Prod.fst).nodup_iff.mp hm
  refine Option.ext fun v => ?_
  rw [get?_eq_some_iff hm, get?_eq_some_iff hn, h.mem_iff]

end Keyed
end SampleSchema
