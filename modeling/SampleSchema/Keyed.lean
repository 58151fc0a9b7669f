/-
  Maps that remember the order in which their keys were first set.

  A schema lists the properties of an object in the order in which the sample showed them, so the
  maps of this library are plain lists of entries.  Setting a key that is already there overwrites
  its value and leaves its place alone; setting a new key appends it.  Everything that builds such a
  map goes through `Keyed.insert`, hence every map built here has pairwise different keys
  (`Keyed.distinct_insert`), and a look-up never depends on where an entry stands.

  `firstSeen` is the companion for plain key lists: the first occurrence of each key is kept, later
  ones are dropped.
-/

namespace SampleSchema

/-- The entries of a map from text to `α`, in the order in which the keys were first set. -/
abbrev Keyed (α : Type u) := List (String × α)

namespace Keyed

variable {α : Type u}

/-- The keys in their order. -/
def keys (m : Keyed α) : List String := m.map (·.1)

/-- The value of the first entry with this key. -/
def get? : Keyed α → String → Option α
  | [], _ => none
  | (k', v) :: m, k => if k' = k then some v else get? m k

/-- Set `k` to `v`: an old key keeps its place and takes the new value, a new key goes last. -/
def insert : Keyed α → String → α → Keyed α
  | [], k, v => [(k, v)]
  | (k', v') :: m, k, v => if k' = k then (k', v) :: m else (k', v') :: insert m k v

/-- Set every entry of `es`, from left to right. -/
def insertAll (m : Keyed α) (es : List (String × α)) : Keyed α :=
  es.foldl (fun m e => m.insert e.1 e.2) m

/-- The map that a list of entries builds: first place, last value. -/
def ofEntries (es : List (String × α)) : Keyed α := insertAll [] es

/-- No key occurs twice. -/
def Distinct (m : Keyed α) : Prop := m.keys.Nodup

/-! ## What `insert` does to look-ups and to the key list -/

@[simp] theorem keys_nil : keys ([] : Keyed α) = [] := rfl

@[simp] theorem keys_cons (e : String × α) (m : Keyed α) : keys (e :: m) = e.1 :: keys m := rfl

@[simp] theorem get?_nil (k : String) : get? ([] : Keyed α) k = none := rfl

theorem get?_cons (e : String × α) (m : Keyed α) (k : String) :
    get? (e :: m) k = if e.1 = k then some e.2 else get? m k := rfl

@[simp] theorem get?_insert_self (m : Keyed α) (k : String) (v : α) :
    (m.insert k v).get? k = some v := by
  induction m with
  | nil => simp [insert, get?]
  | cons e m ih =>
    obtain ⟨k', v'⟩ := e
    by_cases h : k' = k <;> simp [insert, get?, h, ih]

theorem get?_insert_of_ne (m : Keyed α) {k k' : String} (v : α) (h : k ≠ k') :
    (m.insert k v).get? k' = m.get? k' := by
  induction m with
  | nil => simp [insert, get?, h]
  | cons e m ih =>
    obtain ⟨a, w⟩ := e
    by_cases ha : a = k
    · subst ha; simp [insert, get?, h]
    · simp [insert, get?, ha, ih]

/-- A key that is there already keeps the key list as it is. -/
theorem keys_insert_of_mem (m : Keyed α) {k : String} (v : α) (h : k ∈ m.keys) :
    (m.insert k v).keys = m.keys := by
  induction m with
  | nil => simp at h
  | cons e m ih =>
    obtain ⟨a, w⟩ := e
    by_cases ha : a = k
    · simp [insert, ha]
    · have : k ∈ keys m := by
        rcases List.mem_cons.1 h with h | h
        · exact absurd h.symm ha
        · exact h
      simp [insert, ha, ih this]

/-- A new key is added at the end. -/
theorem keys_insert_of_not_mem (m : Keyed α) {k : String} (v : α) (h : k ∉ m.keys) :
    (m.insert k v).keys = m.keys ++ [k] := by
  induction m with
  | nil => simp [insert]
  | cons e m ih =>
    obtain ⟨a, w⟩ := e
    simp only [keys_cons, List.mem_cons, not_or] at h
    have ha : ¬ a = k := fun hc => h.1 hc.symm
    simp [insert, ha, ih h.2]

/-- Keys stay pairwise different. -/
theorem distinct_insert (m : Keyed α) (k : String) (v : α) (h : m.Distinct) :
    (m.insert k v).Distinct := by
  unfold Distinct at *
  by_cases hk : k ∈ m.keys
  · rw [keys_insert_of_mem m v hk]; exact h
  · rw [keys_insert_of_not_mem m v hk, List.nodup_append]
    exact ⟨h, by simp, by intro a ha b hb; simp at hb; subst hb; exact fun e => hk (e ▸ ha)⟩

end Keyed

/-! ## Key lists without repeats -/

/-- Add `k` at the end unless it is in the list. -/
def addUnseen (ks : List String) (k : String) : List String :=
  if k ∈ ks then ks else ks ++ [k]

/-- The keys of a list in order of first appearance. -/
def firstSeen (ks : List String) : List String := ks.foldl addUnseen []

end SampleSchema
