/-
  Reading records from the nodes of a document.

  A record is read key by key, and how its text is laid out does not matter any more: an entry is a
  scalar that spells a key, followed by the nodes of a value (`RecordType.Enters`).

  1. **Entries of different keys are read one after the other** (`RecordType.read_entries`).  The
     crux is that a key is refused if it has been seen, so the induction over the entries carries
     the keys seen so far, and asks of the entries to come that none of theirs is among them.

  2. **What the values preserve, the record has** (`RecordType.Preserves.read`), whatever nodes it
     is read from, if only reading succeeds.

  3. **Entries are not cut off**: each of them takes nodes away, if its value does (`Shortens`), so
     as many steps as there are nodes are enough (`RecordType.readEntries_of_length_le`).
-/
import Mathlib.Data.List.Forall2
import SampleSchema.Proofs.Steps
import SampleSchema.Yaml.Reading

namespace SampleSchema
namespace Yaml

variable {d : Document} {path : List String} {m start : Mark} {rest : List Node}

/-! ## Scalars -/

section Spelled

variable {α : Type} {tag expected : String} {value? : String → Option α} {v : α}

/-- An open scalar is read as what it spells. -/
theorem readSpelled_open {s : Scalar} (hopen : s.isOpen tag = true) (h : value? s.text = some v) :
    readSpelled tag expected value? d path (⟨.scalar s, m⟩ :: rest) = .ok (v, rest) := by
  simp only [readSpelled, follow, bind, Except.bind, hopen, if_true, h]

/-- What is read is what some text spells. -/
theorem exists_spelling {nodes : List Node}
    (h : readSpelled tag expected value? d path nodes = .ok (v, rest)) :
    ∃ s, value? s = some v := by
  obtain ⟨⟨n, _, after⟩, _, h⟩ := bind_eq_ok_iff.mp h
  cases hkind : n.kind with
  | scalar s =>
    simp only [hkind] at h
    split at h
    · next heq =>
      cases h
      split at heq
      · exact ⟨s.text, heq⟩
      · cases heq
    · cases h
  | _ => simp [hkind] at h

end Spelled

/-! ## Entries -/

namespace RecordType

variable {κ α : Type} {r : RecordType κ α}

/-- These nodes are an entry: a scalar that spells a key, and a value that changes a record in this
    way. -/
def Enters (r : RecordType κ α) (d : Document) (k : κ) (fill : α → α) (nodes : List Node) : Prop :=
  ∃ s m value, nodes = ⟨.scalar s, m⟩ :: value ∧ r.key? s.text = some k ∧
    ∀ x path rest, r.readValue k x d path (value ++ rest) = .ok (fill x, rest)

theorem Enters.length_pos {k : κ} {fill : α → α} {nodes : List Node}
    (h : r.Enters d k fill nodes) : 0 < nodes.length := by
  obtain ⟨s, m, value, rfl, _, _⟩ := h
  exact Nat.succ_pos _

variable [DecidableEq κ] {seen : List κ} {x : α}

/-- One entry, of a key that has not been read. -/
theorem readEntries_enters {k : κ} {fill : α → α} {nodes : List Node}
    (h : r.Enters d k fill nodes) (hnew : k ∉ seen) (fuel : Nat) :
    r.readEntries d path start (fuel + 1) seen x (nodes ++ rest) =
      r.readEntries d path start fuel (k :: seen) (fill x) rest := by
  obtain ⟨s, m, value, rfl, hkey, hvalue⟩ := h
  have hread : r.readKey d path (⟨.scalar s, m⟩ :: (value ++ rest)) =
      .ok ((k, s.text), value ++ rest) := by
    simp only [readKey, follow, bind, Except.bind, hkey, Bool.false_eq_true, if_false]
  rw [List.cons_append, readEntries, if_neg (by simp), hread]
  show (if k ∈ seen then _ else _) = _
  rw [if_neg hnew, hvalue]
  rfl

section Entries

variable {ι : Type} (name : ι → κ) (fill : ι → α → α)

/-- Entries of different keys. -/
theorem readEntries_all (is : List ι) (hdistinct : (is.map name).Nodup) :
    ∀ {rows : List (List Node)},
      List.Forall₂ (fun i nodes => r.Enters d (name i) (fill i) nodes) is rows →
    ∀ seen x fuel, (∀ i ∈ is, name i ∉ seen) →
      r.readEntries d path start (fuel + is.length) seen x (rows.flatten ++ rest) =
        r.readEntries d path start fuel ((is.map name).reverse ++ seen)
          (is.foldl (fun x i => fill i x) x) rest := by
  induction is with
  | nil =>
    rintro _ ⟨⟩ _ _ _ _
    rfl
  | cons i is ih =>
    rintro _ (_ | ⟨hi, his⟩) seen x fuel hseen
    rw [List.map_cons, List.nodup_cons] at hdistinct
    have hothers : ∀ j ∈ is, name j ∉ name i :: seen := by
      intro j hj hc
      rcases List.mem_cons.mp hc with heq | hold
      · exact hdistinct.1 (List.mem_map.mpr ⟨j, hj, heq⟩)
      · exact hseen j (List.mem_cons_of_mem _ hj) hold
    rw [List.flatten_cons, List.append_assoc, List.length_cons, ← Nat.add_assoc,
      readEntries_enters hi (hseen i List.mem_cons_self), ih hdistinct.2 his _ _ _ hothers,
      List.map_cons, List.reverse_cons, List.append_assoc]
    rfl

/-- **A record is read from its entries.** -/
theorem read_entries {is : List ι} (hdistinct : (is.map name).Nodup) {rows : List (List Node)}
    (h : List.Forall₂ (fun i nodes => r.Enters d (name i) (fill i) nodes) is rows) (x : α)
    (close : Mark) :
    r.read x d path (⟨.mappingStart, m⟩ :: (rows.flatten ++ ⟨.mappingEnd, close⟩ :: rest)) =
      .ok (is.foldl (fun x i => fill i x) x, rest) := by
  have hcount : is.length ≤ rows.flatten.length := by
    clear hdistinct
    induction h with
    | nil => exact Nat.le_refl _
    | cons hi _ ih =>
      have hpos := hi.length_pos
      rw [List.flatten_cons, List.length_append, List.length_cons]
      omega
  obtain ⟨fuel, hfuel⟩ : ∃ fuel,
      (rows.flatten ++ ⟨.mappingEnd, close⟩ :: rest).length + 1 = fuel + 1 + is.length := by
    refine ⟨(rows.flatten ++ ⟨.mappingEnd, close⟩ :: rest).length - is.length, ?_⟩
    rw [List.length_append]
    omega
  have hread : r.readEntries d path m (fuel + 1 + is.length) [] x
      (rows.flatten ++ ⟨.mappingEnd, close⟩ :: rest) = _ :=
    readEntries_all name fill is hdistinct h [] x (fuel + 1) (by simp)
  show (r.readEntries d path m (_ + 1) [] x _ >>= fun p => _) = _
  rw [hfuel, hread]
  rfl

end Entries

/-! ## What reading preserves -/

section Preserves

variable {P : α → Prop} {y : α} {nodes : List Node}

/-- Reading no value takes the property from a record. -/
def Preserves (r : RecordType κ α) (d : Document) (P : α → Prop) : Prop :=
  ∀ ⦃k x y path nodes rest⦄, r.readValue k x d path nodes = .ok (y, rest) → P x → P y

theorem Preserves.readEntries (hvalue : r.Preserves d P) (fuel : Nat) : ∀ {seen x nodes},
    r.readEntries d path start fuel seen x nodes = .ok (y, rest) → P x → P y := by
  induction fuel with
  | zero =>
    intro seen x nodes h
    cases h
  | succ fuel ih =>
    intro seen x nodes h hx
    cases nodes with
    | nil => cases h
    | cons n nodes =>
      rw [RecordType.readEntries] at h
      split at h
      · cases h
        exact hx
      · obtain ⟨⟨⟨k, part⟩, after⟩, _, h⟩ := bind_eq_ok_iff.mp h
        simp only at h
        split at h
        · cases h
        · obtain ⟨⟨z, after'⟩, hread, h⟩ := bind_eq_ok_iff.mp h
          exact ih h (hvalue hread hx)

/-- **A record has what its values preserve**, whatever nodes it is read from. -/
theorem Preserves.read (hvalue : r.Preserves d P) (h : r.read x d path nodes = .ok (y, rest))
    (hx : P x) : P y := by
  obtain ⟨⟨n, inside, after⟩, _, h⟩ := bind_eq_ok_iff.mp h
  cases hkind : n.kind with
  | missing =>
    simp only [hkind] at h
    cases h
    exact hx
  | mappingStart =>
    simp only [hkind] at h
    obtain ⟨⟨z, behind⟩, hread, h⟩ := bind_eq_ok_iff.mp h
    cases h
    exact hvalue.readEntries _ hread hx
  | scalar s =>
    simp only [hkind] at h
    split at h
    · cases h
      exact hx
    · cases h
  | _ => simp [hkind] at h

end Preserves

end RecordType

/-! ## Reading takes nodes away -/

/-- A reader leaves fewer nodes than it finds. -/
def Shortens {α : Type} (read : Reader α) (d : Document) : Prop :=
  ∀ ⦃path nodes x rest⦄, read d path nodes = .ok (x, rest) → rest.length < nodes.length

/-- What is behind a node or an alias does not depend on what the alias means. -/
theorem length_of_follow {nodes inside : List Node} {n : Node}
    (h : follow d nodes = .ok (n, inside, rest)) : rest.length < nodes.length := by
  unfold follow at h
  split at h
  · cases h
  · split at h
    · split at h
      · cases h
      · cases h; exact Nat.lt_succ_self _
    · cases h; exact Nat.lt_succ_self _

theorem inside_of_follow {nodes inside : List Node} {n : Node}
    (h : follow d nodes = .ok (n, inside, rest))
    (hplain : ∀ number mark tail, nodes ≠ ⟨.alias number, mark⟩ :: tail) : inside = rest := by
  unfold follow at h
  split at h
  · cases h
  · next n' tail =>
    split at h
    · next number hkind =>
      obtain ⟨kind, mark⟩ := n'
      cases hkind
      exact absurd rfl (hplain number mark tail)
    · cases h; rfl

theorem shortens_readSpelled {α : Type} (tag expected : String) (value? : String → Option α) :
    Shortens (readSpelled tag expected value?) d := by
  intro path nodes x rest h
  obtain ⟨⟨n, inside, after⟩, hfollow, h⟩ := bind_eq_ok_iff.mp h
  have hshort := length_of_follow hfollow
  dsimp only at h
  split at h
  · split at h
    · cases h; exact hshort
    · cases h
  · cases h

namespace RecordType

variable {κ α : Type} {r : RecordType κ α}

theorem length_of_readKey {nodes : List Node} {k : κ × String}
    (h : r.readKey d path nodes = .ok (k, rest)) : rest.length < nodes.length := by
  obtain ⟨⟨n, inside, after⟩, hfollow, h⟩ := bind_eq_ok_iff.mp h
  have hshort := length_of_follow hfollow
  dsimp only at h
  split at h
  · split at h
    · cases h; exact hshort
    · cases h
  · cases h

section Shortens

variable [DecidableEq κ] (hr : ∀ k x, Shortens (r.readValue k x) d)

include hr

theorem length_of_readEntries (fuel : Nat) : ∀ {seen x y nodes},
    r.readEntries d path start fuel seen x nodes = .ok (y, rest) →
      rest.length < nodes.length := by
  induction fuel with
  | zero => intro seen x y nodes h; cases h
  | succ fuel ih =>
    intro seen x y nodes h
    cases nodes with
    | nil => cases h
    | cons n nodes =>
      rw [readEntries] at h
      split at h
      · cases h; exact Nat.lt_succ_self _
      · obtain ⟨⟨⟨k, part⟩, after⟩, hkey, h⟩ := bind_eq_ok_iff.mp h
        dsimp only at h
        split at h
        · cases h
        · obtain ⟨⟨z, after'⟩, hvalue, h⟩ := bind_eq_ok_iff.mp h
          exact Nat.lt_trans (Nat.lt_trans (ih h) (hr k x hvalue)) (length_of_readKey hkey)

/-- **As many steps as there are nodes are enough for the entries**: more of them change nothing. -/
theorem readEntries_of_length_le : ∀ {fuel fuel' : Nat} {seen : List κ} {x : α}
    {nodes : List Node}, nodes.length ≤ fuel → nodes.length ≤ fuel' →
      r.readEntries d path start fuel seen x nodes =
        r.readEntries d path start fuel' seen x nodes := by
  intro fuel
  induction fuel with
  | zero =>
    intro fuel' seen x nodes h _
    obtain rfl := List.length_eq_zero_iff.mp (Nat.le_zero.mp h)
    cases fuel' <;> rfl
  | succ fuel ih =>
    intro fuel' seen x nodes h h'
    cases nodes with
    | nil => cases fuel' <;> rfl
    | cons n nodes =>
      cases fuel' with
      | zero => exact absurd h' (Nat.not_succ_le_zero _)
      | succ fuel' =>
        rw [readEntries, readEntries]
        split
        · rfl
        · cases hkey : r.readKey d path (n :: nodes) with
          | error e => rfl
          | ok found =>
            obtain ⟨⟨k, part⟩, after⟩ := found
            show (if k ∈ seen then _ else _) = (if k ∈ seen then _ else _)
            split
            · rfl
            · cases hvalue : r.readValue k x d (path ++ [part]) after with
              | error e => rfl
              | ok read =>
                obtain ⟨y, behind⟩ := read
                have hshort := Nat.lt_trans (hr k x hvalue) (length_of_readKey hkey)
                exact ih (Nat.le_of_lt_succ (Nat.lt_of_lt_of_le hshort h))
                  (Nat.le_of_lt_succ (Nat.lt_of_lt_of_le hshort h'))

theorem shortens_read (x : α) : Shortens (r.read x) d := by
  intro path nodes y rest h
  obtain ⟨⟨n, inside, after⟩, hfollow, h⟩ := bind_eq_ok_iff.mp h
  have hshort := length_of_follow hfollow
  dsimp only at h
  split at h
  · cases h; exact hshort
  · obtain ⟨⟨z, behind⟩, hentries, h⟩ := bind_eq_ok_iff.mp h
    have hentries := length_of_readEntries hr _ hentries
    cases h
    split
    · exact hshort
    · next hplain =>
      obtain rfl := inside_of_follow hfollow hplain
      exact Nat.lt_trans hentries hshort
  · split at h
    · cases h; exact hshort
    · cases h
  · cases h

end Shortens

end RecordType

end Yaml
end SampleSchema
