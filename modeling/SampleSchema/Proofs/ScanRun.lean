/-
  The scan comes to its end.

  A scan is given a number of steps in advance.  It never needs them all (`runs_tokensOf`), so what
  it hands out is what it would hand out if it were not bounded (`Scan.Runs`): up to the end of the
  text or to the first fault (`tokensOf_ends`).

  1. **A token passes something** (`Scan.passes_scanToken`), and it adds at most four tokens and
     blocks to those that wait.  Six steps for each character pay for that and for handing them out.

  2. **The end of the text is told once.**  It passes nothing, so it could be told again and again
     while a key may begin in front of it.  But every place at which a key may have begun comes
     before the place where the scan stands (`Scan.Ordered`), and the end counts as the start of a
     line, so all of them are too far behind by then (`Scan.Ended`).

  3. So there are two phases, and in each of them **a step lowers what is left**
     (`Scan.within_of_advance`).
-/
import Mathlib.Logic.Basic
import SampleSchema.Proofs.Progress
import SampleSchema.Yaml.Scanning

namespace SampleSchema
namespace Yaml

open Spot

/-! ## Tokens, blocks and keys -/

namespace Scan

/-- Tokens that wait, and blocks whose ends will. -/
def load (s : Scan) : Nat := s.queue.length + s.indents.length

/-- A key may have begun at this place, on this level of brackets or around it. -/
def Remembers (s : Scan) (k : KeyStart) : Prop := some k ∈ s.key :: s.outerKeys

/-- At the same spot at most `n` tokens and blocks are added, and no place of a key. -/
structure Adds (n : Nat) (s t : Scan) : Prop where
  spot : t.spot = s.spot
  load : t.load ≤ s.load + n
  keys : ∀ k, t.Remembers k → s.Remembers k

/-- Something is passed.  At most four tokens and blocks are added: a token with its key, and the
    block that it opens.  Only the place that was left may be new as that of a key. -/
structure Passes (s t : Scan) : Prop where
  spot : s.spot.Before t.spot
  load : t.load ≤ s.load + 4
  keys : ∀ k, t.Remembers k → s.Remembers k ∨ k.mark = s.spot.mark

variable {s t u : Scan} {m n : Nat}

theorem Adds.refl (s : Scan) : Adds 0 s s := ⟨rfl, Nat.le_refl _, fun _ hk => hk⟩

theorem Adds.trans (h : Adds m s t) (h' : Adds n t u) : Adds (m + n) s u where
  spot := h'.spot.trans h.spot
  load := by
    have hs := h.load
    have ht := h'.load
    omega
  keys k hk := h.keys k (h'.keys k hk)

theorem adds_add (s : Scan) (kind : TokenKind) (mark : Mark) : Adds 1 s (s.add kind mark) where
  spot := rfl
  load := by
    simp only [Scan.load, add, List.length_append, List.length_singleton]
    omega
  keys _ hk := hk

theorem adds_addAt (s : Scan) (number : Nat) (kind : TokenKind) (mark : Mark) :
    Adds 1 s (s.addAt number kind mark) where
  spot := rfl
  load := by
    simp only [Scan.load, addAt, List.length_insertIdx]
    split <;> omega
  keys _ hk := hk

theorem adds_closeBlocks (s : Scan) (isRight : Nat → Bool) : Adds 0 s (s.closeBlocks isRight) := by
  unfold closeBlocks
  split
  · exact .refl s
  · refine ⟨rfl, ?_, fun _ hk => hk⟩
    have hparts := congrArg List.length (s.indents.takeWhile_append_dropWhile (p := isRight))
    simp only [Scan.load, List.length_append, List.length_map] at hparts ⊢
    omega

theorem adds_openBlock (s : Scan) (kind : TokenKind) : Adds 2 s (s.openBlock kind) := by
  unfold openBlock
  split
  · refine ⟨rfl, ?_, fun _ hk => hk⟩
    exact Nat.add_le_add_right (adds_add s kind s.spot.mark).load 1
  · exact ⟨rfl, Nat.le_add_right _ _, fun _ hk => hk⟩

theorem adds_openBlockAt (s : Scan) (k : KeyStart) : Adds 2 s (s.openBlockAt k) := by
  unfold openBlockAt
  split
  · refine ⟨rfl, ?_, fun _ hk => hk⟩
    exact Nat.add_le_add_right (adds_addAt s k.number .blockMappingStart k.mark).load 1
  · exact ⟨rfl, Nat.le_add_right _ _, fun _ hk => hk⟩

theorem giveUp_eq_ok {k : KeyStart} {key : Option KeyStart} (h : s.giveUp k = .ok key) :
    key = none := by
  unfold giveUp at h
  split at h
  · cases h
  · cases h; rfl

theorem dropKey_eq_ok (h : s.dropKey = .ok t) : t = { s with key := none } := by
  unfold dropKey at h
  split at h
  · next hnone => cases h; rw [← hnone]
  · next k hk =>
    cases hgive : s.giveUp k with
    | error e => rw [hgive] at h; cases h
    | ok key =>
      rw [hgive] at h
      cases h
      rw [giveUp_eq_ok hgive]

theorem of_mem_none_cons {k : KeyStart} {l : List (Option KeyStart)}
    (h : some k ∈ none :: l) : some k ∈ l :=
  (List.mem_cons.mp h).resolve_left (Option.some_ne_none k)

theorem adds_dropKey (h : s.dropKey = .ok t) : Adds 0 s t := by
  cases dropKey_eq_ok h
  exact ⟨rfl, Nat.le_refl _, fun _ hk => List.mem_cons_of_mem _ (of_mem_none_cons hk)⟩

theorem saveKey_eq_ok (h : s.saveKey = .ok t) : t = s ∨ ∃ isRequired number,
    t = { s with key := some ⟨isRequired, number, s.spot.mark⟩ } := by
  unfold saveKey at h
  split at h
  · obtain ⟨u, hu, h⟩ := bind_eq_ok_iff.mp h
    cases dropKey_eq_ok hu
    cases h
    exact Or.inr ⟨_, _, rfl⟩
  · cases h; exact Or.inl rfl

theorem refreshed_eq_some {x : Option KeyStart} {k : KeyStart}
    (h : s.refreshed x = .ok (some k)) : x = some k ∧ s.isStale k = false := by
  unfold refreshed at h
  split at h
  · cases h
  · next k' =>
    split at h
    · cases giveUp_eq_ok h
    · next hstale => cases h; exact ⟨rfl, Bool.eq_false_iff.mpr hstale⟩

theorem mem_mapM_refreshed {k : KeyStart} {l : List (Option KeyStart)} :
    ∀ {l' : List (Option KeyStart)}, l.mapM s.refreshed = .ok l' → some k ∈ l' →
      some k ∈ l ∧ s.isStale k = false := by
  induction l with
  | nil => intro l' h hk; cases h; cases hk
  | cons x l ih =>
    intro l' h hk
    rw [List.mapM_cons] at h
    obtain ⟨y, hy, h⟩ := bind_eq_ok_iff.mp h
    obtain ⟨rest, hrest, h⟩ := bind_eq_ok_iff.mp h
    cases h
    rcases List.mem_cons.mp hk with rfl | hk
    · obtain ⟨rfl, hfresh⟩ := refreshed_eq_some hy
      exact ⟨List.mem_cons_self, hfresh⟩
    · obtain ⟨hmem, hfresh⟩ := ih hrest hk
      exact ⟨List.mem_cons_of_mem _ hmem, hfresh⟩

/-- What is remembered after a refreshment was remembered before, and is not stale. -/
theorem remembers_of_refresh {k : KeyStart} (h : s.refresh = .ok t) (hk : t.Remembers k) :
    s.Remembers k ∧ s.isStale k = false := by
  obtain ⟨outer, houter, h⟩ := bind_eq_ok_iff.mp h
  obtain ⟨key, hkey, h⟩ := bind_eq_ok_iff.mp h
  cases h
  rcases List.mem_cons.mp hk with rfl | hk
  · obtain ⟨hs, hfresh⟩ := refreshed_eq_some hkey
    exact ⟨List.mem_cons.mpr (Or.inl hs.symm), hfresh⟩
  · obtain ⟨hmem, hfresh⟩ := mem_mapM_refreshed houter (List.mem_reverse.mp hk)
    exact ⟨List.mem_cons_of_mem _ (List.mem_reverse.mp hmem), hfresh⟩

theorem refresh_frame (h : s.refresh = .ok t) :
    t.spot = s.spot ∧ t.queue = s.queue ∧ t.indents = s.indents := by
  obtain ⟨outer, houter, h⟩ := bind_eq_ok_iff.mp h
  obtain ⟨key, hkey, h⟩ := bind_eq_ok_iff.mp h
  cases h
  exact ⟨rfl, rfl, rfl⟩

theorem adds_refresh (h : s.refresh = .ok t) : Adds 0 s t := by
  obtain ⟨hspot, hqueue, hindents⟩ := refresh_frame h
  refine ⟨hspot, ?_, fun _ hk => (remembers_of_refresh h hk).1⟩
  rw [Scan.load, Scan.load, hqueue, hindents]
  exact Nat.le_refl _

/-! ## One token -/

/-- The token itself comes to what was added for it. -/
theorem Adds.passes (h : Adds n s t) (hn : n ≤ 3) {kind : TokenKind} {mark : Mark}
    {after : Spot} {keyAllowed : Bool} (hafter : s.spot.Before after) :
    Passes s { t.add kind mark with spot := after, keyAllowed } where
  spot := hafter
  load := by
    have hs := h.load
    have ht := (adds_add t kind mark).load
    simp only [Scan.load] at hs ht ⊢
    omega
  keys k hk := Or.inl (h.keys k hk)

/-- The place of a token may be remembered before the token is passed. -/
theorem passes_of_saveKey (h : s.saveKey = .ok t) (hpass : Passes t u) : Passes s u := by
  rcases saveKey_eq_ok h with rfl | ⟨isRequired, number, rfl⟩
  · exact hpass
  · refine ⟨hpass.spot, hpass.load, fun k hk => ?_⟩
    rcases hpass.keys k hk with hk | hk
    · rcases List.mem_cons.mp hk with hk | hk
      · cases hk; exact Or.inr rfl
      · exact Or.inl (List.mem_cons_of_mem _ hk)
    · exact Or.inr hk

theorem saveKey_frame (h : s.saveKey = .ok t) : t.spot = s.spot ∧ t.inFlow = s.inFlow := by
  rcases saveKey_eq_ok h with rfl | ⟨isRequired, number, rfl⟩
  · exact ⟨rfl, rfl⟩
  · exact ⟨rfl, rfl⟩

theorem startsValue_of_ne {c : Char} (hc : c ≠ ':') (r : List Char) :
    startsValue (c :: r) = false := by
  unfold startsValue
  split
  · next h => cases h; exact absurd rfl hc
  · rfl

theorem isIndicator_of_isFlowEnd {c : Char} (h : isFlowEnd c = true) : isIndicator c = true := by
  simp only [isFlowEnd, Bool.or_eq_true, decide_eq_true_eq] at h
  rcases h with (((rfl | rfl) | rfl) | rfl) | rfl <;> decide

/-- With what starts a plain scalar, a word starts. -/
theorem starts_word {c : Char} {r : List Char} (h : s.startsPlain c r = true) :
    isBlank c = false ∧ isBreak c = false ∧
      ∀ x : PlainContext, x.inFlow = s.inFlow → x.endsBefore (c :: r) = false := by
  unfold startsPlain at h
  simp only [Bool.or_eq_true, Bool.not_eq_true', Bool.or_eq_false_iff, Bool.and_eq_true,
    decide_eq_true_eq] at h
  rcases h with (⟨⟨hblank, hbreak⟩, hindicator⟩ | ⟨rfl, -⟩) | ⟨⟨hflow, hmark⟩, hgap⟩
  · refine ⟨hblank, hbreak, fun x _ => ?_⟩
    have hcolon : c ≠ ':' := by
      rintro rfl
      exact absurd hindicator (by decide)
    have hend : isFlowEnd c = false :=
      Bool.eq_false_iff.mpr fun hc => absurd (isIndicator_of_isFlowEnd hc) (by simp [hindicator])
    simp [PlainContext.endsBefore, startsValue_of_ne hcolon, hend]
  · refine ⟨by decide, by decide, fun x _ => ?_⟩
    simp [PlainContext.endsBefore, startsValue_of_ne, isFlowEnd]
  · refine ⟨?_, ?_, fun x hx => ?_⟩
    · rcases hmark with rfl | rfl <;> decide
    · rcases hmark with rfl | rfl <;> decide
    · have hvalue : startsValue (c :: r) = false := by
        rcases hmark with rfl | rfl
        · exact startsValue_of_ne (by decide) r
        · exact hgap
      simp [PlainContext.endsBefore, hvalue, hx, hflow]

section Tokens

variable {c : Char} {r : List Char} (hs : s.spot.rest = c :: r)

include hs

theorem passes_directive (h : s.scanDirective = .ok t) : Passes s t := by
  obtain ⟨u, hu, h⟩ := bind_eq_ok_iff.mp h
  obtain ⟨⟨kind, after⟩, hafter, h⟩ := bind_eq_ok_iff.mp h
  cases h
  have hadds := (adds_closeBlocks s fun _ => true).trans (adds_dropKey hu)
  exact hadds.passes (by decide)
    (hadds.spot ▸ readDirective_passes (hadds.spot.symm ▸ hs) hafter)

theorem passes_boundary {kind : TokenKind} (h : s.scanBoundary kind = .ok t) : Passes s t := by
  obtain ⟨u, hu, h⟩ := bind_eq_ok_iff.mp h
  cases h
  have hadds := (adds_closeBlocks s fun _ => true).trans (adds_dropKey hu)
  refine hadds.passes (by decide) ?_
  rw [hadds.spot]
  exact (before_next hs).trans_atOrBefore ((atOrBefore_next _).trans (atOrBefore_next _))

theorem passes_opening {kind : TokenKind} (h : s.scanOpening kind = .ok t) : Passes s t := by
  obtain ⟨u, hu, h⟩ := bind_eq_ok_iff.mp h
  cases h
  refine passes_of_saveKey hu ?_
  have hnext : u.spot.Before u.spot.next := before_next ((saveKey_frame hu).1.symm ▸ hs)
  have hpass : Passes u { u.addIndicator kind with keyAllowed := true } :=
    (Adds.refl u).passes (by decide) hnext
  exact ⟨hpass.spot, hpass.load, fun k hk => Or.inl (of_mem_none_cons hk)⟩

theorem Adds.before_next (h : Adds n s t) : s.spot.Before t.spot.next := by
  rw [h.spot]
  exact Spot.before_next hs

theorem passes_closing {kind : TokenKind} (h : s.scanClosing kind = .ok t) : Passes s t := by
  obtain ⟨u, hu, h⟩ := bind_eq_ok_iff.mp h
  have hdrop := adds_dropKey hu
  have hpass : Passes s { u.addIndicator kind with keyAllowed := false } :=
    hdrop.passes (by decide) (hdrop.before_next hs)
  dsimp only at h
  split at h
  · cases h; exact hpass
  · next key outer houter =>
    cases h
    refine ⟨hpass.spot, hpass.load, fun k hk => hpass.keys k ?_⟩
    show some k ∈ u.key :: u.outerKeys
    rw [houter]
    exact List.mem_cons_of_mem _ hk

theorem passes_comma (h : s.scanComma = .ok t) : Passes s t := by
  obtain ⟨u, hu, h⟩ := bind_eq_ok_iff.mp h
  cases h
  have hdrop := adds_dropKey hu
  exact hdrop.passes (by decide) (hdrop.before_next hs)

theorem passes_item (h : s.scanItem = .ok t) : Passes s t := by
  unfold scanItem at h
  split at h
  · cases h
  · obtain ⟨u, hu, h⟩ := bind_eq_ok_iff.mp h
    cases h
    have hadds := (adds_openBlock s .blockSequenceStart).trans (adds_dropKey hu)
    exact hadds.passes (by decide) (hadds.before_next hs)

theorem passes_key (h : s.scanKey = .ok t) : Passes s t := by
  unfold scanKey at h
  split at h
  · cases h
  · obtain ⟨u, hu, h⟩ := bind_eq_ok_iff.mp h
    cases h
    have hadds := (adds_openBlock s .blockMappingStart).trans (adds_dropKey hu)
    exact hadds.passes (by decide) (hadds.before_next hs)

theorem passes_value (h : s.scanValue = .ok t) : Passes s t := by
  unfold scanValue at h
  split at h
  · next k hk =>
    cases h
    have hadds := (adds_addAt s k.number .key k.mark).trans (adds_openBlockAt _ k)
    generalize (s.addAt k.number .key k.mark).openBlockAt k = u at hadds
    have hpass : Passes s { u.addIndicator .value with keyAllowed := false } :=
      hadds.passes (by decide) (hadds.before_next hs)
    exact ⟨hpass.spot, hpass.load, fun k hk =>
      hpass.keys k (List.mem_cons_of_mem _ (of_mem_none_cons hk))⟩
  · split at h
    · cases h
    · cases h
      have hadds := adds_openBlock s .blockMappingStart
      have hnext := hadds.before_next hs
      exact hadds.passes (by decide) hnext

theorem passes_name {activity : Activity} {kind : String → TokenKind}
    (h : s.scanName activity kind = .ok t) : Passes s t := by
  obtain ⟨u, hu, h⟩ := bind_eq_ok_iff.mp h
  obtain ⟨⟨name, after⟩, hafter, h⟩ := bind_eq_ok_iff.mp h
  cases h
  exact passes_of_saveKey hu ((Adds.refl u).passes (by decide)
    (readName_passes ((saveKey_frame hu).1.symm ▸ hs) hafter))

theorem passes_tag (h : s.scanTag = .ok t) : Passes s t := by
  obtain ⟨u, hu, h⟩ := bind_eq_ok_iff.mp h
  obtain ⟨⟨name, after⟩, hafter, h⟩ := bind_eq_ok_iff.mp h
  cases h
  exact passes_of_saveKey hu ((Adds.refl u).passes (by decide)
    (readTag_passes ((saveKey_frame hu).1.symm ▸ hs) hafter))

theorem passes_block {isLiteral : Bool} (h : s.scanBlock isLiteral = .ok t) : Passes s t := by
  obtain ⟨u, hu, h⟩ := bind_eq_ok_iff.mp h
  obtain ⟨r, hr, h⟩ := bind_eq_ok_iff.mp h
  cases h
  have hdrop := adds_dropKey hu
  refine hdrop.passes (by decide) ?_
  have hnext : u.spot.Before u.spot.next := before_next (hdrop.spot.symm ▸ hs)
  exact hdrop.spot ▸ hnext.trans_atOrBefore (readBlock_goesOn hr)

theorem passes_quoted {q : QuoteStyle} (h : s.scanQuoted q = .ok t) : Passes s t := by
  obtain ⟨u, hu, h⟩ := bind_eq_ok_iff.mp h
  obtain ⟨r, hr, h⟩ := bind_eq_ok_iff.mp h
  cases h
  have hnext : u.spot.Before u.spot.next := before_next ((saveKey_frame hu).1.symm ▸ hs)
  exact passes_of_saveKey hu ((Adds.refl u).passes (by decide)
    (hnext.trans_atOrBefore (readQuoted_goesOn hr)))

/-- What starts a plain scalar is part of it. -/
theorem passes_plain (hstart : s.startsPlain c r = true) (h : s.scanPlain = .ok t) :
    Passes s t := by
  obtain ⟨u, hu, h⟩ := bind_eq_ok_iff.mp h
  obtain ⟨p, hp, h⟩ := bind_eq_ok_iff.mp h
  cases h
  obtain ⟨hspot, hflow⟩ := saveKey_frame hu
  refine passes_of_saveKey hu ((Adds.refl u).passes (by decide) ?_)
  have hu : u.spot = ⟨u.spot.mark, c :: r⟩ := by rw [hspot, ← hs]
  rw [hu] at hp ⊢
  obtain ⟨hblank, hbreak, hend⟩ := starts_word hstart
  exact PlainContext.read_passes hblank hbreak (hend _ hflow) hp

theorem passes_scanToken (h : s.scanToken c r = .ok t) : Passes s t := by
  rcases ite_eq_iff.mp h with ⟨-, h⟩ | ⟨-, h⟩
  · exact passes_directive hs h
  rcases ite_eq_iff.mp h with ⟨-, h⟩ | ⟨-, h⟩
  · exact passes_boundary hs h
  rcases ite_eq_iff.mp h with ⟨-, h⟩ | ⟨-, h⟩
  · exact passes_boundary hs h
  rcases ite_eq_iff.mp h with ⟨-, h⟩ | ⟨-, h⟩
  · exact passes_opening hs h
  rcases ite_eq_iff.mp h with ⟨-, h⟩ | ⟨-, h⟩
  · exact passes_opening hs h
  rcases ite_eq_iff.mp h with ⟨-, h⟩ | ⟨-, h⟩
  · exact passes_closing hs h
  rcases ite_eq_iff.mp h with ⟨-, h⟩ | ⟨-, h⟩
  · exact passes_closing hs h
  rcases ite_eq_iff.mp h with ⟨-, h⟩ | ⟨-, h⟩
  · exact passes_comma hs h
  rcases ite_eq_iff.mp h with ⟨-, h⟩ | ⟨-, h⟩
  · exact passes_item hs h
  rcases ite_eq_iff.mp h with ⟨-, h⟩ | ⟨-, h⟩
  · exact passes_key hs h
  rcases ite_eq_iff.mp h with ⟨-, h⟩ | ⟨-, h⟩
  · exact passes_value hs h
  rcases ite_eq_iff.mp h with ⟨-, h⟩ | ⟨-, h⟩
  · exact passes_name hs h
  rcases ite_eq_iff.mp h with ⟨-, h⟩ | ⟨-, h⟩
  · exact passes_name hs h
  rcases ite_eq_iff.mp h with ⟨-, h⟩ | ⟨-, h⟩
  · exact passes_tag hs h
  rcases ite_eq_iff.mp h with ⟨-, h⟩ | ⟨-, h⟩
  · exact passes_block hs h
  rcases ite_eq_iff.mp h with ⟨-, h⟩ | ⟨-, h⟩
  · exact passes_block hs h
  rcases ite_eq_iff.mp h with ⟨-, h⟩ | ⟨-, h⟩
  · exact passes_quoted hs h
  rcases ite_eq_iff.mp h with ⟨-, h⟩ | ⟨-, h⟩
  · exact passes_quoted hs h
  rcases ite_eq_iff.mp h with ⟨hstart, h⟩ | ⟨-, h⟩
  · exact passes_plain hs hstart h
  · cases h

end Tokens

/-! ## The next token -/

/-- All places that are remembered come before the spot. -/
def Ordered (s : Scan) : Prop := ∀ k, s.Remembers k → k.mark.Before s.spot.mark

/-- The end of the text has been told, and no key can be recognised any more. -/
structure Ended (s : Scan) : Prop where
  told : ∃ t ∈ s.queue, t.kind = .streamEnd
  stale : ∀ k, s.Remembers k → s.isStale k = true

/-- How many steps can still be made before the end is told, and then. -/
def potential (s : Scan) : Nat := 6 * s.spot.rest.length + s.load + 2

theorem Adds.ordered (h : Adds n s t) (hs : s.Ordered) : t.Ordered :=
  fun k hk => h.spot ▸ hs k (h.keys k hk)

theorem Passes.ordered (h : Passes s t) (hs : s.Ordered) : t.Ordered := by
  intro k hk
  rcases h.keys k hk with hk | hk
  · exact (hs k hk).trans h.spot.mark
  · exact hk ▸ h.spot.mark

/-- Blanks and a comment are passed, and then the gap ends or a line does. -/
theorem skipGaps_succ (fuel : Nat) (s : Scan) : ∃ spot, s.spot.AtOrBefore spot ∧
    (skipGaps (fuel + 1) s = { s with spot } ∧ (∀ c r, spot.rest = c :: r → isBreak c = false) ∨
      ∃ c r keyAllowed, spot.rest = c :: r ∧
        skipGaps (fuel + 1) s = skipGaps fuel { s with spot := spot.next, keyAllowed }) := by
  have hgap : ∀ (isMark : Bool) (p : Char → Bool),
      s.spot.AtOrBefore ((if isMark then s.spot.next else s.spot).skip p).skipComment := by
    intro isMark p
    refine AtOrBefore.trans ?_ ((atOrBefore_skip _ p).trans (atOrBefore_skipComment _))
    split
    · exact s.spot.atOrBefore_next
    · exact .refl s.spot
  refine ⟨_, hgap (s.spot.mark.column = 0 && s.spot.startsWith byteOrderMark)
    fun c => c = ' ' || ((s.inFlow || !s.keyAllowed) && c = '\t'), ?_⟩
  rw [skipGaps]
  split
  · next hrest => exact Or.inl ⟨rfl, fun c r hc => by cases hrest.symm.trans hc⟩
  · next c r hrest =>
    split
    · exact Or.inr ⟨c, r, _, hrest, rfl⟩
    · next hbreak =>
      refine Or.inl ⟨rfl, fun c' r' hc => ?_⟩
      cases hrest.symm.trans hc
      exact Bool.eq_false_iff.mpr hbreak

/-- Gaps are passed, and nothing else happens. -/
theorem skipGaps_frame : ∀ (fuel : Nat) (s : Scan), ∃ spot keyAllowed,
    skipGaps fuel s = { s with spot, keyAllowed } ∧ s.spot.AtOrBefore spot := by
  intro fuel
  induction fuel with
  | zero => exact fun s => ⟨s.spot, s.keyAllowed, rfl, .refl _⟩
  | succ fuel ih =>
    intro s
    obtain ⟨spot, hspot, ⟨heq, _⟩ | ⟨c, r, keyAllowed, _, heq⟩⟩ := skipGaps_succ fuel s
    · exact ⟨spot, s.keyAllowed, heq, hspot⟩
    · obtain ⟨after, keyAllowed', hafter, hnext⟩ := ih { s with spot := spot.next, keyAllowed }
      exact ⟨after, keyAllowed', heq.trans hafter, (hspot.trans spot.atOrBefore_next).trans hnext⟩

/-- A step for each character and one more is enough to pass the whole gap. -/
theorem skipGaps_stops : ∀ (fuel : Nat) (s : Scan), s.spot.rest.length < fuel → ∀ c r,
    (skipGaps fuel s).spot.rest = c :: r → isBreak c = false := by
  intro fuel
  induction fuel with
  | zero => exact fun s h => absurd h (Nat.not_lt_zero _)
  | succ fuel ih =>
    intro s hfuel
    obtain ⟨spot, hspot, ⟨heq, hstop⟩ | ⟨c, r, keyAllowed, hrest, heq⟩⟩ := skipGaps_succ fuel s
    · rw [heq]
      exact hstop
    · have hshorter := (before_next hrest).rest
      have hpassed := hspot.rest_le
      rw [heq]
      exact ih { s with spot := spot.next, keyAllowed } (by dsimp only; omega)

/-- Behind the end, on a new line, all places are stale. -/
theorem ended_of_scanEnd (h : s.scanEnd = .ok t) (hs : s.Ordered) :
    t.Ended ∧ t.queue.length ≤ s.load + 1 := by
  obtain ⟨u, hu, h⟩ := bind_eq_ok_iff.mp h
  cases h
  have hadds := (adds_closeBlocks _ fun _ => true).trans (adds_dropKey hu)
  constructor
  · refine ⟨⟨_, List.mem_append_right _ (List.mem_singleton_self _), rfl⟩, fun k hk => ?_⟩
    have hbefore : k.mark.Before s.spot.mark := hs k (hadds.keys k hk)
    have hline : k.mark.line < u.spot.mark.line := by
      rw [hadds.spot]
      dsimp only
      unfold Mark.Before at hbefore
      split
      · omega
      · show k.mark.line < s.spot.mark.line + 1
        omega
    show (decide (k.mark.line < u.spot.mark.line) || _) = true
    rw [decide_eq_true hline, Bool.true_or]
  · have hload : u.load ≤ s.load := hadds.load
    have hadd := (adds_add { u with keyAllowed := false } .streamEnd u.spot.mark).load
    exact Nat.le_trans (Nat.le_trans (Nat.le_add_right _ _) hadd) (Nat.add_le_add_right hload 1)

theorem scanNext_eq_ok (h : s.scanNext = .ok t) : ∃ u : Scan, s.spot.AtOrBefore u.spot ∧
    u.load ≤ s.load ∧ (∀ k, u.Remembers k → s.Remembers k) ∧
    (u.spot.rest = [] ∧ u.scanEnd = .ok t ∨
      ∃ c r, u.spot.rest = c :: r ∧ u.scanToken c r = .ok t) := by
  obtain ⟨spot, keyAllowed, hgaps, hspot⟩ := skipGaps_frame (s.spot.rest.length + 1) s
  obtain ⟨u, hu, h⟩ := bind_eq_ok_iff.mp h
  rw [hgaps] at hu
  have hadds := (adds_refresh hu).trans
    (adds_closeBlocks u fun i => decide (u.spot.mark.column < i))
  refine ⟨u.closeBlocksTo u.spot.mark.column, ?_, hadds.load, hadds.keys, ?_⟩
  · exact hadds.spot.symm ▸ hspot
  · dsimp only at h
    split at h
    · next hrest => exact Or.inl ⟨hrest, h⟩
    · next c r hrest => exact Or.inr ⟨c, r, hrest, h⟩

theorem scanNext_lowers (h : s.scanNext = .ok t) (hs : s.Ordered) :
    t.Ordered ∧ t.potential < s.potential ∨ t.Ended ∧ t.queue.length < s.potential := by
  obtain ⟨u, hspot, hload, hkeys, h⟩ := scanNext_eq_ok h
  have hu : u.Ordered := by
    intro k hk
    have hbefore := hs k (hkeys k hk)
    rcases hspot with hspot | hspot
    · exact hspot ▸ hbefore
    · exact hbefore.trans hspot.mark
  have hrest := hspot.rest_le
  unfold potential
  rcases h with ⟨_, h⟩ | ⟨c, r, hc, h⟩
  · obtain ⟨hended, hqueue⟩ := ended_of_scanEnd h hu
    exact Or.inr ⟨hended, by omega⟩
  · have hpass := passes_scanToken hc h
    have hlower := hpass.spot.rest
    have hadded := hpass.load
    exact Or.inl ⟨hpass.ordered hu, by omega⟩

/-! ## All tokens -/

/-- One step: another token is scanned, if none waits or the first one may be a key, and otherwise
    the first one leaves the queue. -/
def advance (s : Scan) : Except Fault (Option Token × Scan) :=
  if s.queue.isEmpty then s.scanNext.map (Prod.mk none)
  else do
    let s ← s.refresh
    if s.headMayBeKey then s.scanNext.map (Prod.mk none)
    else return (s.queue.head?, { s with queue := s.queue.tail, handed := s.handed + 1 })

/-- What is handed out from this state on if nothing stops the scan. -/
inductive Runs : Scan → Feed Token → Prop
  /-- What cannot be scanned ends the run. -/
  | faulty {s : Scan} {f : Fault} (h : s.advance = .error f) : Runs s ⟨[], some f⟩
  /-- Another token waits now. -/
  | silent {s t : Scan} {feed : Feed Token} (h : s.advance = .ok (none, t)) (rest : Runs t feed) :
      Runs s feed
  | told {s t : Scan} {x : Token} {feed : Feed Token} (h : s.advance = .ok (some x, t))
      (more : x.kind ≠ .streamEnd) (rest : Runs t feed) : Runs s (feed.cons x)
  /-- The end of the text is told, and nothing after it. -/
  | ended {s t : Scan} {x : Token} (h : s.advance = .ok (some x, t))
      (last : x.kind = .streamEnd) : Runs s ⟨[x], none⟩

/-- At most `n` more steps can be made. -/
def Within (n : Nat) (s : Scan) : Prop :=
  s.Ordered ∧ s.potential ≤ n ∨ s.Ended ∧ s.queue.length ≤ n

theorem not_within_zero : ¬ Within 0 s := by
  rintro (⟨_, h⟩ | ⟨h, hqueue⟩)
  · exact absurd h (by unfold potential; omega)
  · obtain ⟨x, hx, _⟩ := h.told
    exact absurd (List.length_pos_of_mem hx) (by omega)

/-- Without queue another token is scanned. -/
theorem advance_of_nil (h : s.queue = []) : s.advance = s.scanNext.map (Prod.mk none) :=
  if_pos (List.isEmpty_iff.mpr h)

/-- With a queue, its first token waits if it may be a key. -/
theorem advance_of_cons {x : Token} {queue : List Token} (h : s.queue = x :: queue)
    (hu : s.refresh = .ok u) : s.advance =
      if u.headMayBeKey then u.scanNext.map (Prod.mk none)
      else .ok (some x, { u with queue := queue, handed := u.handed + 1 }) := by
  have hqueue : u.queue = x :: queue := (refresh_frame hu).2.1.trans h
  rw [advance, h, hu, List.isEmpty_cons, if_neg Bool.false_ne_true]
  show (if u.headMayBeKey then _ else _) = _
  rw [hqueue]
  rfl

theorem of_map_mk_eq_ok {x : Except Fault Scan} {x? : Option Token}
    (h : x.map (Prod.mk none) = .ok (x?, t)) : x = .ok t := by
  cases x with
  | error f => cases h
  | ok u => cases h; rfl

theorem remembers_of_headMayBeKey (h : s.headMayBeKey = true) : ∃ k, s.Remembers k := by
  obtain ⟨k?, hk, hnumber⟩ := List.any_eq_true.mp h
  cases k? with
  | none => cases hnumber
  | some k => exact ⟨k, hk⟩

theorem Adds.potential_le (h : Adds 0 s t) : t.potential ≤ s.potential := by
  have hload := h.load
  unfold potential
  rw [h.spot]
  omega

theorem within_of_scanNext (h : s.scanNext = .ok t) (hs : s.Ordered)
    (hn : s.potential ≤ n + 1) : Within n t := by
  rcases scanNext_lowers h hs with ⟨ht, hlower⟩ | ⟨ht, hlower⟩
  · exact Or.inl ⟨ht, by omega⟩
  · exact Or.inr ⟨ht, by omega⟩

/-- After the end all places are forgotten. -/
theorem Ended.forgets (h : s.Ended) (hu : s.refresh = .ok u) (k : KeyStart) :
    ¬ u.Remembers k := by
  intro hk
  obtain ⟨hremembered, hfresh⟩ := remembers_of_refresh hu hk
  exact absurd ((h.stale k hremembered).symm.trans hfresh) (by decide)

/-- A token that leaves the queue is one less to be handed out. -/
theorem within_of_hand {x : Token} {queue : List Token} (h : Within (n + 1) s)
    (hqueue : s.queue = x :: queue) (hx : x.kind ≠ .streamEnd) (hu : s.refresh = .ok u) :
    Within n { u with queue := queue, handed := u.handed + 1 } := by
  have hadds := adds_refresh hu
  rcases h with ⟨hs, hn⟩ | ⟨hs, hn⟩
  · refine Or.inl ⟨hadds.ordered hs, ?_⟩
    have hlower := Nat.le_trans hadds.potential_le hn
    simp only [potential, Scan.load, (refresh_frame hu).2.1, hqueue, List.length_cons] at hlower ⊢
    omega
  · refine Or.inr ⟨⟨?_, fun k hk => absurd hk (hs.forgets hu k)⟩, ?_⟩
    · obtain ⟨y, hy, hlast⟩ := hs.told
      rw [hqueue] at hy
      rcases List.mem_cons.mp hy with rfl | hy
      · exact absurd hlast hx
      · exact ⟨y, hy, hlast⟩
    · rw [hqueue] at hn
      exact Nat.le_of_succ_le_succ hn

/-- **A step lowers what is left**, unless it is the last one. -/
theorem within_of_advance {x? : Option Token} (h : Within (n + 1) s)
    (hstep : s.advance = .ok (x?, t)) (hx : ∀ x, x? = some x → x.kind ≠ .streamEnd) :
    Within n t := by
  cases hqueue : s.queue with
  | nil =>
    rcases h with ⟨hs, hn⟩ | ⟨hs, _⟩
    · rw [advance_of_nil hqueue] at hstep
      exact within_of_scanNext (of_map_mk_eq_ok hstep) hs hn
    · obtain ⟨x, hmem, _⟩ := hs.told
      rw [hqueue] at hmem
      cases hmem
  | cons x queue =>
    cases hu : s.refresh with
    | error f =>
      rw [advance, hqueue, hu] at hstep
      cases hstep
    | ok u =>
      rw [advance_of_cons hqueue hu] at hstep
      split at hstep
      · next hhead =>
        rcases h with ⟨hs, hn⟩ | ⟨hs, _⟩
        · have hadds := adds_refresh hu
          exact within_of_scanNext (of_map_mk_eq_ok hstep) (hadds.ordered hs)
            (Nat.le_trans hadds.potential_le hn)
        · obtain ⟨k, hk⟩ := remembers_of_headMayBeKey hhead
          exact absurd hk (hs.forgets hu k)
      · cases hstep
        exact within_of_hand h hqueue (hx x rfl) hu

theorem runs_succ {fuel : Nat} (h : ∀ x? t, s.advance = .ok (x?, t) →
    (∀ x, x? = some x → x.kind ≠ .streamEnd) → Runs t (tokens fuel t)) :
    Runs s (tokens (fuel + 1) s) := by
  have hsilent : ∀ t, s.advance = .ok (none, t) → Runs s (tokens fuel t) :=
    fun t ht => .silent ht (h none t ht (fun _ hx => by cases hx))
  rw [tokens]
  cases hqueue : s.queue with
  | nil =>
    have hstep := advance_of_nil hqueue
    dsimp only
    cases hscan : s.scanNext with
    | error f => rw [hscan] at hstep; exact .faulty hstep
    | ok t => rw [hscan] at hstep; exact hsilent t hstep
  | cons x queue =>
    dsimp only
    cases hu : s.refresh with
    | error f =>
      refine .faulty ?_
      rw [advance, hqueue, hu]
      rfl
    | ok u =>
      have hstep := advance_of_cons hqueue hu
      have hqueue : u.queue = x :: queue := (refresh_frame hu).2.1.trans hqueue
      dsimp only
      split
      · next hhead =>
        rw [if_pos hhead] at hstep
        cases hscan : u.scanNext with
        | error f => rw [hscan] at hstep; exact .faulty hstep
        | ok t => rw [hscan] at hstep; exact hsilent t hstep
      · next hhead =>
        rw [if_neg hhead] at hstep
        rw [hqueue]
        dsimp only
        split
        · next hlast => exact .ended hstep hlast
        · next hmore =>
          refine .told hstep hmore (h _ _ hstep fun y hy => ?_)
          cases hy
          exact hmore

theorem runs_tokens : ∀ (n : Nat) (s : Scan), Within n s → Runs s (tokens n s) := by
  intro n
  induction n with
  | zero => exact fun s h => absurd h not_within_zero
  | succ n ih => exact fun s h => runs_succ fun x? t ht hx => ih t (within_of_advance h ht hx)

/-- There is one way for a scan to run. -/
theorem Runs.unique {feed feed' : Feed Token} (h : Runs s feed) (h' : Runs s feed') :
    feed = feed' := by
  induction h generalizing feed' with
  | faulty h =>
    cases h' with
    | faulty h' => cases h.symm.trans h'; rfl
    | silent h' => cases h.symm.trans h'
    | told h' => cases h.symm.trans h'
    | ended h' => cases h.symm.trans h'
  | silent h _ ih =>
    cases h' with
    | faulty h' => cases h.symm.trans h'
    | silent h' rest => cases h.symm.trans h'; exact ih rest
    | told h' => cases h.symm.trans h'
    | ended h' => cases h.symm.trans h'
  | told h more _ ih =>
    cases h' with
    | faulty h' => cases h.symm.trans h'
    | silent h' => cases h.symm.trans h'
    | told h' _ rest => cases h.symm.trans h'; exact congrArg (Feed.cons _) (ih rest)
    | ended h' last => cases h.symm.trans h'; exact absurd last more
  | ended h last =>
    cases h' with
    | faulty h' => cases h.symm.trans h'
    | silent h' => cases h.symm.trans h'
    | told h' more => cases h.symm.trans h'; exact absurd last more
    | ended h' => cases h.symm.trans h'; rfl

/-- The end is told last, or it is not told because of a fault. -/
theorem Runs.ends {feed : Feed Token} (h : Runs s feed) :
    ∃ front, (∀ t ∈ front, t.kind ≠ .streamEnd) ∧
      ((∃ f, feed = ⟨front, some f⟩) ∨
        ∃ t, t.kind = .streamEnd ∧ feed = ⟨front ++ [t], none⟩) := by
  induction h with
  | @faulty _ f _ => exact ⟨[], fun t ht => (by cases ht), Or.inl ⟨f, rfl⟩⟩
  | silent _ _ ih => exact ih
  | @told _ _ x _ _ more _ ih =>
    obtain ⟨front, hfront, hends⟩ := ih
    refine ⟨x :: front, List.forall_mem_cons.mpr ⟨more, hfront⟩, ?_⟩
    rcases hends with ⟨f, rfl⟩ | ⟨t, ht, rfl⟩
    · exact Or.inl ⟨f, rfl⟩
    · exact Or.inr ⟨t, ht, rfl⟩
  | @ended _ _ x _ last => exact ⟨[], fun t ht => (by cases ht), Or.inr ⟨x, last, rfl⟩⟩

end Scan

/-- **The tokens of a text** are told to the end, and they are the only ones that can be told. -/
theorem runs_tokensOf (text : List Char) (feed : Feed Token) :
    Scan.Runs { spot := ⟨.start, text⟩ } feed ↔ tokensOf text = feed := by
  have hwithin : Scan.Within (scanSteps text) { spot := ⟨.start, text⟩ } := by
    refine Or.inl ⟨fun k hk => ?_, ?_⟩
    · cases List.mem_singleton.mp hk
    · show 6 * text.length + 0 + 2 ≤ 6 * text.length + 12
      omega
  have hruns := Scan.runs_tokens _ _ hwithin
  constructor
  · exact fun h => hruns.unique h
  · rintro rfl
    exact hruns

/-- **A text is scanned to its end or to a fault.** -/
theorem tokensOf_ends (text : List Char) :
    ∃ front, (∀ t ∈ front, t.kind ≠ .streamEnd) ∧
      ((∃ f, tokensOf text = ⟨front, some f⟩) ∨
        ∃ t, t.kind = .streamEnd ∧ tokensOf text = ⟨front ++ [t], none⟩) :=
  ((runs_tokensOf text _).mpr rfl).ends

end Yaml
end SampleSchema
