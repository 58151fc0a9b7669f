/-
  The tokens of a mapping in braces, written on one line.

  A text that starts with a brace might be a key as a whole, so the place of the brace is
  remembered, and as long as it is, no token leaves the queue.  On one line the place is given up
  only when it is more than 1024 characters behind (`refresh_of_near`); so a shorter text makes all
  of its tokens before the first one is handed out.

  1. **Tokens that wait** (`Waits`).  One state leads to another one, and nothing is handed out
     between them.  The relation is transitive, and `waits_step` is its only source: a token of the
     text is added to those that wait (`Waiting`).

  2. **What a text may consist of.**  A word (`waits_word`), a key between quotes with its colon
     (`waits_key`), a comma and the braces.  The crux is the key: the token that says so has to get
     in front of a scalar that waits already (`scanValue_behindQuoted`).

  3. **Texts that are scanned** (`FlowText.IsScanned`).  A word is one, and so is a mapping of such
     texts (`isScanned_mapping`), however deep it nests.  At the top all tokens are handed out at
     once (`tokensOf_braced`).
-/
import SampleSchema.Proofs.BlockMapping

namespace SampleSchema
namespace Yaml

/-! ## Scalars between brackets -/

theorem visible_of_isFlowEnd {c : Char} (hc : isFlowEnd c = true) : Visible c := by
  simp only [isFlowEnd, Bool.or_eq_true, decide_eq_true_eq] at hc
  rcases hc with (((rfl | rfl) | rfl) | rfl) | rfl <;> constructor <;> decide

/-- Between brackets a plain scalar ends before a comma or a bracket. -/
theorem PlainContext.read_flowEnd {x : PlainContext} (hx : x.inFlow = true) {c : Char}
    (hc : isFlowEnd c = true) (r : List Char) (m : Mark) :
    x.read .none m (c :: r) = .ok ⟨[], false, m, c :: r⟩ := by
  have hvisible := visible_of_isFlowEnd hc
  have hcolon : startsBadColon (c :: r) = false := by
    unfold startsBadColon
    split
    · next heq =>
      cases heq
      cases hc
    · rfl
  have hend : x.endsBefore (c :: r) = true := by simp [endsBefore, hx, hc]
  rw [read, hvisible.notBlank, hvisible.notBreak, hcolon, hend]
  simp [Gap.isNone, Gap.none, Gap.isBroken]

/-- A word between quotes is read up to the second one. -/
theorem readQuoted_word {w : List Char} (hw : ∀ c ∈ w, isNameChar c = true) (start : Mark)
    (r : List Char) : ∀ m : Mark, 0 < m.column →
    readQuoted .double start (.words .none) m (w ++ '"' :: r) =
      .ok ⟨w, m.along (w.length + 1), r⟩ := by
  induction w with
  | nil =>
    intro m hm
    have hcolumn : m.column ≠ 0 := Nat.ne_of_gt hm
    have hblank : isBlank '"' = false := by decide
    have hbreak : isBreak '"' = false := by decide
    rw [List.nil_append, readQuoted, hblank, hbreak]
    simp [hcolumn, QuoteStyle.quote, Gap.text, Gap.none, Mark.after_of_not_isBreak hbreak]
    rfl
  | cons c w ih =>
    intro m hm
    have hc := hw c List.mem_cons_self
    have hcolumn : m.column ≠ 0 := Nat.ne_of_gt hm
    have hquote : c ≠ QuoteStyle.double.quote := ne_of_isNameChar hc (by decide)
    have hback : c ≠ '\\' := ne_of_isNameChar hc (by decide)
    have hrest := ih (fun d hd => hw d (List.mem_cons_of_mem _ hd)) m.right (Nat.succ_pos _)
    rw [List.cons_append, readQuoted, if_neg (by simp [isBlank_of_isNameChar hc]),
      if_neg (by simp [isBreak_of_isNameChar hc]), if_neg (fun h => hcolumn h.1), if_neg hquote,
      if_neg (fun h => hback h.2), Mark.after_of_not_isBreak (isBreak_of_isNameChar hc), hrest,
      Mark.along_right]
    rfl

namespace Scan

/-! ## Tokens that wait -/

/-- On the first line no place is stale up to this column. -/
theorem refresh_of_near {s : Scan} (hline : s.spot.mark.line = 0)
    (hcolumn : s.spot.mark.column ≤ longestKey) : s.refresh = .ok s := by
  have hstale : ∀ k, s.isStale k = false := by
    intro k
    have hfar : ¬ k.mark.column + longestKey < s.spot.mark.column := by omega
    simp [isStale, hline, hfar]
  have hkept : ∀ k, s.refreshed k = .ok k := by
    intro k
    cases k with
    | none => rfl
    | some k => simp [refreshed, hstale]
  have hall : ∀ ks : List (Option KeyStart), ks.mapM s.refreshed = .ok ks := by
    intro ks
    induction ks with
    | nil => rfl
    | cons k ks ih =>
      rw [List.mapM_cons, hkept, ih]
      rfl
  unfold refresh
  rw [hall, hkept]
  simp [bind, Except.bind, pure, Except.pure]

/-- On some level the first token of the text is remembered. -/
def Held (keys : List (Option KeyStart)) : Prop := ∃ k, some k ∈ keys ∧ k.number = 0

theorem Held.cons {keys : List (Option KeyStart)} (h : Held keys) (key : Option KeyStart) :
    Held (key :: keys) := by
  obtain ⟨k, hk, hnumber⟩ := h
  exact ⟨k, List.mem_cons_of_mem _ hk, hnumber⟩

/-- A scan on the first line, outside all blocks, that has handed out nothing, since its first token
    is where a key may have begun. -/
structure Waiting (s : Scan) : Prop where
  line : s.spot.mark.line = 0
  column : s.spot.mark.column ≤ longestKey
  indents : s.indents = []
  handed : s.handed = 0
  queue : s.queue ≠ []
  held : Held (s.key :: s.outerKeys)

theorem Waiting.headMayBeKey {s : Scan} (hs : s.Waiting) : s.headMayBeKey = true := by
  obtain ⟨k, hk, hnumber⟩ := hs.held
  refine List.any_eq_true.mpr ⟨some k, hk, ?_⟩
  simp [hnumber, hs.handed]

/-- The second state comes after the first one, and nothing is handed out between them.  The steps
    that this takes are bounded by the tokens that are added. -/
def Waits (s t : Scan) : Prop :=
  ∃ n, s.queue.length + n ≤ t.queue.length ∧ ∀ fuel, tokens (fuel + n) s = tokens fuel t

theorem Waits.trans {s t u : Scan} (h : Waits s t) (h' : Waits t u) : Waits s u := by
  obtain ⟨n, hn, hs⟩ := h
  obtain ⟨n', hn', ht⟩ := h'
  refine ⟨n' + n, by omega, ?_⟩
  intro fuel
  rw [← Nat.add_assoc, hs, ht]

/-- While tokens wait, the next one of the text is scanned. -/
theorem Waiting.tokens_eq {s t : Scan} (hs : s.Waiting) (h : s.scanNext = .ok t) (fuel : Nat) :
    tokens (fuel + 1) s = tokens fuel t := by
  obtain ⟨u, queue, hqueue⟩ := List.exists_cons_of_ne_nil hs.queue
  rw [tokens, hqueue]
  simp only [refresh_of_near hs.line hs.column, hs.headMayBeKey, if_true, h]

/-- **One step**: a token of the text comes to wait behind the others. -/
theorem waits_step {s t : Scan} (hs : s.Waiting) {m : Mark} {c : Char} {r : List Char}
    (hspot : s.spot = ⟨m, c :: r⟩) (hc : Visible c) (h : s.scanToken c r = .ok t)
    (hlonger : s.queue.length < t.queue.length) : Waits s t := by
  have hstay : { s with spot := ⟨m.along 0, c :: r⟩ } = s := by
    obtain ⟨⟩ := s
    cases hspot
    rfl
  have hnext := scanNext_visible (n := 0) hspot hc
    (by rw [hstay, refresh_of_near hs.line hs.column]) (by simp [hs.indents])
  rw [hstay, h] at hnext
  exact ⟨1, hlonger, fun fuel => hs.tokens_eq hnext fuel⟩

/-! ## The steps -/

/-- A scan between brackets on the first line, no key having begun on the innermost level. -/
def inside (column : Nat) (rest : List Char) (outer : List (Option KeyStart)) (keyAllowed : Bool)
    (queue : List Token) : Scan :=
  { spot := ⟨⟨0, column⟩, rest⟩, outerKeys := outer, keyAllowed, queue }

variable {column : Nat} {r : List Char} {outer : List (Option KeyStart)} {queue : List Token}

theorem Held.waiting (h : Held outer) (hcolumn : column ≤ longestKey) (hqueue : queue ≠ [])
    (key : Option KeyStart) (keyAllowed : Bool) :
    Waiting { inside column r outer keyAllowed queue with key := key } where
  line := rfl
  column := hcolumn
  indents := rfl
  handed := rfl
  queue := hqueue
  held := h.cons key

theorem Held.inFlow {s : Scan} (h : Held s.outerKeys) : s.inFlow = true := by
  obtain ⟨k, hk, _⟩ := h
  cases hkeys : s.outerKeys with
  | nil =>
    rw [hkeys] at hk
    cases hk
  | cons o os => simp [Scan.inFlow, hkeys]

/-- A word. -/
theorem waits_word {w : List Char} (hw : Word w) (hheld : Held outer)
    (hcolumn : column ≤ longestKey) (hqueue : queue ≠ []) {e : Char} (he : isFlowEnd e = true) :
    Waits (inside column (w ++ e :: r) outer false queue)
      (inside (column + w.length) (e :: r) outer false
        (queue ++ [⟨.scalar .plain (String.ofList w), ⟨0, column⟩⟩])) := by
  obtain ⟨c, w', rfl, hdash⟩ := hw.start
  have hc : isNameChar c = true := hw.chars c List.mem_cons_self
  refine waits_step (hheld.waiting hcolumn hqueue none false) rfl (visible_of_isNameChar hc) ?_
    (by simp [inside])
  rw [scanToken_word hc hdash]
  refine scanPlain_eq (t := inside column (c :: w' ++ e :: r) outer false queue)
    (p := ⟨c :: w', false, ⟨⟨0, column + (c :: w').length⟩, e :: r⟩⟩) rfl ?_
  show PlainContext.read _ .none ⟨0, column⟩ (c :: w' ++ e :: r) = _
  rw [PlainContext.read_word hw.chars]
  show Except.map _ (PlainContext.read ⟨_, _, _⟩ .none _ (e :: r)) = _
  rw [PlainContext.read_flowEnd (hheld.inFlow (s := inside _ _ outer _ _)) he]
  simp [Except.map, Plain.prepend, Mark.along]

/-- The scan behind a word between quotes that may be a key. -/
def behindQuoted (w : List Char) (column : Nat) (r : List Char) (outer : List (Option KeyStart))
    (queue : List Token) : Scan :=
  { inside (column + (w.length + 2)) (':' :: r) outer false
      (queue ++ [⟨.scalar .quoted (String.ofList w), ⟨0, column⟩⟩]) with
    key := some ⟨false, queue.length, ⟨0, column⟩⟩ }

theorem scanToken_quote (s : Scan) (r : List Char) : s.scanToken '"' r = s.scanQuoted .double := by
  simp [scanToken, startsMarker_of_ne]

theorem visible_quote : Visible '"' := by constructor <;> decide

/-- A word between quotes, where a key may begin. -/
theorem waits_quoted {w : List Char} (hw : ∀ c ∈ w, isNameChar c = true) (hheld : Held outer)
    (hcolumn : column ≤ longestKey) (hqueue : queue ≠ []) :
    Waits (inside column ('"' :: (w ++ '"' :: ':' :: r)) outer true queue)
      (behindQuoted w column r outer queue) := by
  refine waits_step (hheld.waiting hcolumn hqueue none true) rfl visible_quote ?_
    (by simp [behindQuoted, inside])
  have hflow := hheld.inFlow (s := inside column ('"' :: (w ++ '"' :: ':' :: r)) outer true queue)
  have hsave : (inside column ('"' :: (w ++ '"' :: ':' :: r)) outer true queue).saveKey = .ok
      { inside column ('"' :: (w ++ '"' :: ':' :: r)) outer true queue with
        key := some ⟨false, queue.length, ⟨0, column⟩⟩ } := by
    -- between brackets it is no fault if the colon does not come
    unfold saveKey
    rw [hflow]
    simp [inside, dropKey, nextNumber, bind, Except.bind, pure, Except.pure]
  have hread := readQuoted_word hw ⟨0, column⟩ (':' :: r) ⟨0, column + 1⟩ (Nat.succ_pos _)
  have hmark : (⟨0, column + 1⟩ : Mark).along (w.length + 1) = ⟨0, column + (w.length + 2)⟩ := by
    simp only [Mark.along, Mark.mk.injEq, true_and]
    omega
  rw [hmark] at hread
  rw [scanToken_quote, scanQuoted, hsave]
  show (readQuoted .double ⟨0, column⟩ (.words .none) ⟨0, column + 1⟩ (w ++ '"' :: ':' :: r) >>=
    fun p => _) = _
  rw [hread]
  rfl

/-- The tokens of a key between quotes: its sign, which no character stands for, the word, and the
    colon. -/
def quotedKeyTokens (w : List Char) (column : Nat) : List Token :=
  [⟨.key, ⟨0, column⟩⟩, ⟨.scalar .quoted (String.ofList w), ⟨0, column⟩⟩,
    ⟨.value, ⟨0, column + (w.length + 2)⟩⟩]

/-- The colon puts the sign of the key in front of the word. -/
theorem scanValue_behindQuoted (w : List Char) (hheld : Held outer) :
    (behindQuoted w column r outer queue).scanValue =
      .ok (inside (column + (w.length + 3)) r outer false
        (queue ++ quotedKeyTokens w column)) := by
  have hkey : (behindQuoted w column r outer queue).addAt queue.length .key ⟨0, column⟩ = _ :=
    addAt_append queue _ rfl (Nat.zero_add _).symm .key ⟨0, column⟩
  -- between brackets no block is opened, whatever the column
  have hblock : opensBlock { behindQuoted w column r outer queue with
      queue := queue ++ [⟨.key, ⟨0, column⟩⟩, ⟨.scalar .quoted (String.ofList w), ⟨0, column⟩⟩] }
      column = false := by
    rw [opensBlock, Held.inFlow (by exact hheld)]
    rfl
  unfold scanValue
  show Except.ok (addIndicator { (openBlockAt ((behindQuoted w column r outer queue).addAt
    queue.length .key ⟨0, column⟩) ⟨false, queue.length, ⟨0, column⟩⟩) with
      key := none, keyAllowed := false } .value) = _
  rw [hkey, openBlockAt_inside hblock]
  simp [addIndicator, add, behindQuoted, inside, quotedKeyTokens, Spot.next, Mark.after, isBreak,
    Mark.right, Nat.add_assoc]

/-- A key between quotes with its colon. -/
theorem waits_key {w : List Char} (hw : ∀ c ∈ w, isNameChar c = true) (hheld : Held outer)
    (hcolumn : column + (w.length + 2) ≤ longestKey) (hqueue : queue ≠ []) :
    Waits (inside column ('"' :: (w ++ '"' :: ':' :: r)) outer true queue)
      (inside (column + (w.length + 3)) r outer false (queue ++ quotedKeyTokens w column)) := by
  have hquoted : Waits _ (behindQuoted w column r outer queue) :=
    waits_quoted hw hheld (Nat.le_of_add_right_le hcolumn) hqueue
  refine hquoted.trans (waits_step (hheld.waiting hcolumn ?_ _ false) rfl visible_colon ?_ ?_)
  · simp
  · have hflow := hheld.inFlow (s := behindQuoted w column r outer queue)
    show (behindQuoted w column r outer queue).scanToken ':' r = _
    rw [scanToken_colon (by rw [hflow]; rfl), scanValue_behindQuoted w hheld]
  · simp [behindQuoted, inside, quotedKeyTokens]

theorem scanToken_comma (s : Scan) (r : List Char) : s.scanToken ',' r = s.scanComma := by
  simp [scanToken, startsMarker_of_ne]

theorem scanToken_opening (s : Scan) (r : List Char) :
    s.scanToken '\x7b' r = s.scanOpening .flowMappingStart := by
  simp [scanToken, startsMarker_of_ne]

theorem scanToken_closing (s : Scan) (r : List Char) :
    s.scanToken '\x7d' r = s.scanClosing .flowMappingEnd := by
  simp [scanToken, startsMarker_of_ne]

/-- A comma, behind which a key may begin. -/
theorem waits_comma (hheld : Held outer) (hcolumn : column ≤ longestKey) (hqueue : queue ≠ []) :
    Waits (inside column (',' :: r) outer false queue)
      (inside (column + 1) r outer true (queue ++ [⟨.comma, ⟨0, column⟩⟩])) := by
  refine waits_step (hheld.waiting hcolumn hqueue none false) rfl
    (visible_of_isFlowEnd (by decide)) ?_ (by simp [inside])
  rw [scanToken_comma]
  rfl

/-- An opening brace in place of a value, where no key may begin. -/
theorem waits_opening (hheld : Held outer) (hcolumn : column ≤ longestKey) (hqueue : queue ≠ []) :
    Waits (inside column ('\x7b' :: r) outer false queue)
      (inside (column + 1) r (none :: outer) true
        (queue ++ [⟨.flowMappingStart, ⟨0, column⟩⟩])) := by
  refine waits_step (hheld.waiting hcolumn hqueue none false) rfl
    (visible_of_isFlowEnd (by decide)) ?_ (by simp [inside])
  rw [scanToken_opening]
  rfl

/-- A closing brace; what is remembered on the level around it may be a key again. -/
theorem waits_closing (key : Option KeyStart) (hheld : Held (key :: outer))
    (hcolumn : column ≤ longestKey) (hqueue : queue ≠ []) :
    Waits (inside column ('\x7d' :: r) (key :: outer) false queue)
      { inside (column + 1) r outer false (queue ++ [⟨.flowMappingEnd, ⟨0, column⟩⟩]) with
        key := key } := by
  refine waits_step (hheld.waiting hcolumn hqueue none false) rfl
    (visible_of_isFlowEnd (by decide)) ?_ (by simp [inside])
  rw [scanToken_closing]
  rfl

end Scan

/-! ## Texts between brackets -/

/-- A text between brackets, with the tokens and the nodes that it stands for, by its column. -/
structure FlowText where
  chars : List Char
  tokens : Nat → List Token
  nodes : Nat → List Node

/-- A key between quotes, and its value. -/
structure FlowEntry where
  key : List Char
  value : FlowText

/-- What stands between two braces: at least one entry. -/
structure FlowEntries where
  first : FlowEntry
  more : List FlowEntry

namespace FlowEntry

/-- The text of the entry. -/
def chars (e : FlowEntry) : List Char := '"' :: (e.key ++ '"' :: ':' :: e.value.chars)

/-- Where the value of an entry stands. -/
def valueColumn (column : Nat) (e : FlowEntry) : Nat := column + (e.key.length + 3)

def tokens (column : Nat) (e : FlowEntry) : List Token :=
  Scan.quotedKeyTokens e.key column ++ e.value.tokens (e.valueColumn column)

def nodes (column : Nat) (e : FlowEntry) : List Node :=
  ⟨.scalar ⟨none, .quoted, String.ofList e.key⟩, ⟨0, column⟩⟩ ::
    e.value.nodes (e.valueColumn column)

theorem valueColumn_add (column : Nat) (e : FlowEntry) :
    e.valueColumn column + e.value.chars.length = column + e.chars.length := by
  simp only [valueColumn, chars, List.length_cons, List.length_append]
  omega

/-- Entries behind the first one, each with its comma. -/
def moreChars (es : List FlowEntry) : List Char := es.flatMap fun e => ',' :: e.chars

def moreTokens : Nat → List FlowEntry → List Token
  | _, [] => []
  | column, e :: es =>
    ⟨.comma, ⟨0, column⟩⟩ ::
      (e.tokens (column + 1) ++ moreTokens (column + 1 + e.chars.length) es)

def moreNodes : Nat → List FlowEntry → List Node
  | _, [] => []
  | column, e :: es => e.nodes (column + 1) ++ moreNodes (column + 1 + e.chars.length) es

theorem moreChars_cons (e : FlowEntry) (es : List FlowEntry) :
    moreChars (e :: es) = ',' :: (e.chars ++ moreChars es) := by
  simp [moreChars]

/-- What comes behind an entry ends a plain scalar. -/
theorem moreChars_append {c : Char} (hc : isFlowEnd c = true) (r : List Char)
    (es : List FlowEntry) : ∃ d s, moreChars es ++ c :: r = d :: s ∧ isFlowEnd d = true := by
  cases es with
  | nil => exact ⟨c, r, rfl, hc⟩
  | cons e es => exact ⟨',', _, by rw [moreChars_cons]; rfl, by decide⟩

end FlowEntry

namespace FlowEntries

def chars (b : FlowEntries) : List Char := b.first.chars ++ FlowEntry.moreChars b.more

def tokens (column : Nat) (b : FlowEntries) : List Token :=
  b.first.tokens column ++ FlowEntry.moreTokens (column + b.first.chars.length) b.more

def nodes (column : Nat) (b : FlowEntries) : List Node :=
  b.first.nodes column ++ FlowEntry.moreNodes (column + b.first.chars.length) b.more

/-- Entries in braces. -/
def bracedChars (b : FlowEntries) : List Char := '\x7b' :: (b.chars ++ ['\x7d'])

/-- Where the closing brace stands. -/
def closing (column : Nat) (b : FlowEntries) : Mark := ⟨0, column + 1 + b.chars.length⟩

def bracedTokens (column : Nat) (b : FlowEntries) : List Token :=
  ⟨.flowMappingStart, ⟨0, column⟩⟩ ::
    (b.tokens (column + 1) ++ [⟨.flowMappingEnd, b.closing column⟩])

def bracedNodes (column : Nat) (b : FlowEntries) : List Node :=
  ⟨.mappingStart, ⟨0, column⟩⟩ :: (b.nodes (column + 1) ++ [⟨.mappingEnd, b.closing column⟩])

end FlowEntries

namespace FlowText

/-- A word. -/
def word (w : List Char) : FlowText where
  chars := w
  tokens column := [⟨.scalar .plain (String.ofList w), ⟨0, column⟩⟩]
  nodes column := [wordNode w ⟨0, column⟩]

/-- A mapping. -/
def mapping (b : FlowEntries) : FlowText where
  chars := b.bracedChars
  tokens column := b.bracedTokens column
  nodes column := b.bracedNodes column

end FlowText

/-! ## Scanning them -/

open Scan

/-- Behind a colon a scan makes the tokens of the text, if a comma or a bracket follows. -/
structure FlowText.IsScanned (t : FlowText) : Prop where
  kinds : ∀ column, ∀ u ∈ t.tokens column, u.kind ≠ .streamEnd
  length : ∀ column, (t.tokens column).length ≤ t.chars.length
  waits : ∀ (column : Nat) (r : List Char) (queue : List Token) {outer : List (Option KeyStart)}
    {c : Char}, Held outer → queue ≠ [] → column + t.chars.length ≤ longestKey →
    isFlowEnd c = true →
    Waits (inside column (t.chars ++ c :: r) outer false queue)
      (inside (column + t.chars.length) (c :: r) outer false (queue ++ t.tokens column))

theorem FlowText.isScanned_word {w : List Char} (hw : Word w) : (word w).IsScanned where
  kinds column := by simp [word]
  length column := by
    obtain ⟨c, w', rfl, _⟩ := hw.start
    simp [word]
  waits _ _ _ _ _ hheld hqueue hlength hc :=
    waits_word hw hheld (Nat.le_of_add_right_le hlength) hqueue hc

/-- The key is made of characters of names, and the value is scanned. -/
structure FlowEntry.IsScanned (e : FlowEntry) : Prop where
  key : ∀ c ∈ e.key, isNameChar c = true
  value : e.value.IsScanned

theorem FlowEntry.IsScanned.kinds {e : FlowEntry} (he : e.IsScanned) (column : Nat) :
    ∀ u ∈ e.tokens column, u.kind ≠ .streamEnd := by
  intro u hu
  rcases List.mem_append.mp hu with hkey | hvalue
  · have hnone : ∀ v ∈ quotedKeyTokens e.key column, v.kind ≠ .streamEnd := by
      simp [quotedKeyTokens]
    exact hnone u hkey
  · exact he.value.kinds _ u hvalue

theorem FlowEntry.IsScanned.length {e : FlowEntry} (he : e.IsScanned) (column : Nat) :
    (e.tokens column).length ≤ e.chars.length := by
  have hvalue := he.value.length (e.valueColumn column)
  simp only [tokens, chars, quotedKeyTokens, List.length_append, List.length_cons, List.length_nil]
  omega

variable {outer : List (Option KeyStart)} {c : Char}

/-- An entry where a key may begin. -/
theorem FlowEntry.IsScanned.waits {e : FlowEntry} (he : e.IsScanned) (column : Nat)
    (r : List Char) (queue : List Token) (hheld : Held outer) (hqueue : queue ≠ [])
    (hlength : column + e.chars.length ≤ longestKey) (hc : isFlowEnd c = true) :
    Waits (inside column (e.chars ++ c :: r) outer true queue)
      (inside (column + e.chars.length) (c :: r) outer false (queue ++ e.tokens column)) := by
  have htext : e.chars ++ c :: r = '"' :: (e.key ++ '"' :: ':' :: (e.value.chars ++ c :: r)) := by
    simp [chars]
  rw [← e.valueColumn_add column] at hlength ⊢
  have hkey : column + (e.key.length + 2) ≤ longestKey := by
    simp only [valueColumn] at hlength
    omega
  have hvalue := he.value.waits (e.valueColumn column) r (queue ++ quotedKeyTokens e.key column)
    hheld (by simp [hqueue]) hlength hc
  rw [List.append_assoc] at hvalue
  rw [htext]
  exact (waits_key he.key hheld hkey hqueue).trans hvalue

/-- Entries behind the first one. -/
theorem FlowEntry.waits_more (r : List Char) (hheld : Held outer) (hc : isFlowEnd c = true)
    (es : List FlowEntry) (hes : ∀ e ∈ es, e.IsScanned) : ∀ (column : Nat) (queue : List Token),
    queue ≠ [] → column + (moreChars es).length ≤ longestKey →
    Waits (inside column (moreChars es ++ c :: r) outer false queue)
      (inside (column + (moreChars es).length) (c :: r) outer false
        (queue ++ moreTokens column es)) := by
  induction es with
  | nil =>
    intro column queue _ _
    rw [moreTokens, List.append_nil]
    exact ⟨0, Nat.le_refl _, fun _ => rfl⟩
  | cons e es ih =>
    intro column queue hqueue hlength
    have hothers : ∀ f ∈ es, f.IsScanned := fun f hf => hes f (List.mem_cons_of_mem _ hf)
    have hbehind : column + (moreChars (e :: es)).length =
        column + 1 + e.chars.length + (moreChars es).length := by
      rw [moreChars_cons, List.length_cons, List.length_append]
      omega
    rw [hbehind] at hlength ⊢
    have htext : moreChars (e :: es) ++ c :: r =
        ',' :: (e.chars ++ (moreChars es ++ c :: r)) := by
      simp [moreChars_cons]
    obtain ⟨d, s, hd, hend⟩ := moreChars_append hc r es
    have hcomma : Waits (inside column (',' :: (e.chars ++ d :: s)) outer false queue) _ :=
      waits_comma hheld (by omega) hqueue
    have hentry := (hes e List.mem_cons_self).waits (column + 1) s
      (queue ++ [⟨.comma, ⟨0, column⟩⟩]) hheld (by simp) (by omega) hend
    have hmore := ih hothers (column + 1 + e.chars.length)
      (queue ++ [⟨.comma, ⟨0, column⟩⟩] ++ e.tokens (column + 1)) (by simp) hlength
    rw [htext, hd]
    rw [hd] at hmore
    have hall := hcomma.trans (hentry.trans hmore)
    simpa [moreTokens] using hall

theorem FlowEntry.length_moreTokens (es : List FlowEntry) (hes : ∀ e ∈ es, e.IsScanned) :
    ∀ column, (moreTokens column es).length ≤ (moreChars es).length := by
  induction es with
  | nil => exact fun _ => Nat.le_refl _
  | cons e es ih =>
    intro column
    have hfirst := (hes e List.mem_cons_self).length (column + 1)
    have hothers := ih (fun f hf => hes f (List.mem_cons_of_mem _ hf))
      (column + 1 + e.chars.length)
    rw [moreTokens, moreChars_cons, List.length_cons, List.length_append, List.length_cons,
      List.length_append]
    omega

theorem FlowEntry.kinds_moreTokens (es : List FlowEntry) (hes : ∀ e ∈ es, e.IsScanned) :
    ∀ column, ∀ u ∈ moreTokens column es, u.kind ≠ .streamEnd := by
  induction es with
  | nil => exact fun _ _ hu => absurd hu List.not_mem_nil
  | cons e es ih =>
    intro column u hu
    rcases List.mem_cons.mp hu with rfl | hu
    · exact fun h => TokenKind.noConfusion h
    · rcases List.mem_append.mp hu with hfirst | hothers
      · exact (hes e List.mem_cons_self).kinds _ u hfirst
      · exact ih (fun f hf => hes f (List.mem_cons_of_mem _ hf)) _ u hothers

/-- All entries are scanned. -/
structure FlowEntries.IsScanned (b : FlowEntries) : Prop where
  first : b.first.IsScanned
  more : ∀ e ∈ b.more, e.IsScanned

theorem FlowEntries.IsScanned.length {b : FlowEntries} (hb : b.IsScanned) (column : Nat) :
    (b.bracedTokens column).length ≤ b.bracedChars.length := by
  have hfirst := hb.first.length (column + 1)
  have hmore := FlowEntry.length_moreTokens b.more hb.more (column + 1 + b.first.chars.length)
  simp only [bracedTokens, bracedChars, tokens, chars, List.length_cons, List.length_append,
    List.length_nil]
  omega

theorem FlowEntries.IsScanned.kinds {b : FlowEntries} (hb : b.IsScanned) (column : Nat) :
    ∀ u ∈ b.bracedTokens column, u.kind ≠ .streamEnd := by
  intro u hu
  simp only [bracedTokens, tokens, List.mem_cons, List.mem_append, List.not_mem_nil, or_false] at hu
  rcases hu with rfl | (hfirst | hmore) | rfl
  · exact fun h => TokenKind.noConfusion h
  · exact hb.first.kinds _ u hfirst
  · exact FlowEntry.kinds_moreTokens b.more hb.more _ u hmore
  · exact fun h => TokenKind.noConfusion h

/-- **All entries**, up to the closing brace. -/
theorem FlowEntries.IsScanned.waits {b : FlowEntries} (hb : b.IsScanned) (column : Nat)
    (r : List Char) (queue : List Token) (hheld : Held outer) (hqueue : queue ≠ [])
    (hlength : column + b.chars.length ≤ longestKey) (hc : isFlowEnd c = true) :
    Waits (inside column (b.chars ++ c :: r) outer true queue)
      (inside (column + b.chars.length) (c :: r) outer false (queue ++ b.tokens column)) := by
  have hbehind : column + b.chars.length =
      column + b.first.chars.length + (FlowEntry.moreChars b.more).length := by
    rw [chars, List.length_append, Nat.add_assoc]
  rw [hbehind] at hlength ⊢
  obtain ⟨d, s, hd, hend⟩ := FlowEntry.moreChars_append hc r b.more
  have hfirst := hb.first.waits column s queue hheld hqueue (by omega) hend
  have hmore := FlowEntry.waits_more r hheld hc b.more hb.more (column + b.first.chars.length)
    (queue ++ b.first.tokens column) (by simp [hqueue]) hlength
  rw [hd, List.append_assoc] at hmore
  rw [chars, List.append_assoc, hd]
  exact hfirst.trans hmore

/-- **A mapping of texts that are scanned is scanned.** -/
theorem FlowText.isScanned_mapping {b : FlowEntries} (hb : b.IsScanned) :
    (mapping b).IsScanned where
  kinds := hb.kinds
  length := hb.length
  waits := by
    intro column r queue outer c hheld hqueue hlength hc
    have hcolumn : column + 1 + b.chars.length + 1 = column + (mapping b).chars.length := by
      simp only [mapping, FlowEntries.bracedChars, List.length_cons, List.length_append,
        List.length_nil]
      omega
    have hinner : Held (none :: outer) := hheld.cons none
    have hopen := waits_opening (r := b.chars ++ '\x7d' :: c :: r) hheld
      (Nat.le_of_add_right_le hlength) hqueue
    have hbody := hb.waits (column + 1) (c :: r) (queue ++ [⟨.flowMappingStart, ⟨0, column⟩⟩])
      hinner (by simp) (by omega) (c := '\x7d') (by decide)
    have hclose : Waits _ (inside (column + 1 + b.chars.length + 1) (c :: r) outer false
        (queue ++ [⟨.flowMappingStart, ⟨0, column⟩⟩] ++ b.tokens (column + 1) ++
          [⟨.flowMappingEnd, b.closing column⟩])) :=
      waits_closing none hinner (by omega) (by simp)
    have hall := hopen.trans (hbody.trans hclose)
    rw [hcolumn] at hall
    simpa [mapping, FlowEntries.bracedChars, FlowEntries.bracedTokens] using hall

/-! ## A whole text -/

/-- The place of the first brace, where a key might have begun. -/
def wholeKey : KeyStart := ⟨false, 0, .start⟩

/-- The first brace of a text. -/
theorem scanNext_start (r : List Char) :
    (atLine 0 ('\x7b' :: r) [] 0).scanNext =
      .ok (inside 1 r [some wholeKey] true [⟨.flowMappingStart, .start⟩]) := by
  have hbrace : Visible '\x7b' := visible_of_isFlowEnd (by decide)
  have hnext : (atLine 0 ('\x7b' :: r) [] 0).scanNext =
      (atLine 0 ('\x7b' :: r) [] 0).scanToken '\x7b' r :=
    scanNext_visible (m := ⟨0, 0⟩) (n := 0) rfl hbrace rfl (by simp [atLine, idle])
  rw [hnext, scanToken_opening]
  rfl

variable {column : Nat} {queue : List Token}

/-- The scan behind the last brace of a text. -/
def behindText (column : Nat) (queue : List Token) : Scan :=
  { inside column [] [] false queue with key := some wholeKey }

/-- The end of the text: what begins with its first brace is no key. -/
theorem scanNext_behindText (hcolumn : column ≤ longestKey) (hpos : column ≠ 0) :
    (behindText column queue).scanNext =
      .ok (idle ⟨⟨1, 0⟩, []⟩ [] false 0 (queue ++ [⟨.streamEnd, ⟨1, 0⟩⟩])) := by
  have hfresh : (behindText column queue).refresh = .ok (behindText column queue) :=
    refresh_of_near rfl hcolumn
  have hgap : skipGaps 1 (behindText column queue) = behindText column queue := by
    simp [skipGaps, behindText, inside, Spot.skip, Spot.span, Spot.spanFrom, Spot.skipComment,
      Spot.startsWith]
  unfold scanNext
  show (skipGaps 1 (behindText column queue)).refresh >>= _ = _
  rw [hgap, hfresh]
  simp [bind, Except.bind, pure, Except.pure, closeBlocksTo, closeBlocks, behindText, inside,
    scanEnd, closeAllBlocks, dropKey, giveUp, wholeKey, Except.map, add, idle, inFlow,
    Mark.newline, hpos]

/-- All tokens are handed out then. -/
theorem tokens_behindText (hcolumn : column ≤ longestKey) (hpos : column ≠ 0) (hqueue : queue ≠ [])
    (hkinds : ∀ u ∈ queue, u.kind ≠ .streamEnd) (fuel : Nat) :
    tokens (fuel + queue.length + 2) (behindText column queue) =
      ⟨queue ++ [⟨.streamEnd, ⟨1, 0⟩⟩], none⟩ := by
  have hwaiting : (behindText column queue).Waiting :=
    { line := rfl, column := hcolumn, indents := rfl, handed := rfl, queue := hqueue
      held := ⟨wholeKey, List.mem_cons_self, rfl⟩ }
  have hhand := tokens_queue ⟨⟨1, 0⟩, []⟩ [] false [⟨.streamEnd, ⟨1, 0⟩⟩] queue hkinds 0 (fuel + 1)
  rw [show fuel + queue.length + 2 = fuel + 1 + queue.length + 1 by omega,
    hwaiting.tokens_eq (scanNext_behindText hcolumn hpos), hhand]
  rfl

/-- **The tokens of a mapping in braces**, on one line that is not too long. -/
theorem tokensOf_braced {b : FlowEntries} (hb : b.IsScanned)
    (hlength : b.bracedChars.length ≤ longestKey) :
    tokensOf b.bracedChars = ⟨b.bracedTokens 0 ++ [⟨.streamEnd, ⟨1, 0⟩⟩], none⟩ := by
  have hchars : b.bracedChars.length = b.chars.length + 2 := by simp [FlowEntries.bracedChars]
  have hheld : Held [some wholeKey] := ⟨wholeKey, List.mem_singleton_self _, rfl⟩
  have hbody := hb.waits 1 [] [⟨.flowMappingStart, .start⟩] hheld (by simp) (by omega)
    (c := '\x7d') (by decide)
  have hclose : Waits _ (behindText (1 + b.chars.length + 1)
      ([⟨.flowMappingStart, .start⟩] ++ b.tokens 1 ++
        [⟨.flowMappingEnd, ⟨0, 1 + b.chars.length⟩⟩])) :=
    waits_closing (some wholeKey) hheld (by omega) (by simp)
  have hqueue : [⟨.flowMappingStart, .start⟩] ++ b.tokens 1 ++
      [⟨.flowMappingEnd, ⟨0, 1 + b.chars.length⟩⟩] = b.bracedTokens 0 := by
    simp [FlowEntries.bracedTokens, FlowEntries.closing, Mark.start]
  rw [hqueue] at hclose
  obtain ⟨n, hn, hsteps⟩ := hbody.trans hclose
  have hstart : (atLine 0 b.bracedChars [] 0).scanNext = _ := scanNext_start (b.chars ++ ['\x7d'])
  have hend : ∀ fuel, tokens (fuel + (b.bracedTokens 0).length + 2)
      (behindText (1 + b.chars.length + 1) (b.bracedTokens 0)) = _ :=
    tokens_behindText (by omega) (Nat.succ_ne_zero _) (List.cons_ne_nil _ _) (hb.kinds 0)
  have hcount := hb.length 0
  obtain ⟨fuel, hfuel⟩ : ∃ fuel, scanSteps b.bracedChars =
      fuel + (b.bracedTokens 0).length + 2 + n + 1 := by
    refine ⟨scanSteps b.bracedChars - ((b.bracedTokens 0).length + 2 + n + 1), ?_⟩
    simp only [scanSteps, inside, behindText, List.length_singleton] at hn ⊢
    omega
  show tokens (scanSteps b.bracedChars) (atLine 0 b.bracedChars [] 0) = _
  rw [hfuel, tokens_scan rfl hstart, hsteps, hend]

end Yaml
end SampleSchema
