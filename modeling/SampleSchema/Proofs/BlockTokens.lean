/-
  The tokens of a text that gives words to keys, line by line.

  Such a text is what most settings look like: each line is a key, a colon and a word, and a key
  whose value is a block of its own has the lines of this block below it, further right.  A scan
  does not see lines.  It moves from token to token, keeps a word back in case it turns out to be a
  key, and opens and closes blocks by columns alone.

  * `Hands s ts t` says that a scan which is in one state hands out some tokens and is in another
    state then.  It is transitive (`Hands.trans`), so a text is scanned line by line.
  * `hands_line` and `hands_first_line` are the two lines that there are: one that stays in its
    block, and one that opens a block, which shows only at its colon; with them go the lines of a
    whole block (`hands_block`).  The crux is what a word may
    be followed by (`PlainContext.read_line_end`): a plain scalar may go on in the next line, and it
    ends with its own one only because the next one is not further right than the block
    (`Continues`).
  * `tokens_end` ends all blocks that are open at the end of the text.

  The steps that all this takes are bounded by the tokens, so the fuel of `tokensOf` is enough
  (`tokensOf_of_hands`).
-/
import Mathlib.Data.List.TakeWhile
import SampleSchema.Yaml.Reading

namespace SampleSchema
namespace Yaml

/-! ## Words -/

/-- Characters of names, the first one being no dash.  Such a word is a plain scalar wherever it
    stands. -/
structure Word (w : List Char) : Prop where
  chars : ∀ c ∈ w, isNameChar c = true
  start : ∃ c r, w = c :: r ∧ c ≠ '-'

theorem ne_of_isNameChar {c d : Char} (hc : isNameChar c = true) (hd : isNameChar d = false) :
    c ≠ d := by
  rintro rfl
  rw [hc] at hd
  cases hd

theorem isBlank_of_isNameChar {c : Char} (hc : isNameChar c = true) : isBlank c = false := by
  have hspace : c ≠ ' ' := ne_of_isNameChar hc (by decide)
  have htab : c ≠ '\t' := ne_of_isNameChar hc (by decide)
  simp [isBlank, hspace, htab]

theorem isBreak_of_isNameChar {c : Char} (hc : isNameChar c = true) : isBreak c = false := by
  have hfeed : c ≠ '\n' := ne_of_isNameChar hc (by decide)
  have hline : c ≠ '\u2028' := ne_of_isNameChar hc (by decide)
  have hparagraph : c ≠ '\u2029' := ne_of_isNameChar hc (by decide)
  simp [isBreak, hfeed, hline, hparagraph]

/-- So many columns further. -/
def Mark.along (m : Mark) (n : Nat) : Mark := ⟨m.line, m.column + n⟩

theorem Mark.along_right (m : Mark) (n : Nat) : m.right.along n = m.along (n + 1) := by
  simp only [right, along, Mark.mk.injEq, true_and]
  omega

theorem Mark.after_of_not_isBreak {c : Char} (h : isBreak c = false) (m : Mark) :
    m.after c = m.right := by
  simp [after, h]

/-- The text starts with blanks up to this column, and then a word starts. -/
def Indented (n : Nat) (cs : List Char) : Prop :=
  ∃ c r, cs = List.replicate n ' ' ++ c :: r ∧ isNameChar c = true ∧ c ≠ '-'

/-! ## Plain scalars -/

namespace PlainContext

variable {x : PlainContext}

/-- The characters of a word belong to the scalar. -/
theorem read_word {w : List Char} (hw : ∀ c ∈ w, isNameChar c = true) (rest : List Char) : ∀ m,
    x.read .none m (w ++ rest) =
      (x.read .none (m.along w.length) rest).map (Plain.prepend w) := by
  induction w with
  | nil =>
    intro m
    show x.read .none m rest = (x.read .none m rest).map (Plain.prepend [])
    cases x.read .none m rest <;> rfl
  | cons c w ih =>
    intro m
    have hc := hw c List.mem_cons_self
    have hne : c ≠ ':' := ne_of_isNameChar hc (by decide)
    have hcolon : startsValue (c :: (w ++ rest)) = false := by
      unfold startsValue
      split
      · next heq =>
        cases heq
        exact absurd rfl hne
      · rfl
    have hbad : startsBadColon (c :: (w ++ rest)) = false := by
      unfold startsBadColon
      split
      · next heq => exact absurd (List.cons.inj heq).1 hne
      · rfl
    have hend : isFlowEnd c = false := by
      have hcomma : c ≠ ',' := ne_of_isNameChar hc (by decide)
      have hopen : c ≠ '[' := ne_of_isNameChar hc (by decide)
      have hclose : c ≠ ']' := ne_of_isNameChar hc (by decide)
      have hbrace : c ≠ '\x7b' := ne_of_isNameChar hc (by decide)
      have hclosing : c ≠ '\x7d' := ne_of_isNameChar hc (by decide)
      simp [isFlowEnd, hcomma, hopen, hclose, hbrace, hclosing]
    have hgo : x.read .none m (c :: (w ++ rest)) =
        (x.read .none m.right (w ++ rest)).map (Plain.prepend [c]) := by
      rw [read, isBlank_of_isNameChar hc, isBreak_of_isNameChar hc,
        Mark.after_of_not_isBreak (isBreak_of_isNameChar hc)]
      simp [Gap.isNone, endsBefore, hcolon, hbad, hend, Gap.none, Gap.text]
    rw [List.cons_append, hgo, ih fun d hd => hw d (List.mem_cons_of_mem _ hd), Mark.along_right,
      List.length_cons]
    cases x.read .none (m.along (w.length + 1)) rest <;> rfl

/-- The scalar ends before the colon of a key. -/
theorem read_colon (hx : x.inFlow = false) {r : List Char} (hr : atGap r = true) (m : Mark) :
    x.read .none m (':' :: r) = .ok ⟨[], false, m, ':' :: r⟩ := by
  have hblank : isBlank ':' = false := by decide
  have hbreak : isBreak ':' = false := by decide
  rw [read, hblank, hbreak]
  simp [Gap.isNone, Gap.none, endsBefore, hx, startsValue, hr, Gap.isBroken]

/-- Blanks at the start of a line are passed. -/
theorem read_blanks {first : Option Char} {more : List Char} (rest : List Char) (n : Nat) :
    ∀ m, x.read (.breaks first more) m (List.replicate n ' ' ++ rest) =
      x.read (.breaks first more) (m.along n) rest := by
  induction n with
  | zero => intro m; rfl
  | succ n ih =>
    intro m
    have hblank : isBlank ' ' = true := by decide
    have hafter : m.after ' ' = m.right := Mark.after_of_not_isBreak (by decide) m
    rw [List.replicate_succ, List.cons_append, read, hblank, hafter]
    simp [Gap.blank, ih, Mark.along_right]

/-- The scalar ends with its line if a word stands further left on the next one. -/
theorem read_line_end (hx : x.inFlow = false) {n : Nat} {r : List Char} {c : Char}
    (hn : n < x.floor) (hc : isNameChar c = true) (m : Mark) :
    x.read .none m ('\n' :: (List.replicate n ' ' ++ c :: r)) =
      .ok ⟨[], true, ⟨m.line + 1, n⟩, c :: r⟩ := by
  have hblank : isBlank '\n' = false := by decide
  have hbreak : isBreak '\n' = true := by decide
  have hmark : (m.after '\n').along n = ⟨m.line + 1, n⟩ := by
    simp [Mark.after, hbreak, Mark.newline, Mark.along]
  rw [read, hblank, hbreak]
  simp only [Gap.broken, Gap.none, Bool.false_eq_true, if_false, if_true]
  rw [read_blanks, hmark, read, isBlank_of_isNameChar hc, isBreak_of_isNameChar hc]
  simp [Gap.isNone, Gap.none, wordIsOutside, hx, hn, Gap.isBroken]

/-- The scalar ends with the text. -/
theorem read_text_end (m : Mark) :
    x.read .none m ['\n'] = .ok ⟨[], true, ⟨m.line + 1, 0⟩, []⟩ := by
  have hblank : isBlank '\n' = false := by decide
  have hbreak : isBreak '\n' = true := by decide
  rw [read, hblank, hbreak]
  simp [Gap.broken, Gap.none, read, Gap.isBroken, Mark.after, hbreak, Mark.newline]

end PlainContext

/-! ## Gaps between tokens -/

/-- A character that no gap is made of, and that starts no comment. -/
structure Visible (c : Char) : Prop where
  notBlank : isBlank c = false
  notBreak : isBreak c = false
  notComment : c ≠ '#'
  notMark : c ≠ byteOrderMark

theorem visible_of_isNameChar {c : Char} (hc : isNameChar c = true) : Visible c where
  notBlank := isBlank_of_isNameChar hc
  notBreak := isBreak_of_isNameChar hc
  notComment := ne_of_isNameChar hc (by decide)
  notMark := ne_of_isNameChar hc (by decide)

theorem visible_colon : Visible ':' := by constructor <;> decide

namespace Spot

theorem skip_blanks {p : Char → Bool} (hp : p ' ' = true) {c : Char} (hc : p c = false)
    (r : List Char) (n : Nat) : ∀ m : Mark,
    skip ⟨m, List.replicate n ' ' ++ c :: r⟩ p = ⟨m.along n, c :: r⟩ := by
  unfold skip span
  induction n with
  | zero =>
    intro m
    simp [spanFrom, hc, Mark.along]
  | succ n ih =>
    intro m
    have hafter : m.after ' ' = m.right := Mark.after_of_not_isBreak (by decide) m
    have hrest := ih m.right
    rw [Mark.along_right] at hrest
    simp [List.replicate_succ, spanFrom, hp, hafter, hrest]

end Spot

namespace Scan

/-- Nothing is passed before a character that no gap is made of but the blanks before it. -/
theorem skipGaps_visible {s : Scan} {m : Mark} {n : Nat} {c : Char} {r : List Char}
    (hs : s.spot = ⟨m, List.replicate n ' ' ++ c :: r⟩) (hc : Visible c) (fuel : Nat) :
    skipGaps (fuel + 1) s = { s with spot := ⟨m.along n, c :: r⟩ } := by
  have hmark : s.spot.startsWith byteOrderMark = false := by
    rw [hs]
    cases n with
    | zero => simp [Spot.startsWith, hc.notMark]
    | succ n =>
      have hspace : ' ' ≠ byteOrderMark := by decide
      simp [Spot.startsWith, List.replicate_succ, hspace]
  have hspace : c ≠ ' ' := by
    rintro rfl
    cases hc.notBlank
  have htab : c ≠ '\t' := by
    rintro rfl
    cases hc.notBlank
  have hskip : s.spot.skip (fun d => d = ' ' || ((s.inFlow || !s.keyAllowed) && d = '\t')) =
      ⟨m.along n, c :: r⟩ := by
    rw [hs]
    exact Spot.skip_blanks (by simp) (by simp [hspace, htab]) r n m
  have hcomment : Spot.skipComment ⟨m.along n, c :: r⟩ = ⟨m.along n, c :: r⟩ := by
    simp [Spot.skipComment, Spot.startsWith, hc.notComment]
  rw [skipGaps]
  simp only [hmark, Bool.and_false, Bool.false_eq_true, if_false, hskip, hcomment, hc.notBreak]

/-! ## The next token -/

theorem startsMarker_of_ne {c d : Char} (h : c ≠ d) (r : List Char) :
    startsMarker d (c :: r) = false := by
  unfold startsMarker
  split
  · next heq =>
    cases heq
    simp [h]
  · rfl

theorem isIndicator_of_isNameChar {c : Char} (hc : isNameChar c = true) (hdash : c ≠ '-') :
    isIndicator c = false := by
  have hnone : ∀ d ∈ "-?:,[]\x7b\x7d#&*!|>'\"%@`".toList, (!isNameChar d || d == '-') = true :=
    List.all_eq_true.mp (by decide)
  unfold isIndicator
  rw [Bool.eq_false_iff]
  intro h
  have hnot := hnone c (List.contains_iff_mem.mp h)
  rw [hc, Bool.not_true, Bool.false_or] at hnot
  exact hdash (beq_iff_eq.mp hnot)

/-- A word is scanned as a plain scalar. -/
theorem scanToken_word {c : Char} (hc : isNameChar c = true) (hdash : c ≠ '-') (s : Scan)
    (r : List Char) : s.scanToken c r = s.scanPlain := by
  have hne : ∀ {d : Char}, isNameChar d = false → c ≠ d := fun hd => ne_of_isNameChar hc hd
  have hplain : s.startsPlain c r = true := by
    simp [startsPlain, isBlank_of_isNameChar hc, isBreak_of_isNameChar hc,
      isIndicator_of_isNameChar hc hdash]
  have hdot : startsMarker '.' (c :: r) = false := startsMarker_of_ne (hne (by decide)) r
  have hdashes : startsMarker '-' (c :: r) = false := startsMarker_of_ne hdash r
  unfold scanToken
  simp [hplain, hdot, hdashes, hdash, hne (d := '%') (by decide), hne (d := '[') (by decide),
    hne (d := '\x7b') (by decide), hne (d := ']') (by decide), hne (d := '\x7d') (by decide),
    hne (d := ',') (by decide), hne (d := '?') (by decide), hne (d := ':') (by decide),
    hne (d := '*') (by decide), hne (d := '&') (by decide), hne (d := '!') (by decide),
    hne (d := '|') (by decide), hne (d := '>') (by decide), hne (d := '\'') (by decide),
    hne (d := '"') (by decide)]

/-- A colon between brackets or before a gap is scanned as that of a value. -/
theorem scanToken_colon {s : Scan} {r : List Char} (h : (s.inFlow || atGap r) = true) :
    s.scanToken ':' r = s.scanValue := by
  have hdot : startsMarker '.' (':' :: r) = false := startsMarker_of_ne (by decide) r
  have hdashes : startsMarker '-' (':' :: r) = false := startsMarker_of_ne (by decide) r
  unfold scanToken
  rw [h]
  simp [hdot, hdashes]

/-- No block is closed by a token in it. -/
theorem closeBlocksTo_of_le {s : Scan} {column : Nat}
    (h : ∀ i, s.indents.head? = some i → i ≤ column) : s.closeBlocksTo column = s := by
  unfold closeBlocksTo closeBlocks
  split
  · rfl
  · cases hindents : s.indents with
    | nil =>
      obtain ⟨⟩ := s
      cases hindents
      simp
    | cons i is =>
      have hi : ¬ column < i := Nat.not_lt.mpr (h i (by rw [hindents]; rfl))
      obtain ⟨⟩ := s
      cases hindents
      simp [hi]

/-- The next token of the text starts at the next character that no gap is made of. -/
theorem scanNext_visible {s : Scan} {m : Mark} {n : Nat} {c : Char} {r : List Char}
    (hs : s.spot = ⟨m, List.replicate n ' ' ++ c :: r⟩) (hc : Visible c)
    (hfresh : refresh { s with spot := ⟨m.along n, c :: r⟩ } =
      .ok { s with spot := ⟨m.along n, c :: r⟩ })
    (hblock : ∀ i, s.indents.head? = some i → i ≤ m.column + n) :
    s.scanNext = scanToken { s with spot := ⟨m.along n, c :: r⟩ } c r := by
  have hclose : closeBlocksTo { s with spot := ⟨m.along n, c :: r⟩ } (m.along n).column =
      { s with spot := ⟨m.along n, c :: r⟩ } := closeBlocksTo_of_le hblock
  unfold scanNext
  rw [skipGaps_visible hs hc]
  simp only [hfresh, bind, Except.bind, hclose]

/-- A plain scalar, once it is known whether a key may begin with it. -/
theorem scanPlain_eq {s t : Scan} {p : Plain} (hsave : s.saveKey = .ok t)
    (hread : PlainContext.read ⟨t.inFlow, t.floor, t.spot.mark⟩ .none t.spot.mark t.spot.rest =
      .ok p) :
    s.scanPlain = .ok { t.add (.scalar .plain (String.ofList p.text)) t.spot.mark with
      spot := p.after, keyAllowed := p.isBroken } := by
  unfold scanPlain
  rw [hsave]
  simp only [bind, Except.bind, hread]
  rfl

/-! ## Keys and values -/

/-- A scan outside brackets, where no key has begun. -/
def idle (spot : Spot) (indents : List Nat) (keyAllowed : Bool) (handed : Nat)
    (queue : List Token) : Scan := { spot, indents, keyAllowed, handed, queue }

theorem refresh_idle (spot : Spot) (indents : List Nat) (keyAllowed : Bool) (handed : Nat)
    (queue : List Token) : (idle spot indents keyAllowed handed queue).refresh =
      .ok (idle spot indents keyAllowed handed queue) := rfl

/-- The scan behind a word that may be a key. -/
def behindKey (w : List Char) (m : Mark) (r : List Char) (indents : List Nat) (handed : Nat) :
    Scan where
  spot := ⟨m.along w.length, ':' :: r⟩
  indents := indents
  key := some ⟨decide (indents.head? = some m.column), handed, m⟩
  keyAllowed := false
  handed := handed
  queue := [⟨.scalar .plain (String.ofList w), m⟩]

variable {w r : List Char} {m : Mark} {indents : List Nat} {handed : Nat}

/-- A word before a colon waits, as it may be a key. -/
theorem scanNext_key (hw : Word w) (hr : atGap r = true)
    (hblock : ∀ i, indents.head? = some i → i ≤ m.column) :
    (idle ⟨m, w ++ ':' :: r⟩ indents true handed []).scanNext =
      .ok (behindKey w m r indents handed) := by
  obtain ⟨c, w', rfl, hdash⟩ := hw.start
  have hc : isNameChar c = true := hw.chars c List.mem_cons_self
  have hsave : saveKey (idle ⟨m, c :: w' ++ ':' :: r⟩ indents true handed []) = .ok
      { idle ⟨m, c :: w' ++ ':' :: r⟩ indents true handed [] with
        key := some ⟨decide (indents.head? = some m.column), handed, m⟩ } := rfl
  rw [scanNext_visible (n := 0) rfl (visible_of_isNameChar hc) rfl hblock,
    scanToken_word hc hdash]
  refine scanPlain_eq (p := ⟨c :: w', false, ⟨m.along (c :: w').length, ':' :: r⟩⟩) hsave ?_
  show PlainContext.read _ .none m (c :: w' ++ ':' :: r) = _
  rw [PlainContext.read_word hw.chars, PlainContext.read_colon rfl hr]
  simp [Except.map, Plain.prepend]

/-- The tokens of a key: its sign, which no character stands for, the word, and the colon. -/
def keyTokens (w : List Char) (m : Mark) : List Token :=
  [⟨.key, m⟩, ⟨.scalar .plain (String.ofList w), m⟩, ⟨.value, m.along w.length⟩]

theorem kind_keyTokens : ∀ t ∈ keyTokens w m, t.kind ≠ .streamEnd := by
  simp [keyTokens]

/-- A word is remembered up to the colon, if it is not too long. -/
theorem refresh_behindKey (hlength : w.length ≤ longestKey) :
    refresh (behindKey w m r indents handed) = .ok (behindKey w m r indents handed) := by
  have hfresh : isStale (behindKey w m r indents handed)
      ⟨decide (indents.head? = some m.column), handed, m⟩ = false := by
    have hcolumn : ¬ m.column + longestKey < m.column + w.length := by omega
    simp [isStale, behindKey, Mark.along, hcolumn]
  unfold refresh
  simp only [behindKey] at hfresh ⊢
  simp [refreshed, hfresh, bind, Except.bind, pure, Except.pure]

theorem scanNext_colon (hlength : w.length ≤ longestKey) (hr : atGap r = true)
    (hblock : ∀ i, indents.head? = some i → i ≤ m.column) :
    (behindKey w m r indents handed).scanNext = (behindKey w m r indents handed).scanValue := by
  have hblock' : ∀ i, indents.head? = some i → i ≤ (m.along w.length).column + 0 := by
    intro i hi
    have hle := hblock i hi
    simp only [Mark.along]
    omega
  have hscan : (behindKey w m r indents handed).scanNext =
      (behindKey w m r indents handed).scanToken ':' r :=
    scanNext_visible (s := behindKey w m r indents handed) (n := 0) rfl visible_colon
      (refresh_behindKey hlength) hblock'
  rw [hscan, scanToken_colon (by simp [hr])]

/-- A token is put in front of some of those that wait. -/
theorem addAt_append {s : Scan} {number : Nat} (front back : List Token)
    (hqueue : s.queue = front ++ back) (hnumber : number = s.handed + front.length)
    (kind : TokenKind) (mark : Mark) :
    s.addAt number kind mark = { s with queue := front ++ ⟨kind, mark⟩ :: back } := by
  have hinsert : ∀ ts : List Token, (ts ++ back).insertIdx ts.length ⟨kind, mark⟩ =
      ts ++ ⟨kind, mark⟩ :: back := by
    intro ts
    induction ts with
    | nil => rfl
    | cons t ts ih => rw [List.cons_append, List.length_cons, List.insertIdx_succ_cons, ih]; rfl
  rw [addAt, hnumber, Nat.add_sub_cancel_left, hqueue, hinsert]

theorem addAt_handed (s : Scan) (kind : TokenKind) (mark : Mark) :
    s.addAt s.handed kind mark = { s with queue := ⟨kind, mark⟩ :: s.queue } :=
  addAt_append [] _ rfl rfl kind mark

theorem openBlockAt_inside {s : Scan} {k : KeyStart} (h : s.opensBlock k.mark.column = false) :
    s.openBlockAt k = s := by
  rw [openBlockAt, if_neg]
  simp [h]

theorem openBlockAt_outside {s : Scan} {k : KeyStart} (h : s.opensBlock k.mark.column = true)
    (hnumber : k.number = s.handed) :
    s.openBlockAt k = { s with
      queue := ⟨.blockMappingStart, k.mark⟩ :: s.queue
      indents := k.mark.column :: s.indents } := by
  rw [openBlockAt, if_pos h, hnumber, addAt_handed]

/-- The colon of a key that stands in its block. -/
theorem scanValue_inside (h : indents.head? = some m.column) :
    (behindKey w m r indents handed).scanValue =
      .ok (idle ⟨m.along (w.length + 1), r⟩ indents false handed (keyTokens w m)) := by
  have hkey := addAt_handed (behindKey w m r indents handed) .key m
  have hinside : opensBlock { behindKey w m r indents handed with
      queue := ⟨.key, m⟩ :: (behindKey w m r indents handed).queue } m.column = false := by
    obtain ⟨is, rfl⟩ := List.head?_eq_some_iff.mp h
    simp [opensBlock, behindKey]
  unfold scanValue
  show Except.ok (addIndicator { (openBlockAt ((behindKey w m r indents handed).addAt handed .key m)
    ⟨decide (indents.head? = some m.column), handed, m⟩) with key := none, keyAllowed := false }
    .value) = _
  rw [show (behindKey w m r indents handed).addAt handed .key m = _ from hkey,
    openBlockAt_inside hinside]
  rfl

/-- The colon of the first key of a block. -/
theorem scanValue_outside (h : ∀ i, indents.head? = some i → i < m.column) :
    (behindKey w m r indents handed).scanValue =
      .ok (idle ⟨m.along (w.length + 1), r⟩ (m.column :: indents) false handed
        (⟨.blockMappingStart, m⟩ :: keyTokens w m)) := by
  have hkey := addAt_handed (behindKey w m r indents handed) .key m
  have houtside : opensBlock { behindKey w m r indents handed with
      queue := ⟨.key, m⟩ :: (behindKey w m r indents handed).queue } m.column = true := by
    cases indents with
    | nil => simp [opensBlock, behindKey, inFlow]
    | cons i is => simp [opensBlock, behindKey, inFlow, h i rfl]
  unfold scanValue
  show Except.ok (addIndicator { (openBlockAt ((behindKey w m r indents handed).addAt handed .key m)
    ⟨decide (indents.head? = some m.column), handed, m⟩) with key := none, keyAllowed := false }
    .value) = _
  rw [show (behindKey w m r indents handed).addAt handed .key m = _ from hkey,
    openBlockAt_outside houtside rfl]
  rfl

/-- A word behind a key, up to the next line; there a key may begin. -/
theorem scanNext_value (hw : Word w) {i : Nat} {rest : List Char} {after : Spot}
    (hread : ∀ start, PlainContext.read ⟨false, i + 1, start⟩ .none (m.right.along w.length)
      ('\n' :: rest) = .ok ⟨[], true, after⟩) (hcolumn : i ≤ m.column) :
    (idle ⟨m, ' ' :: (w ++ '\n' :: rest)⟩ (i :: indents) false handed []).scanNext =
      .ok (idle after (i :: indents) true handed [⟨.scalar .plain (String.ofList w), m.right⟩]) := by
  obtain ⟨c, w', rfl, hdash⟩ := hw.start
  have hc : isNameChar c = true := hw.chars c List.mem_cons_self
  have hblock : ∀ j, (i :: indents).head? = some j → j ≤ m.column + 1 := by
    rintro j ⟨⟩
    omega
  rw [scanNext_visible (n := 1) rfl (visible_of_isNameChar hc) rfl hblock,
    scanToken_word hc hdash]
  refine scanPlain_eq (t := idle ⟨m.right, c :: w' ++ '\n' :: rest⟩ (i :: indents) false handed [])
    (p := ⟨c :: w', true, after⟩) rfl ?_
  show PlainContext.read _ .none m.right (c :: w' ++ '\n' :: rest) = _
  rw [PlainContext.read_word hw.chars]
  show Except.map _ (PlainContext.read ⟨false, i + 1, m.right⟩ .none _ _) = _
  rw [hread]
  simp [Except.map, Plain.prepend]

/-! ## Tokens, handed out one after the other -/

/-- From the first state these tokens are handed out, and then the scan is in the second one.  The
    steps that this takes are bounded by the tokens. -/
def Hands (s : Scan) (ts : List Token) (t : Scan) : Prop :=
  ∃ n, n ≤ 2 * ts.length ∧ ∀ fuel, tokens (fuel + n) s =
    ⟨ts ++ (tokens fuel t).items, (tokens fuel t).fault⟩

theorem Hands.trans {s t u : Scan} {ts us : List Token} (h : Hands s ts t) (h' : Hands t us u) :
    Hands s (ts ++ us) u := by
  obtain ⟨n, hn, hs⟩ := h
  obtain ⟨n', hn', ht⟩ := h'
  refine ⟨n' + n, ?_, ?_⟩
  · rw [List.length_append]
    omega
  · intro fuel
    rw [← Nat.add_assoc, hs, ht, List.append_assoc]

/-- States from which the next scan is the same hand out the same. -/
theorem hands_of_scanNext {s t : Scan} (hs : s.queue = []) (ht : t.queue = [])
    (h : s.scanNext = t.scanNext) : Hands s [] t := by
  refine ⟨0, Nat.zero_le _, ?_⟩
  intro fuel
  cases fuel with
  | zero => rfl
  | succ fuel =>
    rw [Nat.add_zero, tokens, tokens, hs, ht, h]
    rfl

/-- One step that hands out nothing. -/
theorem tokens_scan {s t : Scan} (hs : s.queue = []) (h : s.scanNext = .ok t) (fuel : Nat) :
    tokens (fuel + 1) s = tokens fuel t := by
  rw [tokens, hs]
  simp only [h]

theorem tokens_hand (spot : Spot) (indents : List Nat) (keyAllowed : Bool) (handed : Nat)
    {t : Token} (queue : List Token) (ht : t.kind ≠ .streamEnd) (fuel : Nat) :
    tokens (fuel + 1) (idle spot indents keyAllowed handed (t :: queue)) =
      (tokens fuel (idle spot indents keyAllowed (handed + 1) queue)).cons t := by
  have hhead : (idle spot indents keyAllowed handed (t :: queue)).headMayBeKey = false := rfl
  rw [tokens]
  simp only [refresh_idle, hhead]
  simp [idle, ht]

/-- Tokens that wait are handed out if no key has begun; here those in front of `more`. -/
theorem tokens_queue (spot : Spot) (indents : List Nat) (keyAllowed : Bool) (more : List Token)
    (queue : List Token) (hqueue : ∀ t ∈ queue, t.kind ≠ .streamEnd) : ∀ (handed fuel : Nat),
    tokens (fuel + queue.length) (idle spot indents keyAllowed handed (queue ++ more)) =
      ⟨queue ++ (tokens fuel (idle spot indents keyAllowed (handed + queue.length) more)).items,
        (tokens fuel (idle spot indents keyAllowed (handed + queue.length) more)).fault⟩ := by
  induction queue with
  | nil => intro handed fuel; rfl
  | cons t queue ih =>
    intro handed fuel
    have ht : t.kind ≠ .streamEnd := hqueue t List.mem_cons_self
    have hrest := ih (fun u hu => hqueue u (List.mem_cons_of_mem _ hu)) (handed + 1) fuel
    have hhanded : handed + 1 + queue.length = handed + (queue.length + 1) := by omega
    rw [List.length_cons, ← Nat.add_assoc, List.cons_append, tokens_hand _ _ _ _ _ ht, hrest,
      hhanded]
    rfl

/-- All tokens that wait are handed out. -/
theorem tokens_whole_queue (spot : Spot) (indents : List Nat) (keyAllowed : Bool)
    {queue : List Token} (hqueue : ∀ t ∈ queue, t.kind ≠ .streamEnd) (handed fuel : Nat) :
    tokens (fuel + queue.length) (idle spot indents keyAllowed handed queue) =
      ⟨queue ++ (tokens fuel (idle spot indents keyAllowed (handed + queue.length) [])).items,
        (tokens fuel (idle spot indents keyAllowed (handed + queue.length) [])).fault⟩ := by
  have hall := tokens_queue spot indents keyAllowed [] queue hqueue handed fuel
  rwa [List.append_nil] at hall

/-- A scan that leaves tokens waiting, none of which may be a key. -/
theorem hands_of_idle {s : Scan} {spot : Spot} {indents : List Nat} {keyAllowed : Bool}
    {handed : Nat} {queue : List Token} (hs : s.queue = [])
    (h : s.scanNext = .ok (idle spot indents keyAllowed handed queue)) (hne : queue ≠ [])
    (hqueue : ∀ t ∈ queue, t.kind ≠ .streamEnd) :
    Hands s queue (idle spot indents keyAllowed (handed + queue.length) []) := by
  have hpos := List.length_pos_iff.mpr hne
  refine ⟨queue.length + 1, by omega, ?_⟩
  intro fuel
  rw [← Nat.add_assoc, tokens_scan hs h, tokens_whole_queue _ _ _ hqueue]

/-! ## Lines -/

/-- A key and its colon; `queue` are their tokens, with the start of a block if one is opened. -/
theorem hands_key {indents' : List Nat} {queue : List Token} (hw : Word w)
    (hlength : w.length ≤ longestKey) (hr : atGap r = true)
    (hblock : ∀ i, indents.head? = some i → i ≤ m.column)
    (hvalue : (behindKey w m r indents handed).scanValue =
      .ok (idle ⟨m.along (w.length + 1), r⟩ indents' false handed queue))
    (hqueue : 2 ≤ queue.length ∧ ∀ t ∈ queue, t.kind ≠ .streamEnd) :
    Hands (idle ⟨m, w ++ ':' :: r⟩ indents true handed []) queue
      (idle ⟨m.along (w.length + 1), r⟩ indents' false (handed + queue.length) []) := by
  obtain ⟨hlong, hqueue⟩ := hqueue
  refine ⟨queue.length + 2, by omega, ?_⟩
  intro fuel
  have hfirst : (idle ⟨m, w ++ ':' :: r⟩ indents true handed []).scanNext =
      .ok (behindKey w m r indents handed) := scanNext_key hw hr hblock
  have hhead : (behindKey w m r indents handed).headMayBeKey = true := by
    simp [headMayBeKey, behindKey]
  have hlook : tokens (fuel + queue.length + 1) (behindKey w m r indents handed) =
      tokens (fuel + queue.length)
        (idle ⟨m.along (w.length + 1), r⟩ indents' false handed queue) := by
    rw [tokens]
    simp only [refresh_behindKey hlength, hhead, if_true, scanNext_colon hlength hr hblock, hvalue]
    rfl
  rw [← Nat.add_assoc, show fuel + queue.length + 2 = fuel + queue.length + 1 + 1 from rfl,
    tokens_scan rfl hfirst, hlook, tokens_whole_queue _ _ _ hqueue]

/-- Blanks before a token may as well have been passed. -/
theorem scanNext_blanks {line n : Nat} {c : Char} (hc : Visible c) :
    (idle ⟨⟨line, 0⟩, List.replicate n ' ' ++ c :: r⟩ indents true handed []).scanNext =
      (idle ⟨⟨line, n⟩, c :: r⟩ indents true handed []).scanNext := by
  have hmark : (⟨line, 0⟩ : Mark).along n = ⟨line, n⟩ := by simp [Mark.along]
  unfold scanNext
  rw [skipGaps_visible (n := n) rfl hc, skipGaps_visible (n := 0) rfl hc, hmark]
  rfl

/-- So may a line break, behind which a key is allowed. -/
theorem hands_break {rest : List Char} {keyAllowed : Bool} :
    Hands (idle ⟨m, '\n' :: rest⟩ indents keyAllowed handed []) []
      (idle ⟨⟨m.line + 1, 0⟩, rest⟩ indents true handed []) := by
  have hmark : (idle ⟨m, '\n' :: rest⟩ indents keyAllowed handed []).spot.startsWith
      byteOrderMark = false := by
    have hne : '\n' ≠ byteOrderMark := by decide
    simp [idle, Spot.startsWith, hne]
  have hgap : skipGaps (rest.length + 1 + 1)
      (idle ⟨m, '\n' :: rest⟩ indents keyAllowed handed []) =
      skipGaps (rest.length + 1) (idle ⟨⟨m.line + 1, 0⟩, rest⟩ indents true handed []) := by
    rw [skipGaps]
    simp only [hmark, Bool.and_false, Bool.false_eq_true, if_false]
    simp [idle, Spot.skip, Spot.span, Spot.spanFrom, Spot.skipComment, Spot.startsWith, isBreak,
      inFlow, Spot.next, Mark.after, Mark.newline]
  refine hands_of_scanNext rfl rfl ?_
  unfold scanNext
  show (skipGaps (rest.length + 1 + 1) _).refresh >>= _ =
    (skipGaps (rest.length + 1) _).refresh >>= _
  rw [hgap]

/-- What may follow a line in a block at this column: the end of the text, or a line that is not
    further right. -/
def Continues (column : Nat) (rest : List Char) : Prop :=
  rest = [] ∨ ∃ n, n ≤ column ∧ Indented n rest

/-- The word that is the value of a key. -/
theorem hands_value (hw : Word w) {i : Nat} (hcolumn : i ≤ m.column) {rest : List Char}
    (hrest : Continues i rest) :
    Hands (idle ⟨m, ' ' :: (w ++ '\n' :: rest)⟩ (i :: indents) false handed [])
      [⟨.scalar .plain (String.ofList w), m.right⟩]
      (idle ⟨⟨m.line + 1, 0⟩, rest⟩ (i :: indents) true (handed + 1) []) := by
  have hkind : ∀ t ∈ [(⟨.scalar .plain (String.ofList w), m.right⟩ : Token)],
      t.kind ≠ .streamEnd := by
    intro t ht
    rw [List.mem_singleton.mp ht]
    intro hc
    cases hc
  rcases hrest with rfl | ⟨n, hn, c, r, rfl, hc, _⟩
  · refine hands_of_idle rfl (scanNext_value hw ?_ hcolumn) (List.cons_ne_nil _ _) hkind
    intro start
    exact PlainContext.read_text_end _
  · have hscalar : Hands
        (idle ⟨m, ' ' :: (w ++ '\n' :: (List.replicate n ' ' ++ c :: r))⟩ (i :: indents) false
          handed [])
        [⟨.scalar .plain (String.ofList w), m.right⟩]
        (idle ⟨⟨m.line + 1, n⟩, c :: r⟩ (i :: indents) true (handed + 1) []) :=
      hands_of_idle rfl (scanNext_value hw
        (fun start => PlainContext.read_line_end rfl (Nat.lt_succ_of_le hn) hc _) hcolumn)
        (List.cons_ne_nil _ _) hkind
    exact hscalar.trans
      (hands_of_scanNext rfl rfl (scanNext_blanks (visible_of_isNameChar hc)).symm)

end Scan

/-! ## Mappings of words -/

/-- A key, the word that is its value, and a line that gives the key this value. -/
structure WordEntry where
  key : List Char
  word : List Char

namespace WordEntry

/-- Both are words, and the key is short enough to be told by its colon. -/
structure Valid (e : WordEntry) : Prop where
  key : Word e.key
  word : Word e.word
  length : e.key.length ≤ longestKey

/-- The line of the entry, in a block at this column. -/
def line (column : Nat) (e : WordEntry) : List Char :=
  List.replicate column ' ' ++ (e.key ++ ':' :: ' ' :: (e.word ++ ['\n']))

/-- The place of the value in a line that starts at this place. -/
def wordMark (m : Mark) (e : WordEntry) : Mark := m.along (e.key.length + 2)

/-- The tokens of the entry. -/
def tokens (m : Mark) (e : WordEntry) : List Token :=
  Scan.keyTokens e.key m ++ [⟨.scalar .plain (String.ofList e.word), e.wordMark m⟩]

/-- The tokens of entries that stand line by line. -/
def allTokens (column : Nat) : Nat → List WordEntry → List Token
  | _, [] => []
  | n, e :: es => e.tokens ⟨n, column⟩ ++ allTokens column (n + 1) es

theorem length_allTokens (column : Nat) (es : List WordEntry) : ∀ line,
    (allTokens column line es).length = 4 * es.length := by
  induction es with
  | nil => exact fun _ => rfl
  | cons e es ih =>
    intro line
    rw [allTokens, List.length_append, ih, List.length_cons]
    simp only [tokens, Scan.keyTokens, List.length_append, List.length_cons,
      List.length_nil]
    omega

theorem length_lines (column : Nat) (es : List WordEntry) :
    3 * es.length ≤ (es.flatMap (·.line column)).length := by
  induction es with
  | nil => exact Nat.le_refl _
  | cons e es ih =>
    have hline : 3 ≤ (e.line column).length := by
      simp only [line, List.length_append, List.length_cons, List.length_nil]
      omega
    rw [List.flatMap_cons, List.length_append, List.length_cons]
    omega

theorem Valid.continues {e : WordEntry} (h : e.Valid) (column : Nat) (rest : List Char) :
    Scan.Continues column (e.line column ++ rest) := by
  obtain ⟨c, key, hkey, hdash⟩ := h.key.start
  refine Or.inr ⟨column, Nat.le_refl _, c, key ++ ':' :: ' ' :: (e.word ++ '\n' :: rest), ?_,
    h.key.chars c (hkey ▸ List.mem_cons_self), hdash⟩
  simp [line, hkey]

end WordEntry

namespace Scan

variable {indents : List Nat}

/-- A line at its start. -/
def atLine (line : Nat) (rest : List Char) (indents : List Nat) (handed : Nat) : Scan :=
  idle ⟨⟨line, 0⟩, rest⟩ indents true handed []

theorem hands_indentation {line column handed : Nat} {w : List Char} (hw : Word w)
    (r : List Char) :
    Hands (atLine line (List.replicate column ' ' ++ (w ++ r)) indents handed) []
      (idle ⟨⟨line, column⟩, w ++ r⟩ indents true handed []) := by
  obtain ⟨c, w', rfl, _⟩ := hw.start
  have hc : Visible c := visible_of_isNameChar (hw.chars c List.mem_cons_self)
  exact hands_of_scanNext rfl rfl (scanNext_blanks hc)

/-- The line of an entry, once it is known what the colon does to the blocks. -/
theorem hands_line_of_value {e : WordEntry} (he : e.Valid) {line column handed : Nat}
    {rest : List Char} {is : List Nat} {queue : List Token}
    (hblock : ∀ i, indents.head? = some i → i ≤ column) (hrest : Continues column rest)
    (hvalue : ∀ r, (behindKey e.key ⟨line, column⟩ r indents handed).scanValue =
      .ok (idle ⟨(⟨line, column⟩ : Mark).along (e.key.length + 1), r⟩ (column :: is) false handed
        queue))
    (hqueue : 2 ≤ queue.length ∧ ∀ t ∈ queue, t.kind ≠ .streamEnd) :
    Hands (atLine line (e.line column ++ rest) indents handed)
      (queue ++ [⟨.scalar .plain (String.ofList e.word), e.wordMark ⟨line, column⟩⟩])
      (atLine (line + 1) rest (column :: is) (handed + queue.length + 1)) := by
  have htext : e.line column ++ rest =
      List.replicate column ' ' ++ (e.key ++ ':' :: ' ' :: (e.word ++ '\n' :: rest)) := by
    simp [WordEntry.line]
  have hcolumn : column ≤ ((⟨line, column⟩ : Mark).along (e.key.length + 1)).column := by
    simp [Mark.along]
  have hkey := hands_key he.key he.length (m := ⟨line, column⟩)
    (r := ' ' :: (e.word ++ '\n' :: rest)) rfl hblock (hvalue _) hqueue
  rw [htext]
  exact (hands_indentation he.key _).trans (hkey.trans (hands_value he.word hcolumn hrest))

/-- **A line of a block** hands out the tokens of its entry. -/
theorem hands_line {e : WordEntry} (he : e.Valid) {column : Nat} {rest : List Char}
    (hrest : Continues column rest) (indents : List Nat) (line handed : Nat) :
    Hands (atLine line (e.line column ++ rest) (column :: indents) handed)
      (e.tokens ⟨line, column⟩) (atLine (line + 1) rest (column :: indents) (handed + 4)) := by
  refine hands_line_of_value he ?_ hrest (fun r => scanValue_inside rfl)
    ⟨by simp [keyTokens], kind_keyTokens⟩
  rintro i ⟨⟩
  exact Nat.le_refl _

/-- **The first line of a block** hands out the start of the block as well. -/
theorem hands_first_line {e : WordEntry} (he : e.Valid) {column : Nat} {rest : List Char}
    (houtside : ∀ i, indents.head? = some i → i < column) (hrest : Continues column rest)
    (line handed : Nat) :
    Hands (atLine line (e.line column ++ rest) indents handed)
      (⟨.blockMappingStart, ⟨line, column⟩⟩ :: e.tokens ⟨line, column⟩)
      (atLine (line + 1) rest (column :: indents) (handed + 5)) := by
  refine hands_line_of_value he (fun i hi => Nat.le_of_lt (houtside i hi)) hrest
    (fun r => scanValue_outside houtside) ⟨by simp [keyTokens], ?_⟩
  rintro t (_ | ⟨_, ht⟩)
  · intro hc
    cases hc
  · exact kind_keyTokens t ht

/-- Lines of a block continue it. -/
theorem continues_lines {column : Nat} {rest : List Char} (hrest : Continues column rest)
    {es : List WordEntry} (hes : ∀ e ∈ es, e.Valid) :
    Continues column (es.flatMap (·.line column) ++ rest) := by
  cases es with
  | nil => exact hrest
  | cons e es =>
    rw [List.flatMap_cons, List.append_assoc]
    exact (hes e List.mem_cons_self).continues column _

/-- All lines of a block, from one that is not the first. -/
theorem hands_lines {column : Nat} {rest : List Char} (hrest : Continues column rest)
    (indents : List Nat) (es : List WordEntry) (hes : ∀ e ∈ es, e.Valid) :
    ∀ line handed, ∃ handed',
    Hands (atLine line (es.flatMap (·.line column) ++ rest) (column :: indents) handed)
      (WordEntry.allTokens column line es)
      (atLine (line + es.length) rest (column :: indents) handed') := by
  induction es with
  | nil => exact fun line handed => ⟨handed, 0, Nat.le_refl _, fun fuel => rfl⟩
  | cons e es ih =>
    intro line handed
    have hothers : ∀ f ∈ es, f.Valid := fun f hf => hes f (List.mem_cons_of_mem _ hf)
    have hfirst := hands_line (hes e List.mem_cons_self) (continues_lines hrest hothers) indents
      line handed
    obtain ⟨handed', hlines⟩ := ih hothers (line + 1) (handed + 4)
    refine ⟨handed', ?_⟩
    rw [List.flatMap_cons, List.append_assoc, WordEntry.allTokens, List.length_cons,
      show line + (es.length + 1) = line + 1 + es.length by omega]
    exact hfirst.trans hlines

/-- **All lines of a block.** -/
theorem hands_block (indents : List Nat) (column : Nat) {rest : List Char}
    (hrest : Continues column rest) (houtside : ∀ i, indents.head? = some i → i < column)
    {es : List WordEntry} (hne : es ≠ []) (hes : ∀ e ∈ es, e.Valid) (line handed : Nat) : ∃ handed',
    Hands (atLine line (es.flatMap (·.line column) ++ rest) indents handed)
      (⟨.blockMappingStart, ⟨line, column⟩⟩ :: WordEntry.allTokens column line es)
      (atLine (line + es.length) rest (column :: indents) handed') := by
  cases es with
  | nil => exact absurd rfl hne
  | cons e es =>
    have hothers : ∀ f ∈ es, f.Valid := fun f hf => hes f (List.mem_cons_of_mem _ hf)
    have hfirst := hands_first_line (hes e List.mem_cons_self) houtside
      (continues_lines hrest hothers) line handed
    obtain ⟨handed', hlines⟩ := hands_lines hrest indents es hothers (line + 1) (handed + 5)
    refine ⟨handed', ?_⟩
    rw [List.flatMap_cons, List.append_assoc, WordEntry.allTokens, List.length_cons,
      show line + (es.length + 1) = line + 1 + es.length by omega]
    exact hfirst.trans hlines

/-- A key whose value stands on the lines below, which are not part of its block. -/
theorem hands_bare_key {w : List Char} (hw : Word w) (hlength : w.length ≤ longestKey)
    (indents : List Nat) (line column : Nat) (rest : List Char) (handed : Nat) :
    Hands (atLine line (List.replicate column ' ' ++ (w ++ ':' :: '\n' :: rest))
        (column :: indents) handed)
      (keyTokens w ⟨line, column⟩) (atLine (line + 1) rest (column :: indents) (handed + 3)) := by
  have hblock : ∀ i, (column :: indents).head? = some i → i ≤ column := by
    rintro i ⟨⟩
    exact Nat.le_refl _
  have hkey : Hands
      (idle ⟨⟨line, column⟩, w ++ ':' :: '\n' :: rest⟩ (column :: indents) true handed [])
      (keyTokens w ⟨line, column⟩)
      (idle ⟨(⟨line, column⟩ : Mark).along (w.length + 1), '\n' :: rest⟩ (column :: indents) false
        (handed + 3) []) :=
    hands_key hw hlength rfl hblock (scanValue_inside rfl) ⟨by simp [keyTokens], kind_keyTokens⟩
  have hall := (hands_indentation hw _).trans (hkey.trans hands_break)
  rwa [List.append_nil] at hall

/-- Closing blocks in two steps is closing all of them. -/
theorem closeAllBlocks_closeBlocksTo (indents : List Nat) (line column handed : Nat) :
    ((idle ⟨⟨line, 0⟩, []⟩ indents true handed []).closeBlocksTo column).closeAllBlocks =
      idle ⟨⟨line, 0⟩, []⟩ [] true handed (indents.map fun _ => ⟨.blockEnd, ⟨line, 0⟩⟩) := by
  have htake : ∀ is : List Nat, is.takeWhile (fun _ => true) = is :=
    fun is => List.takeWhile_eq_self_iff.mpr fun _ _ => rfl
  have hdrop : ∀ is : List Nat, is.dropWhile (fun _ => true) = [] :=
    fun is => List.dropWhile_eq_nil_iff.mpr fun _ _ => rfl
  simp only [closeAllBlocks, closeBlocksTo, closeBlocks, idle, inFlow, List.isEmpty_nil,
    Bool.not_true, Bool.false_eq_true, if_false, List.nil_append, htake, hdrop]
  rw [← List.map_append, List.takeWhile_append_dropWhile]

/-- The end of the text ends all blocks. -/
theorem tokens_end (line handed fuel : Nat) :
    tokens (fuel + indents.length + 2) (atLine line [] indents handed) =
      ⟨indents.map (fun _ => ⟨.blockEnd, ⟨line, 0⟩⟩) ++ [⟨.streamEnd, ⟨line, 0⟩⟩], none⟩ := by
  have hclose := closeAllBlocks_closeBlocksTo indents line 0 handed
  have hscan : (atLine line [] indents handed).scanNext =
      .ok (idle ⟨⟨line, 0⟩, []⟩ [] false handed
        (indents.map (fun _ => ⟨.blockEnd, ⟨line, 0⟩⟩) ++ [⟨.streamEnd, ⟨line, 0⟩⟩])) := by
    show (((idle ⟨⟨line, 0⟩, []⟩ indents true handed []).closeBlocksTo 0).closeAllBlocks.dropKey
      >>= fun s => pure (add { s with keyAllowed := false } .streamEnd s.spot.mark)) = _
    rw [hclose]
    rfl
  have hends : ∀ t ∈ indents.map fun _ => (⟨.blockEnd, ⟨line, 0⟩⟩ : Token),
      t.kind ≠ .streamEnd := by
    intro t ht
    obtain ⟨_, _, rfl⟩ := List.mem_map.mp ht
    intro hc
    cases hc
  have hqueue := tokens_queue ⟨⟨line, 0⟩, []⟩ [] false [⟨.streamEnd, ⟨line, 0⟩⟩] _ hends handed
    (fuel + 1)
  rw [List.length_map] at hqueue
  rw [show fuel + indents.length + 2 = fuel + 1 + indents.length + 1 by omega,
    tokens_scan rfl hscan, hqueue, tokens]
  rfl

/-- The tokens of a text from what it hands out line by line. -/
theorem tokensOf_of_hands {text : List Char} {ts : List Token} {line handed : Nat}
    (h : Hands (atLine 0 text [] 0) ts (atLine line [] indents handed))
    (hfuel : 2 * ts.length + indents.length + 2 ≤ scanSteps text) :
    tokensOf text = ⟨ts ++ (indents.map (fun _ => ⟨.blockEnd, ⟨line, 0⟩⟩) ++
      [⟨.streamEnd, ⟨line, 0⟩⟩]), none⟩ := by
  obtain ⟨n, hn, hs⟩ := h
  obtain ⟨fuel, hfuel⟩ : ∃ fuel, scanSteps text = fuel + indents.length + 2 + n :=
    ⟨scanSteps text - (indents.length + 2 + n), by omega⟩
  show tokens (scanSteps text) (atLine 0 text [] 0) = _
  rw [hfuel, hs, tokens_end]

end Scan
end Yaml
end SampleSchema
