/-
  From a text that gives words to keys to the nodes that it stands for.

  `BlockTokens` ends with the tokens of such a text.  Here they are followed through the grammar and
  the gathering of nodes:

  1. **Tokens to nodes** (`Grammar.Tells`).  With some frames on the stack tokens tell the parts of
     nodes, whatever comes behind them.  As for scans the relation is transitive, and its steps are
     bounded by the tokens.  A part tells a node as it is, unless there is an anchor or an alias
     (`Document.run_nodes`), so from here on only nodes are spoken of.

  2. **The document of a text** (`Document.ofText_of_tells`).  A text of printed characters needs no
     preparation for the scan, and if its tokens tell the inside of a mapping, this mapping is its
     document.

  3. **Words by keys** (`Nested.Valid.ofText`).  A `Nested` is a mapping of words with one more key,
     whose value is a mapping of words; settings are written like this.
-/
import SampleSchema.Proofs.BlockTokens
import SampleSchema.Proofs.Records

namespace SampleSchema
namespace Yaml

/-! ## Nodes of a block -/

/-- A word as a node. -/
def wordNode (w : List Char) (m : Mark) : Node := ⟨.scalar ⟨none, .plain, String.ofList w⟩, m⟩

/-- The part that tells a node without anchor. -/
def Node.part (n : Node) : Part :=
  match n.kind with
  | .missing | .alias _ => .absent n.mark
  | .scalar s => ⟨.scalar { tag := s.tag } s.style s.text, n.mark⟩
  | .sequenceStart => ⟨.sequenceStart {}, n.mark⟩
  | .sequenceEnd => ⟨.sequenceEnd, n.mark⟩
  | .mappingStart => ⟨.mappingStart {}, n.mark⟩
  | .mappingEnd => ⟨.mappingEnd, n.mark⟩

/-- Is the node one that a part tells by itself? -/
def Node.IsTold (n : Node) : Prop := n.kind ≠ .missing ∧ ∀ i, n.kind ≠ .alias i

theorem isTold_scalar (s : Scalar) (m : Mark) : Node.IsTold ⟨.scalar s, m⟩ := by
  simp [Node.IsTold]

theorem isTold_mappingStart (m : Mark) : Node.IsTold ⟨.mappingStart, m⟩ := by
  simp [Node.IsTold]

theorem isTold_mappingEnd (m : Mark) : Node.IsTold ⟨.mappingEnd, m⟩ := by
  simp [Node.IsTold]

namespace WordEntry

/-- The nodes of an entry. -/
def nodes (m : Mark) (e : WordEntry) : List Node :=
  [wordNode e.key m, wordNode e.word (e.wordMark m)]

/-- The nodes of entries that stand line by line. -/
def allNodes (column : Nat) : Nat → List WordEntry → List Node
  | _, [] => []
  | n, e :: es => e.nodes ⟨n, column⟩ ++ allNodes column (n + 1) es

end WordEntry

namespace Grammar

/-- With these frames these tokens tell the parts of these nodes, and the frames are the second ones
    then.  The moves that this takes are bounded by the tokens. -/
def Tells (stack : List Frame) (ts : List Token) (nodes : List Node) (stack' : List Frame) : Prop :=
  ∃ n, n ≤ 2 * ts.length ∧ ∀ fuel handles rest, parts none (fuel + n) handles stack (ts ++ rest) =
    ⟨nodes.map Node.part ++ (parts none fuel handles stack' rest).items,
      (parts none fuel handles stack' rest).fault⟩

theorem Tells.trans {s t u : List Frame} {ts us : List Token} {ns ms : List Node}
    (h : Tells s ts ns t) (h' : Tells t us ms u) : Tells s (ts ++ us) (ns ++ ms) u := by
  obtain ⟨n, hn, hs⟩ := h
  obtain ⟨n', hn', ht⟩ := h'
  refine ⟨n' + n, ?_, ?_⟩
  · rw [List.length_append]
    omega
  · intro fuel handles rest
    rw [← Nat.add_assoc, List.append_assoc, hs, ht, List.map_append, List.append_assoc]

variable {start m : Mark} {stack : List Frame}

/-- A block opens in place of a value. -/
theorem tells_start (place : Option Mark) :
    Tells (.optionalNode .entry entryStops place :: stack) [⟨.blockMappingStart, m⟩]
      [⟨.mappingStart, m⟩] (.keys m :: stack) :=
  ⟨2, Nat.le_refl _, fun _ _ _ => rfl⟩

/-- A key, whose value is expected next. -/
theorem tells_key (w : List Char) :
    Tells (.keys start :: stack) (Scan.keyTokens w m) [wordNode w m]
      (.optionalNode .entry entryStops (some (m.along w.length).right) :: .keys start :: stack) :=
  ⟨4, by simp [Scan.keyTokens], fun _ _ _ => rfl⟩

/-- A word as a value. -/
theorem tells_word (w : List Char) (place : Option Mark) :
    Tells (.optionalNode .entry entryStops place :: stack)
      [⟨.scalar .plain (String.ofList w), m⟩] [wordNode w m] stack :=
  ⟨2, Nat.le_refl _, fun _ _ _ => rfl⟩

/-- The end of a block. -/
theorem tells_end :
    Tells (.keys start :: stack) [⟨.blockEnd, m⟩] [⟨.mappingEnd, m⟩] stack :=
  ⟨1, by simp, fun _ _ _ => rfl⟩

/-- **All entries of a block.** -/
theorem tells_entries (column : Nat) (es : List WordEntry) : ∀ line,
    Tells (.keys start :: stack) (WordEntry.allTokens column line es)
      (WordEntry.allNodes column line es) (.keys start :: stack) := by
  induction es with
  | nil => exact fun line => ⟨0, Nat.le_refl _, fun _ _ _ => rfl⟩
  | cons e es ih =>
    intro line
    exact ((tells_key e.key).trans (tells_word e.word _)).trans (ih (line + 1))

end Grammar

/-! ## Texts without strange characters -/

/-- A line feed, or a character that is printed in ASCII. -/
def isPrinted (c : Char) : Bool := c = '\n' || (' ' ≤ c && c ≤ '~')

theorem ne_of_isPrinted {c d : Char} (hc : isPrinted c = true) (hd : isPrinted d = false) :
    c ≠ d := by
  rintro rfl
  rw [hc] at hd
  cases hd

theorem isPrinted_of_isNameChar {c : Char} (hc : isNameChar c = true) : isPrinted c = true := by
  have hwithin : ∀ {a b : UInt32}, 32 ≤ a → b ≤ 126 → a ≤ c.val → c.val ≤ b →
      isPrinted c = true := by
    intro a b ha hb hac hcb
    have hspace : ' ' ≤ c := UInt32.le_trans ha hac
    have htilde : c ≤ '~' := UInt32.le_trans hcb hb
    simp [isPrinted, hspace, htilde]
  have hupper : c.isUpper = true → isPrinted c = true := fun h =>
    hwithin (by decide) (by decide) (of_decide_eq_true h).1 (of_decide_eq_true h).2
  have hboth : ∀ {p q : Prop} [Decidable p] [Decidable q], (decide p && decide q) = true → p ∧ q :=
    fun h => by simpa using h
  have hlower : c.isLower = true → isPrinted c = true := fun h =>
    hwithin (by decide) (by decide) (hboth h).1 (hboth h).2
  have hdigit : c.isDigit = true → isPrinted c = true := fun h =>
    hwithin (by decide) (by decide) (hboth h).1 (hboth h).2
  simp only [isNameChar, Bool.or_eq_true, decide_eq_true_eq] at hc
  rcases hc with (hletter | rfl) | rfl
  · rcases Bool.or_eq_true_iff.mp hletter with halpha | hd
    · exact (Bool.or_eq_true_iff.mp halpha).elim hupper hlower
    · exact hdigit hd
  · decide
  · decide

theorem firstUnadmitted?_of_isPrinted {cs : List Char} (h : ∀ c ∈ cs, isPrinted c = true) :
    ∀ n, firstUnadmitted? n cs = none := by
  induction cs with
  | nil => exact fun _ => rfl
  | cons c cs ih =>
    intro n
    have hc : isAdmitted c = true := by
      have hprinted := h c List.mem_cons_self
      simp only [isPrinted, Bool.or_eq_true, Bool.and_eq_true, decide_eq_true_eq] at hprinted
      rcases hprinted with rfl | hrange
      · decide
      · simp [isAdmitted, hrange]
    rw [firstUnadmitted?, if_pos hc, ih fun d hd => h d (List.mem_cons_of_mem _ hd)]

theorem unifyBreaks_of_isPrinted {cs : List Char} (h : ∀ c ∈ cs, isPrinted c = true) :
    unifyBreaks cs = cs := by
  induction cs with
  | nil => rfl
  | cons c cs ih =>
    have hc := h c List.mem_cons_self
    have hreturn : c ≠ '\r' := ne_of_isPrinted hc (by decide)
    have hnext : c ≠ '\u0085' := ne_of_isPrinted hc (by decide)
    have hstep : unifyBreaks (c :: cs) = c :: unifyBreaks cs := by
      rw [unifyBreaks, if_neg (not_or.mpr ⟨hreturn, hnext⟩)]
      intro _ heq
      exact absurd heq hreturn
    rw [hstep, ih fun d hd => h d (List.mem_cons_of_mem _ hd)]

/-- Such a text is scanned as it is. -/
theorem scannable_of_isPrinted {text : String} (h : ∀ c ∈ text.toList, isPrinted c = true) :
    scannable text = text.toList := by
  have hmark : dropByteOrderMark text.toList = text.toList := by
    cases hcs : text.toList with
    | nil => rfl
    | cons c cs =>
      have hc := h c (hcs ▸ List.mem_cons_self)
      exact if_neg (ne_of_isPrinted hc (by decide))
  rw [scannable, hmark, unifyBreaks_of_isPrinted h]

/-! ## The nodes of a document -/

namespace Document

/-- Nodes without anchors are gathered as they are told. -/
theorem run_nodes (fault : Option Fault) (rest : List Part) (nodes : List Node)
    (hnodes : ∀ n ∈ nodes, n.IsTold) : ∀ g : Gathering,
    g.run fault (nodes.map Node.part ++ rest) =
      Gathering.run fault { g with nodes := g.nodes ++ nodes } rest := by
  induction nodes with
  | nil =>
    intro g
    rw [List.append_nil]
    rfl
  | cons n nodes ih =>
    intro g
    obtain ⟨hmissing, halias⟩ := hnodes n List.mem_cons_self
    have hstep : g.run fault ((n :: nodes).map Node.part ++ rest) =
        Gathering.run fault { g with nodes := g.nodes ++ [n] } (nodes.map Node.part ++ rest) := by
      obtain ⟨_ | i | _ | _ | _ | _ | _, mark⟩ := n
      · exact absurd rfl hmissing
      · exact absurd rfl (halias i)
      all_goals rfl
    rw [hstep, ih fun k hk => hnodes k (List.mem_cons_of_mem _ hk), List.append_assoc]
    rfl

/-- **The document of a text from its tokens.**  The first one opens a mapping, and the others but
    the last one tell what is in it. -/
theorem ofText_of_tells {text : String} {t : Token} {f : Frame} {ts : List Token}
    {nodes : List Node} {m : Mark} (hprinted : ∀ c ∈ text.toList, isPrinted c = true)
    (htokens : tokensOf text.toList = ⟨t :: (ts ++ [⟨.streamEnd, m⟩]), none⟩)
    (hfirst : ∀ fuel rest, Grammar.parts none (fuel + 2) [] [.document true] (t :: rest) =
      ((Grammar.parts none fuel (Grammar.withStandard []) [f, .documentEnd] rest).cons
        ⟨.mappingStart {}, t.mark⟩).cons ⟨.documentStart, t.mark⟩)
    (htells : Grammar.Tells [f, .documentEnd] ts nodes [.documentEnd])
    (htold : ∀ n ∈ nodes, n.IsTold) :
    ofText text = ⟨⟨.mappingStart, t.mark⟩ :: nodes, [], none, true⟩ := by
  obtain ⟨n, hn, htells⟩ := htells
  have hparts : partsOf (tokensOf text.toList) =
      ⟨⟨.documentStart, t.mark⟩ :: ⟨.mappingStart {}, t.mark⟩ :: (nodes.map Node.part ++
        [⟨.documentEnd, m⟩, ⟨.streamEnd, m⟩]), none⟩ := by
    rw [htokens, partsOf]
    simp only [List.length_cons, List.length_append, List.length_nil]
    generalize hmoves : Grammar.moves _ = moves
    obtain ⟨fuel, rfl⟩ : ∃ fuel, moves = fuel + 3 + n + 2 := by
      refine ⟨moves - (3 + n + 2), ?_⟩
      unfold Grammar.moves at hmoves
      omega
    have hclose : Grammar.parts none (fuel + 3) (Grammar.withStandard []) [.documentEnd]
        [⟨.streamEnd, m⟩] = ⟨[⟨.documentEnd, m⟩, ⟨.streamEnd, m⟩], none⟩ := rfl
    rw [hfirst, htells, hclose]
    rfl
  have hall : ∀ n ∈ (⟨.mappingStart, t.mark⟩ :: nodes : List Node), n.IsTold :=
    List.forall_mem_cons.mpr ⟨isTold_mappingStart _, htold⟩
  unfold ofText
  rw [firstUnadmitted?_of_isPrinted hprinted, scannable_of_isPrinted hprinted]
  simp only [hparts]
  show Gathering.run none {} ((⟨.mappingStart, t.mark⟩ :: nodes).map Node.part ++ _) = _
  rw [run_nodes none _ _ hall]
  rfl

end Document

/-! ## Texts of entries -/

/-- Words by keys, behind which one more key has words by keys of its own. -/
structure Nested where
  outer : List WordEntry
  key : List Char
  inner : List WordEntry

namespace Nested

/-- Everything is a word, the keys are short enough, and neither mapping is empty. -/
structure Valid (t : Nested) : Prop where
  outer : ∀ e ∈ t.outer, e.Valid
  key : Word t.key
  length : t.key.length ≤ longestKey
  inner : ∀ e ∈ t.inner, e.Valid
  outer_ne : t.outer ≠ []
  inner_ne : t.inner ≠ []

/-- The text, line by line, the inner mapping two columns further right. -/
def text (t : Nested) : List Char :=
  t.outer.flatMap (·.line 0) ++ (t.key ++ ':' :: '\n' :: t.inner.flatMap (·.line 2))

/-- Where the line of the key starts. -/
def keyMark (t : Nested) : Mark := ⟨t.outer.length, 0⟩

/-- Where the first word of the inner mapping starts. -/
def innerMark (t : Nested) : Mark := ⟨t.outer.length + 1, 2⟩

/-- Where the text ends. -/
def endMark (t : Nested) : Mark := ⟨t.outer.length + 1 + t.inner.length, 0⟩

/-- The tokens up to the end of the text. -/
def tokens (t : Nested) : List Token :=
  (⟨.blockMappingStart, .start⟩ :: WordEntry.allTokens 0 0 t.outer) ++
    (Scan.keyTokens t.key t.keyMark ++
      (⟨.blockMappingStart, t.innerMark⟩ ::
        WordEntry.allTokens 2 (t.outer.length + 1) t.inner))

/-- The nodes of the inner mapping. -/
def innerNodes (t : Nested) : List Node :=
  ⟨.mappingStart, t.innerMark⟩ ::
    (WordEntry.allNodes 2 (t.outer.length + 1) t.inner ++ [⟨.mappingEnd, t.endMark⟩])

/-- The nodes of the document. -/
def nodes (t : Nested) : List Node :=
  ⟨.mappingStart, .start⟩ ::
    (WordEntry.allNodes 0 0 t.outer ++
      (wordNode t.key t.keyMark :: (t.innerNodes ++ [⟨.mappingEnd, t.endMark⟩])))

variable {t : Nested}

theorem continues_key {column : Nat} {w : List Char} (hw : Word w) (rest : List Char) :
    Scan.Continues column (w ++ rest) := by
  obtain ⟨c, r, rfl, hdash⟩ := hw.start
  exact Or.inr ⟨0, Nat.zero_le _, c, r ++ rest, rfl, hw.chars c List.mem_cons_self, hdash⟩

/-- A scan of the text hands out its tokens. -/
theorem Valid.hands (ht : t.Valid) : ∃ handed,
    Scan.Hands (Scan.atLine 0 t.text [] 0) t.tokens
      (Scan.atLine t.endMark.line [] [2, 0] handed) := by
  obtain ⟨handed, houter⟩ := Scan.hands_block [] 0
    (continues_key ht.key (':' :: '\n' :: t.inner.flatMap (·.line 2))) (by simp) ht.outer_ne
    ht.outer 0 0
  rw [Nat.zero_add] at houter
  have hkey := Scan.hands_bare_key ht.key ht.length [] t.outer.length 0
    (t.inner.flatMap (·.line 2)) handed
  obtain ⟨handed', hinner⟩ := Scan.hands_block [0] 2 (Or.inl rfl) (by simp) ht.inner_ne
    ht.inner (t.outer.length + 1) (handed + 3)
  rw [List.append_nil] at hinner
  exact ⟨handed', houter.trans (hkey.trans hinner)⟩

/-- The blocks that are open at the end of the text are closed there. -/
theorem Valid.tokensOf_text (ht : t.Valid) :
    tokensOf t.text = ⟨t.tokens ++ [⟨.blockEnd, t.endMark⟩, ⟨.blockEnd, t.endMark⟩,
      ⟨.streamEnd, t.endMark⟩], none⟩ := by
  obtain ⟨handed, hhands⟩ := ht.hands
  refine Scan.tokensOf_of_hands hhands ?_
  have houter := WordEntry.length_lines 0 t.outer
  have hinner := WordEntry.length_lines 2 t.inner
  simp only [scanSteps, text, tokens, Scan.keyTokens, WordEntry.length_allTokens,
    List.length_append,
    List.length_cons, List.length_nil]
  omega

/-- The tokens of the text tell the nodes of the document. -/
theorem tells_nodes (t : Nested) :
    Grammar.Tells (.keys .start :: [.documentEnd])
      (WordEntry.allTokens 0 0 t.outer ++ (Scan.keyTokens t.key t.keyMark ++
        ([⟨.blockMappingStart, t.innerMark⟩] ++
          (WordEntry.allTokens 2 (t.outer.length + 1) t.inner ++
            ([⟨.blockEnd, t.endMark⟩] ++ [⟨.blockEnd, t.endMark⟩])))))
      (WordEntry.allNodes 0 0 t.outer ++ ([wordNode t.key t.keyMark] ++
        ([⟨.mappingStart, t.innerMark⟩] ++
          (WordEntry.allNodes 2 (t.outer.length + 1) t.inner ++
            ([⟨.mappingEnd, t.endMark⟩] ++ [⟨.mappingEnd, t.endMark⟩])))))
      [.documentEnd] :=
  (Grammar.tells_entries 0 t.outer 0).trans <| (Grammar.tells_key t.key).trans <|
    (Grammar.tells_start _).trans <| (Grammar.tells_entries 2 t.inner _).trans <|
      Grammar.tells_end.trans Grammar.tells_end

/-- Each node of the document is told as a part of its own. -/
theorem told_nodes (t : Nested) : ∀ n ∈ t.nodes, n.IsTold := by
  have hentries : ∀ column es line, ∀ n ∈ WordEntry.allNodes column line es, n.IsTold := by
    intro column es
    induction es with
    | nil => simp [WordEntry.allNodes]
    | cons e es ih =>
      intro line n hn
      rcases List.mem_append.mp hn with hfirst | hothers
      · simp only [WordEntry.nodes, List.mem_cons, List.not_mem_nil, or_false] at hfirst
        rcases hfirst with rfl | rfl <;> exact isTold_scalar _ _
      · exact ih (line + 1) n hothers
  intro n hn
  simp only [nodes, innerNodes, List.mem_cons, List.mem_append, List.not_mem_nil, or_false] at hn
  rcases hn with rfl | houter | rfl | (rfl | hinner | rfl) | rfl
  · exact isTold_mappingStart _
  · exact hentries _ _ _ n houter
  · exact isTold_scalar _ _
  · exact isTold_mappingStart _
  · exact hentries _ _ _ n hinner
  · exact isTold_mappingEnd _
  · exact isTold_mappingEnd _

theorem Valid.printed (ht : t.Valid) : ∀ c ∈ t.text, isPrinted c = true := by
  have hword : ∀ {w : List Char}, Word w → ∀ c ∈ w, isPrinted c = true :=
    fun hw c hc => isPrinted_of_isNameChar (hw.chars c hc)
  have hlines : ∀ {column : Nat} {es : List WordEntry}, (∀ e ∈ es, e.Valid) →
      ∀ c ∈ es.flatMap (·.line column), isPrinted c = true := by
    intro column es hes c hc
    obtain ⟨e, he, hc⟩ := List.mem_flatMap.mp hc
    simp only [WordEntry.line, List.mem_append, List.mem_replicate, List.mem_cons,
      List.not_mem_nil, or_false] at hc
    rcases hc with ⟨_, rfl⟩ | hkey | rfl | rfl | hvalue | rfl
    · decide
    · exact hword (hes e he).key c hkey
    · decide
    · decide
    · exact hword (hes e he).word c hvalue
    · decide
  intro c hc
  simp only [text, List.mem_append, List.mem_cons] at hc
  rcases hc with houter | hkey | rfl | rfl | hinner
  · exact hlines ht.outer c houter
  · exact hword ht.key c hkey
  · decide
  · decide
  · exact hlines ht.inner c hinner

/-- **The document of a text of words by keys.** -/
theorem Valid.ofText (ht : t.Valid) {text : String} (htext : text.toList = t.text) :
    Document.ofText text = ⟨t.nodes, [], none, true⟩ := by
  have hnodes : t.nodes = ⟨.mappingStart, .start⟩ ::
      (WordEntry.allNodes 0 0 t.outer ++ ([wordNode t.key t.keyMark] ++
        ([⟨.mappingStart, t.innerMark⟩] ++
          (WordEntry.allNodes 2 (t.outer.length + 1) t.inner ++
            ([⟨.mappingEnd, t.endMark⟩] ++ [⟨.mappingEnd, t.endMark⟩]))))) := by
    simp [nodes, innerNodes]
  have htold := t.told_nodes
  rw [hnodes] at htold ⊢
  refine Document.ofText_of_tells (t := ⟨.blockMappingStart, .start⟩) (m := t.endMark)
    (fun c hc => ht.printed c (htext ▸ hc)) ?_ (fun _ _ => rfl) t.tells_nodes
    fun n hn => htold n (List.mem_cons_of_mem _ hn)
  rw [htext, ht.tokensOf_text]
  simp [tokens]

end Nested

/-- The nodes of entries that stand line by line are those of one entry after the other. -/
theorem WordEntry.allNodes_eq_flatten (column : Nat) (es : List WordEntry) : ∀ line,
    ∃ rows, allNodes column line es = rows.flatten ∧
      List.Forall₂ (fun e nodes => ∃ m, nodes = e.nodes m) es rows := by
  induction es with
  | nil => exact fun _ => ⟨[], rfl, .nil⟩
  | cons e es ih =>
    intro line
    obtain ⟨rows, hnodes, hall⟩ := ih (line + 1)
    exact ⟨e.nodes ⟨line, column⟩ :: rows, by rw [allNodes, hnodes, List.flatten_cons],
      .cons ⟨_, rfl⟩ hall⟩

end Yaml
end SampleSchema
