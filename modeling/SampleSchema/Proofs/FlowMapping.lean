/-
  From a mapping in braces to the record that it stands for.

  `FlowTokens` ends with the tokens of such a text.  They tell its nodes entry by entry
  (`FlowEntries.Valid.tells`); what is new against blocks is that the grammar looks at the token
  behind a value before it decides which entry comes, so a comma belongs to the entry behind it.
  Then the text has one document (`FlowEntries.Valid.ofText`), and its nodes are those of the
  entries, one after the other (`FlowEntries.nodes_eq_flatten`), which is all that reading a record
  asks for (`RecordType.read_entries`).
-/
import SampleSchema.Proofs.FlowTokens

namespace SampleSchema
namespace Yaml

namespace Grammar

/-- The value of an entry in braces is expected. -/
def flowPlace : Frame := .optionalNode .flow [.comma, .flowMappingEnd] none

variable {start m : Mark} {column : Nat} {stack : List Frame}

/-- A word as a value. -/
theorem tells_flowWord (w : List Char) :
    Tells (flowPlace :: stack) [⟨.scalar .plain (String.ofList w), m⟩] [wordNode w m] stack :=
  ⟨2, Nat.le_refl _, fun _ _ _ => rfl⟩

/-- A brace in place of a value. -/
theorem tells_flowStart :
    Tells (flowPlace :: stack) [⟨.flowMappingStart, m⟩] [⟨.mappingStart, m⟩]
      (.flowKeys m true :: stack) :=
  ⟨2, Nat.le_refl _, fun _ _ _ => rfl⟩

/-- The first key behind a brace. -/
theorem tells_firstKey (w : List Char) :
    Tells (.flowKeys start true :: stack) (Scan.quotedKeyTokens w column)
      [⟨.scalar ⟨none, .quoted, String.ofList w⟩, ⟨0, column⟩⟩]
      (flowPlace :: .flowKeys start false :: stack) :=
  ⟨5, by simp [Scan.quotedKeyTokens], fun _ _ _ => rfl⟩

/-- A key behind a comma. -/
theorem tells_nextKey (w : List Char) :
    Tells (.flowKeys start false :: stack) (⟨.comma, m⟩ :: Scan.quotedKeyTokens w column)
      [⟨.scalar ⟨none, .quoted, String.ofList w⟩, ⟨0, column⟩⟩]
      (flowPlace :: .flowKeys start false :: stack) :=
  ⟨5, by simp [Scan.quotedKeyTokens], fun _ _ _ => rfl⟩

/-- The closing brace. -/
theorem tells_flowEnd :
    Tells (.flowKeys start false :: stack) [⟨.flowMappingEnd, m⟩] [⟨.mappingEnd, m⟩] stack :=
  ⟨2, Nat.le_refl _, fun _ _ _ => rfl⟩

end Grammar

/-! ## Valid texts -/

/-- The text is scanned to its tokens, and these tell its nodes. -/
structure FlowText.Valid (t : FlowText) : Prop where
  scanned : t.IsScanned
  tells : ∀ column stack,
    Grammar.Tells (Grammar.flowPlace :: stack) (t.tokens column) (t.nodes column) stack
  told : ∀ column, ∀ n ∈ t.nodes column, n.IsTold
  printed : ∀ c ∈ t.chars, isPrinted c = true

theorem FlowText.valid_word {w : List Char} (hw : Word w) : (word w).Valid where
  scanned := isScanned_word hw
  tells _ _ := Grammar.tells_flowWord w
  told _ := List.forall_mem_singleton.mpr (isTold_scalar _ _)
  printed c hc := isPrinted_of_isNameChar (hw.chars c hc)

/-- The key is a name, and the value is valid. -/
structure FlowEntry.Valid (e : FlowEntry) : Prop where
  key : ∀ c ∈ e.key, isNameChar c = true
  value : e.value.Valid

namespace FlowEntry

variable {e : FlowEntry} {es : List FlowEntry} {start : Mark} {stack : List Frame}

theorem Valid.scanned (he : e.Valid) : e.IsScanned := ⟨he.key, he.value.scanned⟩

theorem Valid.told (he : e.Valid) (column : Nat) : ∀ n ∈ e.nodes column, n.IsTold :=
  List.forall_mem_cons.mpr ⟨isTold_scalar _ _, he.value.told _⟩

theorem Valid.printed (he : e.Valid) : ∀ c ∈ e.chars, isPrinted c = true := by
  intro c hc
  simp only [chars, List.mem_cons, List.mem_append] at hc
  rcases hc with rfl | hkey | rfl | rfl | hvalue
  · decide
  · exact isPrinted_of_isNameChar (he.key c hkey)
  · decide
  · decide
  · exact he.value.printed c hvalue

/-- The first entry in braces. -/
theorem Valid.tells_first (he : e.Valid) (column : Nat) :
    Grammar.Tells (.flowKeys start true :: stack) (e.tokens column) (e.nodes column)
      (.flowKeys start false :: stack) :=
  (Grammar.tells_firstKey e.key).trans (he.value.tells _ _)

/-- The entries behind it, each with the comma in front of it. -/
theorem tells_more (es : List FlowEntry) (hes : ∀ e ∈ es, e.Valid) : ∀ column,
    Grammar.Tells (.flowKeys start false :: stack) (moreTokens column es) (moreNodes column es)
      (.flowKeys start false :: stack) := by
  induction es with
  | nil => exact fun _ => ⟨0, Nat.le_refl _, fun _ _ _ => rfl⟩
  | cons e es ih =>
    intro column
    have hothers : ∀ f ∈ es, f.Valid := fun f hf => hes f (List.mem_cons_of_mem _ hf)
    have hvalue := (hes e List.mem_cons_self).value.tells (e.valueColumn (column + 1))
      (.flowKeys start false :: stack)
    exact ((Grammar.tells_nextKey e.key).trans hvalue).trans (ih hothers _)

theorem told_more (es : List FlowEntry) (hes : ∀ e ∈ es, e.Valid) : ∀ column,
    ∀ n ∈ moreNodes column es, n.IsTold := by
  induction es with
  | nil => exact fun _ _ hn => absurd hn List.not_mem_nil
  | cons e es ih =>
    intro column n hn
    rcases List.mem_append.mp hn with hfirst | hothers
    · exact (hes e List.mem_cons_self).told _ n hfirst
    · exact ih (fun f hf => hes f (List.mem_cons_of_mem _ hf)) _ n hothers

end FlowEntry

/-- All entries are valid. -/
structure FlowEntries.Valid (b : FlowEntries) : Prop where
  first : b.first.Valid
  more : ∀ e ∈ b.more, e.Valid

namespace FlowEntries

variable {b : FlowEntries} {start : Mark} {stack : List Frame}

theorem Valid.scanned (hb : b.Valid) : b.IsScanned :=
  ⟨hb.first.scanned, fun e he => (hb.more e he).scanned⟩

/-- **All entries, and the closing brace.** -/
theorem Valid.tells (hb : b.Valid) (column : Nat) (m : Mark) :
    Grammar.Tells (.flowKeys start true :: stack) (b.tokens column ++ [⟨.flowMappingEnd, m⟩])
      (b.nodes column ++ [⟨.mappingEnd, m⟩]) stack :=
  ((hb.first.tells_first column).trans (FlowEntry.tells_more b.more hb.more _)).trans
    Grammar.tells_flowEnd

theorem Valid.told (hb : b.Valid) (column : Nat) (m : Mark) :
    ∀ n ∈ b.nodes column ++ [⟨.mappingEnd, m⟩], n.IsTold := by
  intro n hn
  simp only [nodes, List.mem_append, List.mem_singleton] at hn
  rcases hn with (hfirst | hmore) | rfl
  · exact hb.first.told _ n hfirst
  · exact FlowEntry.told_more b.more hb.more _ n hmore
  · exact isTold_mappingEnd m

theorem Valid.printed (hb : b.Valid) : ∀ c ∈ b.bracedChars, isPrinted c = true := by
  intro c hc
  simp only [bracedChars, chars, FlowEntry.moreChars, List.mem_cons, List.mem_append,
    List.mem_flatMap, List.not_mem_nil, or_false] at hc
  rcases hc with rfl | (hfirst | ⟨e, he, rfl | hmore⟩) | rfl
  · decide
  · exact hb.first.printed c hfirst
  · decide
  · exact (hb.more e he).printed c hmore
  · decide

end FlowEntries

/-- **A mapping of valid texts is valid**, so values may nest. -/
theorem FlowText.valid_mapping {b : FlowEntries} (hb : b.Valid) : (mapping b).Valid where
  scanned := isScanned_mapping hb.scanned
  tells column _ := Grammar.tells_flowStart.trans (hb.tells (column + 1) (b.closing column))
  told column := List.forall_mem_cons.mpr
    ⟨isTold_mappingStart _, hb.told (column + 1) (b.closing column)⟩
  printed := hb.printed

namespace FlowEntries

variable {b : FlowEntries}

/-- **The document of a mapping in braces**, on one line that is not too long. -/
theorem Valid.ofText (hb : b.Valid) {text : String} (htext : text.toList = b.bracedChars)
    (hlength : b.bracedChars.length ≤ longestKey) :
    Document.ofText text = ⟨b.bracedNodes 0, [], none, true⟩ := by
  refine Document.ofText_of_tells (t := ⟨.flowMappingStart, .start⟩) (m := ⟨1, 0⟩)
    (fun c hc => hb.printed c (htext ▸ hc)) ?_ (fun _ _ => rfl) (hb.tells 1 (b.closing 0))
    (hb.told 1 (b.closing 0))
  rw [htext, tokensOf_braced hb.scanned hlength]
  rfl

/-- The nodes are those of one entry after the other. -/
theorem nodes_eq_flatten (b : FlowEntries) (column : Nat) : ∃ rows,
    b.nodes column = rows.flatten ∧
      List.Forall₂ (fun e nodes => ∃ column, nodes = FlowEntry.nodes column e) (b.first :: b.more)
        rows := by
  have hmore : ∀ es column, ∃ rows, FlowEntry.moreNodes column es = rows.flatten ∧
      List.Forall₂ (fun e nodes => ∃ column, nodes = FlowEntry.nodes column e) es rows := by
    intro es
    induction es with
    | nil => exact fun _ => ⟨[], rfl, .nil⟩
    | cons e es ih =>
      intro column
      obtain ⟨rows, hrows, hall⟩ := ih (column + 1 + e.chars.length)
      exact ⟨e.nodes (column + 1) :: rows, by rw [FlowEntry.moreNodes, hrows, List.flatten_cons],
        .cons ⟨_, rfl⟩ hall⟩
  obtain ⟨rows, hrows, hall⟩ := hmore b.more (column + b.first.chars.length)
  exact ⟨b.first.nodes column :: rows, by rw [nodes, hrows, List.flatten_cons],
    .cons ⟨_, rfl⟩ hall⟩

end FlowEntries
end Yaml
end SampleSchema
