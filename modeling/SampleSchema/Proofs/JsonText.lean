/-
  Reading back what was written.

  The writer puts a value down in one of two layouts, and readers take texts apart again: blanks,
  strings with their escapes, the lists and the objects with their commas.  Here each piece of the
  writer is met by the piece of the readers that undoes it:

  * a string, character by character (`readString_written`);
  * what stands after an opening bracket (`itemsTail`, `entriesTail`), one item or entry at a time
    (`gives_readItems`, `gives_readEntries`), for any reader of the items.

  What a reader has to do is said by `Decodes`: on the text of a value, whatever the layout, the
  blanks before it and the text after it, it gives the value back and leaves the text after it, if
  the value nests no deeper than the reader has room; and if the value nests deeper, the reader
  refuses it for that cause and no other.  So one statement tells both what is read and what is
  not, and the readers of containers hand it from their items to themselves.

  Numbers and words are left out: their texts do not end by themselves.
-/
import SampleSchema.Json.Reader
import SampleSchema.Json.Writer
import SampleSchema.Proofs.JsonTree

namespace SampleSchema
namespace Json

variable {α β : Type}

/-! ## What comes of reading -/

/-- The outcome of a reader is `v` with `rest` left over if the text fits into the room that the
    reader has, and otherwise the fault that it is too deep. -/
def Gives {cs : List Char} (outcome : Except Fault (Reading α cs)) (fits : Prop) (v : α)
    (rest : List Char) : Prop :=
  (fits ∧ ∃ h, outcome = .ok ⟨v, rest, h⟩) ∨
    (¬ fits ∧ ∃ f, outcome = .error f ∧ f.cause = .tooDeep)

namespace Gives

variable {cs ds rest : List Char} {outcome : Except Fault (Reading α cs)} {fits fits' : Prop}
  {v : α}

theorem ok (hfits : fits) {h : rest.length < cs.length} (heq : outcome = .ok ⟨v, rest, h⟩) :
    Gives outcome fits v rest := Or.inl ⟨hfits, h, heq⟩

theorem tooDeep (hfits : ¬ fits) {f : Fault} (heq : outcome = .error f) (hf : f.cause = .tooDeep) :
    Gives outcome fits v rest := Or.inr ⟨hfits, f, heq, hf⟩

theorem congr (h : Gives outcome fits v rest) (hiff : fits ↔ fits') :
    Gives outcome fits' v rest := by
  rcases h with ⟨hfits, h⟩ | ⟨hfits, h⟩
  · exact Or.inl ⟨hiff.mp hfits, h⟩
  · exact Or.inr ⟨fun hc => hfits (hiff.mpr hc), h⟩

/-- What is made of the reading afterwards may change the value; it does not touch the rest. -/
theorem map {g : Reading α cs → Reading β ds} {w : β} (h : Gives outcome fits v rest)
    (hvalue : ∀ x, x.value = v → (g x).value = w) (hrest : ∀ x, (g x).rest = x.rest) :
    Gives (outcome.map g) fits w rest := by
  rcases h with ⟨hfits, hlt, rfl⟩ | ⟨hfits, e, rfl, he⟩
  · have hg : ∀ x : Reading β ds, x.value = w → x.rest = rest → ∃ h, x = ⟨w, rest, h⟩ := by
      rintro ⟨_, _, h⟩ rfl rfl
      exact ⟨h, rfl⟩
    obtain ⟨h, heq⟩ := hg (g ⟨v, rest, hlt⟩) (hvalue _ rfl) (hrest _)
    exact ok hfits (congrArg Except.ok heq)
  · exact tooDeep hfits rfl he

end Gives

/-! ## Blanks -/

/-- Nothing but characters that are skipped between tokens. -/
def Blank (gap : List Char) : Prop := ∀ c ∈ gap, isBlank c = true

theorem blank_nil : Blank [] := fun _ h => absurd h List.not_mem_nil

theorem blank_newline (l : Layout) (depth : Nat) : Blank (l.newline depth) := by
  intro c hc
  cases l with
  | compact => exact absurd hc List.not_mem_nil
  | indented =>
    rcases List.mem_cons.mp hc with rfl | hc
    · rfl
    · rw [List.eq_of_mem_replicate hc]
      rfl

/-- What the layout puts between the colon and the value. -/
theorem blank_tail_colon (l : Layout) : Blank l.colon.tail := by
  cases l with
  | compact => exact blank_nil
  | indented =>
    intro c hc
    rw [List.mem_singleton.mp hc]
    rfl

theorem skipBlanks_append {gap r : List Char} {c : Char} (hgap : Blank gap)
    (hc : isBlank c = false) : skipBlanks (gap ++ c :: r) = c :: r := by
  unfold skipBlanks
  rw [List.dropWhile_append_of_pos hgap, List.dropWhile_cons_of_neg]
  rw [hc]
  exact Bool.false_ne_true

/-! ## Strings, written -/

/-- The numbers that control characters are written with: two zeros, and these two digits. -/
theorem controlDigits : ∀ n < 32,
    ((if n < 16 then ['0'] else []) ++ hexDigits n).map hexValue? =
      [some (n / 16), some (n % 16)] := by
  decide

/-- There are three ways in which a character is written: an escape of one letter, an escape by
    number, and itself. -/
theorem escapedChar_cases (c : Char) :
    (∃ e, escapedChar c = ['\\', e] ∧ shortEscape? e = some c) ∨
      (c.toNat < 32 ∧ ∃ a b, escapedChar c = ['\\', 'u', '0', '0', a, b] ∧
        hexValue? a = some (c.toNat / 16) ∧ hexValue? b = some (c.toNat % 16)) ∨
      (escapedChar c = [c] ∧ c ≠ '"' ∧ c ≠ '\\' ∧ ¬ c < ' ') := by
  by_cases hshort : c = '"' ∨ c = '\\' ∨ c = '\n' ∨ c = '\r' ∨ c = '\t' ∨ c = '\x08' ∨ c = '\x0c'
  · refine Or.inl ?_
    rcases hshort with rfl | rfl | rfl | rfl | rfl | rfl | rfl
    · exact ⟨'"', rfl, by decide⟩
    · exact ⟨'\\', rfl, by decide⟩
    · exact ⟨'n', rfl, by decide⟩
    · exact ⟨'r', rfl, by decide⟩
    · exact ⟨'t', rfl, by decide⟩
    · exact ⟨'b', rfl, by decide⟩
    · exact ⟨'f', rfl, by decide⟩
  simp only [not_or] at hshort
  obtain ⟨hquote, hbackslash, hn, hr, ht, hb, hf⟩ := hshort
  have hlong : escapedChar c = if c < ' ' then
      ['\\', 'u', '0', '0'] ++ (if c.toNat < 16 then ['0'] else []) ++ hexDigits c.toNat
      else [c] := by
    rw [escapedChar, if_neg hquote, if_neg hbackslash, if_neg hn, if_neg hr, if_neg ht, if_neg hb,
      if_neg hf]
  by_cases hcontrol : c < ' '
  · rw [if_pos hcontrol, List.append_assoc] at hlong
    have hdigits := controlDigits c.toNat hcontrol
    obtain ⟨a, _, hpad, ha, htail⟩ := List.map_eq_cons_iff.mp hdigits
    obtain ⟨b, _, rfl, hb, hnil⟩ := List.map_eq_cons_iff.mp htail
    rw [List.map_eq_nil_iff.mp hnil] at hpad
    rw [hpad] at hlong
    exact Or.inr (Or.inl ⟨hcontrol, a, b, hlong, ha, hb⟩)
  · rw [if_neg hcontrol] at hlong
    exact Or.inr (Or.inr ⟨hlong, hquote, hbackslash, hcontrol⟩)

/-! ## Strings, read -/

theorem le_byteLength (cs : List Char) : cs.length ≤ byteLength cs := by
  induction cs with
  | nil => exact Nat.le_refl 0
  | cons c cs ih =>
    have hc := c.utf8Size_pos
    show cs.length + 1 ≤ c.utf8Size + byteLength cs
    omega

theorem readHex4_digits {a b c d : Char} {w x y z : Nat} (ha : hexValue? a = some w)
    (hb : hexValue? b = some x) (hc : hexValue? c = some y) (hd : hexValue? d = some z)
    (rest : List Char) :
    ∃ h, readHex4 (a :: b :: c :: d :: rest) = .ok ⟨((w * 16 + x) * 16 + y) * 16 + z, rest, h⟩ := by
  have hlong : ¬ byteLength ((a :: b :: c :: d :: rest).take 4) < 4 :=
    Nat.not_lt.mpr (le_byteLength [a, b, c, d])
  refine ⟨by simp only [List.length_cons]; omega, ?_⟩
  unfold readHex4
  rw [if_neg hlong]
  simp only [ha, hb, hc, hd]

/-- Reading goes on after an escape of one letter. -/
theorem readChars_short {e x : Char} (he : shortEscape? e = some x) {more cs rest : List Char}
    {h : rest.length < more.length} (hmore : readChars more = .ok ⟨cs, rest, h⟩) :
    ∃ h, readChars ('\\' :: e :: more) = .ok ⟨x :: cs, rest, h⟩ := by
  have hescape : readEscape (e :: more) = .ok (.one x e more) := by
    rw [readEscape]
    simp only [he]
  refine ⟨by simp only [List.length_cons]; omega, ?_⟩
  rw [readChars, if_neg (by decide), if_pos rfl, hescape]
  simp only [Reading.one, hmore]

/-- Reading goes on after a control character, written by its number. -/
theorem readChars_control {a b : Char} {n : Nat} (hn : n < 32) (ha : hexValue? a = some (n / 16))
    (hb : hexValue? b = some (n % 16)) {more cs rest : List Char}
    {h : rest.length < more.length} (hmore : readChars more = .ok ⟨cs, rest, h⟩) :
    ∃ h, readChars ('\\' :: 'u' :: '0' :: '0' :: a :: b :: more) =
      .ok ⟨Char.ofNat n :: cs, rest, h⟩ := by
  obtain ⟨hlt, hdigits⟩ :=
    readHex4_digits (show hexValue? '0' = some 0 by decide) (show hexValue? '0' = some 0 by decide)
      ha hb more
  have hvalue : ((0 * 16 + 0) * 16 + n / 16) * 16 + n % 16 = n := by omega
  have htrailing : isTrailing n = false := by
    unfold isTrailing
    rw [decide_eq_false (by omega), Bool.false_and]
  have hleading : isLeading n = false := by
    unfold isLeading
    rw [decide_eq_false (by omega), Bool.false_and]
  have hunit : readUnit ('0' :: '0' :: a :: b :: more) = .ok ⟨Char.ofNat n, more, hlt⟩ := by
    unfold readUnit
    rw [hdigits]
    show (if isTrailing (((0 * 16 + 0) * 16 + n / 16) * 16 + n % 16) = true then _ else _) = _
    simp only [hvalue, htrailing, hleading, Bool.false_eq_true, if_false]
  have hescape : readEscape ('u' :: '0' :: '0' :: a :: b :: more) =
      .ok ((⟨Char.ofNat n, more, hlt⟩ : Reading Char _).behind 'u') := by
    rw [readEscape]
    simp only [show shortEscape? 'u' = none by decide, if_pos, hunit]
    rfl
  refine ⟨by simp only [List.length_cons]; omega, ?_⟩
  rw [readChars, if_neg (by decide), if_pos rfl, hescape]
  simp only [Reading.behind, hmore]

/-- **Escaping is undone**, whatever the character. -/
theorem readChars_escapedChar (c : Char) {more cs rest : List Char}
    {h : rest.length < more.length} (hmore : readChars more = .ok ⟨cs, rest, h⟩) :
    ∃ h, readChars (escapedChar c ++ more) = .ok ⟨c :: cs, rest, h⟩ := by
  rcases escapedChar_cases c with ⟨e, htext, he⟩ | ⟨hn, a, b, htext, ha, hb⟩ |
    ⟨htext, hquote, hbackslash, hcontrol⟩
  · rw [htext]
    exact readChars_short he hmore
  · rw [htext, ← c.ofNat_toNat]
    exact readChars_control hn ha hb hmore
  · rw [htext]
    refine ⟨Nat.lt_succ_of_lt h, ?_⟩
    show readChars (c :: more) = _
    rw [readChars, if_neg hquote, if_neg hbackslash, if_neg hcontrol]
    simp only [hmore]

theorem readChars_written (cs rest : List Char) :
    ∃ h, readChars (cs.flatMap escapedChar ++ '"' :: rest) = .ok ⟨cs, rest, h⟩ := by
  induction cs with
  | nil =>
    refine ⟨Nat.lt_succ_self _, ?_⟩
    show readChars ('"' :: rest) = _
    rw [readChars, if_pos rfl]
  | cons c cs ih =>
    obtain ⟨h, hread⟩ := ih
    rw [List.flatMap_cons, List.append_assoc]
    exact readChars_escapedChar c hread

/-- **A written string is read back**, its opening quote having been taken. -/
theorem readString_written (s : String) (rest : List Char) :
    ∃ h, readString (s.toList.flatMap escapedChar ++ '"' :: rest) = .ok ⟨s, rest, h⟩ := by
  obtain ⟨h, hread⟩ := readChars_written s.toList rest
  refine ⟨h, ?_⟩
  unfold readString
  rw [hread]
  show Except.ok (⟨String.ofList s.toList, rest, h⟩ : Reading String _) = _
  congr
  exact String.ofList_toList

/-- There is room for a string everywhere. -/
theorem gives_readString (room : Nat) (s : String) (rest : List Char) :
    Gives (readString (s.toList.flatMap escapedChar ++ '"' :: rest))
      ((string s).nesting ≤ room) s rest := by
  obtain ⟨hlt, hread⟩ := readString_written s rest
  exact .ok (Nat.zero_le room) hread

theorem stringChars_append (s : String) (rest : List Char) :
    stringChars s ++ rest = '"' :: (s.toList.flatMap escapedChar ++ '"' :: rest) := by
  unfold stringChars
  simp

/-- What is left of the text of a string once blanks are skipped. -/
theorem skipBlanks_string {gap : List Char} (hgap : Blank gap) (l : Layout) (depth : Nat)
    (s : String) (rest : List Char) :
    skipBlanks (gap ++ (chars l depth (.string s) ++ rest)) =
      '"' :: (s.toList.flatMap escapedChar ++ '"' :: rest) := by
  rw [chars, stringChars_append]
  exact skipBlanks_append hgap rfl

theorem readKey_written (key : String) (rest : List Char) :
    ∃ h, readKey (stringChars key ++ rest) = .ok ⟨key, rest, h⟩ := by
  obtain ⟨h, hread⟩ := readString_written key rest
  rw [stringChars_append, readKey, hread]
  exact ⟨_, rfl⟩

theorem readColon_written (l : Layout) (rest : List Char) :
    ∃ h, readColon (l.colon ++ rest) = .ok ⟨(), l.colon.tail ++ rest, h⟩ := by
  cases l <;> exact ⟨_, rfl⟩

/-! ## Texts that end by themselves -/

/-- The text of the value, in any layout, starts with a quote or an opening bracket. -/
def Delimited (v : Json) : Prop :=
  ∀ l depth, ∃ c r, v.chars l depth = c :: r ∧ (c = '"' ∨ c = '[' ∨ c = '\x7b')

theorem delimited_string (s : String) : (string s).Delimited := fun _ _ => ⟨_, _, rfl, Or.inl rfl⟩

theorem delimited_array (xs : List Json) : (array xs).Delimited := by
  intro l depth
  cases xs <;> exact ⟨_, _, rfl, Or.inr (Or.inl rfl)⟩

theorem delimited_object (es : List (String × Json)) : (object es).Delimited := by
  intro l depth
  cases es <;> exact ⟨_, _, rfl, Or.inr (Or.inr rfl)⟩

/-- `R`, which has room for `room` levels, reads `v` off every text of `j` that fits, and refuses
    every text that does not fit as too deep. -/
structure Decodes (R : Reader α) (room : Nat) (j : Json) (v : α) : Prop where
  delimited : j.Delimited
  gives : ∀ (l : Layout) (depth : Nat) (gap rest : List Char), Blank gap →
    Gives (R (gap ++ (j.chars l depth ++ rest))) (j.nesting ≤ room) v rest

theorem Decodes.gives_here {R : Reader α} {room : Nat} {j : Json} {v : α} (h : Decodes R room j v)
    (l : Layout) (depth : Nat) (rest : List Char) :
    Gives (R (j.chars l depth ++ rest)) (j.nesting ≤ room) v rest :=
  h.gives l depth [] rest blank_nil

theorem Decodes.gives_whole {R : Reader α} {room : Nat} {j : Json} {v : α} (h : Decodes R room j v)
    (l : Layout) (depth : Nat) : Gives (R (j.chars l depth)) (j.nesting ≤ room) v [] := by
  have hhere := h.gives_here l depth []
  rwa [List.append_nil] at hhere

theorem Decodes.map {R : Reader α} {room : Nat} {j : Json} {v : α} (h : Decodes R room j v)
    (g : α → β) : Decodes (fun cs => (R cs).map (Reading.map g)) room j (g v) := by
  refine ⟨h.delimited, ?_⟩
  intro l depth gap rest hgap
  exact (h.gives l depth gap rest hgap).map (fun _ hv => congrArg g hv) (fun _ => rfl)

/-- The first character of a text that ends by itself, for the readers that look at it. -/
theorem Delimited.skipBlanks_eq {j : Json} (h : j.Delimited) (l : Layout) (depth : Nat)
    {gap : List Char} (hgap : Blank gap) (rest : List Char) :
    ∃ c r, j.chars l depth ++ rest = c :: r ∧
      skipBlanks (gap ++ (j.chars l depth ++ rest)) = c :: r ∧
      (c = '"' ∨ c = '[' ∨ c = '\x7b') := by
  obtain ⟨c, r, hchars, hc⟩ := h l depth
  have hblank : isBlank c = false := by rcases hc with rfl | rfl | rfl <;> rfl
  refine ⟨c, r ++ rest, by rw [hchars]; rfl, ?_, hc⟩
  rw [hchars]
  exact skipBlanks_append hgap hblank

/-! ## Lists -/

/-- What stands after an opening bracket, or after an item if `first` is not set: the items that
    are left, and the closing bracket. -/
def itemsTail (l : Layout) (depth : Nat) (first : Bool) : List Json → List Char
  | [] => (if first then [] else l.newline depth) ++ [']']
  | x :: xs =>
    (if first then [] else [',']) ++ l.newline (depth + 1) ++ chars l (depth + 1) x
      ++ itemsTail l depth false xs

theorem charsItems_append (l : Layout) (depth : Nat) (xs : List Json) :
    charsItems l (depth + 1) xs ++ l.newline depth ++ [']'] = itemsTail l depth false xs := by
  induction xs with
  | nil => rfl
  | cons x xs ih =>
    rw [itemsTail, ← ih, charsItems]
    simp

theorem chars_array (l : Layout) (depth : Nat) (xs : List Json) :
    (array xs).chars l depth = '[' :: itemsTail l depth true xs := by
  cases xs with
  | nil => rfl
  | cons x xs =>
    rw [itemsTail, ← charsItems_append, chars]
    simp

theorem skipBlanks_array {gap : List Char} (hgap : Blank gap) (l : Layout) (depth : Nat)
    (xs : List Json) (rest : List Char) :
    skipBlanks (gap ++ (chars l depth (.array xs) ++ rest)) =
      '[' :: (itemsTail l depth true xs ++ rest) := by
  rw [chars_array]
  exact skipBlanks_append hgap rfl

theorem nextItem_end (l : Layout) (depth : Nat) (first : Bool) (rest : List Char) :
    ∃ h, nextItem first (itemsTail l depth first [] ++ rest) = .ok (.closed rest h) := by
  have hgap : Blank (if first then [] else l.newline depth) := by
    split
    · exact blank_nil
    · exact blank_newline l depth
  have hskip : skipBlanks (itemsTail l depth first [] ++ rest) = ']' :: rest := by
    rw [itemsTail, List.append_assoc]
    exact skipBlanks_append hgap rfl
  refine ⟨length_le_of_skipBlanks hskip, ?_⟩
  unfold nextItem
  split
  · next h =>
    rw [hskip] at h
    cases h
  · next h =>
    cases hskip.symm.trans h
    rfl

theorem nextItem_item (l : Layout) (depth : Nat) (first : Bool) {x : Json} (hx : x.Delimited)
    (xs : List Json) (rest : List Char) :
    ∃ h, nextItem first (itemsTail l depth first (x :: xs) ++ rest) =
      .ok (.item (x.chars l (depth + 1) ++ (itemsTail l depth false xs ++ rest)) h) := by
  obtain ⟨c, r, hchars, hskip, hc⟩ := hx.skipBlanks_eq l (depth + 1)
    (blank_newline l (depth + 1)) (itemsTail l depth false xs ++ rest)
  have hclose : c ≠ ']' := by rcases hc with rfl | rfl | rfl <;> decide
  cases first with
  | true =>
    have htext : itemsTail l depth true (x :: xs) ++ rest =
        l.newline (depth + 1) ++
          (x.chars l (depth + 1) ++ (itemsTail l depth false xs ++ rest)) := by
      simp [itemsTail]
    rw [htext, hchars]
    rw [hchars] at hskip
    refine ⟨length_le_of_skipBlanks hskip, ?_⟩
    unfold nextItem
    split
    · next h =>
      rw [hskip] at h
      cases h
    · next h =>
      cases hskip.symm.trans h
      rw [if_neg hclose, if_pos rfl]
  | false =>
    have htext : itemsTail l depth false (x :: xs) ++ rest =
        ',' :: (l.newline (depth + 1) ++
          (x.chars l (depth + 1) ++ (itemsTail l depth false xs ++ rest))) := by
      simp [itemsTail]
    rw [htext, hchars]
    rw [hchars] at hskip
    refine ⟨Nat.le_succ_of_le (length_le_of_skipBlanks hskip), ?_⟩
    unfold nextItem
    split
    · next h => cases h
    · next h =>
      cases h
      rw [if_neg (by decide), if_neg Bool.false_ne_true, if_pos rfl]
      split
      · next h' =>
        rw [hskip] at h'
        cases h'
      · next h' =>
        cases hskip.symm.trans h'
        rw [if_neg hclose]

/-- **The items of a written list are read back**, up to the first one that is too deep. -/
theorem gives_readItems {R : Reader α} {room : Nat} {f : α → Json} {xs : List α}
    (h : ∀ x ∈ xs, Decodes R room (f x) x) (l : Layout) (depth : Nat) (rest : List Char) :
    ∀ first, Gives (readItems R first (itemsTail l depth first (xs.map f) ++ rest))
      (∀ x ∈ xs, (f x).nesting ≤ room) xs rest := by
  induction xs with
  | nil =>
    intro first
    obtain ⟨hlt, hnext⟩ := nextItem_end l depth first rest
    rw [List.map_nil, readItems, hnext]
    exact .ok (fun _ hx => absurd hx List.not_mem_nil) rfl
  | cons x xs ih =>
    intro first
    have hx := h x List.mem_cons_self
    obtain ⟨hle, hnext⟩ := nextItem_item l depth first hx.delimited (xs.map f) rest
    rw [List.map_cons, readItems, hnext]
    dsimp only
    rcases hx.gives_here l (depth + 1) (itemsTail l depth false (xs.map f) ++ rest) with
      ⟨hfits, hlt, hitem⟩ | ⟨hfits, e, hitem, he⟩
    · rw [hitem]
      dsimp only
      rcases ih (fun y hy => h y (List.mem_cons_of_mem _ hy)) false with
        ⟨hrest, hlt', hitems⟩ | ⟨hrest, e, hitems, he⟩
      · rw [hitems]
        exact .ok (List.forall_mem_cons.mpr ⟨hfits, hrest⟩) rfl
      · rw [hitems]
        exact .tooDeep (fun hc => hrest (List.forall_mem_cons.mp hc).2) rfl he
    · rw [hitem]
      exact .tooDeep (fun hc => hfits (List.forall_mem_cons.mp hc).1) rfl he

/-! ## Objects -/

/-- What stands after an opening brace, or after an entry if `first` is not set: the entries that
    are left, and the closing brace. -/
def entriesTail (l : Layout) (depth : Nat) (first : Bool) : List (String × Json) → List Char
  | [] => (if first then [] else l.newline depth) ++ ['\x7d']
  | (k, x) :: es =>
    (if first then [] else [',']) ++ l.newline (depth + 1) ++ stringChars k ++ l.colon
      ++ chars l (depth + 1) x ++ entriesTail l depth false es

theorem charsEntries_append (l : Layout) (depth : Nat) (es : List (String × Json)) :
    charsEntries l (depth + 1) es ++ l.newline depth ++ ['\x7d'] =
      entriesTail l depth false es := by
  induction es with
  | nil => rfl
  | cons e es ih =>
    rw [entriesTail, ← ih, charsEntries]
    simp

theorem chars_object (l : Layout) (depth : Nat) (es : List (String × Json)) :
    (object es).chars l depth = '\x7b' :: entriesTail l depth true es := by
  cases es with
  | nil => rfl
  | cons e es =>
    rw [entriesTail, ← charsEntries_append, chars]
    simp

theorem skipBlanks_object {gap : List Char} (hgap : Blank gap) (l : Layout) (depth : Nat)
    (es : List (String × Json)) (rest : List Char) :
    skipBlanks (gap ++ (chars l depth (.object es) ++ rest)) =
      '\x7b' :: (entriesTail l depth true es ++ rest) := by
  rw [chars_object]
  exact skipBlanks_append hgap rfl

theorem nextKey_end (l : Layout) (depth : Nat) (first : Bool) (rest : List Char) :
    ∃ h, nextKey first (entriesTail l depth first [] ++ rest) = .ok (.closed rest h) := by
  have hgap : Blank (if first then [] else l.newline depth) := by
    split
    · exact blank_nil
    · exact blank_newline l depth
  have hskip : skipBlanks (entriesTail l depth first [] ++ rest) = '\x7d' :: rest := by
    rw [entriesTail, List.append_assoc]
    exact skipBlanks_append hgap rfl
  refine ⟨length_le_of_skipBlanks hskip, ?_⟩
  unfold nextKey
  split
  · next h =>
    rw [hskip] at h
    cases h
  · next h =>
    cases hskip.symm.trans h
    rfl

theorem nextKey_item (l : Layout) (depth : Nat) (first : Bool) (k : String) (x : Json)
    (es : List (String × Json)) (rest : List Char) :
    ∃ h, nextKey first (entriesTail l depth first ((k, x) :: es) ++ rest) =
      .ok (.item (stringChars k ++ (l.colon ++
        (x.chars l (depth + 1) ++ (entriesTail l depth false es ++ rest)))) h) := by
  generalize hmore : l.colon ++ (x.chars l (depth + 1) ++ (entriesTail l depth false es ++ rest)) =
    more
  generalize hkey : k.toList.flatMap escapedChar ++ '"' :: more = r
  have hopen : stringChars k ++ more = '"' :: r := hkey ▸ stringChars_append k more
  have hskip : skipBlanks (l.newline (depth + 1) ++ '"' :: r) = '"' :: r :=
    skipBlanks_append (blank_newline l (depth + 1)) rfl
  cases first with
  | true =>
    have htext : entriesTail l depth true ((k, x) :: es) ++ rest =
        l.newline (depth + 1) ++ (stringChars k ++ more) := by
      simp [entriesTail, ← hmore]
    rw [htext, hopen]
    refine ⟨length_le_of_skipBlanks hskip, ?_⟩
    unfold nextKey
    split
    · next h =>
      rw [hskip] at h
      cases h
    · next h =>
      cases hskip.symm.trans h
      rfl
  | false =>
    have htext : entriesTail l depth false ((k, x) :: es) ++ rest =
        ',' :: (l.newline (depth + 1) ++ (stringChars k ++ more)) := by
      simp [entriesTail, ← hmore]
    rw [htext, hopen]
    refine ⟨Nat.le_succ_of_le (length_le_of_skipBlanks hskip), ?_⟩
    unfold nextKey
    split
    · next h => cases h
    · next h =>
      cases h
      rw [if_neg (by decide), if_neg Bool.false_ne_true, if_pos rfl]
      split
      · next h' =>
        rw [hskip] at h'
        cases h'
      · next h' =>
        cases hskip.symm.trans h'
        rfl

/-- **The entries of a written object are read back**, up to the first one that is too deep. -/
theorem gives_readEntries {R : Reader α} {room : Nat} {f : α → Json} {es : List (String × α)}
    (h : ∀ e ∈ es, Decodes R room (f e.2) e.2) (l : Layout) (depth : Nat) (rest : List Char) :
    ∀ first, Gives
      (readEntries R first (entriesTail l depth first (Keyed.mapValues f es) ++ rest))
      (∀ e ∈ es, (f e.2).nesting ≤ room) es rest := by
  induction es with
  | nil =>
    intro first
    obtain ⟨hlt, hnext⟩ := nextKey_end l depth first rest
    rw [Keyed.mapValues, List.map_nil, readEntries, hnext]
    exact .ok (fun _ he => absurd he List.not_mem_nil) rfl
  | cons e es ih =>
    intro first
    have hvalue := (h e List.mem_cons_self).gives l (depth + 1) l.colon.tail
      (entriesTail l depth false (Keyed.mapValues f es) ++ rest) (blank_tail_colon l)
    obtain ⟨hle, hnext⟩ := nextKey_item l depth first e.1 (f e.2) (Keyed.mapValues f es) rest
    rw [Keyed.mapValues, List.map_cons, ← Keyed.mapValues, readEntries, hnext]
    dsimp only
    obtain ⟨hlt, hkey⟩ := readKey_written e.1 _
    rw [hkey]
    dsimp only
    obtain ⟨hlt', hcolon⟩ := readColon_written l _
    rw [hcolon]
    dsimp only
    rcases hvalue with ⟨hfits, hlt, hvalue⟩ | ⟨hfits, f, hvalue, hf⟩
    · rw [hvalue]
      dsimp only
      rcases ih (fun a ha => h a (List.mem_cons_of_mem _ ha)) false with
        ⟨hrest, hlt, hentries⟩ | ⟨hrest, f, hentries, hf⟩
      · rw [hentries]
        exact .ok (List.forall_mem_cons.mpr ⟨hfits, hrest⟩) rfl
      · rw [hentries]
        exact .tooDeep (fun hc => hrest (List.forall_mem_cons.mp hc).2) rfl hf
    · rw [hvalue]
      exact .tooDeep (fun hc => hfits (List.forall_mem_cons.mp hc).1) rfl hf

/-! ## Values -/

/-- Values made of strings, arrays and objects, whose objects set no key twice. -/
inductive Textual : Json → Prop where
  | string (s : String) : Textual (.string s)
  | array {xs : List Json} (items : ∀ x ∈ xs, Textual x) : Textual (.array xs)
  | object {es : List (String × Json)} (distinct : Keyed.Distinct es)
      (entries : ∀ e ∈ es, Textual e.2) : Textual (.object es)

theorem decodes_string (room : Nat) (s : String) :
    Decodes (readValue room) room (.string s) (.string s) := by
  refine ⟨delimited_string s, ?_⟩
  intro l depth gap rest hgap
  have hskip := skipBlanks_string hgap l depth s rest
  unfold readValue
  split
  · next h =>
    rw [hskip] at h
    cases h
  · next h =>
    cases hskip.symm.trans h
    exact (gives_readString room s rest).map (fun _ hv => congrArg Json.string hv) (fun _ => rfl)

theorem decodes_array {room : Nat} {xs : List Json}
    (h : ∀ deeper, room = deeper + 1 → ∀ x ∈ xs, Decodes (readValue deeper) deeper x x) :
    Decodes (readValue room) room (.array xs) (.array xs) := by
  refine ⟨delimited_array xs, ?_⟩
  intro l depth gap rest hgap
  have hskip := skipBlanks_array hgap l depth xs rest
  unfold readValue
  split
  · next heq =>
    rw [hskip] at heq
    cases heq
  · next heq =>
    cases hskip.symm.trans heq
    cases room with
    | zero => exact .tooDeep (Nat.not_le.mpr (nesting_array_pos xs)) rfl rfl
    | succ room =>
      have hitems := gives_readItems (f := id) (h room rfl) l depth rest true
      rw [List.map_id] at hitems
      exact (hitems.congr nesting_array_le.symm).map (fun _ hv => congrArg Json.array hv)
        (fun _ => rfl)

theorem decodes_object {room : Nat} {es : List (String × Json)} (hdistinct : Keyed.Distinct es)
    (h : ∀ deeper, room = deeper + 1 → ∀ e ∈ es, Decodes (readValue deeper) deeper e.2 e.2) :
    Decodes (readValue room) room (.object es) (.object es) := by
  refine ⟨delimited_object es, ?_⟩
  intro l depth gap rest hgap
  have hskip := skipBlanks_object hgap l depth es rest
  unfold readValue
  split
  · next heq =>
    rw [hskip] at heq
    cases heq
  · next heq =>
    cases hskip.symm.trans heq
    cases room with
    | zero => exact .tooDeep (Nat.not_le.mpr (nesting_object_pos es)) rfl rfl
    | succ room =>
      have hentries := gives_readEntries (f := id) (h room rfl) l depth rest true
      rw [show Keyed.mapValues id es = es from List.map_id es] at hentries
      refine (hentries.congr nesting_object_le.symm).map (fun x hv => ?_) (fun _ => rfl)
      show object (Keyed.ofEntries x.value) = _
      rw [hv, Keyed.ofEntries_of_distinct hdistinct]

/-- **Values of strings and containers are read back**, and refused where they are too deep. -/
theorem Textual.decodes {v : Json} (h : v.Textual) :
    ∀ room, Decodes (readValue room) room v v := by
  induction h with
  | string s => exact fun room => decodes_string room s
  | array _ ih => exact fun room => decodes_array fun deeper _ x hx => ih x hx deeper
  | object hdistinct _ ih =>
    exact fun room => decodes_object hdistinct fun deeper _ e he => ih e he deeper

theorem Textual.parse_write {v : Json} (h : v.Textual) (hdeep : v.nesting ≤ deepest) (l : Layout) :
    parse (v.write l) = .ok v := by
  have hchars : parseChars (v.chars l 0) = .ok v := by
    rcases (h.decodes deepest).gives_whole l 0 with ⟨_, hlt, hread⟩ | ⟨hfits, _⟩
    · rw [parseChars, hread]
      rfl
    · exact absurd hdeep hfits
  rw [parse, write, String.toList_ofList, hchars]

end Json
end SampleSchema
