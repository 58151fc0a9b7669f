/-
  The readers of a YAML text go on.

  A reader is told where the text stands and tells where it stands afterwards.  That is the same
  place or a later one, with less of the text left (`Spot.AtOrBefore`).

  1. **What starts with a sign passes it**: names, tags and directives (`readName_passes`,
     `readTag_passes`, `readDirective_passes`).  What follows the sign of a scalar need not be
     anything, so of these readers it is only told that they do not go back (`readBlock_goesOn`,
     `readQuoted_goesOn`).

  2. **A plain scalar has no sign**, and many words end it.  It passes something because its first
     character cannot be the end of it (`PlainContext.read_passes`).
-/
import SampleSchema.Proofs.Steps
import SampleSchema.Yaml.Block
import SampleSchema.Yaml.Plain
import SampleSchema.Yaml.Property
import SampleSchema.Yaml.Quoted

namespace SampleSchema
namespace Yaml

/-! ## Places before other places -/

/-- A place earlier in the text. -/
def Mark.Before (m n : Mark) : Prop := m.line < n.line ∨ m.line = n.line ∧ m.column < n.column

theorem Mark.Before.trans {m n o : Mark} (h : m.Before n) (h' : n.Before o) : m.Before o := by
  unfold Before at *
  omega

theorem Mark.before_right (m : Mark) : m.Before m.right := Or.inr ⟨rfl, Nat.lt_succ_self _⟩

theorem Mark.before_newline (m : Mark) : m.Before m.newline := Or.inl (Nat.lt_succ_self _)

theorem Mark.before_after (m : Mark) (c : Char) : m.Before (m.after c) := by
  unfold after
  split
  · exact m.before_newline
  · exact m.before_right

namespace Spot

/-- From one spot to another one, something has been passed. -/
structure Before (s t : Spot) : Prop where
  mark : s.mark.Before t.mark
  rest : t.rest.length < s.rest.length

/-- One spot is the other one, or comes before it. -/
def AtOrBefore (s t : Spot) : Prop := s = t ∨ s.Before t

variable {s t u : Spot}

theorem Before.trans (h : s.Before t) (h' : t.Before u) : s.Before u :=
  ⟨h.mark.trans h'.mark, Nat.lt_trans h'.rest h.rest⟩

theorem Before.atOrBefore (h : s.Before t) : s.AtOrBefore t := Or.inr h

theorem AtOrBefore.refl (s : Spot) : s.AtOrBefore s := Or.inl rfl

theorem Before.trans_atOrBefore (h : s.Before t) (h' : t.AtOrBefore u) : s.Before u := by
  rcases h' with rfl | h'
  · exact h
  · exact h.trans h'

theorem AtOrBefore.trans (h : s.AtOrBefore t) (h' : t.AtOrBefore u) : s.AtOrBefore u := by
  rcases h with rfl | h
  · exact h'
  · exact (h.trans_atOrBefore h').atOrBefore

theorem AtOrBefore.rest_le (h : s.AtOrBefore t) : t.rest.length ≤ s.rest.length := by
  rcases h with rfl | h
  · exact Nat.le_refl _
  · exact Nat.le_of_lt h.rest

/-- Whoever passes a character and goes on from there has passed something. -/
theorem before_over {m m' : Mark} {c : Char} {r : List Char} (h : m.Before m')
    (h' : AtOrBefore ⟨m', r⟩ t) : Before ⟨m, c :: r⟩ t :=
  Before.trans_atOrBefore ⟨h, Nat.lt_succ_self _⟩ h'

theorem before_next {c : Char} {r : List Char} (h : s.rest = c :: r) : s.Before s.next := by
  obtain ⟨m, rest⟩ := s
  cases h
  exact before_over (m.before_after c) (.refl _)

theorem atOrBefore_next (s : Spot) : s.AtOrBefore s.next := by
  cases h : s.rest with
  | nil => exact Or.inl (by rw [next, h])
  | cons c r => exact (before_next h).atOrBefore

theorem rest_of_startsWith {c : Char} (h : s.startsWith c = true) : ∃ r, s.rest = c :: r :=
  List.head?_eq_some_iff.mp (beq_iff_eq.mp h)

theorem atOrBefore_spanFrom (p : Char → Bool) : ∀ (cs : List Char) (m : Mark),
    AtOrBefore ⟨m, cs⟩ (spanFrom p m cs).2
  | [], _ => .refl _
  | c :: cs, m => by
    unfold spanFrom
    split
    · exact (before_over (m.before_after c) (atOrBefore_spanFrom p cs _)).atOrBefore
    · exact .refl _

theorem atOrBefore_span (s : Spot) (p : Char → Bool) : s.AtOrBefore (s.span p).2 :=
  atOrBefore_spanFrom p s.rest s.mark

theorem atOrBefore_skip (s : Spot) (p : Char → Bool) : s.AtOrBefore (s.skip p) :=
  atOrBefore_span s p

theorem atOrBefore_skipComment (s : Spot) : s.AtOrBefore s.skipComment := by
  unfold skipComment
  split
  · exact s.atOrBefore_skip _
  · exact .refl s

theorem atOrBefore_endLine? (h : s.endLine? = some t) : s.AtOrBefore t := by
  have hskip : s.AtOrBefore s.skipBlanks.skipComment :=
    (s.atOrBefore_skip _).trans (atOrBefore_skipComment _)
  unfold endLine? at h
  dsimp only at h
  split at h
  · cases h; exact hskip
  · split at h
    · cases h; exact hskip.trans (atOrBefore_next _)
    · cases h

end Spot

open Spot

/-! ## Readers go on -/

theorem after_of_map_prepend {x : Except Fault Run} {cs : List Char} {r : Run}
    (h : x.map (Run.prepend cs) = .ok r) : ∃ r', x = .ok r' ∧ r'.after = r.after := by
  cases x with
  | error e => cases h
  | ok r' => cases h; exact ⟨r', rfl, rfl⟩

/-! ### Names, tags and directives -/

theorem readName_passes {activity : Activity} {s t : Spot} {name : String} {c : Char}
    {r : List Char} (hs : s.rest = c :: r) (h : readName activity s = .ok (name, t)) :
    s.Before t := by
  unfold readName at h
  dsimp only at h
  split at h
  · cases h
  · cases h
    exact (before_next hs).trans_atOrBefore (atOrBefore_span _ _)

theorem readTagText_goesOn {isWhole : Bool} {activity : Activity} {start m : Mark}
    {awaited : Nat} {cs : List Char} {r : Run}
    (h : readTagText isWhole activity start awaited m cs = .ok r) :
    AtOrBefore ⟨m, cs⟩ r.after := by
  fun_induction readTagText isWhole activity start awaited m cs generalizing r with
  | case1 _ m =>
    rename_i ih
    obtain ⟨r', hr', hafter⟩ := after_of_map_prepend h
    rw [← hafter]
    exact (before_over m.before_right (before_over m.right.before_right
      (before_over m.right.right.before_right (ih hr')).atOrBefore).atOrBefore).atOrBefore
  | case2 => cases h
  | case3 => cases h
  | case4 => cases h; exact .refl _
  | case5 => cases h
  | case6 => cases h
  | case7 _ m _ _ _ _ _ ih =>
    obtain ⟨r', hr', hafter⟩ := after_of_map_prepend h
    rw [← hafter]
    exact (before_over m.before_right (ih hr')).atOrBefore
  | case8 => cases h; exact .refl _

theorem readTagTextFrom_goesOn {head : List Char} {isWhole : Bool} {activity : Activity}
    {start : Mark} {isMissing : Bool} {s t : Spot} {text : String}
    (h : readTagTextFrom head isWhole activity start isMissing s = .ok (text, t)) :
    s.AtOrBefore t := by
  obtain ⟨r, hr, h⟩ := bind_eq_ok_iff.mp h
  split at h
  · cases h
  · cases h; exact readTagText_goesOn hr

theorem readHandle_passes {start : Mark} {activity : Activity} {s t : Spot} {cs : List Char}
    (h : readHandle start activity s = .ok (cs, t)) : s.Before t := by
  unfold readHandle at h
  split at h
  · next hmark =>
    obtain ⟨r, hr⟩ := rest_of_startsWith hmark
    have hname := (before_next hr).trans_atOrBefore (atOrBefore_span _ isNameChar)
    dsimp only at h
    split at h
    · cases h; exact hname.trans_atOrBefore (atOrBefore_next _)
    · cases h; exact hname
  · cases h

theorem readTagName_passes {s t : Spot} {name : TagName} {c : Char} {r : List Char}
    (hs : s.rest = c :: r) (h : readTagName s = .ok (name, t)) : s.Before t := by
  unfold readTagName at h
  split at h
  · obtain ⟨⟨text, u⟩, hu, h⟩ := bind_eq_ok_iff.mp h
    have htext := (before_next hs).trans_atOrBefore
      ((atOrBefore_next _).trans (readTagTextFrom_goesOn hu))
    dsimp only at h
    split at h
    · cases h; exact htext.trans_atOrBefore (atOrBefore_next _)
    · cases h
  · obtain ⟨⟨handle, u⟩, hu, h⟩ := bind_eq_ok_iff.mp h
    dsimp only at h
    split at h
    · obtain ⟨⟨text, v⟩, hv, h⟩ := bind_eq_ok_iff.mp h
      cases h
      exact (readHandle_passes hu).trans_atOrBefore (readTagTextFrom_goesOn hv)
    · obtain ⟨⟨text, v⟩, hv, h⟩ := bind_eq_ok_iff.mp h
      cases h
      exact (readHandle_passes hu).trans_atOrBefore (readTagTextFrom_goesOn hv)

theorem readTag_passes {inFlow : Bool} {s t : Spot} {name : TagName} {c : Char} {r : List Char}
    (hs : s.rest = c :: r) (h : readTag inFlow s = .ok (name, t)) : s.Before t := by
  obtain ⟨⟨name', u⟩, hu, h⟩ := bind_eq_ok_iff.mp h
  dsimp only at h
  split at h
  · cases h; exact readTagName_passes hs hu
  · cases h

theorem readVersionPart_goesOn {start : Mark} {s t : Spot} {n : Nat}
    (h : readVersionPart start s = .ok (n, t)) : s.AtOrBefore t := by
  unfold readVersionPart at h
  dsimp only at h
  split at h
  · cases h
  · split at h
    · cases h
    · cases h; exact s.atOrBefore_span _

theorem readVersion_goesOn {start : Mark} {s t : Spot} {kind : TokenKind}
    (h : readVersion start s = .ok (kind, t)) : s.AtOrBefore t := by
  obtain ⟨⟨major, u⟩, hu, h⟩ := bind_eq_ok_iff.mp h
  dsimp only at h
  split at h
  · obtain ⟨⟨minor, v⟩, hv, h⟩ := bind_eq_ok_iff.mp h
    cases h
    exact ((s.atOrBefore_skip _).trans (readVersionPart_goesOn hu)).trans
      ((atOrBefore_next _).trans (readVersionPart_goesOn hv))
  · cases h

theorem readTagDirective_goesOn {start : Mark} {s t : Spot} {kind : TokenKind}
    (h : readTagDirective start s = .ok (kind, t)) : s.AtOrBefore t := by
  obtain ⟨⟨handle, u⟩, hu, h⟩ := bind_eq_ok_iff.mp h
  dsimp only at h
  split at h
  · cases h
  · split at h
    · cases h
    · obtain ⟨⟨text, v⟩, hv, h⟩ := bind_eq_ok_iff.mp h
      dsimp only at h
      split at h
      · cases h
        exact ((s.atOrBefore_skip _).trans (readHandle_passes hu).atOrBefore).trans
          ((atOrBefore_skip _ _).trans (readTagTextFrom_goesOn hv))
      · cases h

theorem readDirective_passes {s t : Spot} {kind : TokenKind} {c : Char} {r : List Char}
    (hs : s.rest = c :: r) (h : readDirective s = .ok (kind, t)) : s.Before t := by
  unfold readDirective at h
  dsimp only at h
  have hname := (before_next hs).trans_atOrBefore (atOrBefore_span s.next isNameChar)
  split at h
  · cases h
  · split at h
    · cases h
    · have hline : ∀ {u v : Spot}, (s.next.span isNameChar).2.AtOrBefore u →
          u.endLine? = some v → s.Before v :=
        fun hu hv => (hname.trans_atOrBefore hu).trans_atOrBefore (atOrBefore_endLine? hv)
      split at h
      · obtain ⟨⟨kind', u⟩, hu, h⟩ := bind_eq_ok_iff.mp h
        dsimp only at h
        split at h
        · next hend => cases h; exact hline (readVersion_goesOn hu) hend
        · cases h
      · split at h
        · obtain ⟨⟨kind', u⟩, hu, h⟩ := bind_eq_ok_iff.mp h
          dsimp only at h
          split at h
          · next hend => cases h; exact hline (readTagDirective_goesOn hu) hend
          · cases h
        · cases h

/-! ### Scalars -/

theorem atOrBefore_readChomping (s : Spot) : s.AtOrBefore (readChomping s).2 := by
  unfold readChomping
  split
  · exact s.atOrBefore_next
  · exact .refl s

theorem readIncrement_goesOn {start : Mark} {s t : Spot} {n : Option Nat}
    (h : readIncrement start s = .ok (n, t)) : s.AtOrBefore t := by
  unfold readIncrement at h
  split at h
  · cases h; exact .refl s
  · split at h
    · cases h
    · split at h
      · cases h; exact s.atOrBefore_next
      · cases h; exact .refl s

theorem readHeader_goesOn {start : Mark} {s t : Spot} {header : BlockHeader}
    (h : readHeader start s = .ok (header, t)) : s.AtOrBefore t := by
  obtain ⟨⟨increment, u⟩, hu, h⟩ := bind_eq_ok_iff.mp h
  have hboth := (atOrBefore_readChomping s).trans (readIncrement_goesOn hu)
  dsimp only at h
  split at h
  · cases h; exact hboth.trans (atOrBefore_readChomping u)
  · cases h; exact hboth

theorem Block.readLines_goesOn {b : Block} {indent : Nat} {wasSpaced : Bool} {e : LineEnds}
    {state : InBlock} {m : Mark} {cs : List Char} {r : Run}
    (h : b.readLines indent wasSpaced e state m cs = .ok r) : AtOrBefore ⟨m, cs⟩ r.after := by
  induction cs generalizing indent wasSpaced e state m r with
  | nil => cases h; exact .refl _
  | cons c cs ih =>
    have hover : ∀ {indent wasSpaced e state r'},
        b.readLines indent wasSpaced e state (m.after c) cs = .ok r' →
        AtOrBefore ⟨m, c :: cs⟩ r'.after :=
      fun h => (before_over (m.before_after c) (ih h)).atOrBefore
    cases state with
    | line =>
      unfold readLines at h
      dsimp only at h
      split at h
      · exact hover h
      · obtain ⟨r', hr', hafter⟩ := after_of_map_prepend h
        exact hafter ▸ hover hr'
    | margin deepest =>
      unfold readLines at h
      dsimp only at h
      split at h
      · exact hover h
      · split at h
        · cases h
        · split at h
          · exact hover h
          · -- whatever the column of the lines is
            generalize (if indent = 0 then max (max (max deepest m.column) b.floor) 1
              else indent) = column at h
            split at h
            · obtain ⟨r', hr', hafter⟩ := after_of_map_prepend h
              exact hafter ▸ hover hr'
            · cases h; exact .refl _

theorem readBlock_goesOn {isLiteral : Bool} {floor : Nat} {start : Mark} {s : Spot} {r : Run}
    (h : readBlock isLiteral floor start s = .ok r) : s.AtOrBefore r.after := by
  obtain ⟨⟨header, t⟩, ht, h⟩ := bind_eq_ok_iff.mp h
  dsimp only at h
  split at h
  · cases h
  · next u hu =>
    exact ((readHeader_goesOn ht).trans (atOrBefore_endLine? hu)).trans
      (Block.readLines_goesOn h)

theorem readQuoted_goesOn {q : QuoteStyle} {start : Mark} {state : InQuotes} {m : Mark}
    {cs : List Char} {r : Run} (h : readQuoted q start state m cs = .ok r) :
    AtOrBefore ⟨m, cs⟩ r.after := by
  induction cs generalizing state m r with
  | nil => cases state <;> cases h
  | cons c cs ih =>
    have hover : ∀ {state r'}, readQuoted q start state (m.after c) cs = .ok r' →
        AtOrBefore ⟨m, c :: cs⟩ r'.after :=
      fun h => (before_over (m.before_after c) (ih h)).atOrBefore
    have hput : ∀ {state text}, (readQuoted q start state (m.after c) cs).map (Run.prepend text) =
        .ok r → AtOrBefore ⟨m, c :: cs⟩ r.after := by
      intro state text h
      obtain ⟨r', hr', hafter⟩ := after_of_map_prepend h
      exact hafter ▸ hover hr'
    cases state with
    | words g =>
      unfold readQuoted at h
      dsimp only at h
      split at h
      · exact hover h
      · split at h
        · exact hover h
        · split at h
          · cases h
          · split at h
            · split at h
              · exact hput h
              · cases h; exact (before_over (m.before_after c) (.refl _)).atOrBefore
            · split at h
              · exact hput h
              · exact hput h
    | twin => exact hput h
    | escape back =>
      unfold readQuoted at h
      dsimp only at h
      split at h
      · exact hover h
      · split at h
        · exact hput h
        · exact hover h
        · cases h
    | code since count value =>
      unfold readQuoted at h
      dsimp only at h
      split at h
      · cases h
      · split at h
        · split at h
          · cases h
          · exact hput h
        · exact hover h

namespace PlainContext

theorem after_of_map_prepend {x : Except Fault Plain} {cs : List Char} {p : Plain}
    (h : x.map (Plain.prepend cs) = .ok p) : ∃ p', x = .ok p' ∧ p'.after = p.after := by
  cases x with
  | error e => cases h
  | ok p' => cases h; exact ⟨p', rfl, rfl⟩

theorem read_goesOn {x : PlainContext} {g : Gap} {m : Mark} {cs : List Char} {p : Plain}
    (h : x.read g m cs = .ok p) : AtOrBefore ⟨m, cs⟩ p.after := by
  induction cs generalizing g m p with
  | nil => cases h; exact .refl _
  | cons c cs ih =>
    have hover : ∀ {g p'}, x.read g (m.after c) cs = .ok p' → AtOrBefore ⟨m, c :: cs⟩ p'.after :=
      fun h => (before_over (m.before_after c) (ih h)).atOrBefore
    unfold read at h
    split at h
    · split at h
      · cases h
      · exact hover h
    · split at h
      · exact hover h
      · split at h
        · cases h; exact .refl _
        · split at h
          · cases h
          · split at h
            · cases h; exact .refl _
            · obtain ⟨p', hp', hafter⟩ := after_of_map_prepend h
              exact hafter ▸ hover hp'

/-- A word starts with a character that is passed. -/
theorem read_passes {x : PlainContext} {m : Mark} {c : Char} {cs : List Char} {p : Plain}
    (hblank : isBlank c = false) (hbreak : isBreak c = false)
    (hend : x.endsBefore (c :: cs) = false) (h : x.read .none m (c :: cs) = .ok p) :
    Before ⟨m, c :: cs⟩ p.after := by
  rw [read, hblank, hbreak, hend] at h
  simp only [Bool.false_eq_true, if_false, Gap.isNone, Gap.none, decide_true, Bool.not_true,
    Bool.false_and] at h
  split at h
  · cases h
  · obtain ⟨p', hp', hafter⟩ := after_of_map_prepend h
    exact hafter ▸ before_over (m.before_after c) (read_goesOn hp')

end PlainContext

end Yaml
end SampleSchema
