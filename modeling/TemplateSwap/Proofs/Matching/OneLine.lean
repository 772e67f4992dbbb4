import TemplateSwap.Proofs.Reading.Lines
import TemplateSwap.Pattern.Match
import TemplateSwap.Text.Lines

namespace TemplateSwap.Pattern

open TemplateSwap.Text (Code Lines.lineBreak)

/-- Whatever a scope turns on or off, it hides no other difference than the surroundings do. -/
theorem Flags.within_acrossLines (f on off : Flags) :
    (f.acrossLines.within on off).acrossLines = (f.within on off).acrossLines := by
  unfold within
  split <;> rfl

theorem Single.accepts_acrossLines {c : Code} (h : c ≠ Lines.lineBreak) (flags : Flags) (test : Single) :
    test.accepts flags.acrossLines c = test.accepts flags c := by
  cases test with
  | any =>
    have hbreak : (c != 10) = true := bne_iff_ne.mpr h
    simp only [accepts, hbreak, Bool.or_true]
  | _ => rfl

section

variable {text : Subject} (htext : Lines.lineBreak ∉ text)

include htext

theorem getElem?_ne_lineBreak (position : Nat) : text[position]? ≠ some Lines.lineBreak := by
  intro h
  exact htext (Array.mem_of_getElem? h)

theorem Anchor.holds_acrossLines (flags : Flags) (position : Nat) (place : Anchor) :
    place.holds flags.acrossLines text position = place.holds flags text position := by
  have hbreak (position : Nat) : (text[position]? == some 10) = false :=
    beq_false_of_ne (getElem?_ne_lineBreak htext position)
  cases place with
  | lineStart | lineEnd => simp only [holds, hbreak, Bool.and_false, Bool.false_and]
  | _ => rfl

omit htext in
theorem repeats_acrossLines (flags : Flags) (first position length : Nat) :
    repeats flags.acrossLines text first position length = repeats flags text first position length := by
  induction length generalizing first position with
  | zero => rfl
  | succ length ih =>
    simp only [repeats, ih]
    rfl

theorem run_acrossLines (r : Regex) (flags : Flags) : r.run text flags.acrossLines = r.run text flags := by
  induction r generalizing flags with
  | empty => rfl
  | single test =>
    funext s k
    unfold Regex.run
    split
    · next c hc =>
      have hne : c ≠ Lines.lineBreak := fun heq => getElem?_ne_lineBreak htext s.position (heq ▸ hc)
      rw [Single.accepts_acrossLines hne]
    · rfl
  | anchor place =>
    funext s k
    simp only [Regex.run, Anchor.holds_acrossLines htext]
  | cat a b iha ihb | choice a b iha ihb | whether _ a b iha ihb =>
    funext s k
    simp only [Regex.run, iha, ihb]
  | loop _ _ _ body ih | group _ body ih | atomic body ih | ahead _ body ih | behind _ body ih =>
    funext s k
    simp only [Regex.run, ih]
  | scope on off body ih =>
    simp only [Regex.run]
    rw [← ih (flags.acrossLines.within on off), Flags.within_acrossLines, ih]
  | backref index width =>
    funext s k
    simp only [Regex.run, repeats_acrossLines]

theorem matchAt_acrossLines (p : Pattern) (start : Nat) (nonempty : Bool) :
    p.acrossLines.matchAt text start nonempty = p.matchAt text start nonempty := by
  unfold matchAt acrossLines
  rw [run_acrossLines htext]

theorem searchFrom_acrossLines (p : Pattern) (positions start : Nat) (nonempty : Bool) :
    p.acrossLines.searchFrom text positions start nonempty = p.searchFrom text positions start nonempty := by
  induction positions generalizing start nonempty with
  | zero => rfl
  | succ positions ih => rw [searchFrom, searchFrom, matchAt_acrossLines htext, ih]

theorem findFrom_acrossLines (p : Pattern) (limit start : Nat) (nonempty : Bool) :
    p.acrossLines.findFrom text limit start nonempty = p.findFrom text limit start nonempty := by
  induction limit generalizing start nonempty with
  | zero => rfl
  | succ limit ih =>
    simp only [findFrom, search, searchFrom_acrossLines htext, ih]

/-- In a text of one line the same matches are found. -/
theorem find_acrossLines (p : Pattern) (firstOnly : Bool) :
    p.acrossLines.find text firstOnly = p.find text firstOnly :=
  findFrom_acrossLines htext p _ _ _

end

end TemplateSwap.Pattern
