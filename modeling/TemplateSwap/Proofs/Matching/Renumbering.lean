import TemplateSwap.Proofs.Matching.Scan
import Mathlib.Data.List.Forall2

namespace TemplateSwap.Pattern

namespace Regex

/-- Move the numbers of groups, in their places and in references, by a distance. -/
def shift (d : Nat) : Regex → Regex
  | empty => empty
  | single test => single test
  | anchor place => anchor place
  | cat a b => cat (a.shift d) (b.shift d)
  | choice a b => choice (a.shift d) (b.shift d)
  | loop greed least most body => loop greed least most (body.shift d)
  | group index body => group (index + d) (body.shift d)
  | scope on off body => scope on off (body.shift d)
  | atomic body => atomic (body.shift d)
  | ahead negated body => ahead negated (body.shift d)
  | behind negated body => behind negated (body.shift d)
  | backref index width => backref (index + d) width
  | whether index yes no => whether (index + d) (yes.shift d) (no.shift d)

/-- Groups are numbered from one, and only such numbers are referred to. -/
def Numbered : Regex → Prop
  | cat a b | choice a b => a.Numbered ∧ b.Numbered
  | loop _ _ _ body | scope _ _ body | atomic body | ahead _ body | behind _ body => body.Numbered
  | group index body => 0 < index ∧ body.Numbered
  | backref index _ => 0 < index
  | whether index yes no => 0 < index ∧ yes.Numbered ∧ no.Numbered
  | empty | single _ | anchor _ => True

@[simp] theorem width_shift (d : Nat) (r : Regex) : (r.shift d).width = r.width := by
  induction r with
  | cat a b iha ihb | choice a b iha ihb | whether _ a b iha ihb => simp only [shift, width, iha, ihb]
  | loop _ _ _ body ih | group _ body ih | scope _ _ body ih | atomic body ih =>
    simp only [shift, width, ih]
  | _ => rfl

end Regex

def Mark.shift (d : Nat) : Mark → Mark
  | .start index => .start (index + d)
  | .stop index => .stop (index + d)

theorem Mark.shift_inj {d : Nat} {a b : Mark} : a.shift d = b.shift d ↔ a = b := by
  cases a <;> cases b <;> simp [Mark.shift]

/-- The same place in the text, with all marks of groups renumbered. There may be other marks. -/
structure State.Shifted (d : Nat) (s s' : State) : Prop where
  position : s'.position = s.position
  marks : ∀ m : Mark, 0 < m.index → s'.marks.lookup (m.shift d) = s.marks.lookup m

namespace State.Shifted

variable {d : Nat} {s s' : State}

theorem span? (h : s.Shifted d s') {index : Nat} (hi : 0 < index) :
    s'.span? (index + d) = s.span? index := by
  unfold State.span?
  rw [← h.marks (.start index) hi, ← h.marks (.stop index) hi]
  rfl

theorem mark (h : s.Shifted d s') (m : Mark) : (s.mark m).Shifted d (s'.mark (m.shift d)) := by
  refine ⟨h.position, fun n hn => ?_⟩
  simp only [State.mark, List.lookup_cons, h.position, h.marks n hn]
  have heq : (n.shift d == m.shift d) = (n == m) := by
    rw [Bool.eq_iff_iff, beq_iff_eq, beq_iff_eq, Mark.shift_inj]
  rw [heq]

theorem move (h : s.Shifted d s') {position position' : Nat} (hp : position' = position) :
    State.Shifted d { s with position } { s' with position := position' } := ⟨hp, h.marks⟩

end State.Shifted

namespace Loop

variable {d : Nat} {body body' : Outcomes}

/-- Two ways to go on lead to the same states up to renumbering. -/
def Corresponds (d : Nat) (body body' : Outcomes) : Prop :=
  ∀ s s', s.Shifted d s' → List.Forall₂ (State.Shifted d) (body s) (body' s')

theorem forall₂_flatMap {xs ys : List State} (h : List.Forall₂ (State.Shifted d) xs ys)
    (hbody : Corresponds d body body') :
    List.Forall₂ (State.Shifted d) (xs.flatMap body) (ys.flatMap body') := by
  induction h with
  | nil => exact .nil
  | cons hs _ ih => exact List.rel_append (hbody _ _ hs) ih

theorem Corresponds.head? (h : Corresponds d body body') {s s' : State} (hs : s.Shifted d s') :
    (∃ t t', (body s).head? = some t ∧ (body' s').head? = some t' ∧ t.Shifted d t') ∨
      ((body s).head? = none ∧ (body' s').head? = none) := by
  have hall := h s s' hs
  cases hb : body s with
  | nil =>
    rw [hb, List.forall₂_nil_left_iff] at hall
    exact .inr ⟨rfl, by rw [hall]; rfl⟩
  | cons t ts =>
    rw [hb, List.forall₂_cons_left_iff] at hall
    obtain ⟨t', ts', ht, -, hb'⟩ := hall
    exact .inl ⟨t, t', rfl, by rw [hb']; rfl, ht⟩

theorem Corresponds.firstOf (h : Corresponds d body body') :
    Corresponds d (firstOf body) (firstOf body') := by
  intro s s' hs
  rcases h.head? hs with ⟨t, t', ht, ht', hshift⟩ | ⟨ht, ht'⟩
  · simpa [Loop.firstOf, ht, ht'] using hshift
  · simp [Loop.firstOf, ht, ht']

theorem Corresponds.exactly (h : Corresponds d body body') (n : Nat) :
    Corresponds d (exactlyOutcomes body n) (exactlyOutcomes body' n) := by
  induction n with
  | zero => exact fun s s' hs => .cons hs .nil
  | succ n ih => exact fun s s' hs => forall₂_flatMap (h s s' hs) ih

theorem Corresponds.greedy (h : Corresponds d body body') (room : Nat) (last : Option Nat) :
    Corresponds d (greedyOutcomes body room last) (greedyOutcomes body' room last) := by
  induction room generalizing last with
  | zero => exact fun s s' hs => .cons hs .nil
  | succ room ih =>
    intro s s' hs
    simp only [greedyOutcomes, hs.position]
    split
    · exact .cons hs .nil
    · exact List.rel_append (forall₂_flatMap (h s s' hs) (ih _)) (.cons hs .nil)

theorem Corresponds.lazy (h : Corresponds d body body') (room : Nat) (last : Option Nat) :
    Corresponds d (lazyOutcomes body room last) (lazyOutcomes body' room last) := by
  induction room generalizing last with
  | zero => exact fun s s' hs => .cons hs .nil
  | succ room ih =>
    intro s s' hs
    simp only [lazyOutcomes, hs.position]
    refine .cons hs ?_
    split
    · exact .nil
    · exact forall₂_flatMap (h s s' hs) (ih _)

theorem Corresponds.possessive (h : Corresponds d body body') (room : Nat) (last : Option Nat)
    {s s' : State} (hs : s.Shifted d s') :
    (possessiveOutcome body room last s).Shifted d (possessiveOutcome body' room last s') := by
  induction room generalizing last s s' with
  | zero => exact hs
  | succ room ih =>
    simp only [possessiveOutcome, hs.position]
    split
    · exact hs
    · rcases h.head? hs with ⟨t, t', ht, ht', hshift⟩ | ⟨ht, ht'⟩
      · rw [ht, ht']
        exact ih _ hshift
      · rw [ht, ht']
        exact hs

theorem Corresponds.outcomes (h : Corresponds d body body') (greed : Greed) (text : Subject)
    (least : Nat) (most : Option Nat) :
    Corresponds d (outcomes greed text least most body) (outcomes greed text least most body') := by
  have hroom {t t' : State} (ht : t.Shifted d t') :
      room text least most t' = room text least most t := by
    simp only [room, ht.position]
  intro s s' hs
  cases greed with
  | greedy =>
    refine forall₂_flatMap (h.exactly least s s' hs) fun t t' ht => ?_
    rw [hroom ht]
    exact h.greedy _ none t t' ht
  | lazy =>
    refine forall₂_flatMap (h.exactly least s s' hs) fun t t' ht => ?_
    rw [hroom ht]
    exact h.lazy _ none t t' ht
  | possessive =>
    refine List.rel_map (fun t t' ht => ?_) ((h.firstOf.exactly least).firstOf s s' hs)
    rw [hroom ht]
    exact h.possessive _ none ht

end Loop

namespace Regex

theorem outcomes_shift (text : Subject) (d : Nat) {r : Regex} (hr : r.Numbered) (flags : Flags) :
    Loop.Corresponds d (r.outcomes text flags) ((r.shift d).outcomes text flags) := by
  induction r generalizing flags with
  | empty => exact fun s s' hs => .cons hs .nil
  | single test =>
    intro s s' hs
    simp only [shift, outcomes, hs.position]
    split
    · split
      · exact .cons (hs.move rfl) .nil
      · exact .nil
    · exact .nil
  | anchor place =>
    intro s s' hs
    simp only [shift, outcomes, hs.position]
    split
    · exact .cons hs .nil
    · exact .nil
  | cat a b iha ihb =>
    intro s s' hs
    exact Loop.forall₂_flatMap (iha hr.1 flags s s' hs) (ihb hr.2 flags)
  | choice a b iha ihb =>
    intro s s' hs
    exact List.rel_append (iha hr.1 flags s s' hs) (ihb hr.2 flags s s' hs)
  | loop greed least most body ih => exact (ih hr flags).outcomes greed text least most
  | group index body ih =>
    intro s s' hs
    refine List.rel_map (fun t t' ht => ?_) (ih hr.2 flags _ _ (hs.mark (.start index)))
    exact ht.mark (.stop index)
  | scope on off body ih => exact ih hr (flags.within on off)
  | atomic body ih => exact (ih hr flags).firstOf
  | ahead negated body ih =>
    intro s s' hs
    simp only [shift, outcomes]
    rcases (ih hr flags).head? hs with ⟨t, t', ht, ht', hshift⟩ | ⟨ht, ht'⟩
    · simp only [ht, ht']
      split
      · exact .nil
      · exact .cons (hshift.move hs.position) .nil
    · simp only [ht, ht']
      split
      · exact .cons hs .nil
      · exact .nil
  | behind negated body ih =>
    intro s s' hs
    simp only [shift, outcomes, width_shift, hs.position]
    split
    · split
      · exact .cons hs .nil
      · exact .nil
    · rcases (ih hr flags).head? (hs.move (Eq.refl (s.position - body.width.least))) with
        ⟨t, t', ht, ht', hshift⟩ | ⟨ht, ht'⟩
      · simp only [ht, ht']
        split
        · exact .nil
        · exact .cons (hshift.move rfl) .nil
      · simp only [ht, ht']
        split
        · exact .cons hs .nil
        · exact .nil
  | backref index width =>
    intro s s' hs
    simp only [shift, outcomes, hs.span? hr, hs.position]
    split
    · split
      · exact .cons (hs.move rfl) .nil
      · exact .nil
    · exact .nil
  | whether index yes no ihy ihn =>
    intro s s' hs
    simp only [shift, outcomes, hs.span? hr.1]
    split
    · exact ihy hr.2.1 flags s s' hs
    · exact ihn hr.2.2 flags s s' hs

end Regex

end TemplateSwap.Pattern
