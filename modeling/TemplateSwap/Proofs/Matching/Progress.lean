import TemplateSwap.Proofs.Matching.Outcomes
import Mathlib.Order.Nat

namespace TemplateSwap.Pattern

def Mark.index : Mark → Nat
  | .start index => index
  | .stop index => index

namespace Regex

/-- The numbers of all groups of the expression have a property. -/
def Groups (P : Nat → Prop) : Regex → Prop
  | cat a b | choice a b | whether _ a b => a.Groups P ∧ b.Groups P
  | loop _ _ _ body | scope _ _ body | atomic body | ahead _ body | behind _ body => body.Groups P
  | group index body => P index ∧ body.Groups P
  | _ => True

theorem Groups.imp {P Q : Nat → Prop} {r : Regex} (h : r.Groups P) (hPQ : ∀ i, P i → Q i) :
    r.Groups Q := by
  induction r with
  | cat a b iha ihb | choice a b iha ihb | whether _ a b iha ihb => exact ⟨iha h.1, ihb h.2⟩
  | group index body ih => exact ⟨hPQ index h.1, ih h.2⟩
  | loop _ _ _ body ih | scope _ _ body ih | atomic body ih | ahead _ body ih | behind _ body ih =>
    exact ih h
  | _ => trivial

theorem groups_true (r : Regex) : r.Groups fun _ => True := by
  induction r with
  | cat a b iha ihb | choice a b iha ihb | whether _ a b iha ihb => exact ⟨iha, ihb⟩
  | group index body ih => exact ⟨trivial, ih⟩
  | loop _ _ _ body ih | scope _ _ body ih | atomic body ih | ahead _ body ih | behind _ body ih =>
    exact ih
  | _ => trivial

end Regex

/-- Another state is further on in the text and has only more marks, those of groups with a property. -/
structure State.Reaches (text : Subject) (P : Nat → Prop) (s s' : State) : Prop where
  le : s.position ≤ s'.position
  bounded : s.position ≤ text.size → s'.position ≤ text.size
  marks : ∃ added, s'.marks = added ++ s.marks ∧ ∀ entry ∈ added, P entry.1.index

namespace State.Reaches

variable {text : Subject} {P : Nat → Prop}

theorem refl (s : State) : s.Reaches text P s := ⟨le_refl _, id, [], rfl, by simp⟩

theorem trans {s t u : State} (h : s.Reaches text P t) (k : t.Reaches text P u) :
    s.Reaches text P u := by
  obtain ⟨first, hfirst, hd⟩ := h.marks
  obtain ⟨second, hsecond, he⟩ := k.marks
  refine ⟨h.le.trans k.le, fun hs => k.bounded (h.bounded hs), second ++ first, ?_, ?_⟩
  · rw [hsecond, hfirst, List.append_assoc]
  · intro entry hentry
    rcases List.mem_append.mp hentry with hentry | hentry
    · exact he entry hentry
    · exact hd entry hentry

theorem imp {Q : Nat → Prop} {s s' : State} (h : s.Reaches text P s') (hPQ : ∀ i, P i → Q i) :
    s.Reaches text Q s' := by
  obtain ⟨added, hadded, hP⟩ := h.marks
  exact ⟨h.le, h.bounded, added, hadded, fun entry hentry => hPQ _ (hP entry hentry)⟩

theorem mark (s : State) (m : Mark) (h : P m.index) : s.Reaches text P (s.mark m) :=
  ⟨le_refl _, id, [(m, s.position)], rfl, by simpa using h⟩

theorem move (s : State) (position : Nat) (h : s.position ≤ position)
    (hb : s.position ≤ text.size → position ≤ text.size) :
    s.Reaches text P { s with position } := ⟨h, hb, [], rfl, by simp⟩

/-- Looking around keeps the marks that were made and returns to the position. -/
theorem returning {s t s' : State} (h : t.Reaches text P s') (ht : t.marks = s.marks) :
    s.Reaches text P { s' with position := s.position } := by
  obtain ⟨added, hadded, hd⟩ := h.marks
  exact ⟨le_refl _, id, added, by rw [hadded, ht], hd⟩

/-- Marks of other groups are as they were. -/
theorem lookup_mark {s s' : State} (h : s.Reaches text P s') (m : Mark) (hm : ¬P m.index) :
    s'.marks.lookup m = s.marks.lookup m := by
  obtain ⟨added, hadded, hP⟩ := h.marks
  rw [hadded, List.lookup_append]
  have hnone : added.lookup m = none := by
    rw [List.lookup_eq_none_iff]
    intro entry hentry
    have hne : m ≠ entry.1 := by
      intro heq
      obtain rfl := heq
      exact hm (hP entry hentry)
    simpa using hne
  rw [hnone, Option.none_or]

theorem span? {s s' : State} (h : s.Reaches text P s') (index : Nat) (hi : ¬P index) :
    s'.span? index = s.span? index := by
  unfold State.span?
  rw [h.lookup_mark (.start index) hi, h.lookup_mark (.stop index) hi]

end State.Reaches

namespace Loop

variable {body : Outcomes} {P : State → State → Prop}

/-- What holds between a state and itself, of every round, and of two rounds if of each, holds of a
whole loop. -/
theorem exactlyOutcomes_rel (hrefl : ∀ s, P s s) (htrans : ∀ s t u, P s t → P t u → P s u)
    (hbody : ∀ s, ∀ s' ∈ body s, P s s') (n : Nat) (s : State) :
    ∀ s' ∈ exactlyOutcomes body n s, P s s' := by
  induction n generalizing s with
  | zero =>
    intro s' hs
    rw [List.mem_singleton.mp hs]
    exact hrefl s
  | succ n ih =>
    intro s' hs
    obtain ⟨t, ht, hs⟩ := List.mem_flatMap.mp hs
    exact htrans _ _ _ (hbody s t ht) (ih t s' hs)

theorem greedyOutcomes_rel (hrefl : ∀ s, P s s) (htrans : ∀ s t u, P s t → P t u → P s u)
    (hbody : ∀ s, ∀ s' ∈ body s, P s s') (room : Nat) (last : Option Nat) (s : State) :
    ∀ s' ∈ greedyOutcomes body room last s, P s s' := by
  induction room generalizing last s with
  | zero =>
    intro s' hs
    rw [List.mem_singleton.mp hs]
    exact hrefl s
  | succ room ih =>
    intro s' hs
    simp only [greedyOutcomes] at hs
    split at hs
    · rw [List.mem_singleton.mp hs]
      exact hrefl s
    · rcases List.mem_append.mp hs with hs | hs
      · obtain ⟨t, ht, hs⟩ := List.mem_flatMap.mp hs
        exact htrans _ _ _ (hbody s t ht) (ih _ t s' hs)
      · rw [List.mem_singleton.mp hs]
        exact hrefl s

theorem lazyOutcomes_rel (hrefl : ∀ s, P s s) (htrans : ∀ s t u, P s t → P t u → P s u)
    (hbody : ∀ s, ∀ s' ∈ body s, P s s') (room : Nat) (last : Option Nat) (s : State) :
    ∀ s' ∈ lazyOutcomes body room last s, P s s' := by
  induction room generalizing last s with
  | zero =>
    intro s' hs
    rw [List.mem_singleton.mp hs]
    exact hrefl s
  | succ room ih =>
    intro s' hs
    simp only [lazyOutcomes] at hs
    rcases List.mem_cons.mp hs with rfl | hs
    · exact hrefl _
    · split at hs
      · simp at hs
      · obtain ⟨t, ht, hs⟩ := List.mem_flatMap.mp hs
        exact htrans _ _ _ (hbody s t ht) (ih _ t s' hs)

theorem firstOf_mem {s s' : State} (h : s' ∈ firstOf body s) : s' ∈ body s :=
  List.mem_of_head? (Option.mem_toList.mp h)

theorem possessiveOutcome_rel (hrefl : ∀ s, P s s) (htrans : ∀ s t u, P s t → P t u → P s u)
    (hbody : ∀ s, ∀ s' ∈ body s, P s s') (room : Nat) (last : Option Nat) (s : State) :
    P s (possessiveOutcome body room last s) := by
  induction room generalizing last s with
  | zero => exact hrefl s
  | succ room ih =>
    simp only [possessiveOutcome]
    split
    · exact hrefl s
    · split
      · next t ht => exact htrans _ _ _ (hbody s t (List.mem_of_head? ht)) (ih _ t)
      · exact hrefl s

theorem outcomes_rel (hrefl : ∀ s, P s s) (htrans : ∀ s t u, P s t → P t u → P s u)
    (hbody : ∀ s, ∀ s' ∈ body s, P s s') (greed : Greed) (text : Subject) (least : Nat)
    (most : Option Nat) (s : State) : ∀ s' ∈ outcomes greed text least most body s, P s s' := by
  intro s' hs
  cases greed with
  | greedy =>
    obtain ⟨t, ht, hs⟩ := List.mem_flatMap.mp hs
    exact htrans _ _ _ (exactlyOutcomes_rel hrefl htrans hbody least s t ht)
      (greedyOutcomes_rel hrefl htrans hbody _ _ t s' hs)
  | lazy =>
    obtain ⟨t, ht, hs⟩ := List.mem_flatMap.mp hs
    exact htrans _ _ _ (exactlyOutcomes_rel hrefl htrans hbody least s t ht)
      (lazyOutcomes_rel hrefl htrans hbody _ _ t s' hs)
  | possessive =>
    obtain ⟨t, ht, rfl⟩ := List.mem_map.mp hs
    have hfirst : ∀ s, ∀ s' ∈ firstOf body s, P s s' := fun s s' h => hbody s s' (firstOf_mem h)
    exact htrans _ _ _ (exactlyOutcomes_rel hrefl htrans hfirst least s t (firstOf_mem ht))
      (possessiveOutcome_rel hrefl htrans hbody _ _ t)

end Loop

/-- Text that comes again at a position lies within the text. -/
theorem repeats_bounded {flags : Flags} {text : Subject} {first position n : Nat}
    (h : repeats flags text first position n = true) (hp : position ≤ text.size) :
    position + n ≤ text.size := by
  induction n generalizing first position with
  | zero => exact hp
  | succ n ih =>
    simp only [repeats] at h
    split at h
    · next c d hc hd =>
      obtain ⟨hlt, -⟩ := Array.getElem?_eq_some_iff.mp hd
      have hrest := ih (Bool.and_eq_true_iff.mp h).2 (by omega)
      omega
    · simp at h

namespace Regex

theorem outcomes_reach {text : Subject} {P : Nat → Prop} {r : Regex} (hr : r.Groups P) (flags : Flags)
    (s : State) : ∀ s' ∈ r.outcomes text flags s, s.Reaches text P s' := by
  induction r generalizing flags s with
  | empty =>
    intro s' hs
    rw [List.mem_singleton.mp hs]
    exact .refl s
  | single test =>
    intro s' hs
    simp only [outcomes] at hs
    split at hs
    · next c hc =>
      split at hs
      · obtain ⟨hlt, -⟩ := Array.getElem?_eq_some_iff.mp hc
        rw [List.mem_singleton.mp hs]
        exact .move s _ (by omega) (by omega)
      · simp at hs
    · simp at hs
  | anchor place =>
    intro s' hs
    simp only [outcomes] at hs
    split at hs
    · rw [List.mem_singleton.mp hs]
      exact .refl s
    · simp at hs
  | cat a b iha ihb =>
    intro s' hs
    obtain ⟨t, ht, hs⟩ := List.mem_flatMap.mp hs
    exact (iha hr.1 flags s t ht).trans (ihb hr.2 flags t s' hs)
  | choice a b iha ihb =>
    intro s' hs
    rcases List.mem_append.mp hs with hs | hs
    · exact iha hr.1 flags s s' hs
    · exact ihb hr.2 flags s s' hs
  | loop greed least most body ih =>
    exact Loop.outcomes_rel .refl (fun _ _ _ => .trans) (ih hr flags) greed text least most s
  | group index body ih =>
    intro s' hs
    obtain ⟨t, ht, rfl⟩ := List.mem_map.mp hs
    exact ((State.Reaches.mark s (.start index) hr.1).trans (ih hr.2 flags _ t ht)).trans
      (.mark t (.stop index) hr.1)
  | scope on off body ih => exact ih hr (flags.within on off) s
  | atomic body ih =>
    intro s' hs
    exact ih hr flags s s' (Loop.firstOf_mem hs)
  | ahead negated body ih =>
    intro s' hs
    simp only [outcomes] at hs
    split at hs
    · next t ht =>
      split at hs
      · simp at hs
      · rw [List.mem_singleton.mp hs]
        exact (ih hr flags s t (List.mem_of_head? ht)).returning rfl
    · split at hs
      · rw [List.mem_singleton.mp hs]
        exact .refl s
      · simp at hs
  | behind negated body ih =>
    intro s' hs
    simp only [outcomes] at hs
    split at hs
    · split at hs
      · rw [List.mem_singleton.mp hs]
        exact .refl s
      · simp at hs
    · split at hs
      · next t ht =>
        split at hs
        · simp at hs
        · rw [List.mem_singleton.mp hs]
          exact (ih hr flags _ t (List.mem_of_head? ht)).returning rfl
      · split at hs
        · rw [List.mem_singleton.mp hs]
          exact .refl s
        · simp at hs
  | backref index width =>
    intro s' hs
    simp only [outcomes] at hs
    split at hs
    · split at hs
      · next hrep =>
        rw [List.mem_singleton.mp hs]
        exact .move s _ (by omega) (repeats_bounded hrep)
      · simp at hs
    · simp at hs
  | whether index yes no ihy ihn =>
    intro s' hs
    simp only [outcomes] at hs
    split at hs
    · exact ihy hr.1 flags s s' hs
    · exact ihn hr.2 flags s s' hs

end Regex

end TemplateSwap.Pattern
