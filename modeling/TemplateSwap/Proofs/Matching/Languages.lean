import TemplateSwap.Proofs.Matching.Outcomes
import Mathlib.Computability.Language

namespace TemplateSwap.Pattern

open TemplateSwap.Text (Code)
open scoped Computability

/-- The same state some characters further on. -/
def State.advance (s : State) (n : Nat) : State := { s with position := s.position + n }

theorem State.advance_zero (s : State) : s.advance 0 = s := rfl

theorem State.advance_advance (s : State) (m n : Nat) : (s.advance m).advance n = s.advance (m + n) := by
  simp [advance, Nat.add_assoc]

theorem append_prefix_iff {α : Type} {front next text : List α} :
    front ++ next <+: text ↔ front <+: text ∧ next <+: text.drop front.length := by
  constructor
  · intro h
    obtain ⟨rest, rfl⟩ := h
    rw [List.append_assoc, List.drop_left]
    exact ⟨List.prefix_append _ _, List.prefix_append _ _⟩
  · intro h
    obtain ⟨⟨rest, rfl⟩, hnext⟩ := h
    rw [List.drop_left] at hnext
    exact (List.prefix_append_right_inj front).mpr hnext

theorem append_mem_kstar {L : Language Code} {front next : List Code} (hfront : front ∈ L) (hnext : next ∈ L∗) :
    front ++ next ∈ L∗ :=
  Set.mem_of_mem_of_subset (Language.append_mem_mul hfront hnext) (mul_kstar_le_kstar (a := L))

theorem exists_append_of_mem_kstar {L : Language Code} {word : List Code} (h : word ∈ L∗) (hne : word ≠ []) :
    ∃ front next, front ≠ [] ∧ front ∈ L ∧ next ∈ L∗ ∧ word = front ++ next := by
  obtain ⟨words, rfl, hwords⟩ := Language.mem_kstar_iff_exists_nonempty.mp h
  cases words with
  | nil => exact absurd rfl hne
  | cons front words =>
    rw [List.forall_mem_cons] at hwords
    have hnext : words.flatten ∈ L∗ := Language.join_mem_kstar fun y hy => (hwords.2 y hy).1
    exact ⟨front, words.flatten, hwords.1.2, hwords.1.1, hnext, List.flatten_cons⟩

theorem greedyOutcomes_stuck (body : Outcomes) (room : Nat) (s : State) :
    Loop.greedyOutcomes body room (some s.position) s = [s] := by
  cases room with
  | zero => rfl
  | succ room => exact if_pos rfl

/-- The outcomes are the states behind the words of a language that come next. -/
def Outcomes.Recognizes (text : Subject) (body : Outcomes) (L : Language Code) : Prop :=
  ∀ s s', s' ∈ body s ↔ ∃ word ∈ L, word <+: text.toList.drop s.position ∧ s' = s.advance word.length

/-- The characters that a test accepts, as words. -/
def Single.language (flags : Flags) (test : Single) : Language Code :=
  {word | ∃ c, test.accepts flags c = true ∧ word = [c]}

namespace Outcomes.Recognizes

variable {text : Subject} {flags : Flags} {body a b : Outcomes} {L M : Language Code} {s s' : State}

theorem empty (text : Subject) (flags : Flags) : Recognizes text (Regex.empty.outcomes text flags) 1 := by
  intro s s'
  rw [Regex.outcomes, List.mem_singleton]
  constructor
  · intro h
    exact ⟨[], Language.mem_one [] |>.mpr rfl, List.nil_prefix, h⟩
  · intro h
    obtain ⟨word, hword, -, rfl⟩ := h
    rw [(Language.mem_one word).mp hword]
    exact s.advance_zero

theorem single (text : Subject) (flags : Flags) (test : Single) :
    Recognizes text ((Regex.single test).outcomes text flags) (test.language flags) := by
  intro s s'
  have hhead : text[s.position]? = (text.toList.drop s.position).head? := by
    rw [List.head?_drop, Array.getElem?_toList]
  simp only [Regex.outcomes, hhead]
  constructor
  · intro h
    cases hrest : text.toList.drop s.position with
    | nil => simp [hrest] at h
    | cons c rest =>
      by_cases haccepts : test.accepts flags c = true
      · simp only [hrest, List.head?_cons, haccepts, if_true, List.mem_singleton] at h
        exact ⟨[c], ⟨c, haccepts, rfl⟩, ⟨rest, rfl⟩, h⟩
      · simp [hrest, haccepts] at h
  · intro h
    obtain ⟨word, ⟨c, haccepts, rfl⟩, ⟨rest, hrest⟩, rfl⟩ := h
    simp [← hrest, haccepts, State.advance]

theorem cat (ha : Recognizes text a L) (hb : Recognizes text b M) :
    Recognizes text (fun s => (a s).flatMap b) (L * M) := by
  intro s s'
  rw [List.mem_flatMap]
  constructor
  · intro h
    obtain ⟨t, ht, hs'⟩ := h
    obtain ⟨front, hfront, hat, rfl⟩ := (ha s t).mp ht
    obtain ⟨next, hnext, hat', rfl⟩ := (hb _ s').mp hs'
    refine ⟨front ++ next, Language.append_mem_mul hfront hnext, ?_, ?_⟩
    · rw [append_prefix_iff, List.drop_drop]
      exact ⟨hat, hat'⟩
    · rw [State.advance_advance, List.length_append]
  · intro h
    obtain ⟨word, hword, hat, rfl⟩ := h
    obtain ⟨front, hfront, next, hnext, rfl⟩ := Language.mem_mul.mp hword
    rw [append_prefix_iff, List.drop_drop] at hat
    refine ⟨s.advance front.length, (ha s _).mpr ⟨front, hfront, hat.1, rfl⟩, (hb _ _).mpr ⟨next, hnext, hat.2, ?_⟩⟩
    rw [State.advance_advance, List.length_append]

theorem choice (ha : Recognizes text a L) (hb : Recognizes text b M) :
    Recognizes text (fun s => a s ++ b s) (L + M) := by
  intro s s'
  rw [List.mem_append, ha s s', hb s s']
  simp only [Language.mem_add, or_and_right, exists_or]

theorem of_eq (h : Recognizes text a L) (heq : b = a) : Recognizes text b L := heq ▸ h

/-- There is room for a round at every character that is left. A round that consumes nothing is the last, but nothing
is lost by it: a repetition is made of words that are not empty. -/
theorem greedy (h : Recognizes text body L) {room : Nat} {last : Option Nat}
    (hroom : text.size < s.position + room) (hlast : last ≠ some s.position) :
    s' ∈ Loop.greedyOutcomes body room last s ↔
      ∃ word ∈ L∗, word <+: text.toList.drop s.position ∧ s' = s.advance word.length := by
  induction room generalizing last s with
  | zero =>
    have hend : text.toList.drop s.position = [] := List.drop_eq_nil_of_le (by simpa using hroom.le)
    rw [Loop.greedyOutcomes, List.mem_singleton, hend]
    constructor
    · intro heq
      exact ⟨[], Language.nil_mem_kstar L, List.prefix_refl [], heq⟩
    · intro hword
      obtain ⟨word, -, hat, rfl⟩ := hword
      rw [List.prefix_nil.mp hat]
      exact s.advance_zero
  | succ room ih =>
    simp only [Loop.greedyOutcomes, if_neg hlast, List.mem_append, List.mem_singleton, List.mem_flatMap]
    have hlater (front : List Code) (hfront : front ≠ []) :=
      have hpos : 0 < front.length := List.length_pos_of_ne_nil hfront
      @ih (s.advance front.length) (some s.position) (by simp only [State.advance]; omega)
        (by simp [State.advance, hfront])
    constructor
    · intro houtcome
      rcases houtcome with ⟨t, ht, hs'⟩ | heq
      · obtain ⟨front, hfront, hat, rfl⟩ := (h s t).mp ht
        by_cases hempty : front = []
        · subst hempty
          rw [List.length_nil, State.advance_zero, greedyOutcomes_stuck, List.mem_singleton] at hs'
          exact ⟨[], Language.nil_mem_kstar L, List.nil_prefix, hs'⟩
        · obtain ⟨next, hnext, hat', rfl⟩ := (hlater front hempty).mp hs'
          refine ⟨front ++ next, append_mem_kstar hfront hnext, ?_, ?_⟩
          · rw [append_prefix_iff, List.drop_drop]
            exact ⟨hat, hat'⟩
          · rw [State.advance_advance, List.length_append]
      · exact ⟨[], Language.nil_mem_kstar L, List.nil_prefix, heq⟩
    · intro hword
      obtain ⟨word, hword, hat, rfl⟩ := hword
      by_cases hempty : word = []
      · subst hempty
        exact .inr s.advance_zero
      · obtain ⟨front, next, hne, hfront, hnext, rfl⟩ := exists_append_of_mem_kstar hword hempty
        rw [append_prefix_iff, List.drop_drop] at hat
        have hend : s.advance (front ++ next).length = (s.advance front.length).advance next.length := by
          rw [State.advance_advance, List.length_append]
        have hthere := (hlater front hne).mpr ⟨next, hnext, hat.2, hend⟩
        exact .inl ⟨_, (h s _).mpr ⟨front, hfront, hat.1, rfl⟩, hthere⟩

theorem star (h : Recognizes text body L) : Recognizes text (Loop.outcomes .greedy text 0 none body) L∗ := by
  intro s s'
  have hroom : text.size < s.position + Loop.room text 0 none s := by
    simp only [Loop.room]
    omega
  simp only [Loop.outcomes, Loop.exactlyOutcomes, List.flatMap_cons, List.flatMap_nil, List.append_nil]
  exact h.greedy hroom (by simp)

theorem option (h : Recognizes text body L) :
    Recognizes text (Loop.outcomes .greedy text 0 (some 1) body) (L + 1) := by
  have hone : Loop.outcomes .greedy text 0 (some 1) body = fun s => body s ++ [s] := by
    funext s
    simp [Loop.outcomes, Loop.exactlyOutcomes, Loop.room, Loop.greedyOutcomes]
  exact (h.choice (empty text {})).of_eq hone

theorem scope {r : Regex} (h : Recognizes text (r.outcomes text flags) L) :
    Recognizes text ((Regex.scope .none .none r).outcomes text flags) L := by
  rw [Regex.outcomes, Flags.within_none]
  exact h

theorem items {rs : List Regex} {Ls : List (Language Code)}
    (h : List.Forall₂ (fun r L => Recognizes text (r.outcomes text flags) L) rs Ls) :
    Recognizes text ((Regex.ofItems rs).outcomes text flags) Ls.prod := by
  induction h with
  | nil => exact empty text flags
  | cons hfirst _ ih =>
    rw [List.prod_cons]
    exact hfirst.cat ih

/-- The branches of a choice are tried one after the other. -/
theorem branches {r : Regex} {rs : List Regex} {Ls : List (Language Code)}
    (hfirst : Recognizes text (r.outcomes text flags) L)
    (hrest : List.Forall₂ (fun r L => Recognizes text (r.outcomes text flags) L) rs Ls) :
    Recognizes text ((Regex.ofBranches r rs).outcomes text flags) (L + Ls.sum) := by
  induction hrest generalizing r L with
  | nil =>
    rw [List.sum_nil, add_zero]
    exact hfirst
  | cons hnext _ ih =>
    rw [List.sum_cons]
    exact hfirst.choice (ih hnext)

end Outcomes.Recognizes

theorem mem_sum {Ls : List (Language Code)} {word : List Code} : word ∈ Ls.sum ↔ ∃ L ∈ Ls, word ∈ L := by
  induction Ls with
  | nil => simp
  | cons L Ls ih =>
    rw [List.sum_cons, Language.mem_add, ih]
    simp

/-- What a test repeated any number of times goes over. -/
theorem Single.kstar_language (flags : Flags) (test : Single) :
    (test.language flags)∗ = {word | ∀ c ∈ word, test.accepts flags c = true} := by
  ext word
  constructor
  · intro h
    obtain ⟨words, rfl, hwords⟩ := Language.mem_kstar.mp h
    intro c hc
    obtain ⟨y, hy, hc⟩ := List.mem_flatten.mp hc
    obtain ⟨d, haccepts, rfl⟩ := hwords y hy
    rw [List.mem_singleton.mp hc]
    exact haccepts
  · intro h
    induction word with
    | nil => exact Language.nil_mem_kstar _
    | cons c word ih =>
      have hall : ∀ d ∈ c :: word, test.accepts flags d = true := h
      rw [List.forall_mem_cons] at hall
      exact @append_mem_kstar _ [c] word ⟨c, hall.1, rfl⟩ (ih hall.2)

/-- A pattern for a language matches the texts that are words of it. -/
theorem fullMatch_iff {p : Pattern} {text : Subject} {L : Language Code}
    (h : Outcomes.Recognizes text (p.regex.outcomes text p.flags) L) :
    p.fullMatch text = true ↔ text.toList ∈ L := by
  rw [fullMatch, Regex.run_tries, List.findSome?_isSome_iff]
  constructor
  · intro hmatch
    obtain ⟨s, hs, hend⟩ := hmatch
    obtain ⟨word, hword, hat, rfl⟩ := (h _ s).mp hs
    have hlength : word.length = text.toList.length := by
      simpa [State.advance] using hend
    have hwhole : word = text.toList := by
      rw [List.drop_zero] at hat
      exact hat.eq_of_length hlength
    rw [← hwhole]
    exact hword
  · intro hword
    refine ⟨_, (h _ _).mpr ⟨text.toList, hword, List.prefix_refl _, rfl⟩, ?_⟩
    simp [State.advance]

end TemplateSwap.Pattern
