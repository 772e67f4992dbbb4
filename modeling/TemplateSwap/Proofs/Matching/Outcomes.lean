import TemplateSwap.Pattern.Match
import Mathlib.Data.List.Basic

namespace TemplateSwap.Pattern

/-- All states that an expression can lead to, in order of preference. -/
abbrev Outcomes := State → List State

namespace Loop

def exactlyOutcomes (body : Outcomes) : Nat → Outcomes
  | 0 => fun s => [s]
  | n + 1 => fun s => (body s).flatMap (exactlyOutcomes body n)

def greedyOutcomes (body : Outcomes) : Nat → Option Nat → Outcomes
  | 0, _ => fun s => [s]
  | room + 1, last => fun s =>
    if last = some s.position then [s]
    else (body s).flatMap (greedyOutcomes body room (some s.position)) ++ [s]

def lazyOutcomes (body : Outcomes) : Nat → Option Nat → Outcomes
  | 0, _ => fun s => [s]
  | room + 1, last => fun s =>
    s :: if last = some s.position then []
      else (body s).flatMap (lazyOutcomes body room (some s.position))

/-- Only the first outcome, if there is one. -/
def firstOf (body : Outcomes) : Outcomes := fun s => (body s).head?.toList

def possessiveOutcome (body : Outcomes) : Nat → Option Nat → State → State
  | 0, _, s => s
  | room + 1, last, s =>
    if last = some s.position then s
    else
      match (body s).head? with
      | some s' => possessiveOutcome body room (some s.position) s'
      | none => s

def outcomes (greed : Greed) (text : Subject) (least : Nat) (most : Option Nat) (body : Outcomes) :
    Outcomes := fun s =>
  match greed with
  | .greedy =>
    (exactlyOutcomes body least s).flatMap fun s' =>
      greedyOutcomes body (room text least most s') none s'
  | .lazy =>
    (exactlyOutcomes body least s).flatMap fun s' =>
      lazyOutcomes body (room text least most s') none s'
  | .possessive =>
    (firstOf (exactlyOutcomes (firstOf body) least) s).map fun s' =>
      possessiveOutcome body (room text least most s') none s'

end Loop

theorem Flags.within_none (flags : Flags) : flags.within .none .none = flags := by
  simp [within, none, union, remove]

namespace Regex

def outcomes (text : Subject) : Flags → Regex → Outcomes
  | _, empty => fun s => [s]
  | flags, single test => fun s =>
    match text[s.position]? with
    | some c => if test.accepts flags c then [{ s with position := s.position + 1 }] else []
    | none => []
  | flags, anchor place => fun s => if place.holds flags text s.position then [s] else []
  | flags, cat a b => fun s => (outcomes text flags a s).flatMap (outcomes text flags b)
  | flags, choice a b => fun s => outcomes text flags a s ++ outcomes text flags b s
  | flags, loop greed least most body =>
    Loop.outcomes greed text least most (outcomes text flags body)
  | flags, group index body => fun s =>
    (outcomes text flags body (s.mark (.start index))).map (·.mark (.stop index))
  | flags, scope on off body => outcomes text (flags.within on off) body
  | flags, atomic body => Loop.firstOf (outcomes text flags body)
  | flags, ahead negated body => fun s =>
    match (outcomes text flags body s).head? with
    | some s' => if negated then [] else [{ s' with position := s.position }]
    | none => if negated then [s] else []
  | flags, behind negated body => fun s =>
    if s.position < body.width.least then (if negated then [s] else [])
    else
      match (outcomes text flags body { s with position := s.position - body.width.least }).head? with
      | some s' => if negated then [] else [{ s' with position := s.position }]
      | none => if negated then [s] else []
  | flags, backref index _ => fun s =>
    match s.span? index with
    | some (first, last) =>
      if repeats flags text first s.position (last - first) then
        [{ s with position := s.position + (last - first) }]
      else []
    | none => []
  | flags, whether index yes no => fun s =>
    if (s.span? index).isSome then outcomes text flags yes s else outcomes text flags no s

end Regex

/-- A step that tries exactly the listed outcomes. -/
def Step.Tries (step : Step) (body : Outcomes) : Prop := ∀ s k, step s k = (body s).findSome? k

theorem Step.Tries.first {step : Step} {body : Outcomes} (h : step.Tries body) (s : State) :
    step s some = (body s).head? := by
  rw [h s some]
  cases body s <;> rfl

theorem findSome?_flatMap {α β γ : Type} (xs : List α) (f : α → List β) (k : β → Option γ) :
    (xs.flatMap f).findSome? k = xs.findSome? fun x => (f x).findSome? k := by
  induction xs with
  | nil => rfl
  | cons x xs ih =>
    rw [List.flatMap_cons, List.findSome?_append, List.findSome?_cons, ih]
    cases (f x).findSome? k <;> rfl

namespace Loop

theorem exactly_tries {step : Step} {body : Outcomes} (h : step.Tries body) (n : Nat) :
    Step.Tries (exactly step n) (exactlyOutcomes body n) := by
  induction n with
  | zero => intro s k; simp [exactly, exactlyOutcomes]
  | succ n ih =>
    intro s k
    simp only [exactly, exactlyOutcomes]
    rw [h, findSome?_flatMap]
    exact congrArg (List.findSome? · _) (funext fun s' => ih s' k)

theorem greedy_tries {step : Step} {body : Outcomes} (h : step.Tries body) (room : Nat)
    (last : Option Nat) : Step.Tries (greedy step room last) (greedyOutcomes body room last) := by
  induction room generalizing last with
  | zero => intro s k; simp [greedy, greedyOutcomes]
  | succ room ih =>
    intro s k
    simp only [greedy, greedyOutcomes]
    split
    · simp
    · rw [h, List.findSome?_append, findSome?_flatMap, List.findSome?_singleton, Option.orElse_eq_orElse,
        Option.orElse_eq_or]
      exact congrArg (fun f => ((body s).findSome? f).or (k s)) (funext fun s' => ih _ s' k)

theorem lazy_tries {step : Step} {body : Outcomes} (h : step.Tries body) (room : Nat)
    (last : Option Nat) : Step.Tries (lazy step room last) (lazyOutcomes body room last) := by
  induction room generalizing last with
  | zero => intro s k; simp [lazy, lazyOutcomes]
  | succ room ih =>
    intro s k
    simp only [lazy, lazyOutcomes, List.findSome?_cons]
    cases k s with
    | some found => rfl
    | none =>
      dsimp only
      split
      · rfl
      · rw [h, findSome?_flatMap]
        exact congrArg (fun f => (body s).findSome? f) (funext fun s' => ih _ s' k)

theorem first_tries {step : Step} {body : Outcomes} (h : step.Tries body) :
    Step.Tries (fun s k => (step s some).bind k) (firstOf body) := by
  intro s k
  simp only [h.first, firstOf]
  cases body s <;> simp

theorem possessive_eq {step : Step} {body : Outcomes} (h : step.Tries body) (room : Nat)
    (last : Option Nat) (s : State) :
    possessive step room last s = possessiveOutcome body room last s := by
  induction room generalizing last s with
  | zero => rfl
  | succ room ih =>
    rw [possessive, possessiveOutcome, h.first]
    split
    · rfl
    · cases (body s).head? with
      | none => rfl
      | some s' => exact ih _ s'

theorem step_tries {body : Step} {results : Outcomes} (h : body.Tries results) (greed : Greed)
    (text : Subject) (least : Nat) (most : Option Nat) :
    Step.Tries (step greed text least most body) (outcomes greed text least most results) := by
  intro s k
  cases greed with
  | greedy =>
    simp only [step, outcomes]
    rw [exactly_tries h, findSome?_flatMap]
    exact congrArg (List.findSome? · _) (funext fun s' => greedy_tries h _ _ s' k)
  | lazy =>
    simp only [step, outcomes]
    rw [exactly_tries h, findSome?_flatMap]
    exact congrArg (List.findSome? · _) (funext fun s' => lazy_tries h _ _ s' k)
  | possessive =>
    have hfirst := (exactly_tries (first_tries h) least).first s
    simp only [step, outcomes, firstOf, possessive_eq h] at hfirst ⊢
    rw [hfirst]
    cases (exactlyOutcomes (firstOf results) least s).head? <;> simp

end Loop

namespace Regex

theorem run_tries (text : Subject) (flags : Flags) (r : Regex) :
    Step.Tries (r.run text flags) (r.outcomes text flags) := by
  induction r generalizing flags with
  | empty => intro s k; simp [run, outcomes]
  | single test =>
    intro s k
    simp only [run, outcomes]
    cases text[s.position]? with
    | none => rfl
    | some c => dsimp only; split <;> simp
  | anchor place =>
    intro s k
    simp only [run, outcomes]
    split <;> simp
  | cat a b iha ihb =>
    intro s k
    simp only [run, outcomes]
    rw [iha flags, findSome?_flatMap]
    exact congrArg (List.findSome? · _) (funext fun s' => ihb flags s' k)
  | choice a b iha ihb =>
    intro s k
    simp only [run, outcomes]
    rw [iha flags, ihb flags, List.findSome?_append, Option.orElse_eq_orElse,
        Option.orElse_eq_or]
  | loop greed least most body ih => exact Loop.step_tries (ih flags) greed text least most
  | group index body ih =>
    intro s k
    simp only [run, outcomes]
    rw [ih flags, List.findSome?_map]
    rfl
  | scope on off body ih => exact ih (flags.within on off)
  | atomic body ih => exact Loop.first_tries (ih flags)
  | ahead negated body ih =>
    intro s k
    simp only [run, outcomes, (ih flags).first]
    cases (body.outcomes text flags s).head? <;> dsimp only <;> split <;> simp
  | behind negated body ih =>
    intro s k
    simp only [run, outcomes, (ih flags).first]
    split
    · split <;> simp
    · cases (body.outcomes text flags { s with position := s.position - body.width.least }).head? <;>
        dsimp only <;> split <;> simp
  | backref index width =>
    intro s k
    simp only [run, outcomes]
    cases s.span? index with
    | none => rfl
    | some span => dsimp only; split <;> simp
  | whether index yes no ihy ihn =>
    intro s k
    simp only [run, outcomes]
    split
    · exact ihy flags s k
    · exact ihn flags s k

end Regex

/-- Characters one after the other have one outcome where they come next, and none elsewhere. -/
theorem outcomes_spelled {text : Subject} {flags : Flags} (hflags : flags.ignoreCase = false) (old : List Text.Code)
    (s : State) :
    (Regex.ofItems (old.map fun c => .single (.one c))).outcomes text flags s =
      if old <+: text.toList.drop s.position then [{ s with position := s.position + old.length }] else [] := by
  induction old generalizing s with
  | nil => simp [Regex.ofItems, Regex.outcomes]
  | cons c old ih =>
    simp only [List.map_cons, Regex.ofItems, Regex.outcomes]
    cases hd : text[s.position]? with
    | none =>
      have hend : text.toList.drop s.position = [] := by
        rw [List.drop_eq_nil_iff, Array.length_toList]
        exact Array.getElem?_eq_none_iff.mp hd
      simp [hend]
    | some d =>
      obtain ⟨hlt, hget⟩ := Array.getElem?_eq_some_iff.mp hd
      have hdrop : text.toList.drop s.position = d :: text.toList.drop (s.position + 1) := by
        rw [List.drop_eq_getElem_cons (by simpa using hlt), Array.getElem_toList, hget]
      have haccepts : (Single.one c).accepts flags d = decide (c = d) := by
        simp only [Single.accepts, hflags, Bool.false_eq_true, if_false]
        exact decide_eq_decide.mpr eq_comm
      simp only [hdrop, List.cons_prefix_cons, haccepts, decide_eq_true_eq]
      by_cases hc : c = d
      · have hlength : s.position + 1 + old.length = s.position + (old.length + 1) := by omega
        simp only [hc, if_true, List.flatMap_singleton, ih, true_and, List.length_cons, hlength]
      · simp only [hc, if_false, List.flatMap_nil, false_and]

end TemplateSwap.Pattern
