import TemplateSwap.Markup.Meaning
import TemplateSwap.Proofs.Results
import Mathlib.Tactic.SplitIfs

namespace TemplateSwap.Markup

namespace Node

/-- The parts of a node, itself among them. -/
inductive Part : Node → Node → Prop
  | self (node : Node) : Part node node
  | item {tag : Tag} {line : Nat} {items : List Node} {item part : Node} (hitem : item ∈ items)
    (h : Part item part) : Part (sequence tag line items) part
  | key {tag : Tag} {line : Nat} {pairs : Pairs} {pair : Node × Node} {part : Node} (hpair : pair ∈ pairs)
    (h : Part pair.1 part) : Part (mapping tag line pairs) part
  | value {tag : Tag} {line : Nat} {pairs : Pairs} {pair : Node × Node} {part : Node} (hpair : pair ∈ pairs)
    (h : Part pair.2 part) : Part (mapping tag line pairs) part

theorem Part.trans {a b c : Node} (hab : Part a b) (hbc : Part b c) : Part a c := by
  induction hab with
  | self => exact hbc
  | item hitem _ ih => exact .item hitem (ih hbc)
  | key hpair _ ih => exact .key hpair (ih hbc)
  | value hpair _ ih => exact .value hpair (ih hbc)

/-- The node is of a scalar type, but its text says no value of it. -/
def Spoiled (node : Node) (fault : ScalarFault) : Prop := node.scalarMeaning node.tag = .error (.scalar fault)

end Node

namespace Meaning

variable {α β : Type} {depth : Nat} {f : Fault}

theorem below_error {m : Meaning α} (h : below m = .error (depth, f)) : ∃ d, m = .error (d, f) := by
  cases m with
  | ok a => cases h
  | error e =>
    obtain ⟨d, g⟩ := e
    obtain ⟨-, rfl⟩ := Prod.mk.inj (Except.error.inj h)
    exact ⟨d, rfl⟩

theorem map_error {m : Meaning α} {g : α → β} : m.map g = .error (depth, f) ↔ m = .error (depth, f) := by
  cases m <;> simp [Except.map]

theorem both_error {a : Meaning α} {b : Meaning β} (h : both a b = .error (depth, f)) :
    a = .error (depth, f) ∨ b = .error (depth, f) := by
  cases a with
  | ok a =>
    cases b with
    | ok b => cases h
    | error e => exact .inr (by simpa [both] using h)
  | error e =>
    cases b with
    | ok b => exact .inl (by simpa [both] using h)
    | error e' =>
      unfold both at h
      dsimp only at h
      split_ifs at h
      · exact .inr (congrArg Except.error (Except.error.inj h))
      · exact .inl (congrArg Except.error (Except.error.inj h))

/-- The fault of several meanings is one of theirs. -/
theorem all_error {meanings : List (Meaning α)} (h : all meanings = .error (depth, f)) :
    .error (depth, f) ∈ meanings := by
  induction meanings with
  | nil => cases h
  | cons m ms ih =>
    have hboth : (both m (all ms)).map (fun pair => pair.1 :: pair.2) = .error (depth, f) := h
    rcases both_error (map_error.mp hboth) with hm | hms
    · rw [hm]
      exact List.mem_cons_self
    · exact List.mem_cons_of_mem m (ih hms)

end Meaning

namespace Node

/-- A pair of parts of a node. -/
def HasPair (node : Node) (pair : Node × Node) : Prop := node.Part pair.1 ∧ node.Part pair.2

/-- A pair is one of others, or within the value of one of them. -/
def Descends (pairs : Pairs) (pair : Node × Node) : Prop :=
  ∃ source ∈ pairs, pair = source ∨ source.2.HasPair pair

theorem Descends.hasPair {tag : Tag} {line : Nat} {pairs : Pairs} {pair : Node × Node} (h : Descends pairs pair) :
    (mapping tag line pairs).HasPair pair := by
  obtain ⟨source, hsource, rfl | ⟨hkey, hvalue⟩⟩ := h
  · exact ⟨.key hsource (.self _), .value hsource (.self _)⟩
  · exact ⟨.value hsource hkey, .value hsource hvalue⟩

theorem Descends.cons {first pair : Node × Node} {pairs : Pairs} (h : Descends pairs pair) :
    Descends (first :: pairs) pair := by
  obtain ⟨source, hsource, hpair⟩ := h
  exact ⟨source, List.mem_cons_of_mem _ hsource, hpair⟩

mutual

theorem merged_descends : ∀ (pairs inherited own : Pairs), merged pairs = some (inherited, own) →
    ∀ pair ∈ inherited ++ own, Descends pairs pair
  | [], inherited, own, h => by
    obtain ⟨rfl, rfl⟩ := Prod.mk.inj (Option.some.inj h)
    simp
  | (key, value) :: rest, inherited, own, h => by
    rw [merged] at h
    obtain ⟨⟨inner, kept⟩, hrest, h⟩ := Option.bind_eq_some_iff.mp h
    have hlater := merged_descends rest inner kept hrest
    dsimp only at h
    split_ifs at h with htag
    · obtain ⟨taken, htaken, h⟩ := Option.bind_eq_some_iff.mp h
      obtain ⟨rfl, rfl⟩ := Prod.mk.inj (Option.some.inj h)
      have hfrom := mergedFrom_hasPair value taken htaken
      intro pair hpair
      rw [List.append_assoc] at hpair
      rcases List.mem_append.mp hpair with hpair | hpair
      · exact ⟨(key, value), List.mem_cons_self, .inr (hfrom pair hpair)⟩
      · exact (hlater pair hpair).cons
    · obtain ⟨rfl, rfl⟩ := Prod.mk.inj (Option.some.inj h)
      intro pair hpair
      rcases List.mem_append.mp hpair with hpair | hpair
      · exact (hlater pair (List.mem_append_left _ hpair)).cons
      · rcases List.mem_cons.mp hpair with rfl | hpair
        · exact ⟨(key, value), List.mem_cons_self, .inl rfl⟩
        · exact (hlater pair (List.mem_append_right _ hpair)).cons

theorem mergedFrom_hasPair : ∀ (node : Node) (taken : Pairs), mergedFrom node = some taken →
    ∀ pair ∈ taken, node.HasPair pair
  | mapping tag line pairs, taken, h => by
    rw [mergedFrom] at h
    obtain ⟨⟨inherited, own⟩, hmerged, h⟩ := Option.bind_eq_some_iff.mp h
    obtain rfl := Option.some.inj h
    exact fun pair hpair => (merged_descends pairs inherited own hmerged pair hpair).hasPair
  | sequence tag line items, taken, h => by
    rw [mergedFrom] at h
    intro pair hpair
    obtain ⟨item, hitem, hkey, hvalue⟩ := mergedItems_hasPair items taken h pair hpair
    exact ⟨.item hitem hkey, .item hitem hvalue⟩
  | scalar .., taken, h => by
    cases h

theorem mergedItems_hasPair : ∀ (items : List Node) (taken : Pairs), mergedItems items = some taken →
    ∀ pair ∈ taken, ∃ item ∈ items, item.HasPair pair
  | [], taken, h => by
    obtain rfl := Option.some.inj h
    simp
  | mapping tag line pairs :: rest, taken, h => by
    rw [mergedItems] at h
    obtain ⟨⟨inherited, own⟩, hmerged, h⟩ := Option.bind_eq_some_iff.mp h
    obtain ⟨later, hlater, h⟩ := Option.bind_eq_some_iff.mp h
    obtain rfl := Option.some.inj h
    intro pair hpair
    rcases List.mem_append.mp hpair with hpair | hpair
    · obtain ⟨item, hitem, hhas⟩ := mergedItems_hasPair rest later hlater pair hpair
      exact ⟨item, List.mem_cons_of_mem _ hitem, hhas⟩
    · exact ⟨_, List.mem_cons_self, (merged_descends pairs inherited own hmerged pair hpair).hasPair⟩
  | sequence .. :: _, taken, h => by
    cases h
  | scalar .. :: _, taken, h => by
    cases h

end

theorem mergedPairs_hasPair {tag : Tag} {line : Nat} {pairs taken : Pairs} (h : mergedPairs pairs = some taken) :
    ∀ pair ∈ taken, (mapping tag line pairs).HasPair pair := by
  obtain ⟨⟨inherited, own⟩, hmerged, h⟩ := Option.bind_eq_some_iff.mp h
  obtain rfl := Option.some.inj h
  exact fun pair hpair => (merged_descends pairs inherited own hmerged pair hpair).hasPair

section

variable {α β : Type} {node inner : Node} {m : Meaning α}

/-- A fault that is not one of the markup is in the text of a part of the node. -/
def Blames (node : Node) (m : Meaning α) : Prop :=
  ∀ depth fault, m = .error (depth, .scalar fault) → ∃ part, node.Part part ∧ part.Spoiled fault

namespace Blames

theorem malformed : node.Blames (Meaning.fault .malformed : Meaning α) := by
  intro depth fault h
  cases h

theorem part (h : inner.Blames m) (hpart : node.Part inner) : node.Blames m := by
  intro depth fault hm
  obtain ⟨p, hp, hspoiled⟩ := h depth fault hm
  exact ⟨p, hpart.trans hp, hspoiled⟩

theorem map (h : node.Blames m) (g : α → β) : node.Blames (m.map g) := by
  intro depth fault hm
  exact h depth fault (Meaning.map_error.mp hm)

theorem below (h : node.Blames m) : node.Blames (Meaning.below m) := by
  intro depth fault hm
  obtain ⟨d, hd⟩ := Meaning.below_error hm
  exact h d fault hd

theorem both {m' : Meaning β} (h : node.Blames m) (h' : node.Blames m') : node.Blames (Meaning.both m m') := by
  intro depth fault hm
  rcases Meaning.both_error hm with hm | hm
  · exact h depth fault hm
  · exact h' depth fault hm

theorem all {meanings : List (Meaning α)} (h : ∀ m ∈ meanings, node.Blames m) :
    node.Blames (Meaning.all meanings) := by
  intro depth fault hm
  exact h _ (Meaning.all_error hm) depth fault rfl

end Blames

end

section

variable {meaning : Node → Meaning Value} (hmeaning : ∀ node : Node, node.Blames (meaning node))

include hmeaning

theorem keyMeaning_blames (key : Node) : key.Blames (keyMeaning meaning key) := by
  unfold keyMeaning
  split_ifs
  · intro depth fault h
    unfold scalarMeaning at h
    split at h <;> cases h
  · exact .malformed
  · exact hmeaning key

theorem itemsMeaning_blames (node : Node) : node.Blames (itemsMeaning meaning node) := by
  cases node with
  | sequence tag line items =>
    refine .all fun m hm => ?_
    obtain ⟨item, hitem, rfl⟩ := List.mem_map.mp hm
    exact (hmeaning item).part (.item hitem (.self item))
  | scalar | mapping => exact .malformed

theorem pairsMeaning_blames (node : Node) : node.Blames (pairsMeaning meaning node) := by
  cases node with
  | mapping tag line pairs =>
    unfold pairsMeaning
    split
    · next taken htaken =>
      have hpairs : ∀ pair ∈ taken, (mapping tag line pairs).HasPair pair := mergedPairs_hasPair htaken
      refine .all fun m hm => ?_
      obtain ⟨pair, hpair, rfl⟩ := List.mem_map.mp hm
      obtain ⟨hkey, hvalue⟩ := hpairs pair hpair
      exact ((keyMeaning_blames hmeaning pair.1).part hkey).both ((hmeaning pair.2).part hvalue)
    · exact .malformed
  | scalar | sequence => exact .malformed

theorem entryMeaning_blames (node : Node) : node.Blames (entryMeaning meaning node) := by
  unfold entryMeaning
  split
  · next tag line key value =>
    have hkey : (mapping tag line [(key, value)]).Part key := .key List.mem_cons_self (.self key)
    have hvalue : (mapping tag line [(key, value)]).Part value := .value List.mem_cons_self (.self value)
    exact (((hmeaning key).part hkey).both ((hmeaning value).part hvalue)).map _
  · exact .malformed

end

theorem meaningTo_blames (fuel : Nat) (node : Node) : node.Blames (meaningTo fuel node) := by
  induction fuel generalizing node with
  | zero => exact .malformed
  | succ fuel ih =>
    unfold meaningTo
    dsimp only
    split
    · exact ((itemsMeaning_blames ih node).map _).below
    · exact ((pairsMeaning_blames ih node).map _).below
    · exact ((pairsMeaning_blames ih node).map _).below
    · exact ((itemsMeaning_blames (entryMeaning_blames ih) node).map _).below
    · exact ((itemsMeaning_blames (entryMeaning_blames ih) node).map _).below
    · intro depth fault h
      refine ⟨node, .self node, ?_⟩
      cases hscalar : node.scalarMeaning node.tag with
      | ok v =>
        rw [hscalar] at h
        cases h
      | error f =>
        rw [hscalar] at h
        obtain ⟨-, rfl⟩ := Prod.mk.inj (Except.error.inj h)
        exact hscalar

/-- A document that is well formed but says no value has a scalar whose text is none of its type. -/
theorem value_scalar {node : Node} {fault : ScalarFault} (h : node.value = .error (.scalar fault)) :
    ∃ part, node.Part part ∧ part.Spoiled fault := by
  unfold value at h
  cases hm : meaningTo node.depth node with
  | ok v =>
    rw [hm] at h
    cases h
  | error e =>
    obtain ⟨depth, f⟩ := e
    rw [hm] at h
    obtain rfl := Except.error.inj h
    exact meaningTo_blames _ node depth fault hm

end Node

end TemplateSwap.Markup
