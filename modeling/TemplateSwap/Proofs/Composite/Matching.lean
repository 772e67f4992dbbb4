import TemplateSwap.Proofs.Composite.Weave
import TemplateSwap.Proofs.Matching.Slice

namespace TemplateSwap.Composite

open TemplateSwap.Text (Code codes)
open TemplateSwap.Pattern
open TemplateSwap.Pattern.Reader

/-- A stretch of a text divided between tokens. The condition tells which placeholder, by its name and
its position in the template, can take which span. -/
inductive Divided (text : Subject) (takes : String → Nat → Nat → Nat → Prop) : List Token → Nat → Nat → Prop
  | nil (position : Nat) : Divided text takes [] position position
  | literal {tokens : List Token} {first last : Nat} (s : String)
    (hs : Found.slice text first (first + (codes s).length) = codes s)
    (hfit : first + (codes s).length ≤ text.size)
    (h : Divided text takes tokens (first + (codes s).length) last) :
    Divided text takes (.literal s :: tokens) first last
  | placeholder {tokens : List Token} {first middle last : Nat} (name : String) (index : Nat)
    (hle : first ≤ middle) (hfit : middle ≤ text.size) (htakes : takes name index first middle)
    (h : Divided text takes tokens middle last) :
    Divided text takes (.placeholder name index :: tokens) first last

theorem ofItems_append_outcomes (text : Subject) (flags : Flags) (rs ss : List Regex) (s : State) :
    (Regex.ofItems (rs ++ ss)).outcomes text flags s =
      ((Regex.ofItems rs).outcomes text flags s).flatMap ((Regex.ofItems ss).outcomes text flags) := by
  induction rs generalizing s with
  | nil => simp [Regex.ofItems, Regex.outcomes]
  | cons r rs ih =>
    simp only [List.cons_append, Regex.ofItems, Regex.outcomes, List.flatMap_assoc]
    exact congrArg (List.flatMap · (r.outcomes text flags s)) (funext fun s' => ih s')

theorem literal_outcomes {text : Subject} {flags : Flags} (hflags : flags.ignoreCase = false)
    (cs : List Code) {s s' : State}
    (hs : s' ∈ (Regex.ofItems (cs.map fun c => .single (.one c))).outcomes text flags s)
    (hbounded : s.position ≤ text.size) :
    Found.slice text s.position (s.position + cs.length) = cs ∧ s.position + cs.length ≤ text.size ∧
      s' = { s with position := s.position + cs.length } := by
  rw [outcomes_spelled hflags] at hs
  split_ifs at hs with hnext
  · have hlength := hnext.length_le
    have hsize : text.toList.length = text.size := Array.length_toList
    rw [List.length_drop, hsize] at hlength
    refine ⟨?_, by omega, List.mem_singleton.mp hs⟩
    rw [Found.slice_eq, Nat.add_sub_cancel_left]
    exact (List.prefix_iff_eq_take.mp hnext).symm
  · cases hs

theorem groups_ofItems {P : Nat → Prop} {items : List Regex} :
    (Regex.ofItems items).Groups P ↔ ∀ r ∈ items, r.Groups P := by
  induction items with
  | nil => simp [Regex.ofItems, Regex.Groups]
  | cons r items ih => simp [Regex.ofItems, Regex.Groups, ih]

theorem captured_groups {exact : Prop} {d n : Nat} {r inner : Regex}
    (h : r.Placed exact (d + 1) n inner) :
    (captured (d + 1) inner).Groups fun i => d < i ∧ i ≤ d + (n + 1) :=
  ⟨⟨by omega, by omega⟩, h.groups.imp fun i hi => ⟨by omega, by omega⟩, trivial⟩

/-- Groups of the parts are numbered after those that were there before. -/
theorem Woven.groups {f : Fragments} {names names' : List (Option (List Code))} {tokens : List Token}
    {items : List Regex} (h : Woven f names tokens items names') :
    names <+: names' ∧ ∀ r ∈ items, r.Groups fun i => names.length < i ∧ i ≤ names'.length := by
  induction h with
  | nil names => exact ⟨List.prefix_refl _, by simp⟩
  | literal text _ ih =>
    refine ⟨ih.1, fun r hr => ?_⟩
    rcases List.mem_append.mp hr with hr | hr
    · obtain ⟨c, -, rfl⟩ := List.mem_map.mp hr
      trivial
    · exact ih.2 r hr
  | @placeholder names names' tokens items name index p inner hp hname hfresh hinner hswitches hmodes _ ih =>
    obtain ⟨hinitial, hgroups⟩ := ih
    have hlength := hinitial.length_le
    rw [List.length_append, List.length_cons, groupNames, List.length_map] at hlength hgroups
    refine ⟨(List.prefix_append _ _).trans hinitial, fun r hr => ?_⟩
    rcases List.mem_cons.mp hr with rfl | hr
    · exact (captured_groups hinner).imp fun i hi => ⟨hi.1, by omega⟩
    · exact (hgroups r hr).imp fun i hi => ⟨by omega, hi.2⟩

/-- The group of a fragment captures what the fragment takes. -/
theorem captured_outcomes {text : Subject} {flags : Flags} {index : Nat} {inner : Regex}
    (hinner : inner.Groups (index < ·)) {s t : State}
    (ht : t ∈ (captured index inner).outcomes text flags s) :
    ∃ u ∈ inner.outcomes text flags (s.mark (.start index)),
      t.position = u.position ∧ s.position ≤ u.position ∧
        t.span? index = some (s.position, u.position) := by
  simp only [captured, Regex.outcomes, Flags.within_none] at ht
  obtain ⟨u', hu', rfl⟩ := List.mem_map.mp ht
  obtain ⟨u, hu, hu'⟩ := List.mem_flatMap.mp hu'
  obtain rfl := List.mem_singleton.mp hu'
  have hreaches := Regex.outcomes_reach hinner flags _ u' hu
  have hle : s.position ≤ u'.position := hreaches.le
  refine ⟨u', hu, rfl, hle, ?_⟩
  have hstart : u'.marks.lookup (.start index) = some s.position := by
    rw [hreaches.lookup_mark (.start index) (Nat.lt_irrefl index)]
    simp [State.mark]
  have hother : (Mark.start index == Mark.stop index) = false := beq_false_of_ne (by simp)
  simp [State.span?, State.mark, List.lookup_cons, hstart, hother, hle]

/-- The number of the group with a name. -/
def numberOf (names : List (Option (List Code))) (index : Nat) : Option Nat :=
  (names.findIdx? (· = some (codes (groupName index)))).map (· + 1)

theorem numberOf_new {names names' : List (Option (List Code))} {index : Nat}
    (hnew : some (codes (groupName index)) ∉ names) {rest : List (Option (List Code))}
    (hinitial : names ++ some (codes (groupName index)) :: rest <+: names') :
    numberOf names' index = some (names.length + 1) := by
  obtain ⟨more, rfl⟩ := hinitial
  have hnone : names.findIdx? (· = some (codes (groupName index))) = none := by
    rw [List.findIdx?_eq_none_iff]
    intro name hname
    exact decide_eq_false fun h => hnew (h ▸ hname)
  simp [numberOf, List.findIdx?_append, hnone, List.findIdx?_cons]

/-- What an occurrence of a placeholder can take: the span of its group, and if its fragment does not
refer to groups by number, a span that the fragment matches on its own. -/
def Takes (f : Fragments) (names : List (Option (List Code))) (text : Subject) (flags : Flags)
    (final : State) (name : String) (index first last : Nat) : Prop :=
  (numberOf names index).bind final.span? = some (first, last) ∧
    ∀ p, f.get? name = some p → refersByNumber p.source = false →
      ∃ t ∈ p.regex.outcomes text flags { position := first }, t.position = last

/-- Only groups that were there before have marks, so a fragment starts as it does on its own. -/
theorem shifted_start {d : Nat} {s : State} (h : ∀ entry ∈ s.marks, entry.1.index ≤ d) :
    State.Shifted d { position := s.position } s := by
  refine ⟨rfl, fun m hm => ?_⟩
  rw [List.lookup_nil, List.lookup_eq_none_iff]
  intro entry hentry
  have hle := h entry hentry
  have hne : m.shift d ≠ entry.1 := by
    intro heq
    rw [← heq] at hle
    cases m <;> simp only [Mark.shift, Mark.index] at hle hm <;> omega
  simpa using hne

theorem Woven.divided {f : Fragments} {names names' : List (Option (List Code))} {tokens : List Token}
    {items : List Regex} (h : Woven f names tokens items names') {text : Subject} {flags : Flags}
    (hflags : flags.ignoreCase = false) {s s' final : State}
    (hs : s' ∈ (Regex.ofItems items).outcomes text flags s) (hbounded : s.position ≤ text.size)
    (hmarks : ∀ entry ∈ s.marks, entry.1.index ≤ names.length)
    (hfinal : ∀ i, names.length < i → final.span? i = s'.span? i) :
    Divided text (Takes f names' text flags final) tokens s.position s'.position := by
  induction h generalizing s with
  | nil names =>
    obtain rfl := List.mem_singleton.mp hs
    exact .nil _
  | literal literal _ ih =>
    rw [ofItems_append_outcomes] at hs
    obtain ⟨t, ht, hs⟩ := List.mem_flatMap.mp hs
    obtain ⟨hslice, hfit, rfl⟩ := literal_outcomes hflags _ ht hbounded
    exact .literal literal hslice hfit (ih hs hfit hmarks hfinal)
  | @placeholder names names' tokens items name index p inner hp hname hfresh hinner hswitches hmodes
      hrest ih =>
    obtain ⟨t, ht, hs⟩ := List.mem_flatMap.mp hs
    have hgroups := hinner.groups.imp fun i hi => hi.1
    obtain ⟨u, hu, hposition, hle, hspan⟩ := captured_outcomes hgroups ht
    obtain ⟨hinitial, hafter⟩ := hrest.groups
    have hreaches := Regex.outcomes_reach (captured_groups hinner) flags s t ht
    have hmarked : ∀ entry ∈ t.marks, entry.1.index ≤
        (names ++ some (codes (groupName index)) :: groupNames p.groups).length := by
      obtain ⟨added, hadded, hP⟩ := hreaches.marks
      rw [List.length_append, List.length_cons, groupNames, List.length_map]
      intro entry hentry
      rw [hadded] at hentry
      rcases List.mem_append.mp hentry with hentry | hentry
      · exact (hP entry hentry).2
      · exact (hmarks entry hentry).trans (Nat.le_add_right _ _)
    have hlater : names.length + 1 ≤
        (names ++ some (codes (groupName index)) :: groupNames p.groups).length := by
      simp
    have hown : final.span? (names.length + 1) = some (s.position, u.position) := by
      have hreaches' := Regex.outcomes_reach (groups_ofItems.mpr hafter) flags t s' hs
      rw [hfinal _ (Nat.lt_succ_self _), hreaches'.span? _ (by omega), hspan]
    have hrestDivided := ih hs (hreaches.bounded hbounded) hmarked fun i hi => hfinal i (by omega)
    rw [hposition] at hrestDivided
    refine .placeholder name index hle ?_ ⟨?_, ?_⟩ hrestDivided
    · rw [← hposition]
      exact hreaches.bounded hbounded
    · rw [numberOf_new hname hinitial]
      exact hown
    · intro q hq hnumber
      obtain rfl := Option.some.inj (hp.symm.trans hq)
      obtain ⟨rfl, hnumbered⟩ := hinner.exactly hnumber
      have hstart : State.Shifted (names.length + 1) { position := s.position }
          (s.mark (.start (names.length + 1))) := by
        refine shifted_start (s := s.mark (.start (names.length + 1))) fun entry hentry => ?_
        rcases List.mem_cons.mp hentry with rfl | hentry
        · exact Nat.le_refl _
        · exact (hmarks entry hentry).trans (Nat.le_succ _)
      have hall := Regex.outcomes_shift text (names.length + 1) hnumbered flags _ _ hstart
      obtain ⟨v, hv, hshifted⟩ := Results.forall₂_right hall hu
      exact ⟨v, hv, hshifted.position.symm⟩

end TemplateSwap.Composite
