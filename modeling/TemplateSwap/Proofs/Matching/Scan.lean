import TemplateSwap.Proofs.Matching.Progress

namespace TemplateSwap.Pattern

/-- From its start the matcher comes to the end of the match, if some ends are wanted and others not. -/
def Matches (p : Pattern) (text : Subject) (m : Found) : Prop :=
  m.start ≤ text.size ∧ ∃ wanted : State → Bool,
    p.regex.run text p.flags { position := m.start } (fun s => if wanted s then some s else none)
      = some m.final

theorem matches_iff {p : Pattern} {text : Subject} {m : Found} :
    p.Matches text m ↔
      m.start ≤ text.size ∧ m.final ∈ p.regex.outcomes text p.flags { position := m.start } := by
  constructor
  · intro h
    obtain ⟨hstart, wanted, hrun⟩ := h
    rw [Regex.run_tries] at hrun
    obtain ⟨s, hs, hwanted⟩ := List.exists_of_findSome?_eq_some hrun
    split at hwanted
    · rw [← Option.some.inj hwanted]
      exact ⟨hstart, hs⟩
    · simp at hwanted
  · intro h
    obtain ⟨hstart, hm⟩ := h
    refine ⟨hstart, fun s => s == m.final, ?_⟩
    rw [Regex.run_tries]
    have h : (List.findSome? (fun s => if s == m.final then some s else none)
        (p.regex.outcomes text p.flags { position := m.start })).isSome := by
      rw [List.findSome?_isSome_iff]
      exact ⟨m.final, hm, by simp⟩
    obtain ⟨s, hs⟩ := Option.isSome_iff_exists.mp h
    obtain ⟨t, -, ht⟩ := List.exists_of_findSome?_eq_some hs
    rw [hs]
    split at ht
    · next heq => rw [← Option.some.inj ht, eq_of_beq heq]
    · simp at ht

namespace Matches

variable {p : Pattern} {text : Subject} {m : Found}

theorem reaches (h : p.Matches text m) {P : Nat → Prop} (hP : p.regex.Groups P) :
    State.Reaches text P { position := m.start } m.final :=
  Regex.outcomes_reach hP _ _ _ (matches_iff.mp h).2

theorem start_le (h : p.Matches text m) : m.start ≤ m.stop :=
  (h.reaches (Regex.groups_true _)).le

theorem stop_le (h : p.Matches text m) : m.stop ≤ text.size :=
  (h.reaches (Regex.groups_true _)).bounded h.1

end Matches

theorem matchAt_some {p : Pattern} {text : Subject} {start : Nat} {nonempty : Bool} {m : Found}
    (h : matchAt p text start nonempty = some m) (hs : start ≤ text.size) :
    m.start = start ∧ p.Matches text m ∧ (nonempty = true → m.start < m.stop) := by
  unfold matchAt at h
  obtain ⟨s, hrun, rfl⟩ := Option.map_eq_some_iff.mp h
  have hrun' := hrun
  rw [Regex.run_tries] at hrun
  obtain ⟨t, ht, hk⟩ := List.exists_of_findSome?_eq_some hrun
  split at hk
  · simp at hk
  · next hne =>
    obtain rfl := Option.some.inj hk
    have hm : p.Matches text ⟨start, t⟩ := matches_iff.mpr ⟨hs, ht⟩
    refine ⟨rfl, hm, fun hn => ?_⟩
    have hle : start ≤ t.position := hm.start_le
    have hpos : t.position ≠ start := by simpa [hn] using hne
    exact lt_of_le_of_ne hle hpos.symm

/-- The matches that a scan takes from a position on. Each is the leftmost one from where the one
before it ended. -/
inductive Scan (p : Pattern) (text : Subject) : Nat → Bool → List Found → Prop
  | done {start : Nat} {nonempty : Bool}
    (hnone : ∀ i, start ≤ i → i ≤ text.size → matchAt p text i (nonempty && i == start) = none) :
    Scan p text start nonempty []
  | next {start : Nat} {nonempty : Bool} {m : Found} {rest : List Found}
    (hstart : start ≤ m.start) (hsize : m.start ≤ text.size)
    (hnone : ∀ i, start ≤ i → i < m.start → matchAt p text i (nonempty && i == start) = none)
    (hmatch : matchAt p text m.start (nonempty && m.start == start) = some m)
    (hrest : Scan p text m.stop (m.stop == m.start) rest) :
    Scan p text start nonempty (m :: rest)

theorem searchFrom_some {p : Pattern} {text : Subject} {positions start : Nat} {nonempty : Bool}
    {m : Found} (h : searchFrom p text positions start nonempty = some m)
    (hs : start + positions ≤ text.size + 1) :
    start ≤ m.start ∧ m.start ≤ text.size ∧
      (∀ i, start ≤ i → i < m.start → matchAt p text i (nonempty && i == start) = none) ∧
      matchAt p text m.start (nonempty && m.start == start) = some m := by
  induction positions generalizing start nonempty with
  | zero => simp [searchFrom] at h
  | succ positions ih =>
    rw [searchFrom, Option.orElse_eq_orElse, Option.orElse_eq_or, Option.or_eq_some_iff] at h
    rcases h with h | ⟨hhere, h⟩
    · obtain ⟨hm, -, -⟩ := matchAt_some h (by omega)
      refine ⟨hm.ge, by omega, fun i hi hlt => by omega, ?_⟩
      rw [hm, beq_self_eq_true, Bool.and_true]
      exact h
    · obtain ⟨hle, hsize, hnone, hmatch⟩ := ih h (by omega)
      have hlater (i : Nat) (hi : start < i) : (nonempty && i == start) = false := by
        simp [show i ≠ start by omega]
      refine ⟨by omega, hsize, fun i hi hlt => ?_, ?_⟩
      · rcases Nat.eq_or_lt_of_le hi with rfl | hi
        · rw [beq_self_eq_true, Bool.and_true]
          exact hhere
        · rw [hlater i hi]
          exact hnone i (by omega) hlt
      · rw [hlater m.start (by omega)]
        exact hmatch

theorem searchFrom_none {p : Pattern} {text : Subject} {positions start : Nat} {nonempty : Bool}
    (h : searchFrom p text positions start nonempty = none) (i : Nat) (hi : start ≤ i)
    (hlt : i < start + positions) : matchAt p text i (nonempty && i == start) = none := by
  induction positions generalizing start nonempty with
  | zero => omega
  | succ positions ih =>
    rw [searchFrom, Option.orElse_eq_orElse, Option.orElse_eq_or, Option.or_eq_none_iff] at h
    rcases Nat.eq_or_lt_of_le hi with rfl | hi
    · rw [beq_self_eq_true, Bool.and_true]
      exact h.1
    · have hlater : (nonempty && i == start) = false := by simp [show i ≠ start by omega]
      rw [hlater]
      exact ih h.2 (by omega) (by omega)

theorem search_some {p : Pattern} {text : Subject} {start : Nat} {nonempty : Bool} {m : Found}
    (h : search p text start nonempty = some m) :
    start ≤ m.start ∧ m.start ≤ text.size ∧
      (∀ i, start ≤ i → i < m.start → matchAt p text i (nonempty && i == start) = none) ∧
      matchAt p text m.start (nonempty && m.start == start) = some m := by
  by_cases hs : start ≤ text.size
  · exact searchFrom_some h (by omega)
  · rw [search, show text.size + 1 - start = 0 by omega] at h
    simp [searchFrom] at h

/-- As many matches as there can be from a position on, and one more step to see that there are no
more: an empty match is followed by one that is not, and each of those moves on. -/
theorem findFrom_scan (p : Pattern) (text : Subject) (limit start : Nat) (nonempty : Bool)
    (h : 2 * (text.size - start) + (if nonempty then 1 else 2) ≤ limit) :
    Scan p text start nonempty (findFrom p text limit start nonempty) := by
  induction limit generalizing start nonempty with
  | zero => split at h <;> omega
  | succ limit ih =>
    rw [findFrom]
    split
    · next hnone =>
      exact .done fun i hi hsize => searchFrom_none hnone i hi (by omega)
    · next m hm =>
      obtain ⟨hstart, hsize, hnone, hmatch⟩ := search_some hm
      obtain ⟨-, hmatches, hpos⟩ := matchAt_some hmatch hsize
      have hle := hmatches.start_le
      have hstop := hmatches.stop_le
      refine .next hstart hsize hnone hmatch (ih m.stop _ ?_)
      by_cases hempty : m.stop = m.start
      · -- an empty match at the very start cannot follow another empty one
        have hmove : nonempty = true → start < m.start := by
          intro hn
          by_contra hge
          have heq : m.start = start := by omega
          have := hpos (by simp [hn, heq])
          omega
        cases nonempty with
        | false => simp only [hempty, beq_self_eq_true, if_true]; simp at h; omega
        | true =>
          have := hmove rfl
          simp only [hempty, beq_self_eq_true, if_true]
          simp at h
          omega
      · rw [if_neg (by simpa using hempty)]
        split at h <;> omega

theorem find_scan (p : Pattern) (text : Subject) : Scan p text 0 false (find p text false) :=
  findFrom_scan p text _ 0 false (by simp; omega)

/-- To look for one match is to take the first. -/
theorem find_first (p : Pattern) (text : Subject) :
    find p text true = (find p text false).take 1 := by
  have hlimit : 2 * (text.size + 1) = (2 * text.size + 1) + 1 := by omega
  simp only [find, if_true, Bool.false_eq_true, if_false]
  rw [hlimit, findFrom, findFrom]
  cases search p text 0 false <;> simp [findFrom]

theorem Matches.matchAt_isSome {p : Pattern} {text : Subject} {m : Found} (h : p.Matches text m) :
    (matchAt p text m.start false).isSome = true := by
  have hm := (matches_iff.mp h).2
  rw [matchAt, Option.isSome_map, Regex.run_tries, List.findSome?_isSome_iff]
  exact ⟨m.final, hm, rfl⟩

theorem not_matches_of_find {p : Pattern} {text : Subject} (h : find p text false = []) (other : Found) :
    ¬p.Matches text other := by
  intro hother
  have hscan := find_scan p text
  rw [h] at hscan
  cases hscan with
  | done hnone =>
    have hthere : matchAt p text other.start false = none := hnone other.start (Nat.zero_le _) hother.1
    have hsome := hother.matchAt_isSome
    rw [hthere] at hsome
    cases hsome

/-- No match begins before the first that is found. -/
theorem leftmost_of_find {p : Pattern} {text : Subject} {m : Found} {rest : List Found}
    (h : find p text false = m :: rest) :
    p.Matches text m ∧ matchAt p text m.start false = some m ∧
      ∀ other, p.Matches text other → m.start ≤ other.start := by
  have hscan := find_scan p text
  rw [h] at hscan
  cases hscan with
  | next hstart hsize hnone hmatch hrest =>
    refine ⟨(matchAt_some hmatch hsize).2.1, hmatch, fun other hother => ?_⟩
    by_contra hbefore
    have hthere : matchAt p text other.start false = none :=
      hnone other.start (Nat.zero_le _) (Nat.lt_of_not_le hbefore)
    have hsome := hother.matchAt_isSome
    rw [hthere] at hsome
    cases hsome

namespace Scan

variable {p : Pattern} {text : Subject} {start : Nat} {nonempty : Bool} {found : List Found}

theorem matches_of_mem (h : Scan p text start nonempty found) :
    ∀ m ∈ found, p.Matches text m := by
  induction h with
  | done hnone => simp
  | next hstart hsize hnone hmatch hrest ih =>
    intro m hm
    rcases List.mem_cons.mp hm with rfl | hm
    · exact (matchAt_some hmatch hsize).2.1
    · exact ih m hm

end Scan

end TemplateSwap.Pattern
