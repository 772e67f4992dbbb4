import TemplateSwap.Proofs.Reading.Simulation
import TemplateSwap.Pattern.Compile

namespace TemplateSwap.Pattern

open TemplateSwap.Text (Code codes)
open Reader

/-- The symbols of a pattern. -/
def symbols (source : String) : Source := .ofCodes (codes source)

/-- The builder before anything is read. -/
def Builder.start (flags : Flags) : Builder := { flags, level := { verbose := flags.verbose } }

/-- All of a text is read, and gives a builder that passes the checks at the end. -/
structure Reads (flags : Flags) (s : Source) (b : Builder) : Prop where
  notAlone : s ≠ [.loneBackslash]
  assembled : assemble (s.length + 1) (.start flags) s = .ok (b, [])
  closed : b.frames = []
  modes : (b.flags.ascii && b.flags.unicode) = false
  conditions : b.conditions.find? (fun (index, _) => b.groups.length < index) = none

theorem finish_ok {b b' : Builder} {s rest : Source} :
    finish b s = .ok (b', rest) ↔ (b.frames = [] ∧ (b.flags.ascii && b.flags.unicode) = false ∧
      b.conditions.find? (fun (index, _) => b.groups.length < index) = none) ∧
      s = [] ∧ b' = b ∧ rest = [] := by
  unfold finish
  cases hframes : b.frames with
  | cons frame frames => simp [failAt]
  | nil =>
    cases hmodes : b.flags.ascii && b.flags.unicode with
    | true => simp
    | false =>
      cases s with
      | cons x s => simp [peek, bind, StateT.bind, Except.bind, fail]
      | nil =>
        cases hconditions : b.conditions.find? (fun (index, _) => b.groups.length < index) with
        | some condition => simp [peek, bind, StateT.bind, Except.bind, failAt]
        | none =>
          change (pure b : Reader Builder) [] = .ok (b', rest) ↔ _
          rw [pure_ok]
          simp

theorem finish_faulty {b : Builder} (hmodes : (b.flags.ascii && b.flags.unicode) = false) :
    Faulty (finish b) := by
  have hpeek : Faulty peek := fun s stop h => nomatch h
  unfold finish
  cases b.frames with
  | cons frame frames => exact .fail fun _ => ⟨_, _, rfl⟩
  | nil =>
    simp only [hmodes]
    refine .bind hpeek fun ahead => ?_
    split_ifs
    · exact .fail (fail_refuses _)
    · split
      · exact .fail fun _ => ⟨_, _, rfl⟩
      · exact .pure _

theorem readAll_ok {flags : Flags} {s rest : Source} {b : Builder} :
    readAll flags s = .ok (b, rest) ↔ Reads flags s b ∧ rest = [] := by
  unfold readAll
  by_cases hs : s = [.loneBackslash]
  · rw [if_pos hs]
    simp only [reduceCtorEq, false_iff, not_and]
    exact fun h => absurd hs h.notAlone
  · rw [if_neg hs, bind_ok]
    constructor
    · intro h
      obtain ⟨e, t, hrun, hfinish⟩ := h
      obtain ⟨⟨hclosed, hmodes, hconditions⟩, rfl, rfl, rfl⟩ := finish_ok.mp hfinish
      exact ⟨⟨hs, hrun, hclosed, hmodes, hconditions⟩, rfl⟩
    · intro h
      obtain ⟨h, rfl⟩ := h
      exact ⟨b, [], h.assembled, finish_ok.mpr ⟨⟨h.closed, h.modes, h.conditions⟩, rfl, rfl, rfl⟩⟩

/-- Reading all of a text goes wrong with a fault only, if no modes exclude each other at its end. -/
theorem readAll_refuses {flags : Flags} {s : Source} {stop : Stop}
    (h : Fails (.start flags) s ∨ ∃ b rest, assemble (s.length + 1) (.start flags) s = .ok (b, rest) ∧
      (b.flags.ascii && b.flags.unicode) = false)
    (hstop : readAll flags s = .error stop) : Refuses (readAll flags) s := by
  by_cases halone : s = [.loneBackslash]
  · exact ⟨.trailingBackslash, 1, if_pos halone⟩
  · have hread : readAll flags s = (assemble (s.length + 1) (.start flags) >>= finish) s := if_neg halone
    rw [hread] at hstop
    rw [Refuses, hread]
    rcases h with hfails | ⟨b, rest, hrun, hmodes⟩
    · obtain ⟨fault, left, hfault⟩ := hfails _ (Nat.lt_succ_self _)
      exact ⟨fault, left, by simp only [bind, StateT.bind, Except.bind, hfault]⟩
    · have hbind : (assemble (s.length + 1) (.start flags) >>= finish) s = finish b rest := by
        simp only [bind, StateT.bind, Except.bind, hrun]
      rw [hbind] at hstop ⊢
      exact finish_faulty hmodes rest stop hstop

theorem compile_faulty {source : String} {flags : Flags} {refusal : Refusal}
    (hread : ∀ stop, readAll flags (symbols source) = .error stop →
      Refuses (readAll flags) (symbols source))
    (h : compile source flags = .error refusal) : ∃ e, refusal = .faulty e := by
  have hsymbols : Source.ofCodes (codes source) = symbols source := rfl
  simp only [compile, hsymbols] at h
  cases hresult : readAll flags (symbols source) with
  | error stop =>
    obtain ⟨fault, left, hfault⟩ := hread stop hresult
    simp only [hfault] at h
    exact ⟨_, (Except.error.inj h).symm⟩
  | ok result =>
    simp only [hresult] at h
    split at h
    · exact ⟨_, (Except.error.inj h).symm⟩
    · cases h

theorem compile_ok {source : String} {flags : Flags} {p : Pattern} :
    compile source flags = .ok p ↔
      ∃ b, Reads flags (symbols source) b ∧ b.level.regex.fault? (settleMode b.flags) = none ∧
        p = { source, regex := b.level.regex, flags := settleMode b.flags, groups := b.groups } := by
  have hsymbols : Source.ofCodes (codes source) = symbols source := rfl
  simp only [compile, hsymbols]
  cases hresult : readAll flags (symbols source) with
  | error stop =>
    have hnone : ∀ b, ¬Reads flags (symbols source) b := by
      intro b hb
      rw [readAll_ok.mpr ⟨hb, rfl⟩] at hresult
      cases hresult
    cases stop <;> simp [hnone]
  | ok result =>
    obtain ⟨b, rest⟩ := result
    obtain ⟨hb, rfl⟩ := readAll_ok.mp hresult
    have honly : ∀ b', Reads flags (symbols source) b' → b' = b := by
      intro b' hb'
      have hsame := (readAll_ok.mpr ⟨hb', rfl⟩).symm.trans hresult
      exact (Prod.mk.inj (Except.ok.inj hsame)).1
    dsimp only
    cases hfault : b.level.regex.fault? (settleMode b.flags) with
    | some fault =>
      simp only [reduceCtorEq, false_iff, not_exists, not_and]
      intro b' hb' hnone
      rw [honly b' hb', hfault] at hnone
      cases hnone
    | none =>
      simp only [Except.ok.injEq]
      constructor
      · intro heq
        obtain rfl := heq
        exact ⟨b, hb, hfault, rfl⟩
      · intro h
        obtain ⟨b', hb', -, rfl⟩ := h
        rw [honly b' hb']

theorem Source.EndsAlone.cons {s : Source} (h : s.EndsAlone) (x : Symbol) :
    Source.EndsAlone (x :: s) := by
  unfold Source.EndsAlone at h
  simp [Source.EndsAlone, List.getLast?_cons, h]

theorem ofCodes_append {cs ds : List Code} (h : ¬(Source.ofCodes cs).EndsAlone) :
    Source.ofCodes (cs ++ ds) = Source.ofCodes cs ++ Source.ofCodes ds := by
  fun_induction Source.ofCodes cs with
  | case1 => rfl
  | case2 c =>
    have hc : c ≠ 92 := by
      intro heq
      obtain rfl := heq
      exact h rfl
    cases ds with
    | nil => simp [Source.ofCodes, hc]
    | cons d ds => simp [Source.ofCodes, hc]
  | case3 d rest ih =>
    have hrest : ¬(Source.ofCodes rest).EndsAlone := by
      exact fun halone => h (halone.cons _)
    simp [Source.ofCodes, ih hrest]
  | case4 c d rest hc ih =>
    have hrest : ¬(Source.ofCodes (d :: rest)).EndsAlone := by
      exact fun halone => h (halone.cons _)
    have happend := ih hrest
    rw [List.cons_append] at happend
    simp [Source.ofCodes, hc, happend]

theorem Reads.not_endsAlone {flags : Flags} {s : Source} {b : Builder} (h : Reads flags s b) :
    ¬s.EndsAlone := by
  intro halone
  have hleaves := (assemble_continues h.assembled).1
  have hnil := (hleaves.alone h.notAlone).2 halone
  simp [Source.EndsAlone] at hnil

/-- All of a text is read if reading comes to its end. -/
theorem Reads.of_leads {flags : Flags} {s : Source} {b : Builder} (h : Leads (.start flags) s b [])
    (hnotAlone : s ≠ [.loneBackslash]) (hclosed : b.frames = [])
    (hmodes : (b.flags.ascii && b.flags.unicode) = false)
    (hconditions : b.conditions.find? (fun (index, _) => b.groups.length < index) = none) : Reads flags s b := by
  obtain ⟨m, -, heq⟩ := h _ (Nat.lt_succ_self _)
  rw [assemble_nil] at heq
  exact ⟨hnotAlone, heq, hclosed, hmodes, hconditions⟩

/-- Whether a pattern refers to groups by their numbers. -/
def refersByNumber (source : String) : Bool := (stationsOf source).any numberedAt

/-- Whether a pattern has switches for all of it. -/
def setsSwitches (source : String) : Bool := (stationsOf source).any switchesAt

/-- The builder at the end of a fragment that was read in its surroundings. -/
structure Embedded (c : Context) (p : Pattern) (e : Builder) : Prop where
  frames : e.frames = c.frames
  flags : e.flags = c.flags
  lookbehind : e.lookbehind = none
  conditions : refersByNumber p.source = false → e.conditions = c.conditions
  groups : ∃ own, e.groups = c.groups ++ own ∧
    List.Forall₂ (GroupInfo.Placed (refersByNumber p.source = false)) p.groups own
  fresh : ¬Clash c.groups p.groups
  modes : p.flags = settleMode {}
  regex : p.regex.Placed (refersByNumber p.source = false) c.groups.length p.groups.length e.level.regex

theorem fault?_shift (flags : Flags) (d : Nat) (r : Regex) : (r.shift d).fault? flags = r.fault? flags := by
  induction r generalizing flags with
  | cat a b iha ihb | choice a b iha ihb | whether _ a b iha ihb =>
    simp only [Regex.shift, Regex.fault?, iha, ihb]
  | loop _ _ _ body ih | group _ body ih | scope _ _ body ih | atomic body ih | ahead _ body ih =>
    simp only [Regex.shift, Regex.fault?, ih]
  | behind _ body ih => simp only [Regex.shift, Regex.fault?, ih, Regex.width_shift]
  | _ => rfl

theorem template_within {flags flags' : Flags} (h : flags.template = flags'.template) (on off : Flags) :
    (flags.within on off).template = (flags'.within on off).template := by
  unfold Flags.within
  dsimp only
  split_ifs <;> simp [Flags.union, Flags.remove, h]

theorem fault?_flags {flags flags' : Flags} (h : flags.template = flags'.template) (r : Regex) :
    r.fault? flags = r.fault? flags' := by
  induction r generalizing flags flags' with
  | cat a b iha ihb | choice a b iha ihb | whether _ a b iha ihb =>
    simp only [Regex.fault?, iha h, ihb h]
  | group _ body ih | atomic body ih | ahead _ body ih => exact ih h
  | loop _ _ _ body ih => simp only [Regex.fault?, h, ih h]
  | scope on off body ih => exact ih (template_within h on off)
  | behind _ body ih => simp only [Regex.fault?, ih h]
  | _ => rfl

theorem fault?_ofItems {flags : Flags} {items : List Regex}
    (h : ∀ r ∈ items, r.fault? flags = none) : (Regex.ofItems items).fault? flags = none := by
  induction items with
  | nil => rfl
  | cons r items ih =>
    rw [List.forall_mem_cons] at h
    simp only [Regex.ofItems, Regex.fault?, h.1, ih h.2]
    rfl

theorem fault?_ofBranches {flags : Flags} {first : Regex} {rest : List Regex}
    (h : ∀ r ∈ first :: rest, r.fault? flags = none) : (Regex.ofBranches first rest).fault? flags = none := by
  induction rest generalizing first with
  | nil => exact h first List.mem_cons_self
  | cons second rest ih =>
    rw [List.forall_mem_cons] at h
    simp only [Regex.ofBranches, Regex.fault?, h.1, ih h.2]
    rfl

/-- A fragment that compiles on its own, read where it stands. -/
theorem compile_leads {source : String} {p : Pattern} (hp : compile source {} = .ok p) {c : Context}
    (hc : c.Open) (hswitches : c.frames = [] → setsSwitches source = false) {tail : Source}
    (ht : tail.Closing) :
    (∃ e, Leads c.builder (symbols source ++ tail) e tail ∧ Embedded c p e ∧
        setsSwitches source = false) ∨
      (Fails c.builder (symbols source ++ tail) ∧
        (refersByNumber source = false → setsSwitches source = true ∨ Clash c.groups p.groups)) := by
  obtain ⟨b, hb, -, rfl⟩ := compile_ok.mp hp
  have hstations : stationsOf source =
      stations ((symbols source).length + 1) (.start {}) (symbols source) := rfl
  have hnum : refersByNumber source = false → ∀ t ∈ stationsOf source, numberedAt t = false := by
    simp [refersByNumber]
  have hnone : setsSwitches source = false ↔ ∀ t ∈ stationsOf source, switchesAt t = false := by
    simp [setsSwitches]
  have hsome : setsSwitches source = true ↔ ∃ t ∈ stationsOf source, switchesAt t = true := by
    simp [setsSwitches]
  rw [hnone] at hswitches ⊢
  rw [hsome]
  rw [hstations] at hnum hswitches ⊢
  rcases assemble_follows hc (.start _ c) hb.assembled hb.closed hnum hswitches ht with
    ⟨e, hleads, he, hall⟩ | ⟨hfails, hwhy⟩
  · obtain ⟨hframes, hlookbehind, -⟩ := he.closed hb.closed
    have hfresh : ¬Clash c.groups b.groups := by
      intro h
      obtain ⟨g, hg, name, hname, h, hh, hhname⟩ := h
      exact he.fresh g hg name hname h hh hhname
    exact .inl ⟨e, hleads, ⟨hframes, he.flags, hlookbehind, he.conditions, he.groups, hfresh,
      congrArg settleMode he.noFlags, he.level.regex⟩, hall⟩
  · exact .inr ⟨hfails, hwhy⟩

end TemplateSwap.Pattern
