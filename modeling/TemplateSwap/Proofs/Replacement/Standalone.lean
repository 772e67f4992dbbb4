import TemplateSwap.Proofs.Replacement.Captures
import TemplateSwap.Proofs.Matching.Scan
import TemplateSwap.Spec

namespace TemplateSwap

open TemplateSwap.Text (Code codes)
open TemplateSwap.Pattern
open TemplateSwap.Composite

namespace Pattern

theorem Regex.shift_zero (r : Regex) : r.shift 0 = r := by
  induction r with
  | cat a b iha ihb | choice a b iha ihb => rw [Regex.shift, iha, ihb]
  | loop _ _ _ body ih | scope _ _ body ih | atomic body ih | ahead _ body ih | behind _ body ih =>
    rw [Regex.shift, ih]
  | group index body ih => rw [Regex.shift, ih, Nat.add_zero]
  | whether index yes no ihyes ihno => rw [Regex.shift, ihyes, ihno, Nat.add_zero]
  | _ => rfl

/-- A fragment that compiles without switches compiles to the same expression with those of a composite
pattern. -/
theorem compile_flags {p : Pattern} (hp : compile p.source {} = .ok p)
    (hnumber : refersByNumber p.source = false) (hswitches : setsSwitches p.source = false)
    (multiline : Bool) :
    ∃ q, compile p.source (Replacer.flags multiline) = .ok q ∧ q.regex = p.regex ∧
      q.flags = settleMode (Replacer.flags multiline) := by
  let c : Context := { flags := Replacer.flags multiline }
  have hc : c.Open := by
    intro f hf
    cases hf
  have hend : Source.Closing [] := by
    intro x h
    cases h
  have hstart : c.builder = Builder.start (Replacer.flags multiline) := rfl
  rcases compile_leads hp hc (fun _ => hswitches) hend with ⟨e, hleads, he, -⟩ | ⟨-, hwhy⟩
  · rw [List.append_nil] at hleads
    obtain ⟨m, -, hrun⟩ := hleads _ (Nat.lt_succ_self _)
    rw [Reader.assemble_nil, hstart] at hrun
    obtain ⟨b, hb, hfault, hsame⟩ := compile_ok.mp hp
    have hregex : e.level.regex = p.regex := by
      rw [(he.regex.exactly hnumber).1]
      exact Regex.shift_zero _
    have hflags : e.flags = Replacer.flags multiline := he.flags
    have hreads : Reads (Replacer.flags multiline) (symbols p.source) e :=
      { notAlone := hb.notAlone
        assembled := hrun
        closed := he.frames
        modes := by
          rw [hflags]
          rfl
        conditions := by
          rw [he.conditions hnumber]
          rfl }
    have hnone : e.level.regex.fault? (settleMode e.flags) = none := by
      have hown : p.regex.fault? p.flags = none := by
        rw [hsame]
        exact hfault
      have htemplate : (settleMode (Replacer.flags multiline)).template = (settleMode {}).template := rfl
      rw [hregex, hflags, ← hown, he.modes]
      exact fault?_flags htemplate p.regex
    refine ⟨_, compile_ok.mpr ⟨e, hreads, hnone, rfl⟩, hregex, ?_⟩
    rw [← hflags]
  · rcases hwhy hnumber with hset | ⟨g, -, name, -, before, hbefore, -⟩
    · rw [hswitches] at hset
      cases hset
    · cases hbefore

end Pattern

theorem Spec.create_ok {s : SpecSource} {spec : Spec} (h : Spec.create s = .ok spec) :
    Fragments.compile s.groups s.location = .ok spec.fragments ∧
      Template.read s.before s.repeatedGroups s.location = .ok spec.before ∧
      Template.read s.after s.repeatedGroups s.location = .ok spec.after := by
  obtain ⟨f, hf, h⟩ := Results.bind_ok.mp h
  obtain ⟨before, hbefore, h⟩ := Results.bind_ok.mp h
  obtain ⟨after, hafter, h⟩ := Results.bind_ok.mp h
  obtain ⟨_, -, h⟩ := Results.bind_ok.mp h
  obtain ⟨t, ht, hknown⟩ := Results.bind_ok.mp (Results.mapError_ok.mp hbefore)
  obtain ⟨_, -, hsame⟩ := Results.bind_ok.mp hknown
  obtain rfl := Results.pure_ok.mp hsame
  obtain rfl := Results.pure_ok.mp h
  exact ⟨hf, ht, Results.mapError_ok.mp hafter⟩

namespace Replacer

/-- An occurrence of a placeholder captures what its fragment can match on its own, from the same
position to the same position, if the fragment does not refer to groups by number. -/
theorem captured_alone {s : SpecSource} {spec : Spec} {r : Replacer} (hs : Spec.create s = .ok spec)
    (hr : spec.replacer = .ok r) {text : Subject} {m : Found} (hm : r.pattern.Matches text m)
    {name : String} {index : Nat} (hmem : .placeholder name index ∈ spec.before.tokens) :
    ∃ p first last, spec.fragments.get? name = some p ∧
      span? r.pattern m index = some (first, last) ∧
      (refersByNumber p.source = false →
        ∃ q own, Pattern.compile p.source (flags spec.multiline) = .ok q ∧ q.Matches text own ∧
          own.start = first ∧ own.stop = last) := by
  have hsound : Sound spec.fragments := sound_of_compile (Spec.create_ok hs).1
  have hbuilt := compile_ok.mp hr
  obtain ⟨source, hsource, hp⟩ := hbuilt.source
  obtain ⟨items, -, hwoven, hflags⟩ := woven_of_compile hsound hsource hp
  obtain ⟨p, hget, hswitches⟩ := hwoven.fragment hmem
  obtain ⟨first, last, hle, hsize, hspan, halone⟩ := (hbuilt.divided hsound hm).takes_of_mem hmem
  rw [numberOf_eq] at hspan
  refine ⟨p, first, last, hget, hspan, ?_⟩
  intro hnumber
  obtain ⟨q, hq, hregex, hmodes⟩ :=
    Pattern.compile_flags (hsound name p hget) hnumber hswitches spec.multiline
  obtain ⟨final, hfinal, hlast⟩ := halone p hget hnumber
  refine ⟨q, ⟨first, final⟩, hq, matches_iff.mpr ⟨hle.trans hsize, ?_⟩, rfl, hlast⟩
  rw [hregex, hmodes, ← hflags]
  exact hfinal

theorem captured_alone_second :
    ∃ spec r m p q own, Spec.create { before := "${y}${x}", after := "${x}", groups :=
        [(.text "y", .text "c"), (.text "x", .text "(?P<l>a|b)(?P=l)")] } = .ok spec ∧
      spec.replacer = .ok r ∧ r.pattern.Matches (codes "caa").toArray m ∧
      spec.fragments.get? "x" = some p ∧ Pattern.compile p.source (flags spec.multiline) = .ok q ∧
      q.Matches (codes "caa").toArray own ∧ span? r.pattern m 1 = some (own.start, own.stop) := by
  have hcreated : ∃ spec, Spec.create { before := "${y}${x}", after := "${x}", groups :=
        [(.text "y", .text "c"), (.text "x", .text "(?P<l>a|b)(?P=l)")] } = .ok spec ∧
      (decide (.placeholder "x" 1 ∈ spec.before.tokens) &&
        (spec.fragments.get? "x").all (fun p => !refersByNumber p.source) &&
        spec.replacer.toOption.any (fun r =>
          !(r.pattern.find (codes "caa").toArray false).isEmpty)) = true :=
    Results.exists_ok (by decide +kernel)
  obtain ⟨spec, hs, hchecks⟩ := hcreated
  simp only [Bool.and_eq_true, decide_eq_true_eq] at hchecks
  obtain ⟨⟨hmem, hnumber⟩, hreplacer⟩ := hchecks
  obtain ⟨r, hr, hfind⟩ := Results.exists_ok hreplacer
  obtain ⟨m, hm⟩ := List.exists_mem_of_ne_nil (r.pattern.find (codes "caa").toArray false)
    (by simpa using hfind)
  have hmatches := (find_scan r.pattern _).matches_of_mem m hm
  obtain ⟨p, first, last, hp, hspan, halone⟩ := captured_alone hs hr hmatches hmem
  rw [hp] at hnumber
  obtain ⟨q, own, hq, hown, rfl, rfl⟩ := halone (by simpa using hnumber)
  exact ⟨spec, r, m, p, q, own, hs, hr, hmatches, hp, hq, hown, hspan⟩

/-- A reference by number means another group where the fragment stands. -/
theorem captured_not_alone :
    ∃ spec r m p q, Spec.create { before := "${y}${x}", after := "${x}", groups :=
        [(.text "y", .text "c"), (.text "x", .text "(a|b)\\1")] } = .ok spec ∧
      spec.replacer = .ok r ∧ r.pattern.Matches (codes "cac").toArray m ∧
      .placeholder "x" 1 ∈ spec.before.tokens ∧ spec.fragments.get? "x" = some p ∧
      Pattern.compile p.source (flags spec.multiline) = .ok q ∧ span? r.pattern m 1 = some (1, 3) ∧
      ¬∃ own, q.Matches (codes "cac").toArray own ∧ own.start = 1 ∧ own.stop = 3 := by
  have hcreated : ∃ spec, Spec.create { before := "${y}${x}", after := "${x}", groups :=
        [(.text "y", .text "c"), (.text "x", .text "(a|b)\\1")] } = .ok spec ∧
      (decide (.placeholder "x" 1 ∈ spec.before.tokens) &&
        (spec.fragments.get? "x").any (fun p =>
          (Pattern.compile p.source (flags spec.multiline)).toOption.any fun q =>
            (q.regex.outcomes (codes "cac").toArray q.flags { position := 1 }).all
              fun s => decide (s.position ≠ 3)) &&
        spec.replacer.toOption.any (fun r => (r.pattern.find (codes "cac").toArray false).any
          fun m => decide (span? r.pattern m 1 = some (1, 3)))) = true :=
    Results.exists_ok (by decide +kernel)
  obtain ⟨spec, hs, hchecks⟩ := hcreated
  simp only [Bool.and_eq_true, decide_eq_true_eq] at hchecks
  obtain ⟨⟨hmem, hfragment⟩, hreplacer⟩ := hchecks
  obtain ⟨r, hr, hfind⟩ := Results.exists_ok hreplacer
  obtain ⟨m, hm, hspan⟩ := List.any_eq_true.mp hfind
  obtain ⟨p, hp, hcompiles⟩ := (Option.any_eq_true _ _).mp hfragment
  obtain ⟨q, hq, hnone⟩ := Results.exists_ok hcompiles
  have hmatches := (find_scan r.pattern _).matches_of_mem m hm
  refine ⟨spec, r, m, p, q, hs, hr, hmatches, hmem, hp, hq, of_decide_eq_true hspan, ?_⟩
  intro h
  obtain ⟨own, hown, hstart, hstop⟩ := h
  obtain ⟨-, hfinal⟩ := matches_iff.mp hown
  rw [hstart] at hfinal
  have hne := List.all_eq_true.mp hnone _ hfinal
  exact of_decide_eq_true hne hstop

end Replacer

end TemplateSwap
