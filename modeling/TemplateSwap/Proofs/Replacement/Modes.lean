import TemplateSwap.Proofs.Matching.OneLine
import TemplateSwap.Proofs.Replacement.Rewriting
import TemplateSwap.Spec

namespace TemplateSwap

open TemplateSwap.Text (Code codes Lines.lineBreak Lines.carriageReturn)
open TemplateSwap.Pattern (Found Subject)

namespace Replacer

/-- The same replacer for texts taken as one. -/
def acrossLines (r : Replacer) : Replacer := { r with pattern := r.pattern.acrossLines, multiline := true }

theorem flags_acrossLines : (flags false).acrossLines = flags true := rfl

theorem compile_acrossLines (before after : Template) (f : Fragments) (firstOnly : Bool) :
    compile before after f firstOnly true = (compile before after f firstOnly false).map acrossLines := by
  unfold compile
  rw [← flags_acrossLines]
  cases (before.validateKnown f.names).mapError Failure.config with
  | error e => rfl
  | ok u =>
    cases Composite.source before f with
    | error e => rfl
    | ok source =>
      simp only [bind, Except.bind, Pattern.compile_acrossLines]
      split
      · rfl
      · cases Pattern.compile source (flags false) <;> rfl

/-- What is found and what is written for it decide how a text is rewritten. -/
theorem replaceWhole_congr {r r' : Replacer} {text : List Code}
    (hfind : r'.pattern.find text.toArray r'.firstOnly = r.pattern.find text.toArray r.firstOnly)
    (hexpand : ∀ m, r'.expand text.toArray m = r.expand text.toArray m) :
    r'.replaceWhole text = r.replaceWhole text := by
  have hsplice (position : Nat) (found : List Found) :
      r'.splice text.toArray position found = r.splice text.toArray position found := by
    induction found generalizing position with
    | nil => rfl
    | cons m rest ih => rw [splice, splice, hexpand, ih]
  rw [replaceWhole, replaceWhole, hfind, hsplice]

theorem replaceWhole_acrossLines {text : List Code} (h : Lines.lineBreak ∉ text) (r : Replacer) :
    r.acrossLines.replaceWhole text = r.replaceWhole text := by
  have hsubject : Lines.lineBreak ∉ text.toArray := by simpa using h
  exact replaceWhole_congr (Pattern.find_acrossLines hsubject r.pattern r.firstOnly) fun _ => rfl

/-- A text of one line, without a carriage return at its end, is searched as it is. -/
theorem replaceCount_single {r : Replacer} {text : List Code} (hbreak : Lines.lineBreak ∉ text)
    (hreturn : text.getLast? ≠ some Lines.carriageReturn) : r.replaceCount text = r.replaceWhole text := by
  have hline : r.replaceLine text = r.replaceWhole text := by
    simp [replaceLine, Text.Lines.holdAside_eq_self hreturn]
  have hlines : r.replaceLines [text] = ([(r.replaceWhole text).1], (r.replaceWhole text).2) := by
    simp [replaceLines, hline]
  unfold replaceCount
  split_ifs
  · rfl
  · rw [Text.Lines.split_eq_singleton hbreak, hlines]
    rfl

end Replacer

namespace Spec

open Replacer (acrossLines)

/-- The two modes differ only where there are lines: specifications that differ in the mode alone are both
compiled or refused for the same reason, and rewrite every text of one line in the same way. -/
theorem replaceCount_modes (s : Spec) :
    (∃ r r', { s with multiline := false }.replacer = .ok r ∧ { s with multiline := true }.replacer = .ok r' ∧
      ∀ text : List Code, Lines.lineBreak ∉ text → text.getLast? ≠ some Lines.carriageReturn →
        r'.replaceCount text = r.replaceCount text) ∨
    ∃ failure, { s with multiline := false }.replacer = .error failure ∧
      { s with multiline := true }.replacer = .error failure := by
  have hcompile : { s with multiline := true }.replacer =
      ({ s with multiline := false }.replacer).map acrossLines :=
    Replacer.compile_acrossLines s.before s.after s.fragments s.firstOnly
  rw [hcompile]
  cases hline : { s with multiline := false }.replacer with
  | error failure => exact .inr ⟨failure, rfl, rfl⟩
  | ok r =>
    refine .inl ⟨r, r.acrossLines, rfl, rfl, fun text hbreak hreturn => ?_⟩
    calc r.acrossLines.replaceCount text
        = r.acrossLines.replaceWhole text := Replacer.replaceCount_single hbreak hreturn
      _ = r.replaceWhole text := Replacer.replaceWhole_acrossLines hbreak r
      _ = r.replaceCount text := (Replacer.replaceCount_single hbreak hreturn).symm

theorem replaceCount_modes_anchors :
    ∃ s r r', create { before := "${x}", after := "<${x}>", groups :=
        [(.text "x", .text "^.(?!$)|(?m:(?<=.)(?s:.)$)")] } = .ok s ∧
      { s with multiline := false }.replacer = .ok r ∧ { s with multiline := true }.replacer = .ok r' ∧
      r'.replaceCount (codes "abc") = r.replaceCount (codes "abc") ∧
      r.replaceCount (codes "abc") = (codes "<a>b<c>", 2) := by
  have hcreate : (create { before := "${x}", after := "<${x}>", groups :=
      [(.text "x", .text "^.(?!$)|(?m:(?<=.)(?s:.)$)")] }).toOption.any (fun s =>
        { s with multiline := false }.replacer.toOption.any fun r : Replacer =>
          decide (r.replaceCount (codes "abc") = (codes "<a>b<c>", 2))) = true := by decide +kernel
  obtain ⟨s, hs, hreplacer⟩ := Results.exists_ok hcreate
  obtain ⟨r, hr, hcount⟩ := Results.exists_ok hreplacer
  rcases replaceCount_modes s with ⟨r₁, r', hr₁, hr', hsame⟩ | ⟨failure, hfailure, -⟩
  · obtain rfl := Except.ok.inj (hr.symm.trans hr₁)
    have hagree := hsame (codes "abc") (by decide) (by decide)
    exact ⟨s, r, r', hs, hr, hr', hagree, of_decide_eq_true hcount⟩
  · rw [hr] at hfailure
    cases hfailure

end Spec

end TemplateSwap
