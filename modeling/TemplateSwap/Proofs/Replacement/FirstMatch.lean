import TemplateSwap.Proofs.Replacement.Cutting
import TemplateSwap.Spec

namespace TemplateSwap

open TemplateSwap.Text (Code codes Lines.lineBreak Lines.carriageReturn)
open TemplateSwap.Pattern (Found)

/-- The match that the matcher prefers where the leftmost matches begin, of all stretches that are searched. -/
structure FirstMatch (p : Pattern) (multiline : Bool) (text : List Code) (site : Site) : Prop where
  inside : Searched multiline text site.offset site.body
  preferred : p.matchAt site.body.toArray site.found.start false = some site.found
  leftmost : ∀ other : Site, Searched multiline text other.offset other.body →
    p.Matches other.body.toArray other.found →
    site.offset + site.found.start ≤ other.offset + other.found.start

section Stretches

variable {multiline : Bool} {text body : List Code} {offset : Nat}

theorem lineBodies_append {xs : List (List Code)} (h : xs ≠ []) (ys : List (List Code)) (offset : Nat) :
    lineBodies offset (xs ++ ys) =
      lineBodies offset xs ++ lineBodies (offset + (Text.Lines.join xs).length + 1) ys := by
  induction xs generalizing offset with
  | nil => exact absurd rfl h
  | cons line xs ih =>
    by_cases hlast : xs = []
    · subst hlast
      rfl
    · have hlength : offset + (Text.Lines.join (line :: xs)).length + 1 =
          offset + line.length + 1 + (Text.Lines.join xs).length + 1 := by
        rw [Text.Lines.join_cons hlast, List.length_append, List.length_append, List.length_singleton]
        omega
      rw [List.cons_append, lineBodies, lineBodies, ih hlast, hlength, List.cons_append]

/-- What comes first in a text without a line break before it is its first line. -/
theorem mem_lineBodies_head {ending after : List Code} (hbody : Lines.lineBreak ∉ body)
    (hending : ending = [Lines.carriageReturn] ∨ ending = [] ∧ body.getLast? ≠ some Lines.carriageReturn)
    (hafter : after = [] ∨ after.head? = some Lines.lineBreak) (offset : Nat) :
    (offset, body) ∈ lineBodies offset (Text.Lines.split (body ++ ending ++ after)) := by
  have hline : Lines.lineBreak ∉ body ++ ending := by
    rw [List.mem_append, not_or]
    refine ⟨hbody, ?_⟩
    rcases hending with rfl | ⟨rfl, -⟩
    · decide
    · exact List.not_mem_nil
  have haside : (Text.Lines.holdAside (body ++ ending)).1 = body := by
    rcases hending with rfl | ⟨rfl, hplain⟩
    · rw [Text.Lines.holdAside_return]
    · rw [List.append_nil, Text.Lines.holdAside_eq_self hplain]
  have hfirst : ∃ lines, Text.Lines.split (body ++ ending ++ after) = (body ++ ending) :: lines := by
    rcases hafter with rfl | hbreak
    · exact ⟨[], by rw [List.append_nil, Text.Lines.split_eq_singleton hline]⟩
    · obtain ⟨rest, rfl⟩ := List.head?_eq_some_iff.mp hbreak
      exact ⟨Text.Lines.split rest, by
        rw [Text.Lines.split_append, Text.Lines.split_eq_singleton hline, List.singleton_append]⟩
  obtain ⟨lines, hlines⟩ := hfirst
  rw [hlines, lineBodies, haside]
  exact List.mem_cons_self

theorem mem_searched (h : Searched multiline text offset body) : (offset, body) ∈ searched multiline text := by
  cases multiline with
  | true =>
    obtain ⟨rfl, rfl⟩ := h
    exact List.mem_singleton.mpr rfl
  | false =>
    have hline : LineAt text offset body := h
    obtain ⟨before, ending, after, rfl, rfl, hbefore, hending, hafter⟩ := hline.around
    have hhead := mem_lineBodies_head hline.noBreak hending hafter
    rw [searched, if_neg Bool.false_ne_true]
    rcases hbefore with rfl | hbreak
    · exact hhead 0
    · have hcut := List.dropLast_append_getLast? Lines.lineBreak hbreak
      have htext : before ++ body ++ ending ++ after =
          before.dropLast ++ Lines.lineBreak :: (body ++ ending ++ after) := by
        conv_lhs => rw [← hcut]
        simp
      have hlength : 0 + (Text.Lines.join (Text.Lines.split before.dropLast)).length + 1 = before.length := by
        rw [Text.Lines.join_split, ← hcut, List.length_append, List.length_singleton, List.dropLast_concat]
        omega
      rw [htext, Text.Lines.split_append, lineBodies_append (Text.Lines.split_ne_nil _), hlength]
      exact List.mem_append_right _ (hhead before.length)

/-- Each stretch ends before the next one begins. -/
theorem lineBodies_pairwise (offset : Nat) (lines : List (List Code)) :
    (lineBodies offset lines).Pairwise (fun s t => s.1 + s.2.length < t.1) ∧
      ∀ s ∈ lineBodies offset lines, offset ≤ s.1 := by
  induction lines generalizing offset with
  | nil => exact ⟨.nil, nofun⟩
  | cons line lines ih =>
    obtain ⟨hordered, hbehind⟩ := ih (offset + line.length + 1)
    have hlength : (Text.Lines.holdAside line).1.length ≤ line.length := by
      have hwhole := congrArg List.length (Text.Lines.holdAside_append line)
      rw [List.length_append] at hwhole
      omega
    rw [lineBodies]
    refine ⟨List.pairwise_cons.mpr ⟨fun s hs => ?_, hordered⟩, ?_⟩
    · have hs' := hbehind s hs
      dsimp only
      omega
    · rw [List.forall_mem_cons]
      refine ⟨Nat.le_refl offset, fun s hs => ?_⟩
      have hs' := hbehind s hs
      omega

theorem searched_pairwise (multiline : Bool) (text : List Code) :
    (searched multiline text).Pairwise fun s t => s.1 + s.2.length < t.1 := by
  rw [searched]
  split_ifs
  · exact List.pairwise_singleton _ _
  · exact (lineBodies_pairwise 0 _).1

end Stretches

theorem sites_eq_cons {p : Pattern} {stretches : List (Nat × List Code)} {site : Site} {more : List Site}
    (h : sites p stretches = site :: more) :
    ∃ earlier later, stretches = earlier ++ (site.offset, site.body) :: later ∧
      (∀ s ∈ earlier, p.find s.2.toArray false = []) ∧
      ∃ rest, p.find site.body.toArray false = site.found :: rest := by
  induction stretches with
  | nil => cases h
  | cons stretch stretches ih =>
    obtain ⟨offset, body⟩ := stretch
    rw [sites, List.flatMap_cons] at h
    dsimp only at h
    cases hfind : p.find body.toArray false with
    | nil =>
      rw [hfind, List.map_nil, List.nil_append] at h
      obtain ⟨earlier, later, rfl, hnone, hfound⟩ := ih h
      refine ⟨(offset, body) :: earlier, later, rfl, ?_, hfound⟩
      rw [List.forall_mem_cons]
      exact ⟨hfind, hnone⟩
    | cons m rest =>
      rw [hfind, List.map_cons, List.cons_append] at h
      obtain ⟨rfl, -⟩ := List.cons.inj h
      exact ⟨[], stretches, rfl, by simp, rest, hfind⟩

theorem FirstMatch.of_sites {p : Pattern} {multiline : Bool} {text : List Code} {site : Site}
    {more : List Site} (h : sites p (searched multiline text) = site :: more)
    (hsearched : Searched multiline text site.offset site.body) : FirstMatch p multiline text site := by
  obtain ⟨earlier, later, hstretches, hnone, rest, hfind⟩ := sites_eq_cons h
  obtain ⟨hmatch, hpreferred, hleftmost⟩ := Pattern.leftmost_of_find hfind
  refine ⟨hsearched, hpreferred, fun other hother hmatches => ?_⟩
  have hmem := mem_searched hother
  have hordered := searched_pairwise multiline text
  rw [hstretches] at hmem hordered
  rcases List.mem_append.mp hmem with hearlier | hmem
  · exact absurd hmatches (Pattern.not_matches_of_find (hnone _ hearlier) other.found)
  · rcases List.mem_cons.mp hmem with heq | hlater
    · obtain ⟨hoffset, hbody⟩ := Prod.mk.inj heq
      rw [hbody] at hmatches
      have hle := hleftmost other.found hmatches
      omega
    · have hbehind : site.offset + site.body.length < other.offset :=
        List.rel_of_pairwise_cons (List.pairwise_append.mp hordered).2.1 hlater
      have hstart : site.found.start ≤ site.body.length := hmatch.1
      omega

namespace Replacer

variable {all once : Replacer} {text : List Code}

/-- One stretch, and the same stretch with others behind it. -/
theorem parted_firstOnly (hall : all.firstOnly = false) (honce : once = { all with firstOnly := true })
    {site : Site} {more : List Site} (hsites : sites all.pattern (searched all.multiline text) = site :: more) :
    ∃ e rest edits last, e.why = site ∧
      once.parted text = ([e], rest) ∧ all.parted text = (e :: edits, last) := by
  obtain ⟨e, next, rest, hwhy, hcut⟩ := Edit.cut_cons
    (fun site => all.expand site.body.toArray site.found) 0 text site
  have hone : once.parted text = ([e], rest) := by
    rw [honce, parted, limited, if_pos rfl, hsites]
    exact hcut []
  have hmany := hcut more
  rw [← hsites] at hmany
  have hparted : all.parted text = Edit.cut (fun site => all.expand site.body.toArray site.found) 0 text
      (sites all.pattern (searched all.multiline text)) := by rw [parted, hall, limited, if_neg Bool.false_ne_true]
  exact ⟨e, rest, _, _, hwhy, hone, hparted.trans hmany⟩

/-- Of all replacements in a text, the one that is made alone is that of the first match. What is in front of it is
the same in both, and behind it the text is kept. -/
theorem replaceCount_firstOnly (hall : all.firstOnly = false) (honce : once = { all with firstOnly := true })
    (text : List Code) :
    (once.replaceCount text).2 = min 1 (all.replaceCount text).2 ∧
    (1 ≤ (all.replaceCount text).2 → ∃ site before after after',
      FirstMatch all.pattern all.multiline text site ∧
      before.length = site.offset + site.found.start ∧
      text = before ++ Found.slice site.body.toArray site.found.start site.found.stop ++ after ∧
      (once.replaceCount text).1 = before ++ all.expand site.body.toArray site.found ++ after ∧
      (all.replaceCount text).1 = before ++ all.expand site.body.toArray site.found ++ after') := by
  obtain ⟨htext, hout, -⟩ := once.parted_eq text
  obtain ⟨-, hout', hplaced⟩ := all.parted_eq text
  cases hsites : sites all.pattern (searched all.multiline text) with
  | nil =>
    have hnone : (once.replaceCount text).2 = 0 := by
      rw [hout, length_parted, honce]
      simp [limited, hsites]
    have hnone' : (all.replaceCount text).2 = 0 := by
      rw [hout', length_parted]
      simp [limited, hall, hsites]
    rw [hnone, hnone']
    exact ⟨rfl, fun hpos => by cases hpos⟩
  | cons site more =>
    obtain ⟨e, rest, edits, last, rfl, hone, hmany⟩ := parted_firstOnly hall honce hsites
    rw [hone] at htext hout
    rw [hmany] at hout' hplaced
    obtain ⟨hsearched, inner, hposition, hexpands⟩ := hplaced.head
    have hplace : e.gap.length = e.why.offset + e.why.found.start := by
      rw [← hexpands.place, ← hposition, Nat.zero_add]
    have hfirst := FirstMatch.of_sites hsites hsearched
    constructor
    · rw [hout, hout', List.length_singleton, List.length_cons]
      omega
    · intro _
      refine ⟨e.why, e.gap, rest, Edit.after edits ++ last, hfirst, hplace, ?_, ?_, ?_⟩
      · rw [← hexpands.matched]
        simpa [Edit.before] using htext
      · rw [hout, ← hexpands.written]
        simp [Edit.after]
      · rw [hout', ← hexpands.written]
        simp [Edit.after]

/-- The first line has no match, and the second has two. -/
theorem replaceCount_firstOnly_lines :
    ∃ s all once, Spec.create { before := "${x}!", after := "<${x}>", groups :=
        [(.text "x", .text "[a-z]*")] } = .ok s ∧
      s.replacer = .ok all ∧ { s with firstOnly := true }.replacer = .ok once ∧
      all.firstOnly = false ∧ once = { all with firstOnly := true } ∧
      (all.replaceCount (codes "-\r\nab! !\nc!")).2 = 3 ∧ (once.replaceCount (codes "-\r\nab! !\nc!")).2 = 1 ∧
      ∃ site before after after',
        FirstMatch all.pattern all.multiline (codes "-\r\nab! !\nc!") site ∧
        before.length = site.offset + site.found.start ∧
        codes "-\r\nab! !\nc!" =
          before ++ Found.slice site.body.toArray site.found.start site.found.stop ++ after ∧
        (once.replaceCount (codes "-\r\nab! !\nc!")).1 =
          before ++ all.expand site.body.toArray site.found ++ after ∧
        (all.replaceCount (codes "-\r\nab! !\nc!")).1 =
          before ++ all.expand site.body.toArray site.found ++ after' := by
  have hcreate : (Spec.create { before := "${x}!", after := "<${x}>", groups :=
      [(.text "x", .text "[a-z]*")] }).toOption.any (fun s =>
        s.replacer.toOption.any fun all : Replacer =>
        { s with firstOnly := true }.replacer.toOption.any fun once : Replacer =>
          decide (all.firstOnly = false ∧ once = { all with firstOnly := true } ∧
            (all.replaceCount (codes "-\r\nab! !\nc!")).2 = 3)) = true := by decide +kernel
  obtain ⟨s, hs, hreplacer⟩ := Results.exists_ok hcreate
  obtain ⟨all, hall, hreplacer'⟩ := Results.exists_ok hreplacer
  obtain ⟨once, honce, hruns⟩ := Results.exists_ok hreplacer'
  obtain ⟨hmany, hpair, hcount⟩ := of_decide_eq_true hruns
  obtain ⟨hone, hfirst⟩ := replaceCount_firstOnly hmany hpair (codes "-\r\nab! !\nc!")
  rw [hcount] at hone hfirst
  exact ⟨s, all, once, hs, hall, honce, hmany, hpair, hcount, hone, hfirst (by decide)⟩

end Replacer

end TemplateSwap
