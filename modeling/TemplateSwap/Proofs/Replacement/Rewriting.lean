import TemplateSwap.Proofs.Replacement.Edits
import TemplateSwap.Proofs.Text.Lines

namespace TemplateSwap

open TemplateSwap.Text (Code codes Lines.lineBreak Lines.carriageReturn)
open TemplateSwap.Pattern (Found Subject Scan)
open TemplateSwap.Composite

/-- A line of a text, from the position where it begins, without a carriage return at its end. -/
structure LineAt (text : List Code) (offset : Nat) (body : List Code) : Prop where
  around : ∃ before ending after, text = before ++ body ++ ending ++ after ∧ before.length = offset ∧
    (before = [] ∨ before.getLast? = some Lines.lineBreak) ∧
    (ending = [Lines.carriageReturn] ∨ ending = [] ∧ body.getLast? ≠ some Lines.carriageReturn) ∧
    (after = [] ∨ after.head? = some Lines.lineBreak)
  noBreak : Lines.lineBreak ∉ body

/-- A stretch of a text that is searched on its own. -/
def Searched (multiline : Bool) (text : List Code) (offset : Nat) (body : List Code) : Prop :=
  if multiline then offset = 0 ∧ body = text else LineAt text offset body

/-- A match and the stretch that it was found in. -/
structure Site where
  offset : Nat
  body : List Code
  found : Found

/-- The lines that are searched, with their positions. -/
def lineBodies : Nat → List (List Code) → List (Nat × List Code)
  | _, [] => []
  | offset, line :: lines =>
    (offset, (Text.Lines.holdAside line).1) :: lineBodies (offset + line.length + 1) lines

def searched (multiline : Bool) (text : List Code) : List (Nat × List Code) :=
  if multiline then [(0, text)] else lineBodies 0 (Text.Lines.split text)

/-- The successive matches in stretches of a text. -/
def sites (p : Pattern) (stretches : List (Nat × List Code)) : List Site :=
  stretches.flatMap fun (offset, body) => (p.find body.toArray false).map fun m => ⟨offset, body, m⟩

/-- All of a list, or only the first element. -/
def limited {α : Type} (firstOnly : Bool) (xs : List α) : List α := if firstOnly then xs.take 1 else xs

/-- How a stretch at a position is replaced: it is a match, and the template is written, filled in for it. -/
structure Expands (r : Replacer) (body : List Code) (position : Nat) (matched written : List Code)
    (m : Found) : Prop where
  isMatch : r.pattern.Matches body.toArray m
  place : position = m.start
  matched : matched = Found.slice body.toArray m.start m.stop
  written : written = r.expand body.toArray m

/-- The same for a position in all of the text. -/
def ExpandsIn (r : Replacer) (text : List Code) (position : Nat) (matched written : List Code)
    (site : Site) : Prop :=
  Searched r.multiline text site.offset site.body ∧
    ∃ inner, position = site.offset + inner ∧ Expands r site.body inner matched written site.found

/-- How a compiled replacer replaces a stretch. It is a match of the composite pattern, and what is written
is the after template with what the leftmost occurrences captured. -/
structure Replaces (r : Replacer) (before after : Template) (body : List Code) (position : Nat)
    (matched written : List Code) (m : Found) : Prop where
  isMatch : r.pattern.Matches body.toArray m
  place : position = m.start
  matched : matched = Found.slice body.toArray m.start m.stop
  captured : ∀ name ∈ after.names, (Replacer.leftmost? r.pattern before m name).isSome = true
  written : written = Token.fill after.tokens fun name _ =>
    spanText body.toArray (Replacer.leftmost? r.pattern before m name)

/-- The same for a position in all of the text. -/
def ReplacesIn (r : Replacer) (before after : Template) (multiline : Bool) (text : List Code)
    (position : Nat) (matched written : List Code) (site : Site) : Prop :=
  Searched multiline text site.offset site.body ∧
    ∃ inner, position = site.offset + inner ∧
      Replaces r before after site.body inner matched written site.found

theorem ReplacesIn.lineBreak_not_mem {r : Replacer} {before after : Template}
    {text matched written : List Code} {position : Nat} {site : Site}
    (h : ReplacesIn r before after false text position matched written site) :
    Text.Lines.lineBreak ∉ matched := by
  obtain ⟨hline, inner, -, hreplaces⟩ := h
  have hbody : LineAt text site.offset site.body := hline
  rw [hreplaces.matched, Found.slice_eq]
  intro hmem
  exact hbody.noBreak (List.mem_of_mem_drop (List.mem_of_mem_take hmem))

/-- Matches that come one after the other. -/
def Successive (text : Subject) : Nat → List Found → Prop
  | position, [] => position ≤ text.size
  | position, m :: rest => position ≤ m.start ∧ m.start ≤ m.stop ∧ Successive text m.stop rest

theorem Successive.of_scan {p : Pattern} {text : Subject} {position : Nat} {nonempty : Bool}
    {found : List Found} (h : Scan p text position nonempty found) (hposition : position ≤ text.size) :
    Successive text position found := by
  induction h with
  | done hnone => exact hposition
  | next hstart hsize hnone hmatch hrest ih =>
    have hm : p.Matches text _ := (Pattern.matchAt_some hmatch hsize).2.1
    exact ⟨hstart, hm.start_le, ih hm.stop_le⟩

theorem Successive.position_le {text : Subject} {position : Nat} {found : List Found}
    (h : Successive text position found) : position ≤ text.size := by
  induction found generalizing position with
  | nil => exact h
  | cons m rest ih => exact h.1.trans (h.2.1.trans (ih h.2.2))

theorem Successive.take {text : Subject} {position : Nat} {found : List Found}
    (h : Successive text position found) (n : Nat) : Successive text position (found.take n) := by
  induction found generalizing position n with
  | nil =>
    rw [List.take_nil]
    exact h
  | cons m rest ih =>
    cases n with
    | zero => exact h.position_le
    | succ n => exact ⟨h.1, h.2.1, ih h.2.2 n⟩

theorem splice_edited (r : Replacer) {text : Subject} {position : Nat} {found : List Found}
    (h : Successive text position found) {edit : Nat → List Code → List Code → Found → Prop}
    (hedit : ∀ m ∈ found, edit m.start (Found.slice text m.start m.stop) (r.expand text m) m) :
    Edited edit position (Found.slice text position text.size) (r.splice text position found) found := by
  induction found generalizing position with
  | nil => exact .same _ _ _
  | cons m rest ih =>
    rw [List.forall_mem_cons] at hedit
    obtain ⟨hstart, hstop, hrest⟩ := h
    have hsize := hrest.position_le
    have hgap : (Found.slice text position m.start).length = m.start - position :=
      Found.length_slice (hstop.trans hsize)
    have hmatched : (Found.slice text m.start m.stop).length = m.stop - m.start :=
      Found.length_slice hsize
    have hshape : Found.slice text position text.size =
        Found.slice text position m.start ++
          (Found.slice text m.start m.stop ++ Found.slice text m.stop text.size) := by
      rw [Found.slice_append text hstop hsize, Found.slice_append text hstart (hstop.trans hsize)]
    have hbegin : position + (m.start - position) = m.start := by omega
    have hend : m.start + (m.stop - m.start) = m.stop := by omega
    rw [hshape, Replacer.splice, List.append_assoc]
    refine (Edited.same edit position _).append ?_
    rw [hgap, hbegin]
    refine .replace hedit.1 ?_
    rw [hmatched, hend]
    exact ih hrest hedit.2

theorem length_limited {α : Type} (firstOnly : Bool) (xs : List α) :
    firstOnly = true → (limited firstOnly xs).length ≤ 1 := by
  intro heq
  obtain rfl := heq
  exact List.length_take_le 1 xs

theorem limited_map {α β : Type} (firstOnly : Bool) (f : α → β) (xs : List α) :
    limited firstOnly (xs.map f) = (limited firstOnly xs).map f := by
  cases firstOnly
  · rfl
  · exact List.map_take.symm

theorem find_limited (p : Pattern) (text : Subject) (firstOnly : Bool) :
    p.find text firstOnly = limited firstOnly (p.find text false) := by
  cases firstOnly
  · rfl
  · exact Pattern.find_first p text

theorem mem_limited {α : Type} {firstOnly : Bool} {xs : List α} {x : α}
    (h : x ∈ limited firstOnly xs) : x ∈ xs := by
  cases firstOnly
  · exact h
  · exact List.mem_of_mem_take h

namespace Replacer

variable {before after : Template} {f : Fragments} {firstOnly multiline : Bool} {r : Replacer}

theorem whole_edited (r : Replacer) (body : List Code) :
    Edited (Expands r body) 0 body (r.replaceWhole body).1
        (limited r.firstOnly (r.pattern.find body.toArray false)) ∧
      (r.replaceWhole body).2 = (limited r.firstOnly (r.pattern.find body.toArray false)).length := by
  have hscan := Pattern.find_scan r.pattern body.toArray
  have hordered : Successive body.toArray 0 (limited r.firstOnly (r.pattern.find body.toArray false)) := by
    have hall := Successive.of_scan hscan (Nat.zero_le _)
    cases r.firstOnly
    · exact hall
    · exact hall.take 1
  have hslice := Found.slice_all body.toArray
  have hedit : ∀ m ∈ limited r.firstOnly (r.pattern.find body.toArray false),
      Expands r body m.start (Found.slice body.toArray m.start m.stop) (r.expand body.toArray m) m :=
    fun m hm => ⟨hscan.matches_of_mem m (mem_limited hm), rfl, rfl, rfl⟩
  have hedited := splice_edited r hordered hedit
  rw [hslice] at hedited
  rw [replaceWhole, find_limited]
  exact ⟨hedited, rfl⟩

/-- A line is rewritten without the carriage return at its end. -/
theorem line_edited {r : Replacer} (hmode : r.multiline = false)
    {text start line rest : List Code} (htext : text = start ++ line ++ rest)
    (hstart : start = [] ∨ start.getLast? = some Text.Lines.lineBreak)
    (hline : Text.Lines.lineBreak ∉ line)
    (hrest : rest = [] ∨ rest.head? = some Text.Lines.lineBreak) :
    Edited (ExpandsIn r text) start.length line (r.replaceLine line).1
        (limited r.firstOnly (sites r.pattern [(start.length, (Text.Lines.holdAside line).1)])) ∧
      (r.replaceLine line).2 =
        (limited r.firstOnly (sites r.pattern [(start.length, (Text.Lines.holdAside line).1)])).length := by
  obtain ⟨ending, hending, heq, hcase⟩ := Text.Lines.holdAside_eq line
  have hsites : sites r.pattern [(start.length, (Text.Lines.holdAside line).1)] =
      (r.pattern.find (Text.Lines.holdAside line).1.toArray false).map
        fun m => ⟨start.length, (Text.Lines.holdAside line).1, m⟩ := by
    simp [sites]
  have hreplaced : r.replaceLine line =
      ((r.replaceWhole (Text.Lines.holdAside line).1).1 ++ ending,
        (r.replaceWhole (Text.Lines.holdAside line).1).2) := by
    rw [← hending]
    rfl
  rw [hsites, limited_map, hreplaced]
  generalize (Text.Lines.holdAside line).1 = body at heq hcase ⊢
  obtain ⟨hedited, hcount⟩ := r.whole_edited body
  have hsearched : Searched r.multiline text start.length body := by
    rw [hmode]
    refine ⟨⟨start, ending, rest, ?_, rfl, hstart, hcase, hrest⟩, ?_⟩
    · rw [htext, heq]
      simp
    · intro hmem
      rw [heq] at hline
      exact hline (List.mem_append_left _ hmem)
  have hplaced : Edited (ExpandsIn r text) (start.length + 0) body (r.replaceWhole body).1
      ((limited r.firstOnly (r.pattern.find body.toArray false)).map (⟨start.length, body, ·⟩)) :=
    hedited.map fun position matched written m hm => ⟨hsearched, position, rfl, hm⟩
  refine ⟨?_, by rw [hcount, List.length_map]⟩
  conv =>
    arg 3
    rw [heq]
  rw [← List.append_nil (List.map _ _)]
  exact hplaced.append (.same _ _ _)

theorem limited_append {α : Type} {firstOnly : Bool} {xs ys : List α}
    (h : (firstOnly && decide (0 < (limited firstOnly xs).length)) = false) :
    limited firstOnly (xs ++ ys) = limited firstOnly xs ++ limited firstOnly ys := by
  cases firstOnly
  · rfl
  · cases xs with
    | nil => rfl
    | cons x xs => simp [limited] at h

theorem limited_append_of_pos {α : Type} {firstOnly : Bool} {xs ys : List α}
    (h : (firstOnly && decide (0 < (limited firstOnly xs).length)) = true) :
    limited firstOnly (xs ++ ys) = limited firstOnly xs := by
  cases firstOnly
  · simp at h
  · cases xs with
    | nil => simp [limited] at h
    | cons x xs => rfl

theorem sites_cons (p : Pattern) (stretch : Nat × List Code) (stretches : List (Nat × List Code)) :
    sites p (stretch :: stretches) = sites p [stretch] ++ sites p stretches := by
  simp [sites]

theorem replaceLines_ne_nil (r : Replacer) {lines : List (List Code)} (h : lines ≠ []) :
    (r.replaceLines lines).1 ≠ [] := by
  cases lines with
  | nil => exact absurd rfl h
  | cons line lines =>
    simp only [replaceLines]
    split <;> simp

theorem lines_edited {r : Replacer} (hmode : r.multiline = false)
    {text start : List Code} {lines : List (List Code)} (hlines : lines ≠ [])
    (htext : text = start ++ Text.Lines.join lines)
    (hstart : start = [] ∨ start.getLast? = some Text.Lines.lineBreak)
    (hbreaks : ∀ line ∈ lines, Text.Lines.lineBreak ∉ line) :
    Edited (ExpandsIn r text) start.length (Text.Lines.join lines)
        (Text.Lines.join (r.replaceLines lines).1)
        (limited r.firstOnly (sites r.pattern (lineBodies start.length lines))) ∧
      (r.replaceLines lines).2 =
        (limited r.firstOnly (sites r.pattern (lineBodies start.length lines))).length := by
  induction lines generalizing start with
  | nil => exact absurd rfl hlines
  | cons line lines ih =>
    rw [List.forall_mem_cons] at hbreaks
    rw [lineBodies, sites_cons, replaceLines]
    dsimp only
    by_cases hempty : lines = []
    · subst hempty
      have htext' : text = start ++ line ++ [] := by
        rw [List.append_nil]
        exact htext
      obtain ⟨hedited, hcount⟩ := line_edited hmode htext' hstart hbreaks.1 (.inl rfl)
      have hnone : sites r.pattern [] = [] := rfl
      rw [lineBodies, hnone, List.append_nil, ← hcount]
      split
      · exact ⟨hedited, rfl⟩
      · exact ⟨hedited, rfl⟩
    · have hjoin : Text.Lines.join (line :: lines) =
          line ++ ([Text.Lines.lineBreak] ++ Text.Lines.join lines) := Text.Lines.join_cons hempty
      have htext' : text = start ++ line ++ ([Text.Lines.lineBreak] ++ Text.Lines.join lines) := by
        rw [htext, hjoin, List.append_assoc]
      obtain ⟨hedited, hcount⟩ := line_edited hmode htext' hstart hbreaks.1 (.inr rfl)
      rw [hjoin, hcount]
      split
      · next hfound =>
        rw [limited_append_of_pos hfound, Text.Lines.join_cons hempty]
        refine ⟨?_, rfl⟩
        rw [← List.append_nil (limited _ _)]
        exact hedited.append (.same _ _ _)
      · next hmore =>
        rw [Bool.not_eq_true] at hmore
        have hstart' : text = start ++ line ++ [Text.Lines.lineBreak] ++ Text.Lines.join lines := by
          rw [htext', List.append_assoc (start ++ line)]
        have hlater := ih hempty hstart' (.inr (by simp)) hbreaks.2
        have hlength : (start ++ line ++ [Text.Lines.lineBreak]).length = start.length + line.length + 1 := by
          rw [List.length_append, List.length_append, List.length_singleton]
        rw [hlength] at hlater
        rw [limited_append hmore, Text.Lines.join_cons (r.replaceLines_ne_nil hempty), List.length_append,
          ← hlater.2]
        refine ⟨hedited.append ?_, rfl⟩
        have hbreak := Edited.same (ExpandsIn r text) (start.length + line.length) [Text.Lines.lineBreak]
        exact hbreak.append hlater.1

theorem edited (r : Replacer) (text : List Code) :
    Edited (ExpandsIn r text) 0 text (r.replaceCount text).1
        (limited r.firstOnly (sites r.pattern (searched r.multiline text))) ∧
      (r.replaceCount text).2 = (limited r.firstOnly (sites r.pattern (searched r.multiline text))).length := by
  rw [replaceCount]
  cases hmode : r.multiline with
  | true =>
    obtain ⟨hedited, hcount⟩ := r.whole_edited text
    have hsites : sites r.pattern (searched true text) =
        (r.pattern.find text.toArray false).map (⟨0, text, ·⟩) := by
      simp [sites, searched]
    have hsearched : Searched r.multiline text 0 text := by
      rw [hmode]
      exact ⟨rfl, rfl⟩
    have hplaced : Edited (ExpandsIn r text) (0 + 0) text (r.replaceWhole text).1
        ((limited r.firstOnly (r.pattern.find text.toArray false)).map (⟨0, text, ·⟩)) :=
      hedited.map fun position matched written m hm => ⟨hsearched, position, rfl, hm⟩
    rw [hsites, limited_map]
    refine ⟨hplaced, ?_⟩
    rw [List.length_map]
    exact hcount
  | false =>
    have hjoin := Text.Lines.join_split text
    have htext : text = [] ++ Text.Lines.join (Text.Lines.split text) := hjoin.symm
    obtain ⟨hedited, hcount⟩ := lines_edited hmode (Text.Lines.split_ne_nil text) htext (.inl rfl)
      (Text.Lines.lineBreak_not_mem text)
    rw [hjoin] at hedited
    exact ⟨hedited, hcount⟩

/-- The replaced stretches of a text, each after its gap, and what comes after them. -/
theorem exists_edits (r : Replacer) (text : List Code) :
    ∃ edits rest, text = Edit.before edits ++ rest ∧
      r.replaceCount text = (Edit.after edits ++ rest, edits.length) ∧
      edits.map Edit.why = limited r.firstOnly (sites r.pattern (searched r.multiline text)) ∧
      Edit.Placed (ExpandsIn r text) 0 edits := by
  obtain ⟨hedited, hcount⟩ := r.edited text
  obtain ⟨edits, rest, htext, hout, hwhys, hplaced⟩ := hedited.edits
  have hlength : edits.length = (r.replaceCount text).2 := by rw [hcount, ← hwhys, List.length_map]
  exact ⟨edits, rest, htext, by rw [hlength, ← hout], hwhys, hplaced⟩

/-- A compiled replacer has captures for all that it writes. -/
theorem Built.replaces (hf : Sound f) (h : Built before after f firstOnly multiline r)
    {text matched written : List Code} {position : Nat} {site : Site}
    (hexpands : ExpandsIn r text position matched written site) :
    ReplacesIn r before after multiline text position matched written site := by
  obtain ⟨hsearched, inner, hposition, hinner⟩ := hexpands
  rw [h.multiline] at hsearched
  refine ⟨hsearched, inner, hposition, hinner.isMatch, hinner.place, hinner.matched, ?_, ?_⟩
  · intro name hname
    obtain ⟨first, last, hleftmost, -⟩ := h.leftmost? hf hinner.isMatch hname
    rw [hleftmost]
    rfl
  · rw [hinner.written, h.expand_eq]

theorem Built.edited (hf : Sound f) (h : Built before after f firstOnly multiline r) (text : List Code) :
    Edited (ReplacesIn r before after multiline text) 0 text (r.replaceCount text).1
        (limited firstOnly (sites r.pattern (searched multiline text))) ∧
      (r.replaceCount text).2 = (limited firstOnly (sites r.pattern (searched multiline text))).length := by
  obtain ⟨hedited, hcount⟩ := r.edited text
  rw [h.firstOnly, h.multiline] at hedited hcount
  exact ⟨hedited.imp fun _ _ _ _ hexpands => h.replaces hf hexpands, hcount⟩

/-- A text and what it is rewritten to differ in some stretches only, one for each replacement. These
are the successive matches, or the first of them, each in a stretch that is searched on its own. -/
theorem replaceCount_edits {entries : List (Value × Value)} {location : Option Location}
    (hf : Fragments.compile entries location = .ok f)
    (h : compile before after f firstOnly multiline = .ok r) (text : List Code) :
    ∃ (edits : List (Edit Site)) (rest : List Code),
      text = Edit.before edits ++ rest ∧
      r.replaceCount text = (Edit.after edits ++ rest, edits.length) ∧
      (firstOnly = true → edits.length ≤ 1) ∧
      ((r.replaceCount text).2 = 0 → r.replace text = text) ∧
      edits.map Edit.why = limited firstOnly (sites r.pattern (searched multiline text)) ∧
      (multiline = false → ∀ e ∈ edits, Text.Lines.lineBreak ∉ e.matched) ∧
      ∀ done e more, edits = done ++ e :: more →
        ReplacesIn r before after multiline text (Edit.before done ++ e.gap).length
          e.matched e.written e.why := by
  obtain ⟨hedited, hcount⟩ := (compile_ok.mp h).edited (Composite.sound_of_compile hf) text
  obtain ⟨edits, rest, htext, hout, hwhys, hall⟩ := hedited.edits
  simp only [Edit.Placed, Nat.zero_add] at hall
  have hlength : edits.length = (limited firstOnly (sites r.pattern (searched multiline text))).length := by
    rw [← hwhys, List.length_map]
  refine ⟨edits, rest, htext, ?_, ?_, ?_, hwhys, ?_, hall⟩
  · rw [hlength, ← hcount, ← hout]
  · intro honly
    rw [hlength]
    exact length_limited firstOnly _ honly
  · intro hzero
    have hnil : edits = [] := List.eq_nil_of_length_eq_zero (by rw [hlength, ← hcount, hzero])
    rw [replace, hout, htext, hnil]
    rfl
  · intro hline e he
    rw [hline] at hall
    obtain ⟨done, more, heq⟩ := List.append_of_mem he
    exact (hall done e more heq).lineBreak_not_mem

theorem replaceCount_edits_swapped :
    ∃ f r, Fragments.compile [(.text "x", .text "a|b"), (.text "y", .text "[0-9]+")] none = .ok f ∧
      compile { source := "${x}=${y}", tokens := [.placeholder "x" 0, .literal "=", .placeholder "y" 1] }
        { source := "${y}:${x}", tokens := [.placeholder "y" 0, .literal ":", .placeholder "x" 1] }
        f false false = .ok r ∧
      ∃ (edits : List (Edit Site)) (rest : List Code),
        codes "a=1, b=23\r\n" = Edit.before edits ++ rest ∧
        r.replaceCount (codes "a=1, b=23\r\n") = (Edit.after edits ++ rest, edits.length) := by
  have hcompiles : ∃ f, Fragments.compile
      [(.text "x", .text "a|b"), (.text "y", .text "[0-9]+")] none = .ok f ∧
      (compile { source := "${x}=${y}", tokens := [.placeholder "x" 0, .literal "=", .placeholder "y" 1] }
        { source := "${y}:${x}", tokens := [.placeholder "y" 0, .literal ":", .placeholder "x" 1] }
        f false false).toOption.any (fun _ => true) = true := Results.exists_ok (by decide +kernel)
  obtain ⟨f, hf, hreplacer⟩ := hcompiles
  obtain ⟨r, hr, -⟩ := Results.exists_ok hreplacer
  obtain ⟨edits, rest, htext, hout, -⟩ := replaceCount_edits hf hr (codes "a=1, b=23\r\n")
  exact ⟨f, r, hf, hr, edits, rest, htext, hout⟩

end Replacer

end TemplateSwap
