import TemplateSwap.Proofs.Replacement.Swapping
import TemplateSwap.Proofs.Replacement.Rewriting
import TemplateSwap.Proofs.Text.Substitution

namespace TemplateSwap

open TemplateSwap.Text (Code codes substitute Lines.lineBreak Lines.carriageReturn)
open TemplateSwap.Pattern (Found Subject Scan Regex State Flags matchAt)
open TemplateSwap.Composite

/-- A pattern that is the characters of a text, one after the other. -/
structure Pattern.Spells (p : Pattern) (old : List Code) : Prop where
  regex : p.regex = Regex.ofItems (old.map fun c => .single (.one c))
  exact : p.flags.ignoreCase = false

namespace Pattern

variable {p : Pattern} {old : List Code} {text : Subject} {start : Nat} {nonempty : Bool}

theorem Spells.matchAt (h : p.Spells old) :
    matchAt p text start nonempty =
      if old <+: text.toList.drop start ∧ (nonempty = true → old ≠ []) then
        some ⟨start, { position := start + old.length }⟩
      else none := by
  rw [Pattern.matchAt, Regex.run_tries, h.regex, outcomes_spelled h.exact]
  by_cases hstarts : old <+: text.toList.drop start
  · cases nonempty with
    | false => simp [hstarts]
    | true => by_cases hold : old = [] <;> simp [hstarts, hold]
  · simp [hstarts]

theorem Spells.occurs (h : p.Spells old) {m : Found} (hm : Pattern.matchAt p text start nonempty = some m) :
    old <+: text.toList.drop start ∧ m.stop = start + old.length := by
  rw [h.matchAt] at hm
  split_ifs at hm with hhere
  refine ⟨hhere.1, ?_⟩
  rw [← Option.some.inj hm]
  rfl

end Pattern

namespace Replacer

variable {r : Replacer} {old new : List Code} {text : Subject} {start : Nat} {nonempty : Bool} {found : List Found}

theorem drop_slice (text : Subject) {first last : Nat} (h : first ≤ last) :
    text.toList.drop first = Found.slice text first last ++ text.toList.drop last := by
  have hbehind : text.toList.drop last = (text.toList.drop first).drop (last - first) := by
    rw [List.drop_drop, Nat.add_sub_cancel' h]
  rw [Found.slice_eq, hbehind, List.take_append_drop]

theorem slice_size (text : Subject) (start : Nat) : Found.slice text start text.size = text.toList.drop start := by
  rw [Found.slice_eq, List.take_of_length_le]
  simp

/-- Where the scan finds nothing more there is no occurrence. -/
theorem substitute_done (h : r.pattern.Spells old) (hfree : nonempty = true → old ≠ []) (once : Bool)
    (hstart : start ≤ text.size)
    (hnone : ∀ i, start ≤ i → i ≤ text.size → matchAt r.pattern text i (nonempty && i == start) = none) :
    substitute old new once (text.toList.drop start) = (text.toList.drop start, 0) := by
  refine Text.substitute_absent fun i hi hstarts => ?_
  rw [List.length_drop, Array.length_toList] at hi
  rw [List.drop_drop] at hstarts
  have hhere := hnone (start + i) (by omega) (by omega)
  rw [h.matchAt, if_pos ⟨hstarts, fun hn => hfree (Bool.and_eq_true_iff.mp hn).1⟩] at hhere
  cases hhere

/-- What the scan passes over has no occurrence, and then there is one. -/
theorem substitute_next (h : r.pattern.Spells old) (hfree : nonempty = true → old ≠ []) (once : Bool) {m : Found}
    (hstart : start ≤ m.start)
    (hnone : ∀ i, start ≤ i → i < m.start → matchAt r.pattern text i (nonempty && i == start) = none)
    (hmatch : matchAt r.pattern text m.start (nonempty && m.start == start) = some m) :
    substitute old new once (text.toList.drop start) =
      (Found.slice text start m.start ++ (substitute old new once (old ++ text.toList.drop m.stop)).1,
        (substitute old new once (old ++ text.toList.drop m.stop)).2) := by
  have hbehind : text.toList.drop m.start = old ++ text.toList.drop m.stop := by
    obtain ⟨⟨rest, hrest⟩, hstop⟩ := h.occurs hmatch
    rw [hstop, ← List.drop_drop, ← hrest, List.drop_left]
  have hdivided := drop_slice text hstart
  rw [← hbehind, hdivided]
  refine Text.substitute_gap fun i hi hstarts => ?_
  rw [← hdivided, List.drop_drop] at hstarts
  have hlt : i < m.start - start := by
    rw [Found.slice_eq, List.length_take] at hi
    omega
  have hthere := hnone (start + i) (by omega) (by omega)
  rw [h.matchAt, if_pos ⟨hstarts, fun hn => hfree (Bool.and_eq_true_iff.mp hn).1⟩] at hthere
  cases hthere

theorem splice_spelled (h : r.pattern.Spells old) (hexpand : ∀ m, r.expand text m = new) (hold : old ≠ [])
    (hscan : Scan r.pattern text start nonempty found) (hstart : start ≤ text.size) :
    (r.splice text start found, found.length) = substitute old new false (text.toList.drop start) := by
  induction hscan with
  | done hnone => rw [substitute_done h (fun _ => hold) false hstart hnone, splice, slice_size, List.length_nil]
  | next hbegin hsize hnone hmatch hrest ih =>
    have hstop := (Pattern.matchAt_some hmatch hsize).2.1.stop_le
    rw [substitute_next h (fun _ => hold) false hbegin hnone hmatch, Text.substitute_front hold, ← ih hstop, splice,
      hexpand, List.append_assoc, List.length_cons]

/-- Behind an empty match the scan goes on with the next character. -/
theorem splice_spelled_empty (h : r.pattern.Spells []) (hexpand : ∀ m, r.expand text m = new)
    (hscan : Scan r.pattern text start nonempty found) (hstart : start ≤ text.size) :
    (r.splice text start found, found.length) =
      if nonempty then Text.substituteBehind new (text.toList.drop start)
      else substitute [] new false (text.toList.drop start) := by
  have hmatches (i : Nat) (free : Bool) : matchAt r.pattern text i free = none ↔ free = true := by
    rw [h.matchAt]
    cases free <;> simp
  induction hscan with
  | @done start nonempty hnone =>
    have hfree := (hmatches _ _).mp (hnone start le_rfl hstart)
    rw [beq_self_eq_true, Bool.and_true] at hfree
    have hend : start = text.size := by
      by_contra hne
      have hnext := (hmatches _ _).mp (hnone (start + 1) (by omega) (by omega))
      simp at hnext
    have hnothing : text.toList.drop start = [] := by simp [hend]
    rw [hfree, if_pos rfl, hnothing, splice, slice_size, hnothing]
    rfl
  | @next start nonempty m rest hbegin hsize hnone hmatch hrest ih =>
    have hstop : m.stop = m.start := (h.occurs hmatch).2
    have hhere : (new ++ r.splice text m.stop rest, rest.length + 1) =
        substitute [] new false (text.toList.drop m.start) := by
      have hbehind := ih (hstop.trans_le hsize)
      rw [hstop, beq_self_eq_true, if_pos rfl] at hbehind
      rw [Text.substitute_empty, ← hbehind, hstop]
    rw [splice, hexpand, List.append_assoc, List.length_cons]
    have hearlier : ∀ i, start ≤ i → i < m.start → i = start ∧ nonempty = true := by
      intro i hi hlt
      simpa [and_comm] using (hmatches _ _).mp (hnone i hi hlt)
    cases nonempty with
    | false =>
      have hsame : m.start = start := by
        by_contra hne
        cases (hearlier start le_rfl (by omega)).2
      rw [if_neg Bool.false_ne_true, ← hsame, ← hhere, Found.slice_self, List.nil_append]
    | true =>
      have hlater : m.start = start + 1 := by
        have hne : m.start ≠ start := by
          intro heq
          rw [(hmatches _ _).mpr (by simp [heq])] at hmatch
          cases hmatch
        by_contra hfar
        have hfirst := (hearlier (start + 1) (by omega) (by omega)).1
        omega
      have hone : Found.slice text start m.start = [text[start]] := by
        rw [hlater, Found.slice_succ (Array.getElem?_eq_getElem (by omega)) (Nat.lt_succ_self start), Found.slice_self]
      rw [if_pos rfl, drop_slice text hbegin, hone, List.singleton_append, List.singleton_append,
        Text.substituteBehind, ← hhere]

theorem splice_spelled_first (h : r.pattern.Spells old) (hexpand : ∀ m, r.expand text m = new)
    (hscan : Scan r.pattern text start false found) (hstart : start ≤ text.size) :
    (r.splice text start (found.take 1), (found.take 1).length) = substitute old new true (text.toList.drop start) := by
  have hfree : false = true → old ≠ [] := fun hno => nomatch hno
  cases hscan with
  | done hnone => rw [substitute_done h hfree true hstart hnone, List.take_nil, splice, slice_size, List.length_nil]
  | @next _ _ m rest hbegin hsize hnone hmatch hrest =>
    have hone : (m :: rest).take 1 = [m] := rfl
    rw [substitute_next h hfree true hbegin hnone hmatch, Text.substitute_once (List.prefix_append _ _),
      List.drop_left, hone, splice, splice, slice_size, hexpand, List.append_assoc]
    rfl

theorem replaceWhole_spelled (h : r.pattern.Spells old) (hexpand : ∀ text m, r.expand text m = new)
    (text : List Code) : r.replaceWhole text = substitute old new r.firstOnly text := by
  have hscan := Pattern.find_scan r.pattern text.toArray
  have hstart : 0 ≤ text.toArray.size := Nat.zero_le _
  rw [replaceWhole]
  cases r.firstOnly with
  | true =>
    have hfirst := splice_spelled_first h (hexpand text.toArray) hscan hstart
    rwa [← Pattern.find_first] at hfirst
  | false =>
    by_cases hold : old = []
    · subst hold
      exact splice_spelled_empty h (hexpand text.toArray) hscan hstart
    · exact splice_spelled h (hexpand text.toArray) hold hscan hstart

theorem replaceLine_spelled (h : r.pattern.Spells old) (hexpand : ∀ text m, r.expand text m = new) (hold : old ≠ [])
    (hreturn : Lines.carriageReturn ∉ old) (line : List Code) :
    r.replaceLine line = substitute old new r.firstOnly line := by
  obtain ⟨ending, hending, hline, hcases⟩ := Text.Lines.holdAside_eq line
  have hbody : r.replaceLine line =
      ((substitute old new r.firstOnly (Text.Lines.holdAside line).1).1 ++ ending,
        (substitute old new r.firstOnly (Text.Lines.holdAside line).1).2) := by
    rw [replaceLine, ← hending, ← replaceWhole_spelled h hexpand]
  rw [hbody]
  rcases hcases with rfl | ⟨rfl, -⟩
  · conv_rhs => rw [hline, Text.substitute_separated hold hreturn, Text.substitute_nil hold]
    split_ifs <;> rfl
  · rw [List.append_nil] at hline
    rw [← hline, List.append_nil]

theorem replaceLines_spelled (h : r.pattern.Spells old) (hexpand : ∀ text m, r.expand text m = new) (hold : old ≠ [])
    (hbreak : Lines.lineBreak ∉ old) (hreturn : Lines.carriageReturn ∉ old) {lines : List (List Code)}
    (hlines : lines ≠ []) :
    (Text.Lines.join (r.replaceLines lines).1, (r.replaceLines lines).2) =
      substitute old new r.firstOnly (Text.Lines.join lines) := by
  induction lines with
  | nil => exact absurd rfl hlines
  | cons line lines ih =>
    rw [replaceLines, replaceLine_spelled h hexpand hold hreturn]
    by_cases hlast : lines = []
    · subst hlast
      dsimp only [replaceLines]
      split_ifs <;> rfl
    · have hrest := Prod.mk.inj (ih hlast)
      rw [Text.Lines.join_cons hlast, List.singleton_append, Text.substitute_separated hold hbreak, ← hrest.1,
          ← hrest.2]
      simp only [Bool.and_eq_true, decide_eq_true_eq]
      split_ifs
      · rw [Text.Lines.join_cons hlast]
        rfl
      · rw [Text.Lines.join_cons (replaceLines_ne_nil r hlast)]
        rfl

/-- No line has an occurrence of a text with a line break. -/
theorem replaceLines_broken (h : r.pattern.Spells old) (hexpand : ∀ text m, r.expand text m = new)
    (hbreak : Lines.lineBreak ∈ old) {lines : List (List Code)} (hlines : ∀ line ∈ lines, Lines.lineBreak ∉ line) :
    r.replaceLines lines = (lines, 0) := by
  induction lines with
  | nil => rfl
  | cons line lines ih =>
    rw [List.forall_mem_cons] at hlines
    obtain ⟨ending, hending, hline, -⟩ := Text.Lines.holdAside_eq line
    have hbody : Lines.lineBreak ∉ (Text.Lines.holdAside line).1 := fun hmem =>
      hlines.1 (hline ▸ List.mem_append_left ending hmem)
    have hsame : r.replaceLine line = (line, 0) := by
      rw [replaceLine]
      dsimp only
      rw [replaceWhole_spelled h hexpand, Text.substitute_not_mem hbreak hbody, hending, ← hline]
    rw [replaceLines, hsame, ih hlines.2]
    simp

end Replacer

namespace Spec

variable {s : Spec}

/-- Literal text in a row is one text, written with its dollars doubled. -/
theorem exists_literal {tokens : List Token} (h : Template.holes tokens = []) :
    ∃ text : String, tokens.flatMap Token.render = Token.escapeDollars text.toList ∧
      ∀ value, Token.fill tokens value = codes text := by
  induction tokens with
  | nil => exact ⟨"", rfl, fun _ => rfl⟩
  | cons t tokens ih =>
    cases t with
    | literal first =>
      obtain ⟨text, hrender, hfill⟩ := ih h
      refine ⟨first ++ text, ?_, fun value => ?_⟩
      · rw [List.flatMap_cons, hrender, Token.render, String.toList_append, Token.escapeDollars, Token.escapeDollars,
          Token.escapeDollars, List.flatMap_append]
      · rw [Text.codes_append, ← hfill value]
        rfl
    | placeholder name index => cases h

/-- A composite pattern of literal text spells it. -/
theorem items_literal {f : Fragments} {names names' : List (Option (List Code))} {tokens : List Token}
    {items : List Regex} (h : Woven f names tokens items names') (hnone : Template.holes tokens = [])
    (value : String → Nat → List Code) :
    items = (Token.fill tokens value).map fun c => .single (.one c) := by
  induction h with
  | nil => rfl
  | literal text h ih =>
    rw [ih hnone, ← List.map_append]
    rfl
  | placeholder hp hname hfresh hinner hswitches hmodes h ih => cases hnone

theorem replacer_literal (hs : s.Reachable) (hbefore : s.before.placeholders = [])
    (hafter : s.after.placeholders = []) : ∃ r, s.replacer = .ok r := by
  have hmade := hs.made
  have hnone : ∀ name index, .placeholder name index ∉ s.before.tokens := by
    intro name index hmem
    have hplace := Template.mem_placeholders.mpr hmem
    rw [hbefore] at hplace
    cases hplace
  have hnames : ∀ {t : Template}, t.placeholders = [] → ∀ name, name ∉ t.names := by
    intro t ht name hname
    obtain ⟨index, hmem⟩ := Template.mem_names.mp hname
    have hplace := Template.mem_placeholders.mpr hmem
    rw [ht] at hplace
    cases hplace
  have hdistinct : Distinct s.fragments s.before :=
    ⟨fun name index p n hmem => absurd hmem (hnone name index), by rw [hbefore]; exact .nil⟩
  exact Replacer.compile_of_distinct (sound_of_compile (hmade.fragments none)) hdistinct
    (Template.read_numbered hmade.before) (fun name index p hmem => absurd hmem (hnone name index))
    (fun name hname => absurd hname (hnames hbefore name)) (fun name hname => absurd hname (hnames hafter name)) _ _

/-- Without placeholders a specification replaces one text by another, character by character. In multiline mode this
holds for all texts, and line by line for those that are not empty and have no line break and no carriage return. Line
by line a text with a line break is found nowhere. -/
theorem replaceCount_literal (hs : s.Reachable) (hbefore : s.before.placeholders = [])
    (hafter : s.after.placeholders = []) :
    ∃ old new : String, ∃ r, s.before.source.toList = Token.escapeDollars old.toList ∧
      s.after.source.toList = Token.escapeDollars new.toList ∧ s.replacer = .ok r ∧
      (s.multiline = true ∨ old ≠ "" ∧ '\n' ∉ old.toList ∧ '\r' ∉ old.toList →
        ∀ text, r.replaceCount text = substitute (codes old) (codes new) s.firstOnly text) ∧
      (s.multiline = false → '\n' ∈ old.toList → ∀ text, r.replaceCount text = (text, 0)) := by
  have hmade := hs.made
  obtain ⟨old, hold, hsearched⟩ := exists_literal hbefore
  obtain ⟨new, hnew, hwritten⟩ := exists_literal hafter
  obtain ⟨r, hr⟩ := replacer_literal hs hbefore hafter
  have hbuilt := Replacer.compile_ok.mp hr
  obtain ⟨source, hsource, hp⟩ := hbuilt.source
  obtain ⟨items, hregex, hwoven, hflags⟩ := woven_of_compile (sound_of_compile (hmade.fragments none)) hsource hp
  have hspells : r.pattern.Spells (codes old) := by
    refine ⟨?_, by rw [hflags]; rfl⟩
    rw [hregex, items_literal hwoven hbefore fun _ _ => [], hsearched]
  have hexpand : ∀ text m, r.expand text m = codes new := by
    intro text m
    rw [hbuilt.expand_eq, hwritten]
  have hrender : ∀ {t : Template} {source repeated location}, Template.read source repeated location = .ok t →
      t.source.toList = t.tokens.flatMap Token.render := by
    intro t source repeated location ht
    obtain ⟨-, hrender, hsame, -⟩ := Template.read_eq_iff.mp ht
    rw [hsame, ← hrender, Template.render, String.toList_ofList]
  refine ⟨old, new, r, (hrender hmade.before).trans hold, (hrender hmade.after).trans hnew, hr, ?_, ?_⟩
  · intro hmode text
    rw [Replacer.replaceCount, hbuilt.multiline]
    split_ifs with hmultiline
    · rw [Replacer.replaceWhole_spelled hspells hexpand, hbuilt.firstOnly]
    · obtain ⟨hne, hbreak, hreturn⟩ := hmode.resolve_left hmultiline
      have hlines := Replacer.replaceLines_spelled hspells hexpand (by simpa [codes] using hne)
        (mt (Text.mem_codes (c := '\n')).mp hbreak) (mt (Text.mem_codes (c := '\r')).mp hreturn)
        (Text.Lines.split_ne_nil text)
      rw [Text.Lines.join_split, hbuilt.firstOnly] at hlines
      exact hlines
  · intro hmultiline hbreak text
    rw [Replacer.replaceCount, hbuilt.multiline, hmultiline, if_neg Bool.false_ne_true,
      Replacer.replaceLines_broken hspells hexpand (Text.mem_codes (c := '\n').mpr hbreak)
        (Text.Lines.lineBreak_not_mem text)]
    exact congrArg (·, 0) (Text.Lines.join_split text)

/-- A text with a dot, a line break and a dollar, and another with a reference that is none. -/
theorem replaceCount_literal_dollars :
    ∃ s r, ∃ old new : String,
      create { before := "a.\n$$", after := "\\1$$", multiline := true } = .ok s ∧ s.replacer = .ok r ∧
      s.before.source.toList = Token.escapeDollars old.toList ∧
      s.after.source.toList = Token.escapeDollars new.toList ∧
      r.replaceCount (codes "a.\n$a.\n$ab\n$") = substitute (codes old) (codes new) false (codes "a.\n$a.\n$ab\n$") ∧
      r.replaceCount (codes "a.\n$a.\n$ab\n$") = (codes "\\1$\\1$ab\n$", 2) := by
  have hcreated : ∃ s, create { before := "a.\n$$", after := "\\1$$", multiline := true } = .ok s ∧
      (decide (s.before.placeholders = []) && decide (s.after.placeholders = []) && s.multiline && !s.firstOnly &&
        s.replacer.toOption.any fun r =>
          decide (r.replaceCount (codes "a.\n$a.\n$ab\n$") = (codes "\\1$\\1$ab\n$", 2))) = true :=
    Results.exists_ok (by decide +kernel)
  obtain ⟨s, hs, hchecks⟩ := hcreated
  simp only [Bool.and_eq_true, decide_eq_true_eq, Bool.not_eq_true'] at hchecks
  obtain ⟨⟨⟨⟨hbefore, hafter⟩, hmultiline⟩, hfirst⟩, hreplacer⟩ := hchecks
  obtain ⟨r, hr, hcount⟩ := Results.exists_ok hreplacer
  obtain ⟨old, new, r', hold, hnew, hr', hall, -⟩ := replaceCount_literal (.create hs) hbefore hafter
  obtain rfl := Except.ok.inj (hr.symm.trans hr')
  have hplain := hall (.inl hmultiline) (codes "a.\n$a.\n$ab\n$")
  rw [hfirst] at hplain
  exact ⟨s, r, old, new, hs, hr, hold, hnew, hplain, of_decide_eq_true hcount⟩

end Spec

end TemplateSwap
