import TemplateSwap.Proofs.Reading.Compiled
import TemplateSwap.Proofs.Text.Codes

namespace TemplateSwap.Pattern

open TemplateSwap.Text (Code codes ofCodes)

/-- A character of literal text as a symbol. -/
def literalSymbol (c : Code) : Symbol := if isSpecial c then .escaped c else .plain c

theorem literalSymbol_ne (c : Code) : literalSymbol c ≠ .loneBackslash := by
  unfold literalSymbol
  split_ifs
  · simp
  · simp

theorem ne_loneBackslash {s : Source} (h : .loneBackslash ∉ s) : s ≠ [.loneBackslash] := by
  intro heq
  rw [heq] at h
  exact h (List.mem_singleton_self _)

/-- What can come behind the sign of a loop, if that is all that the sign says. -/
structure Source.Unsigned (s : Source) : Prop where
  notAlone : .loneBackslash ∉ s
  lazy : s.head? ≠ some (.plain 63)
  possessive : s.head? ≠ some (.plain 43)

theorem codes_literal (text : String) : codes (ofCodes (literal (codes text))) = literal (codes text) := by
  refine Text.codes_ofCodes fun c hc => ?_
  obtain ⟨d, hd, hc⟩ := List.mem_flatMap.mp hc
  split_ifs at hc
  · rcases List.mem_pair.mp hc with rfl | rfl
    · rfl
    · exact Text.toNat_ofNat_of_mem_codes hd
  · rw [List.mem_singleton.mp hc]
    exact Text.toNat_ofNat_of_mem_codes hd

theorem ofCodes_cons {c : Code} (hc : c ≠ 92) (cs : List Code) :
    Source.ofCodes (c :: cs) = .plain c :: Source.ofCodes cs := by
  cases cs with
  | nil => simp [Source.ofCodes, hc]
  | cons d ds => simp [Source.ofCodes, hc]

theorem ofCodes_plain {cs : List Code} (hcs : 92 ∉ cs) (ds : List Code) :
    Source.ofCodes (cs ++ ds) = cs.map .plain ++ Source.ofCodes ds := by
  induction cs with
  | nil => rfl
  | cons c cs ih =>
    rw [List.mem_cons, not_or] at hcs
    rw [List.cons_append, ofCodes_cons (Ne.symm hcs.1), ih hcs.2, List.map_cons, List.cons_append]

theorem ofCodes_literal (cs ds : List Code) :
    Source.ofCodes (literal cs ++ ds) = cs.map literalSymbol ++ Source.ofCodes ds := by
  induction cs with
  | nil => rfl
  | cons c cs ih =>
    have hliteral : literal (c :: cs) = (if isSpecial c then [92, c] else [c]) ++ literal cs := rfl
    rw [hliteral, List.append_assoc, List.map_cons, List.cons_append, ← ih]
    unfold literalSymbol
    by_cases hc : isSpecial c = true
    · simp [hc, Source.ofCodes]
    · have hne : c ≠ 92 := by
        intro heq
        obtain rfl := heq
        exact hc (by decide)
      rw [if_neg hc, if_neg hc]
      exact ofCodes_cons hne _

theorem symbols_append {a b : String} (h : .loneBackslash ∉ symbols a) : symbols (a ++ b) = symbols a ++ symbols b := by
  have hends : ¬(symbols a).EndsAlone := fun halone => h (List.mem_of_getLast? halone)
  rw [symbols, Text.codes_append]
  exact ofCodes_append hends

/-- Go on with expressions, one after the other. -/
def Builder.append (b : Builder) (rs : List Regex) : Builder := rs.foldl Builder.add b

theorem Builder.append_eq (b : Builder) (rs : List Regex) :
    b.append rs = { b with level := { b.level with items := rs.reverse ++ b.level.items } } := by
  induction rs generalizing b with
  | nil => rfl
  | cons r rs ih =>
    have hrest := ih (b.add r)
    rw [append] at hrest ⊢
    rw [List.foldl_cons, hrest, List.reverse_cons, List.append_assoc]
    rfl

namespace Reader

variable {b : Builder} {rest : Source}

theorem escape_special {c : Code} (hc : isSpecial c = true) : escape c = pure (.literal c) := by
  have hall : ∀ c ∈ codes "()[]\x7b\x7d?*+-|^$\\.&~# \t\n\x0d\x0b\x0c",
      kindEscape? c = none ∧ anchorEscape? c = none ∧ (controlEscape? c).getD c = c ∧
        c ≠ 120 ∧ c ≠ 117 ∧ c ≠ 85 ∧ c ≠ 78 ∧ c ≠ 48 ∧ Text.isAsciiDigit c = false ∧
          Text.isAsciiLetter c = false := by
    decide
  obtain ⟨hkind, hanchor, hcontrol, h120, h117, h85, h78, h48, hdigit, hletter⟩ :=
    hall c (List.contains_iff_mem.mp hc)
  cases hfound : controlEscape? c with
  | none =>
    simp [escape, hkind, hanchor, hfound, commonEscape?, h120, h117, h85, h78, h48, hdigit, plainEscape,
      hletter]
  | some d =>
    rw [hfound] at hcontrol
    obtain rfl : d = c := hcontrol
    simp [escape, hkind, hanchor, hfound]

theorem ne_special {c d : Code} (hc : ¬isSpecial c = true) (hd : isSpecial d = true) : c ≠ d := by
  intro heq
  obtain rfl := heq
  exact hc hd

theorem item_literal {b : Builder} (hb : b.level.verbose = false) (c : Code) :
    item b (literalSymbol c) = pure (b.add (.single (.one c))) := by
  unfold literalSymbol
  split_ifs with hc
  · simp only [item, escaped, escape_special hc, pure_bind]
  · have h40 := ne_special hc (d := 40) (by decide)
    have h42 := ne_special hc (d := 42) (by decide)
    have h43 := ne_special hc (d := 43) (by decide)
    have h46 := ne_special hc (d := 46) (by decide)
    have h63 := ne_special hc (d := 63) (by decide)
    have h91 := ne_special hc (d := 91) (by decide)
    have h94 := ne_special hc (d := 94) (by decide)
    have h36 := ne_special hc (d := 36) (by decide)
    have h123 := ne_special hc (d := 123) (by decide)
    simp [item, hb, h40, h42, h43, h46, h63, h91, h94, h36, h123]

theorem literal_leads (hb : b.level.verbose = false) (c : Code) (hrest : rest ≠ [.loneBackslash]) :
    Leads b (literalSymbol c :: rest) (b.add (.single (.one c))) rest := by
  have hbar : literalSymbol c ≠ .plain 124 := by
    unfold literalSymbol
    split_ifs with hc
    · simp
    · simpa using ne_special hc (d := 124) (by decide)
  have hclose : literalSymbol c ≠ .plain 41 := by
    unfold literalSymbol
    split_ifs with hc
    · simp
    · simpa using ne_special hc (d := 41) (by decide)
  refine .step ((step_item hbar hclose).mpr ⟨hrest, _, rfl, ?_⟩)
  rw [item_literal hb]
  rfl

theorem any_leads (hb : b.level.verbose = false) (hrest : rest ≠ [.loneBackslash]) :
    Leads b (.plain 46 :: rest) (b.add (.single .any)) rest := by
  refine .step ((step_item (by simp) (by simp)).mpr ⟨hrest, _, rfl, ?_⟩)
  simp [item, hb]
  rfl

theorem accept_plain {c : Code} (hrest : rest ≠ [.loneBackslash]) :
    accept c (.plain c :: rest) = .ok (true, rest) :=
  accept_ok.mpr (.inr ⟨rfl, rfl, hrest⟩)

theorem required_plain {x : Symbol} (hrest : rest ≠ [.loneBackslash]) :
    required (x :: rest) = .ok (x, rest) :=
  next_then_ok.mpr ⟨hrest, rfl⟩

/-- A question mark after a parenthesis. -/
theorem step_extension (b : Builder) {s : Source} (hs : s ≠ [.loneBackslash]) :
    ∃ opened, step b (.plain 40 :: .plain 63 :: s) =
      (extension b opened >>= fun b => pure (some b)) s := by
  refine ⟨Source.size (.plain 63 :: s) + 1, ?_⟩
  have haccept := accept_plain (c := 63) hs
  have hitem : item b (.plain 40) (.plain 63 :: s) =
      extension b (Source.size (.plain 63 :: s) + 1) s := by
    rw [item_parenthesis]
    simp only [parenthesis, bind, StateT.bind, Except.bind, left, haccept, if_true]
  simp [step, bind, StateT.bind, Except.bind, peek, next, hitem]

theorem accept_other {c : Code} (hrest : rest.head? ≠ some (.plain c)) : accept c rest = .ok (false, rest) :=
  accept_ok.mpr (.inl ⟨hrest, rfl, rfl⟩)

theorem set_notOne (opened : Nat) (c : Code) (hrest : rest ≠ [.loneBackslash]) :
    set opened (.plain 94 :: .plain c :: .plain 93 :: rest) = .ok (.notOne c, rest) := by
  have hlast (fuel : Nat) : setItems opened (fuel + 1) [.one c] (.plain 93 :: rest) = .ok ([.one c], rest) := by
    rw [setItems]
    refine next_then_ok.mpr ⟨hrest, ?_⟩
    dsimp only
    rw [if_pos ⟨rfl, List.cons_ne_nil _ _⟩]
    rfl
  have hitems (fuel : Nat) :
      setItems opened (fuel + 2) [] (.plain c :: .plain 93 :: rest) = .ok ([.one c], rest) := by
    rw [setItems]
    refine next_then_ok.mpr ⟨by simp, ?_⟩
    dsimp only
    rw [if_neg (fun h => h.2 rfl)]
    refine bind_ok.mpr ⟨.literal c, .plain 93 :: rest, rfl, ?_⟩
    refine bind_ok.mpr ⟨false, .plain 93 :: rest, accept_other (by simp), ?_⟩
    exact hlast fuel
  refine bind_ok.mpr ⟨true, .plain c :: .plain 93 :: rest, accept_plain (by simp), ?_⟩
  refine bind_ok.mpr ⟨[.one c], rest, hitems _, ?_⟩
  rfl

/-- A set of all characters but one. -/
theorem notOne_leads (hb : b.level.verbose = false) (c : Code) (hrest : rest ≠ [.loneBackslash]) :
    Leads b (.plain 91 :: .plain 94 :: .plain c :: .plain 93 :: rest) (b.add (.single (.notOne c))) rest := by
  refine .step ((step_item (by simp) (by simp)).mpr ⟨by simp, _, rfl, ?_⟩)
  simp only [item, hb]
  refine bind_ok.mpr ⟨_, _, rfl, ?_⟩
  exact bind_ok.mpr ⟨.notOne c, rest, set_notOne _ c hrest, rfl⟩

theorem greed_greedy (h : rest.Unsigned) : greed rest = .ok (.greedy, rest) := by
  simp [greed, bind, StateT.bind, Except.bind, accept_other h.lazy, accept_other h.possessive]
  rfl

/-- The sign of a loop repeats the expression before it. -/
theorem loop_leads (hb : b.level.verbose = false) {r : Regex} (hr : r.isAnchor = false ∧ r.isLoop = false) {c : Code}
    {most : Option Nat} (hc : c = 42 ∧ most = none ∨ c = 63 ∧ most = some 1) (hrest : rest.Unsigned) :
    Leads (b.add r) (.plain c :: rest) (b.add (.loop .greedy 0 most r)) rest := by
  have hrepeat (started : Nat) :
      repeatLast (b.add r) started 0 most rest = .ok (b.add (.loop .greedy 0 most r), rest) := by
    simp only [repeatLast, Builder.add, Level.add, hr.1, hr.2, Bool.false_eq_true, if_false]
    exact bind_ok.mpr ⟨.greedy, rest, greed_greedy hrest, rfl⟩
  have hverbose : (b.add r).level.verbose = false := hb
  have halone := ne_loneBackslash hrest.notAlone
  rcases hc with ⟨rfl, rfl⟩ | ⟨rfl, rfl⟩
  · refine .step ((step_item (by simp) (by simp)).mpr ⟨halone, _, rfl, ?_⟩)
    simp only [item, hverbose, repetition]
    exact hrepeat _
  · refine .step ((step_item (by simp) (by simp)).mpr ⟨halone, _, rfl, ?_⟩)
    simp only [item, hverbose, repetition]
    exact hrepeat _

theorem scope_leads (b : Builder) {s : Source} (hs : s ≠ [.loneBackslash]) :
    ∃ opened, Leads b (.plain 40 :: .plain 63 :: .plain 58 :: s)
      (b.push (.scope .none .none) opened b.level.verbose) s := by
  obtain ⟨opened, hstep⟩ := step_extension b (s := .plain 58 :: s) (by simp)
  refine ⟨opened, .step (hstep.trans (some_ok.mpr ⟨_, rfl, ?_⟩))⟩
  exact bind_ok.mpr ⟨_, _, required_plain hs, rfl⟩

theorem close_leads {b : Builder} {frame : Frame} {frames : List Frame} (hb : b.frames = frame :: frames)
    {s : Source} (hs : s ≠ [.loneBackslash]) :
    Leads b (.plain 41 :: s) (b.close frame frames) s :=
  .step ((step_close hb).mpr ⟨hs, rfl, rfl⟩)

/-- What is read inside of parentheses becomes one expression. -/
theorem scoped_leads {rs : List Regex} {inner : Source}
    (hinner : ∀ opened, Leads (b.push (.scope .none .none) opened b.level.verbose) (inner ++ .plain 41 :: rest)
      ((b.push (.scope .none .none) opened b.level.verbose).append rs) (.plain 41 :: rest))
    (hrest : rest ≠ [.loneBackslash]) :
    Leads b (.plain 40 :: .plain 63 :: .plain 58 :: (inner ++ .plain 41 :: rest))
      (b.add (.scope .none .none (.ofItems rs))) rest := by
  have hne : inner ++ .plain 41 :: rest ≠ [.loneBackslash] := by
    cases inner <;> simp
  obtain ⟨opened, hopen⟩ := scope_leads b hne
  have hframes : ((b.push (.scope .none .none) opened b.level.verbose).append rs).frames =
      ⟨b.level, .scope .none .none, opened⟩ :: b.frames := by
    rw [Builder.append_eq]
    rfl
  have hclose := close_leads hframes hrest
  have hclosed : ((b.push (.scope .none .none) opened b.level.verbose).append rs).close
      ⟨b.level, .scope .none .none, opened⟩ b.frames = b.add (.scope .none .none (.ofItems rs)) := by
    rw [Builder.append_eq]
    simp [Builder.close, Builder.push, Builder.add, Level.regex, Level.branch, Regex.ofBranches]
  rw [hclosed] at hclose
  exact (hopen.trans (hinner opened)).trans hclose

/-- Outside of parentheses a bar starts another branch. -/
theorem bar_leads {b : Builder} (hb : b.frames = []) {s : Source} (hs : s ≠ [.loneBackslash]) :
    Leads b (.plain 124 :: s) { b with level := b.level.startBranch } s := by
  have hbranch : ∀ frame ∈ b.frames.head?, ∀ index yes, frame.opening ≠ .whether index yes := by
    simp [hb]
  exact .step (step_bar.mpr ⟨_, rfl, bar_ok.mpr ⟨hs, .branch hbranch, rfl⟩⟩)

end Reader

/-- The branches of a level in the order in which they were read. -/
def Level.alternatives (l : Level) : List Regex := (l.branch :: l.branches).reverse

/-- Another branch with a single item. -/
def Level.alternative (l : Level) (r : Regex) : Level := l.startBranch.add r

theorem Level.alternatives_alternative (l : Level) (r : Regex) :
    (l.alternative r).alternatives = l.alternatives ++ [.ofItems [r]] := by
  simp [alternatives, alternative, startBranch, add, branch]

theorem Level.regex_of_alternatives {l : Level} {first : Regex} {rest : List Regex}
    (h : l.alternatives = first :: rest) : l.regex = .ofBranches first rest := by
  rw [regex, ← alternatives, h]

end TemplateSwap.Pattern
