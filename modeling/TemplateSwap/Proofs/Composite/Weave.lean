import TemplateSwap.Proofs.Composite.Symbols
import TemplateSwap.Replacer.Basic

namespace TemplateSwap.Composite

open TemplateSwap.Text (Code codes)
open TemplateSwap.Pattern
open TemplateSwap.Pattern.Reader

/-- The builder between two parts. -/
def between (flags : Flags) (items : List Regex) (groups : List GroupInfo)
    (conditions : List (Nat × Nat)) : Builder :=
  { level := { items }, flags, groups, conditions }

variable {flags : Flags} {items : List Regex} {groups : List GroupInfo}
  {conditions : List (Nat × Nat)} {rest : Source}

theorem text_leads {cs : List Code} (hrest : .loneBackslash ∉ rest) :
    Leads (between flags items groups conditions) (cs.map literalSymbol ++ rest)
      (between flags ((cs.map fun c => .single (.one c)).reverse ++ items) groups conditions) rest := by
  induction cs generalizing items with
  | nil => exact .refl _ _
  | cons c cs ih =>
    have hne : cs.map literalSymbol ++ rest ≠ [.loneBackslash] := by
      refine ne_loneBackslash fun hmem => ?_
      rcases List.mem_append.mp hmem with hmem | hmem
      · obtain ⟨d, -, hd⟩ := List.mem_map.mp hmem
        exact literalSymbol_ne d hd
      · exact hrest hmem
    have hfirst : Leads (between flags items groups conditions) ((c :: cs).map literalSymbol ++ rest)
        (between flags (.single (.one c) :: items) groups conditions) (cs.map literalSymbol ++ rest) :=
      literal_leads rfl c hne
    simpa using hfirst.trans ih

theorem nameLoop_plain {terminator : Char} {what : String} {cs : List Code}
    (hcs : terminator.toNat ∉ cs) (hrest : rest ≠ [.loneBackslash]) (sofar : List Code) {fuel : Nat}
    (hfuel : cs.length < fuel) (hne : sofar ++ cs ≠ []) :
    nameLoop terminator what fuel sofar (cs.map .plain ++ .plain terminator.toNat :: rest) =
      .ok (sofar ++ cs, rest) := by
  induction cs generalizing sofar fuel with
  | nil =>
    cases fuel with
    | zero => omega
    | succ fuel =>
      refine next_then_ok.mpr ⟨hrest, ?_⟩
      rw [List.append_nil] at hne ⊢
      simp [hne]
      rfl
  | cons c cs ih =>
    cases fuel with
    | zero => omega
    | succ fuel =>
      rw [List.mem_cons, not_or] at hcs
      refine next_then_ok.mpr ⟨by cases cs <;> simp, ?_⟩
      have hc : Symbol.plain c ≠ .plain terminator.toNat := by simpa using Ne.symm hcs.1
      dsimp only
      rw [if_neg hc]
      have hlen : cs.length < fuel := by simpa using hfuel
      have hloop := ih hcs.2 (sofar ++ [c]) hlen (by simp)
      simpa [Symbol.text] using hloop

theorem groupName_plain {cs : List Code} (hcs : 62 ∉ cs) (hne : cs ≠ [])
    (hid : Text.isIdentifier cs = true) (hrest : rest ≠ [.loneBackslash]) :
    Reader.groupName '>' (cs.map .plain ++ .plain 62 :: rest) = .ok (cs, rest) := by
  have hfuel : cs.length < (cs.map Symbol.plain ++ .plain '>'.toNat :: rest).length + 1 := by
    rw [List.length_append, List.length_map]
    omega
  have hname : name '>' "group name" (cs.map .plain ++ .plain '>'.toNat :: rest) = .ok (cs, rest) :=
    nameLoop_plain hcs hrest [] hfuel hne
  refine bind_ok.mpr ⟨cs, rest, hname, ?_⟩
  rw [if_pos hid]
  rfl

theorem extension_named (b : Builder) (index opened : Nat) (hrest : rest ≠ [.loneBackslash]) :
    extension b opened (.plain 80 :: .plain 60 ::
        ((codes (groupName index)).map .plain ++ .plain 62 :: rest)) =
      openGroup b (some (codes (groupName index))) opened rest := by
  have hname := groupName_plain (fun h => absurd (groupName_bounds h) (by decide))
    (by simp [codes_groupName]) (isIdentifier_groupName index) hrest
  have hne : ∀ x : Symbol, x ≠ .loneBackslash → ∀ s : Source,
      (codes (groupName index)).map .plain ++ x :: s ≠ [.loneBackslash] := by
    simp [codes_groupName]
  have hrequired : ∀ s : Source, required (.plain 80 :: .plain 60 :: s) = .ok (.plain 80, .plain 60 :: s) :=
    fun s => required_plain (by simp)
  have haccept := accept_plain (c := 60) (hne (.plain 62) (by simp) rest)
  simp only [extension, bind, StateT.bind, Except.bind, hrequired, haccept, if_true, hname]

/-- The group of a fragment is opened, unless its name is taken. -/
theorem named_leads {b : Builder} {index : Nat} (hb : b.indexOf? (codes (groupName index)) = none)
    {s : Source} (hs : s ≠ [.loneBackslash]) :
    ∃ opened, Leads b
      (.plain 40 :: .plain 63 :: .plain 80 :: .plain 60 ::
        ((codes (groupName index)).map .plain ++ .plain 62 :: s))
      ((b.openGroup (some (codes (groupName index)))).2.push (.group (b.groups.length + 1)) opened
        b.level.verbose) s := by
  obtain ⟨opened, hstep⟩ := step_extension b (s := .plain 80 :: .plain 60 ::
    ((codes (groupName index)).map .plain ++ .plain 62 :: s)) (by simp)
  have hname : ∀ n, some (codes (groupName index)) = some n → b.indexOf? n = none := by
    intro n h
    cases h
    exact hb
  refine ⟨opened, .step (hstep.trans (some_ok.mpr ⟨_, rfl, ?_⟩))⟩
  rw [extension_named b index opened hs, openGroup_new hname]

theorem named_fails {b : Builder} {index taken : Nat}
    (hb : b.indexOf? (codes (groupName index)) = some taken) {s : Source} (hs : s ≠ [.loneBackslash]) :
    Fails b (.plain 40 :: .plain 63 :: .plain 80 :: .plain 60 ::
        ((codes (groupName index)).map .plain ++ .plain 62 :: s)) := by
  obtain ⟨opened, hstep⟩ := step_extension b (s := .plain 80 :: .plain 60 ::
    ((codes (groupName index)).map .plain ++ .plain 62 :: s)) (by simp)
  obtain ⟨fault, left, hfault⟩ := openGroup_taken hb opened s
  simp only [bind, StateT.bind, Except.bind, extension_named b index opened hs, hfault] at hstep
  exact .step ⟨fault, left, hstep⟩

/-- The names of groups, in the order of their numbers. -/
def groupNames (groups : List GroupInfo) : List (Option (List Code)) := groups.map (·.name)

theorem names_placed {exact : Prop} {own own' : List GroupInfo}
    (h : List.Forall₂ (GroupInfo.Placed exact) own own') : own'.map (·.name) = own.map (·.name) := by
  induction h with
  | nil => rfl
  | cons hg _ ih => rw [List.map_cons, List.map_cons, hg.name, ih]

theorem loneBackslash_mem {cs : List Code} (h : .loneBackslash ∈ Source.ofCodes cs) :
    (Source.ofCodes cs).EndsAlone := by
  fun_induction Source.ofCodes cs with
  | case1 => simp at h
  | case2 c =>
    exact congrArg some (List.mem_singleton.mp h).symm
  | case3 d rest ih =>
    rcases List.mem_cons.mp h with h | h
    · cases h
    · exact (ih h).cons _
  | case4 c d rest hc ih =>
    rcases List.mem_cons.mp h with h | h
    · cases h
    · exact (ih h).cons _

theorem loneBackslash_not_mem {f : Fragments} (hf : Sound f) (tokens : List Token) :
    .loneBackslash ∉ tokens.flatMap (partSymbols f) := by
  intro h
  obtain ⟨token, -, h⟩ := List.mem_flatMap.mp h
  cases token with
  | literal text =>
    obtain ⟨c, -, hc⟩ := List.mem_map.mp h
    exact literalSymbol_ne c hc
  | placeholder name index =>
    simp only [partSymbols] at h
    cases hp : f.get? name with
    | none => simp [hp] at h
    | some p =>
      have hsymbols : .loneBackslash ∉ symbols p.source :=
        fun h => not_endsAlone hf hp (loneBackslash_mem h)
      simp [hp, opening, closing, hsymbols] at h

/-- The expression for a fragment's group. -/
def captured (index : Nat) (inner : Regex) : Regex :=
  .group index (.cat (.scope .none .none inner) .empty)

/-- The parentheses around a fragment are closed. -/
theorem captured_leads {e : Builder} {index left left' : Nat}
    (hframes : e.frames = [⟨{}, .scope .none .none, left'⟩, ⟨{ items }, .group index, left⟩])
    (hlookbehind : e.lookbehind = none) (hrest : rest ≠ [.loneBackslash]) :
    ∃ groups', Leads e (.plain 41 :: .plain 41 :: rest)
        (between e.flags (captured index e.level.regex :: items) groups' e.conditions) rest ∧
      groupNames groups' = groupNames e.groups := by
  let inside : Frame := ⟨{}, .scope .none .none, left'⟩
  let outside : Frame := ⟨{ items }, .group index, left⟩
  have hscope : Leads e (.plain 41 :: .plain 41 :: rest) (e.close inside [outside]) (.plain 41 :: rest) :=
    close_leads hframes (by simp)
  have hgroup : Leads (e.close inside [outside]) (.plain 41 :: rest)
      ((e.close inside [outside]).close outside []) rest :=
    close_leads rfl hrest
  have hclosed : (e.close inside [outside]).close outside [] =
      between e.flags (captured index e.level.regex :: items)
        (e.closeGroup index (captured index e.level.regex).width).groups e.conditions := by
    obtain ⟨level, frames, flags, groups, lookbehind, conditions⟩ := e
    obtain rfl : lookbehind = none := hlookbehind
    rfl
  rw [hclosed] at hgroup
  exact ⟨_, hscope.trans hgroup, names_closeGroup _ _ _⟩

/-- The names of groups in a fragment are not taken, neither before its own group nor by it. -/
def Fresh (names : List (Option (List Code))) (name : List Code) (own : List (Option (List Code))) : Prop :=
  ∀ n, some n ∈ own → some n ∉ names ∧ n ≠ name

theorem not_clash {groups own : List GroupInfo} {name : List Code} :
    ¬Clash (groups ++ [{ name := some name }]) own ↔ Fresh (groupNames groups) name (groupNames own) := by
  constructor
  · intro h n hn
    obtain ⟨g, hg, hname⟩ := List.mem_map.mp hn
    constructor
    · intro htaken
      obtain ⟨before, hbefore, hbeforeName⟩ := List.mem_map.mp htaken
      exact h ⟨g, hg, n, hname, before, List.mem_append_left _ hbefore, hbeforeName⟩
    · intro heq
      obtain rfl := heq
      exact h ⟨g, hg, n, hname, _, List.mem_append_right _ List.mem_cons_self, rfl⟩
  · intro h hclash
    obtain ⟨g, hg, n, hn, before, hbefore, hbeforeName⟩ := hclash
    obtain ⟨hfresh, hne⟩ := h n (List.mem_map.mpr ⟨g, hg, hn⟩)
    rcases List.mem_append.mp hbefore with hbefore | hbefore
    · exact hfresh (List.mem_map.mpr ⟨before, hbefore, hbeforeName⟩)
    · rw [List.mem_singleton.mp hbefore] at hbeforeName
      exact hne (Option.some.inj hbeforeName).symm

/-- The surroundings of a fragment inside its group. -/
def inside (flags : Flags) (items : List Regex) (groups : List GroupInfo) (conditions : List (Nat × Nat))
    (index left left' : Nat) : Context :=
  { groups := groups ++ [{ name := some (codes (groupName index)) }]
    frames := [⟨{}, .scope .none .none, left'⟩, ⟨{ items }, .group (groups.length + 1), left⟩]
    flags, conditions }

theorem opening_append (index : Nat) (s : Source) :
    opening index ++ s = .plain 40 :: .plain 63 :: .plain 80 :: .plain 60 ::
      ((codes (groupName index)).map .plain ++ .plain 62 :: .plain 40 :: .plain 63 :: .plain 58 :: s) := by
  simp [opening]

theorem indexOf?_between (name : List Code) :
    (between flags items groups conditions).indexOf? name = none ↔ some name ∉ groupNames groups := by
  rw [Builder.Placed.indexOf?_eq_none_iff]
  constructor
  · intro h hmem
    obtain ⟨g, hg, hname⟩ := List.mem_map.mp hmem
    exact h g hg hname
  · intro h g hg hname
    exact h (List.mem_map.mpr ⟨g, hg, hname⟩)

/-- The group for a fragment is opened if its name is new. -/
theorem opening_leads {index : Nat} (hnew : some (codes (groupName index)) ∉ groupNames groups)
    {s : Source} (hs : s ≠ [.loneBackslash]) :
    ∃ left left', Leads (between flags items groups conditions) (opening index ++ s)
      (inside flags items groups conditions index left left').builder s := by
  have hne : Source.ofCodes [40, 63, 58] ++ s ≠ [.loneBackslash] := by
    simp [Source.ofCodes]
  obtain ⟨left, hnamed⟩ := @named_leads (between flags items groups conditions) _
    ((indexOf?_between _).mpr hnew) _ hne
  obtain ⟨left', hscope⟩ := scope_leads
    (((between flags items groups conditions).openGroup (some (codes (groupName index)))).2.push
      (.group (groups.length + 1)) left false) hs
  refine ⟨left, left', ?_⟩
  rw [opening_append]
  exact hnamed.trans hscope

theorem opening_fails {index : Nat} (htaken : some (codes (groupName index)) ∈ groupNames groups)
    (s : Source) : Fails (between flags items groups conditions) (opening index ++ s) := by
  rw [opening_append]
  cases hindex : (between flags items groups conditions).indexOf? (codes (groupName index)) with
  | some taken => exact named_fails hindex (by simp)
  | none => exact absurd htaken ((indexOf?_between _).mp hindex)

/-- A fragment is read inside its group as it stands there, or reading goes wrong. -/
theorem fragment_leads {f : Fragments} (hf : Sound f) {name : String} {p : Pattern}
    (hp : f.get? name = some p) (index : Nat) (hrest : .loneBackslash ∉ rest) :
    (∃ inner groups' conditions',
        Leads (between flags items groups conditions) (opening index ++ symbols p.source ++ closing ++ rest)
          (between flags (captured (groups.length + 1) inner :: items) groups' conditions') rest ∧
        some (codes (groupName index)) ∉ groupNames groups ∧
        Fresh (groupNames groups) (codes (groupName index)) (groupNames p.groups) ∧
        groupNames groups' = groupNames groups ++ some (codes (groupName index)) :: groupNames p.groups ∧
        p.regex.Placed (refersByNumber p.source = false) (groups.length + 1) p.groups.length inner ∧
        setsSwitches p.source = false ∧ p.flags = settleMode {} ∧
        (refersByNumber p.source = false → conditions' = conditions)) ∨
      (Fails (between flags items groups conditions)
          (opening index ++ symbols p.source ++ closing ++ rest) ∧
        (some (codes (groupName index)) ∈ groupNames groups ∨ (refersByNumber p.source = false →
          setsSwitches p.source = true ∨
            ¬Fresh (groupNames groups) (codes (groupName index)) (groupNames p.groups)))) := by
  rw [List.append_assoc, List.append_assoc]
  by_cases htaken : some (codes (groupName index)) ∈ groupNames groups
  · exact .inr ⟨opening_fails htaken _, .inl htaken⟩
  · have halone : rest ≠ [.loneBackslash] := by
      intro heq
      rw [heq] at hrest
      exact hrest (List.mem_singleton_self _)
    have hne : symbols p.source ++ (closing ++ rest) ≠ [.loneBackslash] := by
      cases symbols p.source <;> simp [closing]
    obtain ⟨left, left', hopen⟩ := opening_leads htaken hne
    have hc : (inside flags items groups conditions index left left').Open := by
      intro frame hframe i yes
      obtain rfl := Option.some.inj hframe
      simp
    have hclosing : Source.Closing (closing ++ rest) := by
      intro x hx
      obtain rfl := Option.some.inj hx
      rfl
    rcases compile_leads (hf name p hp) hc (by simp [inside]) hclosing with
      ⟨e, hleads, he, hswitches⟩ | ⟨hfails, hwhy⟩
    · obtain ⟨groups', hclosed, hnames⟩ := captured_leads he.frames he.lookbehind halone
      obtain ⟨own, hown, hsame⟩ := he.groups
      rw [he.flags] at hclosed
      refine .inl ⟨_, groups', _, hopen.trans (hleads.trans hclosed), htaken, not_clash.mp he.fresh,
        ?_, ?_, hswitches, he.modes, he.conditions⟩
      · rw [hnames, hown]
        simp [groupNames, inside, names_placed hsame]
      · simpa [inside] using he.regex
    · refine .inr ⟨hopen.fails hfails, .inr ?_⟩
      intro hnumber
      rcases hwhy hnumber with hset | hclash
      · exact .inl hset
      · exact .inr fun hfresh => not_clash.mpr hfresh hclash

/-- What the parts of a template become, where groups with some names were numbered before. -/
inductive Woven (f : Fragments) :
    List (Option (List Code)) → List Token → List Regex → List (Option (List Code)) → Prop
  | nil (names : List (Option (List Code))) : Woven f names [] [] names
  | literal {names names' : List (Option (List Code))} {tokens : List Token} {items : List Regex}
    (text : String) (h : Woven f names tokens items names') :
    Woven f names (.literal text :: tokens) ((codes text).map (fun c => .single (.one c)) ++ items) names'
  | placeholder {names names' : List (Option (List Code))} {tokens : List Token} {items : List Regex}
    {name : String} {index : Nat} {p : Pattern} {inner : Regex} (hp : f.get? name = some p)
    (hname : some (codes (groupName index)) ∉ names)
    (hfresh : Fresh names (codes (groupName index)) (groupNames p.groups))
    (hinner : p.regex.Placed (refersByNumber p.source = false) (names.length + 1) p.groups.length inner)
    (hswitches : setsSwitches p.source = false) (hmodes : p.flags = settleMode {})
    (h : Woven f (names ++ some (codes (groupName index)) :: groupNames p.groups) tokens items names') :
    Woven f names (.placeholder name index :: tokens) (captured (names.length + 1) inner :: items) names'

/-- Every placeholder of a woven pattern has a fragment without switches for all of a pattern. -/
theorem Woven.fragment {f : Fragments} {names names' : List (Option (List Code))}
    {tokens : List Token} {items : List Regex} (h : Woven f names tokens items names') {name : String}
    {index : Nat} (hmem : .placeholder name index ∈ tokens) :
    ∃ p, f.get? name = some p ∧ setsSwitches p.source = false := by
  induction h with
  | nil names => simp at hmem
  | literal text h ih => exact ih ((List.mem_cons.mp hmem).resolve_left (by simp))
  | placeholder hp hname hfresh hinner hswitches hmodes h ih =>
    rcases List.mem_cons.mp hmem with heq | hmem
    · obtain ⟨rfl, rfl⟩ := Token.placeholder.inj heq
      exact ⟨_, hp, hswitches⟩
    · exact ih hmem

/-- Nothing that a fragment has of its own gets in the way: no switches, no reference by number, and
no name of a group that was there before. -/
def Clear (f : Fragments) : List (Option (List Code)) → List Token → Prop
  | _, [] => True
  | names, .literal _ :: tokens => Clear f names tokens
  | names, .placeholder name index :: tokens =>
    ∀ p, f.get? name = some p →
      some (codes (groupName index)) ∉ names ∧ refersByNumber p.source = false ∧
        setsSwitches p.source = false ∧
        Fresh names (codes (groupName index)) (groupNames p.groups) ∧
        Clear f (names ++ some (codes (groupName index)) :: groupNames p.groups) tokens

/-- All parts of a template are read, or reading goes wrong because something is in the way. -/
theorem parts_leads {f : Fragments} (hf : Sound f) {tokens : List Token} (hknown : Known f tokens) :
    (∃ items' groups' conditions',
        Leads (between flags items groups conditions) (tokens.flatMap (partSymbols f))
          (between flags (items'.reverse ++ items) groups' conditions') [] ∧
        Woven f (groupNames groups) tokens items' (groupNames groups') ∧
        (Clear f (groupNames groups) tokens → conditions' = conditions)) ∨
      (Fails (between flags items groups conditions) (tokens.flatMap (partSymbols f)) ∧
        ¬Clear f (groupNames groups) tokens) := by
  revert hknown
  induction tokens generalizing items groups conditions with
  | nil => exact fun _ => .inl ⟨[], groups, conditions, .refl _ _, .nil _, fun _ => rfl⟩
  | cons token tokens ih =>
    intro hknown
    have hknown' : Known f tokens := fun name index hmem => hknown name index (List.mem_cons_of_mem _ hmem)
    have hrest := loneBackslash_not_mem hf tokens
    rw [List.flatMap_cons]
    cases token with
    | literal text =>
      have htext : Leads (between flags items groups conditions)
          (partSymbols f (.literal text) ++ tokens.flatMap (partSymbols f)) _ _ :=
        text_leads hrest
      rcases @ih _ _ _ hknown' with ⟨items', groups', conditions', hleads, hwoven, hclear⟩ | ⟨hfails, hclear⟩
      · refine .inl ⟨_, groups', conditions', ?_, .literal text hwoven, hclear⟩
        rw [List.reverse_append, List.append_assoc]
        exact htext.trans hleads
      · exact .inr ⟨htext.fails hfails, hclear⟩
    | placeholder name index =>
      obtain ⟨p, hp⟩ := hknown name index (List.mem_cons_self ..)
      have hsymbols : partSymbols f (.placeholder name index) =
          opening index ++ symbols p.source ++ closing := by
        simp only [partSymbols, hp]
      rw [hsymbols]
      rcases fragment_leads hf hp index hrest with
        ⟨inner, groups', conditions', hleads, hname, hfresh, hnames, hinner, hswitches, hmodes,
            hconditions⟩ |
          ⟨hfails, hwhy⟩
      · rcases @ih (captured (groups.length + 1) inner :: items) groups' conditions' hknown' with
          ⟨items'', groups'', conditions'', hleads', hwoven, hclear⟩ | ⟨hfails, hclear⟩
        · rw [hnames] at hwoven hclear
          have hlength : groups.length = (groupNames groups).length := (List.length_map ..).symm
          rw [hlength] at hleads hleads' hinner
          refine .inl ⟨captured ((groupNames groups).length + 1) inner :: items'', groups'', conditions'',
            ?_, .placeholder hp hname hfresh hinner hswitches hmodes hwoven, fun h => ?_⟩
          · rw [List.reverse_cons, List.append_assoc items''.reverse, List.singleton_append]
            exact hleads.trans hleads'
          · obtain ⟨-, hnumber, -, -, hrest⟩ := h p hp
            rw [hclear hrest, hconditions hnumber]
        · rw [hnames] at hclear
          refine .inr ⟨hleads.fails hfails, fun h => hclear ?_⟩
          exact (h p hp).2.2.2.2
      · refine .inr ⟨hfails, fun hclear => ?_⟩
        obtain ⟨hname, hnumber, hswitches, hfresh, -⟩ := hclear p hp
        rcases hwhy with htaken | hwhy
        · exact hname htaken
        · rcases hwhy hnumber with hset | hnot
          · simp [hswitches] at hset
          · exact hnot hfresh

theorem start_eq (multiline : Bool) :
    Builder.start (Replacer.flags multiline) = between (Replacer.flags multiline) [] [] [] := rfl

/-- A composite pattern that compiles is woven from its parts. -/
theorem woven_of_compile {f : Fragments} (hf : Sound f) {before : Template} {source : String}
    (hsource : Composite.source before f = .ok source) {multiline : Bool} {p : Pattern}
    (hp : Pattern.compile source (Replacer.flags multiline) = .ok p) :
    ∃ items, p.regex = .ofItems items ∧ Woven f [] before.tokens items (groupNames p.groups) ∧
      p.flags = settleMode (Replacer.flags multiline) := by
  obtain ⟨hknown, hsymbols⟩ := source_ok hf hsource
  obtain ⟨b, hb, -, rfl⟩ := compile_ok.mp hp
  have hrun := hb.assembled
  rw [start_eq] at hrun
  rcases @parts_leads _ [] [] [] f hf _ hknown with
    ⟨items, groups, conditions, hleads, hwoven, -⟩ | ⟨hfails, -⟩
  · rw [← hsymbols] at hleads
    obtain ⟨m, -, heq⟩ := hleads _ (Nat.lt_succ_self _)
    rw [assemble_nil, hrun] at heq
    obtain ⟨rfl, -⟩ := Prod.mk.inj (Except.ok.inj heq)
    refine ⟨items, ?_, hwoven, rfl⟩
    change Regex.ofItems (items.reverse ++ []).reverse = Regex.ofItems items
    rw [List.append_nil, List.reverse_reverse]
  · rw [← hsymbols] at hfails
    obtain ⟨fault, left, hfault⟩ := hfails _ (Nat.lt_succ_self _)
    rw [hrun] at hfault
    cases hfault

/-- A composite pattern that does not compile has a fault: fragments that compile on their own hold no
number that is too large, and set no modes that exclude each other. -/
theorem faulty_of_compile {f : Fragments} (hf : Sound f) {before : Template} {source : String}
    (hsource : Composite.source before f = .ok source) {multiline : Bool} {refusal : Refusal}
    (h : Pattern.compile source (Replacer.flags multiline) = .error refusal) :
    ∃ e, refusal = .faulty e := by
  obtain ⟨hknown, hsymbols⟩ := source_ok hf hsource
  refine compile_faulty (fun stop hstop => readAll_refuses ?_ hstop) h
  rw [start_eq]
  rcases @parts_leads (Replacer.flags multiline) [] [] [] f hf _ hknown with
    ⟨items, groups, conditions, hleads, -, -⟩ | ⟨hfails, -⟩
  · rw [← hsymbols] at hleads
    obtain ⟨m, -, heq⟩ := hleads _ (Nat.lt_succ_self _)
    exact .inr ⟨_, _, heq.trans (assemble_nil m _), rfl⟩
  · exact .inl (hsymbols ▸ hfails)

theorem Woven.fault? {f : Fragments} (hf : Sound f) {names names' : List (Option (List Code))}
    {tokens : List Token} {items : List Regex} (h : Woven f names tokens items names')
    (hclear : Clear f names tokens) {flags : Flags} (hflags : flags.template = false) :
    ∀ r ∈ items, r.fault? flags = none := by
  induction h with
  | nil => simp
  | literal text _ ih =>
    intro r hr
    rcases List.mem_append.mp hr with hr | hr
    · obtain ⟨c, -, rfl⟩ := List.mem_map.mp hr
      rfl
    · exact ih hclear r hr
  | @placeholder _ _ _ _ name index p inner hp hname hfresh hinner hswitches hmodes _ ih =>
    obtain ⟨-, hnumber, -, -, hrest⟩ := hclear p hp
    rw [List.forall_mem_cons]
    refine ⟨?_, ih hrest⟩
    obtain ⟨b, -, hfault, hb⟩ := compile_ok.mp (hf name p hp)
    have hinner' : inner.fault? (flags.within .none .none) = p.regex.fault? p.flags := by
      rw [(hinner.exactly hnumber).1, fault?_shift]
      refine fault?_flags ?_ _
      rw [hmodes]
      simp [Flags.within, Flags.union, Flags.remove, Flags.none, settleMode, hflags]
    have hnone : p.regex.fault? p.flags = none := by
      rw [hb]
      exact hfault
    simp only [captured, Regex.fault?, hinner', hnone]
    rfl

/-- The composite pattern compiles if nothing is in the way. -/
theorem compile_of_clear {f : Fragments} (hf : Sound f) {before : Template} {source : String}
    (hsource : Composite.source before f = .ok source) (hclear : Clear f [] before.tokens)
    (multiline : Bool) : ∃ p, Pattern.compile source (Replacer.flags multiline) = .ok p := by
  obtain ⟨hknown, hsymbols⟩ := source_ok hf hsource
  rcases @parts_leads (Replacer.flags multiline) [] [] [] f hf _ hknown with
    ⟨items, groups, conditions, hleads, hwoven, hsame⟩ | ⟨-, hnot⟩
  · obtain rfl := hsame hclear
    have hnotAlone := ne_loneBackslash (loneBackslash_not_mem hf before.tokens)
    rw [← hsymbols] at hleads hnotAlone
    rw [← start_eq] at hleads
    have hreads := Reads.of_leads hleads hnotAlone rfl rfl rfl
    refine ⟨_, compile_ok.mpr ⟨_, hreads, ?_, rfl⟩⟩
    change (Regex.ofItems (items.reverse ++ []).reverse).fault? _ = none
    rw [List.append_nil, List.reverse_reverse]
    exact fault?_ofItems (hwoven.fault? hf hclear rfl)
  · exact absurd hclear hnot

end TemplateSwap.Composite
