import TemplateSwap.Proofs.Composite.Matching
import TemplateSwap.Proofs.Template.Placeholders

namespace TemplateSwap

open TemplateSwap.Text (Code codes)
open TemplateSwap.Pattern (Found Subject)
open TemplateSwap.Composite

/-- Tokens with the placeholders filled in. Literal text is written as it is. -/
def Token.fill (tokens : List Token) (value : String → Nat → List Code) : List Code :=
  tokens.flatMap fun
    | .literal s => codes s
    | .placeholder name index => value name index

/-- The text of a span, if there is one. -/
def spanText (text : Subject) (span : Option (Nat × Nat)) : List Code :=
  (span.map fun (first, last) => Found.slice text first last).getD []

namespace Composite.Divided

variable {text : Subject} {takes : String → Nat → Nat → Nat → Prop} {tokens : List Token}
  {first last : Nat}

theorem le (h : Divided text takes tokens first last) : first ≤ last := by
  induction h with
  | nil => exact Nat.le_refl _
  | literal s hs hfit h ih => exact (Nat.le_add_right _ _).trans ih
  | placeholder name index hle hfit htakes h ih => exact hle.trans ih

theorem imp (h : Divided text takes tokens first last) {takes' : String → Nat → Nat → Nat → Prop}
    (himp : ∀ name index a b, takes name index a b → takes' name index a b) :
    Divided text takes' tokens first last := by
  induction h with
  | nil position => exact .nil position
  | literal s hs hfit h ih => exact .literal s hs hfit ih
  | placeholder name index hle hfit htakes h ih =>
    exact .placeholder name index hle hfit (himp _ _ _ _ htakes) ih

theorem takes_of_mem (h : Divided text takes tokens first last) {name : String} {index : Nat}
    (hmem : .placeholder name index ∈ tokens) :
    ∃ a b, a ≤ b ∧ b ≤ text.size ∧ takes name index a b := by
  induction h with
  | nil => simp at hmem
  | literal s hs hfit h ih =>
    exact ih ((List.mem_cons.mp hmem).resolve_left (by simp))
  | placeholder n i hle hfit htakes h ih =>
    rcases List.mem_cons.mp hmem with heq | hrest
    · obtain ⟨rfl, rfl⟩ := Token.placeholder.inj heq
      exact ⟨_, _, hle, hfit, htakes⟩
    · exact ih hrest

/-- A stretch that is divided between tokens is their text, with what each placeholder took. -/
theorem fill_eq (h : Divided text takes tokens first last) {value : String → Nat → List Code}
    (hvalue : ∀ name index a b, .placeholder name index ∈ tokens → takes name index a b →
      value name index = Found.slice text a b) :
    Token.fill tokens value = Found.slice text first last := by
  induction h with
  | nil position => exact (Found.slice_self _ _).symm
  | @literal tokens first last s hs hfit h ih =>
    have hrest := ih fun name index a b hmem => hvalue name index a b (List.mem_cons_of_mem _ hmem)
    rw [← Found.slice_append text (Nat.le_add_right first (codes s).length) h.le, hs, ← hrest]
    rfl
  | @placeholder tokens first middle last name index hle hfit htakes h ih =>
    have hrest := ih fun name index a b hmem => hvalue name index a b (List.mem_cons_of_mem _ hmem)
    have hhere := hvalue name index first middle List.mem_cons_self htakes
    rw [← Found.slice_append text hle h.le, ← hhere, ← hrest]
    rfl

end Composite.Divided

namespace Replacer

/-- The span that an occurrence of a placeholder took in a match. -/
def span? (p : Pattern) (m : Found) (index : Nat) : Option (Nat × Nat) :=
  (p.groupNamed? (groupName index)).bind m.final.span?

/-- The span that the leftmost occurrence of a name took in a match. -/
def leftmost? (p : Pattern) (before : Template) (m : Found) (name : String) : Option (Nat × Nat) :=
  (before.placeholders.lookup name).bind (span? p m)

/-- The parts of a replacer for two templates. -/
structure Built (before after : Template) (f : Fragments) (firstOnly multiline : Bool)
    (r : Replacer) : Prop where
  source : ∃ source, Composite.source before f = .ok source ∧
    Pattern.compile source (flags multiline) = .ok r.pattern
  known : ∀ name ∈ before.names, name ∈ f.names
  captured : ∀ name ∈ after.names, name ∈ before.names
  groups : r.groups = table before
  recipe : r.recipe = after.tokens
  firstOnly : r.firstOnly = firstOnly
  multiline : r.multiline = multiline

variable {before after : Template} {f : Fragments} {firstOnly multiline : Bool} {r : Replacer}

theorem table_names (before : Template) (name : String) :
    (table before).any (·.1 = name) = true ↔ name ∈ before.names := by
  simp [table]

theorem compile_ok : compile before after f firstOnly multiline = .ok r ↔
    Built before after f firstOnly multiline r := by
  have hcaptured : (after.names.filter fun name => !((table before).any (·.1 = name))) = [] ↔
      ∀ name ∈ after.names, name ∈ before.names := by
    rw [List.filter_eq_nil_iff]
    simp only [Bool.not_eq_true', Bool.not_eq_false, table_names]
  constructor
  · intro h
    obtain ⟨u, hknown, h⟩ := Results.bind_ok.mp h
    obtain ⟨source, hsource, h⟩ := Results.bind_ok.mp h
    dsimp only at h
    cases hnames : after.names.filter fun name => !((table before).any (·.1 = name)) with
    | cons name names => simp [hnames] at h
    | nil =>
      simp only [hnames] at h
      cases hp : Pattern.compile source (flags multiline) with
      | error refusal => simp [hp] at h
      | ok p =>
        simp only [hp] at h
        obtain rfl := Results.pure_ok.mp h
        have hvalid := Template.validateKnown_ok.mp (Results.mapError_ok.mp hknown)
        exact ⟨⟨source, hsource, hp⟩, hvalid, hcaptured.mp hnames, rfl, rfl, rfl, rfl⟩
  · intro h
    obtain ⟨⟨source, hsource, hp⟩, hknown, hnames, hgroups, hrecipe, hfirst, hmulti⟩ := h
    obtain ⟨pattern, groups, recipe, first, multi⟩ := r
    simp only at hgroups hrecipe hfirst hmulti hp
    subst hgroups hrecipe hfirst hmulti
    refine Results.bind_ok.mpr ⟨(), ?_, Results.bind_ok.mpr ⟨source, hsource, ?_⟩⟩
    · exact Results.mapError_ok.mpr (Template.validateKnown_ok.mpr hknown)
    · dsimp only
      rw [hcaptured.mpr hnames]
      simp only [hp]
      rfl

theorem numberOf_eq (p : Pattern) (index : Nat) :
    numberOf (groupNames p.groups) index = p.groupNamed? (groupName index) := by
  simp only [numberOf, groupNames, Pattern.groupNamed?, List.findIdx?_map]
  rfl

/-- A match is divided between the tokens of the before template. -/
theorem Built.divided (hf : Sound f) (h : Built before after f firstOnly multiline r) {text : Subject}
    {m : Found} (hm : r.pattern.Matches text m) :
    Divided text (Takes f (groupNames r.pattern.groups) text r.pattern.flags m.final) before.tokens
      m.start m.stop := by
  obtain ⟨source, hsource, hp⟩ := h.source
  obtain ⟨items, hregex, hwoven, hflags⟩ := woven_of_compile hf hsource hp
  obtain ⟨hstart, hfinal⟩ := Pattern.matches_iff.mp hm
  rw [hregex] at hfinal
  refine hwoven.divided (s := { position := m.start }) ?_ hfinal hstart (by simp) fun _ _ => rfl
  rw [hflags]
  rfl

/-- Every occurrence of a placeholder has a span in a match. -/
theorem Built.span? (hf : Sound f) (h : Built before after f firstOnly multiline r) {text : Subject}
    {m : Found} (hm : r.pattern.Matches text m) {name : String} {index : Nat}
    (hmem : .placeholder name index ∈ before.tokens) :
    ∃ first last, span? r.pattern m index = some (first, last) ∧ first ≤ last ∧ last ≤ text.size := by
  obtain ⟨first, last, hle, hsize, hspan, -⟩ := (h.divided hf hm).takes_of_mem hmem
  rw [numberOf_eq] at hspan
  exact ⟨first, last, hspan, hle, hsize⟩

theorem Built.leftmost? (hf : Sound f) (h : Built before after f firstOnly multiline r) {text : Subject}
    {m : Found} (hm : r.pattern.Matches text m) {name : String} (hname : name ∈ after.names) :
    ∃ first last, leftmost? r.pattern before m name = some (first, last) ∧ first ≤ last ∧
      last ≤ text.size := by
  obtain ⟨index, hlookup, hmem⟩ := Template.lookup_placeholders (h.captured name hname)
  obtain ⟨first, last, hspan, hbounds⟩ := h.span? hf hm hmem
  refine ⟨first, last, ?_, hbounds⟩
  rw [Replacer.leftmost?, hlookup]
  exact hspan

theorem lookup_map {α : Type} (names : List String) (value : String → α) (name : String) :
    (names.map fun n => (n, value n)).lookup name = if name ∈ names then some (value name) else none := by
  induction names with
  | nil => rfl
  | cons n names ih =>
    by_cases hn : name = n
    · simp [hn]
    · have hbeq : (name == n) = false := beq_false_of_ne hn
      simp [List.lookup_cons, hbeq, ih, hn]

theorem head?_groups (placeholders : List (String × Nat)) (name : String) :
    (placeholders.filterMap fun (n, index) => if n = name then some (groupName index) else none).head? =
      (placeholders.lookup name).map groupName := by
  induction placeholders with
  | nil => rfl
  | cons entry placeholders ih =>
    obtain ⟨n, index⟩ := entry
    by_cases hn : n = name
    · simp [hn]
    · have hbeq : (name == n) = false := beq_false_of_ne (Ne.symm hn)
      simpa [List.filterMap_cons, List.lookup_cons, hbeq, hn] using ih

/-- Of several occurrences of a name the leftmost one counts. -/
theorem Built.captured_eq (h : Built before after f firstOnly multiline r) (text : Subject) (m : Found)
    (name : String) :
    r.captured text m name = spanText text (Replacer.leftmost? r.pattern before m name) := by
  have hlookup : r.groups.lookup name = if name ∈ before.names then
      some (before.placeholders.filterMap fun (n, index) =>
        if n = name then some (groupName index) else none) else none := by
    rw [h.groups, table, lookup_map]
  by_cases hname : name ∈ before.names
  · obtain ⟨index, hindex, -⟩ := Template.lookup_placeholders hname
    rw [if_pos hname] at hlookup
    simp only [Replacer.captured, hlookup, bind, Option.bind_some, head?_groups, hindex, Option.map_some,
      Replacer.leftmost?, Replacer.span?]
    cases r.pattern.groupNamed? (groupName index) <;> rfl
  · have hnone : before.placeholders.lookup name = none := by
      rw [List.lookup_eq_none_iff]
      intro entry hmem
      have hne : name ≠ entry.1 := by
        intro heq
        obtain rfl := heq
        exact hname (Template.mem_names.mpr ⟨entry.2, Template.mem_placeholders.mp hmem⟩)
      simpa using hne
    rw [if_neg hname] at hlookup
    simp [Replacer.captured, hlookup, Replacer.leftmost?, hnone, spanText]

theorem Built.expand_eq (h : Built before after f firstOnly multiline r) (text : Subject) (m : Found) :
    r.expand text m = Token.fill after.tokens fun name _ =>
      spanText text (Replacer.leftmost? r.pattern before m name) := by
  rw [expand, h.recipe, Token.fill]
  congr 1
  funext token
  cases token with
  | literal s => rfl
  | placeholder name index => exact h.captured_eq text m name

end Replacer

end TemplateSwap
