import TemplateSwap.Proofs.Composite.Weave
import TemplateSwap.Proofs.Template.Placeholders
import Mathlib.Data.List.Pairwise

namespace TemplateSwap.Composite

open TemplateSwap.Text (Code codes)
open TemplateSwap.Pattern

/-- The names of groups that belong to a placeholder: the one of its own group, and those in its
fragment. -/
def namesOf (f : Fragments) : Token → List (Option (List Code))
  | .literal _ => []
  | .placeholder name index =>
    match f.get? name with
    | some p => some (codes (groupName index)) :: groupNames p.groups
    | none => []

theorem mem_namesOf {f : Fragments} {token : Token} {n : List Code} :
    some n ∈ namesOf f token ↔ ∃ name index p, token = .placeholder name index ∧ f.get? name = some p ∧
      (n = codes (groupName index) ∨ some n ∈ groupNames p.groups) := by
  constructor
  · intro h
    cases token with
    | literal text => cases h
    | placeholder name index =>
      cases hp : f.get? name with
      | none => simp [namesOf, hp] at h
      | some p =>
        simp only [namesOf, hp, List.mem_cons, Option.some.injEq] at h
        exact ⟨name, index, p, rfl, hp, h⟩
  · intro h
    obtain ⟨name, index, p, rfl, hp, hn⟩ := h
    simpa only [namesOf, hp, List.mem_cons, Option.some.injEq] using hn

/-- Two placeholders share no name of a group. -/
def Apart (f : Fragments) (s t : Token) : Prop :=
  ∀ n, some n ∈ namesOf f s → some n ∉ namesOf f t

instance (f : Fragments) : Std.Symm (Apart f) :=
  ⟨fun _ _ h n ht hs => h n hs ht⟩

/-- A fragment does not name a group like its own. -/
def Sole (f : Fragments) (token : Token) : Prop :=
  ∀ name index p, token = .placeholder name index → f.get? name = some p →
    some (codes (groupName index)) ∉ groupNames p.groups

theorem Woven.apart {f : Fragments} {names names' : List (Option (List Code))} {tokens : List Token}
    {items : List Regex} (h : Woven f names tokens items names') :
    tokens.Pairwise (Apart f) ∧ (∀ t ∈ tokens, Sole f t) ∧
      ∀ t ∈ tokens, ∀ n, some n ∈ namesOf f t → some n ∉ names := by
  induction h with
  | nil names => simp
  | literal text h ih =>
    obtain ⟨hpairs, hsole, hnew⟩ := ih
    have hnone : ∀ n, some n ∉ namesOf f (.literal text) := by simp [namesOf]
    refine ⟨List.pairwise_cons.mpr ⟨?_, hpairs⟩, List.forall_mem_cons.mpr ⟨?_, hsole⟩,
      List.forall_mem_cons.mpr ⟨?_, hnew⟩⟩
    · intro t _ n hn
      exact absurd hn (hnone n)
    · intro name index p hsame
      cases hsame
    · intro n hn
      exact absurd hn (hnone n)
  | @placeholder names names' tokens items name index p inner hp hname hfresh hinner hswitches hmodes h ih =>
    obtain ⟨hpairs, hsole, hnew⟩ := ih
    have hown : namesOf f (.placeholder name index) =
        some (codes (groupName index)) :: groupNames p.groups := by
      simp only [namesOf, hp]
    refine ⟨List.pairwise_cons.mpr ⟨?_, hpairs⟩, List.forall_mem_cons.mpr ⟨?_, hsole⟩,
      List.forall_mem_cons.mpr ⟨?_, ?_⟩⟩
    · intro t ht n hn hn'
      rw [hown] at hn
      exact hnew t ht n hn' (List.mem_append_right _ hn)
    · intro name' index' q hsame hq hmem
      cases hsame
      obtain rfl := Option.some.inj (hp.symm.trans hq)
      exact (hfresh _ hmem).2 rfl
    · intro n hn
      rw [hown] at hn
      rcases List.mem_cons.mp hn with heq | hn
      · rw [heq]
        exact hname
      · exact (hfresh n hn).1
    · intro t ht n hn hmem
      exact hnew t ht n hn (List.mem_append_left _ hmem)

/-- Nothing is in the way if all names are apart, nothing is referred to by number, and there are no
switches. -/
theorem clear_of_apart {f : Fragments} {names : List (Option (List Code))} {tokens : List Token}
    (hpairs : tokens.Pairwise (Apart f)) (hsole : ∀ t ∈ tokens, Sole f t)
    (hnew : ∀ t ∈ tokens, ∀ n, some n ∈ namesOf f t → some n ∉ names)
    (hplain : ∀ name index p, .placeholder name index ∈ tokens → f.get? name = some p →
      refersByNumber p.source = false ∧ setsSwitches p.source = false) :
    Clear f names tokens := by
  induction tokens generalizing names with
  | nil => trivial
  | cons token tokens ih =>
    rw [List.pairwise_cons] at hpairs
    rw [List.forall_mem_cons] at hsole hnew
    have hplain' : ∀ name index p, .placeholder name index ∈ tokens → f.get? name = some p →
        refersByNumber p.source = false ∧ setsSwitches p.source = false :=
      fun name index p hmem => hplain name index p (List.mem_cons_of_mem _ hmem)
    cases token with
    | literal text => exact ih hpairs.2 hsole.2 hnew.2 hplain'
    | placeholder name index =>
      intro p hp
      have hown : namesOf f (.placeholder name index) =
          some (codes (groupName index)) :: groupNames p.groups := by
        simp only [namesOf, hp]
      obtain ⟨hnumber, hswitches⟩ := hplain name index p List.mem_cons_self hp
      have hrest : Clear f (names ++ namesOf f (.placeholder name index)) tokens := by
        refine ih hpairs.2 hsole.2 ?_ hplain'
        intro t ht n hn hmem
        rcases List.mem_append.mp hmem with hmem | hmem
        · exact hnew.2 t ht n hn hmem
        · exact hpairs.1 t ht n hmem hn
      rw [hown] at hnew hrest
      refine ⟨hnew.1 _ List.mem_cons_self, hnumber, hswitches, ?_, hrest⟩
      intro n hn
      refine ⟨hnew.1 n (List.mem_cons_of_mem _ hn), ?_⟩
      intro heq
      obtain rfl := heq
      exact hsole.1 name index p rfl hp hn

variable {f : Fragments} {t : Template}

/-- Names in fragments are not those of the groups for placeholders, and two placeholders have fragments
that share no name. -/
structure Distinct (f : Fragments) (t : Template) : Prop where
  own : ∀ name index p n, .placeholder name index ∈ t.tokens → f.get? name = some p →
    n < t.placeholders.length → some (codes (groupName n)) ∉ groupNames p.groups
  between : t.placeholders.Pairwise fun a b => ∀ p q, f.get? a.1 = some p → f.get? b.1 = some q →
    ∀ n, some n ∈ groupNames p.groups → some n ∉ groupNames q.groups

theorem Distinct.clear (h : Distinct f t) (ht : t.Numbered)
    (hplain : ∀ name index p, .placeholder name index ∈ t.tokens → f.get? name = some p →
      refersByNumber p.source = false ∧ setsSwitches p.source = false) :
    Clear f [] t.tokens := by
  have hnumbers : (t.placeholders.map (·.2)).Pairwise (· ≠ ·) := by
    rw [ht]
    exact List.nodup_range
  have hapart := Template.pairwise_tokens ((List.pairwise_map.mp hnumbers).and h.between)
  refine clear_of_apart (hapart.imp_of_mem ?_) ?_ (by simp) hplain
  · intro a b ha hb hab n hna hnb
    obtain ⟨name, index, p, rfl, hp, hnp⟩ := mem_namesOf.mp hna
    obtain ⟨name', index', q, rfl, hq, hnq⟩ := mem_namesOf.mp hnb
    obtain ⟨hindex, hbetween⟩ := hab name name' index index' rfl rfl
    rcases hnp with rfl | hnp
    · rcases hnq with hsame | hnq
      · exact hindex (groupName_inj hsame)
      · exact h.own name' index' q index hb hq (ht.lt ha) hnq
    · rcases hnq with rfl | hnq
      · exact h.own name index p index' ha hp (ht.lt hb) hnp
      · exact hbetween p q hp hq n hnp hnq
  · intro token hmem name index p heq hp
    rw [heq] at hmem
    exact h.own name index p index hmem hp (ht.lt hmem)

/-- The names in a pattern that compiles are distinct. -/
theorem Woven.distinct {names names' : List (Option (List Code))} {items : List Regex}
    (h : Woven f names t.tokens items names') (ht : t.Numbered) {name : String} {index : Nat}
    {p : Pattern} (hmem : .placeholder name index ∈ t.tokens) (hp : f.get? name = some p) :
    (∀ n, n < t.placeholders.length → some (codes (groupName n)) ∉ groupNames p.groups) ∧
      ∀ name' index' q, .placeholder name' index' ∈ t.tokens → name ≠ name' → f.get? name' = some q →
        ∀ n, some n ∈ groupNames p.groups → some n ∉ groupNames q.groups := by
  obtain ⟨hpairs, hsole, -⟩ := h.apart
  constructor
  · intro n hn hin
    obtain ⟨name', hmem'⟩ := ht.exists_name hn
    by_cases hsame : Token.placeholder name' n = .placeholder name index
    · obtain ⟨rfl, rfl⟩ := Token.placeholder.inj hsame
      exact hsole _ hmem name' n p rfl hp hin
    · obtain ⟨q, hq, -⟩ := h.fragment hmem'
      have hhere : some (codes (groupName n)) ∈ namesOf f (.placeholder name' n) :=
        mem_namesOf.mpr ⟨name', n, q, rfl, hq, .inl rfl⟩
      exact hpairs.forall hmem' hmem hsame _ hhere (mem_namesOf.mpr ⟨name, index, p, rfl, hp, .inr hin⟩)
  · intro name' index' q hmem' hne hq n hn hn'
    have hother : Token.placeholder name index ≠ .placeholder name' index' := by
      intro hsame
      exact hne (Token.placeholder.inj hsame).1
    have hhere : some n ∈ namesOf f (.placeholder name index) :=
      mem_namesOf.mpr ⟨name, index, p, rfl, hp, .inr hn⟩
    exact hpairs.forall hmem hmem' hother n hhere (mem_namesOf.mpr ⟨name', index', q, rfl, hq, .inr hn'⟩)

end TemplateSwap.Composite
