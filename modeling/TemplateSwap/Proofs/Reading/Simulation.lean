import TemplateSwap.Proofs.Reading.Placement
import TemplateSwap.Proofs.Reading.Steps

namespace TemplateSwap.Pattern.Reader

open TemplateSwap.Text (Code isIdentifier)
open Source (Closing)

variable {α : Type} {exact excuse : Prop} {c : Context} {b b' : Builder} {s : Source}

/-- A group of the fragment has the name of a group before it. -/
def Clash (before own : List GroupInfo) : Prop :=
  ∃ g ∈ own, ∃ name, g.name = some name ∧ ∃ h ∈ before, h.name = some name

/-- A reader of the fragment on its own at a text, and the reader of the fragment where it stands. -/
structure Follows (exact : Prop) (c : Context) (excuse : Prop) (s : Source) (m m' : Reader Builder) :
    Prop where
  follows : ∀ {rest : Source} {b : Builder}, m s = .ok (b, rest) → (rest = [] → b.frames = []) →
    ∀ tail : Source, tail.Closing →
      (∃ b', m' (s ++ tail) = .ok (b', rest ++ tail) ∧ b.Placed exact c b') ∨
        (Refuses m' (s ++ tail) ∧ (exact → excuse ∨ Clash c.groups b.groups))

namespace Follows

theorem pure (h : b.Placed exact c b') : Follows exact c excuse s (pure b) (pure b') where
  follows hs _ tail _ := by
    obtain ⟨rfl, rfl⟩ := pure_ok.mp hs
    exact .inl ⟨b', rfl, h⟩

theorem fail {m m' : Reader Builder} (h : ∀ s, ∃ stop, m s = .error stop) :
    Follows exact c excuse s m m' where
  follows hs := by
    obtain ⟨stop, hstop⟩ := h s
    simp [hstop] at hs

theorem excused {m m' : Reader Builder} (h : ∀ s, Refuses m' s) (he : exact → excuse) :
    Follows exact c excuse s m m' where
  follows _ _ _ _ := .inr ⟨h _, fun hexact => .inl (he hexact)⟩

theorem bind {m m' : Reader α} {f f' : α → Reader Builder} (h : Extends m m')
    (hf : ∀ a t, m s = .ok (a, t) → Follows exact c excuse t (f a) (f' a)) :
    Follows exact c excuse s (m >>= f) (m' >>= f') where
  follows hs hend tail ht := by
    obtain ⟨a, t, ha, hb⟩ := bind_ok.mp hs
    have hm' := h.extends' ha tail ht
    have hbind : (m' >>= f') (s ++ tail) = f' a (t ++ tail) := by
      simp only [Bind.bind, StateT.bind, Except.bind, hm']
    simp only [Refuses, hbind]
    exact (hf a t ha).follows hb hend tail ht

/-- The number of characters left differs between the two. -/
theorem left {f f' : Nat → Reader Builder} (hf : ∀ n n', Follows exact c excuse s (f n) (f' n')) :
    Follows exact c excuse s (Reader.left >>= f) (Reader.left >>= f') where
  follows hs hend tail ht := (hf s.size (s ++ tail).size).follows hs hend tail ht

/-- Readers that consume nothing and always add a reference, or go wrong. -/
theorem inexact {m m' : Reader Builder} (hexact : ¬exact) (hfaulty : Faulty m')
    (h : ∀ {s rest : Source} {b₁ : Builder}, m s = .ok (b₁, rest) → rest = s ∧
      ∀ {t rest' : Source} {b₁' : Builder}, m' t = .ok (b₁', rest') →
        rest' = t ∧ b₁.Placed exact c b₁') :
    Follows exact c excuse s m m' where
  follows hs _ tail _ := by
    obtain ⟨rfl, hm'⟩ := h hs
    rcases hresult : m' (_ ++ tail) with stop | ⟨b₁', rest'⟩
    · exact .inr ⟨hfaulty _ stop hresult, fun he => absurd he hexact⟩
    · obtain ⟨rfl, hplaced⟩ := hm' hresult
      exact .inl ⟨b₁', rfl, hplaced⟩

end Follows

theorem checkLookbehind_extends (h : b.Placed exact c b') {index : Nat} (hi : 0 < index) :
    Extends (checkLookbehind b index) (checkLookbehind b' (index + c.groups.length)) := by
  simp only [checkLookbehind, h.lookbehind]
  cases b.lookbehind with
  | none => exact .pure _
  | some limit =>
    simp only [Option.map_some, h.closedWidth?_eq_none_iff hi, Nat.add_lt_add_iff_right]
    split_ifs
    · exact .fail (fail_error _)
    · exact .fail (fail_error _)
    · exact .pure _

theorem checkLookbehind_ok {index : Nat} {s rest : Source}
    (h : checkLookbehind b index s = .ok ((), rest)) : rest = s := by
  cases hlookbehind : b.lookbehind with
  | none =>
    simp only [checkLookbehind, hlookbehind] at h
    exact (pure_ok.mp h).2
  | some limit =>
    simp only [checkLookbehind, hlookbehind] at h
    split_ifs at h
    · simp [fail] at h
    · simp [fail] at h
    · exact (pure_ok.mp h).2

theorem reference_ok {index written : Nat} {s rest : Source} {b₁ : Builder}
    (h : reference b index written s = .ok (b₁, rest)) :
    rest = s ∧ ∃ width, b₁ = b.add (.backref index width) := by
  cases hinfo : b.info? index with
  | none => simp [reference, hinfo, failBack] at h
  | some g =>
    cases hwidth : g.width with
    | none => simp [reference, hinfo, hwidth, failBack] at h
    | some width =>
      simp only [reference, hinfo, hwidth] at h
      obtain ⟨⟨⟩, t, hcheck, h⟩ := bind_ok.mp h
      obtain ⟨rfl, rfl⟩ := pure_ok.mp h
      exact ⟨checkLookbehind_ok hcheck, width, rfl⟩

/-- A numbered reference is to some other group, if to any. -/
theorem reference_follows (h : b.Placed exact c b') (hexact : ¬exact) (index written : Nat) :
    Follows exact c excuse s (reference b index written) (reference b' index written) := by
  refine .inexact hexact (reference_faulty _ _ _) fun hb => ?_
  obtain ⟨rfl, width, rfl⟩ := reference_ok hb
  refine ⟨rfl, fun hb' => ?_⟩
  obtain ⟨rfl, width', rfl⟩ := reference_ok hb'
  exact ⟨rfl, h.add (.backref fun he => absurd he hexact)⟩

theorem namedReference_follows (h : b.Placed exact c b') :
    Follows exact c excuse s (namedReference b) (namedReference b') := by
  refine .bind (groupName_extends _) fun name t _ => ?_
  cases hindex : b.indexOf? name with
  | none => exact .fail (failBack_error _ _)
  | some index =>
    have hpos := Builder.Placed.indexOf?_pos hindex
    have hclosed := h.closedWidth? hpos
    simp only [h.indexOf?_own hindex]
    cases hwidth : b.closedWidth? index with
    | none => exact .fail (failBack_error _ _)
    | some width =>
      rw [hwidth] at hclosed
      obtain ⟨width', hwidth'⟩ := Option.isSome_iff_exists.mp hclosed.1
      simp only [hwidth']
      refine .bind (checkLookbehind_extends h hpos) fun _ _ _ => .pure (h.add (.backref fun he => ?_))
      have hsame := hclosed.2 he
      rw [hwidth'] at hsame
      exact ⟨⟨hpos, rfl⟩, Option.some.inj hsame⟩

/-- A condition that asks for a number is kept until the end. -/
theorem numberedCondition_ok {name : List Code} {s rest : Source} {index : Nat} {b₁ : Builder}
    (h : numberedCondition b name s = .ok ((index, b₁), rest)) :
    rest = s ∧ TemplateSwap.Text.readInteger? 10 name = some (.ofNat index) ∧
      (∃ c ∈ b₁.conditions, 0 < c.1) ∧ ∃ conditions, b₁ = { b with conditions } := by
  have hcheck : ∀ (i : Nat) (b₂ : Builder),
      (checkLookbehind b₂ i >>= fun _ => pure (i, b₂)) s = .ok ((index, b₁), rest) →
        rest = s ∧ i = index ∧ b₁ = b₂ := by
    intro i b₂ h
    obtain ⟨⟨⟩, t, hcheck, h⟩ := bind_ok.mp h
    obtain ⟨hpair, rfl⟩ := pure_ok.mp h
    obtain ⟨rfl, rfl⟩ := Prod.mk.inj hpair
    exact ⟨checkLookbehind_ok hcheck, rfl, rfl⟩
  cases hread : TemplateSwap.Text.readInteger? 10 name with
  | none => simp [numberedCondition, hread, failBack] at h
  | some value =>
    cases value with
    | negSucc n => simp [numberedCondition, hread, failBack] at h
    | ofNat i =>
      simp only [numberedCondition, hread] at h
      split_ifs at h with hzero hlimit hany
      · simp [failBack] at h
      · simp [failBack] at h
      · obtain ⟨rfl, rfl, rfl⟩ := hcheck i b h
        obtain ⟨c, hc, hsame⟩ := List.any_eq_true.mp hany
        rw [decide_eq_true_eq] at hsame
        exact ⟨rfl, rfl, ⟨c, hc, by omega⟩, _, rfl⟩
      · obtain ⟨rfl, rfl, rfl⟩ := hcheck i _ h
        exact ⟨rfl, rfl, ⟨(i, _), List.mem_append_right _ (List.mem_singleton_self _), Nat.pos_of_ne_zero hzero⟩,
          _, rfl⟩

/-- A condition opens a level for its branches. -/
theorem whether_follows (h : b.Placed exact c b') (opened opened' : Nat)
    (hnum : exact → ∀ n t, name ')' "group name" s = .ok (n, t) → isIdentifier n = true) :
    Follows exact c excuse s
      (do let (index, b₁) ← condition b; return b₁.push (.whether index none) opened b.level.verbose)
      (do let (index, b₁) ← condition b'
          return b₁.push (.whether index none) opened' b'.level.verbose) := by
  unfold condition
  rw [bind_assoc, bind_assoc]
  refine .bind (name_extends _ _) fun n t hname => ?_
  by_cases hid : isIdentifier n = true
  · simp only [hid, if_true]
    cases hindex : b.indexOf? n with
    | none => exact .fail fun _ => ⟨_, rfl⟩
    | some index =>
      have hpos := Builder.Placed.indexOf?_pos hindex
      simp only [h.indexOf?_own hindex, bind_assoc, pure_bind]
      refine .bind (checkLookbehind_extends h hpos) fun _ _ _ => ?_
      rw [h.level.verbose]
      exact .pure (h.push (.whether fun _ => ⟨hpos, rfl⟩) rfl opened opened' _)
  · have hexact : ¬exact := fun he => hid (hnum he n t hname)
    simp only [hid]
    refine .inexact hexact (.bind (numberedCondition_faulty _ _) fun _ => .pure _) fun hb => ?_
    obtain ⟨⟨index, b₁⟩, u, hcondition, hb⟩ := bind_ok.mp hb
    obtain ⟨rfl, rfl⟩ := pure_ok.mp hb
    obtain ⟨rfl, hread, -, conditions, rfl⟩ := numberedCondition_ok hcondition
    refine ⟨rfl, fun hb' => ?_⟩
    obtain ⟨⟨index', b₁'⟩, u', hcondition', hb'⟩ := bind_ok.mp hb'
    obtain ⟨rfl, rfl⟩ := pure_ok.mp hb'
    obtain ⟨rfl, hread', -, conditions', rfl⟩ := numberedCondition_ok hcondition'
    refine ⟨rfl, ?_⟩
    rw [h.level.verbose]
    have hplaced : Builder.Placed exact c { b with conditions } { b' with conditions := conditions' } :=
      { h with conditions := fun he => absurd he hexact }
    exact hplaced.push (.whether fun he => absurd he hexact) rfl opened opened' _

theorem required_ok {s rest : Source} {x : Symbol} (h : required s = .ok (x, rest)) : s = x :: rest := by
  cases s with
  | nil => simp [required, bind, StateT.bind, Except.bind, next, fail] at h
  | cons y s =>
    obtain ⟨-, hx⟩ := next_then_ok.mp h
    obtain ⟨rfl, rfl⟩ := pure_ok.mp hx
    rfl

theorem openGroup_new {name : Option (List Code)} (hname : ∀ n, name = some n → b.indexOf? n = none)
    (opened : Nat) (s : Source) :
    openGroup b name opened s =
      .ok ((b.openGroup name).2.push (.group (b.groups.length + 1)) opened b.level.verbose, s) := by
  cases name with
  | none => rfl
  | some n =>
    simp only [openGroup, Option.bind_some, hname n rfl]
    rfl

theorem openGroup_taken {n : List Code} {index : Nat} (h : b.indexOf? n = some index) (opened : Nat)
    (s : Source) : Refuses (openGroup b (some n) opened) s := by
  simp only [openGroup, Option.bind_some, h]
  exact ⟨_, _, rfl⟩

theorem push_group (h : b.Placed exact c b') {name : Option (List Code)}
    (hname : ∀ n, name = some n → ∀ g ∈ c.groups, g.name ≠ some n) (opened opened' : Nat) :
    ((b.openGroup name).2.push (.group (b.groups.length + 1)) opened b.level.verbose).Placed exact c
      ((b'.openGroup name).2.push (.group (b'.groups.length + 1)) opened' b'.level.verbose) := by
  rw [h.level.verbose, h.groups_length, Nat.add_right_comm]
  have hlength : b.groups.length + 1 ≤ (b.openGroup name).2.groups.length := by simp [Builder.openGroup]
  exact (h.openGroup name hname).push (.group (Nat.succ_pos _) hlength) rfl opened opened' _

theorem openGroup_follows (h : b.Placed exact c b') (name : Option (List Code)) (opened opened' : Nat) :
    Follows exact c excuse s (openGroup b name opened) (openGroup b' name opened') where
  follows {rest b₁} hs _ tail _ := by
    have hnew : ∀ n, name = some n → b.indexOf? n = none := by
      intro n heq
      obtain rfl := heq
      cases hindex : b.indexOf? n with
      | none => rfl
      | some index =>
        obtain ⟨fault, left, hfault⟩ := openGroup_taken hindex opened s
        simp [hfault] at hs
    rw [openGroup_new hnew] at hs
    obtain ⟨rfl, rfl⟩ := Prod.mk.inj (Except.ok.inj hs)
    by_cases hclash : ∃ n, name = some n ∧ ∃ g ∈ c.groups, g.name = some n
    · obtain ⟨n, rfl, g, hg, hgn⟩ := hclash
      cases hindex : b'.indexOf? n with
      | none =>
        obtain ⟨own, hown, -⟩ := h.groups
        have hne := Builder.Placed.indexOf?_eq_none_iff.mp hindex g
        exact absurd hgn (hne (by rw [hown]; exact List.mem_append_left _ hg))
      | some index =>
        refine .inr ⟨openGroup_taken hindex opened' _, fun _ => .inr ?_⟩
        exact ⟨{ name := some n }, List.mem_append_right _ (List.mem_singleton_self _), n, rfl, g, hg, hgn⟩
    · have hname : ∀ n, name = some n → ∀ g ∈ c.groups, g.name ≠ some n :=
        fun n hn g hg hgn => hclash ⟨n, hn, g, hg, hgn⟩
      have hnew' : ∀ n, name = some n → b'.indexOf? n = none := by
        intro n hn
        have hnone : c.groups.findIdx? (·.name = some n) = none := by
          rw [List.findIdx?_eq_none_iff]
          exact fun g hg => decide_eq_false (hname n hn g hg)
        rw [h.indexOf?, hnone, hnew n hn]
        rfl
      exact .inl ⟨_, openGroup_new hnew' opened' _, push_group h hname opened opened'⟩

theorem openBehind_placed (h : b.Placed exact c b') (negated : Bool) (opened opened' : Nat) :
    (openBehind b negated opened).Placed exact c (openBehind b' negated opened') := by
  have hpush := h.push (.behind negated b.lookbehind) rfl opened opened' b.level.verbose
  unfold openBehind
  rw [h.level.verbose, h.lookbehind]
  exact { hpush with
    lookbehind := by
      rw [h.groups_length]
      cases b.lookbehind <;> rfl }

theorem globalFlags_follows (h : b.Placed exact c b') (hc : c.frames ≠ []) (hexcuse : exact → excuse)
    (on : Flags) (opened opened' : Nat) :
    Follows exact c excuse s (globalFlags b on opened) (globalFlags b' on opened') := by
  obtain ⟨own, hown, -⟩ := h.frames
  have hframes : b'.frames ≠ [] := by
    rw [hown]
    exact List.append_ne_nil_of_right_ne_nil own hc
  refine .excused (fun s => ?_) hexcuse
  unfold globalFlags
  rw [if_neg fun hall => hframes hall.1]
  exact ⟨_, _, rfl⟩

theorem extension_follows (h : b.Placed exact c b') (opened opened' : Nat)
    (hnum : exact → ∀ t n u, s = .plain 40 :: t → name ')' "group name" t = .ok (n, u) →
      isIdentifier n = true)
    (hswitches : ∀ first t on u, s = first :: t → (isFlag first || first = .plain 45) = true →
      flags first t = .ok (.inl on, u) → c.frames ≠ [] ∧ (exact → excuse)) :
    Follows exact c excuse s (extension b opened) (extension b' opened') := by
  refine .bind required_extends fun x t hx => ?_
  dsimp only
  split
  · refine .bind (accept_extends (by decide)) fun named u _ => ?_
    split_ifs
    · exact .bind (groupName_extends _) fun name _ _ => openGroup_follows h (some name) opened opened'
    · refine .bind (accept_extends (by decide)) fun referring u _ => ?_
      split_ifs
      · exact namedReference_follows h
      · exact .bind required_extends fun _ _ _ => .fail (failBack_error _ _)
  · rw [h.level.verbose]
    exact .pure (h.push (.scope _ _) rfl opened opened' _)
  · rw [← bind_assoc, ← bind_assoc]
    exact .bind (.fuel (comment_extends opened opened')) fun _ _ _ => .pure h
  · rw [h.level.verbose]
    exact .pure (h.push (.ahead false) rfl opened opened' _)
  · rw [h.level.verbose]
    exact .pure (h.push (.ahead true) rfl opened opened' _)
  · refine .bind required_extends fun y u _ => ?_
    split
    · exact .pure (openBehind_placed h false opened opened')
    · exact .pure (openBehind_placed h true opened opened')
    · exact .fail (failBack_error _ _)
  · exact whether_follows h opened opened' fun he n u => hnum he t n u (required_ok hx)
  · rw [h.level.verbose]
    exact .pure (h.push .atomic rfl opened opened' _)
  · split_ifs with hflag
    · refine .bind (flags_extends x) fun result u hresult => ?_
      cases result with
      | inl on =>
        obtain ⟨hc, hexcuse⟩ := hswitches x t on u (required_ok hx) hflag hresult
        exact globalFlags_follows h hc hexcuse on opened opened'
      | inr switches =>
        rw [h.level.verbose]
        exact .pure (h.push (.scope _ _) rfl opened opened' _)
    · exact .fail (failBack_error _ _)

theorem parenthesis_follows (h : b.Placed exact c b')
    (hnum : exact → numberedAt (.plain 40 :: s) = false)
    (hswitches : switchesAt (.plain 40 :: s) = true → c.frames ≠ [] ∧ (exact → excuse)) :
    Follows exact c excuse s (parenthesis b) (parenthesis b') := by
  refine .left fun n n' => .bind (accept_extends (by decide)) fun found t hfound => ?_
  split_ifs with hopen
  · have hs : s = .plain 63 :: t := by
      rcases accept_ok.mp hfound with ⟨-, rfl, -⟩ | ⟨hs, -, -⟩
      · simp at hopen
      · exact hs
    refine extension_follows h _ _ (fun he u n v hu hname => ?_) fun first u on v hu hflag hresult => ?_
    · have hfalse := hnum he
      rw [hs, hu] at hfalse
      simpa [numberedAt, hname] using hfalse
    · refine hswitches ?_
      rw [hs, hu]
      simpa [switchesAt, hresult] using hflag
  · exact openGroup_follows h none _ _

theorem repeatLast_follows (h : b.Placed exact c b') (started started' least : Nat) (most : Option Nat) :
    Follows exact c excuse s (repeatLast b started least most) (repeatLast b' started' least most) := by
  have hitems := h.level.items
  unfold repeatLast
  cases hb : b.level.items with
  | nil => exact .fail (failAt_error _ _)
  | cons item items =>
    rw [hb] at hitems
    obtain ⟨item', items', hitem, hrest, hb'⟩ := List.forall₂_cons_left_iff.mp hitems
    simp only [hb', hitem.isAnchor, hitem.isLoop]
    split_ifs
    · exact .fail (failAt_error _ _)
    · exact .fail (failAt_error _ _)
    · refine .bind greed_extends fun greed _ _ => .pure ?_
      have hloop := Regex.Placed.loop greed least most hitem
      exact { h with level := ⟨h.level.branches, .cons hloop hrest, h.level.verbose⟩ }

theorem repetition_follows (h : b.Placed exact c b') (x : Code) :
    Follows exact c excuse s (repetition b x) (repetition b' x) := by
  refine .left fun n n' => ?_
  dsimp only
  split_ifs
  · exact repeatLast_follows h _ _ _ _
  · exact repeatLast_follows h _ _ _ _
  · exact repeatLast_follows h _ _ _ _
  · refine .bind counts_extends fun result _ _ => ?_
    split
    · exact .pure (h.add (.single _))
    · exact repeatLast_follows h _ _ _ _

theorem escaped_follows (h : b.Placed exact c b') (x : Code)
    (hnum : exact → numberedAt (.escaped x :: s) = false) :
    Follows exact c excuse s (escaped b x) (escaped b' x) := by
  refine .bind (escape_extends x) fun e t he => ?_
  split
  · exact .pure (h.add (.single _))
  · exact .pure (h.add (.single _))
  · exact .pure (h.add (.anchor _))
  · refine reference_follows h (fun hexact => ?_) _ _
    simpa [numberedAt, he] using hnum hexact

/-- A comment that does not run to the end of the text. -/
theorem lineComment_append {n m : Nat} {s rest : Source} (h : lineComment n s = .ok ((), rest))
    (hrest : rest ≠ []) (hn : s.length < n) (hm : s.length < m) {tail : Source} (ht : tail.Closing) :
    lineComment m (s ++ tail) = .ok ((), rest ++ tail) := by
  induction s generalizing n m with
  | nil =>
    cases n with
    | zero => omega
    | succ n => exact absurd (pure_ok.mp h).2 hrest
  | cons x s ih =>
    cases n with
    | zero => omega
    | succ n =>
      cases m with
      | zero => omega
      | succ m =>
        obtain ⟨hs, h⟩ := next_then_ok.mp h
        refine next_then_ok.mpr ⟨ht.append_ne_alone hs, ?_⟩
        dsimp only at h ⊢
        split_ifs at h ⊢
        · obtain ⟨-, rfl⟩ := pure_ok.mp h
          rfl
        · exact ih h (by simpa using hn) (by simpa using hm)

/-- At the outermost level of a fragment nothing is verbose, so its comments have an end. -/
theorem lineComment_follows (h : b.Placed exact c b') (hverbose : b.level.verbose = true) :
    Follows exact c excuse s
      (do let fuel ← fun s : Source => Except.ok (s.length + 1, s); lineComment fuel; return b)
      (do let fuel ← fun s : Source => Except.ok (s.length + 1, s); lineComment fuel; return b') where
  follows {rest b₁} hs hend tail ht := by
    obtain ⟨n, t, hfuel, hs⟩ := bind_ok.mp hs
    obtain ⟨rfl, rfl⟩ := Prod.mk.inj (Except.ok.inj hfuel)
    obtain ⟨⟨⟩, t, hcomment, hb⟩ := bind_ok.mp hs
    obtain ⟨rfl, rfl⟩ := pure_ok.mp hb
    have hrest : rest ≠ [] := by
      intro hrest
      have houtermost := h.outermost
      rw [hend hrest, hverbose] at houtermost
      simp at houtermost
    have happend := lineComment_append (m := (s ++ tail).length + 1) hcomment hrest
      (Nat.lt_succ_self _) (by rw [List.length_append]; omega) ht
    exact .inl ⟨b', bind_ok.mpr ⟨_, _, rfl, bind_ok.mpr ⟨(), _, happend, rfl⟩⟩, h⟩

theorem item_follows (h : b.Placed exact c b') (x : Symbol) (hnum : exact → numberedAt (x :: s) = false)
    (hswitches : switchesAt (x :: s) = true → c.frames ≠ [] ∧ (exact → excuse)) :
    Follows exact c excuse s (item b x) (item b' x) := by
  cases x with
  | escaped x => exact escaped_follows h x hnum
  | loneBackslash => exact .pure h
  | plain x =>
    simp only [item, h.level.verbose]
    split_ifs with _ hcomment
    · exact .pure h
    · exact lineComment_follows h (Bool.and_eq_true_iff.mp hcomment).1
    · exact .pure (h.add (.single _))
    · exact .pure (h.add (.anchor _))
    · exact .pure (h.add (.anchor _))
    · refine .left fun n n' => .bind (set_extends _ _) fun test _ _ => .pure (h.add (.single test))
    · next hparenthesis =>
      subst hparenthesis
      exact parenthesis_follows h hnum hswitches
    · exact repetition_follows h x
    · exact .pure (h.add (.single _))

theorem opening_not_whether {d n : Nat} {opening opening' : Opening}
    (h : opening.Placed exact d n opening')
    (ho : ∀ i yes, opening ≠ .whether i yes) : ∀ i yes, opening' ≠ .whether i yes := by
  cases h with
  | whether _ => exact absurd rfl (ho _ _)
  | whetherYes _ _ => exact absurd rfl (ho _ _)
  | _ => simp

/-- The frame of the surroundings counts where the fragment has no frame of its own. -/
theorem bars_placed (hc : c.Open) (h : b.Placed exact c b') {b₁ : Builder} (hb : Bars b b₁) :
    ∃ b₁', Bars b' b₁' ∧ b₁.Placed exact c b₁' := by
  obtain ⟨own, hown, hframes⟩ := h.frames
  cases hb with
  | branch hhead =>
    refine ⟨_, .branch ?_, h.startBranch⟩
    rw [hown]
    generalize b.frames = frames at hframes hhead
    cases hframes with
    | nil => exact hc
    | cons hframe _ =>
      intro f hf
      obtain rfl := Option.some.inj hf
      exact opening_not_whether hframe.opening (hhead _ rfl)
  | @second frame frames index hb ho =>
    rw [hb] at hframes
    obtain ⟨frame', own', hframe, hrest, rfl⟩ := List.forall₂_cons_left_iff.mp hframes
    have hopening := hframe.opening
    rw [ho] at hopening
    generalize ho' : frame'.opening = opening' at hopening
    cases hopening with
    | @whether _ index' hi =>
      refine ⟨_, .second hown ho', ?_⟩
      have houtermost := h.outermost
      have hunlimited := h.unlimited
      rw [hb] at houtermost hunlimited
      rw [outermostLimit, ho] at hunlimited
      exact { h with
        level := ⟨h.level.branches, .nil, h.level.verbose⟩
        frames := ⟨{ frame' with opening := .whether index' (some b'.level.branch) } :: own', rfl,
          .cons ⟨hframe.outer, .whetherYes hi h.level.branch⟩ hrest⟩
        outermost := houtermost
        unlimited := hunlimited }

theorem step_item_refuses {x : Symbol} (hbar : x ≠ .plain 124) (hclose : x ≠ .plain 41)
    (hs : s ≠ [.loneBackslash]) (h : Refuses (item b x) s) : Refuses (step b) (x :: s) := by
  obtain ⟨fault, left, hfault⟩ := h
  refine ⟨fault, left, ?_⟩
  simp only [step, bind, StateT.bind, Except.bind, peek, List.head?_cons, if_neg hbar, if_neg hclose,
    next, if_neg hs, hfault]

theorem step_follows (hc : c.Open) (h : b.Placed exact c b') (hnum : exact → numberedAt s = false)
    (hswitches : c.frames = [] → switchesAt s = false) {rest : Source} {b₁ : Builder}
    (hstep : step b s = .ok (some b₁, rest)) (hend : rest = [] → b₁.frames = []) {tail : Source}
    (ht : tail.Closing) :
    (∃ b₁', step b' (s ++ tail) = .ok (some b₁', rest ++ tail) ∧ b₁.Placed exact c b₁') ∨
      (Refuses (step b') (s ++ tail) ∧ (exact → switchesAt s = true ∨ Clash c.groups b₁.groups)) := by
  cases s with
  | nil => simp [step_nil] at hstep
  | cons x s =>
    rw [List.cons_append]
    by_cases hbar : x = .plain 124
    · subst hbar
      obtain ⟨_, ⟨⟩, hbar⟩ := step_bar.mp hstep
      obtain ⟨hs, hb₁, rfl⟩ := bar_ok.mp hbar
      obtain ⟨b₁', hb₁', hplaced⟩ := bars_placed hc h hb₁
      have hbar' := (bar_ok (x := .plain 124)).mpr ⟨ht.append_ne_alone hs, hb₁', rfl⟩
      exact .inl ⟨b₁', step_bar.mpr ⟨b₁', rfl, hbar'⟩, hplaced⟩
    · by_cases hclose : x = .plain 41
      · subst hclose
        cases hb : b.frames with
        | nil => simp [step_unopened hb] at hstep
        | cons frame frames =>
          obtain ⟨hs, ⟨⟩, rfl⟩ := (step_close hb).mp hstep
          obtain ⟨frame', frames', hb', hplaced⟩ := h.close hb
          exact .inl ⟨_, (step_close hb').mpr ⟨ht.append_ne_alone hs, rfl, rfl⟩, hplaced⟩
      · obtain ⟨hs, _, ⟨⟩, hitem⟩ := (step_item hbar hclose).mp hstep
        have hfollows : Follows exact c (switchesAt (x :: s) = true) s (item b x) (item b' x) := by
          refine item_follows h x hnum fun hswitch => ⟨fun hframes => ?_, fun _ => hswitch⟩
          simp [hswitches hframes] at hswitch
        rcases hfollows.follows hitem hend tail ht with ⟨b₁', hitem', hplaced⟩ | ⟨hrefuses, hwhy⟩
        · have hstep' := (step_item hbar hclose).mpr ⟨ht.append_ne_alone hs, b₁', rfl, hitem'⟩
          exact .inl ⟨b₁', hstep', hplaced⟩
        · exact .inr ⟨step_item_refuses hbar hclose (ht.append_ne_alone hs) hrefuses, hwhy⟩

theorem switchesAt_iff :
    switchesAt s = true ↔ ∃ first rest on t, s = .plain 40 :: .plain 63 :: first :: rest ∧
      (isFlag first || first = .plain 45) = true ∧ flags first rest = .ok (.inl on, t) := by
  constructor
  · intro h
    unfold switchesAt at h
    split at h
    · next first rest =>
      obtain ⟨hflag, h⟩ := Bool.and_eq_true_iff.mp h
      split at h
      · next on t hflags => exact ⟨first, rest, on, t, rfl, hflag, hflags⟩
      · cases h
    · cases h
  · intro h
    obtain ⟨first, rest, on, t, rfl, hflag, hflags⟩ := h
    simpa [switchesAt, hflags] using hflag

theorem switchesAt_append {tail : Source} (ht : tail.Closing) (h : switchesAt s = true) :
    switchesAt (s ++ tail) = true := by
  obtain ⟨first, rest, on, t, rfl, hflag, hflags⟩ := switchesAt_iff.mp h
  have hflags' := (flags_extends first).extends' hflags tail ht
  exact switchesAt_iff.mpr ⟨first, rest ++ tail, on, _, rfl, hflag, hflags'⟩

theorem item_parenthesis (b : Builder) : item b (.plain 40) = parenthesis b := by
  have hblank : TemplateSwap.Text.isAsciiBlank 40 = false := rfl
  simp [item, hblank]

/-- An opening parenthesis and a question mark. -/
theorem item_extension (s : Source) {rest : Source} {b₁ : Builder}
    (h : item b (.plain 40) (.plain 63 :: s) = .ok (b₁, rest)) :
    ∃ opened, extension b opened s = .ok (b₁, rest) := by
  rw [item_parenthesis] at h
  obtain ⟨n, t, hleft, h⟩ := bind_ok.mp h
  obtain ⟨rfl, rfl⟩ := Prod.mk.inj (Except.ok.inj hleft)
  obtain ⟨found, t, hfound, h⟩ := bind_ok.mp h
  rcases accept_ok.mp hfound with ⟨hne, -⟩ | ⟨hs, rfl, -⟩
  · simp at hne
  · obtain ⟨-, rfl⟩ := List.cons.inj hs
    exact ⟨_, h⟩

theorem extension_switches {first : Symbol} (hflag : (isFlag first || first = .plain 45) = true)
    (opened : Nat) :
    extension b opened (first :: s) = (required >>= fun x => flags x >>= fun
      | .inl on => globalFlags b on opened
      | .inr (on, off) => pure (b.push (.scope on off) opened
          ((b.level.verbose || on.verbose) && !off.verbose))) (first :: s) := by
  unfold extension
  simp only [bind, StateT.bind, Except.bind]
  by_cases hs : s = [.loneBackslash]
  · simp [required, bind, StateT.bind, Except.bind, next, hs]
  · have hrequired : required (first :: s) = .ok (first, s) := next_then_ok.mpr ⟨hs, rfl⟩
    simp only [hrequired]
    split
    all_goals try exact absurd hflag (by decide)
    rw [if_pos hflag]
    rfl

/-- Inside parentheses there are no switches for the whole pattern. -/
theorem switchesAt_of_step {frame : Frame} {frames : List Frame} (hb : b.frames = frame :: frames)
    {o : Option Builder} {rest : Source} (h : step b s = .ok (o, rest)) : switchesAt s = false := by
  rw [← Bool.not_eq_true]
  intro hswitch
  obtain ⟨first, t, on, u, rfl, hflag, hflags⟩ := switchesAt_iff.mp hswitch
  obtain ⟨-, b₁, rfl, hitem⟩ := (step_item (by decide) (by decide)).mp h
  obtain ⟨opened, hextension⟩ := item_extension _ hitem
  rw [extension_switches hflag] at hextension
  obtain ⟨x, v, hx, hextension⟩ := bind_ok.mp hextension
  obtain ⟨rfl, rfl⟩ := List.cons.inj (required_ok hx)
  obtain ⟨result, v, hresult, hextension⟩ := bind_ok.mp hextension
  obtain ⟨rfl, rfl⟩ := Prod.mk.inj (Except.ok.inj (hresult.symm.trans hflags))
  simp [globalFlags, hb, failAt] at hextension

theorem assemble_nil (n : Nat) (b : Builder) : assemble n b [] = .ok (b, []) := by
  cases n <;> rfl

theorem Clash.mono {b₁ : Builder} (h : Clash c.groups b.groups) (hnames : b.names <+: b₁.names) :
    Clash c.groups b₁.groups := by
  obtain ⟨g, hg, name, hname, hc⟩ := h
  have hmem : some name ∈ b₁.names := hnames.subset (List.mem_map.mpr ⟨g, hg, hname⟩)
  obtain ⟨g₁, hg₁, hname₁⟩ := List.mem_map.mp hmem
  exact ⟨g₁, hg₁, name, hname₁, hc⟩

/-- All of a fragment, where it stands. -/
theorem assemble_follows (hc : c.Open) {n : Nat} {e : Builder} (h : b.Placed exact c b')
    (hrun : assemble n b s = .ok (e, [])) (hend : e.frames = [])
    (hnum : exact → ∀ t ∈ stations n b s, numberedAt t = false)
    (hswitches : c.frames = [] → ∀ t ∈ stations n b s, switchesAt t = false) {tail : Source}
    (ht : tail.Closing) :
    (∃ e', Leads b' (s ++ tail) e' tail ∧ e.Placed exact c e' ∧
        ∀ t ∈ stations n b s, switchesAt t = false) ∨
      (Fails b' (s ++ tail) ∧
        (exact → (∃ t ∈ stations n b s, switchesAt t = true) ∨ Clash c.groups e.groups)) := by
  induction n generalizing b b' s with
  | zero =>
    obtain ⟨rfl, rfl⟩ := pure_ok.mp hrun
    exact .inl ⟨b', .refl _ _, h, by simp [stations]⟩
  | succ n ih =>
    rcases assemble_ok hrun with ⟨hstop, rfl⟩ | ⟨b₁, t, hstep, hrest⟩
    · rw [← step_stops hstop]
      exact .inl ⟨b', .refl _ _, h, by simp [stations, step_nil, switchesAt]⟩
    · have hstations : stations (n + 1) b s = s :: stations n b₁ t := by simp [stations, hstep]
      rw [hstations] at hnum hswitches ⊢
      simp only [List.forall_mem_cons, List.exists_mem_cons_iff] at hnum hswitches ⊢
      have hend₁ : t = [] → b₁.frames = [] := by
        intro heq
        obtain rfl := heq
        rw [assemble_nil] at hrest
        obtain ⟨rfl, -⟩ := Prod.mk.inj (Except.ok.inj hrest)
        exact hend
      rcases step_follows hc h (fun he => (hnum he).1) (fun hf => (hswitches hf).1) hstep hend₁ ht with
        ⟨b₁', hstep', hplaced⟩ | ⟨hrefuses, hwhy⟩
      · have hswitch : switchesAt s = false := by
          cases hframes : c.frames with
          | nil => exact (hswitches hframes).1
          | cons frame frames =>
            obtain ⟨own, hown, -⟩ := h.frames
            have hne : b'.frames ≠ [] := by simp [hown, hframes]
            obtain ⟨frame', frames', hb'⟩ := List.exists_cons_of_ne_nil hne
            have hfalse := switchesAt_of_step hb' hstep'
            rw [← Bool.not_eq_true] at hfalse ⊢
            exact fun hs => hfalse (switchesAt_append ht hs)
        rcases ih hplaced hrest (fun he => (hnum he).2) (fun hf => (hswitches hf).2) with
          ⟨e', hleads, he, hall⟩ | ⟨hfails, hwhy⟩
        · exact .inl ⟨e', (Leads.step hstep').trans hleads, he, hswitch, hall⟩
        · exact .inr ⟨(Leads.step hstep').fails hfails, fun he => (hwhy he).imp_left .inr⟩
      · refine .inr ⟨.step hrefuses, fun he => ?_⟩
        rcases hwhy he with hswitch | hclash
        · exact .inl (.inl hswitch)
        · exact .inr (hclash.mono (assemble_continues hrest).2.names)

end TemplateSwap.Pattern.Reader
