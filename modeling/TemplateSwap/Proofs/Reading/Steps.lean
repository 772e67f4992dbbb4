import TemplateSwap.Proofs.Reading.Extension

namespace TemplateSwap.Pattern

open TemplateSwap.Text (Code)

/-- The names of groups, in the order of their numbers. -/
def Builder.names (b : Builder) : List (Option (List Code)) := b.groups.map (·.name)

/-- What is never given up on the way: groups keep their numbers and names, and conditions wait for the end. -/
structure Builder.Grows (b b' : Builder) : Prop where
  names : b.names <+: b'.names
  conditions : b.conditions <+: b'.conditions

theorem Builder.Grows.of_eq {b b' : Builder} (h : b'.names = b.names ∧ b'.conditions = b.conditions) : b.Grows b' :=
  ⟨h.1 ▸ List.prefix_refl b'.names, h.2 ▸ List.prefix_refl b'.conditions⟩

theorem Builder.Grows.trans {b b' b'' : Builder} (h : b.Grows b') (h' : b'.Grows b'') : b.Grows b'' :=
  ⟨h.names.trans h'.names, h.conditions.trans h'.conditions⟩

namespace Reader

variable {α β : Type}

namespace Leaving

theorem pure (a : α) : Leaving (pure a) := (Extends.pure a).toLeaving

theorem fail {m : Reader α} (h : ∀ s, ∃ stop, m s = .error stop) : Leaving m :=
  (Extends.fail h : Extends m m).toLeaving

theorem bind {m : Reader α} {f : α → Reader β} (h : Leaving m) (hf : ∀ a, Leaving (f a)) :
    Leaving (m >>= f) where
  leaves hs := by
    obtain ⟨a, t, ha, hb⟩ := bind_ok.mp hs
    exact (h.leaves ha).trans ((hf a).leaves hb)

/-- A reader that only looks. -/
theorem look {m : Reader α} (h : ∀ s, ∃ a, m s = .ok (a, s)) : Leaving m where
  leaves {s rest _} hs := by
    obtain ⟨b, hb⟩ := h s
    obtain ⟨-, rfl⟩ := Prod.mk.inj (Except.ok.inj (hb.symm.trans hs))
    exact .refl _

theorem next : Leaving Reader.next where
  leaves hs := by
    rcases next_ok.mp hs with ⟨rfl, -, rfl⟩ | ⟨x, rfl, -, hx⟩
    · exact .refl _
    · exact .cons hx

end Leaving

theorem left_leaving : Leaving left := .look fun _ => ⟨_, rfl⟩

theorem peek_leaving : Leaving peek := .look fun _ => ⟨_, rfl⟩

theorem accept_leaving (c : Code) : Leaving (accept c) := by
  refine peek_leaving.bind fun o => ?_
  split_ifs
  · exact Leaving.next.bind fun _ => .pure _
  · exact .pure _

theorem required_leaving : Leaving required := required_extends.toLeaving

theorem lineComment_leaving (fuel : Nat) : Leaving (lineComment fuel) := by
  induction fuel with
  | zero => exact .pure _
  | succ fuel ih =>
    refine Leaving.next.bind fun o => ?_
    split
    · exact .pure _
    · split_ifs
      · exact .pure _
      · exact ih

theorem checkLookbehind_leaving (b : Builder) (index : Nat) : Leaving (checkLookbehind b index) := by
  unfold checkLookbehind
  split
  · exact .pure _
  · split_ifs
    · exact .fail (fail_error _)
    · exact .fail (fail_error _)
    · exact .pure _

/-- Reading goes wrong with a fault of the pattern. -/
def Refuses (m : Reader α) (s : Source) : Prop := ∃ fault left, m s = .error (.fault fault left)

/-- A reader that goes wrong with faults of the pattern only. -/
def Faulty (m : Reader α) : Prop := ∀ s stop, m s = .error stop → Refuses m s

namespace Faulty

theorem pure (a : α) : Faulty (pure a) := fun _ _ h => nomatch h

theorem fail {m : Reader α} (h : ∀ s, Refuses m s) : Faulty m := fun s _ _ => h s

theorem bind {m : Reader α} {f : α → Reader β} (h : Faulty m) (hf : ∀ a, Faulty (f a)) :
    Faulty (m >>= f) := by
  intro s stop hs
  cases hm : m s with
  | error stop' =>
    obtain ⟨fault, left, hfault⟩ := h s stop' hm
    exact ⟨fault, left, by simp [Bind.bind, StateT.bind, Except.bind, hfault]⟩
  | ok result =>
    obtain ⟨a, t⟩ := result
    have hbind : (m >>= f) s = f a t := by simp only [Bind.bind, StateT.bind, Except.bind, hm]
    rw [hbind] at hs
    obtain ⟨fault, left, hfault⟩ := hf a t stop hs
    exact ⟨fault, left, hbind.trans hfault⟩

end Faulty

theorem fail_refuses (fault : Fault) (s : Source) : Refuses (fail fault : Reader α) s := ⟨_, _, rfl⟩

theorem failBack_refuses (back : Nat) (fault : Fault) (s : Source) :
    Refuses (failBack back fault : Reader α) s := ⟨_, _, rfl⟩

theorem checkLookbehind_faulty (b : Builder) (index : Nat) : Faulty (checkLookbehind b index) := by
  unfold checkLookbehind
  split
  · exact .pure _
  · split_ifs
    · exact .fail (fail_refuses _)
    · exact .fail (fail_refuses _)
    · exact .pure _

theorem reference_faulty (b : Builder) (index written : Nat) : Faulty (reference b index written) := by
  unfold reference
  split
  · exact .fail (failBack_refuses _ _)
  · split
    · exact .fail (failBack_refuses _ _)
    · exact .bind (checkLookbehind_faulty b index) fun _ => .pure _

theorem numberedCondition_faulty (b : Builder) (name : List Code) : Faulty (numberedCondition b name) := by
  have hleft : Faulty left := fun s stop h => nomatch h
  unfold numberedCondition
  split
  · split_ifs
    · exact .fail (failBack_refuses _ _)
    · exact .fail (failBack_refuses _ _)
    · exact .bind hleft fun _ => .bind (checkLookbehind_faulty _ _) fun _ => .pure _
    · exact .bind hleft fun _ => .bind (checkLookbehind_faulty _ _) fun _ => .pure _
  · exact .fail (failBack_refuses _ _)

/-- A reader that goes on with a builder: groups and conditions may be added. -/
structure Continues (after : α → Builder) (b : Builder) (m : Reader α) : Prop extends Leaving m where
  grows : ∀ {s rest : Source} {a : α}, m s = .ok (a, rest) → b.Grows (after a)

namespace Continues

variable {b : Builder} {after : α → Builder}

theorem pure {a : α} (h : b.Grows (after a)) : Continues after b (pure a) where
  toLeaving := .pure a
  grows hs := by rw [(pure_ok.mp hs).1]; exact h

theorem same {a : α} (h : (after a).names = b.names ∧ (after a).conditions = b.conditions) :
    Continues after b (Pure.pure a) :=
  .pure (.of_eq h)

theorem fail {m : Reader α} (h : ∀ s, ∃ stop, m s = .error stop) : Continues after b m where
  toLeaving := .fail h
  grows {s _ _} hs := by
    obtain ⟨stop, hstop⟩ := h s
    simp [hstop] at hs

theorem bind {m : Reader β} {f : β → Reader α} (h : Leaving m) (hf : ∀ a, Continues after b (f a)) :
    Continues after b (m >>= f) where
  toLeaving := h.bind fun a => (hf a).toLeaving
  grows hs := by
    obtain ⟨a, t, -, hb⟩ := bind_ok.mp hs
    exact (hf a).grows hb

theorem step {m : Reader α} (h : Continues after b m) {f : α → Reader β} {after' : β → Builder}
    (hf : ∀ a, Continues after' (after a) (f a)) : Continues after' b (m >>= f) where
  toLeaving := h.toLeaving.bind fun a => (hf a).toLeaving
  grows hs := by
    obtain ⟨a, t, ha, hb⟩ := bind_ok.mp hs
    exact (h.grows ha).trans ((hf a).grows hb)

end Continues

theorem reference_continues (b : Builder) (index written : Nat) :
    Continues id b (reference b index written) := by
  unfold reference
  split
  · exact .fail (failBack_error _ _)
  · split
    · exact .fail (failBack_error _ _)
    · exact .bind (checkLookbehind_leaving b index) fun _ => .same ⟨rfl, rfl⟩

theorem namedReference_continues (b : Builder) : Continues id b (namedReference b) := by
  refine .bind (groupName_extends _).toLeaving fun name => ?_
  split
  · exact .fail (failBack_error _ _)
  · split
    · exact .fail (failBack_error _ _)
    · exact .bind (checkLookbehind_leaving b _) fun _ => .same ⟨rfl, rfl⟩

theorem numberedCondition_continues (b : Builder) (name : List Code) :
    Continues Prod.snd b (numberedCondition b name) := by
  unfold numberedCondition
  split
  · split_ifs
    · exact .fail (failBack_error _ _)
    · exact .fail (failBack_error _ _)
    · exact .bind left_leaving fun _ => .bind (checkLookbehind_leaving _ _) fun _ => .same ⟨rfl, rfl⟩
    · exact .bind left_leaving fun _ => .bind (checkLookbehind_leaving _ _) fun _ =>
        .pure ⟨List.prefix_refl _, List.prefix_append _ _⟩
  · exact .fail (failBack_error _ _)

theorem condition_continues (b : Builder) : Continues Prod.snd b (condition b) := by
  refine .bind (name_extends _ _).toLeaving fun name => ?_
  split_ifs
  · split
    · exact .fail (failBack_error _ _)
    · exact .bind (checkLookbehind_leaving b _) fun _ => .same ⟨rfl, rfl⟩
  · exact numberedCondition_continues b name

theorem openGroup_continues (b : Builder) (name : Option (List Code)) (opened : Nat) :
    Continues id b (openGroup b name opened) := by
  unfold openGroup
  dsimp only
  split
  · exact .fail (failBack_error _ _)
  · refine .pure ⟨⟨[name], ?_⟩, List.prefix_refl _⟩
    simp [Builder.names, Builder.openGroup, Builder.push]

theorem globalFlags_continues (b : Builder) (on : Flags) (opened : Nat) :
    Continues id b (globalFlags b on opened) := by
  unfold globalFlags
  split_ifs
  · exact .same ⟨rfl, rfl⟩
  · exact .fail (failAt_error _ _)

theorem extension_continues (b : Builder) (opened : Nat) : Continues id b (extension b opened) := by
  refine .bind required_leaving fun s => ?_
  dsimp only
  split
  · refine .bind (accept_leaving 60) fun named => ?_
    split_ifs
    · exact .bind (groupName_extends _).toLeaving fun name => openGroup_continues b _ opened
    · refine .bind (accept_leaving 61) fun referring => ?_
      split_ifs
      · exact namedReference_continues b
      · exact .bind required_leaving fun _ => .fail (failBack_error _ _)
  · exact .same ⟨rfl, rfl⟩
  · exact .bind (.look fun _ => ⟨_, rfl⟩) fun fuel =>
      .bind (comment_extends opened opened fuel 0).toLeaving fun _ => .same ⟨rfl, rfl⟩
  · exact .same ⟨rfl, rfl⟩
  · exact .same ⟨rfl, rfl⟩
  · refine .bind required_leaving fun s => ?_
    split
    · exact .same ⟨rfl, rfl⟩
    · exact .same ⟨rfl, rfl⟩
    · exact .fail (failBack_error _ _)
  · exact (condition_continues b).step fun _ => .same ⟨rfl, rfl⟩
  · exact .same ⟨rfl, rfl⟩
  · split_ifs
    · refine .bind (flags_extends s).toLeaving fun result => ?_
      split
      · exact globalFlags_continues b _ opened
      · exact .same ⟨rfl, rfl⟩
    · exact .fail (failBack_error _ _)

theorem parenthesis_continues (b : Builder) : Continues id b (parenthesis b) := by
  refine .bind left_leaving fun n => .bind (accept_leaving 63) fun found => ?_
  split_ifs
  · exact extension_continues b _
  · exact openGroup_continues b none _

theorem repeatLast_continues (b : Builder) (started least : Nat) (most : Option Nat) :
    Continues id b (repeatLast b started least most) := by
  unfold repeatLast
  split
  · exact .fail (failAt_error _ _)
  · split_ifs
    · exact .fail (failAt_error _ _)
    · exact .fail (failAt_error _ _)
    · exact .bind greed_extends.toLeaving fun _ => .same ⟨rfl, rfl⟩

theorem repetition_continues (b : Builder) (c : Code) : Continues id b (repetition b c) := by
  refine .bind left_leaving fun n => ?_
  dsimp only
  split_ifs
  · exact repeatLast_continues b _ _ _
  · exact repeatLast_continues b _ _ _
  · exact repeatLast_continues b _ _ _
  · refine .bind counts_extends.toLeaving fun result => ?_
    split
    · exact .same ⟨rfl, rfl⟩
    · exact repeatLast_continues b _ _ _

theorem escaped_continues (b : Builder) (c : Code) : Continues id b (escaped b c) := by
  refine .bind (escape_extends c).toLeaving fun e => ?_
  split
  · exact .same ⟨rfl, rfl⟩
  · exact .same ⟨rfl, rfl⟩
  · exact .same ⟨rfl, rfl⟩
  · exact reference_continues b _ _

theorem item_continues (b : Builder) (s : Symbol) : Continues id b (item b s) := by
  cases s with
  | escaped c => exact escaped_continues b c
  | loneBackslash => exact .same ⟨rfl, rfl⟩
  | plain c =>
    simp only [item]
    split_ifs
    · exact .same ⟨rfl, rfl⟩
    · exact .bind (.look fun _ => ⟨_, rfl⟩) fun fuel => .bind (lineComment_leaving fuel) fun _ => .same ⟨rfl, rfl⟩
    · exact .same ⟨rfl, rfl⟩
    · exact .same ⟨rfl, rfl⟩
    · exact .same ⟨rfl, rfl⟩
    · exact .bind left_leaving fun n => .bind (set_extends _ 0).toLeaving fun _ => .same ⟨rfl, rfl⟩
    · exact parenthesis_continues b
    · exact repetition_continues b c
    · exact .same ⟨rfl, rfl⟩

/-- One round of reading: the builder after it, or nothing where reading stops. -/
def step (b : Builder) : Reader (Option Builder) := do
  match ← peek with
  | none => return none
  | some s =>
    if s = .plain 124 then return some (← bar b)
    else if s = .plain 41 then
      match b.frames with
      | [] => return none
      | frame :: frames =>
        let _ ← next
        return some (b.close frame frames)
    else
      let _ ← next
      return some (← item b s)

theorem assemble_succ (fuel : Nat) (b : Builder) :
    assemble (fuel + 1) b = (step b >>= fun
      | none => pure b
      | some b => assemble fuel b) := by
  rw [assemble, step, bind_assoc]
  refine congrArg (peek >>= ·) (funext fun o => ?_)
  cases o with
  | none => rfl
  | some s =>
    dsimp only
    split_ifs
    · simp only [bind_assoc, pure_bind]
    · cases hb : b.frames with
      | nil => simp only [pure_bind]
      | cons frame frames => simp only [bind_assoc, pure_bind]
    · simp only [bind_assoc, pure_bind]

theorem some_ok {m : Reader α} {s rest : Source} {o : Option α} :
    (m >>= fun a => pure (some a)) s = .ok (o, rest) ↔ ∃ a, o = some a ∧ m s = .ok (a, rest) := by
  rw [bind_ok]
  constructor
  · intro h
    obtain ⟨a, t, ha, h⟩ := h
    obtain ⟨rfl, rfl⟩ := pure_ok.mp h
    exact ⟨a, rfl, ha⟩
  · intro h
    obtain ⟨a, rfl, h⟩ := h
    exact ⟨a, rest, h, rfl⟩

theorem next_then_ok {f : Option Symbol → Reader α} {x : Symbol} {s rest : Source} {a : α} :
    (next >>= f) (x :: s) = .ok (a, rest) ↔ s ≠ [.loneBackslash] ∧ f (some x) s = .ok (a, rest) := by
  rw [bind_ok]
  constructor
  · intro h
    obtain ⟨o, t, ho, h⟩ := h
    rcases next_ok.mp ho with ⟨h, -⟩ | ⟨y, hy, rfl, ht⟩
    · simp at h
    · obtain ⟨rfl, rfl⟩ := List.cons.inj hy
      exact ⟨ht, h⟩
  · intro h
    obtain ⟨hs, h⟩ := h
    exact ⟨some x, s, next_ok.mpr (.inr ⟨x, rfl, rfl, hs⟩), h⟩

theorem step_nil (b : Builder) : step b [] = .ok (none, []) := rfl

theorem step_bar {b : Builder} {o : Option Builder} {s rest : Source} :
    step b (.plain 124 :: s) = .ok (o, rest) ↔
      ∃ b', o = some b' ∧ bar b (.plain 124 :: s) = .ok (b', rest) :=
  some_ok

theorem step_unopened {b : Builder} (hb : b.frames = []) (s : Source) :
    step b (.plain 41 :: s) = .ok (none, .plain 41 :: s) := by
  simp only [step, bind, StateT.bind, Except.bind, peek, List.head?_cons, hb]
  rfl

theorem step_close {b : Builder} {o : Option Builder} {frame : Frame} {frames : List Frame}
    (hb : b.frames = frame :: frames) {s rest : Source} :
    step b (.plain 41 :: s) = .ok (o, rest) ↔
      s ≠ [.loneBackslash] ∧ o = some (b.close frame frames) ∧ rest = s := by
  have hstep : step b (.plain 41 :: s) =
      (next >>= fun _ => pure (some (b.close frame frames))) (.plain 41 :: s) := by
    simp only [step, bind, StateT.bind, Except.bind, peek, List.head?_cons, hb]
    rfl
  rw [hstep, next_then_ok, pure_ok]

theorem step_item {b : Builder} {o : Option Builder} {x : Symbol} (hbar : x ≠ .plain 124)
    (hclose : x ≠ .plain 41) {s rest : Source} :
    step b (x :: s) = .ok (o, rest) ↔
      s ≠ [.loneBackslash] ∧ ∃ b', o = some b' ∧ item b x s = .ok (b', rest) := by
  have hstep : step b (x :: s) = (next >>= fun _ => item b x >>= fun b => pure (some b)) (x :: s) := by
    simp only [step, bind, StateT.bind, Except.bind, peek, List.head?_cons, if_neg hbar, if_neg hclose]
  rw [hstep, next_then_ok, some_ok]

/-- What a bar does to the builder. -/
inductive Bars : Builder → Builder → Prop
  | branch {b : Builder} (h : ∀ f ∈ b.frames.head?, ∀ i yes, f.opening ≠ .whether i yes) :
    Bars b { b with level := b.level.startBranch }
  | second {b : Builder} {frame : Frame} {frames : List Frame} {index : Nat}
    (hb : b.frames = frame :: frames) (h : frame.opening = .whether index none) :
    Bars b { b with
      frames := { frame with opening := .whether index (some b.level.branch) } :: frames
      level := { b.level with items := [] } }

theorem Bars.unique {b b₁ b₂ : Builder} (h₁ : Bars b b₁) (h₂ : Bars b b₂) : b₂ = b₁ := by
  cases h₁ with
  | branch h =>
    cases h₂ with
    | branch => rfl
    | second hb ho => exact absurd ho (h _ (by simp [hb]) _ _)
  | second hb ho =>
    cases h₂ with
    | branch h => exact absurd ho (h _ (by simp [hb]) _ _)
    | second hb' ho' =>
      obtain ⟨rfl, rfl⟩ := List.cons.inj (hb.symm.trans hb')
      cases ho.symm.trans ho'
      rfl

theorem bar_ok {b b' : Builder} {x : Symbol} {s rest : Source} :
    bar b (x :: s) = .ok (b', rest) ↔ s ≠ [.loneBackslash] ∧ Bars b b' ∧ rest = s := by
  have hnext : ∀ b₁ : Builder, Bars b b₁ →
      ((next >>= fun _ => pure b₁) (x :: s) = .ok (b', rest) ↔
        s ≠ [.loneBackslash] ∧ Bars b b' ∧ rest = s) := by
    intro b₁ hb₁
    rw [next_then_ok, pure_ok]
    refine and_congr_right fun _ => and_congr_left fun _ => ⟨?_, hb₁.unique⟩
    intro heq
    obtain rfl := heq
    exact hb₁
  cases hb : b.frames with
  | nil =>
    have hbranch : ∀ f ∈ b.frames.head?, ∀ i yes, f.opening ≠ .whether i yes := by simp [hb]
    have hstart := hnext _ (.branch hbranch)
    simp only [hb] at hstart
    simp only [bar, hb]
    exact hstart
  | cons frame frames =>
    obtain ⟨outer, opening, left⟩ := frame
    cases opening with
    | whether index yes =>
      cases yes with
      | none =>
        simp only [bar, hb]
        exact hnext _ (.second hb rfl)
      | some yes =>
        simp only [bar, hb, fail, reduceCtorEq, false_iff, not_and]
        intro _ hbars
        cases hbars with
        | branch h => exact absurd rfl (h ⟨outer, _, left⟩ (by simp [hb]) index (some yes))
        | second hb' ho =>
          obtain ⟨rfl, rfl⟩ := List.cons.inj (hb.symm.trans hb')
          cases ho
    | _ =>
      have hbranch : ∀ f ∈ b.frames.head?, ∀ i yes, f.opening ≠ .whether i yes := by simp [hb]
      have hstart := hnext _ (.branch hbranch)
      simp only [hb] at hstart
      simp only [bar, hb]
      exact hstart

theorem names_closeGroup (b : Builder) (index : Nat) (width : Width) :
    (b.closeGroup index width).names = b.names := by
  refine List.ext_getElem (by simp [Builder.names, Builder.closeGroup]) fun i _ _ => ?_
  simp only [Builder.names, Builder.closeGroup, List.getElem_map, List.getElem_modify]
  split <;> rfl

theorem names_close (b : Builder) (frame : Frame) (frames : List Frame) :
    (b.close frame frames).names = b.names := by
  obtain ⟨outer, opening, left⟩ := frame
  cases opening with
  | group index => exact names_closeGroup { b with level := outer, frames } index b.level.regex.width
  | whether index yes => cases yes <;> rfl
  | _ => rfl

theorem conditions_close (b : Builder) (frame : Frame) (frames : List Frame) :
    (b.close frame frames).conditions = b.conditions := by
  obtain ⟨outer, opening, left⟩ := frame
  cases opening with
  | whether index yes => cases yes <;> rfl
  | _ => rfl

theorem Bars.grows {b b₁ : Builder} (h : Bars b b₁) : b.Grows b₁ := by
  cases h <;> exact .of_eq ⟨rfl, rfl⟩

/-- What every step does, whichever it is. Nothing is taken where reading stops. -/
theorem step_continues {b : Builder} {o : Option Builder} {s rest : Source}
    (h : step b s = .ok (o, rest)) :
    (o = none ∧ rest = s) ∨
      ∃ b₁, o = some b₁ ∧ rest.length < s.length ∧ Leaves s rest ∧ b.Grows b₁ := by
  cases s with
  | nil =>
    obtain ⟨rfl, rfl⟩ := Prod.mk.inj (Except.ok.inj (h.symm.trans (step_nil b)))
    exact .inl ⟨rfl, rfl⟩
  | cons x s =>
    by_cases hbar : x = .plain 124
    · subst hbar
      obtain ⟨b₁, rfl, hbar⟩ := step_bar.mp h
      obtain ⟨hs, hb₁, rfl⟩ := bar_ok.mp hbar
      exact .inr ⟨b₁, rfl, Nat.lt_succ_self _, .cons hs, hb₁.grows⟩
    · by_cases hclose : x = .plain 41
      · subst hclose
        cases hb : b.frames with
        | nil =>
          obtain ⟨rfl, rfl⟩ := Prod.mk.inj (Except.ok.inj (h.symm.trans (step_unopened hb s)))
          exact .inl ⟨rfl, rfl⟩
        | cons frame frames =>
          obtain ⟨hs, rfl, rfl⟩ := (step_close hb).mp h
          have hgrows := Builder.Grows.of_eq ⟨names_close b frame frames, conditions_close b frame frames⟩
          exact .inr ⟨_, rfl, Nat.lt_succ_self _, .cons hs, hgrows⟩
      · obtain ⟨hs, b₁, rfl, hitem⟩ := (step_item hbar hclose).mp h
        have hleaves := (item_continues b x).leaves hitem
        exact .inr ⟨b₁, rfl, Nat.lt_succ_of_le hleaves.le, (Leaves.cons hs).trans hleaves,
          (item_continues b x).grows hitem⟩

theorem step_stops {b : Builder} {s rest : Source} (h : step b s = .ok (none, rest)) : rest = s := by
  rcases step_continues h with ⟨-, rfl⟩ | ⟨b₁, hb₁, -⟩
  · rfl
  · cases hb₁

theorem step_goes_on {b b₁ : Builder} {s rest : Source} (h : step b s = .ok (some b₁, rest)) :
    rest.length < s.length ∧ Leaves s rest ∧ b.Grows b₁ := by
  rcases step_continues h with ⟨hnone, -⟩ | ⟨b₁', hb₁, hall⟩
  · cases hnone
  · rw [Option.some.inj hb₁]
    exact hall

theorem assemble_ok {n : Nat} {b e : Builder} {s rest : Source}
    (h : assemble (n + 1) b s = .ok (e, rest)) :
    (step b s = .ok (none, rest) ∧ e = b) ∨
      ∃ b₁ t, step b s = .ok (some b₁, t) ∧ assemble n b₁ t = .ok (e, rest) := by
  rw [assemble_succ] at h
  obtain ⟨o, t, ho, h⟩ := bind_ok.mp h
  cases o with
  | none =>
    obtain ⟨rfl, rfl⟩ := pure_ok.mp h
    exact .inl ⟨ho, rfl⟩
  | some b₁ => exact .inr ⟨b₁, t, ho, h⟩

theorem assemble_continues {n : Nat} {b e : Builder} {s rest : Source}
    (h : assemble n b s = .ok (e, rest)) : Leaves s rest ∧ b.Grows e := by
  induction n generalizing b s with
  | zero =>
    obtain ⟨rfl, rfl⟩ := pure_ok.mp h
    exact ⟨.refl _, .of_eq ⟨rfl, rfl⟩⟩
  | succ n ih =>
    rcases assemble_ok h with ⟨hstop, rfl⟩ | ⟨b₁, t, hstep, hrest⟩
    · rw [step_stops hstop]
      exact ⟨.refl _, .of_eq ⟨rfl, rfl⟩⟩
    · obtain ⟨-, hleaves, hgrows⟩ := step_goes_on hstep
      obtain ⟨hleaves', hgrows'⟩ := ih hrest
      exact ⟨hleaves.trans hleaves', hgrows.trans hgrows'⟩

/-- From one builder and text, reading comes to another builder and the text that is left then. -/
def Leads (b : Builder) (s : Source) (b' : Builder) (rest : Source) : Prop :=
  ∀ n, s.length < n → ∃ m, rest.length < m ∧ assemble n b s = assemble m b' rest

/-- Reading goes wrong with a fault of the pattern. -/
def Fails (b : Builder) (s : Source) : Prop := ∀ n, s.length < n → Refuses (assemble n b) s

namespace Leads

variable {b b₁ b₂ : Builder} {s t u : Source}

theorem refl (b : Builder) (s : Source) : Leads b s b s := fun n hn => ⟨n, hn, rfl⟩

theorem trans (h : Leads b s b₁ t) (k : Leads b₁ t b₂ u) : Leads b s b₂ u := by
  intro n hn
  obtain ⟨m, hm, heq⟩ := h n hn
  obtain ⟨l, hl, heq'⟩ := k m hm
  exact ⟨l, hl, heq.trans heq'⟩

theorem step (h : Reader.step b s = .ok (some b₁, t)) : Leads b s b₁ t := by
  intro n hn
  cases n with
  | zero => omega
  | succ n =>
    have hlt := (step_goes_on h).1
    refine ⟨n, by omega, ?_⟩
    rw [assemble_succ]
    simp only [bind, StateT.bind, Except.bind, h]

theorem fails (h : Leads b s b₁ t) (hf : Fails b₁ t) : Fails b s := by
  intro n hn
  obtain ⟨m, hm, heq⟩ := h n hn
  obtain ⟨fault, left, hfault⟩ := hf m hm
  exact ⟨fault, left, heq.trans hfault⟩

end Leads

theorem Fails.step {b : Builder} {s : Source} (h : Refuses (Reader.step b) s) : Fails b s := by
  intro n hn
  obtain ⟨fault, left, hfault⟩ := h
  cases n with
  | zero => omega
  | succ n =>
    refine ⟨fault, left, ?_⟩
    rw [assemble_succ]
    simp only [bind, StateT.bind, Except.bind, hfault]

/-- A reference to a group by its number, as an escape or as a condition, is next. -/
def numberedAt : Source → Bool
  | .escaped c :: rest =>
    match escape c rest with
    | .ok (.group _ _, _) => true
    | _ => false
  | .plain 40 :: .plain 63 :: .plain 40 :: rest =>
    match name ')' "group name" rest with
    | .ok (name, _) => !Text.isIdentifier name
    | _ => false
  | _ => false

/-- Switches for the whole pattern are next. -/
def switchesAt : Source → Bool
  | .plain 40 :: .plain 63 :: first :: rest =>
    (isFlag first || first = .plain 45) &&
      match flags first rest with
      | .ok (.inl _, _) => true
      | _ => false
  | _ => false

/-- What is left at the beginning of every step. -/
def stations : Nat → Builder → Source → List Source
  | 0, _, _ => []
  | fuel + 1, b, s =>
    s :: match step b s with
      | .ok (some b, rest) => stations fuel b rest
      | _ => []

/-- What is left at the beginning of every step through a pattern. -/
def stationsOf (source : String) : List Source :=
  let s := Source.ofCodes (Text.codes source)
  stations (s.length + 1) {} s

end Reader

end TemplateSwap.Pattern
