import TemplateSwap.Pattern.Compile
import Mathlib.Data.Nat.Basic
import Mathlib.Tactic.SplitIfs

namespace TemplateSwap.Pattern

namespace Source

/-- Nothing, or something that begins with a closing parenthesis. -/
def Closing (tail : Source) : Prop := ∀ s ∈ tail.head?, s = Symbol.plain 41

def EndsAlone (s : Source) : Prop := s.getLast? = some .loneBackslash

theorem Closing.cases {tail : Source} (h : tail.Closing) :
    tail = [] ∨ ∃ rest, tail = .plain 41 :: rest := by
  cases tail with
  | nil => exact .inl rfl
  | cons s rest => exact .inr ⟨rest, by rw [h s rfl]⟩

theorem Closing.append_ne_alone {tail s : Source} (h : tail.Closing) (hs : s ≠ [.loneBackslash]) :
    s ++ tail ≠ [.loneBackslash] := by
  rcases h.cases with rfl | ⟨rest, rfl⟩
  · simpa using hs
  · cases s with
    | nil => simp
    | cons x s => simp

end Source

namespace Reader

open TemplateSwap.Text (Code isAsciiDigit)
open Source (Closing EndsAlone)

variable {α β : Type}

theorem bind_ok {m : Reader α} {f : α → Reader β} {s rest : Source} {b : β} :
    (m >>= f) s = .ok (b, rest) ↔ ∃ a t, m s = .ok (a, t) ∧ f a t = .ok (b, rest) := by
  simp only [bind, StateT.bind, Except.bind]
  cases m s with
  | error stop => simp
  | ok result =>
    obtain ⟨a, t⟩ := result
    constructor
    · intro h
      exact ⟨a, t, rfl, h⟩
    · intro h
      obtain ⟨a', t', ha, hb⟩ := h
      cases ha
      exact hb

theorem pure_ok {a b : α} {s rest : Source} :
    (pure a : Reader α) s = .ok (b, rest) ↔ b = a ∧ rest = s := by
  change (Except.ok (a, s) : Except Stop (α × Source)) = .ok (b, rest) ↔ _
  rw [Except.ok.injEq, Prod.mk.injEq]
  exact and_congr eq_comm eq_comm

theorem next_ok {s rest : Source} {o : Option Symbol} :
    next s = .ok (o, rest) ↔
      (s = [] ∧ o = none ∧ rest = []) ∨ ∃ x, s = x :: rest ∧ o = some x ∧ rest ≠ [.loneBackslash] := by
  cases s with
  | nil =>
    simp only [next, Except.ok.injEq, Prod.mk.injEq, true_and, reduceCtorEq, false_and, exists_false,
      or_false]
    exact and_congr eq_comm eq_comm
  | cons x s =>
    simp only [next]
    split
    · next h =>
      simp only [reduceCtorEq, false_and, false_or, false_iff, not_exists, not_and]
      intro y hy ho
      simp [← (List.cons.inj hy).2, h]
    · next h =>
      simp only [Except.ok.injEq, Prod.mk.injEq, reduceCtorEq, false_and, false_or, List.cons.injEq]
      constructor
      · intro h
        obtain ⟨rfl, rfl⟩ := h
        exact ⟨x, ⟨rfl, rfl⟩, rfl, h⟩
      · intro h
        obtain ⟨y, ⟨rfl, rfl⟩, rfl, -⟩ := h
        exact ⟨rfl, rfl⟩

/-- What a reader leaves is not longer, and a lone backslash at the end is still to come. -/
structure Leaves (s rest : Source) : Prop where
  le : rest.length ≤ s.length
  alone : s ≠ [.loneBackslash] → rest ≠ [.loneBackslash] ∧ (EndsAlone s → EndsAlone rest)

namespace Leaves

theorem refl (s : Source) : Leaves s s := ⟨le_refl _, fun h => ⟨h, id⟩⟩

theorem trans {s t rest : Source} (h : Leaves s t) (k : Leaves t rest) : Leaves s rest :=
  ⟨Nat.le_trans k.le h.le, fun hs =>
    have ht := h.alone hs
    have hrest := k.alone ht.1
    ⟨hrest.1, fun he => hrest.2 (ht.2 he)⟩⟩

theorem cons {x : Symbol} {rest : Source} (h : rest ≠ [.loneBackslash]) : Leaves (x :: rest) rest := by
  refine ⟨Nat.le_succ _, fun hs => ⟨h, fun he => ?_⟩⟩
  cases rest with
  | nil => exact absurd (congrArg (· :: []) (Option.some.inj he)) hs
  | cons y rest => simpa [EndsAlone] using he

end Leaves

/-- A reader that takes symbols from the front. -/
structure Leaving (m : Reader α) : Prop where
  leaves : ∀ {s rest : Source} {a : α}, m s = .ok (a, rest) → Leaves s rest

/-- A reader with the same success on longer text, where the two may report failures differently. -/
structure Extends (m m' : Reader α) : Prop extends Leaving m where
  extends' : ∀ {s rest : Source} {a : α}, m s = .ok (a, rest) → ∀ tail : Source, tail.Closing →
    m' (s ++ tail) = .ok (a, rest ++ tail)

namespace Extends

theorem pure (a : α) : Extends (pure a : Reader α) (pure a) where
  leaves h := by rw [(pure_ok.mp h).2]; exact .refl _
  extends' h tail _ := by
    obtain ⟨rfl, rfl⟩ := pure_ok.mp h
    rfl

theorem fail {m m' : Reader α} (h : ∀ s, ∃ stop, m s = .error stop) : Extends m m' where
  leaves {s} _ _ hs := by
    obtain ⟨stop, hstop⟩ := h s
    simp [hstop] at hs
  extends' {s} _ _ hs := by
    obtain ⟨stop, hstop⟩ := h s
    simp [hstop] at hs

theorem bind {m m' : Reader α} {f f' : α → Reader β} (h : Extends m m')
    (hf : ∀ a, Extends (f a) (f' a)) : Extends (m >>= f) (m' >>= f') where
  leaves hs := by
    obtain ⟨a, t, ha, hb⟩ := bind_ok.mp hs
    exact (h.leaves ha).trans ((hf a).leaves hb)
  extends' hs tail ht := by
    obtain ⟨a, t, ha, hb⟩ := bind_ok.mp hs
    exact bind_ok.mpr ⟨a, t ++ tail, h.extends' ha tail ht, (hf a).extends' hb tail ht⟩

/-- A symbol is taken that has to be there. -/
theorem next {f f' : Option Symbol → Reader β} (hnone : ∀ s, ∃ stop, f none s = .error stop)
    (h : ∀ x, Extends (f (some x)) (f' (some x))) :
    Extends (Reader.next >>= f) (Reader.next >>= f') where
  leaves hs := by
    obtain ⟨o, t, ho, hb⟩ := bind_ok.mp hs
    rcases next_ok.mp ho with ⟨rfl, rfl, rfl⟩ | ⟨x, rfl, rfl, hx⟩
    · obtain ⟨stop, hstop⟩ := hnone []
      simp [hstop] at hb
    · exact (Leaves.cons hx).trans ((h x).leaves hb)
  extends' hs tail ht := by
    obtain ⟨o, t, ho, hb⟩ := bind_ok.mp hs
    rcases next_ok.mp ho with ⟨rfl, rfl, rfl⟩ | ⟨x, rfl, rfl, hx⟩
    · obtain ⟨stop, hstop⟩ := hnone []
      simp [hstop] at hb
    · refine bind_ok.mpr ⟨some x, t ++ tail, next_ok.mpr (.inr ⟨x, rfl, rfl, ?_⟩), ?_⟩
      · exact ht.append_ne_alone hx
      · exact (h x).extends' hb tail ht

end Extends

theorem failBack_error (back : Nat) (fault : Fault) (s : Source) :
    ∃ stop, (failBack back fault : Reader α) s = .error stop := ⟨_, rfl⟩

theorem fail_error (fault : Fault) (s : Source) : ∃ stop, (fail fault : Reader α) s = .error stop :=
  ⟨_, rfl⟩

theorem failAt_error (left : Nat) (fault : Fault) (s : Source) :
    ∃ stop, (failAt left fault : Reader α) s = .error stop := ⟨_, rfl⟩

theorem accept_ok {c : Code} {s rest : Source} {b : Bool} :
    accept c s = .ok (b, rest) ↔
      (s.head? ≠ some (.plain c) ∧ b = false ∧ rest = s) ∨
        (s = .plain c :: rest ∧ b = true ∧ rest ≠ [.loneBackslash]) := by
  unfold accept
  rw [bind_ok]
  simp only [peek, Except.ok.injEq, Prod.mk.injEq]
  constructor
  · intro h
    obtain ⟨o, t, ⟨rfl, rfl⟩, h⟩ := h
    split at h
    · next hc =>
      obtain ⟨o, u, ho, hb⟩ := bind_ok.mp h
      obtain ⟨rfl, rfl⟩ := pure_ok.mp hb
      rcases next_ok.mp ho with ⟨rfl, rfl, rfl⟩ | ⟨x, rfl, rfl, hx⟩
      · simp at hc
      · exact .inr ⟨by rw [Option.some.inj hc], rfl, hx⟩
    · next hc =>
      obtain ⟨rfl, rfl⟩ := pure_ok.mp h
      exact .inl ⟨hc, rfl, rfl⟩
  · intro h
    rcases h with ⟨hc, rfl, rfl⟩ | ⟨rfl, rfl, hx⟩
    · refine ⟨_, _, ⟨rfl, rfl⟩, ?_⟩
      rw [if_neg hc]
      rfl
    · refine ⟨_, _, ⟨rfl, rfl⟩, ?_⟩
      rw [List.head?_cons, if_pos rfl]
      exact bind_ok.mpr ⟨_, _, next_ok.mpr (.inr ⟨_, rfl, rfl, hx⟩), rfl⟩

theorem accept_extends {c : Code} (hc : c ≠ 41) : Extends (accept c) (accept c) where
  leaves h := by
    rcases accept_ok.mp h with ⟨-, -, rfl⟩ | ⟨rfl, -, hx⟩
    · exact .refl _
    · exact .cons hx
  extends' {_ rest} _ h tail ht := by
    rcases accept_ok.mp h with ⟨hne, rfl, rfl⟩ | ⟨rfl, rfl, hx⟩
    · refine accept_ok.mpr (.inl ⟨?_, rfl, rfl⟩)
      cases rest with
      | nil =>
        rcases ht.cases with rfl | ⟨rest, rfl⟩
        · simp
        · simpa using hc.symm
      | cons x s => simpa using hne
    · exact accept_ok.mpr (.inr ⟨rfl, rfl, ht.append_ne_alone hx⟩)

theorem takeUpTo_ok {p : Code → Bool} {n : Nat} {s rest : Source} {cs : List Code} :
    takeUpTo p (n + 1) s = .ok (cs, rest) ↔
      ((∀ c, s.head? = some (.plain c) → p c = false) ∧ cs = [] ∧ rest = s) ∨
        ∃ c t ds, s = .plain c :: t ∧ p c = true ∧ t ≠ [.loneBackslash] ∧
          takeUpTo p n t = .ok (ds, rest) ∧ cs = c :: ds := by
  by_cases hs : ∃ c t, s = .plain c :: t ∧ p c = true
  · obtain ⟨c, t, rfl, hc⟩ := hs
    rw [takeUpTo, bind_ok]
    simp only [peek, List.head?_cons, Except.ok.injEq, Prod.mk.injEq]
    constructor
    · intro h
      obtain ⟨o, u, ⟨rfl, rfl⟩, h⟩ := h
      simp only [hc, if_true] at h
      obtain ⟨o, u, ho, h⟩ := bind_ok.mp h
      obtain ⟨ds, v, hds, h⟩ := bind_ok.mp h
      obtain ⟨rfl, rfl⟩ := pure_ok.mp h
      rcases next_ok.mp ho with ⟨h, -⟩ | ⟨x, hx, -, hu⟩
      · simp at h
      · obtain ⟨-, rfl⟩ := List.cons.inj hx
        exact .inr ⟨c, t, ds, rfl, hc, hu, hds, rfl⟩
    · intro h
      rcases h with ⟨h, -⟩ | ⟨d, u, ds, hs, -, hu, hds, rfl⟩
      · simp [h c rfl] at hc
      · obtain ⟨hcd, rfl⟩ := List.cons.inj hs
        obtain rfl := Symbol.plain.inj hcd
        refine ⟨_, _, ⟨rfl, rfl⟩, ?_⟩
        simp only [hc, if_true]
        exact bind_ok.mpr ⟨_, t, next_ok.mpr (.inr ⟨_, rfl, rfl, hu⟩),
          bind_ok.mpr ⟨ds, rest, hds, rfl⟩⟩
  · have hhead : ∀ c, s.head? = some (.plain c) → p c = false := by
      intro c hc
      obtain ⟨t, rfl⟩ := List.head?_eq_some_iff.mp hc
      exact Bool.eq_false_iff.mpr fun h => hs ⟨c, t, rfl, h⟩
    have hstop : takeUpTo p (n + 1) s = .ok ([], s) := by
      rcases s with - | ⟨c | d | -, t⟩
      · rfl
      · simp only [takeUpTo, bind, StateT.bind, Except.bind, peek, List.head?_cons, hhead c rfl]
        rfl
      · rfl
      · rfl
    rw [hstop]
    constructor
    · intro h
      obtain ⟨rfl, rfl⟩ := Prod.mk.inj (Except.ok.inj h)
      exact .inl ⟨hhead, rfl, rfl⟩
    · intro h
      rcases h with ⟨-, rfl, rfl⟩ | ⟨c, t, ds, h, hc, -⟩
      · rfl
      · exact absurd ⟨c, t, h, hc⟩ hs

theorem takeUpTo_leaves {p : Code → Bool} {n : Nat} {s rest : Source} {cs : List Code}
    (h : takeUpTo p n s = .ok (cs, rest)) : Leaves s rest := by
  induction n generalizing s cs with
  | zero =>
    rw [(pure_ok.mp h).2]
    exact .refl _
  | succ n ih =>
    rcases takeUpTo_ok.mp h with ⟨-, -, rfl⟩ | ⟨c, t, ds, rfl, -, ht, hds, -⟩
    · exact .refl _
    · exact (Leaves.cons ht).trans (ih hds)

theorem takeUpTo_closing {p : Code → Bool} (hp : p 41 = false) (n : Nat) {tail : Source}
    (ht : tail.Closing) : takeUpTo p n tail = .ok ([], tail) := by
  cases n with
  | zero => rfl
  | succ n =>
    refine takeUpTo_ok.mpr (.inl ⟨fun c hc => ?_, rfl, rfl⟩)
    rw [Symbol.plain.inj (ht _ hc)]
    exact hp

/-- The bound on the number of characters can be larger if it was not what stopped the run. -/
theorem takeUpTo_append {p : Code → Bool} (hp : p 41 = false) {n m : Nat} {s rest : Source}
    {cs : List Code} (h : takeUpTo p n s = .ok (cs, rest)) (hm : m = n ∨ (s.length ≤ n ∧ s.length ≤ m))
    {tail : Source} (ht : tail.Closing) : takeUpTo p m (s ++ tail) = .ok (cs, rest ++ tail) := by
  induction n generalizing m s cs with
  | zero =>
    obtain ⟨rfl, rfl⟩ := pure_ok.mp h
    rcases hm with rfl | ⟨hs, -⟩
    · rfl
    · rw [List.length_eq_zero_iff.mp (Nat.le_zero.mp hs)]
      exact takeUpTo_closing hp m ht
  | succ n ih =>
    rcases takeUpTo_ok.mp h with ⟨hstop, rfl, rfl⟩ | ⟨c, t, ds, rfl, hc, halone, hds, rfl⟩
    · cases rest with
      | nil => exact takeUpTo_closing hp m ht
      | cons x rest =>
        cases m with
        | zero => simp at hm
        | succ m => exact takeUpTo_ok.mpr (.inl ⟨hstop, rfl, rfl⟩)
    · cases m with
      | zero => simp at hm
      | succ m =>
        refine takeUpTo_ok.mpr (.inr ⟨c, t ++ tail, ds, rfl, hc, ht.append_ne_alone halone, ?_, rfl⟩)
        exact ih hds (by simpa using hm)

theorem takeUpTo_extends {p : Code → Bool} (hp : p 41 = false) (n : Nat) :
    Extends (takeUpTo p n) (takeUpTo p n) where
  leaves := takeUpTo_leaves
  extends' h _ ht := takeUpTo_append hp h (.inl rfl) ht

theorem takeAll_extends {p : Code → Bool} (hp : p 41 = false) : Extends (takeAll p) (takeAll p) where
  leaves h := takeUpTo_leaves h
  extends' h _ ht := takeUpTo_append hp h (.inr ⟨le_refl _, by simp⟩) ht

/-- Loops that take symbols can have more fuel than they need. -/
theorem nameLoop_extends (terminator : Char) (what : String) (fuel more : Nat) (name : List Code) :
    Extends (nameLoop terminator what fuel name) (nameLoop terminator what (fuel + more) name) := by
  induction fuel generalizing name with
  | zero => exact .fail (fail_error _)
  | succ fuel ih =>
    rw [Nat.succ_add]
    refine .next ?_ fun x => ?_
    · intro s
      dsimp only
      split
      · exact ⟨_, rfl⟩
      · exact ⟨_, rfl⟩
    · dsimp only
      split_ifs
      · exact .fail (failBack_error _ _)
      · exact .pure _
      · exact ih _

/-- A loop whose fuel is the number of symbols and one more. -/
theorem fuelled_extends (loop loop' : Nat → Reader α)
    (h : ∀ fuel more, Extends (loop fuel) (loop' (fuel + more))) :
    Extends (fun s => loop (s.length + 1) s) (fun s => loop' (s.length + 1) s) where
  leaves hs := (h _ 0).leaves hs
  extends' {s} _ _ hs tail ht := by
    have hlen : (s ++ tail).length + 1 = s.length + 1 + tail.length := by simp; omega
    rw [hlen]
    exact (h _ _).extends' hs tail ht

theorem name_extends (terminator : Char) (what : String) :
    Extends (name terminator what) (name terminator what) :=
  fuelled_extends (nameLoop terminator what · []) (nameLoop terminator what · []) fun fuel more =>
    nameLoop_extends terminator what fuel more []

theorem groupName_extends (terminator : Char) : Extends (groupName terminator) (groupName terminator) := by
  refine (name_extends _ _).bind fun name => ?_
  split_ifs
  · exact .pure _
  · exact .fail (failBack_error _ _)

theorem not_hexDigit : isHexDigit 41 = false := rfl

theorem not_octalDigit : isOctalDigit 41 = false := rfl

theorem not_digit : isAsciiDigit 41 = false := rfl

theorem hexEscape_extends (letter : Code) (count : Nat) :
    Extends (hexEscape letter count) (hexEscape letter count) := by
  refine (takeUpTo_extends not_hexDigit count).bind fun digits => ?_
  dsimp only
  split_ifs
  · exact .fail (failBack_error _ _)
  · exact .fail fun _ => ⟨_, rfl⟩
  · exact .fail (failBack_error _ _)
  · exact .pure _

theorem namedEscape_extends : Extends namedEscape namedEscape := by
  refine (accept_extends (by decide)).bind fun found => ?_
  cases found with
  | false => exact .fail (fail_error _)
  | true =>
    refine (name_extends _ _).bind fun name => ?_
    split
    · exact .pure _
    · exact .fail (failBack_error _ _)

theorem octalByte_extends (digits : List Code) : Extends (octalByte digits) (octalByte digits) := by
  unfold octalByte
  dsimp only
  split_ifs
  · exact .fail (failBack_error _ _)
  · exact .pure _

theorem plainEscape_extends (c : Code) : Extends (plainEscape c) (plainEscape c) := by
  unfold plainEscape
  split_ifs
  · exact .fail (failBack_error _ _)
  · exact .pure _

theorem commonEscape_extends {c : Code} {reader : Reader Escape} (h : commonEscape? c = some reader) :
    Extends reader reader := by
  unfold commonEscape? at h
  split_ifs at h <;> obtain rfl := Option.some.inj h
  · exact hexEscape_extends c 2
  · exact hexEscape_extends c 4
  · exact hexEscape_extends c 8
  · exact namedEscape_extends

theorem setEscape_extends (c : Code) : Extends (setEscape c) (setEscape c) := by
  unfold setEscape
  split
  · exact .pure _
  · split
    · exact .pure _
    · split
      · next common hcommon => exact commonEscape_extends hcommon
      · split_ifs
        · exact (takeUpTo_extends not_octalDigit 2).bind fun digits => octalByte_extends _
        · exact plainEscape_extends c

theorem digitEscape_extends (c : Code) : Extends (digitEscape c) (digitEscape c) := by
  refine (takeUpTo_extends not_digit 1).bind fun digits => ?_
  split
  · split_ifs
    · refine (takeUpTo_extends not_octalDigit 1).bind fun more => ?_
      split
      · exact octalByte_extends _
      · exact .pure _
    · exact .pure _
  · exact .pure _

theorem escape_extends (c : Code) : Extends (escape c) (escape c) := by
  unfold escape
  split
  · exact .pure _
  · split
    · exact .pure _
    · split
      · exact .pure _
      · split
        · next common hcommon => exact commonEscape_extends hcommon
        · split_ifs
          · exact (takeUpTo_extends not_octalDigit 2).bind fun digits => .pure _
          · exact digitEscape_extends c
          · exact plainEscape_extends c

theorem setMember_extends (s : Symbol) : Extends (setMember s) (setMember s) := by
  cases s with
  | escaped c => exact setEscape_extends c
  | plain c => exact .pure _
  | loneBackslash => exact .pure _

theorem range_extends (first last : Symbol) (a b : Escape) :
    Extends (range first last a b) (range first last a b) := by
  unfold range
  split
  · split_ifs
    · exact .fail (failBack_error _ _)
    · exact .pure _
  · exact .fail (failBack_error _ _)

theorem setItems_extends (opened opened' fuel more : Nat) (items : List SetItem) :
    Extends (setItems opened fuel items) (setItems opened' (fuel + more) items) := by
  induction fuel generalizing items with
  | zero => exact .fail (failAt_error _ _)
  | succ fuel ih =>
    rw [Nat.succ_add]
    refine .next (failAt_error _ _) fun s => ?_
    dsimp only
    split_ifs
    · exact .pure _
    · refine (setMember_extends s).bind fun first => (accept_extends (by decide)).bind fun dash => ?_
      cases dash with
      | false => exact ih _
      | true =>
        refine .next (failAt_error _ _) fun t => ?_
        dsimp only
        split_ifs
        · exact .pure _
        · exact (setMember_extends t).bind fun last => (range_extends s t first last).bind fun _ => ih _

theorem set_extends (opened opened' : Nat) : Extends (set opened) (set opened') := by
  refine (accept_extends (by decide)).bind fun negated => Extends.bind ?_ fun items => .pure _
  exact fuelled_extends (setItems opened · []) (setItems opened' · []) fun fuel more =>
    setItems_extends opened opened' fuel more []

theorem flagSymbol_extends (closing : List Code) (missing : Fault) :
    Extends (flagSymbol closing missing) (flagSymbol closing missing) := by
  refine .next (fail_error _) fun s => ?_
  dsimp only
  split_ifs
  · exact .pure _
  · exact .fail (failBack_error _ _)
  · exact .fail (failBack_error _ _)

theorem flagsOn_extends (fuel more : Nat) (on : Flags) (s : Symbol) :
    Extends (flagsOn fuel on s) (flagsOn (fuel + more) on s) := by
  induction fuel generalizing on s with
  | zero => exact .fail (fail_error _)
  | succ fuel ih =>
    rw [Nat.succ_add]
    cases s with
    | plain c =>
      simp only [flagsOn]
      split_ifs
      · exact .fail (fail_error _)
      · split
        · exact .pure _
        · split_ifs
          · exact .fail (fail_error _)
          · refine (flagSymbol_extends _ _).bind fun t => ?_
            split_ifs
            · exact ih _ t
            · exact .pure _
    | escaped c => exact .pure _
    | loneBackslash => exact .pure _

theorem flagsOff_extends (fuel more : Nat) (off : Flags) (s : Symbol) :
    Extends (flagsOff fuel off s) (flagsOff (fuel + more) off s) := by
  induction fuel generalizing off s with
  | zero => exact .fail (fail_error _)
  | succ fuel ih =>
    rw [Nat.succ_add]
    cases s with
    | plain c =>
      simp only [flagsOff]
      split
      · exact .pure _
      · split_ifs
        · exact .fail (fail_error _)
        · refine (flagSymbol_extends _ _).bind fun t => ?_
          split_ifs
          · exact ih _ t
          · exact .pure _
    | escaped c => exact .pure _
    | loneBackslash => exact .pure _

/-- The number of symbols ahead bounds a loop. -/
theorem Extends.fuel {f f' : Nat → Reader β} (h : ∀ fuel more, Extends (f fuel) (f' (fuel + more))) :
    Extends ((fun s => Except.ok (s.length + 1, s)) >>= f) ((fun s => Except.ok (s.length + 1, s)) >>= f') :=
  fuelled_extends f f' h

/-- Two ways to come to a value that is used in the same way. -/
theorem Extends.branch {c : Prop} [Decidable c] {m m' n n' : Reader α} {f f' : α → Reader β}
    (hm : Extends m m') (hn : Extends n n') (hf : ∀ a, Extends (f a) (f' a)) :
    Extends (if c then m >>= f else n >>= f) (if c then m' >>= f' else n' >>= f') := by
  split_ifs
  · exact hm.bind hf
  · exact hn.bind hf

theorem flags_extends (first : Symbol) : Extends (flags first) (flags first) := by
  refine .fuel fun fuel more => ?_
  refine .branch (.pure _) (flagsOn_extends fuel more _ first) fun result => ?_
  dsimp only
  split_ifs with _ _ hoff
  · exact .pure _
  · exact .fail (failBack_error _ _)
  · refine (flagSymbol_extends _ _).bind fun s => (flagsOff_extends fuel more _ s).bind fun off => ?_
    split_ifs
    · exact .fail (failBack_error _ _)
    · exact .fail (failBack_error _ _)
    · exact .pure _
  · refine Extends.bind (.pure _) fun off => ?_
    split_ifs
    · exact .fail (failBack_error _ _)
    · exact .fail (failBack_error _ _)
    · exact .pure _

theorem comment_succ (opened fuel : Nat) :
    comment opened (fuel + 1) = (next >>= fun
      | none => failAt opened .unterminatedComment
      | some s => if s = .plain 41 then pure () else comment opened fuel) := by
  funext s
  cases s with
  | nil => rfl
  | cons x s =>
    simp only [comment, bind, StateT.bind, Except.bind, peek, next, List.head?_cons]
    by_cases halone : s = [.loneBackslash]
    · simp only [halone, if_true]
    · by_cases hclose : x = .plain 41
      · simp only [halone, hclose, if_true, if_false]
      · simp only [halone, hclose, if_false]

theorem comment_extends (opened opened' fuel more : Nat) :
    Extends (comment opened fuel) (comment opened' (fuel + more)) := by
  induction fuel with
  | zero => exact .fail (failAt_error _ _)
  | succ fuel ih =>
    rw [Nat.succ_add, comment_succ, comment_succ]
    refine .next (failAt_error _ _) fun s => ?_
    dsimp only
    split_ifs
    · exact .pure _
    · exact ih

theorem required_extends : Extends required required :=
  .next (fail_error _) fun s => .pure s

theorem count_extends (digits : List Code) : Extends (count digits) (count digits) := by
  unfold count
  split_ifs
  · exact .fail fun _ => ⟨_, rfl⟩
  · exact .pure _

theorem greed_extends : Extends greed greed := by
  refine (accept_extends (by decide)).bind fun lazily => ?_
  split_ifs
  · exact .pure _
  · refine (accept_extends (by decide)).bind fun possessively => ?_
    split_ifs
    · exact .pure _
    · exact .pure _

theorem peek_closing {s : Source} {c : Code} (hc : c ≠ 41) {tail : Source} (ht : tail.Closing) :
    (s ++ tail).head? = some (.plain c) ↔ s.head? = some (.plain c) := by
  cases s with
  | nil =>
    rcases ht.cases with rfl | ⟨rest, rfl⟩
    · simp
    · simpa using hc.symm
  | cons x s => simp

/-- To look whether a character is next, other than a closing parenthesis. -/
theorem Extends.peek {c : Code} (hc : c ≠ 41) {m m' n n' : Reader β} (hm : Extends m m')
    (hn : Extends n n') :
    Extends (Reader.peek >>= fun o => if o = some (.plain c) then m else n)
      (Reader.peek >>= fun o => if o = some (.plain c) then m' else n') where
  leaves h := by
    obtain ⟨o, t, ho, h⟩ := bind_ok.mp h
    obtain ⟨rfl, rfl⟩ := Prod.mk.inj (Except.ok.inj ho)
    split_ifs at h
    · exact hm.leaves h
    · exact hn.leaves h
  extends' h tail ht := by
    obtain ⟨o, t, ho, h⟩ := bind_ok.mp h
    obtain ⟨rfl, rfl⟩ := Prod.mk.inj (Except.ok.inj ho)
    refine bind_ok.mpr ⟨_, _, rfl, ?_⟩
    simp only [peek_closing hc ht]
    split_ifs at h ⊢
    · exact hm.extends' h tail ht
    · exact hn.extends' h tail ht

theorem bracedCounts_extends (here here' : Nat) : Extends (bracedCounts here) (bracedCounts here') := by
  refine .peek (by decide) (.pure _) ?_
  refine (takeAll_extends not_digit).bind fun lo => (accept_extends (by decide)).bind fun comma => ?_
  refine .branch (takeAll_extends not_digit) (.pure _) fun hi => ?_
  refine (accept_extends (by decide)).bind fun closed => ?_
  cases closed with
  | false => exact .pure _
  | true =>
    dsimp only
    rw [if_pos rfl, if_pos rfl]
    refine .branch (.pure _) (count_extends lo) fun least => ?_
    split_ifs with hhi
    · exact .pure _
    · refine (count_extends hi).bind fun most => ?_
      split_ifs
      · exact .fail (failAt_error _ _)
      · exact .pure _

theorem counts_ok {s rest : Source} {o : Option (Nat × Option Nat)} :
    counts s = .ok (o, rest) ↔
      (∃ t, bracedCounts s.size s = .ok (none, t) ∧ o = none ∧ rest = s) ∨
        ∃ pair, bracedCounts s.size s = .ok (some pair, rest) ∧ o = some pair := by
  simp only [counts, bind, Except.bind]
  rcases bracedCounts s.size s with stop | ⟨_ | ⟨least, most⟩, t⟩
  · simp
  · simp [pure, Except.pure, eq_comm]
  · simp [pure, Except.pure, eq_comm, and_comm]

theorem counts_extends : Extends counts counts where
  leaves h := by
    rcases counts_ok.mp h with ⟨t, -, -, rfl⟩ | ⟨pair, hpair, -⟩
    · exact .refl _
    · exact (bracedCounts_extends _ 0).leaves hpair
  extends' {s rest} _ h tail ht := by
    rcases counts_ok.mp h with ⟨t, hnone, rfl, rfl⟩ | ⟨pair, hpair, rfl⟩
    · exact counts_ok.mpr (.inl ⟨_, (bracedCounts_extends _ _).extends' hnone tail ht, rfl, rfl⟩)
    · exact counts_ok.mpr (.inr ⟨pair, (bracedCounts_extends _ _).extends' hpair tail ht, rfl⟩)

end Reader

end TemplateSwap.Pattern
