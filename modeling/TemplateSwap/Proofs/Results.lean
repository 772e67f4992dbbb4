import Mathlib.Data.List.Forall2
import Mathlib.Data.List.Nodup
import Mathlib.Data.List.Perm.Basic

namespace TemplateSwap.Results

variable {α β ε ε' : Type}

theorem bind_ok {x : Except ε α} {f : α → Except ε β} {b : β} :
    (x >>= f) = .ok b ↔ ∃ a, x = .ok a ∧ f a = .ok b := by
  cases x with
  | error e => simp [bind, Except.bind]
  | ok a => simp [bind, Except.bind]

theorem map_ok {x : Except ε α} {f : α → β} {b : β} : x.map f = .ok b ↔ ∃ a, x = .ok a ∧ f a = b := by
  cases x <;> simp [Except.map]

theorem pure_ok {a b : α} : (pure a : Except ε α) = .ok b ↔ a = b := by
  simp [pure, Except.pure]

theorem mapError_ok {x : Except ε α} {f : ε → ε'} {a : α} : x.mapError f = .ok a ↔ x = .ok a := by
  cases x <;> simp [Except.mapError]

theorem mapError_error {x : Except ε α} {f : ε → ε'} {e : ε'} :
    x.mapError f = .error e ↔ ∃ cause, x = .error cause ∧ f cause = e := by
  cases x <;> simp [Except.mapError]

theorem bind_error {x : Except ε α} {f : α → Except ε β} {e : ε} :
    (x >>= f) = .error e ↔ x = .error e ∨ ∃ a, x = .ok a ∧ f a = .error e := by
  cases x with
  | error e' => simp [bind, Except.bind]
  | ok a => simp [bind, Except.bind]

theorem exists_ok {x : Except ε α} {check : α → Bool} (h : x.toOption.any check = true) :
    ∃ a, x = .ok a ∧ check a = true := by
  cases x with
  | error e => cases h
  | ok a => exact ⟨a, rfl, h⟩

theorem mapM_ok {f : α → Except ε β} {xs : List α} {ys : List β} :
    xs.mapM f = .ok ys ↔ List.Forall₂ (fun x y => f x = .ok y) xs ys := by
  induction xs generalizing ys with
  | nil =>
    rw [List.mapM_nil, pure_ok, List.forall₂_nil_left_iff, eq_comm]
  | cons x xs ih =>
    rw [List.mapM_cons, List.forall₂_cons_left_iff, bind_ok]
    constructor
    · intro h
      obtain ⟨y, hy, hrest⟩ := h
      obtain ⟨ys', hys, hpure⟩ := bind_ok.mp hrest
      exact ⟨y, ys', hy, ih.mp hys, (pure_ok.mp hpure).symm⟩
    · intro h
      obtain ⟨y, ys', hy, hys, rfl⟩ := h
      exact ⟨y, hy, bind_ok.mpr ⟨ys', ih.mpr hys, rfl⟩⟩

theorem exists_mapM_ok {f : α → Except ε β} {xs : List α} :
    (∃ ys, xs.mapM f = .ok ys) ↔ ∀ x ∈ xs, ∃ y, f x = .ok y := by
  simp only [mapM_ok]
  induction xs with
  | nil => simp
  | cons x xs ih =>
    rw [List.forall_mem_cons, ← ih]
    constructor
    · intro h
      obtain ⟨ys, hall⟩ := h
      obtain ⟨y, ys, hy, hrest, rfl⟩ := List.forall₂_cons_left_iff.mp hall
      exact ⟨⟨y, hy⟩, ys, hrest⟩
    · intro h
      obtain ⟨⟨y, hy⟩, ys, hrest⟩ := h
      exact ⟨y :: ys, .cons hy hrest⟩

/-- A traversal fails at the first item that does. -/
theorem mapM_error {f : α → Except ε β} {xs : List α} {e : ε} :
    xs.mapM f = .error e ↔
      ∃ done x later, xs = done ++ x :: later ∧ (∃ ys, done.mapM f = .ok ys) ∧ f x = .error e := by
  constructor
  · intro h
    induction xs with
    | nil => cases h
    | cons x xs ih =>
      rw [List.mapM_cons] at h
      rcases bind_error.mp h with hx | ⟨y, hy, h⟩
      · exact ⟨[], x, xs, rfl, ⟨[], rfl⟩, hx⟩
      · rcases bind_error.mp h with hxs | ⟨ys, -, h⟩
        · obtain ⟨done, z, later, rfl, ⟨ys, hdone⟩, hz⟩ := ih hxs
          exact ⟨x :: done, z, later, rfl, ⟨y :: ys, mapM_ok.mpr (.cons hy (mapM_ok.mp hdone))⟩, hz⟩
        · cases h
  · intro h
    obtain ⟨done, x, later, rfl, ⟨ys, hdone⟩, hx⟩ := h
    rw [List.mapM_append, List.mapM_cons, hdone, hx]
    rfl

theorem forM_ok {f : α → Except ε Unit} {xs : List α} : xs.forM f = .ok () ↔ ∀ x ∈ xs, f x = .ok () := by
  induction xs with
  | nil => simp [pure, Except.pure]
  | cons x xs ih =>
    have hstep : (x :: xs).forM f = (f x >>= fun _ => xs.forM f) := rfl
    rw [hstep, List.forall_mem_cons, bind_ok, ih, exists_and_right]
    exact and_congr_left' ⟨fun h => h.choose_spec, fun h => ⟨(), h⟩⟩

theorem exists_forM_error {f : α → Except ε Unit} {xs : List α} {e : ε} (h : xs.forM f = .error e) :
    ∃ x ∈ xs, f x = .error e := by
  induction xs with
  | nil => cases h
  | cons x xs ih =>
    have hstep : (x :: xs).forM f = (f x >>= fun _ => xs.forM f) := rfl
    rw [hstep] at h
    rcases bind_error.mp h with h | ⟨_, -, h⟩
    · exact ⟨x, List.mem_cons_self, h⟩
    · obtain ⟨y, hy, hfails⟩ := ih h
      exact ⟨y, List.mem_cons_of_mem x hy, hfails⟩

/-- Results without a failure are those of success. -/
theorem map_ok_filterMap {xs : List (Except ε α)} (h : ∀ e, .error e ∉ xs) :
    (xs.filterMap Except.toOption).map .ok = xs := by
  induction xs with
  | nil => rfl
  | cons x xs ih =>
    have hrest := ih fun e he => h e (List.mem_cons_of_mem _ he)
    cases x with
    | error e => exact absurd List.mem_cons_self (h e)
    | ok a => exact congrArg (.ok a :: ·) hrest

theorem forall₂_right {R : α → β → Prop} {xs : List α} {ys : List β} (h : List.Forall₂ R xs ys) {y : β}
    (hy : y ∈ ys) : ∃ x ∈ xs, R x y := by
  induction h with
  | nil => simp at hy
  | cons hxy _ ih =>
    rcases List.mem_cons.mp hy with rfl | hy
    · exact ⟨_, List.mem_cons_self, hxy⟩
    · obtain ⟨x, hx, hR⟩ := ih hy
      exact ⟨x, List.mem_cons_of_mem _ hx, hR⟩

/-- What each pair of items gives, taken together. -/
theorem forall₂_choose {γ : Type} {R : β → γ → Prop} {S : α → γ → Prop} {xs : List α} {ys : List β}
    (h : List.Forall₂ (fun x y => ∃ z, R y z ∧ S x z) xs ys) :
    ∃ zs, List.Forall₂ R ys zs ∧ List.Forall₂ S xs zs := by
  induction h with
  | nil => exact ⟨[], .nil, .nil⟩
  | cons hxy _ ih =>
    obtain ⟨z, hR, hS⟩ := hxy
    obtain ⟨zs, hRs, hSs⟩ := ih
    exact ⟨z :: zs, .cons hR hRs, .cons hS hSs⟩

theorem mem_of_lookup {entries : List (String × α)} {name : String} {value : α}
    (h : entries.lookup name = some value) : (name, value) ∈ entries := by
  obtain ⟨before, after, heq, -⟩ := List.lookup_eq_some_iff.mp h
  rw [heq]
  exact List.mem_append_right _ List.mem_cons_self

theorem exists_lookup {entries : List (String × α)} {name : String} (h : name ∈ entries.map (·.1)) :
    ∃ value, entries.lookup name = some value := by
  obtain ⟨⟨n, value⟩, hmem, rfl⟩ := List.mem_map.mp h
  cases hlookup : entries.lookup n with
  | some value => exact ⟨value, rfl⟩
  | none =>
    have hne := List.lookup_eq_none_iff.mp hlookup _ hmem
    simp at hne

theorem lookup_of_mem {entries : List (String × α)} {name : String} {value : α}
    (hdistinct : (entries.map (·.1)).Nodup) (h : (name, value) ∈ entries) :
    entries.lookup name = some value := by
  obtain ⟨found, hfound⟩ := exists_lookup (List.mem_map_of_mem (f := (·.1)) h)
  have hsame := List.inj_on_of_nodup_map hdistinct (mem_of_lookup hfound) h rfl
  rw [hfound, (Prod.mk.inj hsame).2]

theorem mapM_perm {f : α → Except ε β} {xs xs' : List α} {ys : List β} (h : xs.Perm xs') (hys : xs.mapM f = .ok ys) :
    ∃ ys', xs'.mapM f = .ok ys' ∧ ys.Perm ys' := by
  obtain ⟨ys', hys', hperm⟩ := List.perm_comp_forall₂ h.symm (mapM_ok.mp hys)
  exact ⟨ys', mapM_ok.mpr hys', hperm.symm⟩

theorem lookup_perm {entries entries' : List (String × α)} (h : entries.Perm entries')
    (hdistinct : (entries.map (·.1)).Nodup) (name : String) : entries'.lookup name = entries.lookup name := by
  have hdistinct' := (h.map (·.1)).nodup hdistinct
  refine Option.ext fun value => ⟨fun hvalue => ?_, fun hvalue => ?_⟩
  · exact lookup_of_mem hdistinct (h.mem_iff.mpr (mem_of_lookup hvalue))
  · exact lookup_of_mem hdistinct' (h.mem_iff.mp (mem_of_lookup hvalue))

/-- Both computations succeed, with related results, or both fail. -/
inductive Together (R : α → β → Prop) : Except ε α → Except ε' β → Prop
  | ok {a : α} {b : β} (h : R a b) : Together R (.ok a) (.ok b)
  | error (e : ε) (e' : ε') : Together R (.error e) (.error e')

namespace Together

variable {γ δ : Type} {R : α → β → Prop} {x : Except ε α} {y : Except ε' β}

theorem of_ok (h : ∀ a, x = .ok a → ∃ b, y = .ok b ∧ R a b) (hback : ∀ b, y = .ok b → ∃ a, x = .ok a) :
    Together R x y := by
  cases x with
  | ok a =>
    obtain ⟨b, rfl, hR⟩ := h a rfl
    exact .ok hR
  | error e =>
    cases y with
    | error e' => exact .error e e'
    | ok b =>
      obtain ⟨a, ha⟩ := hback b rfl
      cases ha

theorem exists_ok (h : Together R x y) {a : α} (ha : x = .ok a) : ∃ b, y = .ok b ∧ R a b := by
  cases h with
  | ok hR => exact ⟨_, rfl, Except.ok.inj ha ▸ hR⟩
  | error e e' => cases ha

/-- The same results are the results of both. -/
theorem eq_ok {y : Except ε' α} (h : Together (fun a b => b = a) x y) {a : α} : y = .ok a ↔ x = .ok a := by
  cases h with
  | ok heq => rw [heq, Except.ok.injEq, Except.ok.injEq]
  | error e e' => simp

theorem imp (h : Together R x y) {S : α → β → Prop} (himp : ∀ a b, x = .ok a → R a b → S a b) :
    Together S x y := by
  cases h with
  | ok hR => exact .ok (himp _ _ rfl hR)
  | error e e' => exact .error e e'

theorem mapError {η η' : Type} (h : Together R x y) (f : ε → η) (f' : ε' → η') :
    Together R (x.mapError f) (y.mapError f') := by
  cases h with
  | ok hR => exact .ok hR
  | error e e' => exact .error (f e) (f' e')

theorem bind {S : γ → δ → Prop} {f : α → Except ε γ} {f' : β → Except ε' δ} (h : Together R x y)
    (hf : ∀ a b, R a b → Together S (f a) (f' b)) : Together S (x >>= f) (y >>= f') := by
  cases h with
  | ok hR => exact hf _ _ hR
  | error e e' => exact .error e e'

/-- Traversals of corresponding lists, when each item and its image do the same. -/
theorem mapM {f : α → Except ε γ} {f' : β → Except ε' δ} {image : α → β} {result : γ → δ} {xs : List α}
    (h : ∀ x ∈ xs, Together (fun c d => d = result c) (f x) (f' (image x))) :
    Together (fun cs ds => ds = cs.map result) (xs.mapM f) ((xs.map image).mapM f') := by
  induction xs with
  | nil => exact .ok rfl
  | cons x xs ih =>
    rw [List.forall_mem_cons] at h
    rw [List.map_cons, List.mapM_cons, List.mapM_cons]
    refine h.1.bind fun c d hd => (ih h.2).bind fun cs ds hds => .ok ?_
    rw [hd, hds, List.map_cons]

end Together

end TemplateSwap.Results
