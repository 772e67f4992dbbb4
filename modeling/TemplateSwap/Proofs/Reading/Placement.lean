import TemplateSwap.Proofs.Matching.Renumbering
import TemplateSwap.Pattern.Builder

namespace TemplateSwap.Pattern

open TemplateSwap.Text (Code)

/-- What the fragment's expression becomes after `d` groups, where the fragment has `n` groups. -/
structure Regex.Placed (exact : Prop) (d n : Nat) (r r' : Regex) : Prop where
  isAnchor : r'.isAnchor = r.isAnchor
  isLoop : r'.isLoop = r.isLoop
  groups : r'.Groups fun i => d < i ∧ i ≤ n + d
  exactly : exact → r' = r.shift d ∧ r.Numbered

namespace Regex

variable {exact : Prop} {d n : Nat}

theorem Placed.more {r r' : Regex} (h : r.Placed exact d n r') {n' : Nat} (hn : n ≤ n') :
    r.Placed exact d n' r' :=
  { h with groups := h.groups.imp fun _ hi => ⟨hi.1, by omega⟩ }

theorem Placed.width {r r' : Regex} (h : r.Placed exact d n r') (he : exact) : r'.width = r.width := by
  rw [(h.exactly he).1, width_shift]

theorem Placed.empty : Placed exact d n empty empty := ⟨rfl, rfl, trivial, fun _ => ⟨rfl, trivial⟩⟩

theorem Placed.single (test : Single) : Placed exact d n (single test) (single test) :=
  ⟨rfl, rfl, trivial, fun _ => ⟨rfl, trivial⟩⟩

theorem Placed.anchor (place : Anchor) : Placed exact d n (anchor place) (anchor place) :=
  ⟨rfl, rfl, trivial, fun _ => ⟨rfl, trivial⟩⟩

theorem Placed.cat {a a' b b' : Regex} (ha : a.Placed exact d n a') (hb : b.Placed exact d n b') :
    Placed exact d n (cat a b) (cat a' b') := by
  refine ⟨rfl, rfl, ⟨ha.groups, hb.groups⟩, fun he => ?_⟩
  obtain ⟨rfl, hna⟩ := ha.exactly he
  obtain ⟨rfl, hnb⟩ := hb.exactly he
  exact ⟨rfl, hna, hnb⟩

theorem Placed.choice {a a' b b' : Regex} (ha : a.Placed exact d n a') (hb : b.Placed exact d n b') :
    Placed exact d n (choice a b) (choice a' b') := by
  refine ⟨rfl, rfl, ⟨ha.groups, hb.groups⟩, fun he => ?_⟩
  obtain ⟨rfl, hna⟩ := ha.exactly he
  obtain ⟨rfl, hnb⟩ := hb.exactly he
  exact ⟨rfl, hna, hnb⟩

theorem Placed.loop (greed : Greed) (least : Nat) (most : Option Nat) {a a' : Regex}
    (ha : a.Placed exact d n a') :
    Placed exact d n (loop greed least most a) (loop greed least most a') := by
  refine ⟨rfl, rfl, ha.groups, fun he => ?_⟩
  obtain ⟨rfl, hna⟩ := ha.exactly he
  exact ⟨rfl, hna⟩

theorem Placed.group {index : Nat} (hi : 0 < index) (hn : index ≤ n) {a a' : Regex}
    (ha : a.Placed exact d n a') : Placed exact d n (group index a) (group (index + d) a') := by
  refine ⟨rfl, rfl, ⟨⟨by omega, by omega⟩, ha.groups⟩, fun he => ?_⟩
  obtain ⟨rfl, hna⟩ := ha.exactly he
  exact ⟨rfl, hi, hna⟩

theorem Placed.scope (on off : Flags) {a a' : Regex} (ha : a.Placed exact d n a') :
    Placed exact d n (scope on off a) (scope on off a') := by
  refine ⟨rfl, rfl, ha.groups, fun he => ?_⟩
  obtain ⟨rfl, hna⟩ := ha.exactly he
  exact ⟨rfl, hna⟩

theorem Placed.atomic {a a' : Regex} (ha : a.Placed exact d n a') :
    Placed exact d n (atomic a) (atomic a') := by
  refine ⟨rfl, rfl, ha.groups, fun he => ?_⟩
  obtain ⟨rfl, hna⟩ := ha.exactly he
  exact ⟨rfl, hna⟩

theorem Placed.ahead (negated : Bool) {a a' : Regex} (ha : a.Placed exact d n a') :
    Placed exact d n (ahead negated a) (ahead negated a') := by
  refine ⟨rfl, rfl, ha.groups, fun he => ?_⟩
  obtain ⟨rfl, hna⟩ := ha.exactly he
  exact ⟨rfl, hna⟩

theorem Placed.behind (negated : Bool) {a a' : Regex} (ha : a.Placed exact d n a') :
    Placed exact d n (behind negated a) (behind negated a') := by
  refine ⟨rfl, rfl, ha.groups, fun he => ?_⟩
  obtain ⟨rfl, hna⟩ := ha.exactly he
  exact ⟨rfl, hna⟩

theorem Placed.backref {i i' : Nat} {w w' : Width} (h : exact → (0 < i ∧ i' = i + d) ∧ w' = w) :
    Placed exact d n (backref i w) (backref i' w') := by
  refine ⟨rfl, rfl, trivial, fun he => ?_⟩
  obtain ⟨⟨hi, rfl⟩, rfl⟩ := h he
  exact ⟨rfl, hi⟩

theorem Placed.whether {i i' : Nat} (hi : exact → 0 < i ∧ i' = i + d) {a a' b b' : Regex}
    (ha : a.Placed exact d n a') (hb : b.Placed exact d n b') :
    Placed exact d n (whether i a b) (whether i' a' b') := by
  refine ⟨rfl, rfl, ⟨ha.groups, hb.groups⟩, fun he => ?_⟩
  obtain ⟨rfl, hna⟩ := ha.exactly he
  obtain ⟨rfl, hnb⟩ := hb.exactly he
  obtain ⟨hpos, rfl⟩ := hi he
  exact ⟨rfl, hpos, hna, hnb⟩

theorem Placed.ofItems {rs rs' : List Regex} (h : List.Forall₂ (Placed exact d n) rs rs') :
    Placed exact d n (ofItems rs) (ofItems rs') := by
  induction h with
  | nil => exact .empty
  | cons hr _ ih => exact .cat hr ih

theorem Placed.ofBranches {r r' : Regex} (hr : r.Placed exact d n r') {rs rs' : List Regex}
    (h : List.Forall₂ (Placed exact d n) rs rs') :
    Placed exact d n (ofBranches r rs) (ofBranches r' rs') := by
  induction h generalizing r r' with
  | nil => exact hr
  | cons hs _ ih => exact .choice hr (ih hs)

end Regex

structure Level.Placed (exact : Prop) (d n : Nat) (l l' : Level) : Prop where
  branches : List.Forall₂ (Regex.Placed exact d n) l.branches l'.branches
  items : List.Forall₂ (Regex.Placed exact d n) l.items l'.items
  verbose : l'.verbose = l.verbose

namespace Level.Placed

variable {exact : Prop} {d n : Nat} {l l' : Level}

theorem start (verbose : Bool) : Level.Placed exact d n { verbose } { verbose } := ⟨.nil, .nil, rfl⟩

theorem more (h : l.Placed exact d n l') {n' : Nat} (hn : n ≤ n') : l.Placed exact d n' l' :=
  ⟨h.branches.imp fun _ _ hr => hr.more hn, h.items.imp fun _ _ hr => hr.more hn, h.verbose⟩

theorem add (h : l.Placed exact d n l') {r r' : Regex} (hr : r.Placed exact d n r') :
    (l.add r).Placed exact d n (l'.add r') :=
  ⟨h.branches, .cons hr h.items, h.verbose⟩

theorem branch (h : l.Placed exact d n l') : l.branch.Placed exact d n l'.branch :=
  .ofItems (List.forall₂_reverse_iff.mpr h.items)

theorem startBranch (h : l.Placed exact d n l') : l.startBranch.Placed exact d n l'.startBranch :=
  ⟨.cons h.branch h.branches, .nil, h.verbose⟩

theorem regex (h : l.Placed exact d n l') : l.regex.Placed exact d n l'.regex := by
  have hall : List.Forall₂ (Regex.Placed exact d n) (l.branch :: l.branches).reverse
      (l'.branch :: l'.branches).reverse :=
    List.forall₂_reverse_iff.mpr (.cons h.branch h.branches)
  unfold Level.regex
  generalize (l.branch :: l.branches).reverse = rs at hall ⊢
  generalize (l'.branch :: l'.branches).reverse = rs' at hall ⊢
  cases hall with
  | nil => exact .empty
  | cons hr hrs => exact .ofBranches hr hrs

end Level.Placed

inductive Opening.Placed (exact : Prop) (d n : Nat) : Opening → Opening → Prop
  | group {index : Nat} (hi : 0 < index) (hn : index ≤ n) :
    Placed exact d n (.group index) (.group (index + d))
  | scope (on off : Flags) : Placed exact d n (.scope on off) (.scope on off)
  | atomic : Placed exact d n .atomic .atomic
  | ahead (negated : Bool) : Placed exact d n (.ahead negated) (.ahead negated)
  | behind (negated : Bool) (outer : Option Nat) :
    Placed exact d n (.behind negated outer) (.behind negated (outer.map (· + d)))
  | whether {i i' : Nat} (h : exact → 0 < i ∧ i' = i + d) :
    Placed exact d n (.whether i none) (.whether i' none)
  | whetherYes {i i' : Nat} (h : exact → 0 < i ∧ i' = i + d) {yes yes' : Regex}
    (hyes : yes.Placed exact d n yes') :
    Placed exact d n (.whether i (some yes)) (.whether i' (some yes'))

theorem Opening.Placed.more {exact : Prop} {d n : Nat} {o o' : Opening} (h : o.Placed exact d n o')
    {n' : Nat} (hn : n ≤ n') : o.Placed exact d n' o' := by
  cases h with
  | group hi hle => exact .group hi (hle.trans hn)
  | scope on off => exact .scope on off
  | atomic => exact .atomic
  | ahead negated => exact .ahead negated
  | behind negated outer => exact .behind negated outer
  | whether hi => exact .whether hi
  | whetherYes hi hyes => exact .whetherYes hi (hyes.more hn)

structure Frame.Placed (exact : Prop) (d n : Nat) (f f' : Frame) : Prop where
  outer : f.outer.Placed exact d n f'.outer
  opening : f.opening.Placed exact d n f'.opening

theorem Frame.Placed.more {exact : Prop} {d n : Nat} {f f' : Frame} (h : f.Placed exact d n f')
    {n' : Nat} (hn : n ≤ n') : f.Placed exact d n' f' :=
  ⟨h.outer.more hn, h.opening.more hn⟩

structure GroupInfo.Placed (exact : Prop) (g g' : GroupInfo) : Prop where
  name : g'.name = g.name
  closed : g'.width.isSome = g.width.isSome
  width : exact → g'.width = g.width

/-- The limit for references that is in force again once a parenthesis is closed. -/
def Opening.behindOuter : Opening → Option Nat → Option Nat
  | .behind _ outer, _ => outer
  | _, inner => inner

theorem Opening.Placed.behindOuter {exact : Prop} {d n : Nat} {o o' : Opening}
    (h : o.Placed exact d n o') (limit : Option Nat) :
    o'.behindOuter (limit.map (· + d)) = (o.behindOuter limit).map (· + d) := by
  cases h <;> rfl

/-- The limit that will be in force again once all parentheses are closed. -/
def outermostLimit : Option Nat → List Frame → Option Nat
  | limit, [] => limit
  | limit, f :: frames => outermostLimit (f.opening.behindOuter limit) frames

/-- The surroundings of a fragment: the groups numbered before it, the open parentheses around it,
and what is kept for the whole pattern. -/
structure Context where
  groups : List GroupInfo := []
  frames : List Frame := []
  flags : Flags := {}
  conditions : List (Nat × Nat) := []

/-- The builder at the beginning of a fragment. -/
def Context.builder (c : Context) : Builder :=
  { frames := c.frames, flags := c.flags, groups := c.groups, conditions := c.conditions }

/-- A bar in the fragment starts a branch, as it does on its own. -/
def Context.Open (c : Context) : Prop := ∀ f ∈ c.frames.head?, ∀ i yes, f.opening ≠ .whether i yes

/-- The builder of a fragment on its own, and the one that builds it where it stands. -/
structure Builder.Placed (exact : Prop) (c : Context) (b b' : Builder) : Prop where
  level : b.level.Placed exact c.groups.length b.groups.length b'.level
  frames : ∃ own, b'.frames = own ++ c.frames ∧
    List.Forall₂ (Frame.Placed exact c.groups.length b.groups.length) b.frames own
  outermost : (b.level.verbose :: b.frames.map (·.outer.verbose)).getLast? = some false
  noFlags : b.flags = {}
  flags : b'.flags = c.flags
  groups : ∃ own, b'.groups = c.groups ++ own ∧ List.Forall₂ (GroupInfo.Placed exact) b.groups own
  fresh : ∀ g ∈ b.groups, ∀ name, g.name = some name → ∀ h ∈ c.groups, h.name ≠ some name
  lookbehind : b'.lookbehind = b.lookbehind.map (· + c.groups.length)
  unlimited : outermostLimit b.lookbehind b.frames = none
  conditions : exact → b'.conditions = c.conditions

theorem modify_length_append {α : Type} (f : α → α) (xs ys : List α) (i : Nat) :
    (xs ++ ys).modify (xs.length + i) f = xs ++ ys.modify i f := by
  induction xs with
  | nil => simp
  | cons x xs ih =>
    rw [List.length_cons, Nat.succ_add, List.cons_append, List.modify_succ_cons, ih, List.cons_append]

theorem forall₂_modify {α β : Type} {R : α → β → Prop} {f : α → α} {g : β → β} {xs : List α}
    {ys : List β} (h : List.Forall₂ R xs ys) (hfg : ∀ x y, R x y → R (f x) (g y)) (i : Nat) :
    List.Forall₂ R (xs.modify i f) (ys.modify i g) := by
  induction h generalizing i with
  | nil => simp
  | cons hxy hrest ih =>
    cases i with
    | zero => simpa using ⟨hfg _ _ hxy, hrest⟩
    | succ i => simpa using ⟨hxy, ih i⟩

theorem findIdx?_placed {exact : Prop} {gs gs' : List GroupInfo}
    (h : List.Forall₂ (GroupInfo.Placed exact) gs gs') (name : List Code) :
    gs'.findIdx? (·.name = some name) = gs.findIdx? (·.name = some name) := by
  induction h with
  | nil => rfl
  | cons hg _ ih => simp only [List.findIdx?_cons, hg.name, ih]

namespace Builder.Placed

variable {exact : Prop} {c : Context} {b b' : Builder}

theorem add (h : b.Placed exact c b') {r r' : Regex} (hr : r.Placed exact c.groups.length b.groups.length r') :
    (b.add r).Placed exact c (b'.add r') :=
  { h with level := h.level.add hr }

theorem startBranch (h : b.Placed exact c b') :
    Builder.Placed exact c { b with level := b.level.startBranch }
      { b' with level := b'.level.startBranch } :=
  { h with level := h.level.startBranch }

theorem push (h : b.Placed exact c b') {opening opening' : Opening}
    (ho : opening.Placed exact c.groups.length b.groups.length opening')
    (hlimit : opening.behindOuter b.lookbehind = b.lookbehind) (left left' : Nat) (verbose : Bool) :
    (b.push opening left verbose).Placed exact c (b'.push opening' left' verbose) := by
  obtain ⟨own, hown, hframes⟩ := h.frames
  exact { h with
    level := .start verbose
    frames := ⟨⟨b'.level, opening', left'⟩ :: own, congrArg _ hown, .cons ⟨h.level, ho⟩ hframes⟩
    outermost := by simpa [Builder.push, List.getLast?_cons_cons] using h.outermost
    unlimited := by simpa [Builder.push, outermostLimit, hlimit] using h.unlimited }

theorem groups_length (h : b.Placed exact c b') : b'.groups.length = b.groups.length + c.groups.length := by
  obtain ⟨own, hown, hgroups⟩ := h.groups
  rw [hown, List.length_append, hgroups.length_eq, Nat.add_comm]

theorem info? (h : b.Placed exact c b') {index : Nat} (hi : 0 < index) :
    Option.Rel (GroupInfo.Placed exact) (b.info? index) (b'.info? (index + c.groups.length)) := by
  obtain ⟨own, hown, hgroups⟩ := h.groups
  have hindex : index + c.groups.length - 1 = c.groups.length + (index - 1) := by omega
  rw [Builder.info?, Builder.info?, if_neg (by omega), if_neg (by omega), hown, hindex,
    List.getElem?_append_right (by omega), Nat.add_sub_cancel_left]
  by_cases hlt : index - 1 < b.groups.length
  · rw [List.getElem?_eq_getElem hlt, List.getElem?_eq_getElem (hgroups.length_eq ▸ hlt)]
    exact .some (hgroups.get hlt (hgroups.length_eq ▸ hlt))
  · rw [List.getElem?_eq_none (by omega), List.getElem?_eq_none (by rw [← hgroups.length_eq]; omega)]
    exact .none

theorem closedWidth? (h : b.Placed exact c b') {index : Nat} (hi : 0 < index) :
    (b'.closedWidth? (index + c.groups.length)).isSome = (b.closedWidth? index).isSome ∧
      (exact → b'.closedWidth? (index + c.groups.length) = b.closedWidth? index) := by
  unfold Builder.closedWidth?
  have hinfo := h.info? hi
  generalize b.info? index = o at hinfo ⊢
  generalize b'.info? (index + c.groups.length) = o' at hinfo ⊢
  cases hinfo with
  | none => exact ⟨rfl, fun _ => rfl⟩
  | some hg => exact ⟨hg.closed, hg.width⟩

theorem closedWidth?_eq_none_iff (h : b.Placed exact c b') {index : Nat} (hi : 0 < index) :
    b'.closedWidth? (index + c.groups.length) = none ↔ b.closedWidth? index = none := by
  rw [← Option.not_isSome_iff_eq_none, ← Option.not_isSome_iff_eq_none, (h.closedWidth? hi).1]

theorem indexOf? (h : b.Placed exact c b') (name : List Code) :
    b'.indexOf? name = ((c.groups.findIdx? (·.name = some name)).map (· + 1)).or
      ((b.indexOf? name).map (· + c.groups.length)) := by
  obtain ⟨own, hown, hgroups⟩ := h.groups
  rw [Builder.indexOf?, Builder.indexOf?, hown, List.findIdx?_append, findIdx?_placed hgroups,
    Option.map_or, Option.map_map, Option.map_map]
  congr 2
  funext i
  exact Nat.add_right_comm i _ 1

theorem indexOf?_eq_none_iff {name : List Code} {b : Builder} :
    b.indexOf? name = none ↔ ∀ g ∈ b.groups, g.name ≠ some name := by
  simp [Builder.indexOf?, List.findIdx?_eq_none_iff]

theorem indexOf?_pos {name : List Code} {index : Nat} {b : Builder} (h : b.indexOf? name = some index) :
    0 < index := by
  obtain ⟨i, -, rfl⟩ := Option.map_eq_some_iff.mp h
  exact Nat.succ_pos i

/-- The groups of the surroundings have other names. -/
theorem indexOf?_own (h : b.Placed exact c b') {name : List Code} {index : Nat}
    (hi : b.indexOf? name = some index) : b'.indexOf? name = some (index + c.groups.length) := by
  have hnone : c.groups.findIdx? (·.name = some name) = none := by
    obtain ⟨i, hfound, rfl⟩ := Option.map_eq_some_iff.mp hi
    obtain ⟨hlt, hname, -⟩ := List.findIdx?_eq_some_iff_getElem.mp hfound
    rw [List.findIdx?_eq_none_iff]
    intro g hg
    exact decide_eq_false (h.fresh _ (List.getElem_mem hlt) name (of_decide_eq_true hname) g hg)
  rw [h.indexOf?, hnone, hi]
  rfl

/-- A new name has to be new for the surroundings, too. -/
theorem openGroup (h : b.Placed exact c b') (name : Option (List Code))
    (hname : ∀ n, name = some n → ∀ g ∈ c.groups, g.name ≠ some n) :
    (b.openGroup name).2.Placed exact c (b'.openGroup name).2 := by
  obtain ⟨own, hown, hgroups⟩ := h.groups
  have hn : b.groups.length ≤ (b.openGroup name).2.groups.length := by simp [Builder.openGroup]
  exact { h with
    level := h.level.more hn
    frames := h.frames.imp fun _ hf => ⟨hf.1, hf.2.imp fun _ _ hframe => hframe.more hn⟩
    groups := by
      refine ⟨own ++ [{ name }], ?_, List.rel_append hgroups (.cons ⟨rfl, rfl, fun _ => rfl⟩ .nil)⟩
      rw [Builder.openGroup, hown, List.append_assoc]
    fresh := by
      intro g hg n hn
      rcases List.mem_append.mp hg with hg | hg
      · exact h.fresh g hg n hn
      · rw [List.mem_singleton.mp hg] at hn
        exact hname n hn }

theorem closeGroup (h : b.Placed exact c b') {index : Nat} (hi : 0 < index) {w w' : Width}
    (hw : exact → w' = w) :
    (b.closeGroup index w).Placed exact c (b'.closeGroup (index + c.groups.length) w') := by
  obtain ⟨own, hown, hgroups⟩ := h.groups
  have hindex : index + c.groups.length - 1 = c.groups.length + (index - 1) := by omega
  have hclosed : ∀ g g' : GroupInfo, g.Placed exact g' →
      GroupInfo.Placed exact { g with width := some w } { g' with width := some w' } :=
    fun g g' hg => ⟨hg.name, rfl, fun he => by rw [hw he]⟩
  have hn : b.groups.length ≤ (b.closeGroup index w).groups.length := by simp [Builder.closeGroup]
  exact { h with
    level := h.level.more hn
    frames := h.frames.imp fun _ hf => ⟨hf.1, hf.2.imp fun _ _ hframe => hframe.more hn⟩
    groups := by
      refine ⟨own.modify (index - 1) fun g => { g with width := some w' }, ?_, ?_⟩
      · rw [Builder.closeGroup, hown, hindex, modify_length_append]
      · exact forall₂_modify hgroups hclosed _
    fresh := by
      intro g hg n hn
      obtain ⟨i, hlt, rfl⟩ := List.mem_iff_getElem.mp hg
      have hlt' : i < b.groups.length := by simpa [Builder.closeGroup] using hlt
      refine h.fresh b.groups[i] (List.getElem_mem hlt') n ?_
      rw [← hn]
      simp only [Builder.closeGroup, List.getElem_modify]
      split <;> rfl }

theorem outer (h : b.Placed exact c b') {frame : Frame} {frames : List Frame}
    (hb : b.frames = frame :: frames) :
    ∃ frame' frames', b'.frames = frame' :: frames' ∧
      frame.opening.Placed exact c.groups.length b.groups.length frame'.opening ∧
      Builder.Placed exact c
        { b with level := frame.outer, frames, lookbehind := frame.opening.behindOuter b.lookbehind }
        { b' with
          level := frame'.outer, frames := frames'
          lookbehind := frame'.opening.behindOuter b'.lookbehind } := by
  obtain ⟨own, hown, hframes⟩ := h.frames
  have houtermost := h.outermost
  have hunlimited := h.unlimited
  rw [hb] at hframes houtermost hunlimited
  obtain ⟨frame', own', hframe, hrest, rfl⟩ := List.forall₂_cons_left_iff.mp hframes
  exact ⟨frame', own' ++ c.frames, hown, hframe.opening,
    { h with
      level := hframe.outer
      frames := ⟨own', rfl, hrest⟩
      outermost := by simpa [List.getLast?_cons_cons] using houtermost
      lookbehind := by
        rw [h.lookbehind]
        exact hframe.opening.behindOuter _
      unlimited := hunlimited }⟩

theorem close (h : b.Placed exact c b') {frame : Frame} {frames : List Frame}
    (hb : b.frames = frame :: frames) :
    ∃ frame' frames', b'.frames = frame' :: frames' ∧
      (b.close frame frames).Placed exact c (b'.close frame' frames') := by
  obtain ⟨frame', frames', hb', hopening, houter⟩ := h.outer hb
  refine ⟨frame', frames', hb', ?_⟩
  have hbody := h.level.regex
  obtain ⟨outer, opening, left⟩ := frame
  obtain ⟨outer', opening', left'⟩ := frame'
  unfold Builder.close
  cases hopening with
  | @group index hi hn =>
    have hlength : b.groups.length = (b.closeGroup index b.level.regex.width).groups.length := by
      simp [Builder.closeGroup]
    refine (houter.closeGroup hi hbody.width).add (.group hi (hn.trans hlength.le) ?_)
    exact hbody.more hlength.le
  | scope on off => exact houter.add (.scope on off hbody)
  | atomic => exact houter.add (.atomic hbody)
  | ahead negated => exact houter.add (.ahead negated hbody)
  | behind negated limit => exact houter.add (.behind negated hbody)
  | whether hi => exact houter.add (.whether hi h.level.branch .empty)
  | whetherYes hi hyes => exact houter.add (.whether hi hyes h.level.branch)

/-- Where the surroundings begin. -/
theorem start (exact : Prop) (c : Context) : Builder.Placed exact c {} c.builder where
  level := .start false
  frames := ⟨[], rfl, .nil⟩
  outermost := rfl
  noFlags := rfl
  flags := rfl
  groups := ⟨[], (List.append_nil _).symm, .nil⟩
  fresh := by simp
  lookbehind := rfl
  unlimited := rfl
  conditions _ := rfl

/-- Once all parentheses of the fragment are closed, those around it are open. -/
theorem closed (h : b.Placed exact c b') (hb : b.frames = []) :
    b'.frames = c.frames ∧ b'.lookbehind = none ∧ b'.level.verbose = false := by
  obtain ⟨own, hown, hframes⟩ := h.frames
  have houtermost := h.outermost
  have hunlimited := h.unlimited
  rw [hb] at hframes houtermost hunlimited
  rw [List.forall₂_nil_left_iff.mp hframes] at hown
  refine ⟨hown, ?_, ?_⟩
  · rw [h.lookbehind, show b.lookbehind = none from hunlimited]
    rfl
  · rw [h.level.verbose]
    simpa using houtermost

end Builder.Placed

end TemplateSwap.Pattern
