import TemplateSwap.Markup.Node
import TemplateSwap.Proofs.Results
import Mathlib.Tactic.SplitIfs

namespace TemplateSwap.Markup

namespace Read

variable {α β : Type} {m : Read α}

/-- A step that keeps the fault behind the tokens, and fails with that fault or with one of the markup. -/
structure Relays (m : Read α) : Prop where
  kept : ∀ s a s', m.run s = .ok (a, s') → s'.fault = s.fault
  failed : ∀ s f, m.run s = .error f → f = .malformed ∨ s.fault = some f

namespace Relays

theorem pure (a : α) : Relays (Pure.pure a : Read α) := by
  constructor
  · intro s a s' h
    cases h
    rfl
  · intro s f h
    cases h

theorem fail : Relays (fail : Read α) := by
  constructor
  · intro s a s' h
    cases h
  · intro s f h
    cases h
    exact .inl rfl

theorem bind {f : α → Read β} (hm : Relays m) (hf : ∀ a, Relays (f a)) : Relays (m >>= f) := by
  constructor
  · intro s b s'' h
    rw [StateT.run_bind] at h
    obtain ⟨⟨a, s'⟩, ha, hb⟩ := Results.bind_ok.mp h
    rw [(hf a).kept s' b s'' hb, hm.kept s a s' ha]
  · intro s fault h
    rw [StateT.run_bind] at h
    rcases Results.bind_error.mp h with h | ⟨⟨a, s'⟩, ha, h⟩
    · exact hm.failed s fault h
    · rw [← hm.kept s a s' ha]
      exact (hf a).failed s' fault h

theorem get : Relays (MonadState.get : Read Reader) := by
  constructor
  · intro s a s' h
    cases h
    rfl
  · intro s f h
    cases h

theorem modify {f : Reader → Reader} (hf : ∀ s, (f s).fault = s.fault) : Relays (modify f : Read Unit) := by
  constructor
  · intro s a s' h
    cases h
    exact hf s
  · intro s f h
    cases h

theorem ite {c : Prop} [Decidable c] {a b : Read α} (ha : Relays a) (hb : Relays b) :
    Relays (if c then a else b) := by
  split_ifs
  · exact ha
  · exact hb

/-- A step that is not always taken, and the steps after it. -/
theorem after_ite {c : Prop} [Decidable c] {a : Read α} {rest : Read β} (ha : Relays a) (hrest : Relays rest) :
    Relays (if c then a >>= fun _ => rest else rest) :=
  ite (ha.bind fun _ => hrest) hrest

end Relays

theorem run_peek (s : Reader) :
    peek.run s = match s.tokens with
      | placed :: _ => .ok (placed, s)
      | [] => .error (s.fault.getD .malformed) := by
  obtain ⟨tokens, fault, handles, anchors, unfinished, earlier⟩ := s
  cases tokens <;> rfl

theorem peek_relays : Relays peek := by
  constructor
  · intro s a s' h
    rw [run_peek] at h
    split at h
    · obtain ⟨-, rfl⟩ := Prod.mk.inj (Except.ok.inj h)
      rfl
    · cases h
  · intro s f h
    rw [run_peek] at h
    split at h
    · cases h
    · obtain rfl := Except.error.inj h
      cases s.fault with
      | none => exact .inl rfl
      | some fault => exact .inr rfl

theorem nextIs_relays (tokens : List Token) : Relays (nextIs tokens) :=
  peek_relays.bind fun _ => .pure _

theorem advance_relays : Relays advance := .modify fun _ => rfl

theorem expect_relays (token : Token) : Relays (expect token) :=
  peek_relays.bind fun _ => .ite (advance_relays.bind fun _ => .pure _) .fail

theorem anchorProperty_relays (p : Properties) : Relays (anchorProperty p) := by
  refine peek_relays.bind fun placed => ?_
  split
  · exact advance_relays.bind fun _ => .pure _
  · exact .pure _

theorem tagProperty_relays (p : Properties) : Relays (tagProperty p) := by
  refine peek_relays.bind fun placed => ?_
  split
  · exact advance_relays.bind fun _ => .pure _
  · exact .pure _

theorem properties_relays : Relays properties :=
  (tagProperty_relays {}).bind fun _ => (anchorProperty_relays _).bind fun _ =>
    .ite (.pure _) (tagProperty_relays _)

theorem fullTag_relays (name : Option TagName) : Relays (fullTag name) := by
  unfold fullTag
  split
  · exact .pure _
  · split
    · exact (Relays.pure _).bind fun _ => .pure _
    · refine Relays.get.bind fun s => ?_
      split
      · exact (Relays.pure _).bind fun _ => .pure _
      · exact Relays.fail.bind fun _ => .pure _

theorem checkAnchor_relays (anchor : Option String) : Relays (checkAnchor anchor) := by
  refine Relays.get.bind fun s => ?_
  split
  · exact .ite .fail (.pure _)
  · exact .pure _

theorem name_relays (anchor : Option String) (node : Node) : Relays (name anchor node) := by
  unfold name
  split
  · exact .pure _
  · exact (Relays.modify (by intro s; rfl)).bind fun _ => .pure _

theorem begin_relays (anchor : Option String) (bare : Node) : Relays (begin anchor bare) := by
  unfold begin
  split
  · exact .pure _
  · exact .modify fun _ => rfl

theorem nameSequence_relays (anchor : Option String) (tag : Tag) (line : Nat) {items : Read (List Node)}
    (h : Relays items) : Relays (nameSequence anchor tag line items) :=
  (begin_relays _ _).bind fun _ => h.bind fun _ => name_relays _ _

theorem nameMapping_relays (anchor : Option String) (tag : Tag) (line : Nat) {pairs : Read (List (Node × Node))}
    (h : Relays pairs) : Relays (nameMapping anchor tag line pairs) :=
  (begin_relays _ _).bind fun _ => h.bind fun _ => name_relays _ _

theorem aliased_relays (name : String) : Relays (aliased name) := by
  refine Relays.get.bind fun s => ?_
  split
  · exact .pure _
  · exact .fail

/-- All readers of nodes and their parts relay faults, looking so many steps ahead. -/
structure NodesRelay (fuel : Nat) : Prop where
  optional : ∀ place stops line, Relays (optional place stops line fuel)
  node : ∀ place, Relays (node place fuel)
  blockItems : Relays (blockItems fuel)
  unindentedItems : Relays (unindentedItems fuel)
  valueNode : ∀ place stops, Relays (valueNode place stops fuel)
  blockPairs : Relays (blockPairs fuel)
  flowItems : ∀ first, Relays (flowItems first fuel)
  flowPairs : ∀ first, Relays (flowPairs first fuel)

namespace NodesRelay

variable {fuel : Nat}

theorem optional_succ (h : NodesRelay fuel) (place : Place) (stops : List Token) (line : Nat) :
    Relays (Read.optional place stops line (fuel + 1)) := by
  rw [Read.optional]
  exact (nextIs_relays _).bind fun _ => .ite (.pure _) (h.node place)

theorem node_succ (h : NodesRelay fuel) (place : Place) : Relays (Read.node place (fuel + 1)) := by
  rw [Read.node]
  refine peek_relays.bind fun first => ?_
  split
  · exact advance_relays.bind fun _ => aliased_relays _
  · refine properties_relays.bind fun p => (fullTag_relays _).bind fun tag => peek_relays.bind fun placed => ?_
    refine (checkAnchor_relays _).bind fun _ => ?_
    split
    · exact advance_relays.bind fun _ => name_relays _ _
    · exact advance_relays.bind fun _ => nameSequence_relays _ _ _ (h.flowItems true)
    · exact advance_relays.bind fun _ => nameMapping_relays _ _ _ (h.flowPairs true)
    · refine .ite (nameSequence_relays _ _ _ h.unindentedItems) (.ite ?_ (.ite ?_ ?_))
      · exact advance_relays.bind fun _ => nameSequence_relays _ _ _ h.blockItems
      · exact advance_relays.bind fun _ => nameMapping_relays _ _ _ h.blockPairs
      · exact .ite (name_relays _ _) .fail

theorem blockItems_succ (h : NodesRelay fuel) : Relays (Read.blockItems (fuel + 1)) := by
  rw [Read.blockItems]
  refine (nextIs_relays _).bind fun _ => .ite ?_ ?_
  · exact (expect_relays _).bind fun _ => (h.optional _ _ _).bind fun _ => h.blockItems.bind fun _ => .pure _
  · exact (expect_relays _).bind fun _ => .pure _

theorem unindentedItems_succ (h : NodesRelay fuel) : Relays (Read.unindentedItems (fuel + 1)) := by
  rw [Read.unindentedItems]
  refine (nextIs_relays _).bind fun _ => .ite ?_ (.pure _)
  exact (expect_relays _).bind fun _ => (h.optional _ _ _).bind fun _ => h.unindentedItems.bind fun _ => .pure _

theorem valueNode_succ (h : NodesRelay fuel) (place : Place) (stops : List Token) :
    Relays (Read.valueNode place stops (fuel + 1)) := by
  rw [Read.valueNode]
  refine (nextIs_relays _).bind fun _ => .ite ?_ ?_
  · exact (expect_relays _).bind fun _ => h.optional _ _ _
  · exact peek_relays.bind fun _ => .pure _

theorem blockPairs_succ (h : NodesRelay fuel) : Relays (Read.blockPairs (fuel + 1)) := by
  rw [Read.blockPairs]
  refine (nextIs_relays _).bind fun _ => .ite ?_ ?_
  · exact (expect_relays _).bind fun _ => (h.optional _ _ _).bind fun _ => (h.valueNode _ _).bind fun _ =>
      h.blockPairs.bind fun _ => .pure _
  · exact (expect_relays _).bind fun _ => .pure _

theorem flowItems_succ (h : NodesRelay fuel) (first : Bool) : Relays (Read.flowItems first (fuel + 1)) := by
  rw [Read.flowItems]
  refine (nextIs_relays _).bind fun _ => .ite (advance_relays.bind fun _ => .pure _) ?_
  refine .after_ite (expect_relays _) ((nextIs_relays _).bind fun _ => .ite ?_ ?_)
  · exact (expect_relays _).bind fun _ => (h.optional _ _ _).bind fun _ => (h.valueNode _ _).bind fun _ =>
      (h.flowItems false).bind fun _ => .pure _
  · refine (nextIs_relays _).bind fun _ => .ite (advance_relays.bind fun _ => .pure _) ?_
    exact (h.node _).bind fun _ => (h.flowItems false).bind fun _ => .pure _

theorem flowPairs_succ (h : NodesRelay fuel) (first : Bool) : Relays (Read.flowPairs first (fuel + 1)) := by
  rw [Read.flowPairs]
  refine (nextIs_relays _).bind fun _ => .ite (advance_relays.bind fun _ => .pure _) ?_
  refine .after_ite (expect_relays _) ((nextIs_relays _).bind fun _ => .ite ?_ ?_)
  · exact (expect_relays _).bind fun _ => (h.optional _ _ _).bind fun _ => (h.valueNode _ _).bind fun _ =>
      (h.flowPairs false).bind fun _ => .pure _
  · refine (nextIs_relays _).bind fun _ => .ite (advance_relays.bind fun _ => .pure _) ?_
    exact (h.node _).bind fun _ => peek_relays.bind fun _ => (h.flowPairs false).bind fun _ => .pure _

end NodesRelay

theorem nodesRelay (fuel : Nat) : NodesRelay fuel := by
  induction fuel with
  | zero =>
    constructor
    all_goals
      intros
      exact .fail
  | succ fuel ih =>
    exact ⟨ih.optional_succ, ih.node_succ, ih.blockItems_succ, ih.unindentedItems_succ, ih.valueNode_succ,
      ih.blockPairs_succ, ih.flowItems_succ, ih.flowPairs_succ⟩

theorem directives_relays (versionSeen : Bool) (fuel : Nat) : Relays (directives versionSeen fuel) := by
  induction fuel generalizing versionSeen with
  | zero => exact .fail
  | succ fuel ih =>
    refine peek_relays.bind fun placed => ?_
    split
    · exact advance_relays.bind fun _ => .ite (Relays.fail.bind fun _ => ih true) (ih true)
    · refine advance_relays.bind fun _ => Relays.get.bind fun s => .after_ite .fail ?_
      exact (Relays.modify (by intro s; rfl)).bind fun _ => ih versionSeen
    · exact advance_relays.bind fun _ => ih versionSeen
    · exact .modify fun _ => rfl

theorem skipDocumentEnds_relays (fuel : Nat) : Relays (skipDocumentEnds fuel) := by
  induction fuel with
  | zero => exact .fail
  | succ fuel ih => exact (nextIs_relays _).bind fun _ => .ite (advance_relays.bind fun _ => ih) (.pure _)

theorem document_relays (fuel : Nat) : Relays (document fuel) := by
  have hnode := (nodesRelay fuel).node ⟨true, false⟩
  have hend (content : Node) : Relays (do
      skipDocumentEnds fuel
      let _ ← expect .streamEnd
      return some content) :=
    (skipDocumentEnds_relays fuel).bind fun _ => (expect_relays _).bind fun _ => .pure _
  refine peek_relays.bind fun first => .ite (.pure _) (.ite ?_ ?_)
  · refine (directives_relays _ _).bind fun _ => (expect_relays _).bind fun _ => peek_relays.bind fun next => ?_
    exact .ite ((Relays.pure _).bind hend) (hnode.bind hend)
  · exact (Relays.modify (by intro s; rfl)).bind fun _ => hnode.bind hend

end Read

namespace Node

theorem readOnce_error {tokens : List Placed} {fault : Option Fault} {earlier : List (String × Node)} {f : Fault}
    (h : readOnce tokens fault earlier = .error f) : f = .malformed ∨ fault = some f := by
  unfold readOnce at h
  rcases Results.bind_error.mp h with h | ⟨⟨node, s⟩, -, h⟩
  · exact (Read.document_relays _).failed _ f h
  · cases h

/-- A fault that is not one of the markup was found when the document was split into tokens. -/
theorem ofText_scalar {text : List Char} {fault : ScalarFault} (h : ofText text = .error (.scalar fault)) :
    (Token.scan text).2 = some (.scalar fault) := by
  unfold ofText at h
  dsimp only at h
  rcases Results.bind_error.mp h with h | ⟨first, -, h⟩
  · exact (readOnce_error h).resolve_left Fault.noConfusion
  · rcases Results.bind_error.mp h with h | ⟨second, -, h⟩
    · exact (readOnce_error h).resolve_left Fault.noConfusion
    · cases h

end Node

end TemplateSwap.Markup
