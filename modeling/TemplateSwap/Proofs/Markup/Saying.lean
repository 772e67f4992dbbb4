import TemplateSwap.Markup.Meaning
import TemplateSwap.Proofs.Results
import Mathlib.Tactic.SplitIfs

namespace TemplateSwap.Markup

namespace Meaning

variable {α β : Type} {a : α} {b : β}

theorem below_ok {m : Meaning α} : below m = .ok a ↔ m = .ok a := by
  cases m <;> simp [below]

theorem both_ok {m : Meaning α} {n : Meaning β} : both m n = .ok (a, b) ↔ m = .ok a ∧ n = .ok b := by
  cases m with
  | ok x => cases n <;> simp [both]
  | error e =>
    cases n with
    | ok y => simp [both]
    | error e' =>
      refine iff_of_false (fun h => ?_) (by simp)
      unfold both at h
      dsimp only at h
      split_ifs at h

/-- Several meanings are known if each of them is. -/
theorem all_ok {meanings : List (Meaning α)} {values : List α} :
    all meanings = .ok values ↔ List.Forall₂ (fun m a => m = .ok a) meanings values := by
  induction meanings generalizing values with
  | nil => simp [all, eq_comm]
  | cons m ms ih =>
    have hcons : all (m :: ms) = (both m (all ms)).map fun pair => pair.1 :: pair.2 := rfl
    rw [hcons, Results.map_ok, List.forall₂_cons_left_iff]
    constructor
    · intro h
      obtain ⟨⟨a, rest⟩, hboth, rfl⟩ := h
      obtain ⟨hm, hrest⟩ := both_ok.mp hboth
      exact ⟨a, rest, hm, ih.mp hrest, rfl⟩
    · intro h
      obtain ⟨a, rest, hm, hrest, rfl⟩ := h
      exact ⟨(a, rest), both_ok.mpr ⟨hm, ih.mpr hrest⟩, rfl⟩

end Meaning

namespace Node

variable {node key value : Node} {fuel : Nat} {v : Value} {tag : Tag}

/-- A node says a value, by itself or as an item of an ordered mapping. -/
def Says (node : Node) (v : Value) : Prop :=
  ∃ fuel, meaningTo fuel node = .ok v ∨ entryMeaning (meaningTo fuel) node = .ok v

/-- A key says a text. -/
def Names (key : Node) (name : String) : Prop := ∃ fuel, keyMeaning (meaningTo fuel) key = .ok (.text name)

/-- Values of the scalar types but text. -/
inductive Figure : Value → Prop
  | null : Figure .null
  | bool (b : Bool) : Figure (.bool b)
  | int (n : Int) : Figure (.int n)
  | float (x : Float) : Figure (.float x)
  | bytes (data : List UInt8) : Figure (.bytes data)
  | date (d : Date) : Figure (.date d)
  | moment (m : Moment) : Figure (.moment m)

theorem timestamp_figure {text : String} (h : Scalar.timestamp text = .ok v) : Figure v := by
  unfold Scalar.timestamp at h
  split at h
  · cases h
  · split at h
    · cases h
    · obtain rfl := Except.ok.inj h
      exact .date _
    · split at h
      · obtain rfl := Except.ok.inj h
        exact .moment _
      · cases h

/-- A scalar says its text, or a value of another type. -/
theorem scalarMeaning_ok (h : node.scalarMeaning tag = .ok v) :
    Figure v ∨ ∃ text, node.text? node.depth = some text ∧ v = .text text := by
  unfold scalarMeaning at h
  split at h
  · cases h
  · next text htext =>
    cases tag with
    | null =>
      obtain rfl := Except.ok.inj h
      exact .inl .null
    | bool =>
      obtain ⟨b, -, rfl⟩ := Results.map_ok.mp (Results.mapError_ok.mp h)
      exact .inl (.bool b)
    | int =>
      obtain ⟨n, -, rfl⟩ := Results.map_ok.mp (Results.mapError_ok.mp h)
      exact .inl (.int n)
    | float =>
      obtain ⟨x, -, rfl⟩ := Results.map_ok.mp (Results.mapError_ok.mp h)
      exact .inl (.float x)
    | binary =>
      obtain ⟨data, -, rfl⟩ := Results.map_ok.mp h
      exact .inl (.bytes data)
    | timestamp =>
      dsimp only at h
      split_ifs at h
      exact .inl (timestamp_figure (Results.mapError_ok.mp h))
    | str => exact .inr ⟨text, htext, (Except.ok.inj h).symm⟩
    | omap | pairs | set | seq | map | merge | value | other => cases h

/-- What a node says is a list of what its items say, a mapping or a set of what its pairs say, or a scalar. -/
theorem meaningTo_ok (h : meaningTo fuel node = .ok v) : ∃ inner,
    (∃ items, v = .list items ∧ (itemsMeaning (meaningTo inner) node = .ok items ∨
      itemsMeaning (entryMeaning (meaningTo inner)) node = .ok items)) ∨
    (∃ said, pairsMeaning (meaningTo inner) node = .ok said ∧
      (v = .map (Value.Pairs.ofList said) ∨ v = .set (elements said))) ∨
    node.scalarMeaning node.tag = .ok v := by
  cases fuel with
  | zero => cases h
  | succ inner =>
    refine ⟨inner, ?_⟩
    unfold meaningTo at h
    dsimp only at h
    split at h
    · obtain ⟨items, hitems, rfl⟩ := Results.map_ok.mp (Meaning.below_ok.mp h)
      exact .inl ⟨items, rfl, .inl hitems⟩
    · obtain ⟨said, hsaid, rfl⟩ := Results.map_ok.mp (Meaning.below_ok.mp h)
      exact .inr (.inl ⟨said, hsaid, .inl rfl⟩)
    · obtain ⟨said, hsaid, rfl⟩ := Results.map_ok.mp (Meaning.below_ok.mp h)
      exact .inr (.inl ⟨said, hsaid, .inr rfl⟩)
    · obtain ⟨items, hitems, rfl⟩ := Results.map_ok.mp (Meaning.below_ok.mp h)
      exact .inl ⟨items, rfl, .inr hitems⟩
    · obtain ⟨items, hitems, rfl⟩ := Results.map_ok.mp (Meaning.below_ok.mp h)
      exact .inl ⟨items, rfl, .inr hitems⟩
    · exact .inr (.inr (Results.mapError_ok.mp h))

theorem itemsMeaning_ok {meaning : Node → Meaning Value} {items : List Value}
    (h : itemsMeaning meaning node = .ok items) :
    ∃ tag line nodes, node = sequence tag line nodes ∧
      List.Forall₂ (fun item v => meaning item = .ok v) nodes items := by
  cases node with
  | sequence tag line nodes => exact ⟨tag, line, nodes, rfl, List.forall₂_map_left_iff.mp (Meaning.all_ok.mp h)⟩
  | scalar | mapping => cases h

theorem pairsMeaning_ok {meaning : Node → Meaning Value} {said : List (Value × Value)}
    (h : pairsMeaning meaning node = .ok said) :
    ∃ pairs, node.pairs?.bind mergedPairs = some pairs ∧
      List.Forall₂ (fun (pair : Node × Node) (entry : Value × Value) =>
        keyMeaning meaning pair.1 = .ok entry.1 ∧ meaning pair.2 = .ok entry.2) pairs said := by
  unfold pairsMeaning at h
  split at h
  · next pairs hpairs =>
    refine ⟨pairs, hpairs, (List.forall₂_map_left_iff.mp (Meaning.all_ok.mp h)).imp ?_⟩
    exact fun pair entry hboth => Meaning.both_ok.mp hboth
  · cases h

/-- What says a list is a sequence of what says its items. -/
theorem meaningTo_list {items : List Value} (h : meaningTo fuel node = .ok (.list items)) :
    ∃ tag line nodes, node = sequence tag line nodes ∧ List.Forall₂ Says nodes items := by
  obtain ⟨inner, ⟨values, hvalues, hitems⟩ | ⟨said, -, hmap | hset⟩ | hscalar⟩ := meaningTo_ok h
  · obtain rfl := Value.list.inj hvalues
    rcases hitems with hitems | hitems
    · obtain ⟨tag, line, nodes, hnode, hall⟩ := itemsMeaning_ok hitems
      exact ⟨tag, line, nodes, hnode, hall.imp fun _ _ hitem => ⟨inner, .inl hitem⟩⟩
    · obtain ⟨tag, line, nodes, hnode, hall⟩ := itemsMeaning_ok hitems
      exact ⟨tag, line, nodes, hnode, hall.imp fun _ _ hitem => ⟨inner, .inr hitem⟩⟩
  · cases hmap
  · cases hset
  · obtain hfigure | ⟨_, -, htext⟩ := scalarMeaning_ok hscalar
    · cases hfigure
    · cases htext

/-- What says a mapping has pairs whose keys and values say what the mapping is made of. -/
theorem meaningTo_map {fields : List (Value × Value)} (h : meaningTo fuel node = .ok (.map fields)) :
    ∃ inner pairs said, node.pairs?.bind mergedPairs = some pairs ∧ fields = Value.Pairs.ofList said ∧
      List.Forall₂ (fun (pair : Node × Node) (entry : Value × Value) =>
        keyMeaning (meaningTo inner) pair.1 = .ok entry.1 ∧ meaningTo inner pair.2 = .ok entry.2) pairs said := by
  obtain ⟨inner, ⟨_, hlist, -⟩ | ⟨said, hsaid, hmap | hset⟩ | hscalar⟩ := meaningTo_ok h
  · cases hlist
  · obtain ⟨pairs, hpairs, hall⟩ := pairsMeaning_ok hsaid
    exact ⟨inner, pairs, said, hpairs, Value.map.inj hmap, hall⟩
  · cases hset
  · obtain hfigure | ⟨_, -, htext⟩ := scalarMeaning_ok hscalar
    · cases hfigure
    · cases htext

/-- A scalar names its own text. -/
theorem Names.eq_text {line : Nat} {text name : String} (h : (scalar tag line text).Names name) : text = name := by
  have hscalar {type : Tag} (htext : (scalar tag line text).scalarMeaning type = .ok (.text name)) : text = name := by
    obtain hfigure | ⟨found, hfound, hsame⟩ := scalarMeaning_ok htext
    · cases hfigure
    · exact (Option.some.inj hfound).trans (Value.text.inj hsame).symm
  obtain ⟨fuel, hkey⟩ := h
  unfold keyMeaning at hkey
  split_ifs at hkey
  · exact hscalar (Results.mapError_ok.mp hkey)
  · cases hkey
  · obtain ⟨_, ⟨_, hlist, -⟩ | ⟨_, -, hmap | hset⟩ | htext⟩ := meaningTo_ok hkey
    · cases hlist
    · cases hmap
    · cases hset
    · exact hscalar htext

end Node

end TemplateSwap.Markup
