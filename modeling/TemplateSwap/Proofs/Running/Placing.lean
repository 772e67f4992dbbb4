import TemplateSwap.Proofs.Markup.Saying
import TemplateSwap.Proofs.Running.Loading

namespace TemplateSwap

open Markup (Node)

namespace Configuration

variable {path : String} {data : List UInt8} {found : List Value} {places : List Int}

/-- Descriptors with the places that they are read at. -/
def located (path : String) (found : List Value) (places : List Int) : List (Value × Location) :=
  found.mapIdx fun i item => (item, { source := path, line := places[i]? })

/-- Validate a descriptor at its place. -/
def declareAt (placed : Value × Location) : Except Failure Declared := do
  return ⟨← Descriptor.read placed.1 placed.2, placed.2⟩

theorem located_cons (path : String) (item : Value) (rest : List Value) (places : List Int) :
    located path (item :: rest) places =
      (item, { source := path, line := places.head? }) :: located path rest places.tail := by
  rw [located, List.mapIdx_cons, List.head?_eq_getElem?, located]
  simp only [List.getElem?_tail]

theorem declare_eq (path : String) (found : List Value) (places : List Int) :
    declare path found places = (located path found places).mapM declareAt := by
  induction found generalizing places with
  | nil => rfl
  | cons item rest ih =>
    rw [declare, located_cons, List.mapM_cons, ih, declareAt]
    simp only [bind_assoc, pure_bind]

/-- The place of an item of a sequence: the line that it begins on. -/
def placeOf (path : String) (node : Node) : Location := { source := path, line := some (node.line + 1) }

/-- The lines of the items of a sequence, the first line being one. -/
def itemPlaces : Node → List Int
  | .sequence _ _ items => items.map fun item => (item.line : Int) + 1
  | _ => []

theorem located_iff (path : String) {R : Node → Value → Prop} {nodes : List Node} (h : List.Forall₂ R nodes found)
    (listed : List Node) :
    (located path found (listed.map fun node => (node.line : Int) + 1)).map (·.2) = nodes.map (placeOf path) ↔
      nodes.map Node.line <+: listed.map Node.line := by
  induction h generalizing listed with
  | nil => simp [located]
  | @cons node item nodes found _ _ ih =>
    cases listed with
    | nil => simp [located_cons, placeOf]
    | cons first listed =>
      have hplace : (⟨path, some ((first.line : Int) + 1)⟩ : Location) = placeOf path node ↔
          node.line = first.line := by
        simp only [placeOf, Location.mk.injEq, Option.some.injEq, true_and]
        omega
      simp only [located_cons, List.map_cons, List.cons_prefix_cons, List.cons.injEq, ← ih listed]
      exact and_congr hplace Iff.rfl

/-- A pair of a scalar and a sequence. -/
def lists : Node × Node → Bool
  | (.scalar .., .sequence ..) => true
  | _ => false

theorem itemLines?_eq {pair : Node × Node} (h : pair.1.Names "transformations") :
    itemLines? pair = if lists pair = true then some (itemPlaces pair.2) else none := by
  obtain ⟨key, value⟩ := pair
  cases value with
  | scalar | mapping => cases key <;> rfl
  | sequence tag line items =>
    cases key with
    | scalar tag line text =>
      obtain rfl := Node.Names.eq_text h
      rfl
    | sequence | mapping => rfl

theorem findSome?_itemLines? {pairs : Node.Pairs} (h : ∀ pair ∈ pairs, pair.1.Names "transformations") :
    pairs.findSome? itemLines? = (pairs.find? lists).map fun pair => itemPlaces pair.2 := by
  induction pairs with
  | nil => rfl
  | cons pair rest ih =>
    rw [List.forall_mem_cons] at h
    rw [List.findSome?_cons, List.find?_cons, itemLines?_eq h.1]
    cases lists pair with
    | true => rfl
    | false => exact ih h.2

theorem find?_lists {pairs : Node.Pairs} {pair : Node × Node} (h : pairs.find? lists = some pair) :
    ∃ key tag line items, pair = (key, .sequence tag line items) := by
  obtain ⟨key, value⟩ := pair
  have hlists := List.find?_some h
  cases value with
  | sequence tag line items => exact ⟨key, tag, line, items, rfl⟩
  | scalar | mapping => cases key <;> cases hlists

/-- A document is a mapping with no key but the one of the descriptors. -/
theorem items_ok {raw : Value} (h : items path raw = .ok found) (hsome : found ≠ []) :
    ∃ fields, raw = .map fields ∧ Descriptor.unknownKeys .top fields = [] ∧
      Descriptor.getD fields "transformations" = .list found := by
  unfold items at h
  split at h
  · next fields =>
    obtain ⟨_, hkeys, h⟩ := Results.bind_ok.mp h
    refine ⟨fields, rfl, Descriptor.checkKeys_ok.mp hkeys, ?_⟩
    split at h
    · next items hitems =>
      obtain rfl := Except.ok.inj h
      exact hitems
    · split_ifs at h
      exact absurd (Except.ok.inj h).symm hsome
  · cases h

/-- If a mapping knows no other key, all that it is made of has this one, and its value is the last. -/
theorem said_of_known {said : List (Value × Value)}
    (hknown : Descriptor.unknownKeys .top (Value.Pairs.ofList said) = []) :
    (∀ entry ∈ said, entry.1 = .text "transformations") ∧
      Descriptor.getD (Value.Pairs.ofList said) "transformations" = ((said.getLast?).map (·.2)).getD .null := by
  have hkeys : ∀ key ∈ (Value.Pairs.ofList said).map (·.1), key = .text "transformations" := by
    intro key hkey
    by_contra hother
    refine List.eq_nil_iff_forall_not_mem.mp hknown key (Descriptor.mem_unknownKeys.mpr ⟨hkey, ?_⟩)
    simpa [Section.allowed] using hother
  have hall : ∀ entry ∈ said, entry.1 = .text "transformations" := by
    intro entry hentry
    obtain ⟨key, hkey, hsame⟩ := Value.Pairs.exists_key_ofList (List.mem_map_of_mem (f := (·.1)) hentry)
    rw [hkeys key hkey, Value.text_same] at hsame
    exact hsame.elim Eq.symm id
  refine ⟨hall, ?_⟩
  have hnamed : said = Value.named (said.map fun entry => ("transformations", entry.2)) := by
    rw [Value.named, List.map_map]
    refine (List.map_id said).symm.trans (List.map_congr_left fun entry hentry => ?_)
    exact Prod.ext (hall entry hentry) rfl
  obtain ⟨entries, hlist, -, -, hvalues, -⟩ :=
    Value.Pairs.ofList_named (said.map fun entry => ("transformations", entry.2))
  rw [Descriptor.getD, Descriptor.get?, hnamed, hlist, Value.Pairs.get?_named, hvalues, ← hnamed, ← List.map_reverse,
    ← List.head?_reverse]
  cases said.reverse <;> simp

/-- The pairs of a document, those that it merges in front. -/
def documentPairs (data : List UInt8) : Option Node.Pairs := do
  let text ← (textOf data).toOption
  let node ← (Node.ofText text).toOption.join
  Node.mergedPairs (← node.pairs?)

/-- What the descriptors of a document that has some are read from. -/
structure Listed (data : List UInt8) (found : List Value) (places : List Int) (pairs : Node.Pairs) (key : Node)
    (nodes : List Node) : Prop where
  document : documentPairs data = some pairs
  places : places = (pairs.findSome? itemLines?).getD []
  names : ∀ pair ∈ pairs, pair.1.Names "transformations"
  last : ∃ tag line, pairs.getLast? = some (key, .sequence tag line nodes)
  items : List.Forall₂ Node.Says nodes found

theorem exists_listed (h : stages path data = .ok (found, places)) (hsome : found ≠ []) :
    ∃ pairs key nodes, Listed data found places pairs key nodes := by
  obtain ⟨text, htext, h⟩ := Results.bind_ok.mp h
  obtain ⟨node?, hnode, h⟩ := Results.bind_ok.mp h
  obtain ⟨raw, hraw, h⟩ := Results.bind_ok.mp h
  obtain ⟨items, hitems, h⟩ := Results.bind_ok.mp h
  obtain ⟨rfl, rfl⟩ := Prod.mk.inj (Results.pure_ok.mp h)
  obtain ⟨fields, rfl, hknown, hlist⟩ := items_ok hitems hsome
  cases node? with
  | none => cases hraw
  | some node =>
    have hvalue : node.value = .ok (.map fields) := Results.mapError_ok.mp hraw
    obtain ⟨inner, pairs, said, hpairs, rfl, hall⟩ := Node.meaningTo_map (Results.mapError_ok.mp hvalue)
    obtain ⟨hkeys, hvalues⟩ := said_of_known hknown
    rw [hlist] at hvalues
    cases hentry : said.getLast? with
    | none =>
      rw [hentry] at hvalues
      cases hvalues
    | some entry =>
      -- The last pair has been said last, so its value says the list.
      rw [hentry] at hvalues
      have hreversed := List.forall₂_reverse_iff.mpr hall
      obtain ⟨front, rfl⟩ := List.getLast?_eq_some_iff.mp hentry
      rw [List.reverse_append, List.reverse_singleton, List.singleton_append] at hreversed
      obtain ⟨⟨key, value⟩, rest, ⟨-, hmeaning⟩, -, hrest⟩ := List.forall₂_cons_right_iff.mp hreversed
      have hmeaning : Node.meaningTo inner value = .ok (.list items) := hvalues ▸ hmeaning
      obtain ⟨tag, line, nodes, rfl, hnodes⟩ := Node.meaningTo_list hmeaning
      have hdocument : documentPairs data = some pairs := by
        unfold documentPairs
        rw [htext, Except.toOption, Option.bind_eq_bind, Option.bind_some, Results.mapError_ok.mp hnode]
        exact hpairs
      refine ⟨pairs, key, nodes, hdocument, ?_, ?_, ⟨tag, line, ?_⟩, hnodes⟩
      · rw [Option.map_some, Option.getD_some, lines, hpairs, Option.getD_some]
      · intro pair hpair
        obtain ⟨said, hsaid, hkey, -⟩ := Results.forall₂_right hall.flip hpair
        exact ⟨inner, hkeys said hsaid ▸ hkey⟩
      · rw [← List.head?_reverse, hrest]
        rfl

namespace Listed

variable {pairs : Node.Pairs} {key : Node} {nodes : List Node}

theorem places_eq (h : Listed data found places pairs key nodes) :
    places = ((pairs.find? lists).map fun pair => itemPlaces pair.2).getD [] := by
  rw [h.places, findSome?_itemLines? h.names]

/-- Descriptors are placed on the lines of the first items that are listed. -/
theorem located_iff (h : Listed data found places pairs key nodes) (hsome : found ≠ []) :
    (located path found places).map (·.2) = nodes.map (placeOf path) ↔
      ∃ first tag line listed, pairs.find? lists = some (first, .sequence tag line listed) ∧
        nodes.map Node.line <+: listed.map Node.line := by
  rw [h.places_eq]
  cases hfirst : pairs.find? lists with
  | none =>
    have hnodes : nodes ≠ [] := by
      rintro rfl
      exact hsome (List.forall₂_nil_left_iff.mp h.items)
    have hnone : nodes.map Node.line <+: ([] : List Node).map Node.line ↔ False := by simpa using hnodes
    have hiff := Configuration.located_iff path h.items []
    rw [hnone] at hiff
    simpa using hiff
  | some pair =>
    obtain ⟨first, tag, line, listed, rfl⟩ := find?_lists hfirst
    have hiff := Configuration.located_iff path h.items listed
    constructor
    · exact fun hplaced => ⟨first, tag, line, listed, rfl, hiff.mp hplaced⟩
    · rintro ⟨_, _, _, _, hsame, hprefix⟩
      cases hsame
      exact hiff.mpr hprefix

/-- They are on their own lines if nothing else is listed, and not under a key that is no scalar. -/
theorem located_alone (h : Listed data found places pairs key nodes) (hsome : found ≠ []) (hkey : key.isScalar = true)
    (halone : ∀ pair ∈ pairs.dropLast, lists pair = false) :
    (located path found places).map (·.2) = nodes.map (placeOf path) := by
  obtain ⟨tag, line, hlast⟩ := h.last
  obtain ⟨front, rfl⟩ := List.getLast?_eq_some_iff.mp hlast
  rw [List.dropLast_concat] at halone
  have hlists : lists (key, .sequence tag line nodes) = true := by
    cases key with
    | scalar => rfl
    | sequence | mapping => cases hkey
  refine (h.located_iff hsome).mpr ⟨key, tag, line, nodes, ?_, List.prefix_rfl⟩
  rw [List.find?_append, List.find?_eq_none.mpr fun pair hpair => by simp [halone pair hpair], Option.none_or,
    List.find?_singleton, hlists]
  rfl

end Listed

/-- Reading a configuration validates each of its descriptors at a place. If there are any, they are what the items of
the last pair say whose key is the one of the descriptors. They are placed on the lines that these items begin on just
if these are lines that the first items begin on that are listed under such a key as a scalar; so they are if no other
pair has a list, and the key is a scalar. -/
theorem read_places (h : stages path data = .ok (found, places)) :
    read path data = (located path found places).mapM declareAt ∧
    (found ≠ [] → ∃ pairs key tag line nodes, documentPairs data = some pairs ∧
      (∀ pair ∈ pairs, pair.1.Names "transformations") ∧
      pairs.getLast? = some (key, .sequence tag line nodes) ∧ List.Forall₂ Node.Says nodes found ∧
      ((located path found places).map (·.2) = nodes.map (placeOf path) ↔
        ∃ first tag line listed, pairs.find? lists = some (first, .sequence tag line listed) ∧
          nodes.map Node.line <+: listed.map Node.line) ∧
      (key.isScalar = true → (∀ pair ∈ pairs.dropLast, lists pair = false) →
        (located path found places).map (·.2) = nodes.map (placeOf path))) := by
  refine ⟨?_, fun hsome => ?_⟩
  · rw [read_eq, h, ← declare_eq]
    rfl
  · obtain ⟨pairs, key, nodes, hlisted⟩ := exists_listed h hsome
    obtain ⟨tag, line, hlast⟩ := hlisted.last
    exact ⟨pairs, key, tag, line, nodes, hlisted.document, hlisted.names, hlast, hlisted.items,
      hlisted.located_iff hsome, hlisted.located_alone hsome⟩

open CommandLine (contents)

def listedOnce : String := "transformations: [1,\n  2]\n"

theorem read_places_once :
    ∃ found nodes, stages "a" (contents listedOnce) = .ok (found, [1, 2]) ∧ found ≠ [] ∧
      List.Forall₂ Node.Says nodes found ∧ nodes.map (placeOf "a") = [⟨"a", some 1⟩, ⟨"a", some 2⟩] ∧
      (located "a" found [1, 2]).map (·.2) = nodes.map (placeOf "a") := by
  have hstages : (stages "a" (contents listedOnce)).toOption.any
      (fun stage => decide (stage.2 = [1, 2] ∧ stage.1.length = 2)) = true := by decide +kernel
  have hsingle : (documentPairs (contents listedOnce)).any
      (fun pairs => decide (pairs.length = 1) && pairs.all (·.1.isScalar)) = true := by decide +kernel
  obtain ⟨⟨found, places⟩, hstage, hfound⟩ := Results.exists_ok hstages
  obtain ⟨rfl, hlength⟩ := of_decide_eq_true hfound
  obtain ⟨first, second, rfl⟩ := List.length_eq_two.mp hlength
  obtain ⟨-, hlisted⟩ := read_places hstage
  obtain ⟨pairs, key, tag, line, nodes, hpairs, -, hlast, hitems, -, halone⟩ := hlisted (List.cons_ne_nil _ _)
  rw [hpairs, Option.any_some, Bool.and_eq_true, decide_eq_true_eq] at hsingle
  obtain ⟨pair, rfl⟩ := List.length_eq_one_iff.mp hsingle.1
  obtain rfl : pair = (key, .sequence tag line nodes) := Option.some.inj hlast
  have hplaced := halone (List.all_eq_true.mp hsingle.2 _ List.mem_cons_self) (by simp)
  exact ⟨_, nodes, hstage, List.cons_ne_nil _ _, hitems, hplaced.symm, hplaced⟩

def listedTwice : String := "transformations: [1]\ntransformations: [2]\n"

/-- What is told of a failure. -/
def messageOf {α : Type} : Except Failure α → Option String
  | .error failure => some failure.message
  | .ok _ => none

/-- The descriptor of the second list is told to stand on the line of the first one. -/
theorem places_twice :
    ∃ pairs key tag line nodes, documentPairs (contents listedTwice) = some pairs ∧
      pairs.getLast? = some (key, .sequence tag line nodes) ∧ nodes.map (placeOf "a") = [⟨"a", some 2⟩] ∧
      messageOf (read "a" (contents listedTwice)) = some "a:1: Transformation must be a mapping, got int" := by
  have hpairs : (documentPairs (contents listedTwice)).any
      (fun pairs => pairs.getLast?.any fun pair => decide (itemPlaces pair.2 = [2])) = true := by decide +kernel
  obtain ⟨pairs, hdocument, hlast⟩ := (Option.any_eq_true _ _).mp hpairs
  obtain ⟨⟨key, value⟩, hlast, hplaces⟩ := (Option.any_eq_true _ _).mp hlast
  have hplaces : itemPlaces value = [2] := of_decide_eq_true hplaces
  cases value with
  | scalar | mapping => cases hplaces
  | sequence tag line nodes =>
    obtain ⟨item, rfl, hline⟩ := List.map_eq_singleton_iff.mp hplaces
    exact ⟨pairs, key, tag, line, [item], hdocument, hlast, by rw [List.map_singleton, placeOf, hline],
      by decide +kernel⟩

end Configuration

end TemplateSwap
