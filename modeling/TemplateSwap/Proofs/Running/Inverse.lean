import TemplateSwap.Proofs.Descriptor.Writing
import TemplateSwap.Proofs.Tree.Finding

namespace TemplateSwap

open TemplateSwap.Composite

/-- The failure as if what it is about had been declared at another place. -/
def Failure.declaredAt (place : Option Location) : Failure → Failure
  | .config e => .config { e with location := place }
  | failure => failure

theorem Template.validateKnown_at (t : Template) (known : List String) (place : Option Location) :
    ({ t with location := place } : Template).validateKnown known =
      (t.validateKnown known).mapError fun e => { e with location := place } := by
  unfold validateKnown names
  dsimp only
  split <;> rfl

theorem Template.exists_source {t : Template} {f : Fragments} (h : t.validateKnown f.names = .ok ()) :
    ∃ source, Composite.source t f = .ok source :=
  Composite.exists_source fun name index hmem =>
    Results.exists_lookup (validateKnown_ok.mp h name (mem_names.mpr ⟨index, hmem⟩))

namespace Replacer

variable (before after : Template) (f : Fragments) (firstOnly multiline : Bool)

theorem compile_at (place : Option Location) :
    compile { before with location := place } { after with location := place } f firstOnly multiline =
      (compile before after f firstOnly multiline).mapError (Failure.declaredAt place) := by
  have hat := before.validateKnown_at f.names place
  cases hknown : before.validateKnown f.names with
  | error e =>
    rw [hknown] at hat
    simp only [compile, hat, hknown, bind, Except.bind, Except.mapError, Failure.declaredAt]
  | ok _ =>
    rw [hknown] at hat
    obtain ⟨source, hsource⟩ := Template.exists_source hknown
    have hsource' : Composite.source { before with location := place } f = .ok source := hsource
    have hnames : Template.names { after with location := place } = after.names := rfl
    have htable : table { before with location := place } = table before := rfl
    simp only [compile, hat, hknown, hsource, hsource', hnames, htable, bind, Except.bind, Except.mapError]
    cases after.names.filter fun name => !((table before).any (·.1 = name)) with
    | cons name names => rfl
    | nil =>
      cases Pattern.compile source (flags multiline) with
      | ok p => rfl
      | error refusal => cases refusal <;> rfl

/-- If there is no replacer, the configuration is wrong. -/
theorem config_of_compile (hf : Sound f) {failure : Failure}
    (h : compile before after f firstOnly multiline = .error failure) : ∃ e, failure = .config e := by
  rcases Results.bind_error.mp h with hunknown | ⟨_, hknown, h⟩
  · cases hvalid : before.validateKnown f.names with
    | ok _ =>
      rw [hvalid] at hunknown
      cases hunknown
    | error e =>
      rw [hvalid] at hunknown
      exact ⟨e, (Except.error.inj hunknown).symm⟩
  · obtain ⟨source, hsource⟩ := Template.exists_source (Results.mapError_ok.mp hknown)
    simp only [hsource, bind, Except.bind] at h
    split at h
    · exact ⟨_, (Except.error.inj h).symm⟩
    · cases hp : Pattern.compile source (flags multiline) with
      | ok p =>
        simp only [hp] at h
        cases h
      | error refusal =>
        obtain ⟨e, rfl⟩ := faulty_of_compile hf hsource hp
        simp only [hp] at h
        exact ⟨_, (Except.error.inj h).symm⟩

end Replacer

theorem Spec.config_of_replacer {s : Spec} (hf : Sound s.fragments) {failure : Failure}
    (h : s.replacer = .error failure) : ∃ e, failure = .config e :=
  Replacer.config_of_compile _ _ _ _ _ hf h

/-- What a transformation becomes that is built anew: itself, but for its place, or a configuration error
with the message that every attempt to apply it ends with. -/
def Transformation.Rebuilt (t : Transformation) : Except ConfigError Transformation → Prop
  | .ok t' => (∃ r, t.spec.replacer = .ok r) ∧ ∃ place, t' = { t with spec := t.spec.declaredAt place }
  | .error e' => ∃ e, e'.detail = e.detail ∧ t.spec.replacer = .error (.config e) ∧
      ∀ root env tree, (t.apply root env tree).result = .ok ⟨t.identity, .error (.config e)⟩

/-- What is written of a transformation is built to the transformation. -/
theorem Entry.Says.rebuilt {e : Entry} {t : Transformation} (h : e.Says t.spec t.paths.filled) (ht : t.Made)
    (hf : Sound t.spec.fragments) (hpaths : t.paths.included ≠ []) (place : Option Location) :
    ∃ result, Kinds.build {} e place = .ok result ∧ t.Rebuilt result := by
  rw [h.build ht.spec, Kinds.outcome, Spec.replacer, Spec.declaredAt]
  dsimp only
  rw [Replacer.compile_at, ← Spec.replacer, PathFilter.filled_eq.mpr hpaths]
  cases hr : t.spec.replacer with
  | ok r =>
    refine ⟨_, rfl, ⟨r, hr⟩, place, ?_⟩
    exact congrArg (Transformation.mk (t.spec.declaredAt place) t.paths) ht.encoding.symm
  | error failure =>
    obtain ⟨e, rfl⟩ := Spec.config_of_replacer hf hr
    refine ⟨_, rfl, e, rfl, hr, fun root env tree => ?_⟩
    rw [Transformation.apply_unready hr]

namespace Configuration

theorem declare_ok {path : String} {items : List Value} {lines : List Int} {declared : List Declared}
    (h : declare path items lines = .ok declared) :
    List.Forall₂ (fun item (d : Declared) => Descriptor.read item d.location = .ok d.entry) items declared := by
  induction items generalizing lines declared with
  | nil =>
    obtain rfl := Except.ok.inj h
    exact .nil
  | cons item items ih =>
    obtain ⟨entry, hentry, h⟩ := Results.bind_ok.mp h
    obtain ⟨rest, hrest, h⟩ := Results.bind_ok.mp h
    obtain rfl := Results.pure_ok.mp h
    exact .cons hentry (ih hrest)

theorem exists_declare (path : String) {items : List Value} (lines : List Int)
    (h : ∀ item ∈ items, ∀ location, ∃ e, Descriptor.read item location = .ok e) :
    ∃ declared, declare path items lines = .ok declared := by
  induction items generalizing lines with
  | nil => exact ⟨[], rfl⟩
  | cons item items ih =>
    rw [List.forall_mem_cons] at h
    obtain ⟨e, he⟩ := h.1 { source := path, line := lines.head? }
    obtain ⟨rest, hrest⟩ := ih lines.tail h.2
    exact ⟨_, Results.bind_ok.mpr ⟨e, he, Results.bind_ok.mpr ⟨rest, hrest, rfl⟩⟩⟩

theorem declare_of_read {path : String} {data : List UInt8} {declared : List Declared}
    (h : read path data = .ok declared) : ∃ items lines, declare path items lines = .ok declared := by
  obtain ⟨text, -, h⟩ := Results.bind_ok.mp h
  obtain ⟨node, -, h⟩ := Results.bind_ok.mp h
  cases node <;>
  · obtain ⟨raw, -, h⟩ := Results.bind_ok.mp h
    obtain ⟨items, -, h⟩ := Results.bind_ok.mp h
    exact ⟨items, _, h⟩

/-- Every transformation of a configuration is built from a descriptor in it. -/
theorem build_made {tree : Tree} {path : String} {built : List (Except ConfigError Transformation)}
    {t : Transformation} (h : build {} tree path = .ok built) (ht : .ok t ∈ built) : t.Made := by
  obtain ⟨declared, hload, hall⟩ := Results.bind_ok.mp h
  obtain ⟨d, hd, hbuild⟩ := Results.forall₂_right (Results.mapM_ok.mp hall) ht
  obtain ⟨_, -, hread⟩ := Results.bind_ok.mp hload
  obtain ⟨items, lines, hdeclare⟩ := declare_of_read hread
  obtain ⟨item, -, hitem⟩ := Results.forall₂_right (declare_ok hdeclare) hd
  exact (Descriptor.build_ok hitem hbuild).1

/-- The text of a file says what a value is. -/
def Holds (data : List UInt8) (text : List Char) (value : Value) : Prop :=
  textOf data = .ok text ∧
    ∃ node, Markup.Node.ofText text = .ok (some node) ∧ node.value = .ok value

/-- The document of a configuration with the given descriptors. -/
def documentOf (items : List Value) : List (Value × Value) := [(.text "transformations", .list items)]

theorem read_document (path : String) {data : List UInt8} {text : List Char} {descriptors : List Value}
    (h : Holds data text (.map (documentOf descriptors)))
    (hread : ∀ item ∈ descriptors, ∀ location, ∃ e, Descriptor.read item location = .ok e) :
    ∃ declared, read path data = .ok declared ∧ List.Forall₂
      (fun item (d : Declared) => Descriptor.read item d.location = .ok d.entry) descriptors declared := by
  obtain ⟨htext, node, hnode, hvalue⟩ := h
  obtain ⟨declared, hdeclare⟩ := exists_declare path (lines node) hread
  have hitems : items path (.map (documentOf descriptors)) = .ok descriptors := by
    have hnamed : documentOf descriptors = Value.named [("transformations", .list descriptors)] := rfl
    have hkeys := Descriptor.checkKeys_named .top [("transformations", .list descriptors)] { source := path }
      (show ∀ name ∈ ["transformations"], name ∈ Section.top.allowed by decide)
    have hlist : Descriptor.getD (Value.named [("transformations", .list descriptors)]) "transformations" =
        .list descriptors := by
      rw [Descriptor.getD, Descriptor.get?, Value.Pairs.get?_named]
      rfl
    rw [hnamed, items, hkeys, hlist]
    rfl
  refine ⟨declared, ?_, declare_ok hdeclare⟩
  simp only [read, htext, hnode, hvalue, hitems, bind, Except.bind, Except.mapError]
  exact hdeclare

end Configuration

namespace CommandLine

theorem Report.textOf_singleton (line : String) : Report.textOf [line] = line ++ "\n" := by
  simp [Report.textOf, String.join]

theorem loadAll_made {tree : Tree} {config : String} {ts : List Transformation}
    (h : loadAll tree config = .ok ts) : ∀ t ∈ ts, t.Made ∧ t.spec.Ready := by
  intro t ht
  obtain ⟨built, hbuilt, -, hall⟩ := loadAll_ok h
  exact ⟨Configuration.build_made hbuilt (hall t ht), build_ready hbuilt (hall t ht)⟩

theorem reverse_ok {tree : Tree} {config : String} {ts rs : List Transformation}
    (hload : loadAll tree config = .ok ts) (hreverse : Transformation.reverseAll ts = (rs, [])) :
    reverse tree config = { output := [document rs] } := by
  have hready : (loadAll tree config).bind reverseOrReport = .ok rs := by
    rw [hload]
    change reverseOrReport ts = .ok rs
    unfold reverseOrReport
    rw [hreverse]
  unfold reverse
  rw [hready]

/-- The transformations that undo those of a configuration can be written and built like them. -/
theorem reverseAll_made {tree : Tree} {config : String} {ts : List Transformation}
    (hload : loadAll tree config = .ok ts) {r : Transformation} (hr : r ∈ (Transformation.reverseAll ts).1) :
    r.Made ∧ Composite.Sound r.spec.fragments ∧ ∃ t ∈ ts, r.paths = t.paths := by
  obtain ⟨t, ht, hturn⟩ := mem_reverseAll hr
  obtain ⟨hmade, hready⟩ := loadAll_made hload t ht
  refine ⟨hmade.reverse hturn, ?_⟩
  obtain ⟨s, hs, hpure⟩ := Results.bind_ok.mp hturn
  obtain rfl := Results.pure_ok.mp hpure
  obtain ⟨-, rfl⟩ := Spec.reverse_ok.mp hs
  exact ⟨hready.sound, t, ht, rfl⟩

/-- The configuration that is printed to undo another one. If its text is read as the document that was
printed, what is built from it are the transformations that undo the others, in their order; one that
cannot be built could not be applied, and both say so in the same words. -/
theorem reverse_reloaded {tree : Tree} {config : String} {ts rs : List Transformation}
    (hload : loadAll tree config = .ok ts) (hpaths : ∀ t ∈ ts, t.paths.included ≠ [])
    (hreverse : Transformation.reverseAll ts = (rs, [])) :
    reverse tree config =
      { output := [Markup.Printer.document (Configuration.documentOf (rs.map Descriptor.write))] } ∧
    ∀ (tree' : Tree) (path : String) (place : List String) (data : List UInt8),
      tree'.readFile (Path.normal path) = .ok (place, data) →
      Configuration.Holds data (Report.textOf (reverse tree config).output).toList
        (.map (Configuration.documentOf (rs.map Descriptor.write))) →
      ∃ built, Configuration.build {} tree' path = .ok built ∧
        List.Forall₂ Transformation.Rebuilt rs built := by
  refine ⟨reverse_ok hload hreverse, fun tree' path place data hfile hholds => ?_⟩
  have hmade : ∀ r ∈ rs, r.Made ∧ Composite.Sound r.spec.fragments ∧ r.paths.included ≠ [] := by
    intro r hr
    have hmem : r ∈ (Transformation.reverseAll ts).1 := by
      rw [hreverse]
      exact hr
    obtain ⟨hmade, hsound, t, ht, hsame⟩ := reverseAll_made hload hmem
    exact ⟨hmade, hsound, hsame ▸ hpaths t ht⟩
  have hread : ∀ item ∈ rs.map Descriptor.write, ∀ location,
      ∃ e, Descriptor.read item location = .ok e := by
    intro item hitem location
    obtain ⟨r, hr, rfl⟩ := List.mem_map.mp hitem
    obtain ⟨e, he, -⟩ := Descriptor.read_write (hmade r hr).1 location
    exact ⟨e, he⟩
  obtain ⟨declared, hdeclared, hall⟩ := Configuration.read_document (Path.normal path) hholds hread
  have heach : List.Forall₂ (fun (r : Transformation) (d : Declared) => ∃ result,
      Kinds.build {} d.entry (some d.location) = .ok result ∧ r.Rebuilt result) rs declared := by
    rw [List.forall₂_map_left_iff] at hall
    refine ((List.forall₂_and_left _ _).mpr ⟨hmade, hall⟩).imp ?_
    intro r d h
    obtain ⟨⟨hr, hsound, hincluded⟩, hd⟩ := h
    obtain ⟨e, he, hsaid⟩ := Descriptor.read_write hr d.location
    obtain rfl := Except.ok.inj (he.symm.trans hd)
    exact hsaid.rebuilt hr hsound hincluded _
  obtain ⟨built, hbuilt, hrebuilt⟩ := Results.forall₂_choose heach
  have hload' : Configuration.load tree' path = .ok declared :=
    (Configuration.load_of_readFile hfile).trans hdeclared
  exact ⟨built, Results.bind_ok.mpr ⟨declared, hload', Results.mapM_ok.mpr hbuilt⟩, hrebuilt⟩

/-- What is printed to undo the configuration. -/
def exchangeBack : String :=
  "transformations:\n- before: bar\n  after: foo\n- before: ${x}${y}\n  after: ${y}${x}\n"
    ++ "  regex_groups:\n    x: (a)\\1\n    y: c\n"

def exchangeTree : Tree :=
  .directory [("a", .file (contents exchange)), ("b", .file (contents exchangeBack))]

/-- The texts in the document that undoes it, which say what the document is. -/
def exchangeTexts : Value → List String
  | .map [(.text a, .list [.map [(.text b, .text c), (.text d, .text e)],
      .map [(.text f, .text g), (.text h, .text i), (.text j, .map [(.text k, .text l), (.text m, .text n)])]])] =>
    [a, b, c, d, e, f, g, h, i, j, k, l, m, n]
  | _ => []

def exchangeWords : List String :=
  ["transformations", "before", "bar", "after", "foo", "before", "${x}${y}", "after", "${y}${x}",
    "regex_groups", "x", "(a)\\1", "y", "c"]

theorem exchangeTexts_inj {v w : Value} (hv : exchangeTexts v = exchangeWords)
    (hw : exchangeTexts w = exchangeWords) : v = w := by
  have h := hv.trans hw.symm
  unfold exchangeTexts at hv hw h
  split at hv
  · split at hw
    · simp only [List.cons.injEq, and_true] at h
      obtain ⟨rfl, rfl, rfl, rfl, rfl, rfl, rfl, rfl, rfl, rfl, rfl, rfl, rfl, rfl⟩ := h
      rfl
    · cases hw
  · cases hv

/-- What there is to check of the transformations of the configuration. -/
def exchangeChecked : List (Except ConfigError Transformation) → Bool
  | [.ok t, .ok u] =>
    let (rs, errors) := Transformation.reverseAll [t, u]
    let document := Configuration.documentOf (rs.map Descriptor.write)
    decide (∀ x ∈ [t, u], x.paths.included ≠ []) && errors.isEmpty
      && decide (exchangeTexts (.map document) = exchangeWords)
      && decide (Markup.Printer.document document ++ "\n" = exchangeBack)
  | _ => false

theorem reverse_reloaded_exchange : ∃ ts rs, loadAll exchangeTree "a" = .ok ts ∧
    (∀ t ∈ ts, t.paths.included ≠ []) ∧ Transformation.reverseAll ts = (rs, []) ∧ ts.length = 2 ∧
    exchangeTree.readFile (Path.normal "b") = .ok (["b"], contents exchangeBack) ∧
    Configuration.Holds (contents exchangeBack) (Report.textOf (reverse exchangeTree "a").output).toList
      (.map (Configuration.documentOf (rs.map Descriptor.write))) ∧
    ∃ built, Configuration.build {} exchangeTree "b" = .ok built ∧
      List.Forall₂ Transformation.Rebuilt rs built := by
  have hfile : exchangeTree.readFile (Path.normal "a") = .ok (["a"], contents exchange) := by
    rw [Path.normal_name (by decide)]
    exact Tree.readFile_name (by decide) rfl
  have hfile' : exchangeTree.readFile (Path.normal "b") = .ok (["b"], contents exchangeBack) := by
    rw [Path.normal_name (by decide)]
    exact Tree.readFile_name (by decide) rfl
  have hbuilt : ∃ built, Configuration.build {} exchangeTree "a" = .ok built ∧ exchangeChecked built = true :=
    Configuration.exists_build hfile (by decide +kernel)
  obtain ⟨built, hbuild, hchecked⟩ := hbuilt
  unfold exchangeChecked at hchecked
  split at hchecked
  · next t u =>
    have hload : loadAll exchangeTree "a" = .ok [t, u] := loadAll_eq_ok.mpr hbuild
    obtain ⟨hchecked, hprinted⟩ := Bool.and_eq_true_iff.mp hchecked
    obtain ⟨hchecked, hwords⟩ := Bool.and_eq_true_iff.mp hchecked
    obtain ⟨hincluded, herrors⟩ := Bool.and_eq_true_iff.mp hchecked
    have hpaths : ∀ x ∈ [t, u], x.paths.included ≠ [] := of_decide_eq_true hincluded
    have hreverse : Transformation.reverseAll [t, u] = ((Transformation.reverseAll [t, u]).1, []) :=
      Prod.ext rfl (List.isEmpty_iff.mp herrors)
    obtain ⟨hprint, hreload⟩ := reverse_reloaded hload hpaths hreverse
    have hholds : Configuration.Holds (contents exchangeBack) (Report.textOf (reverse exchangeTree "a").output).toList
        (.map (Configuration.documentOf ((Transformation.reverseAll [t, u]).1.map Descriptor.write))) := by
      have hcontents : ∃ text, Configuration.textOf (contents exchangeBack) = .ok text ∧
          decide (text = exchangeBack.toList) = true := Results.exists_ok (by decide +kernel)
      have hnode : ∃ node, Markup.Node.ofText exchangeBack.toList = .ok node ∧
          (node.any fun node => node.value.toOption.any fun v => decide (exchangeTexts v = exchangeWords)) =
            true := Results.exists_ok (by decide +kernel)
      obtain ⟨text, hcontents, htext⟩ := hcontents
      obtain ⟨node, hnode, hvalue⟩ := hnode
      cases node with
      | none => cases hvalue
      | some node =>
      obtain ⟨v, hv, hsame⟩ := Results.exists_ok hvalue
      have hprinted' : Report.textOf (reverse exchangeTree "a").output = exchangeBack := by
        rw [hprint, Report.textOf_singleton]
        exact of_decide_eq_true hprinted
      rw [hprinted']
      rw [of_decide_eq_true htext] at hcontents
      have hvalue := exchangeTexts_inj (of_decide_eq_true hsame) (of_decide_eq_true hwords)
      exact ⟨hcontents, node, hnode, hv.trans (congrArg _ hvalue)⟩
    exact ⟨[t, u], _, hload, hpaths, hreverse, rfl, hfile', hholds, hreload _ _ _ _ hfile' hholds⟩
  · cases hchecked

end CommandLine

end TemplateSwap
