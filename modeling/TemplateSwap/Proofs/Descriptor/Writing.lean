import TemplateSwap.Kinds
import TemplateSwap.Proofs.Descriptor.Fields
import TemplateSwap.Proofs.Replacement.Swapping
import TemplateSwap.Proofs.Running.HalfApplied

namespace TemplateSwap

open TemplateSwap.Value (named given)

/-- A filter whose globs to include are all paths if there are none. -/
def PathFilter.filled (f : PathFilter) : PathFilter :=
  { f with included := if f.included = [] then ["**"] else f.included }

theorem PathFilter.filled_eq {f : PathFilter} : f.filled = f ↔ f.included ≠ [] := by
  obtain ⟨included, excluded⟩ := f
  cases included <;> simp [filled]

theorem Template.read_at {source : String} {repeatsAllowed : Bool} {location : Option Location}
    {t : Template} (h : read source repeatsAllowed location = .ok t) (place : Option Location) :
    read source repeatsAllowed place = .ok { t with location := place } := by
  obtain ⟨hcanonical, hrender, hsource, -⟩ := read_eq_iff.mp h
  exact read_eq_iff.mpr ⟨hcanonical, hrender, hsource, rfl⟩

namespace Spec

variable {s s' : Spec}

/-- The specification as if it had been declared at another place. -/
def declaredAt (s : Spec) (place : Option Location) : Spec :=
  { s with before := { s.before with location := place }, after := { s.after with location := place } }

theorem Made.after_location (h : s.Made) : s.after.location = s.location :=
  (Template.read_eq_iff.mp h.after).2.2.2

theorem Made.declaredAt_location (h : s.Made) : s.declaredAt s.location = s := by
  have hafter := h.after_location
  obtain ⟨before, after, fragments, firstOnly, multiline, repeatedGroups⟩ := s
  obtain ⟨source, tokens, location⟩ := after
  obtain rfl : location = before.location := hafter
  rfl

/-- What a specification is made from. -/
def origin (s : Spec) (place : Option Location) : SpecSource where
  before := s.before.source
  after := s.after.source
  groups := s.fragments.groups
  firstOnly := s.firstOnly
  multiline := s.multiline
  repeatedGroups := s.repeatedGroups
  location := place

theorem Made.create_origin (h : s.Made) (place : Option Location) :
    create (s.origin place) = .ok (s.declaredAt place) := by
  have hknown : Template.validateKnown { s.before with location := place } s.fragments.names = .ok () :=
    Template.validateKnown_ok.mpr fun name => (h.names name).mp
  have hunused : Template.validateUnused { s.before with location := place } s.fragments.names = .ok () :=
    Template.validateUnused_ok.mpr fun name => (h.names name).mpr
  simp only [create, origin, h.fragments, Template.readKnown, Template.read_at h.before place,
    Template.read_at h.after place, hknown, hunused, bind, Except.bind, Except.mapError, pure, Except.pure]
  rfl

end Spec

/-- What all transformations have that are built from descriptors, or by turning such ones around. -/
structure Transformation.Made (t : Transformation) : Prop where
  spec : t.spec.Made
  distinct : t.spec.fragments.names.Nodup
  encoding : t.encoding = "utf-8"

theorem Transformation.Made.reverse {t t' : Transformation} (h : t.Made) (hreverse : t.reverse = .ok t') :
    t'.Made := by
  obtain ⟨s, hs, hpure⟩ := Results.bind_ok.mp hreverse
  obtain rfl := Results.pure_ok.mp hpure
  refine ⟨h.spec.reverse hs, ?_, h.encoding⟩
  obtain ⟨-, rfl⟩ := Spec.reverse_ok.mp hs
  exact h.distinct

namespace Fragments

theorem groups_eq (f : Fragments) :
    f.groups = named (f.sources.map fun (name, source) => (name, .text source)) := by
  rw [groups, named, List.map_map]
  rfl

theorem names_of_compile {entries : List (String × Value)} {location : Option Location} {f : Fragments}
    (h : compile (named entries) location = .ok f) : f.names = entries.map (·.1) := by
  have hkeys := congrArg (List.map (·.1)) (groups_of_compile h)
  rw [groups_eq, named, named, List.map_map, List.map_map, List.map_map] at hkeys
  have hnames : entries.map (Value.text ∘ (·.1)) = f.sources.map (Value.text ∘ (·.1)) := hkeys
  rw [← List.map_map, ← List.map_map, List.map_inj_right fun _ _ => Value.text.inj] at hnames
  rw [hnames, sources, names, List.map_map]
  rfl

end Fragments

namespace Descriptor

variable {raw : Value} {location : Location} {e : Entry}

/-- The fields of a descriptor with its groups and paths settled. -/
def settled (fields groups : List (Value × Value)) (paths : PathFilter) : Entry :=
  ⟨Value.Pairs.put (Value.Pairs.put fields (.text "regex_groups") (.map groups)) (.text "paths")
    (.filter paths)⟩

theorem get?_settled_groups (fields groups : List (Value × Value)) (paths : PathFilter) :
    (settled fields groups paths).get? "regex_groups" = some (.map groups) := by
  rw [Entry.get?, settled, Value.Pairs.get?_put_of_ne (by decide), Value.Pairs.get?_put_self]

theorem get?_settled_paths (fields groups : List (Value × Value)) (paths : PathFilter) :
    (settled fields groups paths).get? "paths" = some (.filter paths) :=
  Value.Pairs.get?_put_self

theorem get?_settled (fields groups : List (Value × Value)) (paths : PathFilter) {key : String}
    (hgroups : "regex_groups" ≠ key) (hpaths : "paths" ≠ key) :
    (settled fields groups paths).get? key = get? fields key := by
  rw [Entry.get?, settled, Value.Pairs.get?_put_of_ne hpaths, Value.Pairs.get?_put_of_ne hgroups, get?]

theorem checkText_ok {fields : List (Value × Value)} {key : String} :
    checkText fields location key = .ok () ↔ ∃ s, get? fields key = some (.text s) := by
  unfold checkText
  split
  · next s h => simp [h]
  · next hno => simpa using hno

theorem read_ok (h : read raw location = .ok e) : ∃ fields groups paths, raw = .map fields ∧
    (∀ key ∈ requiredKeys, ∃ s, get? fields key = some (.text s)) ∧
    readGroups (getD fields "regex_groups") location = .ok groups ∧
    readPaths (getD fields "paths") location = .ok paths ∧ e = settled fields groups paths := by
  unfold read at h
  split at h
  · next fields =>
    obtain ⟨_, -, h⟩ := Results.bind_ok.mp h
    obtain ⟨_, htexts, h⟩ := Results.bind_ok.mp h
    obtain ⟨_, -, h⟩ := Results.bind_ok.mp h
    obtain ⟨groups, hgroups, h⟩ := Results.bind_ok.mp h
    obtain ⟨paths, hpaths, h⟩ := Results.bind_ok.mp h
    obtain rfl := Results.pure_ok.mp h
    exact ⟨fields, groups, paths, rfl, fun key hkey => checkText_ok.mp (Results.forM_ok.mp htexts key hkey),
      hgroups, hpaths, rfl⟩
  · cases h

/-- A descriptor is read if all its keys are known and each field is what it has to be. -/
theorem read_named {entries : List (String × Value)} {groups : List (Value × Value)} {paths : PathFilter}
    (hkeys : ∀ name ∈ entries.map (·.1), name ∈ Section.entry.allowed)
    (htexts : ∀ key ∈ requiredKeys, ∃ s, entries.lookup key = some (.text s))
    (htruths : ∀ key ∈ truthKeys, entries.lookup key = none ∨ ∃ on, entries.lookup key = some (.bool on))
    (hgroups : readGroups ((entries.lookup "regex_groups").getD .null) location = .ok groups)
    (hpaths : readPaths ((entries.lookup "paths").getD .null) location = .ok paths) :
    read (.map (named entries)) location = .ok (settled (named entries) groups paths) := by
  have hlookup : ∀ key, get? (named entries) key = entries.lookup key := fun key => Value.Pairs.get?_named
  have hrequired : requiredKeys.forM (checkText (named entries) location) = .ok () := by
    refine Results.forM_ok.mpr fun key hkey => checkText_ok.mpr ?_
    rw [hlookup]
    exact htexts key hkey
  have hswitches : truthKeys.forM (checkTruth (named entries) location) = .ok () := by
    refine Results.forM_ok.mpr fun key hkey => ?_
    rw [checkTruth, hlookup]
    rcases htruths key hkey with hnone | ⟨on, hon⟩
    · rw [hnone]
    · rw [hon]
  rw [read, checkKeys_named .entry entries location hkeys, hrequired, hswitches, getD, getD, hlookup, hlookup, hgroups,
    hpaths]
  rfl

/-- The groups of a mapping with their keys written as texts. -/
def written (pairs : List (Value × Value)) : List (String × Value) := pairs.map fun (key, v) => (key.display, v)

theorem readGroups_map (pairs : List (Value × Value)) (location : Location) :
    readGroups (.map pairs) location = .ok (Value.Pairs.ofList (named (written pairs))) := by
  rw [named, written, List.map_map]
  rfl

theorem readGroups_ok {value : Value} {groups : List (Value × Value)}
    (h : readGroups value location = .ok groups) :
    ∃ entries, groups = named entries ∧ (entries.map (·.1)).Nodup := by
  cases value with
  | map pairs =>
    obtain ⟨entries, hentries, hdistinct, -⟩ := Value.Pairs.ofList_named (written pairs)
    rw [readGroups_map] at h
    exact ⟨entries, (Except.ok.inj h).symm.trans hentries, hdistinct⟩
  | _ =>
    simp only [readGroups] at h
    split_ifs at h
    exact ⟨[], (Except.ok.inj h).symm, List.nodup_nil⟩

theorem items?_ne_nil {value : Value} {items : List Value} (hvoid : value.isVoid = false)
    (h : items? value = some items) : items ≠ [] := by
  rintro rfl
  cases value <;> simp_all [items?, Value.isVoid]

theorem globs_ne_nil {value : Option Value} {default globs' : List String} (hdefault : default ≠ [])
    (h : globs value default = .ok globs') : globs' ≠ [] := by
  unfold globs at h
  split at h
  · obtain rfl := Except.ok.inj h
    exact hdefault
  · split_ifs at h with hvoid
    · obtain rfl := Except.ok.inj h
      exact hdefault
    · split at h
      · next items hitems =>
        obtain rfl := Except.ok.inj h
        rw [Ne, List.map_eq_nil_iff]
        exact items?_ne_nil (Bool.not_eq_true _ ▸ hvoid) hitems
      · cases h

/-- Only an empty list stands for no globs to include. -/
theorem readPaths_included {value : Value} {paths : PathFilter}
    (h : readPaths value location = .ok paths) :
    (paths.included = [] ↔ value = .list []) ∧ (paths.included = [] → paths.excluded = []) := by
  unfold readPaths at h
  split at h
  · obtain rfl := Except.ok.inj h
    simp
  · obtain rfl := Except.ok.inj h
    simp
  · obtain rfl := Except.ok.inj h
    simp
  · obtain ⟨_, -, h⟩ := Results.bind_ok.mp h
    obtain ⟨included, hincluded, h⟩ := Results.bind_ok.mp h
    obtain ⟨excluded, -, h⟩ := Results.bind_ok.mp h
    obtain rfl := Results.pure_ok.mp h
    have hne := globs_ne_nil (by decide) hincluded
    simp [hne]
  · cases h

end Descriptor

/-- What a descriptor says: the fields that a transformation is built from. -/
structure Entry.Says (e : Entry) (s : Spec) (paths : PathFilter) : Prop where
  kind : e.get? "type" = none
  before : e.get? "before" = some (.text s.before.source)
  after : e.get? "after" = some (.text s.after.source)
  groups : e.get? "regex_groups" = some (.map s.fragments.groups)
  paths : e.get? "paths" = some (.filter paths)
  firstOnly : Factory.flagOf e "first_only" = s.firstOnly
  multiline : Factory.flagOf e "multiline" = s.multiline
  repeatedGroups : Factory.flagOf e "repeated_groups" = s.repeatedGroups

namespace Descriptor

variable {t : Transformation} {location : Location}

/-- The fields of a written transformation, those included that are left out. -/
def options (t : Transformation) : List (String × Option Value) :=
  let texts (items : List String) : Value := .list (items.map .text)
  let flag (on : Bool) : Option Value := if on then some (.bool true) else none
  [("before", some (.text t.spec.before.source)), ("after", some (.text t.spec.after.source)),
    ("regex_groups", if t.spec.fragments.entries = [] then none else some (.map t.spec.fragments.groups)),
    ("paths", if t.paths = {} then none
      else some (.map (named [("include", texts t.paths.included), ("exclude", texts t.paths.excluded)]))),
    ("first_only", flag t.spec.firstOnly), ("multiline", flag t.spec.multiline),
    ("repeated_groups", flag t.spec.repeatedGroups)]

theorem names_options (t : Transformation) : (options t).map (·.1) =
    ["before", "after", "regex_groups", "paths", "first_only", "multiline", "repeated_groups"] := rfl

theorem named_toList {condition : Prop} [Decidable condition] (name : String) (value : Value) :
    named ((if condition then some value else none).map (name, ·)).toList =
      if condition then [(.text name, value)] else [] := by
  split <;> rfl

theorem named_toList_not {condition : Prop} [Decidable condition] (name : String) (value : Value) :
    named ((if condition then none else some value).map (name, ·)).toList =
      if condition then [] else [(.text name, value)] := by
  split <;> rfl

theorem write_eq (t : Transformation) : write t = .map (named (given (options t))) := by
  simp only [write, options, Value.given_cons, Value.given_nil, Value.named_append,
    named_toList, named_toList_not, List.append_assoc, List.append_nil]
  rfl

theorem lookup_write (t : Transformation) (key : String) :
    (given (options t)).lookup key = ((options t).lookup key).join := by
  rw [Value.lookup_given]
  rw [names_options]
  decide

theorem get?_write (t : Transformation) (key : String) :
    get? (named (given (options t))) key = ((options t).lookup key).join := by
  rw [get?, Value.Pairs.get?_named, lookup_write]

theorem readGroups_write (h : t.Made) :
    readGroups (getD (named (given (options t))) "regex_groups") location = .ok t.spec.fragments.groups := by
  have hnames : (t.spec.fragments.sources.map fun entry => (entry.1, Value.text entry.2)).map (·.1) =
      t.spec.fragments.names := by
    rw [List.map_map, Fragments.sources, List.map_map]
    rfl
  obtain ⟨entries, hentries, -, -, -, hsame⟩ := Value.Pairs.ofList_named
    (t.spec.fragments.sources.map fun entry => (entry.1, Value.text entry.2))
  obtain rfl := hsame (hnames ▸ h.distinct)
  rw [getD, get?_write]
  by_cases hempty : t.spec.fragments.entries = []
  · have hnone : (options t).lookup "regex_groups" = some none := by simp [options, List.lookup_cons, hempty]
    simp [hnone, readGroups, Value.isVoid, Fragments.groups, Fragments.sources, hempty]
  · have hsome : (options t).lookup "regex_groups" = some (some (.map t.spec.fragments.groups)) := by
      simp [options, List.lookup_cons, hempty]
    have hdisplay : t.spec.fragments.groups.map (fun pair => (Value.text pair.1.display, pair.2)) =
        t.spec.fragments.groups := by
      rw [Fragments.groups, List.map_map]
      rfl
    simp only [hsome, Option.join_some, Option.getD_some, readGroups, hdisplay]
    rw [Fragments.groups_eq, hentries]

theorem globs_list (items : List Value) (default : List String) :
    globs (some (.list items)) default = .ok (if items = [] then default else items.map Value.display) := by
  rw [globs, Value.isVoid, items?]
  simp only [List.isEmpty_iff]
  split_ifs <;> rfl

theorem globs_texts (texts default : List String) :
    globs (some (.list (texts.map .text))) default = .ok (if texts = [] then default else texts) := by
  simp [globs_list, Value.display, Function.comp_def]

theorem readPaths_write :
    readPaths (getD (named (given (options t))) "paths") location = .ok t.paths.filled := by
  rw [getD, get?_write]
  by_cases hdefault : t.paths = {}
  · have hnone : (options t).lookup "paths" = some none := by simp [options, List.lookup_cons, hdefault]
    rw [hnone, hdefault]
    rfl
  · have hsome : (options t).lookup "paths" = some (some (.map (named
        [("include", .list (t.paths.included.map .text)), ("exclude", .list (t.paths.excluded.map .text))]))) := by
      simp [options, List.lookup_cons, hdefault]
    have hkeys := checkKeys_named .paths [("include", .list (t.paths.included.map .text)),
      ("exclude", .list (t.paths.excluded.map .text))] location
      (show ∀ name ∈ ["include", "exclude"], name ∈ Section.paths.allowed by decide)
    have hincluded : get? (named [("include", .list (t.paths.included.map .text)),
        ("exclude", .list (t.paths.excluded.map .text))]) "include" =
          some (.list (t.paths.included.map .text)) := Value.Pairs.get?_named
    have hexcluded : get? (named [("include", .list (t.paths.included.map .text)),
        ("exclude", .list (t.paths.excluded.map .text))]) "exclude" =
          some (.list (t.paths.excluded.map .text)) := Value.Pairs.get?_named
    rw [hsome, Option.join_some, Option.getD_some, readPaths, hkeys, hincluded, hexcluded, globs_texts,
      globs_texts]
    simp only [bind, Except.bind, pure, Except.pure, PathFilter.filled]
    cases t.paths.excluded <;> rfl

/-- A switch that is off is left out. -/
theorem lookup_switches (t : Transformation) :
    List.Forall₂ (fun key on => ((options t).lookup key).join = if on then some (.bool true) else none) truthKeys
      [t.spec.firstOnly, t.spec.multiline, t.spec.repeatedGroups] :=
  .cons rfl (.cons rfl (.cons rfl .nil))

/-- What was written can be read, and says what was written; globs to include are filled in. -/
theorem read_write (h : t.Made) (location : Location) :
    ∃ e, read (write t) location = .ok e ∧ e.Says t.spec t.paths.filled := by
  have hkeys : ∀ name ∈ (given (options t)).map (·.1), name ∈ Section.entry.allowed := by
    intro name hname
    have hmem := (Value.given_names (options t)).subset hname
    exact (show ∀ name ∈ (options t).map (·.1), name ∈ Section.entry.allowed by rw [names_options]; decide) name hmem
  have htexts : ∀ key ∈ requiredKeys, ∃ s, (given (options t)).lookup key = some (.text s) := by
    intro key hkey
    rw [lookup_write]
    simp only [requiredKeys, List.mem_cons, List.not_mem_nil, or_false] at hkey
    rcases hkey with rfl | rfl <;> exact ⟨_, rfl⟩
  have htruths : ∀ key ∈ truthKeys, (given (options t)).lookup key = none ∨
      ∃ on, (given (options t)).lookup key = some (.bool on) := by
    intro key hkey
    obtain ⟨on, -, hon⟩ := Results.forall₂_right (lookup_switches t).flip hkey
    rw [lookup_write, hon]
    cases on with
    | false => exact .inl rfl
    | true => exact .inr ⟨true, rfl⟩
  have hkept : ∀ key, "regex_groups" ≠ key → "paths" ≠ key →
      (settled (named (given (options t))) t.spec.fragments.groups t.paths.filled).get? key =
        ((options t).lookup key).join := by
    intro key hgroups hpaths
    rw [get?_settled _ _ _ hgroups hpaths, get?_write]
  have hswitch : ∀ key on, "regex_groups" ≠ key → "paths" ≠ key →
      ((options t).lookup key).join = (if on then some (.bool true) else none) →
      Factory.flagOf (settled (named (given (options t))) t.spec.fragments.groups t.paths.filled) key = on := by
    intro key on hgroups hpaths hon
    rw [Factory.flagOf, hkept key hgroups hpaths, hon]
    cases on <;> rfl
  refine ⟨settled (named (given (options t))) t.spec.fragments.groups t.paths.filled, ?_, ?_⟩
  · rw [write_eq]
    apply read_named hkeys htexts htruths
    · rw [← Value.Pairs.get?_named]
      exact readGroups_write h
    · rw [← Value.Pairs.get?_named]
      exact readPaths_write
  constructor
  · exact hkept "type" (by decide) (by decide)
  · exact hkept "before" (by decide) (by decide)
  · exact hkept "after" (by decide) (by decide)
  · exact get?_settled_groups _ _ _
  · exact get?_settled_paths _ _ _
  · exact hswitch "first_only" _ (by decide) (by decide) rfl
  · exact hswitch "multiline" _ (by decide) (by decide) rfl
  · exact hswitch "repeated_groups" _ (by decide) (by decide) rfl

end Descriptor

/-- What comes of building a transformation of a specification, once it is known whether there is a
replacer for it. -/
def Kinds.outcome (s : Spec) (paths : PathFilter) : Except Failure (Except ConfigError Transformation) :=
  match s.replacer with
  | .ok _ => .ok (.ok { spec := s, paths })
  | .error (.config e) => .ok (.error e)
  | .error failure => .error failure

/-- A descriptor with two templates and groups is built by making the specification and then its replacer. -/
theorem Factory.buildReplace_eq {e : Entry} {before after : String} {groups : List (Value × Value)}
    {paths : PathFilter} (hbefore : e.get? "before" = some (.text before))
    (hafter : e.get? "after" = some (.text after)) (hgroups : e.get? "regex_groups" = some (.map groups))
    (hpaths : e.get? "paths" = some (.filter paths)) (place : Option Location) :
    Factory.buildReplace e place = (do
      let spec ← Spec.create
        { before, after, groups, firstOnly := flagOf e "first_only", multiline := flagOf e "multiline"
          repeatedGroups := flagOf e "repeated_groups", location := place }
      let _ ← spec.replacer
      return { spec, paths }) := by
  simp only [buildReplace, fieldOrFail, hbefore, hafter, groupsOf, hgroups, pathsOf, hpaths, specOf, bind,
    Except.bind]

theorem Entry.Says.build {e : Entry} {s : Spec} {paths : PathFilter} (h : e.Says s paths) (hs : s.Made)
    (place : Option Location) : Kinds.build {} e place = Kinds.outcome (s.declaredAt place) paths := by
  have hspec : Spec.create
      { before := s.before.source, after := s.after.source, groups := s.fragments.groups, firstOnly := s.firstOnly
        multiline := s.multiline, repeatedGroups := s.repeatedGroups, location := place } =
      .ok (s.declaredAt place) := hs.create_origin place
  have hbuild : Factory.buildReplace e place = (do
      let _ ← (s.declaredAt place).replacer
      return { spec := s.declaredAt place, paths }) := by
    rw [Factory.buildReplace_eq h.before h.after h.groups h.paths, h.firstOnly, h.multiline, h.repeatedGroups, hspec]
    rfl
  have hkind : Kinds.get {} (.text "replace") = .ok .replace := by
    simp [Kinds.get, Value.isKey, Value.same]
  rw [Kinds.build, h.kind, Option.getD_none, hkind]
  dsimp only
  rw [Factory.build, hbuild, Kinds.outcome]
  cases (s.declaredAt place).replacer with
  | ok r => rfl
  | error failure => cases failure <;> rfl

theorem Kinds.build_ok {e : Entry} {place : Option Location} {t : Transformation}
    (h : Kinds.build {} e place = .ok (.ok t)) : Factory.buildReplace e place = .ok t := by
  unfold Kinds.build at h
  split at h
  · cases Except.ok.inj h
  · cases h
  · next f hf =>
    obtain rfl := Kinds.get_default hf
    split at h
    · next built hbuilt =>
      obtain rfl := Except.ok.inj (Except.ok.inj h)
      exact hbuilt
    · cases Except.ok.inj h
    · cases h

namespace Descriptor

/-- What is built from a descriptor has its place, its paths, and a replacer. -/
theorem build_ok {raw : Value} {location : Location} {e : Entry} {place : Option Location}
    {t : Transformation} (hread : read raw location = .ok e)
    (h : Kinds.build {} e place = .ok (.ok t)) : t.Made ∧ t.spec.location = place ∧
      (∃ r, t.spec.replacer = .ok r) ∧
      ∃ fields, raw = .map fields ∧ readPaths (getD fields "paths") location = .ok t.paths := by
  obtain ⟨fields, groups, paths, hraw, -, hgroups, hpaths, rfl⟩ := read_ok hread
  obtain ⟨entries, rfl, hdistinct⟩ := readGroups_ok hgroups
  obtain ⟨before, -, h⟩ := Results.bind_ok.mp (Kinds.build_ok h)
  obtain ⟨after, -, h⟩ := Results.bind_ok.mp h
  obtain ⟨groups, hgroups, h⟩ := Results.bind_ok.mp h
  obtain ⟨s, hs, h⟩ := Results.bind_ok.mp h
  obtain ⟨r, hr, h⟩ := Results.bind_ok.mp h
  obtain ⟨paths', hpaths', h⟩ := Results.bind_ok.mp h
  obtain rfl := Results.pure_ok.mp h
  rw [Factory.groupsOf, get?_settled_groups] at hgroups
  obtain rfl := Except.ok.inj hgroups
  rw [Factory.pathsOf, get?_settled_paths] at hpaths'
  obtain rfl := Except.ok.inj hpaths'
  obtain ⟨_, _, hcreate⟩ := Factory.specOf_ok hs
  obtain ⟨hfragments, hbefore, -⟩ := Spec.create_ok hcreate
  have hplace : s.location = place := (Template.read_eq_iff.mp hbefore).2.2.2
  exact ⟨⟨Spec.made_of_create hcreate, Fragments.names_of_compile hfragments ▸ hdistinct, rfl⟩, hplace,
    ⟨r, hr⟩, fields, hraw, hpaths⟩

/-- The paths of a descriptor are an empty list. -/
def EmptyPaths (raw : Value) : Prop := ∃ fields, raw = .map fields ∧ get? fields "paths" = some (.list [])

theorem emptyPaths_iff {fields : List (Value × Value)} :
    EmptyPaths (.map fields) ↔ getD fields "paths" = .list [] := by
  simp only [EmptyPaths, getD, Value.map.injEq, exists_eq_left']
  cases get? fields "paths" <;> simp

/-- A transformation that was built from a descriptor is the same after it was written, read and built
again, unless the paths of the descriptor were an empty list: this is written as an empty list of globs
to include, which is read as if it were left out, so that all paths are taken instead of none. -/
theorem build_write {raw : Value} {location : Location} {e : Entry} {place : Option Location}
    {t : Transformation} (hread : read raw location = .ok e)
    (hbuild : Kinds.build {} e place = .ok (.ok t)) (location' : Location) :
    ∃ e' t', read (write t) location' = .ok e' ∧ Kinds.build {} e' t.spec.location = .ok (.ok t') ∧
      (t' = t ↔ ¬ EmptyPaths raw) ∧
      (EmptyPaths raw → t.paths = { included := [], excluded := [] } ∧ t' = { t with paths := {} }) := by
  obtain ⟨hmade, -, ⟨r, hr⟩, fields, rfl, hpaths⟩ := build_ok hread hbuild
  obtain ⟨e', hread', hsaid⟩ := read_write hmade location'
  obtain ⟨hincluded, hexcluded⟩ := readPaths_included hpaths
  have hbuild' : Kinds.build {} e' t.spec.location = .ok (.ok { t with paths := t.paths.filled }) := by
    rw [hsaid.build hmade.spec, hmade.spec.declaredAt_location, Kinds.outcome, hr, hmade.encoding]
  refine ⟨e', { t with paths := t.paths.filled }, hread', hbuild', ?_, ?_⟩
  · rw [emptyPaths_iff, ← hincluded, ← Ne, ← PathFilter.filled_eq]
    exact ⟨congrArg Transformation.paths, fun h => congrArg (fun paths => { t with paths }) h⟩
  · intro hempty
    have hnone := hincluded.mpr (emptyPaths_iff.mp hempty)
    have hsame : t.paths = { included := [], excluded := [] } :=
      congrArg₂ PathFilter.mk hnone (hexcluded hnone)
    rw [hsame]
    exact ⟨rfl, rfl⟩

/-- A descriptor with a fragment, flags, and paths without globs to include. -/
def labelled : Value :=
  .map (named [("before", .text "${x}: 1"), ("after", .text "$$${x}"), ("multiline", .bool true),
    ("regex_groups", .map (named [("x", .text "[a-z]+")])), ("first_only", .bool false),
    ("paths", .map (named [("include", .list []), ("exclude", .list [.text "*.md"])]))])

theorem build_write_labelled : ∃ e t e', read labelled ⟨"a", none⟩ = .ok e ∧
    Kinds.build {} e (some ⟨"a", some 2⟩) = .ok (.ok t) ∧ read (write t) ⟨"b", some 1⟩ = .ok e' ∧
    Kinds.build {} e' t.spec.location = .ok (.ok t) := by
  have hbuilds : ∃ e, read labelled ⟨"a", none⟩ = .ok e ∧
      (Kinds.build {} e (some ⟨"a", some 2⟩)).toOption.any (·.toOption.any fun _ => true) = true :=
    Results.exists_ok (by decide +kernel)
  obtain ⟨e, he, hbuilt⟩ := hbuilds
  obtain ⟨built, hbuild, ht⟩ := Results.exists_ok hbuilt
  obtain ⟨t, rfl, -⟩ := Results.exists_ok ht
  have hpaths : ¬ EmptyPaths labelled := by
    rw [labelled, emptyPaths_iff, getD, get?, Value.Pairs.get?_named]
    simp [List.lookup_cons]
  obtain ⟨e', t', hread', hbuild', hsame, -⟩ := build_write he hbuild ⟨"b", some 1⟩
  obtain rfl := hsame.mpr hpaths
  exact ⟨e, t', e', he, hbuild, hread', hbuild'⟩

/-- Paths that are an empty list are not kept: what took no path takes all of them. -/
theorem build_write_emptyPaths : ∃ e t e' t',
    read (.map (named [("before", .text "a"), ("after", .text "b"), ("paths", .list [])])) ⟨"a", none⟩ = .ok e ∧
    Kinds.build {} e none = .ok (.ok t) ∧ read (write t) ⟨"a", none⟩ = .ok e' ∧
    Kinds.build {} e' t.spec.location = .ok (.ok t') ∧ t' ≠ t ∧
    t.paths.accepts "a.txt" = false ∧ t'.paths.accepts "a.txt" = true := by
  have hbuilds : ∃ e,
      read (.map (named [("before", .text "a"), ("after", .text "b"), ("paths", .list [])])) ⟨"a", none⟩ = .ok e ∧
      (Kinds.build {} e none).toOption.any (·.toOption.any fun t => !t.paths.accepts "a.txt" &&
        (read (write t) ⟨"a", none⟩).toOption.any fun e' =>
          (Kinds.build {} e' t.spec.location).toOption.any (·.toOption.any fun t' =>
            t'.paths.accepts "a.txt")) = true :=
    Results.exists_ok (by decide +kernel)
  obtain ⟨e, he, hbuilt⟩ := hbuilds
  obtain ⟨built, hbuild, ht⟩ := Results.exists_ok hbuilt
  obtain ⟨t, rfl, ht⟩ := Results.exists_ok ht
  obtain ⟨hnone, hwritten⟩ := Bool.and_eq_true_iff.mp ht
  obtain ⟨e', he', hbuilt'⟩ := Results.exists_ok hwritten
  obtain ⟨built', hbuild', ht'⟩ := Results.exists_ok hbuilt'
  obtain ⟨t', rfl, hall⟩ := Results.exists_ok ht'
  have hrefused : t.paths.accepts "a.txt" = false := by simpa using hnone
  refine ⟨e, t, e', t', he, hbuild, he', hbuild', ?_, hrefused, hall⟩
  rintro rfl
  rw [hrefused] at hall
  cases hall

end Descriptor

end TemplateSwap
