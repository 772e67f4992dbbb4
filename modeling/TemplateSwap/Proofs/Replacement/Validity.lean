import TemplateSwap.Proofs.Template.Defects
import TemplateSwap.Spec

namespace TemplateSwap

namespace Fragments

variable {groups : List (Value × Value)} {location : Option Location}

/-- An entry of the mapping that is a fragment, with its name. -/
inductive Usable : Value × Value → String → Prop
  | intro {name source : String} {p : Pattern} (hname : Token.isName name.toList = true)
    (hp : Pattern.compile source {} = .ok p) : Usable (.text name, .text source) name

/-- Why an entry is no fragment: because of its name, or else because of its source. -/
inductive Refused : Value × Value → FragmentFault → Prop
  | name {key source : Value} (h : ∀ name, key = .text name → Token.isName name.toList = false) :
    Refused (key, source) .notIdentifier
  | source {name : String} {source : Value} (hname : Token.isName name.toList = true)
    (h : ∀ text, source ≠ .text text) : Refused (.text name, source) (.notText source.typeName)
  | pattern {name source : String} {error : Pattern.Error} (hname : Token.isName name.toList = true)
    (h : Pattern.compile source {} = .error (.faulty error)) : Refused (.text name, .text source) (.faulty error)

/-- What is told of an entry that is no fragment. -/
def refusal (entry : Value × Value) (fault : FragmentFault) : Defect :=
  .invalidPattern entry.1.display entry.2.display (some fault)

/-- The sources of the mapping are patterns, or there is a fault in them. -/
def Tellable (groups : List (Value × Value)) : Prop :=
  ∀ key source, (key, .text source) ∈ groups →
    (∃ p, Pattern.compile source {} = .ok p) ∨ ∃ error, Pattern.compile source {} = .error (.faulty error)

theorem Usable.compileEntry {entry : Value × Value} {name : String} (h : Usable entry name)
    (location : Option Location) : ∃ p, Fragments.compileEntry location entry.1 entry.2 = .ok (name, p) := by
  cases h with
  | @intro name source p hname hp => exact ⟨p, by simp only [Fragments.compileEntry, if_pos hname, hp]⟩

theorem Refused.compileEntry {entry : Value × Value} {fault : FragmentFault} (h : Refused entry fault)
    (location : Option Location) :
    Fragments.compileEntry location entry.1 entry.2 = .error (.config ⟨refusal entry fault, location⟩) := by
  cases h with
  | @name key source h =>
    cases key with
    | text name => simp only [Fragments.compileEntry, h name rfl, Bool.false_eq_true, if_false, refusal]
    | _ => rfl
  | @source name source hname h =>
    cases source with
    | text text => exact absurd rfl (h text)
    | _ => simp only [Fragments.compileEntry, if_pos hname, refusal]
  | pattern hname h =>
    simp only [Fragments.compileEntry, if_pos hname, h]
    rfl

theorem compile_usable {names : List String} (h : List.Forall₂ Usable groups names) (location : Option Location) :
    ∃ f, compile groups location = .ok f ∧ f.names = names := by
  obtain ⟨entries, hentries, hnames⟩ : ∃ entries : List (String × Pattern),
      groups.mapM (fun entry => Fragments.compileEntry location entry.1 entry.2) = .ok entries ∧
        entries.map (·.1) = names := by
    simp only [Results.mapM_ok]
    induction h with
    | nil => exact ⟨[], .nil, rfl⟩
    | cons hentry _ ih =>
      obtain ⟨p, hp⟩ := hentry.compileEntry location
      obtain ⟨entries, hentries, rfl⟩ := ih
      exact ⟨_ :: entries, .cons hp hentries, rfl⟩
  exact ⟨⟨entries⟩, Results.bind_ok.mpr ⟨entries, hentries, rfl⟩, hnames⟩

theorem compile_refused {done later : List (Value × Value)} {entry : Value × Value} {names : List String}
    {fault : FragmentFault} (hdone : List.Forall₂ Usable done names) (h : Refused entry fault)
    (location : Option Location) :
    compile (done ++ entry :: later) location = .error (.config ⟨refusal entry fault, location⟩) := by
  obtain ⟨f, hf, -⟩ := compile_usable hdone location
  obtain ⟨entries, hentries, -⟩ := Results.bind_ok.mp hf
  exact Results.bind_error.mpr
    (.inl (Results.mapM_error.mpr ⟨done, entry, later, rfl, ⟨entries, hentries⟩, h.compileEntry location⟩))

/-- Every entry is a fragment, or there is a first that is not. -/
theorem usable_or_refused (h : Tellable groups) :
    (∃ names, List.Forall₂ Usable groups names) ∨
      ∃ done entry later names fault, groups = done ++ entry :: later ∧ List.Forall₂ Usable done names ∧
        Refused entry fault := by
  induction groups with
  | nil => exact .inl ⟨[], .nil⟩
  | cons entry groups ih =>
    have hentry : (∃ name, Usable entry name) ∨ ∃ fault, Refused entry fault := by
      obtain ⟨key, source⟩ := entry
      by_cases hname : ∃ name, key = .text name ∧ Token.isName name.toList = true
      · obtain ⟨name, rfl, hname⟩ := hname
        by_cases htext : ∃ text, source = .text text
        · obtain ⟨text, rfl⟩ := htext
          rcases h (.text name) text List.mem_cons_self with ⟨p, hp⟩ | ⟨error, herror⟩
          · exact .inl ⟨name, .intro hname hp⟩
          · exact .inr ⟨_, .pattern hname herror⟩
        · exact .inr ⟨_, .source hname (not_exists.mp htext)⟩
      · refine .inr ⟨_, .name fun name hkey => ?_⟩
        by_contra hne
        exact hname ⟨name, hkey, by simpa using hne⟩
    rcases hentry with ⟨name, hname⟩ | ⟨fault, hfault⟩
    · rcases ih (fun key source hmem => h key source (List.mem_cons_of_mem _ hmem)) with
        ⟨names, hnames⟩ | ⟨done, first, later, names, fault, rfl, hdone, hfirst⟩
      · exact .inl ⟨name :: names, .cons hname hnames⟩
      · exact .inr ⟨entry :: done, first, later, name :: names, fault, rfl, .cons hname hdone, hfirst⟩
    · exact .inr ⟨[], entry, groups, [], fault, rfl, .nil, hfault⟩

end Fragments

namespace Template

variable {repeatsAllowed : Bool}

theorem filterMap_name?_eq (tokens : List Token) : tokens.filterMap Token.name? = (holes tokens).map (·.1) := by
  induction tokens with
  | nil => rfl
  | cons t tokens ih =>
    cases t with
    | literal text => exact ih
    | placeholder name index => exact congrArg (name :: ·) ih

/-- Items in their order have the names of the template that is read from them, each where it comes first. -/
theorem Items.read {source : String} {names : List (List Char)} (h : Items repeatsAllowed source.toList names)
    (location : Option Location) :
    ∃ t, Template.read source repeatsAllowed location = .ok t ∧ t.source = source ∧ t.location = location ∧
      t.names = (names.map String.ofList).eraseDups := by
  obtain ⟨pieces, htext, hvalid, rfl⟩ := formed_iff.mp h.formed
  have hdistinct : repeatsAllowed = false → repeated? [] pieces = none := fun hno =>
    repeated?_eq_none.mpr ⟨h.distinct hno, by simp⟩
  refine ⟨_, read_ok_iff.mpr ⟨pieces, split_eq_iff.mpr ⟨htext, hvalid⟩, hdistinct, rfl⟩, rfl, rfl, ?_⟩
  have hpieces : (assemble 0 [] pieces).flatMap Token.pieces = pieces := pieces_assemble 0 [] pieces
  have hnames := names_pieces (assemble 0 [] pieces)
  rw [hpieces] at hnames
  rw [Template.names, filterMap_name?_eq, hnames, List.map_map]
  simp

end Template

namespace Spec

open Template (Items Complete Stops)

/-- A source that nothing is wrong with. Its groups are fragments with some names, its templates are complete, and
the before template has just these names. -/
structure Valid (s : SpecSource) (names : List String) (used : List (List Char)) : Prop where
  groups : List.Forall₂ Fragments.Usable s.groups names
  before : Items s.repeatedGroups s.before.toList used
  same : ∀ name, name ∈ used.map String.ofList ↔ name ∈ names
  after : Complete s.repeatedGroups s.after.toList

/-- The names in a template that are no names of groups, each once and in the order in which they come first. -/
def undeclared (names : List String) (used : List (List Char)) : List String :=
  (used.map String.ofList).eraseDups.filter (· ∉ names)

/-- The names of groups that are not in a template, in the order of the groups. -/
def unused (names : List String) (used : List (List Char)) : List String :=
  names.filter (· ∉ used.map String.ofList)

/-- What is wrong with a source. Whatever is reported, nothing is wrong with what comes before it: first the groups,
then the before template, its names, the after template, and at last the names that the before template lacks. -/
inductive Rejected (s : SpecSource) : Defect → Prop
  | group {done later : List (Value × Value)} {entry : Value × Value} {names : List String} {fault : FragmentFault}
    (hgroups : s.groups = done ++ entry :: later) (hdone : List.Forall₂ Fragments.Usable done names)
    (h : Fragments.Refused entry fault) : Rejected s (Fragments.refusal entry fault)
  | before {names : List String} {done rest : List Char} {used : List (List Char)} {halt : Template.Halt}
    (hgroups : List.Forall₂ Fragments.Usable s.groups names) (hbefore : s.before.toList = done ++ rest)
    (h : Stops s.repeatedGroups done rest used halt) : Rejected s (halt.defect s.before)
  | undeclared {names : List String} {used : List (List Char)}
    (hgroups : List.Forall₂ Fragments.Usable s.groups names) (hbefore : Items s.repeatedGroups s.before.toList used)
    (h : undeclared names used ≠ []) : Rejected s (.unknownNames (undeclared names used) s.before)
  | after {names : List String} {used used' : List (List Char)} {done rest : List Char} {halt : Template.Halt}
    (hgroups : List.Forall₂ Fragments.Usable s.groups names) (hbefore : Items s.repeatedGroups s.before.toList used)
    (hdeclared : Spec.undeclared names used = []) (hafter : s.after.toList = done ++ rest)
    (h : Stops s.repeatedGroups done rest used' halt) : Rejected s (halt.defect s.after)
  | unused {names : List String} {used : List (List Char)}
    (hgroups : List.Forall₂ Fragments.Usable s.groups names) (hbefore : Items s.repeatedGroups s.before.toList used)
    (hdeclared : Spec.undeclared names used = []) (hafter : Complete s.repeatedGroups s.after.toList)
    (h : unused names used ≠ []) : Rejected s (.unusedNames (unused names used) s.before)

variable {s : SpecSource} {names : List String} {used : List (List Char)}

theorem undeclared_eq_nil : undeclared names used = [] ↔ ∀ name ∈ used.map String.ofList, name ∈ names := by
  simp [undeclared, List.filter_eq_nil_iff]

theorem unused_eq_nil : unused names used = [] ↔ ∀ name ∈ names, name ∈ used.map String.ofList := by
  simp [unused, List.filter_eq_nil_iff]

/-- What remains to be checked when the groups are fragments and the before template is complete. -/
theorem create_items (hgroups : List.Forall₂ Fragments.Usable s.groups names)
    (hbefore : Items s.repeatedGroups s.before.toList used) :
    ∃ fragments before, create s =
      (if undeclared names used ≠ [] then .error (.config ⟨.unknownNames (undeclared names used) s.before, s.location⟩)
      else
        match Template.read s.after s.repeatedGroups s.location with
        | .error e => .error (.config e)
        | .ok after =>
          if unused names used ≠ [] then .error (.config ⟨.unusedNames (unused names used) s.before, s.location⟩)
          else .ok ⟨before, after, fragments, s.firstOnly, s.multiline, s.repeatedGroups⟩) := by
  obtain ⟨f, hf, rfl⟩ := Fragments.compile_usable hgroups s.location
  obtain ⟨before, hread, hsource, hlocation, hnames⟩ := hbefore.read s.location
  have hknown : before.validateKnown f.names =
      if undeclared f.names used ≠ [] then .error ⟨.unknownNames (undeclared f.names used) s.before, s.location⟩
      else .ok () := by
    have hnone : before.names.filter (!f.names.contains ·) = undeclared f.names used := by
      rw [hnames, undeclared]
      simp
    rw [Template.validateKnown, hnone, hsource, hlocation]
    cases undeclared f.names used <;> rfl
  have hunused : before.validateUnused f.names =
      if unused f.names used ≠ [] then .error ⟨.unusedNames (unused f.names used) s.before, s.location⟩
      else .ok () := by
    have hnone : f.names.filter (!before.names.contains ·) = unused f.names used := by
      rw [hnames, unused]
      simp only [List.contains_eq_mem, List.mem_eraseDups, decide_not]
    rw [Template.validateUnused, hnone, hsource, hlocation]
    cases unused f.names used <;> rfl
  refine ⟨f, before, ?_⟩
  simp only [create, hf, Template.readKnown, hread, hknown, bind, Except.bind]
  split_ifs with hfirst hsecond
  · rfl
  · cases Template.read s.after s.repeatedGroups s.location with
    | error e => rfl
    | ok after =>
      simp only [Except.mapError, pure, Except.pure, hunused, if_pos hsecond]
  · cases Template.read s.after s.repeatedGroups s.location with
    | error e => rfl
    | ok after => simp only [Except.mapError, pure, Except.pure, hunused, if_neg hsecond]

theorem Valid.create (h : Valid s names used) : ∃ spec, Spec.create s = .ok spec := by
  obtain ⟨fragments, before, hcreate⟩ := create_items h.groups h.before
  obtain ⟨after, hafter⟩ := Template.exists_read.mpr h.after
  have hundeclared := undeclared_eq_nil.mpr fun name => (h.same name).mp
  have hunused := unused_eq_nil.mpr fun name => (h.same name).mpr
  rw [hcreate, hundeclared, hafter, hunused]
  exact ⟨_, rfl⟩

theorem Rejected.create {defect : Defect} (h : Rejected s defect) :
    Spec.create s = .error (.config ⟨defect, s.location⟩) := by
  cases h with
  | group hgroups hdone h =>
    rw [Spec.create, hgroups, Fragments.compile_refused hdone h]
    rfl
  | before hgroups hbefore h =>
    obtain ⟨f, hf, -⟩ := Fragments.compile_usable hgroups s.location
    simp only [Spec.create, hf, Template.readKnown, h.read hbefore, bind, Except.bind, Except.mapError]
  | undeclared hgroups hbefore h =>
    obtain ⟨fragments, before, hcreate⟩ := create_items hgroups hbefore
    rw [hcreate, if_pos h]
  | after hgroups hbefore hdeclared hafter h =>
    obtain ⟨fragments, before, hcreate⟩ := create_items hgroups hbefore
    rw [hcreate, if_neg (not_not.mpr hdeclared), h.read hafter]
  | unused hgroups hbefore hdeclared hafter h =>
    obtain ⟨fragments, before, hcreate⟩ := create_items hgroups hbefore
    obtain ⟨after, hread⟩ := Template.exists_read.mpr hafter
    rw [hcreate, if_neg (not_not.mpr hdeclared), hread]
    exact if_pos h

/-- A source with sources of patterns is valid, or something is wrong with it. -/
theorem valid_or_rejected (h : Fragments.Tellable s.groups) :
    (∃ names used, Valid s names used) ∨ ∃ defect, Rejected s defect := by
  rcases Fragments.usable_or_refused h with
    ⟨names, hgroups⟩ | ⟨done, entry, later, names, fault, hgroups, hdone, hentry⟩
  swap
  · exact .inr ⟨_, .group hgroups hdone hentry⟩
  rcases Template.exists_stops s.repeatedGroups s.before.toList with
    ⟨used, hbefore⟩ | ⟨done, rest, used, halt, hbefore, hstops⟩
  swap
  · exact .inr ⟨_, .before hgroups hbefore hstops⟩
  by_cases hundeclared : undeclared names used = []
  swap
  · exact .inr ⟨_, .undeclared hgroups hbefore hundeclared⟩
  rcases Template.exists_stops s.repeatedGroups s.after.toList with
    hafter | ⟨done, rest, used', halt, hafter, hstops⟩
  swap
  · exact .inr ⟨_, .after hgroups hbefore hundeclared hafter hstops⟩
  by_cases hunused : unused names used = []
  swap
  · exact .inr ⟨_, .unused hgroups hbefore hundeclared hafter hunused⟩
  exact .inl ⟨names, used, hgroups, hbefore,
    fun name => ⟨undeclared_eq_nil.mp hundeclared name, unused_eq_nil.mp hunused name⟩, hafter⟩

/-- A specification can be made exactly of a valid source. Of any other the error is the one that is wrong with it,
at the place of the source, and no source has two. -/
theorem create_validity (s : SpecSource) (hsources : Fragments.Tellable s.groups) :
    ((∃ spec, create s = .ok spec) ↔ ∃ names used, Valid s names used) ∧
    (∀ failure, create s = .error failure ↔ ∃ defect, Rejected s defect ∧ failure = .config ⟨defect, s.location⟩) ∧
    ∀ defect defect', Rejected s defect → Rejected s defect' → defect = defect' := by
  refine ⟨⟨?_, ?_⟩, fun failure => ⟨?_, ?_⟩, ?_⟩
  · rintro ⟨spec, hspec⟩
    refine (valid_or_rejected hsources).resolve_right ?_
    rintro ⟨defect, hdefect⟩
    rw [hdefect.create] at hspec
    cases hspec
  · rintro ⟨names, used, hvalid⟩
    exact hvalid.create
  · intro hfailure
    rcases valid_or_rejected hsources with ⟨names, used, hvalid⟩ | ⟨defect, hdefect⟩
    · obtain ⟨spec, hspec⟩ := hvalid.create
      rw [hspec] at hfailure
      cases hfailure
    · rw [hdefect.create] at hfailure
      exact ⟨defect, hdefect, (Except.error.inj hfailure).symm⟩
  · rintro ⟨defect, hdefect, rfl⟩
    exact hdefect.create
  · intro defect defect' h h'
    have hsame := h.create.symm.trans h'.create
    exact congrArg ConfigError.defect (Failure.config.inj (Except.error.inj hsame))

/-- A before template with two names that no group has, one of them twice, next to an after template that is not
complete. -/
def undeclaredTwo : SpecSource :=
  { before := "${y}${x}${y}${z}", after := "$", groups := [(.text "x", .text "a")], repeatedGroups := true }

theorem create_validity_undeclared :
    Fragments.Tellable undeclaredTwo.groups ∧
      create undeclaredTwo = .error (.config ⟨.unknownNames ["y", "z"] "${y}${x}${y}${z}", none⟩) ∧
      ¬∃ names used, Valid undeclaredTwo names used := by
  have hcompiles : ∃ p, Pattern.compile "a" {} = .ok p ∧ true = true := Results.exists_ok (by decide +kernel)
  obtain ⟨p, hp, -⟩ := hcompiles
  have hsources : Fragments.Tellable undeclaredTwo.groups := by
    intro key source hmem
    obtain ⟨rfl, hsource⟩ := Prod.mk.inj (List.mem_singleton.mp hmem)
    obtain rfl := Value.text.inj hsource
    exact .inl ⟨p, hp⟩
  obtain ⟨hok, herror, -⟩ := create_validity undeclaredTwo hsources
  have hitems : Items true undeclaredTwo.before.toList [['y'], ['x'], ['y'], ['z']] :=
    ⟨.hole ['y'] rfl (.hole ['x'] rfl (.hole ['y'] rfl (.hole ['z'] rfl .nil))), nofun⟩
  have hnames : undeclared ["x"] [['y'], ['x'], ['y'], ['z']] = ["y", "z"] := by decide
  have hrejected : Rejected undeclaredTwo (.unknownNames ["y", "z"] "${y}${x}${y}${z}") :=
    hnames ▸ .undeclared (.cons (.intro (by decide) hp) .nil) hitems (by simp [hnames])
  have hcreate := (herror _).mpr ⟨_, hrejected, rfl⟩
  refine ⟨hsources, hcreate, fun hvalid => ?_⟩
  obtain ⟨spec, hspec⟩ := hok.mpr hvalid
  rw [hcreate] at hspec
  cases hspec

end Spec

end TemplateSwap
