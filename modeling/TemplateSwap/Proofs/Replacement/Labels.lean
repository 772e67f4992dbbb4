import TemplateSwap.Proofs.Replacement.Modes
import TemplateSwap.Proofs.Template.Renaming

namespace TemplateSwap

open TemplateSwap.Text (Code codes)
open TemplateSwap.Pattern (Found Subject)
open TemplateSwap.Results (Together)

namespace Renaming

/-- The new name of a fragment. Only texts can be names. -/
def key (ρ : Renaming) : Value → Value
  | .text name => .text (ρ.apply name)
  | other => other

end Renaming

namespace Fragments

variable (ρ : Renaming)

def rename (f : Fragments) : Fragments := ⟨f.entries.map fun (name, p) => (ρ.apply name, p)⟩

theorem names_rename (f : Fragments) : (f.rename ρ).names = f.names.map ρ.apply := by
  simp [names, rename]

theorem get?_rename (f : Fragments) (name : String) : (f.rename ρ).get? (ρ.apply name) = f.get? name :=
  Renaming.lookup_map f.entries name

theorem compileEntry_rename (location : Option Location) (name source : Value) :
    Together (fun e e' => e' = (ρ.apply e.1, e.2)) (compileEntry location name source)
      (compileEntry location (ρ.key name) source) := by
  cases name with
  | text n =>
    unfold compileEntry Renaming.key
    dsimp only
    rw [ρ.isName_apply]
    split_ifs
    · cases source with
      | text s =>
        dsimp only
        cases Pattern.compile s {} with
        | ok p => exact .ok rfl
        | error refusal => exact .error _ _
      | _ => exact .error _ _
    · exact .error _ _
  | _ => exact .error _ _

theorem compile_rename (groups : List (Value × Value)) (location : Option Location) :
    Together (fun f f' => f' = f.rename ρ) (compile groups location)
      (compile (groups.map fun (name, source) => (ρ.key name, source)) location) := by
  have hentries : Together (fun es es' => es' = es.map fun (name, p) => (ρ.apply name, p))
      (groups.mapM fun (name, source) => compileEntry location name source)
      ((groups.map fun (name, source) => (ρ.key name, source)).mapM
        fun (name, source) => compileEntry location name source) :=
    .mapM fun (name, source) _ => compileEntry_rename ρ location name source
  refine hentries.bind fun es es' hes => .ok ?_
  rw [hes, rename]

end Fragments

namespace Composite

variable (ρ : Renaming)

theorem part_rename (f : Fragments) (t : Token) :
    Together (fun s s' => s' = s) (part f t) (part (f.rename ρ) (t.rename ρ)) := by
  cases t with
  | literal text => exact .ok rfl
  | placeholder name index =>
    rw [Token.rename, part, part, Fragments.get?_rename]
    cases f.get? name with
    | some p => exact .ok rfl
    | none => exact .error _ _

theorem source_rename (before : Template) (f : Fragments) :
    Together (fun s s' => s' = s) (source before f) (source (before.rename ρ) (f.rename ρ)) := by
  have hparts : Together (fun ss ss' => ss' = ss.map id) (before.tokens.mapM (part f))
      ((before.tokens.map (Token.rename ρ)).mapM (part (f.rename ρ))) :=
    .mapM fun t _ => part_rename ρ f t
  refine hparts.bind fun ss ss' hss => .ok ?_
  rw [hss, List.map_id]

end Composite

namespace Replacer

variable {before after : Template} {f : Fragments} {firstOnly multiline : Bool} {r r' : Replacer}

theorem exists_built : (∃ r, Built before after f firstOnly multiline r) ↔
    (∃ source p, Composite.source before f = .ok source ∧ Pattern.compile source (flags multiline) = .ok p) ∧
      (∀ name ∈ before.names, name ∈ f.names) ∧ ∀ name ∈ after.names, name ∈ before.names := by
  constructor
  · intro h
    obtain ⟨r, h⟩ := h
    obtain ⟨source, hsource, hp⟩ := h.source
    exact ⟨⟨source, r.pattern, hsource, hp⟩, h.known, h.captured⟩
  · intro h
    obtain ⟨⟨source, p, hsource, hp⟩, hknown, hcaptured⟩ := h
    exact ⟨⟨p, Composite.table before, after.tokens, firstOnly, multiline⟩,
      ⟨source, hsource, hp⟩, hknown, hcaptured, rfl, rfl, rfl, rfl⟩

theorem fill_rename (ρ : Renaming) (tokens : List Token) (value : String → Nat → List Code) :
    Token.fill (tokens.map (Token.rename ρ)) value =
      Token.fill tokens fun name index => value (ρ.apply name) index := by
  rw [Token.fill, Token.fill, List.flatMap_map]
  congr 1
  funext t
  cases t <;> rfl

theorem leftmost?_rename (ρ : Renaming) (p : Pattern) (before : Template) (m : Found) (name : String) :
    leftmost? p (before.rename ρ) m (ρ.apply name) = leftmost? p before m name := by
  rw [leftmost?, leftmost?, Template.placeholders_rename, Renaming.lookup_map]

/-- Replacers that find and write the same, in the same mode, rewrite all texts in the same way. -/
theorem replaceCount_congr (hpattern : r'.pattern = r.pattern) (hfirst : r'.firstOnly = r.firstOnly)
    (hmultiline : r'.multiline = r.multiline) (hexpand : ∀ text m, r'.expand text m = r.expand text m)
    (text : List Code) : r'.replaceCount text = r.replaceCount text := by
  have hwhole (text : List Code) : r'.replaceWhole text = r.replaceWhole text := by
    refine replaceWhole_congr ?_ (hexpand _)
    rw [hpattern, hfirst]
  have hlines (lines : List (List Code)) : r'.replaceLines lines = r.replaceLines lines := by
    induction lines with
    | nil => rfl
    | cons line lines ih =>
      simp only [replaceLines, replaceLine, hwhole, hfirst, ih]
      rfl
  simp only [replaceCount, hmultiline, hwhole, hlines]

variable {ρ : Renaming}

theorem Built.expand_rename (h : Built before after f firstOnly multiline r)
    (h' : Built (before.rename ρ) (after.rename ρ) (f.rename ρ) firstOnly multiline r')
    (hpattern : r'.pattern = r.pattern) (text : Subject) (m : Found) :
    r'.expand text m = r.expand text m := by
  rw [h.expand_eq, h'.expand_eq, Template.rename, fill_rename, hpattern]
  simp only [leftmost?_rename]

theorem Built.replaceCount_rename (h : Built before after f firstOnly multiline r)
    (h' : Built (before.rename ρ) (after.rename ρ) (f.rename ρ) firstOnly multiline r') (text : List Code) :
    r'.replaceCount text = r.replaceCount text := by
  obtain ⟨source, hsource, hp⟩ := h.source
  obtain ⟨source', hsource', hp'⟩ := h'.source
  rw [(Composite.source_rename ρ before f).eq_ok, hsource] at hsource'
  obtain rfl := Except.ok.inj hsource'
  have hpattern : r'.pattern = r.pattern := Except.ok.inj (hp'.symm.trans hp)
  refine replaceCount_congr hpattern ?_ ?_ (h.expand_rename h' hpattern) text
  · rw [h.firstOnly, h'.firstOnly]
  · rw [h.multiline, h'.multiline]

theorem compile_rename (ρ : Renaming) (before after : Template) (f : Fragments) (firstOnly multiline : Bool) :
    Together (fun r r' => ∀ text, r'.replaceCount text = r.replaceCount text)
      (compile before after f firstOnly multiline)
      (compile (before.rename ρ) (after.rename ρ) (f.rename ρ) firstOnly multiline) := by
  have hsource (source : String) : Composite.source (before.rename ρ) (f.rename ρ) = .ok source ↔
      Composite.source before f = .ok source := (Composite.source_rename ρ before f).eq_ok
  have hknown : (∀ name ∈ (before.rename ρ).names, name ∈ (f.rename ρ).names) ↔
      ∀ name ∈ before.names, name ∈ f.names := by
    rw [Fragments.names_rename]
    exact Renaming.forall_mem_iff (fun _ => Template.mem_names_rename) fun _ => List.mem_map
  have hcaptured : (∀ name ∈ (after.rename ρ).names, name ∈ (before.rename ρ).names) ↔
      ∀ name ∈ after.names, name ∈ before.names :=
    Renaming.forall_mem_iff (fun _ => Template.mem_names_rename) fun _ => Template.mem_names_rename
  have hboth : (∃ r', Built (before.rename ρ) (after.rename ρ) (f.rename ρ) firstOnly multiline r') ↔
      ∃ r, Built before after f firstOnly multiline r := by
    simp only [exists_built, hsource, hknown, hcaptured]
  simp only [← compile_ok] at hboth
  refine .of_ok (fun r h => ?_) fun r' h' => hboth.mp ⟨r', h'⟩
  obtain ⟨r', h'⟩ := hboth.mpr ⟨r, h⟩
  exact ⟨r', h', (compile_ok.mp h).replaceCount_rename (compile_ok.mp h')⟩

end Replacer

/-- The same source with other names for the placeholders, in its templates and for its fragments. -/
def SpecSource.rename (ρ : Renaming) (source : SpecSource) : SpecSource :=
  { source with
    before := Template.renameSource ρ source.before
    after := Template.renameSource ρ source.after
    groups := source.groups.map fun (name, source) => (ρ.key name, source) }

namespace Spec

variable {ρ : Renaming}

def rename (ρ : Renaming) (s : Spec) : Spec :=
  { s with before := s.before.rename ρ, after := s.after.rename ρ, fragments := s.fragments.rename ρ }

theorem create_rename_ok (ρ : Renaming) (source : SpecSource) :
    Together (fun s s' => s' = s.rename ρ) (create source) (create (source.rename ρ)) := by
  refine (Fragments.compile_rename ρ source.groups source.location).bind fun f f' hf => ?_
  obtain rfl := hf
  have hread : Together (fun t t' => t' = t.rename ρ)
      (Template.readKnown source.before f.names source.repeatedGroups source.location)
      (Template.readKnown (Template.renameSource ρ source.before) (f.rename ρ).names source.repeatedGroups
        source.location) := by
    refine (Template.read_rename ρ source.before source.repeatedGroups source.location).bind fun t t' ht => ?_
    obtain rfl := ht
    rw [Fragments.names_rename]
    exact (t.validateKnown_rename f.names).bind fun _ _ _ => .ok rfl
  refine (hread.mapError Failure.config Failure.config).bind fun before before' hbefore => ?_
  obtain rfl := hbefore
  have hafter := Template.read_rename ρ source.after source.repeatedGroups source.location
  refine (hafter.mapError Failure.config Failure.config).bind fun after after' hafter => ?_
  obtain rfl := hafter
  rw [Fragments.names_rename]
  exact ((before.validateUnused_rename f.names).mapError Failure.config Failure.config).bind fun _ _ _ => .ok rfl

theorem reverse_rename (ρ : Renaming) (s : Spec) :
    Together (fun t t' => t' = t.rename ρ) s.reverse (s.rename ρ).reverse := by
  unfold reverse
  rw [rename, Fragments.names_rename]
  refine (s.after.validateKnown_rename s.fragments.names).bind fun _ _ _ => ?_
  exact (s.after.validateUnused_rename s.fragments.names).bind fun _ _ _ => .ok rfl

/-- Two specifications are both compiled or both refused, and rewrite all texts in the same way. -/
def Interchangeable (s s' : Spec) : Prop :=
  Together (fun r r' => ∀ text, r'.replaceCount text = r.replaceCount text) s.replacer s'.replacer

theorem interchangeable_rename (ρ : Renaming) (s : Spec) : s.Interchangeable (s.rename ρ) :=
  Replacer.compile_rename ρ s.before s.after s.fragments s.firstOnly s.multiline

/-- Names of placeholders are only labels: with other names a specification is created, compiled and
turned around just when it is with its own, and rewrites all texts in the same way in both directions. -/
theorem create_rename (ρ : Renaming) (source : SpecSource) :
    Together (fun s s' => s.Interchangeable s' ∧ Together Interchangeable s.reverse s'.reverse)
      (create source) (create (source.rename ρ)) := by
  refine (create_rename_ok ρ source).imp fun s s' _ hs => ?_
  obtain rfl := hs
  refine ⟨interchangeable_rename ρ s, (reverse_rename ρ s).imp fun t t' _ ht => ?_⟩
  obtain rfl := ht
  exact interchangeable_rename ρ t

/-- Fragments with groups of their own, which are called like placeholders. -/
theorem create_rename_underscored :
    ∃ source s s' r r', create source = .ok s ∧ create (source.rename .underscored) = .ok s' ∧
      s.replacer = .ok r ∧ s'.replacer = .ok r' ∧ (∀ text, r'.replaceCount text = r.replaceCount text) ∧
      ∃ t t', s.reverse = .ok t ∧ s'.reverse = .ok t' ∧ t.Interchangeable t' := by
  have hcreate : (create { before := "${x}=${y}", after := "${y}:${x}", groups :=
      [(.text "x", .text "(?P<y>a|b)(?P=y)?"), (.text "y", .text "[0-9](?P<_x>;)")] }).toOption.any
      (fun s => s.replacer.toOption.any (fun _ => true) && s.reverse.toOption.any fun _ => true) = true := by
    decide +kernel
  obtain ⟨s, hs, hboth⟩ := Results.exists_ok hcreate
  rw [Bool.and_eq_true] at hboth
  obtain ⟨r, hr, -⟩ := Results.exists_ok hboth.1
  obtain ⟨t, ht, -⟩ := Results.exists_ok hboth.2
  obtain ⟨s', hs', hsame, hreversed⟩ := (create_rename .underscored _).exists_ok hs
  obtain ⟨r', hr', hcount⟩ := hsame.exists_ok hr
  obtain ⟨t', ht', hsame'⟩ := hreversed.exists_ok ht
  exact ⟨_, s, s', r, r', hs, hs', hr, hr', hcount, t, t', ht, ht', hsame'⟩

end Spec

end TemplateSwap
