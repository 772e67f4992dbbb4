import TemplateSwap.Proofs.Running.Inverse

namespace TemplateSwap

open TemplateSwap.Value (named)

/-- The text of a pattern is refused, and not for a fault: a count in it is too large, or two of its modes exclude each
other. -/
inductive Pattern.Rejected (source : String) : Failure → Prop
  | number (h : compile source {} = .error .numberTooLarge) : Rejected source .numberTooLarge
  | modes (h : compile source {} = .error .bothModes) : Rejected source .bothModes

variable {failure : Failure}

theorem Pattern.Rejected.not_config {source : String} (h : Rejected source failure) (e : ConfigError) :
    failure ≠ .config e := by
  cases h <;> exact Failure.noConfusion

namespace Fragments

variable {groups : List (Value × Value)} {location : Option Location}

/-- The first fragment that does not compile has a name that is allowed, and a text that is rejected. -/
def Rejected (groups : List (Value × Value)) (location : Option Location) (failure : Failure) : Prop :=
  ∃ done name source later, groups = done ++ (.text name, .text source) :: later ∧
    (∃ f, compile done location = .ok f) ∧ Token.isName name.toList = true ∧ Pattern.Rejected source failure

theorem Rejected.not_config (h : Rejected groups location failure) (e : ConfigError) : failure ≠ .config e := by
  obtain ⟨_, _, _, _, -, -, -, hsource⟩ := h
  exact hsource.not_config e

theorem compileEntry_rejected {key value : Value} :
    compileEntry location key value = .error failure ∧ (∀ e, failure ≠ .config e) ↔
      ∃ name source, key = .text name ∧ value = .text source ∧ Token.isName name.toList = true ∧
        Pattern.Rejected source failure := by
  constructor
  · intro h
    obtain ⟨h, hother⟩ := h
    unfold compileEntry at h
    split at h
    · next name =>
      split_ifs at h with hname
      · split at h
        · next source =>
          cases hsource : Pattern.compile source {} with
          | ok p =>
            simp only [hsource] at h
            cases h
          | error refusal =>
            simp only [hsource] at h
            obtain rfl := Except.error.inj h
            refine ⟨name, source, rfl, rfl, hname, ?_⟩
            cases refusal with
            | faulty error => exact absurd rfl (hother _)
            | numberTooLarge => exact .number hsource
            | bothModes => exact .modes hsource
        · exact absurd (Except.error.inj h).symm (hother _)
      · exact absurd (Except.error.inj h).symm (hother _)
    · exact absurd (Except.error.inj h).symm (hother _)
  · intro h
    obtain ⟨name, source, rfl, rfl, hname, hsource⟩ := h
    refine ⟨?_, hsource.not_config⟩
    cases hsource with
    | number h | modes h =>
      simp only [compileEntry, if_pos hname, h]
      rfl

theorem compile_error : compile groups location = .error failure ↔
    groups.mapM (fun (key, value) => compileEntry location key value) = .error failure := by
  constructor
  · intro h
    rcases Results.bind_error.mp h with h | ⟨entries, -, h⟩
    · exact h
    · cases h
  · intro h
    exact Results.bind_error.mpr (.inl h)

/-- Fragments are compiled one by one, up to the first that does not compile. -/
theorem compile_rejected : compile groups location = .error failure ∧ (∀ e, failure ≠ .config e) ↔
    Rejected groups location failure := by
  have hdone : ∀ done : List (Value × Value), (∃ f, compile done location = .ok f) ↔
      ∃ entries, done.mapM (fun (key, value) => compileEntry location key value) = .ok entries := by
    intro done
    constructor
    · intro h
      obtain ⟨f, hf⟩ := h
      obtain ⟨entries, hentries, -⟩ := Results.bind_ok.mp hf
      exact ⟨entries, hentries⟩
    · intro h
      obtain ⟨entries, hentries⟩ := h
      exact ⟨⟨entries⟩, Results.bind_ok.mpr ⟨entries, hentries, rfl⟩⟩
  rw [compile_error, Results.mapM_error]
  constructor
  · intro h
    obtain ⟨⟨done, entry, later, rfl, hbefore, hentry⟩, hother⟩ := h
    obtain ⟨name, source, hkey, hvalue, hname, hsource⟩ := compileEntry_rejected.mp ⟨hentry, hother⟩
    obtain ⟨key, value⟩ := entry
    obtain rfl : key = _ := hkey
    obtain rfl : value = _ := hvalue
    exact ⟨done, name, source, later, rfl, (hdone done).mpr hbefore, hname, hsource⟩
  · intro h
    obtain ⟨done, name, source, later, rfl, hbefore, hname, hsource⟩ := h
    have hboth : compileEntry location (.text name) (.text source) = .error failure ∧ ∀ e, failure ≠ .config e :=
      compileEntry_rejected.mpr ⟨name, source, rfl, rfl, hname, hsource⟩
    obtain ⟨hentry, hother⟩ := hboth
    exact ⟨⟨done, _, later, rfl, (hdone done).mp hbefore, hentry⟩, hother⟩

end Fragments

theorem Results.config_of_mapError {α : Type} {x : Except ConfigError α}
    (h : x.mapError Failure.config = .error failure) : ∃ e, failure = .config e := by
  obtain ⟨e, -, rfl⟩ := Results.mapError_error.mp h
  exact ⟨e, rfl⟩

/-- A specification that cannot be made is wrong in its configuration, unless a fragment is rejected. -/
theorem Spec.create_rejected {source : SpecSource} :
    create source = .error failure ∧ (∀ e, failure ≠ .config e) ↔
      Fragments.Rejected source.groups source.location failure := by
  rw [← Fragments.compile_rejected]
  refine and_congr_left fun hother => ⟨fun h => ?_, fun h => Results.bind_error.mpr (.inl h)⟩
  have hconfig : ∀ {α : Type} {x : Except ConfigError α}, x.mapError Failure.config ≠ .error failure := by
    intro α x hx
    obtain ⟨e, he⟩ := Results.config_of_mapError hx
    exact hother e he
  rcases Results.bind_error.mp h with h | ⟨f, -, h⟩
  · exact h
  · rcases Results.bind_error.mp h with h | ⟨before, -, h⟩
    · exact absurd h hconfig
    · rcases Results.bind_error.mp h with h | ⟨after, -, h⟩
      · exact absurd h hconfig
      · rcases Results.bind_error.mp h with h | ⟨_, -, h⟩
        · exact absurd h hconfig
        · cases h

/-- The kind that a descriptor asks for. -/
def Entry.kind (e : Entry) : Value := (e.get? "type").getD (.text "replace")

theorem Kinds.get_error {k : Kinds} {kind : Value} (h : k.get kind = .error failure) :
    kind.isKey = false ∧ failure = .wrongType ∨ kind.isKey = true ∧ failure = .unknownKind kind k.names := by
  unfold get at h
  split_ifs at h with hkey
  · exact .inl ⟨by simpa using hkey, (Except.error.inj h).symm⟩
  · split at h
    · cases h
    · exact .inr ⟨by simpa using hkey, (Except.error.inj h).symm⟩

namespace Descriptor

variable {raw : Value} {location : Location} {e : Entry} {place : Option Location}

/-- What a descriptor says is enough for a specification, and then for a transformation. -/
theorem buildReplace_read (hread : read raw location = .ok e) (place : Option Location) :
    ∃ source paths, e.get? "regex_groups" = some (.map source.groups) ∧ source.location = place ∧
      Factory.buildReplace e place = (do
        let spec ← Spec.create source
        let _ ← spec.replacer
        return { spec, paths }) := by
  obtain ⟨fields, groups, paths, -, htexts, -, -, he⟩ := read_ok hread
  obtain ⟨before, hbefore⟩ := htexts "before" (by decide)
  obtain ⟨after, hafter⟩ := htexts "after" (by decide)
  have htext : ∀ {key text}, "regex_groups" ≠ key → "paths" ≠ key → get? fields key = some (.text text) →
      e.get? key = some (.text text) := by
    intro key text hgroups hpaths hkey
    rw [he, get?_settled fields groups paths hgroups hpaths, hkey]
  have hgroups : e.get? "regex_groups" = some (.map groups) := he ▸ get?_settled_groups fields groups paths
  have hpaths : e.get? "paths" = some (.filter paths) := he ▸ get?_settled_paths fields groups paths
  exact ⟨_, paths, hgroups, rfl, Factory.buildReplace_eq (htext (by decide) (by decide) hbefore)
    (htext (by decide) (by decide) hafter) hgroups hpaths place⟩

/-- A replacement cannot be built without a configuration error to tell of if a fragment is rejected. -/
theorem buildReplace_rejected (hread : read raw location = .ok e) :
    Factory.buildReplace e place = .error failure ∧ (∀ e, failure ≠ .config e) ↔
      ∃ groups, e.get? "regex_groups" = some (.map groups) ∧ Fragments.Rejected groups place failure := by
  obtain ⟨source, paths, hgroups, rfl, hbuild⟩ := buildReplace_read hread place
  rw [hbuild]
  constructor
  · intro h
    obtain ⟨h, hother⟩ := h
    refine ⟨_, hgroups, ?_⟩
    rcases Results.bind_error.mp h with h | ⟨s, hs, h⟩
    · exact Spec.create_rejected.mp ⟨h, hother⟩
    · rcases Results.bind_error.mp h with h | ⟨r, -, h⟩
      · obtain ⟨e, he⟩ := Spec.config_of_replacer (Composite.sound_of_compile (Spec.create_ok hs).1) h
        exact absurd he (hother e)
      · cases h
  · intro h
    obtain ⟨groups, hsame, hrejected⟩ := h
    obtain rfl := Value.map.inj (Option.some.inj (hgroups.symm.trans hsame))
    obtain ⟨hcreate, hother⟩ := Spec.create_rejected.mpr hrejected
    exact ⟨Results.bind_error.mpr (.inl hcreate), hother⟩

/-- A descriptor that was read gives a transformation or a configuration error, unless its kind is no key or a
fragment is rejected. -/
theorem build_error (hread : read raw location = .ok e) (k : Kinds) : k.build e place = .error failure ↔
    e.kind.isKey = false ∧ failure = .wrongType ∨
      k.get e.kind = .ok .replace ∧
        ∃ groups, e.get? "regex_groups" = some (.map groups) ∧ Fragments.Rejected groups place failure := by
  rw [← buildReplace_rejected hread]
  unfold Kinds.build
  rw [← Entry.kind]
  cases hget : k.get e.kind with
  | error unfound =>
    rcases Kinds.get_error hget with ⟨hkey, rfl⟩ | ⟨hkey, rfl⟩
    · simp [hkey, eq_comm]
    · simp [hkey]
  | ok factory =>
    have hkey : e.kind.isKey = true := by
      by_contra hno
      rw [Kinds.get, if_pos (by simpa using hno)] at hget
      cases hget
    cases factory with
    | always t => simp [Factory.build, hkey]
    | replace =>
      simp only [Factory.build, hkey, Bool.true_eq_false, false_and, false_or, true_and]
      cases Factory.buildReplace e place with
      | ok t => simp
      | error failed => cases failed <;> grind

/-- What is told as a configuration error, and what is not. The build of a descriptor, and that of a specification, end
without one only for a kind that is no key and for a rejected fragment. Fragments that compile never do so in a
composite pattern. Integers have texts of any length in this, also those
of more digits than `Markup.Scalar.digitLimit`. -/
theorem build_reports (hread : read raw location = .ok e) (k : Kinds) (place : Option Location) :
    (∀ failure, k.build e place = .error failure ↔
      e.kind.isKey = false ∧ failure = .wrongType ∨
        k.get e.kind = .ok .replace ∧
          ∃ groups, e.get? "regex_groups" = some (.map groups) ∧ Fragments.Rejected groups place failure) ∧
    (∀ source failure, Spec.create source = .error failure ∧ (∀ e, failure ≠ .config e) ↔
      Fragments.Rejected source.groups source.location failure) ∧
    ∀ groups place f, Fragments.compile groups place = .ok f →
      ∀ before after firstOnly multiline failure,
        Replacer.compile before after f firstOnly multiline = .error failure → ∃ e, failure = .config e := by
  refine ⟨fun failure => build_error hread k, fun source failure => Spec.create_rejected, ?_⟩
  intro groups place f hf before after firstOnly multiline failure h
  exact Replacer.config_of_compile before after f firstOnly multiline (Composite.sound_of_compile hf) h

def listed : Value := .map (named [("before", .text "a"), ("after", .text "b"), ("type", .list [])])

def counted : Value :=
  .map (named [("before", .text "${x}"), ("after", .text "b"),
    ("regex_groups", .map (named [("x", .text "a{99999999999999999999}")]))])

theorem exists_listed : ∃ e, read listed ⟨"a", none⟩ = .ok e ∧ e.kind.isKey = false := by
  refine ⟨_, read_named (by decide) ?_ ?_ rfl rfl, ?_⟩
  · simp [requiredKeys, List.lookup_cons]
  · simp [truthKeys, List.lookup_cons]
  · rw [Entry.kind, get?_settled _ _ _ (by decide) (by decide), get?, Value.Pairs.get?_named]
    rfl

theorem counted_rejected (place : Option Location) :
    Fragments.Rejected (named [("x", .text "a{99999999999999999999}")]) place .numberTooLarge :=
  ⟨[], "x", _, [], rfl, ⟨⟨[]⟩, rfl⟩, by decide, .number (by decide +kernel)⟩

theorem exists_counted : ∃ e, read counted ⟨"a", none⟩ = .ok e ∧ Kinds.get {} e.kind = .ok .replace ∧
    e.get? "regex_groups" = some (.map (named [("x", .text "a{99999999999999999999}")])) := by
  refine ⟨_, read_named (by decide) ?_ ?_ rfl rfl, ?_, get?_settled_groups _ _ _⟩
  · simp [requiredKeys, List.lookup_cons]
  · simp [truthKeys, List.lookup_cons]
  · rw [Entry.kind, get?_settled _ _ _ (by decide) (by decide), get?, Value.Pairs.get?_named]
    simp [List.lookup_cons, Kinds.get, Value.isKey, Value.same]

theorem build_reports_not : ∃ e e', read listed ⟨"a", none⟩ = .ok e ∧ read counted ⟨"a", none⟩ = .ok e' ∧
    Kinds.build {} e none = .error .wrongType ∧ Kinds.build {} e' none = .error .numberTooLarge := by
  obtain ⟨e, he, hkey⟩ := exists_listed
  obtain ⟨e', he', hkind, hgroups⟩ := exists_counted
  obtain ⟨hlisted, -⟩ := build_reports he {} none
  obtain ⟨hcounted, -⟩ := build_reports he' {} none
  exact ⟨e, e', he, he', (hlisted _).mpr (.inl ⟨hkey, rfl⟩),
    (hcounted _).mpr (.inr ⟨hkind, _, hgroups, counted_rejected none⟩)⟩

/-- So neither a build nor the making of a specification always tells what is wrong as a configuration error. -/
theorem build_raises :
    (¬∀ raw location e (place : Option Location), read raw location = .ok e →
      ∃ built, Kinds.build {} e place = .ok built) ∧
    ¬∀ source failure, Spec.create source = .error failure → ∃ e, failure = .config e := by
  constructor
  · intro halways
    obtain ⟨e, he, hkey⟩ := exists_listed
    obtain ⟨built, hbuilt⟩ := halways listed ⟨"a", none⟩ e none he
    rw [(build_error he {}).mpr (.inl ⟨hkey, rfl⟩)] at hbuilt
    cases hbuilt
  · intro halways
    let source : SpecSource :=
      { before := "${x}", after := "b", groups := named [("x", .text "a{99999999999999999999}")] }
    have hrejected : Fragments.Rejected source.groups source.location .numberTooLarge := counted_rejected none
    obtain ⟨hcreate, hother⟩ := Spec.create_rejected.mpr hrejected
    obtain ⟨e, he⟩ := halways _ _ hcreate
    exact hother e he

end Descriptor

end TemplateSwap
