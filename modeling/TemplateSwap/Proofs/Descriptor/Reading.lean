import TemplateSwap.Proofs.Descriptor.Writing

namespace TemplateSwap.Descriptor

open TemplateSwap.Value (named)

variable {value : Value} {fields : List (Value × Value)} {location : Location} {failure : Failure}

/-- Globs are to be taken from a value that is there and is not void, but has no items. -/
def NoItems (value : Option Value) : Prop := ∃ v, value = some v ∧ v.isVoid = false ∧ items? v = none

/-- What is no collection and not void: numbers but zero, truth, days, moments and filters. -/
theorem noItems_some : NoItems (some value) ↔
    value = .bool true ∨ (∃ n, value = .int n ∧ n ≠ 0) ∨ (∃ x, value = .float x ∧ (x == 0.0) = false) ∨
      (∃ d, value = .date d) ∨ (∃ m, value = .moment m) ∨ ∃ f, value = .filter f := by
  cases value <;> simp [NoItems, Value.isVoid, items?]

/-- Paths with keys that cannot be put in order, or else with globs that are no collection. -/
inductive PathsUntold : Value → Prop
  | keys {fields : List (Value × Value)} (hmixed : Value.Mixed (unknownKeys .paths fields)) : PathsUntold (.map fields)
  | globs {fields : List (Value × Value)} {key : String} (hknown : unknownKeys .paths fields = [])
      (hkey : key = "include" ∨ key = "exclude") (hglobs : NoItems (get? fields key)) : PathsUntold (.map fields)

/-- All that is looked at before the paths is as it has to be. -/
structure Checked (fields : List (Value × Value)) : Prop where
  known : unknownKeys .entry fields = []
  texts : ∀ key ∈ requiredKeys, ∃ s, get? fields key = some (.text s)
  truths : ∀ key ∈ truthKeys, get? fields key = none ∨ ∃ on, get? fields key = some (.bool on)
  groups : (∃ pairs, getD fields "regex_groups" = .map pairs) ∨ (getD fields "regex_groups").isVoid = true

theorem checked_named {entries : List (String × Value)}
    (hkeys : ∀ name ∈ entries.map (·.1), name ∈ Section.entry.allowed)
    (htexts : ∀ key ∈ requiredKeys, ∃ s, entries.lookup key = some (.text s))
    (htruths : ∀ key ∈ truthKeys, entries.lookup key = none ∨ ∃ on, entries.lookup key = some (.bool on))
    (hgroups : (∃ pairs, (entries.lookup "regex_groups").getD .null = .map pairs) ∨
      ((entries.lookup "regex_groups").getD .null).isVoid = true) : Checked (named entries) := by
  have hlookup (key : String) : get? (named entries) key = entries.lookup key := Value.Pairs.get?_named
  refine ⟨checkKeys_ok.mp (checkKeys_named .entry entries ⟨"", none⟩ hkeys), ?_, ?_, ?_⟩
  · simpa only [hlookup] using htexts
  · simpa only [hlookup] using htruths
  · simpa only [getD, hlookup] using hgroups

/-- A descriptor with keys that cannot be put in order, or else with such paths. -/
inductive Untold : Value → Prop
  | keys {fields : List (Value × Value)} (hmixed : Value.Mixed (unknownKeys .entry fields)) : Untold (.map fields)
  | paths {fields : List (Value × Value)} (hchecked : Checked fields) (hpaths : PathsUntold (getD fields "paths")) :
      Untold (.map fields)

/-- An error of the configuration at a place. -/
def Told (location : Location) (failure : Failure) : Prop := ∃ defect, failure = .config ⟨defect, some location⟩

theorem checkTruth_ok {key : String} :
    checkTruth fields location key = .ok () ↔ get? fields key = none ∨ ∃ on, get? fields key = some (.bool on) := by
  unfold checkTruth
  split
  · next h => simp [h]
  · next on h => simp [h]
  · next hnone hno => simpa using ⟨hnone, hno false, hno true⟩

theorem checkText_told {key : String} (h : checkText fields location key = .error failure) : Told location failure := by
  unfold checkText at h
  split at h
  · cases h
  · exact ⟨_, (Except.error.inj h).symm⟩

theorem checkTruth_told {key : String} (h : checkTruth fields location key = .error failure) :
    Told location failure := by
  unfold checkTruth at h
  split at h
  · cases h
  · cases h
  · exact ⟨_, (Except.error.inj h).symm⟩

theorem readGroups_told (h : readGroups value location = .error failure) : Told location failure := by
  unfold readGroups at h
  split at h
  · cases h
  · split_ifs at h
    exact ⟨_, (Except.error.inj h).symm⟩

theorem exists_readGroups :
    (∃ groups, readGroups value location = .ok groups) ↔ (∃ pairs, value = .map pairs) ∨ value.isVoid = true := by
  unfold readGroups
  split
  · simp
  · next hno =>
    split_ifs with hvoid
    · simp [hvoid]
    · simpa [hvoid] using hno

theorem globs_error {value : Option Value} {default : List String} :
    globs value default = .error failure ↔ NoItems value ∧ failure = .wrongType := by
  cases value with
  | none => simp [globs, NoItems]
  | some value =>
    cases hvoid : value.isVoid with
    | true => simp [globs, NoItems, hvoid]
    | false => cases hitems : items? value <;> simp [globs, NoItems, hvoid, hitems, @eq_comm _ Failure.wrongType]

theorem readPaths_error (h : readPaths value location = .error failure) :
    Told location failure ∨ PathsUntold value ∧ failure = .wrongType := by
  unfold readPaths at h
  split at h
  · cases h
  · cases h
  · cases h
  · next fields =>
    rcases Results.bind_error.mp h with h | ⟨_, hkeys, h⟩
    · rcases checkKeys_error.mp h with ⟨keys, -, -, rfl⟩ | ⟨hmixed, rfl⟩
      · exact .inl ⟨_, rfl⟩
      · exact .inr ⟨.keys hmixed, rfl⟩
    have hknown := checkKeys_ok.mp hkeys
    rcases Results.bind_error.mp h with h | ⟨included, -, h⟩
    · obtain ⟨hglobs, rfl⟩ := globs_error.mp h
      exact .inr ⟨.globs hknown (.inl rfl) hglobs, rfl⟩
    rcases Results.bind_error.mp h with h | ⟨excluded, -, h⟩
    · obtain ⟨hglobs, rfl⟩ := globs_error.mp h
      exact .inr ⟨.globs hknown (.inr rfl) hglobs, rfl⟩
    · cases h
  · exact .inl ⟨_, (Except.error.inj h).symm⟩

theorem PathsUntold.readPaths_error (h : PathsUntold value) (location : Location) :
    readPaths value location = .error .wrongType := by
  cases h with
  | keys hmixed => exact Results.bind_error.mpr (.inl (checkKeys_error.mpr (.inr ⟨hmixed, rfl⟩)))
  | @globs fields key hknown hkey hglobs =>
    refine Results.bind_error.mpr (.inr ⟨(), checkKeys_ok.mpr hknown, ?_⟩)
    cases hincluded : Descriptor.globs (get? fields "include") ["**"] with
    | error failure =>
      obtain ⟨-, rfl⟩ := globs_error.mp hincluded
      rfl
    | ok included =>
      refine Results.bind_error.mpr (.inr ⟨included, rfl, Results.bind_error.mpr (.inl ?_)⟩)
      rcases hkey with rfl | rfl
      · rw [globs_error.mpr ⟨hglobs, rfl⟩] at hincluded
        cases hincluded
      · exact globs_error.mpr ⟨hglobs, rfl⟩

/-- The fields before the paths are checked one after the other. -/
theorem checked_iff (location : Location) : Checked fields ↔ checkKeys .entry fields location = .ok () ∧
    requiredKeys.forM (checkText fields location) = .ok () ∧ truthKeys.forM (checkTruth fields location) = .ok () ∧
    ∃ groups, readGroups (getD fields "regex_groups") location = .ok groups := by
  rw [checkKeys_ok, Results.forM_ok, Results.forM_ok, exists_readGroups]
  simp only [checkText_ok, checkTruth_ok]
  exact ⟨fun h => ⟨h.known, h.texts, h.truths, h.groups⟩, fun h => ⟨h.1, h.2.1, h.2.2.1, h.2.2.2⟩⟩

theorem Untold.read_error {raw : Value} (h : Untold raw) (location : Location) :
    read raw location = .error .wrongType := by
  cases h with
  | keys hmixed => exact Results.bind_error.mpr (.inl (checkKeys_error.mpr (.inr ⟨hmixed, rfl⟩)))
  | @paths fields hchecked hpaths =>
    obtain ⟨hkeys, htexts, htruths, groups, hgroups⟩ := (checked_iff location).mp hchecked
    refine Results.bind_error.mpr (.inr ⟨(), hkeys, ?_⟩)
    refine Results.bind_error.mpr (.inr ⟨(), htexts, ?_⟩)
    refine Results.bind_error.mpr (.inr ⟨(), htruths, ?_⟩)
    refine Results.bind_error.mpr (.inr ⟨groups, hgroups, ?_⟩)
    exact Results.bind_error.mpr (.inl (hpaths.readPaths_error location))

/-- What fails is told with its place, or it cannot be told. -/
theorem told_or_untold {raw : Value} (h : read raw location = .error failure) :
    Told location failure ∨ Untold raw ∧ failure = .wrongType := by
  unfold read at h
  split at h
  · next fields =>
    rcases Results.bind_error.mp h with h | ⟨_, hkeys, h⟩
    · rcases checkKeys_error.mp h with ⟨keys, -, -, rfl⟩ | ⟨hmixed, rfl⟩
      · exact .inl ⟨_, rfl⟩
      · exact .inr ⟨.keys hmixed, rfl⟩
    rcases Results.bind_error.mp h with h | ⟨_, htexts, h⟩
    · obtain ⟨key, -, h⟩ := Results.exists_forM_error h
      exact .inl (checkText_told h)
    rcases Results.bind_error.mp h with h | ⟨_, htruths, h⟩
    · obtain ⟨key, -, h⟩ := Results.exists_forM_error h
      exact .inl (checkTruth_told h)
    rcases Results.bind_error.mp h with h | ⟨groups, hgroups, h⟩
    · exact .inl (readGroups_told h)
    have hchecked : Checked fields := (checked_iff location).mpr ⟨hkeys, htexts, htruths, groups, hgroups⟩
    rcases Results.bind_error.mp h with h | ⟨paths, -, h⟩
    · exact (readPaths_error h).imp_right fun h => ⟨.paths hchecked h.1, h.2⟩
    · cases h
  · exact .inl ⟨_, (Except.error.inj h).symm⟩

/-- Every value is read as a descriptor or fails, and then it is told what is wrong, with the place of the descriptor,
but for one kind of failure. This comes of keys that are not allowed and cannot be put in order, and of globs that are
to be taken from a value without items, and of nothing else. Integers have texts of any length in this, also those of
more digits than `Markup.Scalar.digitLimit`. -/
theorem read_fails (raw : Value) (location : Location) :
    ((∀ failure, read raw location = .error failure → Told location failure) ↔ ¬Untold raw) ∧
    (read raw location = .error .wrongType ↔ Untold raw) ∧
    ∀ failure, read raw location = .error failure → Told location failure ∨ failure = .wrongType := by
  have hkind : ¬Told location .wrongType := fun ⟨_, h⟩ => nomatch h
  have hwrong : read raw location = .error .wrongType ↔ Untold raw := by
    refine ⟨fun h => ?_, fun h => h.read_error location⟩
    exact ((told_or_untold h).resolve_left hkind).1
  refine ⟨⟨fun htold huntold => ?_, fun hno failure h => ?_⟩, hwrong, fun failure h => ?_⟩
  · exact hkind (htold _ (hwrong.mpr huntold))
  · exact (told_or_untold h).resolve_right fun h => hno h.1
  · exact (told_or_untold h).imp_right And.right

def numbered : List (Value × Value) :=
  named [("before", .text "a"), ("after", .text "b"), ("paths", .map (named [("include", .int 5)]))]

theorem numbered_untold : Untold (.map numbered) := by
  have hchecked : Checked numbered := checked_named (by decide) (by simp [requiredKeys, List.lookup_cons])
    (by simp [truthKeys, List.lookup_cons]) (.inr rfl)
  have hpaths : getD numbered "paths" = .map (named [("include", .int 5)]) := by
    rw [getD, get?, numbered, Value.Pairs.get?_named]
    rfl
  have hknown : unknownKeys .paths (named [("include", .int 5)]) = [] :=
    checkKeys_ok.mp (checkKeys_named .paths [("include", .int 5)] ⟨"a", none⟩ (by decide))
  have hinclude : get? (named [("include", .int 5)]) "include" = some (.int 5) := Value.Pairs.get?_named
  refine .paths hchecked ?_
  rw [hpaths]
  refine .globs hknown (.inl rfl) ?_
  rw [hinclude]
  exact noItems_some.mpr (.inr (.inl ⟨5, rfl, by decide⟩))

def mixed : List (Value × Value) :=
  [(.text "before", .text "a"), (.text "after", .text "b"), (.int 1, .text "x"), (.text "c", .text "y")]

theorem mixed_untold : Untold (.map mixed) := by
  have hunknown : unknownKeys .entry mixed = [.int 1, .text "c"] := by
    simp [unknownKeys, mixed, Value.same_text_eq_false, Section.allowed]
  refine .keys ?_
  rw [hunknown]
  exact ⟨by decide, .int 1, by simp, .text "c", by simp, rfl⟩

theorem read_fails_numbered :
    Untold (.map numbered) ∧ read (.map numbered) ⟨"a", some 1⟩ = .error .wrongType ∧
      read (.map mixed) ⟨"a", some 1⟩ = .error .wrongType ∧
      read (.int 5) ⟨"a", some 1⟩ = .error (.config ⟨.entryNotMapping "int", some ⟨"a", some 1⟩⟩) ∧
      ¬Untold (.int 5) := by
  obtain ⟨-, hnumbered, -⟩ := read_fails (.map numbered) ⟨"a", some 1⟩
  obtain ⟨-, hmixed, -⟩ := read_fails (.map mixed) ⟨"a", some 1⟩
  have hint : read (.int 5) ⟨"a", some 1⟩ = .error (.config ⟨.entryNotMapping "int", some ⟨"a", some 1⟩⟩) := rfl
  refine ⟨numbered_untold, hnumbered.mpr numbered_untold, hmixed.mpr mixed_untold, hint, ?_⟩
  refine (read_fails (.int 5) ⟨"a", some 1⟩).1.mp fun failure h => ?_
  obtain rfl := Except.error.inj (hint.symm.trans h)
  exact ⟨_, rfl⟩

/-- Neither failure is told. -/
theorem read_raises :
    (¬∀ failure, read (.map numbered) ⟨"a", some 1⟩ = .error failure → Told ⟨"a", some 1⟩ failure) ∧
      ¬∀ failure, read (.map mixed) ⟨"a", some 1⟩ = .error failure → Told ⟨"a", some 1⟩ failure := by
  constructor
  · intro htold
    obtain ⟨defect, h⟩ := htold _ (numbered_untold.read_error ⟨"a", some 1⟩)
    cases h
  · intro htold
    obtain ⟨defect, h⟩ := htold _ (mixed_untold.read_error ⟨"a", some 1⟩)
    cases h

end TemplateSwap.Descriptor
