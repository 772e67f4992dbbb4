import TemplateSwap.Proofs.Replacement.Captures
import Mathlib.Data.List.Induction
import Mathlib.Data.List.Nodup

namespace TemplateSwap

open TemplateSwap.Text (codes ofCodes)

namespace Template

variable {t : Template} {name name' : String} {index : Nat} {holes : List (String × Nat)}

theorem names_eq (t : Template) : t.names = (t.placeholders.map (·.1)).eraseDups := by
  rw [names, placeholders, List.map_filterMap]
  congr 2
  funext token
  cases token <;> rfl

/-- The numbers that a name has among placeholders. -/
def occurrences (holes : List (String × Nat)) (name : String) : List Nat :=
  holes.filterMap fun (n, index) => if n = name then some index else none

theorem mem_occurrences : index ∈ occurrences holes name ↔ (name, index) ∈ holes := by
  rw [occurrences, List.mem_filterMap]
  constructor
  · intro h
    obtain ⟨⟨n, i⟩, hmem, hentry⟩ := h
    obtain ⟨rfl, hi⟩ := Option.ite_none_right_eq_some.mp hentry
    rwa [← Option.some.inj hi]
  · intro hmem
    exact ⟨(name, index), hmem, if_pos rfl⟩

theorem occurrences_append (front : List (String × Nat)) (name' : String) (index : Nat) (name : String) :
    occurrences (front ++ [(name', index)]) name = occurrences front name ++ if name = name' then [index] else [] := by
  rw [occurrences, List.filterMap_append]
  by_cases hname : name = name'
  · simp [occurrences, hname]
  · simp [occurrences, hname, Ne.symm hname]

theorem occurrences_new (h : name ∉ holes.map (·.1)) : occurrences holes name = [] := by
  rw [List.eq_nil_iff_forall_not_mem]
  intro index hmem
  exact h (List.mem_map.mpr ⟨_, mem_occurrences.mp hmem, rfl⟩)

/-- Each number is larger than those before it. -/
def Increasing (holes : List (String × Nat)) : Prop := holes.Pairwise fun a b => a.2 < b.2

theorem Numbered.increasing (h : t.Numbered) : Increasing t.placeholders := by
  refine List.pairwise_map.mp (?_ : (t.placeholders.map (·.2)).Pairwise (· < ·))
  rw [h]
  exact List.pairwise_lt_range

theorem Increasing.occurrences (h : Increasing holes) (name : String) : (occurrences holes name).Pairwise (· < ·) := by
  rw [Template.occurrences, List.pairwise_filterMap]
  refine h.imp fun hab i hi j hj => ?_
  rw [← Option.some.inj (Option.ite_none_right_eq_some.mp hi).2,
    ← Option.some.inj (Option.ite_none_right_eq_some.mp hj).2]
  exact hab

/-- A number belongs to one name. -/
theorem Increasing.name_inj (h : Increasing holes) (hmem : (name, index) ∈ holes) (hmem' : (name', index) ∈ holes) :
    name = name' := by
  have hdistinct : (holes.map (·.2)).Nodup := List.pairwise_map.mpr (h.imp Nat.ne_of_lt)
  exact congrArg Prod.fst (List.inj_on_of_nodup_map hdistinct hmem hmem' rfl)

/-- Names come in the order of their first numbers. -/
theorem Increasing.firsts (h : Increasing holes) : (holes.map (·.1)).eraseDups.Pairwise fun a b =>
    ∃ i j, holes.lookup a = some i ∧ holes.lookup b = some j ∧ i < j := by
  induction holes using List.reverseRecOn with
  | nil => exact .nil
  | append_singleton front hole ih =>
    obtain ⟨hfront, -, hlast⟩ := List.pairwise_append.mp h
    have hkept : ∀ {name i}, front.lookup name = some i → (front ++ [hole]).lookup name = some i := by
      intro name i hname
      rw [List.lookup_append, hname, Option.some_or]
    have hpairs : (front.map (·.1)).eraseDups.Pairwise fun a b => ∃ i j,
        (front ++ [hole]).lookup a = some i ∧ (front ++ [hole]).lookup b = some j ∧ i < j := by
      refine (ih hfront).imp fun hab => ?_
      obtain ⟨i, j, hi, hj, hlt⟩ := hab
      exact ⟨i, j, hkept hi, hkept hj, hlt⟩
    rw [List.map_append, List.eraseDups_append, List.map_singleton]
    by_cases hmem : hole.1 ∈ front.map (·.1)
    · simpa [List.removeAll, hmem] using hpairs
    · have hnew : (front ++ [hole]).lookup hole.1 = some hole.2 := by
        have hnone : front.lookup hole.1 = none := by
          rw [List.lookup_eq_none_iff]
          intro other hother
          have hne : hole.1 ≠ other.1 := fun heq => hmem (List.mem_map.mpr ⟨other, hother, heq.symm⟩)
          simpa using hne
        rw [List.lookup_append, hnone, Option.none_or, List.lookup_cons, beq_self_eq_true]
      have hname : ([hole.1].removeAll (front.map (·.1))).eraseDups = [hole.1] := by
        simp [List.removeAll, hmem, List.eraseDups_cons]
      rw [hname, List.pairwise_append]
      refine ⟨hpairs, List.pairwise_singleton _ _, fun a ha b hb => ?_⟩
      obtain ⟨i, hi⟩ := Results.exists_lookup (List.mem_eraseDups.mp ha)
      rw [List.mem_singleton.mp hb]
      exact ⟨i, hole.2, hkept hi, hnew, hlast _ (Results.mem_of_lookup hi) _ (List.mem_singleton_self _)⟩

theorem Increasing.distinct (h : Increasing holes) : (holes.map (·.1)).eraseDups.Nodup := by
  refine h.firsts.imp fun hab heq => ?_
  obtain ⟨i, j, hi, hj, hlt⟩ := hab
  rw [heq, hj] at hi
  exact absurd (Option.some.inj hi) (Nat.ne_of_gt hlt)

end Template

namespace Composite

open Template (occurrences mem_occurrences)

variable {before : Template} {f : Fragments}

theorem groupName_injective : Function.Injective groupName :=
  fun _ _ h => groupName_inj (congrArg codes h)

theorem groups_eq (holes : List (String × Nat)) (name : String) :
    (holes.filterMap fun (n, index) => if n = name then some (groupName index) else none) =
      (occurrences holes name).map groupName := by
  rw [occurrences, List.map_filterMap]
  congr 1
  funext hole
  by_cases hname : hole.1 = name <;> simp [hname]

theorem table_eq (before : Template) :
    table before = before.names.map fun name => (name, (occurrences before.placeholders name).map groupName) := by
  simp only [table, groups_eq]

/-- The first occurrence is the leftmost one. -/
theorem lookup_eq_first (holes : List (String × Nat)) (name : String) :
    holes.lookup name = (occurrences holes name).head? := by
  refine Option.map_injective groupName_injective ?_
  rw [← Replacer.head?_groups, groups_eq, List.head?_map]

/-- Add a group to those of its name, or as the first one of a new name. -/
def addGroup (name group : String) : List (String × List String) → List (String × List String)
  | [] => [(name, [group])]
  | (n, own) :: rest => if n = name then (n, own ++ [group]) :: rest else (n, own) :: addGroup name group rest

theorem addGroup_map {names : List String} (hdistinct : names.Nodup) (own : String → List String)
    (name group : String) :
    addGroup name group (names.map fun n => (n, own n)) =
      (names.map fun n => (n, own n ++ if n = name then [group] else [])) ++
        if name ∈ names then [] else [(name, [group])] := by
  induction names with
  | nil => rfl
  | cons n names ih =>
    obtain ⟨hnew, hdistinct⟩ := List.nodup_cons.mp hdistinct
    rw [List.map_cons, addGroup, List.map_cons]
    by_cases hn : n = name
    · obtain rfl := hn
      have hothers : (names.map fun m => (m, own m ++ if m = n then [group] else [])) =
          names.map fun m => (m, own m) := by
        refine List.map_congr_left fun m hm => ?_
        rw [if_neg (ne_of_mem_of_not_mem hm hnew), List.append_nil]
      simp [hothers]
    · rw [if_neg hn, ih hdistinct]
      simp [hn, Ne.symm hn]

/-- The table is put together in one pass, from left to right. -/
theorem table_eq_foldl (h : before.Numbered) : table before =
    before.placeholders.foldl (fun groups hole => addGroup hole.1 (groupName hole.2) groups) [] := by
  rw [table_eq, Template.names_eq]
  have hincreasing := h.increasing
  generalize before.placeholders = holes at hincreasing
  induction holes using List.reverseRecOn with
  | nil => rfl
  | append_singleton front hole ih =>
    obtain ⟨name, index⟩ := hole
    have hfront : Template.Increasing front := (List.pairwise_append.mp hincreasing).1
    rw [List.foldl_append, ← ih hfront, List.foldl_cons, List.foldl_nil, addGroup_map hfront.distinct,
      List.map_append, List.eraseDups_append, List.map_append]
    congr 1
    · refine List.map_congr_left fun n _ => ?_
      rw [Template.occurrences_append, List.map_append]
      split_ifs <;> rfl
    · by_cases hmem : name ∈ (front.map (·.1)).eraseDups
      · have hseen := List.mem_eraseDups.mp hmem
        rw [if_pos hmem]
        simp [List.removeAll, hseen]
      · have hnew : name ∉ front.map (·.1) := mt List.mem_eraseDups.mpr hmem
        rw [if_neg hmem]
        simp [List.removeAll, hnew, List.eraseDups_cons, Template.occurrences_append, Template.occurrences_new hnew]

/-- A table has each name that a template has, in order of first appearance, and with it the groups of its
occurrences, from left to right. So each group is in the table once. -/
structure Exact (before : Template) (groups : List (String × List String)) : Prop where
  keys : groups.map (·.1) = before.names
  mem : ∀ name, name ∈ groups.map (·.1) ↔ ∃ index, .placeholder name index ∈ before.tokens
  order : groups.Pairwise fun a b =>
    ∃ i j, a.2.head? = some (groupName i) ∧ b.2.head? = some (groupName j) ∧ i < j
  own : ∀ name own, (name, own) ∈ groups → ∃ first more, own = (first :: more).map groupName ∧
    (first :: more).Pairwise (· < ·) ∧ ∀ index, index ∈ first :: more ↔ .placeholder name index ∈ before.tokens
  disjoint : groups.Pairwise fun a b => a.2.Disjoint b.2
  all : (groups.flatMap (·.2)).Perm ((List.range before.placeholders.length).map groupName)
  once : (groups.flatMap (·.2)).Nodup

theorem mem_table {name : String} {own : List String} (h : (name, own) ∈ table before) :
    name ∈ before.names ∧ own = (occurrences before.placeholders name).map groupName := by
  rw [table_eq] at h
  obtain ⟨n, hn, heq⟩ := List.mem_map.mp h
  obtain ⟨rfl, rfl⟩ := Prod.mk.inj heq
  exact ⟨hn, rfl⟩

theorem occurrences_disjoint (h : before.Numbered) {a b : String} (hne : a ≠ b) :
    (occurrences before.placeholders a).Disjoint (occurrences before.placeholders b) :=
  fun _ ha hb => hne (h.increasing.name_inj (mem_occurrences.mp ha) (mem_occurrences.mp hb))

theorem names_distinct (h : before.Numbered) : before.names.Nodup := by
  rw [Template.names_eq]
  exact h.increasing.distinct

/-- Taken together, the occurrences of all names are all placeholders. -/
theorem flatMap_occurrences (h : before.Numbered) :
    (before.names.flatMap (occurrences before.placeholders)).Perm (List.range before.placeholders.length) := by
  have hnodup : (before.names.flatMap (occurrences before.placeholders)).Nodup := by
    refine List.nodup_flatMap.mpr ⟨fun name _ => ?_, (names_distinct h).imp fun hne => occurrences_disjoint h hne⟩
    exact (h.increasing.occurrences name).imp Nat.ne_of_lt
  rw [List.perm_ext_iff_of_nodup hnodup List.nodup_range]
  intro index
  rw [List.mem_flatMap, List.mem_range]
  constructor
  · intro hmem
    obtain ⟨name, -, hindex⟩ := hmem
    exact h.lt (Template.mem_placeholders.mp (mem_occurrences.mp hindex))
  · intro hlt
    obtain ⟨name, hmem⟩ := h.exists_name hlt
    exact ⟨name, Template.mem_names.mpr ⟨index, hmem⟩, mem_occurrences.mpr (Template.mem_placeholders.mpr hmem)⟩

theorem flatMap_table (h : before.Numbered) :
    ((table before).flatMap (·.2)).Perm ((List.range before.placeholders.length).map groupName) := by
  rw [table_eq, List.flatMap_map, ← List.map_flatMap]
  exact (flatMap_occurrences h).map groupName

/-- A name that occurs has a first occurrence, and more to the right of it. -/
theorem occurrences_of_mem (h : before.Numbered) {name : String} (hname : name ∈ before.names) :
    ∃ first more, occurrences before.placeholders name = first :: more ∧ (first :: more).Pairwise (· < ·) ∧
      ∀ index, index ∈ first :: more ↔ .placeholder name index ∈ before.tokens := by
  have hindex (index : Nat) : index ∈ occurrences before.placeholders name ↔
      .placeholder name index ∈ before.tokens := mem_occurrences.trans Template.mem_placeholders
  have hincreasing := h.increasing.occurrences name
  obtain ⟨index, hoccurs⟩ := Template.mem_names.mp hname
  cases hall : occurrences before.placeholders name with
  | nil =>
    rw [← hindex, hall] at hoccurs
    cases hoccurs
  | cons first more =>
    rw [hall] at hindex hincreasing
    exact ⟨first, more, rfl, hincreasing, hindex⟩

theorem keys_table (before : Template) : (table before).map (·.1) = before.names := by
  rw [table, List.map_map]
  exact List.map_id' _

theorem exact_table (h : before.Numbered) : Exact before (table before) where
  keys := keys_table before
  mem name := by rw [keys_table, Template.mem_names]
  order := by
    rw [table_eq, List.pairwise_map, Template.names_eq]
    refine h.increasing.firsts.imp fun hab => ?_
    obtain ⟨i, j, hi, hj, hlt⟩ := hab
    rw [lookup_eq_first] at hi hj
    refine ⟨i, j, ?_, ?_, hlt⟩
    · rw [List.head?_map, hi, Option.map_some]
    · rw [List.head?_map, hj, Option.map_some]
  own name own hmem := by
    obtain ⟨hname, rfl⟩ := mem_table hmem
    obtain ⟨first, more, hall, hincreasing, hindex⟩ := occurrences_of_mem h hname
    exact ⟨first, more, by rw [hall], hincreasing, hindex⟩
  disjoint := by
    rw [table_eq, List.pairwise_map]
    exact (names_distinct h).imp fun hne => List.disjoint_map groupName_injective (occurrences_disjoint h hne)
  all := flatMap_table h
  once := (flatMap_table h).nodup_iff.mpr (List.nodup_range.map groupName_injective)

/-- How a token is written in the pattern: literal text with its special characters escaped, and an occurrence of a
placeholder as the fragment of its name in a group of its own. -/
inductive Spells (f : Fragments) : Token → String → Prop
  | literal (text : String) : Spells f (.literal text) (ofCodes (Pattern.literal (codes text)))
  | placeholder {name : String} {index : Nat} {p : Pattern} (h : f.get? name = some p) :
    Spells f (.placeholder name index) ("(?P<" ++ groupName index ++ ">(?:" ++ p.source ++ "))")

theorem part_iff_spells {token : Token} {part : String} : Composite.part f token = .ok part ↔ Spells f token part := by
  constructor
  · intro h
    cases token with
    | literal text =>
      obtain rfl := Except.ok.inj h
      exact .literal text
    | placeholder name index =>
      cases hp : f.get? name with
      | none => simp [Composite.part, hp] at h
      | some p =>
        simp only [Composite.part, hp] at h
        obtain rfl := Except.ok.inj h
        exact .placeholder hp
  · intro h
    cases h with
    | literal text => rfl
    | placeholder hp => simp only [Composite.part, hp, wrapped]

/-- The pattern is what its tokens are written as, one after the other. -/
theorem source_spelled (hknown : ∀ name ∈ before.names, name ∈ f.names) :
    ∃ parts, List.Forall₂ (Spells f) before.tokens parts ∧ Composite.source before f = .ok ("".intercalate parts) := by
  have hparts : ∀ token ∈ before.tokens, ∃ part, Composite.part f token = .ok part := by
    intro token hmem
    refine part_ok.mpr fun name index htoken => ?_
    rw [htoken] at hmem
    exact Results.exists_lookup (hknown name (Template.mem_names.mpr ⟨index, hmem⟩))
  obtain ⟨parts, hall⟩ := Results.exists_mapM_ok.mpr hparts
  refine ⟨parts, (Results.mapM_ok.mp hall).imp fun _ _ => part_iff_spells.mp, ?_⟩
  exact Results.bind_ok.mpr ⟨parts, hall, rfl⟩

/-- No two placeholders have groups of one name. -/
theorem groupNames_distinct (h : before.Numbered) : before.tokens.Pairwise fun a b =>
    ∀ name name' i j, a = .placeholder name i → b = .placeholder name' j → groupName i ≠ groupName j :=
  Template.pairwise_tokens (R := fun a b => groupName a.2 ≠ groupName b.2)
    (h.increasing.imp fun hlt heq => Nat.ne_of_lt hlt (groupName_injective heq))

end Composite

namespace Replacer

open Composite

variable {before after : Template} {f : Fragments} {firstOnly multiline : Bool} {r : Replacer}

/-- The group that a replacer looks up for a name is there, and is that of the leftmost occurrence. -/
theorem Built.lookup_first (hnumbered : before.Numbered) (h : Built before after f firstOnly multiline r)
    {name : String} {index : Nat} (hmem : .placeholder name index ∈ r.recipe) :
    ∃ first more, r.groups.lookup name = some (groupName first :: more) ∧
      .placeholder name first ∈ before.tokens ∧ (∀ other, .placeholder name other ∈ before.tokens → first ≤ other) ∧
      ∀ text m, r.captured text m name = spanText text (Replacer.span? r.pattern m first) := by
  rw [h.recipe] at hmem
  have hname := h.captured name (Template.mem_names.mpr ⟨index, hmem⟩)
  obtain ⟨first, more, hall, hincreasing, hindex⟩ := occurrences_of_mem hnumbered hname
  have hfirst : before.placeholders.lookup name = some first := by
    rw [lookup_eq_first, hall, List.head?_cons]
  refine ⟨first, more.map groupName, ?_, (hindex first).mp List.mem_cons_self, fun other hother => ?_, fun text m => ?_⟩
  · rw [h.groups, table_eq, lookup_map, if_pos hname, hall, List.map_cons]
  · rcases List.mem_cons.mp ((hindex other).mpr hother) with rfl | hmore
    · exact Nat.le_refl _
    · exact Nat.le_of_lt ((List.pairwise_cons.mp hincreasing).1 other hmore)
  · rw [h.captured_eq, Replacer.leftmost?, hfirst, Option.bind_some]

end Replacer

namespace Composite

/-- The pattern of a template that was read is put together from its tokens, with a group of its own for each
occurrence of a placeholder. The table of groups is exact, and where an after template can be written, the group that
is looked up for each of its names is that of the leftmost occurrence, which took part of each match. -/
theorem table_exact {text : String} {repeatsAllowed : Bool} {location : Option Location} {before : Template}
    (hread : Template.read text repeatsAllowed location = .ok before) (f : Fragments)
    (hknown : ∀ name ∈ before.names, name ∈ f.names) :
    Exact before (table before) ∧
    table before = before.placeholders.foldl (fun groups hole => addGroup hole.1 (groupName hole.2) groups) [] ∧
    (∃ parts, List.Forall₂ (Spells f) before.tokens parts ∧
      Composite.source before f = .ok ("".intercalate parts)) ∧
    before.placeholders.map (·.2) = List.range before.placeholders.length ∧
    (before.tokens.Pairwise fun a b =>
      ∀ name name' i j, a = .placeholder name i → b = .placeholder name' j → groupName i ≠ groupName j) ∧
    ∀ after firstOnly multiline r, Replacer.compile before after f firstOnly multiline = .ok r →
      r.groups = table before ∧ ∀ name index, .placeholder name index ∈ r.recipe →
        ∃ first more, r.groups.lookup name = some (groupName first :: more) ∧
          .placeholder name first ∈ before.tokens ∧
          (∀ other, .placeholder name other ∈ before.tokens → first ≤ other) ∧
          (∀ text m, r.captured text m name = spanText text (Replacer.span? r.pattern m first)) ∧
          (Sound f → ∀ text m, r.pattern.Matches text m → ∃ start stop,
            Replacer.span? r.pattern m first = some (start, stop) ∧ start ≤ stop ∧ stop ≤ text.size) := by
  have hnumbered := Template.read_numbered hread
  refine ⟨exact_table hnumbered, table_eq_foldl hnumbered, source_spelled hknown, hnumbered,
    groupNames_distinct hnumbered, fun after firstOnly multiline r hr => ?_⟩
  have hbuilt := Replacer.compile_ok.mp hr
  refine ⟨hbuilt.groups, fun name index hmem => ?_⟩
  obtain ⟨first, more, hlookup, hfirst, hleast, hcaptured⟩ := hbuilt.lookup_first hnumbered hmem
  exact ⟨first, more, hlookup, hfirst, hleast, hcaptured, fun hf text m hm => hbuilt.span? hf hm hfirst⟩

def mixedBefore : Template :=
  { source := "${x}.${y}${x}", tokens := [.placeholder "x" 0, .literal ".", .placeholder "y" 1, .placeholder "x" 2] }

def mixedAfter : Template :=
  { source := "${y}-${x}", tokens := [.placeholder "y" 0, .literal "-", .placeholder "x" 1] }

def mixedTable : List (String × List String) := [("x", ["_ph0", "_ph2"]), ("y", ["_ph1"])]

theorem table_exact_mixed :
    Template.read mixedBefore.source true none = .ok mixedBefore ∧ Exact mixedBefore mixedTable ∧
    ∃ f r, Fragments.compile [(.text "y", .text "b"), (.text "x", .text "[0-9]")] none = .ok f ∧
      Composite.source mixedBefore f = .ok "(?P<_ph0>(?:[0-9]))\\.(?P<_ph1>(?:b))(?P<_ph2>(?:[0-9]))" ∧
      Replacer.compile mixedBefore mixedAfter f false false = .ok r ∧ .placeholder "x" 1 ∈ r.recipe ∧
      ∃ more, r.groups.lookup "x" = some ("_ph0" :: more) := by
  have hread : Template.read mixedBefore.source true none = .ok mixedBefore := by
    obtain ⟨before, hbefore, hsame⟩ : ∃ t, Template.read mixedBefore.source true none = .ok t ∧
      decide (t = mixedBefore) = true := Results.exists_ok (by decide)
    rwa [of_decide_eq_true hsame] at hbefore
  obtain ⟨f, hf, hchecked⟩ : ∃ f, Fragments.compile [(.text "y", .text "b"), (.text "x", .text "[0-9]")] none = .ok f ∧
      ((Composite.source mixedBefore f).toOption.any fun source =>
          decide (source = "(?P<_ph0>(?:[0-9]))\\.(?P<_ph1>(?:b))(?P<_ph2>(?:[0-9]))") &&
            (Replacer.compile mixedBefore mixedAfter f false false).toOption.any fun r =>
              decide (.placeholder "x" 1 ∈ r.recipe)) = true := Results.exists_ok (by decide +kernel)
  obtain ⟨source, hsource, hchecked⟩ := Results.exists_ok hchecked
  obtain ⟨hsame, hcompiles⟩ := Bool.and_eq_true_iff.mp hchecked
  obtain ⟨r, hr, hmem⟩ := Results.exists_ok hcompiles
  have hmem := of_decide_eq_true hmem
  obtain ⟨hexact, -, -, -, -, hlookups⟩ := table_exact hread f (Replacer.compile_ok.mp hr).known
  have htable : table mixedBefore = mixedTable := by decide
  obtain ⟨first, more, hlookup, -, hleast, -⟩ := (hlookups mixedAfter false false r hr).2 "x" 1 hmem
  obtain rfl : first = 0 := Nat.le_zero.mp (hleast 0 List.mem_cons_self)
  rw [htable] at hexact
  rw [of_decide_eq_true hsame] at hsource
  exact ⟨hread, hexact, f, r, hf, hsource, hr, hmem, more, hlookup⟩

end Composite

end TemplateSwap
