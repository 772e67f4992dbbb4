import TemplateSwap.Descriptor
import TemplateSwap.Proofs.Results
import Mathlib.Data.List.Induction

namespace TemplateSwap

namespace Value

theorem same_text {key : Value} {name : String} : same key (.text name) = true ↔ key = .text name := by
  cases key <;> simp [same, number?]

theorem same_text_eq_false {key : Value} {name : String} : same key (.text name) = false ↔ key ≠ .text name := by
  rw [← Bool.not_eq_true, same_text]

theorem text_same {key : Value} {name : String} : same (.text name) key = true ↔ key = .text name := by
  cases key with
  | text s =>
    rw [same_text]
    exact eq_comm
  | _ => simp [same, number?]

/-- A mapping whose keys are names. -/
def named (entries : List (String × Value)) : List (Value × Value) :=
  entries.map fun (name, value) => (.text name, value)

@[simp]
theorem named_append (entries more : List (String × Value)) :
    named (entries ++ more) = named entries ++ named more := List.map_append

@[simp]
theorem named_cons (e : String × Value) (entries : List (String × Value)) :
    named (e :: entries) = (.text e.1, e.2) :: named entries := rfl

theorem named_injective : Function.Injective named := by
  refine List.map_injective_iff.mpr fun a b heq => ?_
  obtain ⟨hname, hvalue⟩ := Prod.mk.inj heq
  exact Prod.ext (Value.text.inj hname) hvalue

/-- The fields that have a value, of some that may be left out. -/
def given (options : List (String × Option Value)) : List (String × Value) :=
  options.filterMap fun (name, value?) => value?.map (name, ·)

@[simp]
theorem given_nil : given [] = [] := rfl

@[simp]
theorem given_cons (name : String) (value? : Option Value) (options : List (String × Option Value)) :
    given ((name, value?) :: options) = (value?.map (name, ·)).toList ++ given options := by
  cases value? <;> rfl

theorem given_names (options : List (String × Option Value)) :
    ((given options).map (·.1)).Sublist (options.map (·.1)) := by
  induction options with
  | nil => exact List.Sublist.slnil
  | cons o rest ih =>
    obtain ⟨name, value?⟩ := o
    cases value? with
    | none => simpa using ih.cons name
    | some value => simpa using ih.cons_cons name

theorem lookup_given {options : List (String × Option Value)} (h : (options.map (·.1)).Nodup)
    (key : String) : (given options).lookup key = (options.lookup key).join := by
  induction options with
  | nil => rfl
  | cons o rest ih =>
    obtain ⟨name, value?⟩ := o
    obtain ⟨hname, hrest⟩ := List.nodup_cons.mp h
    cases value? with
    | some value =>
      by_cases hkey : key = name
      · simp [hkey]
      · simp [List.lookup_cons, beq_false_of_ne hkey, ih hrest]
    | none =>
      by_cases hkey : key = name
      · have habsent : (given rest).lookup name = none := by
          rw [List.lookup_eq_none_iff]
          intro p hp
          have hmem := (given_names rest).subset (List.mem_map_of_mem (f := (·.1)) hp)
          rw [bne_iff_ne]
          exact fun heq => hname (heq ▸ hmem)
        simp [hkey, habsent]
      · simp [List.lookup_cons, beq_false_of_ne hkey, ih hrest]

namespace Pairs

variable {pairs : List (Value × Value)} {entries : List (String × Value)} {name key : String}
  {value : Value}

theorem get?_cons (k v key : Value) :
    get? ((k, v) :: pairs) key = if same k key = true then some v else get? pairs key := by
  simp only [get?, List.find?_cons]
  cases same k key <;> simp

theorem get?_put_self : get? (put pairs (.text name) value) (.text name) = some value := by
  induction pairs with
  | nil => rw [put, get?_cons, if_pos (same_text.mpr rfl)]
  | cons p rest ih =>
    obtain ⟨k, v⟩ := p
    by_cases hk : same k (.text name) = true
    · rw [put, if_pos hk, get?_cons, if_pos hk]
    · rw [put, if_neg hk, get?_cons, if_neg hk, ih]

theorem get?_put_of_ne (h : name ≠ key) :
    get? (put pairs (.text name) value) (.text key) = get? pairs (.text key) := by
  have hne : ¬ same (.text name) (.text key) = true := by
    rw [same_text, Value.text.injEq]
    exact h
  induction pairs with
  | nil => rw [put, get?_cons, if_neg hne]
  | cons p rest ih =>
    obtain ⟨k, v⟩ := p
    by_cases hk : same k (.text name) = true
    · obtain rfl := same_text.mp hk
      rw [put, if_pos hk, get?_cons, if_neg hne, get?_cons, if_neg hne]
    · rw [put, if_neg hk, get?_cons, get?_cons, ih]

/-- The value under a name. -/
theorem get?_named : get? (named entries) (.text key) = entries.lookup key := by
  induction entries with
  | nil => rfl
  | cons e rest ih =>
    rw [named_cons, get?_cons, List.lookup_cons, ih]
    by_cases h : key = e.1
    · rw [if_pos (same_text.mpr (congrArg Value.text h.symm)), h, beq_self_eq_true]
    · rw [if_neg (fun hsame => h (Value.text.inj (same_text.mp hsame)).symm), beq_false_of_ne h]

theorem mem_keys_put {k newKey : Value}
    (h : k ∈ (put pairs newKey value).map (·.1)) : k ∈ pairs.map (·.1) ∨ k = newKey := by
  induction pairs with
  | nil => exact .inr (List.mem_singleton.mp h)
  | cons p rest ih =>
    rw [put] at h
    split_ifs at h with hsame
    · exact .inl h
    · rcases List.mem_cons.mp h with rfl | hrest
      · exact .inl List.mem_cons_self
      · exact (ih hrest).imp_left (List.mem_cons_of_mem _)

theorem mem_keys_put_of_mem {k newKey : Value} (h : k ∈ pairs.map (·.1)) : k ∈ (put pairs newKey value).map (·.1) := by
  induction pairs with
  | nil => cases h
  | cons p rest ih =>
    rw [put]
    split_ifs with hsame
    · exact h
    · exact List.mem_cons.mpr ((List.mem_cons.mp h).imp_right ih)

/-- The key under which a value was put is there, or another one that is the same. -/
theorem exists_key_put (pairs : List (Value × Value)) (newKey value : Value) :
    ∃ k ∈ (put pairs newKey value).map (·.1), k = newKey ∨ same k newKey = true := by
  induction pairs with
  | nil => exact ⟨newKey, List.mem_cons_self, .inl rfl⟩
  | cons p rest ih =>
    rw [put]
    split_ifs with hsame
    · exact ⟨p.1, List.mem_cons_self, .inr hsame⟩
    · obtain ⟨k, hk, hkey⟩ := ih
      exact ⟨k, List.mem_cons_of_mem _ hk, hkey⟩

theorem ofList_append (front : List (Value × Value)) (p : Value × Value) :
    ofList (front ++ [p]) = put (ofList front) p.1 p.2 := by
  rw [ofList, List.foldl_append]
  rfl

theorem exists_key_ofList {k : Value} (h : k ∈ pairs.map (·.1)) :
    ∃ k' ∈ (ofList pairs).map (·.1), k' = k ∨ same k' k = true := by
  induction pairs using List.reverseRecOn with
  | nil => cases h
  | append_singleton front p ih =>
    rw [List.map_append, List.mem_append, List.map_singleton, List.mem_singleton] at h
    rw [ofList_append]
    rcases h with h | rfl
    · obtain ⟨k', hk', hsame⟩ := ih h
      exact ⟨k', mem_keys_put_of_mem hk', hsame⟩
    · exact exists_key_put (ofList front) p.1 p.2

/-- A new name comes last, and one that is there keeps its place. -/
theorem put_named (entries : List (String × Value)) (name : String) (value : Value) :
    ∃ entries', put (named entries) (.text name) value = named entries' ∧
      (name ∉ entries.map (·.1) → entries' = entries ++ [(name, value)]) ∧
      (name ∈ entries.map (·.1) → entries'.map (·.1) = entries.map (·.1)) := by
  induction entries with
  | nil => exact ⟨[(name, value)], rfl, fun _ => rfl, fun h => absurd h List.not_mem_nil⟩
  | cons e rest ih =>
    obtain ⟨rest', hput, hnew, hold⟩ := ih
    rw [named_cons, put]
    by_cases h : e.1 = name
    · rw [if_pos (same_text.mpr (congrArg Value.text h))]
      exact ⟨(e.1, value) :: rest, rfl, fun habsent => absurd (h ▸ List.mem_cons_self) habsent,
        fun _ => rfl⟩
    · rw [if_neg (fun hsame => h (Value.text.inj (same_text.mp hsame))), hput]
      refine ⟨e :: rest', rfl, fun habsent => ?_, fun hmem => ?_⟩
      · rw [hnew (fun hrest => habsent (List.mem_cons_of_mem _ hrest)), List.cons_append]
      · have hrest := (List.mem_cons.mp hmem).resolve_left (Ne.symm h)
        rw [List.map_cons, hold hrest, List.map_cons]

/-- Of several values for a name the last is left, where the name came first. -/
theorem ofList_named (entries : List (String × Value)) :
    ∃ entries', ofList (named entries) = named entries' ∧ (entries'.map (·.1)).Nodup ∧
      entries'.map (·.1) = (entries.map (·.1)).eraseDups ∧
      (∀ name, entries'.lookup name = entries.reverse.lookup name) ∧
      ((entries.map (·.1)).Nodup → entries' = entries) := by
  induction entries using List.reverseRecOn with
  | nil => exact ⟨[], rfl, List.nodup_nil, rfl, fun _ => rfl, fun _ => rfl⟩
  | append_singleton front e ih =>
    obtain ⟨settled, hsettled, hdistinct, hnames, hvalues, hsame⟩ := ih
    obtain ⟨entries', hput, hnew, hold⟩ := put_named settled e.1 e.2
    have hlist : ofList (named (front ++ [e])) = named entries' := by
      rw [named_append, named_cons, ← hput, ← hsettled]
      exact ofList_append _ _
    have hlookup (name : String) : entries'.lookup name = (front ++ [e]).reverse.lookup name := by
      rw [← get?_named, ← hput, List.reverse_append, List.reverse_singleton, List.singleton_append, List.lookup_cons]
      by_cases hname : name = e.1
      · rw [hname, get?_put_self, beq_self_eq_true]
      · rw [get?_put_of_ne (Ne.symm hname), get?_named, hvalues, beq_false_of_ne hname]
    have hsettledNames : e.1 ∈ settled.map (·.1) ↔ e.1 ∈ front.map (·.1) := by rw [hnames, List.mem_eraseDups]
    by_cases hmem : e.1 ∈ front.map (·.1)
    · have hkept := hold (hsettledNames.mpr hmem)
      refine ⟨entries', hlist, hkept ▸ hdistinct, ?_, hlookup, fun hall => ?_⟩
      · rw [hkept, hnames, List.map_append, List.eraseDups_append]
        simp [List.removeAll, hmem]
      · rw [List.map_append, List.map_singleton, List.nodup_append] at hall
        exact absurd rfl (hall.2.2 _ hmem _ (List.mem_singleton_self _))
    · have hlast := hnew (mt hsettledNames.mp hmem)
      refine ⟨entries', hlist, ?_, ?_, hlookup, fun hall => ?_⟩
      · rw [hlast, List.map_append]
        exact hdistinct.append (List.nodup_singleton _) (by simpa using mt hsettledNames.mp hmem)
      · rw [hlast, List.map_append, hnames, List.map_append, List.eraseDups_append]
        simp [List.removeAll, hmem, List.eraseDups_cons]
      · rw [hlast, hsame (List.Nodup.of_append_left (List.map_append ▸ hall))]

/-- No two pairs of a mapping have the same key. -/
def Distinct (pairs : List (Value × Value)) : Prop := pairs.Pairwise fun a b => same a.1 b.1 = false

end Pairs

end Value

namespace Value

/-- Several values, two of which cannot be compared. -/
def Mixed (values : List Value) : Prop :=
  1 < values.length ∧ ∃ a ∈ values, ∃ b ∈ values, comparable a b = false

theorem sorted?_eq_none {values : List Value} : sorted? values = none ↔ Mixed values := by
  have hall : (values.all fun a => values.all (comparable a)) = false ↔
      ∃ a ∈ values, ∃ b ∈ values, comparable a b = false := by
    simp only [List.all_eq_false, Bool.not_eq_true]
  unfold sorted? Mixed
  rw [← hall]
  split_ifs with hfew hcomparable
  · simp [Nat.not_lt.mpr hfew]
  · simp [hcomparable]
  · simp [Nat.not_le.mp hfew, hcomparable]

end Value

namespace Descriptor

/-- The keys of a part that it does not allow. -/
def unknownKeys (part : Section) (fields : List (Value × Value)) : List Value :=
  (fields.map (·.1)).filter fun key => !part.allowed.any fun k => Value.same key (.text k)

theorem mem_unknownKeys {part : Section} {fields : List (Value × Value)} {key : Value} :
    key ∈ unknownKeys part fields ↔ key ∈ fields.map (·.1) ∧ ∀ name ∈ part.allowed, key ≠ .text name := by
  simp [unknownKeys, Value.same_text]

variable {part : Section} {fields : List (Value × Value)} {location : Location} {failure : Failure}

theorem checkKeys_ok : checkKeys part fields location = .ok () ↔ unknownKeys part fields = [] := by
  unfold checkKeys
  rw [← unknownKeys]
  dsimp only
  split_ifs with hnone
  · exact iff_of_true rfl hnone
  · refine iff_of_false (fun h => ?_) hnone
    cases hsorted : Value.sorted? (unknownKeys part fields) <;> simp [hsorted] at h

theorem checkKeys_error :
    checkKeys part fields location = .error failure ↔
      (∃ keys, unknownKeys part fields ≠ [] ∧ Value.sorted? (unknownKeys part fields) = some keys ∧
        failure = .config ⟨.unknownKeys part keys, location⟩) ∨
      Value.Mixed (unknownKeys part fields) ∧ failure = .wrongType := by
  rw [← Value.sorted?_eq_none]
  unfold checkKeys
  rw [← unknownKeys]
  dsimp only
  split_ifs with hnone
  · simp [hnone, Value.sorted?]
  · cases Value.sorted? (unknownKeys part fields) <;> simp [hnone, eq_comm]

theorem checkKeys_named (part : Section) (entries : List (String × Value)) (location : Location)
    (h : ∀ name ∈ entries.map (·.1), name ∈ part.allowed) :
    checkKeys part (Value.named entries) location = .ok () := by
  rw [checkKeys_ok, List.eq_nil_iff_forall_not_mem]
  intro key hkey
  obtain ⟨hmem, hunknown⟩ := mem_unknownKeys.mp hkey
  obtain ⟨_, hpair, rfl⟩ := List.mem_map.mp hmem
  obtain ⟨entry, hentry, rfl⟩ := List.mem_map.mp hpair
  exact hunknown entry.1 (h entry.1 (List.mem_map_of_mem hentry)) rfl

end Descriptor

end TemplateSwap
