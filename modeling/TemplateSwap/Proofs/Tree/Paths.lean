import TemplateSwap.Tree.Path
import Mathlib.Tactic.SplitIfs

namespace TemplateSwap.Path

/-- A name that an entry of a directory can have. -/
structure IsName (name : String) : Prop where
  nonempty : name ≠ ""
  notSelf : name ≠ "."
  notParent : name ≠ ".."
  noSlash : '/' ∉ name.toList

/-- A part of a path that says something. It may be that for the parent. -/
structure IsPart (part : String) : Prop where
  nonempty : part ≠ ""
  notSelf : part ≠ "."
  noSlash : '/' ∉ part.toList

variable {root name path part : String} {names : List String}

theorem IsName.isPart (h : IsName name) : IsPart name := ⟨h.nonempty, h.notSelf, h.noSlash⟩

instance : Decidable (IsName name) :=
  decidable_of_iff (name ≠ "" ∧ name ≠ "." ∧ name ≠ ".." ∧ '/' ∉ name.toList)
    ⟨fun h => ⟨h.1, h.2.1, h.2.2.1, h.2.2.2⟩, fun h => ⟨h.nonempty, h.notSelf, h.notParent, h.noSlash⟩⟩

theorem IsName.empty_lt (h : IsName name) : "" < name := by
  have hchars : name.toList ≠ [] := by simpa using h.nonempty
  rw [String.lt_iff]
  cases hname : name.toList with
  | nil => exact absurd hname hchars
  | cons c rest => exact List.nil_lt_cons c rest

theorem parts_slash (a b : String) : parts (a ++ "/" ++ b) = parts a ++ parts b := by
  have hchars : (a ++ "/" ++ b).toList = a.toList ++ '/' :: b.toList := by simp
  rw [parts, hchars, List.splitOn_append_cons_self, List.map_append, List.filter_append]
  rfl

theorem IsPart.parts (h : IsPart part) : parts part = [part] := by
  rw [Path.parts, List.splitOn_eq_singleton h.noSlash]
  simp [h.nonempty, h.notSelf]

theorem parts_name (h : IsName name) : parts name = [name] := h.isPart.parts

theorem not_mem_of_mem_splitOn {c : Char} {chars piece : List Char} (h : piece ∈ chars.splitOn c) : c ∉ piece := by
  induction chars generalizing piece with
  | nil =>
    rw [List.splitOn_nil] at h
    rw [List.mem_singleton.mp h]
    exact List.not_mem_nil
  | cons x chars ih =>
    rw [List.splitOn_cons_eq_if_modifyHead] at h
    split_ifs at h with hx
    · rcases List.mem_cons.mp h with rfl | h
      · exact List.not_mem_nil
      · exact ih h
    · cases hsplit : chars.splitOn c with
      | nil => exact absurd hsplit (List.splitOn_ne_nil c chars)
      | cons first rest =>
        rw [hsplit, List.modifyHead_cons] at h
        rw [hsplit] at ih
        rcases List.mem_cons.mp h with rfl | h
        · have hne : c ≠ x := fun heq => hx (beq_iff_eq.mpr heq.symm)
          exact List.not_mem_cons_of_ne_of_not_mem hne (ih List.mem_cons_self)
        · exact ih (List.mem_cons_of_mem _ h)

theorem isPart_of_mem_parts (h : part ∈ parts path) : IsPart part := by
  rw [parts, List.mem_filter, decide_eq_true_iff] at h
  obtain ⟨hmem, hnonempty, hself⟩ := h
  obtain ⟨piece, hpiece, rfl⟩ := List.mem_map.mp hmem
  exact ⟨hnonempty, hself, by simpa using not_mem_of_mem_splitOn hpiece⟩

theorem endsWith_slash (path : String) : path.endsWith "/" = true ↔ ∃ rest, path = rest ++ "/" := by
  rw [← String.endsWith_toSlice, String.Slice.endsWith_string_iff, String.copy_toSlice]
  constructor
  · intro h
    obtain ⟨chars, hchars⟩ := h
    exact ⟨String.ofList chars, String.toList_inj.mp (by simp [← hchars])⟩
  · intro h
    obtain ⟨rest, rfl⟩ := h
    exact ⟨rest.toList, by simp⟩

theorem parts_join (h : IsName name) : parts (join root name) = parts root ++ [name] := by
  unfold join
  split_ifs with hslash
  · obtain ⟨rest, rfl⟩ := (endsWith_slash root).mp hslash
    have hend : parts (rest ++ "/") = parts rest := by
      simpa [parts] using parts_slash rest ""
    rw [parts_slash, parts_name h, hend]
  · rw [parts_slash, parts_name h]

theorem text_cons (name next : String) (rest : List String) :
    text (name :: next :: rest) = name ++ "/" ++ text (next :: rest) :=
  String.toList_inj.mp (by simp [text, String.toList_intercalate, List.intercalate])

/-- What is no slash comes from a name. -/
theorem mem_text {c : Char} {names : List String} (hc : c ≠ '/') :
    c ∈ (text names).toList ↔ ∃ name ∈ names, c ∈ name.toList := by
  have hslash : c ∉ "/".toList := by simpa using hc
  induction names with
  | nil => simp [text]
  | cons name names ih =>
    cases names with
    | nil => simp [text]
    | cons next names =>
      rw [text_cons, String.toList_append, String.toList_append, List.mem_append, List.mem_append,
        or_iff_left hslash]
      exact (or_congr_right ih).trans (by simp only [List.mem_cons, exists_eq_or_imp])

theorem parts_text_of_isPart (h : ∀ part ∈ names, IsPart part) : parts (text names) = names := by
  induction names with
  | nil => rfl
  | cons name names ih =>
    rw [List.forall_mem_cons] at h
    cases names with
    | nil => exact h.1.parts
    | cons next rest =>
      rw [text_cons, parts_slash, h.1.parts, ih h.2]
      rfl

theorem parts_text (h : ∀ name ∈ names, IsName name) : parts (text names) = names :=
  parts_text_of_isPart fun name hname => (h name hname).isPart

theorem parts_joined (h : ∀ name ∈ names, IsName name) :
    parts (names.foldl join root) = parts root ++ names := by
  induction names generalizing root with
  | nil => exact (List.append_nil _).symm
  | cons name names ih =>
    rw [List.forall_mem_cons] at h
    rw [List.foldl_cons, ih h.2, parts_join h.1, List.append_assoc]
    rfl

/-- The names below a root come after those of the root. -/
theorem parts_below (h : ∀ name ∈ names, IsName name) : parts (below root names) = parts root ++ names := by
  unfold below
  split_ifs with hroot
  · obtain rfl := hroot
    exact parts_text h
  · exact parts_joined h

theorem below_injective {others : List String} (h : ∀ name ∈ names, IsName name)
    (hothers : ∀ name ∈ others, IsName name) (heq : below root names = below root others) :
    names = others := by
  have hparts := congrArg parts heq
  rw [parts_below h, parts_below hothers] at hparts
  exact List.append_cancel_left hparts

theorem isAbsolute_iff (path : String) : isAbsolute path = true ↔ path.toList.head? = some '/' := by
  rw [isAbsolute, String.startsWith_string_iff]
  cases hpath : path.toList with
  | nil => simp
  | cons c rest => simp [eq_comm]

theorem isAbsolute_append {a b : String} (ha : a ≠ "") : isAbsolute (a ++ b) = isAbsolute a := by
  have hnil : a.toList ≠ [] := by simpa using ha
  rw [Bool.eq_iff_iff, isAbsolute_iff, isAbsolute_iff, String.toList_append, List.head?_append,
    List.head?_eq_some_head hnil, Option.some_or]

theorem join_ne_empty (hroot : root ≠ "") : join root name ≠ "" := by
  unfold join
  split_ifs <;> simp [hroot]

theorem isAbsolute_join (hroot : root ≠ "") : isAbsolute (join root name) = isAbsolute root := by
  unfold join
  split_ifs
  · exact isAbsolute_append hroot
  · rw [String.append_assoc, isAbsolute_append hroot]

theorem IsPart.isAbsolute (h : IsPart part) : isAbsolute part = false := by
  rw [← Bool.not_eq_true, isAbsolute_iff]
  intro hhead
  exact h.noSlash (List.mem_of_head? hhead)

theorem isAbsolute_name (h : IsName name) : isAbsolute name = false := h.isPart.isAbsolute

theorem isAbsolute_text_of_isPart (h : ∀ part ∈ names, IsPart part) : isAbsolute (text names) = false := by
  cases names with
  | nil => simp [text, isAbsolute_iff, ← Bool.not_eq_true]
  | cons name rest =>
    have hname := h name List.mem_cons_self
    cases rest with
    | nil => exact hname.isAbsolute
    | cons next rest =>
      rw [text_cons, String.append_assoc, isAbsolute_append hname.nonempty]
      exact hname.isAbsolute

theorem isAbsolute_text (h : ∀ name ∈ names, IsName name) : isAbsolute (text names) = false :=
  isAbsolute_text_of_isPart fun name hname => (h name hname).isPart

theorem isAbsolute_joined (hroot : root ≠ "") : isAbsolute (names.foldl join root) = isAbsolute root := by
  induction names generalizing root with
  | nil => rfl
  | cons name names ih => rw [List.foldl_cons, ih (join_ne_empty hroot), isAbsolute_join hroot]

theorem isAbsolute_below (h : ∀ name ∈ names, IsName name) (hroot : root ≠ "")
    (hrelative : isAbsolute root = false) : isAbsolute (below root names) = false := by
  unfold below
  split_ifs with hself
  · exact isAbsolute_text h
  · rw [isAbsolute_joined hroot]
    exact hrelative

theorem normal_name (h : IsName name) : normal name = name := by
  simp [normal, isAbsolute_name h, parts_name h, h.nonempty]

theorem below_name (h : IsName root) : below root [name] = root ++ "/" ++ name := by
  have hslash : root.endsWith "/" = false := by
    rw [← Bool.not_eq_true, endsWith_slash]
    intro hend
    obtain ⟨rest, rfl⟩ := hend
    exact h.noSlash (by simp)
  simp [below, h.notSelf, join, hslash]

theorem below_normal (h : IsName root) : below (normal root) [name] = root ++ "/" ++ name := by
  rw [normal_name h, below_name h]

theorem normal_ne_empty (path : String) : normal path ≠ "" := by
  unfold normal
  dsimp only
  split_ifs with habsolute hbody
  · simp
  · simp
  · exact hbody

/-- The normal spelling is kept. -/
theorem normal_normal (path : String) : normal (normal path) = normal path := by
  have hpart : ∀ part ∈ parts path, IsPart part := fun part => isPart_of_mem_parts
  have hbody : parts (text (parts path)) = parts path := parts_text_of_isPart hpart
  have hnormal : normal path = if isAbsolute path then "/" ++ text (parts path)
    else if text (parts path) = "" then "." else text (parts path) := rfl
  rw [hnormal]
  split_ifs with habsolute hnone
  · have hparts : parts ("/" ++ text (parts path)) = parts path := by
      have hempty : parts "" = [] := by decide
      simpa [hbody, hempty] using parts_slash "" (text (parts path))
    have hstill : isAbsolute ("/" ++ text (parts path)) = true := by simp [isAbsolute_iff]
    simp only [normal, hparts, hstill, if_true]
    rfl
  · have hself : parts "." = [] := by decide
    have hrelative : isAbsolute "." = false := by simp [isAbsolute_iff, ← Bool.not_eq_true]
    simp [normal, hself, hrelative]
  · have hrelative := isAbsolute_text_of_isPart hpart
    have hkept : normal (text (parts path)) = if text (parts path) = "" then "." else text (parts path) := by
      simp only [normal, hbody, hrelative, Bool.false_eq_true, if_false]
      rfl
    rw [hkept, if_neg hnone]

/-- What comes before the names below a root. -/
def lead (root : String) : String := if root.endsWith "/" then root else root ++ "/"

theorem join_eq (root name : String) : join root name = lead root ++ name := by
  unfold join lead
  split_ifs <;> rfl

theorem lead_join (h : IsName name) : lead (join root name) = join root name ++ "/" := by
  have hslash : (join root name).endsWith "/" = false := by
    rw [← Bool.not_eq_true, endsWith_slash, join_eq]
    intro hend
    obtain ⟨rest, hrest⟩ := hend
    have hchars : name.toList ≠ [] := by simpa using h.nonempty
    have hlast : (lead root ++ name).toList.getLast? = (rest ++ "/").toList.getLast? := by rw [hrest]
    rw [String.toList_append, List.getLast?_append, List.getLast?_eq_some_getLast hchars, Option.some_or] at hlast
    have hend : (rest ++ "/").toList.getLast? = some '/' := by simp
    exact h.noSlash (Option.some.inj (hlast.trans hend) ▸ List.getLast_mem hchars)
  rw [lead, hslash]
  rfl

/-- The names come after the lead, which is the same for all of them. -/
theorem joined_eq (h : ∀ name ∈ names, IsName name) (hnames : names ≠ []) :
    names.foldl join root = lead root ++ text names := by
  induction names generalizing root with
  | nil => exact absurd rfl hnames
  | cons name names ih =>
    rw [List.forall_mem_cons] at h
    cases names with
    | nil => exact join_eq root name
    | cons next rest =>
      rw [List.foldl_cons, ih h.2 (List.cons_ne_nil _ _), lead_join h.1, join_eq, text_cons]
      simp [String.append_assoc]

/-- From a root, a path below it is seen as the names that lead there. -/
theorem relative_below (h : ∀ name ∈ names, IsName name) (hnames : names ≠ []) :
    relative root (below root names) = text names := by
  have hdrop : ∀ start : String, (if (start ++ text names).startsWith start then
      String.ofList ((start ++ text names).toList.drop start.length) else start ++ text names) = text names := by
    intro start
    have hstarts : (start ++ text names).startsWith start = true := by
      rw [String.startsWith_string_iff, String.toList_append]
      exact List.prefix_append _ _
    rw [if_pos hstarts, String.toList_append, ← String.length_toList, List.drop_left, String.ofList_toList]
  by_cases hself : root = "."
  · rw [relative, below, if_pos hself, if_pos hself]
    simpa [text] using hdrop ""
  · rw [relative, below, if_neg hself, if_neg hself, joined_eq h hnames]
    exact hdrop (lead root)

end TemplateSwap.Path
