import TemplateSwap.Proofs.Descriptor.Writing

namespace TemplateSwap

open TemplateSwap.Value (named)

theorem Token.not_isName_of_mem {c : Char} {cs : List Char} (h : c ∈ cs) (hc : isNameRest c = false) :
    isName cs = false := by
  have hstart (d : Char) (hd : isNameStart d = true) : isNameRest d = true := by
    simp only [isNameStart, isNameRest, Bool.or_eq_true] at hd ⊢
    exact hd.imp_left fun halpha => by simp [Char.isAlphanum, halpha]
  cases cs with
  | nil => cases h
  | cons first rest =>
    rw [isName, Bool.and_eq_false_iff]
    rcases List.mem_cons.mp h with rfl | h
    · exact .inl (Bool.eq_false_iff.mpr fun hfirst => Bool.eq_false_iff.mp hc (hstart c hfirst))
    · exact .inr (List.all_eq_false.mpr ⟨c, h, by simp [hc]⟩)

theorem Token.not_isNameStart_of_isDigit {c : Char} (h : c.isDigit = true) : isNameStart c = false := by
  have hupper : c.isUpper = decide (65 ≤ c.val ∧ c.val ≤ 90) := rfl
  have hlower : c.isLower = (decide (97 ≤ c.val) && decide (c.val ≤ 122)) := rfl
  have halpha : c.isAlpha = (c.isUpper || c.isLower) := rfl
  have hdigit : c.isDigit = (decide (48 ≤ c.val) && decide (c.val ≤ 57)) := rfl
  rw [hdigit] at h
  rw [isNameStart, halpha, hupper, hlower]
  simp [UInt32.le_iff_toNat_le, Char.ext_iff, ← UInt32.toNat_inj] at *
  omega

namespace Decimal

/-- All bits of the exponent are set: infinity, or no number. -/
def Unbounded (x : Float) : Prop := x.toBits.toNat / Nat.pow 2 52 % Nat.pow 2 11 = 2047

theorem point_mem_positional (digits : List Char) (point : Int) : '.' ∈ positional digits point := by
  unfold positional
  split_ifs <;> simp

theorem exists_mem_layOut (layout : Layout) (digits : List Char) (leading : Int) :
    ∃ c ∈ layOut layout digits leading, Token.isNameRest c = false := by
  unfold layOut
  split_ifs
  · exact ⟨'.', point_mem_positional digits _, by decide⟩
  · exact ⟨'-', by simp, by decide⟩
  · exact ⟨'+', by simp, by decide⟩

/-- A finite number is written with a point or a sign. -/
theorem exists_mem_shortestText {x : Float} (h : ¬Unbounded x) :
    ∃ c ∈ (shortestText x).toList, Token.isNameRest c = false := by
  unfold Unbounded at h
  simp only [shortestText, if_neg h, String.toList_ofList]
  have hsigned (on : Prop) [Decidable on] (magnitude : List Char)
      (hmem : ∃ c ∈ magnitude, Token.isNameRest c = false) :
      ∃ c ∈ (if on then '-' :: magnitude else magnitude), Token.isNameRest c = false := by
    obtain ⟨c, hc, hsign⟩ := hmem
    refine ⟨c, ?_, hsign⟩
    split_ifs
    · exact List.mem_cons_of_mem _ hc
    · exact hc
  refine hsigned _ _ ?_
  split_ifs
  · exact ⟨'.', by decide, by decide⟩
  · exact exists_mem_layOut _ _ _
  · exact exists_mem_layOut _ _ _

end Decimal

namespace Value

/-- Values that are written as a word without being a text. -/
inductive Word : Value → Prop
  | null : Word .null
  | bool (b : Bool) : Word (.bool b)
  | float {x : Float} (h : Decimal.Unbounded x) : Word (.float x)

theorem not_isName_int (n : Int) : Token.isName (toString n).toList = false := by
  cases n with
  | ofNat n =>
    have hdigits : (toString (Int.ofNat n)).toList = Nat.toDigits 10 n := Nat.toList_repr
    rw [hdigits]
    cases hcs : Nat.toDigits 10 n with
    | nil => rfl
    | cons c rest =>
      have hdigit : c.isDigit = true := Nat.isDigit_of_mem_toDigits (by decide) (by decide) (hcs ▸ List.mem_cons_self)
      rw [Token.isName, Token.not_isNameStart_of_isDigit hdigit, Bool.false_and]
  | negSucc n =>
    have hsign : (toString (Int.negSucc n)).toList = '-' :: (Nat.repr n.succ).toList := by
      rw [Int.toString_eq_repr, Int.repr, String.toList_append]
      rfl
    exact Token.not_isName_of_mem (hsign ▸ List.mem_cons_self) (by decide)

theorem isName_display {v : Value} (h : Token.isName v.display.toList = true) : (∃ s, v = .text s) ∨ v.Word := by
  have hno {text : String} (htext : v.display = text) (c : Char) (hmem : c ∈ text.toList)
      (hc : Token.isNameRest c = false) : False := by
    rw [htext, Token.not_isName_of_mem hmem hc] at h
    cases h
  cases v with
  | null => exact .inr .null
  | bool b => exact .inr (.bool b)
  | int n =>
    rw [show (int n).display = toString n from rfl, not_isName_int] at h
    cases h
  | float x =>
    by_cases hbounded : Decimal.Unbounded x
    · exact .inr (.float hbounded)
    · obtain ⟨c, hmem, hsign⟩ := Decimal.exists_mem_shortestText hbounded
      exact (hno rfl c hmem hsign).elim
  | text s => exact .inl ⟨s, rfl⟩
  | bytes data =>
    have hquoted : '"' ∈ (bytesShown data).toList ∨ '\'' ∈ (bytesShown data).toList := by
      unfold bytesShown
      split_ifs <;> simp
    exact (hquoted.elim (hno rfl '"' · (by decide)) (hno rfl '\'' · (by decide))).elim
  | date d => exact (hno (show _ = d.text from rfl) '-' (by simp [Date.text]) (by decide)).elim
  | moment m => exact (hno (show _ = m.text from rfl) '-' (by simp [Moment.text, Date.text]) (by decide)).elim
  | list items => exact (hno (show _ = listShown items from rfl) '[' (by simp [listShown]) (by decide)).elim
  | tuple items =>
    have hparenthesis : '(' ∈ (tupleShown (shownAll items)).toList := by
      unfold tupleShown
      split <;> simp
    exact (hno rfl '(' hparenthesis (by decide)).elim
  | set items =>
    cases items with
    | nil => exact (hno (show _ = "set()" from rfl) '(' (by decide) (by decide)).elim
    | cons item rest =>
      have htext : (set (item :: rest)).display =
        "\x7b" ++ ", ".intercalate (shownAll (item :: rest)) ++ "\x7d" := rfl
      exact (hno htext '\x7b' (by simp) (by decide)).elim
  | map pairs =>
    have htext : (map pairs).display = "\x7b" ++ ", ".intercalate (shownPairs pairs) ++ "\x7d" := rfl
    exact (hno htext '\x7b' (by simp) (by decide)).elim
  | filter f =>
    have hparenthesis : '(' ∈ f.text.toList := by
      unfold PathFilter.text
      split_ifs <;> simp
    exact (hno rfl '(' hparenthesis (by decide)).elim

end Value

namespace Descriptor

open Value (Pairs.Distinct Word)

variable {fields pairs : List (Value × Value)} {location : Location} {e : Entry}

/-- Keys are written apart if no two of them are written as the same text. -/
def WrittenApart (pairs : List (Value × Value)) : Prop := pairs.Pairwise fun a b => a.1.display ≠ b.1.display

theorem writtenApart_iff : WrittenApart pairs ↔ ((written pairs).map (·.1)).Nodup := by
  rw [written, List.map_map, List.Nodup, List.pairwise_map]
  rfl

theorem length_written (pairs : List (Value × Value)) : (written pairs).length = pairs.length := List.length_map _

/-- Keys that are texts are written apart. -/
theorem writtenApart_of_texts (hkeys : Pairs.Distinct pairs) (htexts : ∀ p ∈ pairs, ∃ s, p.1 = .text s) :
    WrittenApart pairs := by
  refine hkeys.imp_of_mem fun {a b} ha hb hne hsame => ?_
  obtain ⟨s, hs⟩ := htexts a ha
  obtain ⟨t, ht⟩ := htexts b hb
  rw [hs, ht] at hsame hne
  obtain rfl : s = t := hsame
  rw [Value.same_text.mpr rfl] at hne
  cases hne

/-- If all keys are written like names, a word is among any that are not written apart. -/
theorem writtenApart_or_word (hkeys : Pairs.Distinct pairs)
    (hnames : ∀ p ∈ pairs, Token.isName p.1.display.toList = true) : WrittenApart pairs ∨ ∃ p ∈ pairs, p.1.Word := by
  by_cases hword : ∃ p ∈ pairs, p.1.Word
  · exact .inr hword
  · push Not at hword
    refine .inl (writtenApart_of_texts hkeys fun p hp => ?_)
    exact (Value.isName_display (hnames p hp)).resolve_right (hword p hp)

/-- The groups of a descriptor that is read are those of its mapping with the keys written as texts: each text once,
where it comes first, with the last of its values. They are as many as in the mapping, in the same order with the same
values, just if no two keys are written as the same text. Keys that are texts never are; if the groups can be compiled,
keys that are lost come with the null value, a truth value or a number that is not finite. -/
theorem read_groups (h : read (.map fields) location = .ok e) (hgroups : getD fields "regex_groups" = .map pairs)
    (hkeys : Pairs.Distinct pairs) :
    ∃ groups : List (String × Value), e.get? "regex_groups" = some (.map (named groups)) ∧
      groups.map (·.1) = (pairs.map (·.1.display)).eraseDups ∧
      (∀ name, groups.lookup name = (written pairs).reverse.lookup name) ∧
      (groups.length = pairs.length ↔ WrittenApart pairs) ∧
      (groups = written pairs ↔ WrittenApart pairs) ∧
      ((∀ p ∈ pairs, ∃ s, p.1 = .text s) → groups = written pairs) ∧
      ∀ place f, Fragments.compile (named groups) place = .ok f → groups = written pairs ∨ ∃ p ∈ pairs, p.1.Word := by
  obtain ⟨_, _, paths, hraw, -, hread, -, rfl⟩ := read_ok h
  obtain rfl := Value.map.inj hraw
  obtain ⟨groups, hlist, hdistinct, hnames, hvalues, hsame⟩ := Value.Pairs.ofList_named (written pairs)
  rw [hgroups, readGroups_map, hlist] at hread
  obtain rfl := Except.ok.inj hread
  have hdisplays : (written pairs).map (·.1) = pairs.map (·.1.display) := List.map_map
  have hmem (name : String) : name ∈ groups.map (·.1) ↔ name ∈ pairs.map (·.1.display) := by
    rw [hnames, List.mem_eraseDups, hdisplays]
  have hall (hapart : WrittenApart pairs) : groups = written pairs := hsame (writtenApart_iff.mp hapart)
  have hlength : groups.length = pairs.length ↔ WrittenApart pairs := by
    refine ⟨fun hlength => ?_, fun hapart => by rw [hall hapart, length_written]⟩
    have hsub : groups.map (·.1) ⊆ (written pairs).map (·.1) := fun name hname => hdisplays ▸ (hmem name).mp hname
    have hperm := (hdistinct.subperm hsub).perm_of_length_le (by simp [hlength, length_written])
    exact writtenApart_iff.mpr (hperm.nodup hdistinct)
  refine ⟨groups, get?_settled_groups _ _ _, hdisplays ▸ hnames, hvalues, hlength, ⟨fun hsame => ?_, hall⟩,
    fun htexts => hall (writtenApart_of_texts hkeys htexts), fun place f hf => ?_⟩
  · exact hlength.mp (by rw [hsame, length_written])
  · refine (writtenApart_or_word hkeys fun p hp => ?_).imp_left hall
    refine Fragments.isName_of_compile hf ?_
    rw [Fragments.names_of_compile hf]
    exact (hmem p.1.display).mpr (List.mem_map_of_mem hp)

/-- Groups under the null value and under the text that this is written as. -/
def clashing : List (Value × Value) := [(.null, .text "x"), (.text "None", .text "y")]

/-- A descriptor with such groups. -/
def clash : List (Value × Value) :=
  named [("before", .text "${None}"), ("after", .text "<${None}>"), ("regex_groups", .map clashing)]

theorem clashing_distinct : Pairs.Distinct clashing := by
  simp [clashing, Pairs.Distinct, Value.same_text_eq_false]

theorem getD_clash : getD clash "regex_groups" = .map clashing := by
  rw [getD, get?, clash, Value.Pairs.get?_named]
  rfl

theorem ofList_clashing : Value.Pairs.ofList (named (written clashing)) = named [("None", .text "y")] := by
  have hwritten : written clashing = [("None", .text "x"), ("None", .text "y")] := rfl
  rw [hwritten]
  simp [named, Value.Pairs.ofList, Value.Pairs.put, Value.same_text]

theorem read_clash (location : Location) :
    read (.map clash) location = .ok (settled clash (named [("None", .text "y")]) {}) :=
  read_named (by decide) (by simp [requiredKeys, List.lookup_cons]) (by simp [truthKeys, List.lookup_cons])
    ((readGroups_map clashing location).trans (congrArg Except.ok ofList_clashing)) rfl

theorem read_groups_clash :
    ∃ e, read (.map clash) ⟨"a", some 2⟩ = .ok e ∧ getD clash "regex_groups" = .map clashing ∧
      Pairs.Distinct clashing ∧ e.get? "regex_groups" = some (.map (named [("None", .text "y")])) ∧
      ¬WrittenApart clashing ∧ (∃ f, Fragments.compile (named [("None", .text "y")]) none = .ok f) ∧
      ∃ p ∈ clashing, p.1.Word := by
  obtain ⟨groups, hgroups, -, -, hlength, hsame, -, hwords⟩ :=
    read_groups (read_clash ⟨"a", some 2⟩) getD_clash clashing_distinct
  rw [get?_settled_groups] at hgroups
  obtain rfl := Value.named_injective (Value.map.inj (Option.some.inj hgroups))
  have hfew : ¬WrittenApart clashing := fun hapart => absurd (hlength.mpr hapart) (by decide)
  obtain ⟨f, hf, -⟩ : ∃ f, Fragments.compile (named [("None", .text "y")]) none = .ok f ∧ true = true :=
    Results.exists_ok (by decide +kernel)
  have hword := (hwords none f hf).resolve_left fun hall => hfew (hsame.mp hall)
  exact ⟨_, read_clash ⟨"a", some 2⟩, getD_clash, clashing_distinct, get?_settled_groups _ _ _, hfew, ⟨f, hf⟩, hword⟩

/-- One of two groups is lost, and what the other one stands for takes its place. -/
theorem groups_lost :
    ∃ e, read (.map clash) ⟨"a", some 2⟩ = .ok e ∧ getD clash "regex_groups" = .map clashing ∧
      Pairs.Distinct clashing ∧ clashing.length = 2 ∧
      e.get? "regex_groups" = some (.map (named [("None", .text "y")])) ∧
      ∃ t, Kinds.build {} e none = .ok (.ok t) ∧ t.spec.fragments.sources = [("None", "y")] := by
  have hbuilds : (Kinds.build {} (settled clash (named [("None", .text "y")]) {}) none).toOption.any
      (·.toOption.any fun t => decide (t.spec.fragments.sources = [("None", "y")])) = true := by decide +kernel
  obtain ⟨built, hbuild, hbuilt⟩ := Results.exists_ok hbuilds
  obtain ⟨t, rfl, hsources⟩ := Results.exists_ok hbuilt
  exact ⟨_, read_clash ⟨"a", some 2⟩, getD_clash, clashing_distinct, rfl, get?_settled_groups _ _ _, t, hbuild,
    of_decide_eq_true hsources⟩

end Descriptor

end TemplateSwap
