import TemplateSwap.Proofs.Template.Grammar

namespace TemplateSwap.Template

/-- Text that consists of complete items, with the names in it, which come twice only if they may. -/
structure Items (repeatsAllowed : Bool) (text : List Char) (names : List (List Char)) : Prop where
  formed : Formed text names
  distinct : repeatsAllowed = false → names.Nodup

def Complete (repeatsAllowed : Bool) (text : List Char) : Prop := ∃ names, Items repeatsAllowed text names

/-- A text divided behind the longest part in front that consists of complete items. -/
structure Reaches (repeatsAllowed : Bool) (text done rest : List Char) : Prop where
  whole : text = done ++ rest
  complete : Complete repeatsAllowed done
  longest : ∀ more, more <+: text → Complete repeatsAllowed more → more.length ≤ done.length

/-- What is wrong at a place: no item begins there, or one with a name that was there before. -/
inductive Halt
  | flawed (flaw : Flaw)
  | repeated (name : List Char)
  deriving DecidableEq

namespace Halt

def defect (template : String) : Halt → Defect
  | flawed flaw => flaw.defect template
  | repeated name => .repeatedName (String.ofList name) template

/-- How the message begins, before it comes to the template. -/
def heading : Halt → String
  | flawed .loneDollar => "Expect $ or \x7b after every $ in string: "
  | flawed .unterminated => "Unterminated '$\x7b'. Expected '\x7d': "
  | flawed (.badName name) => "Invalid interpolation name " ++ Text.quoted (String.ofList name) ++ " in "
  | repeated name => "Regex group is used in template multiple times: " ++ String.ofList name

theorem exists_message (halt : Halt) (template : String) :
    ∃ more, (halt.defect template).message = halt.heading ++ more := by
  rcases halt with (_ | _ | name) | name
  · exact ⟨Text.quoted template, rfl⟩
  · exact ⟨Text.quoted template, rfl⟩
  · exact ⟨Text.quoted template, rfl⟩
  · refine ⟨Defect.ofTemplate template ++ ". Set repeated_groups to allow it", ?_⟩
    rw [← String.append_assoc]
    rfl

end Halt

/-- What a text begins with, if no item can be read from it that has a new name. -/
inductive HaltsAt : List Char → Halt → Prop
  | alone : HaltsAt ['$'] (.flawed .loneDollar)
  | other (c : Char) (rest : List Char) (hdollar : c ≠ '$') (hbrace : c ≠ '\x7b') :
    HaltsAt ('$' :: c :: rest) (.flawed .loneDollar)
  | unterminated (rest : List Char) (hopen : '\x7d' ∉ rest) :
    HaltsAt ('$' :: '\x7b' :: rest) (.flawed .unterminated)
  | badName (name rest : List Char) (hfirst : '\x7d' ∉ name) (hname : Token.isName name = false) :
    HaltsAt ('$' :: '\x7b' :: name ++ '\x7d' :: rest) (.flawed (.badName name))
  | repeated (name rest : List Char) (hname : Token.isName name = true) :
    HaltsAt ('$' :: '\x7b' :: name ++ '\x7d' :: rest) (.repeated name)

/-- Complete items with some names, and behind them a text that stops the reader. -/
structure Stops (repeatsAllowed : Bool) (done rest : List Char) (names : List (List Char)) (halt : Halt) : Prop
    extends Items repeatsAllowed done names where
  halts : HaltsAt rest halt
  again : ∀ name, halt = .repeated name → repeatsAllowed = false ∧ name ∈ names

theorem split_append {pieces : List Piece} (h : ∀ p ∈ pieces, p.Valid) (rest : List Char) :
    split .text (pieces.flatMap Piece.write ++ rest) =
      (pieces ++ (split .text rest).1, (split .text rest).2) := by
  induction pieces with
  | nil => rfl
  | cons p pieces ih =>
    rw [List.forall_mem_cons] at h
    rw [List.flatMap_cons, List.append_assoc, split_write h.1, ih h.2]
    rfl

theorem split_halts {rest : List Char} {flaw : Flaw} (h : HaltsAt rest (.flawed flaw)) :
    split .text rest = ([], some flaw) := by
  cases h with
  | alone => rfl
  | other c rest hdollar hbrace => simp [split, hdollar, hbrace]
  | unterminated rest hopen => exact split_unterminated hopen []
  | badName name rest hfirst hname =>
    rw [split_opened hfirst, split, if_pos rfl, List.reverse_reverse, hname]
    rfl

theorem split_repeated {rest name : List Char} (h : HaltsAt rest (.repeated name)) :
    ∃ pieces flaw, split .text rest = (.hole name :: pieces, flaw) := by
  cases h with
  | repeated name rest hname =>
    have hwritten : '$' :: '\x7b' :: name ++ '\x7d' :: rest = (Piece.hole name).write ++ rest := by
      simp [Piece.write]
    rw [hwritten, split_write (Piece.valid_hole.mpr hname)]
    exact ⟨_, _, rfl⟩

/-- What is wrong at a place is one thing. -/
theorem HaltsAt.unique {rest : List Char} {halt other : Halt} (h : HaltsAt rest halt) (h' : HaltsAt rest other) :
    other = halt := by
  cases halt with
  | flawed flaw =>
    have hsplit := split_halts h
    cases other with
    | flawed flaw' =>
      rw [split_halts h'] at hsplit
      rw [Option.some.inj (Prod.mk.inj hsplit).2]
    | repeated name =>
      obtain ⟨pieces, flaw', hsplit'⟩ := split_repeated h'
      rw [hsplit'] at hsplit
      cases (Prod.mk.inj hsplit).1
  | repeated name =>
    obtain ⟨pieces, flaw, hsplit⟩ := split_repeated h
    cases other with
    | flawed flaw' =>
      rw [split_halts h'] at hsplit
      cases (Prod.mk.inj hsplit).1
    | repeated name' =>
      obtain ⟨pieces', flaw', hsplit'⟩ := split_repeated h'
      rw [hsplit'] at hsplit
      rw [Piece.hole.inj (List.cons.inj (Prod.mk.inj hsplit).1).1]

theorem repeated?_append {seen : List (List Char)} {pieces : List Piece} {name : List Char}
    (hdistinct : (pieces.filterMap Piece.name?).Nodup) (hnew : ∀ n ∈ pieces.filterMap Piece.name?, n ∉ seen)
    (hname : name ∈ seen ∨ name ∈ pieces.filterMap Piece.name?) (more : List Piece) :
    repeated? seen (pieces ++ .hole name :: more) = some name := by
  induction pieces generalizing seen with
  | nil =>
    have hseen : name ∈ seen := by simpa using hname
    simp [repeated?, hseen]
  | cons p pieces ih =>
    cases p with
    | char c => exact ih hdistinct hnew hname
    | hole first =>
      have hnames : (Piece.hole first :: pieces).filterMap Piece.name? =
          first :: pieces.filterMap Piece.name? := rfl
      rw [hnames, List.nodup_cons] at hdistinct
      rw [hnames, List.forall_mem_cons] at hnew
      rw [hnames, List.mem_cons] at hname
      have hlater : ∀ n ∈ pieces.filterMap Piece.name?, n ∉ first :: seen := by
        intro n hn hmem
        rcases List.mem_cons.mp hmem with rfl | hmem
        · exact hdistinct.1 hn
        · exact hnew.2 n hn hmem
      have hthere : name ∈ first :: seen ∨ name ∈ pieces.filterMap Piece.name? := by
        rw [List.mem_cons]
        tauto
      have hfirst : seen.contains first = false := by simpa using hnew.1
      rw [List.cons_append, repeated?, hfirst]
      exact ih hdistinct.2 hlater hthere

variable {repeatsAllowed : Bool} {done rest : List Char} {names : List (List Char)} {halt : Halt}

theorem Stops.read (h : Stops repeatsAllowed done rest names halt) {source : String}
    (hsource : source.toList = done ++ rest) (location : Option Location) :
    Template.read source repeatsAllowed location = .error ⟨halt.defect source, location⟩ := by
  obtain ⟨⟨hformed, hdistinct⟩, hhalts, hagain⟩ := h
  obtain ⟨pieces, rfl, hvalid, rfl⟩ := formed_iff.mp hformed
  have hsplit := split_append hvalid rest
  rw [← hsource] at hsplit
  unfold Template.read
  rw [hsplit]
  cases halt with
  | flawed flaw =>
    rw [split_halts hhalts, List.append_nil]
    cases repeatsAllowed with
    | true => rfl
    | false =>
      have hnone : repeated? [] pieces = none := repeated?_eq_none.mpr ⟨hdistinct rfl, by simp⟩
      simp only [Bool.false_eq_true, if_false, hnone]
      rfl
  | repeated name =>
    obtain ⟨rfl, hname⟩ := hagain name rfl
    obtain ⟨more, flaw, hmore⟩ := split_repeated hhalts
    have hsome : repeated? [] (pieces ++ .hole name :: more) = some name :=
      repeated?_append (hdistinct rfl) (by simp) (.inr hname) more
    simp only [hmore, Bool.false_eq_true, if_false, hsome]
    rfl

/-- No item can be read from a text that stops the reader, but for one with a name that was there before. -/
theorem HaltsAt.no_piece (h : HaltsAt rest halt) {p : Piece} (hp : p.Valid) (hfirst : p.write <+: rest) :
    ∃ name, p = .hole name ∧ halt = .repeated name := by
  obtain ⟨more, rfl⟩ := hfirst
  have hsplit := split_write hp more
  cases halt with
  | flawed flaw =>
    rw [split_halts h] at hsplit
    cases (Prod.mk.inj hsplit).1
  | repeated name =>
    obtain ⟨pieces, flaw, hname⟩ := split_repeated h
    rw [hname] at hsplit
    exact ⟨name, (List.cons.inj (Prod.mk.inj hsplit).1).1.symm, rfl⟩

theorem Stops.longest (h : Stops repeatsAllowed done rest names halt) {more : List Char}
    (hmore : more <+: done ++ rest) (hcomplete : Complete repeatsAllowed more) : more.length ≤ done.length := by
  by_contra hlonger
  obtain ⟨⟨hformed, hdistinct⟩, hhalts, hagain⟩ := h
  obtain ⟨pieces, rfl, hvalid, rfl⟩ := formed_iff.mp hformed
  obtain ⟨extension, rfl⟩ : pieces.flatMap Piece.write <+: more :=
    List.prefix_of_prefix_length_le (List.prefix_append _ _) hmore (by omega)
  obtain ⟨names', hformed', hdistinct'⟩ := hcomplete
  obtain ⟨pieces', hwritten, hvalid', rfl⟩ := formed_iff.mp hformed'
  -- The items in front are the same, so the others make up the rest of the longer part.
  have hsplit := split_eq_iff.mpr ⟨hwritten, hvalid'⟩
  rcases hrest : split .text extension with ⟨added, flaw⟩
  rw [split_append hvalid, hrest] at hsplit
  obtain ⟨rfl, rfl⟩ := Prod.mk.inj hsplit
  obtain ⟨rfl, hlater⟩ := split_eq_iff.mp hrest
  cases added with
  | nil => exact hlonger (by simp)
  | cons p added =>
    rw [List.flatMap_cons, List.prefix_append_right_inj] at hmore
    obtain ⟨name, rfl, rfl⟩ := hhalts.no_piece (hlater p List.mem_cons_self) ((List.prefix_append _ _).trans hmore)
    obtain ⟨hno, hmem⟩ := hagain name rfl
    have hnodup := hdistinct' hno
    rw [List.filterMap_append, List.nodup_append] at hnodup
    exact hnodup.2.2 name hmem name (by simp [Piece.name?]) rfl

theorem Stops.reaches (h : Stops repeatsAllowed done rest names halt) :
    Reaches repeatsAllowed (done ++ rest) done rest where
  whole := rfl
  complete := ⟨names, h.toItems⟩
  longest _ := h.longest

theorem Complete.reaches (h : Complete repeatsAllowed done) : Reaches repeatsAllowed done done [] where
  whole := (List.append_nil _).symm
  complete := h
  longest _ hmore _ := hmore.length_le

/-- Splitting stops at the end of a text or at a flaw. Of the piece that it stands in nothing is left out. -/
theorem exists_split {mode : Mode} (hopen : mode.Open) (text : List Char) :
    ∃ rest, mode.taken ++ text = (split mode text).1.flatMap Piece.write ++ rest ∧
      (∀ p ∈ (split mode text).1, p.Valid) ∧ ((split mode text).2 = none → rest = []) ∧
      ∀ flaw, (split mode text).2 = some flaw → HaltsAt rest (.flawed flaw) := by
  fun_induction split mode text with
  | case1 => exact ⟨[], rfl, by simp, fun _ => rfl, by simp⟩
  | case2 rest ih => exact ih Mode.open_dollar
  | case3 c rest hc pieces flaw hsplit ih =>
    rw [hsplit] at ih
    obtain ⟨left, htext, hvalid, hend⟩ := ih Mode.open_text
    refine ⟨left, ?_, List.forall_mem_cons.mpr ⟨Piece.valid_char c, hvalid⟩, hend⟩
    rw [List.flatMap_cons, Piece.write, if_neg hc, List.append_assoc, ← htext]
    rfl
  | case4 => exact ⟨['$'], rfl, by simp, by simp, by rintro _ ⟨⟩; exact .alone⟩
  | case5 rest pieces flaw hsplit ih =>
    rw [hsplit] at ih
    obtain ⟨left, htext, hvalid, hend⟩ := ih Mode.open_text
    refine ⟨left, ?_, List.forall_mem_cons.mpr ⟨Piece.valid_char '$', hvalid⟩, hend⟩
    rw [List.flatMap_cons, List.append_assoc, ← htext]
    rfl
  | case6 rest hc ih => exact ih (Mode.open_name.mpr (by simp))
  | case7 c rest hdollar hbrace =>
    exact ⟨'$' :: c :: rest, rfl, by simp, by simp, by rintro _ ⟨⟩; exact .other c rest hdollar hbrace⟩
  | case8 sofar =>
    have hname : '\x7d' ∉ sofar.reverse := by simpa using Mode.open_name.mp hopen
    exact ⟨_, rfl, by simp, by simp, by rintro _ ⟨⟩; simpa [Mode.taken] using HaltsAt.unterminated _ hname⟩
  | case9 sofar rest hname pieces flaw hsplit ih =>
    rw [hsplit] at ih
    obtain ⟨left, htext, hvalid, hend⟩ := ih Mode.open_text
    refine ⟨left, ?_, List.forall_mem_cons.mpr ⟨Piece.valid_hole.mpr hname, hvalid⟩, hend⟩
    rw [List.flatMap_cons, List.append_assoc, ← htext]
    simp [Piece.write, Mode.taken]
  | case10 sofar rest hname =>
    have hfirst : '\x7d' ∉ sofar.reverse := by simpa using Mode.open_name.mp hopen
    refine ⟨_, rfl, by simp, by simp, ?_⟩
    rintro _ ⟨⟩
    exact .badName _ rest hfirst (Bool.eq_false_iff.mpr hname)
  | case11 sofar c rest hc ih =>
    have hmore : (Mode.name (c :: sofar)).Open := by
      rw [Mode.open_name, List.mem_cons, not_or]
      exact ⟨Ne.symm hc, Mode.open_name.mp hopen⟩
    simpa [Mode.taken] using ih hmore

/-- A name that comes again does so behind pieces with names that are apart. -/
theorem exists_repeated {seen : List (List Char)} {pieces : List Piece} {name : List Char}
    (h : repeated? seen pieces = some name) :
    ∃ before after, pieces = before ++ .hole name :: after ∧ (before.filterMap Piece.name?).Nodup ∧
      (∀ n ∈ before.filterMap Piece.name?, n ∉ seen) ∧ (name ∈ seen ∨ name ∈ before.filterMap Piece.name?) := by
  induction pieces generalizing seen with
  | nil => cases h
  | cons p pieces ih =>
    cases p with
    | char c =>
      obtain ⟨before, after, rfl, hbefore⟩ := ih h
      exact ⟨.char c :: before, after, rfl, hbefore⟩
    | hole first =>
      rw [repeated?] at h
      by_cases hseen : first ∈ seen
      · rw [if_pos (by simpa using hseen)] at h
        obtain rfl := Option.some.inj h
        exact ⟨[], pieces, rfl, by simp, by simp, .inl hseen⟩
      · rw [if_neg (by simpa using hseen)] at h
        obtain ⟨before, after, rfl, hdistinct, hnew, hname⟩ := ih h
        have hnames : (Piece.hole first :: before).filterMap Piece.name? =
            first :: before.filterMap Piece.name? := rfl
        refine ⟨.hole first :: before, after, rfl, ?_, ?_, ?_⟩
        · rw [hnames, List.nodup_cons]
          exact ⟨fun hmem => hnew first hmem List.mem_cons_self, hdistinct⟩
        · rw [hnames, List.forall_mem_cons]
          exact ⟨hseen, fun n hn hmem => hnew n hn (List.mem_cons_of_mem _ hmem)⟩
        · rw [hnames, List.mem_cons]
          rw [List.mem_cons] at hname
          tauto

/-- Every text is complete or stops the reader behind complete items. -/
theorem exists_stops (repeatsAllowed : Bool) (text : List Char) :
    Complete repeatsAllowed text ∨
      ∃ done rest names halt, text = done ++ rest ∧ Stops repeatsAllowed done rest names halt := by
  obtain ⟨rest, htext, hvalid, hend, hflaw⟩ := exists_split Mode.open_text text
  rcases hsplit : split .text text with ⟨pieces, flaw⟩
  rw [hsplit] at htext hvalid hend hflaw
  simp only [Mode.taken, List.nil_append] at htext
  by_cases hrepeated : repeatsAllowed = false ∧ ∃ name, repeated? [] pieces = some name
  · obtain ⟨rfl, name, hname⟩ := hrepeated
    obtain ⟨before, after, rfl, hdistinct, -, hagain⟩ := exists_repeated hname
    rw [List.flatMap_append, List.append_assoc] at htext
    have hhole := Piece.valid_hole.mp (hvalid (.hole name) (by simp))
    have hbefore : ∀ p ∈ before, p.Valid := fun p hp => hvalid p (List.mem_append_left _ hp)
    refine .inr ⟨_, _, _, .repeated name, htext, ⟨formed_iff.mpr ⟨before, rfl, hbefore, rfl⟩, fun _ => hdistinct⟩,
      ?_, ?_⟩
    · simpa [Piece.write] using HaltsAt.repeated name (after.flatMap Piece.write ++ rest) hhole
    · rintro _ ⟨⟩
      exact ⟨rfl, by simpa using hagain⟩
  · have hformed := formed_iff.mpr ⟨pieces, rfl, hvalid, rfl⟩
    have hdistinct : repeatsAllowed = false → (pieces.filterMap Piece.name?).Nodup := by
      intro hno
      have hnone : repeated? [] pieces = none := by
        by_contra hsome
        exact hrepeated ⟨hno, Option.ne_none_iff_exists'.mp hsome⟩
      exact (repeated?_eq_none.mp hnone).1
    cases flaw with
    | none =>
      rw [hend rfl, List.append_nil] at htext
      exact .inl (htext ▸ ⟨_, hformed, hdistinct⟩)
    | some flaw => exact .inr ⟨_, rest, _, .flawed flaw, htext, ⟨hformed, hdistinct⟩, hflaw flaw rfl, by simp⟩

theorem exists_read {source : String} {location : Option Location} :
    (∃ t, read source repeatsAllowed location = .ok t) ↔ Complete repeatsAllowed source.toList := by
  rw [exists_read_iff]
  exact exists_congr fun names => ⟨fun h => ⟨h.1, h.2⟩, fun h => ⟨h.formed, h.distinct⟩⟩

theorem eq_of_first {α : Type} {x : α} {a b c d : List α} (ha : x ∉ a) (hc : x ∉ c)
    (h : a ++ x :: b = c ++ x :: d) : a = c ∧ b = d := by
  rcases List.append_eq_append_iff.mp h with ⟨more, rfl, hmore⟩ | ⟨more, rfl, hmore⟩
  · cases more with
    | nil => exact ⟨(List.append_nil a).symm, (List.cons.inj hmore).2⟩
    | cons y more =>
      obtain ⟨rfl, -⟩ := List.cons.inj hmore
      simp at hc
  · cases more with
    | nil => exact ⟨List.append_nil c, (List.cons.inj hmore).2.symm⟩
    | cons y more =>
      obtain ⟨rfl, -⟩ := List.cons.inj hmore
      simp at ha

theorem HaltsAt.later {before after : List Char} (h : HaltsAt (before ++ '\x7d' :: after) halt)
    (hbefore : '\x7d' ∉ before) (after' : List Char) : HaltsAt (before ++ '\x7d' :: after') halt := by
  generalize htext : before ++ '\x7d' :: after = text at h
  rcases before with _ | ⟨c, _ | ⟨d, before⟩⟩
  · cases h <;> simp at htext
  · cases h with
    | other =>
      obtain ⟨rfl, rfl, -⟩ : c = '$' ∧ _ := by simpa using htext
      exact .other '\x7d' after' (by decide) (by decide)
    | _ => simp at htext
  · cases h with
    | alone => simp at htext
    | other d' rest hdollar hbrace =>
      obtain ⟨rfl, rfl, rfl⟩ : c = '$' ∧ d = d' ∧ _ = rest := by simpa using htext
      exact .other d _ hdollar hbrace
    | unterminated rest hopen =>
      obtain ⟨rfl, rfl, rfl⟩ : c = '$' ∧ d = '\x7b' ∧ before ++ '\x7d' :: after = rest := by simpa using htext
      simp at hopen
    | badName name rest hfirst hname =>
      obtain ⟨rfl, rfl, hrest⟩ : c = '$' ∧ d = '\x7b' ∧ before ++ '\x7d' :: after = name ++ '\x7d' :: rest := by
        simpa using htext
      rw [List.mem_cons, List.mem_cons, not_or, not_or] at hbefore
      obtain ⟨rfl, -⟩ := eq_of_first hbefore.2.2 hfirst hrest
      exact .badName before after' hfirst hname
    | repeated name rest hname =>
      obtain ⟨rfl, rfl, hrest⟩ : c = '$' ∧ d = '\x7b' ∧ before ++ '\x7d' :: after = name ++ '\x7d' :: rest := by
        simpa using htext
      rw [List.mem_cons, List.mem_cons, not_or, not_or] at hbefore
      obtain ⟨rfl, -⟩ := eq_of_first hbefore.2.2 (brace_not_mem hname) hrest
      exact .repeated before after' hname

theorem HaltsAt.head? (h : HaltsAt rest halt) : rest.head? = some '$' := by
  cases h <;> rfl

theorem Stops.later {before after : List Char} (h : Stops repeatsAllowed done (before ++ '\x7d' :: after) names halt)
    (hbefore : '\x7d' ∉ before) (after' : List Char) :
    Stops repeatsAllowed done (before ++ '\x7d' :: after') names halt :=
  { h with halts := h.halts.later hbefore after' }

/-- A template is read exactly if it consists of complete items. Otherwise the error is what is wrong behind the
longest part in front that does: exactly one thing is, and the text behind the first closing brace there has no
influence on it. -/
theorem read_leftmost (source : String) (repeatsAllowed : Bool) (location : Option Location) :
    ∃ done rest, Reaches repeatsAllowed source.toList done rest ∧
      ((∃ t, read source repeatsAllowed location = .ok t) ↔ rest = []) ∧
      (rest ≠ [] → rest.head? = some '$' ∧
        ∃ halt, HaltsAt rest halt ∧ (∀ other, HaltsAt rest other → other = halt) ∧
          (∀ name, halt = .repeated name → repeatsAllowed = false ∧ ∃ names, Formed done names ∧ name ∈ names) ∧
          read source repeatsAllowed location = .error ⟨halt.defect source, location⟩ ∧
          (∃ more, (halt.defect source).message = halt.heading ++ more) ∧
          ∀ before after after' : List Char, ∀ source' : String, rest = before ++ '\x7d' :: after → '\x7d' ∉ before →
            source'.toList = done ++ before ++ '\x7d' :: after' →
              Reaches repeatsAllowed source'.toList done (before ++ '\x7d' :: after') ∧
                read source' repeatsAllowed location = .error ⟨halt.defect source', location⟩) := by
  rcases exists_stops repeatsAllowed source.toList with hcomplete | ⟨done, rest, names, halt, hsource, hstops⟩
  · exact ⟨_, [], hcomplete.reaches, iff_of_true (exists_read.mpr hcomplete) rfl, fun h => absurd rfl h⟩
  · have hhead := hstops.halts.head?
    have herror := hstops.read hsource location
    have hne : rest ≠ [] := by
      rintro rfl
      cases hhead
    refine ⟨done, rest, hsource ▸ hstops.reaches, iff_of_false ?_ hne, fun _ => ⟨hhead, halt, hstops.halts,
      fun other => hstops.halts.unique, ?_, herror, halt.exists_message source, ?_⟩⟩
    · rintro ⟨t, ht⟩
      rw [herror] at ht
      cases ht
    · intro name hname
      obtain ⟨hno, hmem⟩ := hstops.again name hname
      exact ⟨hno, names, hstops.formed, hmem⟩
    · rintro before after after' source' rfl hbefore hsource'
      rw [List.append_assoc] at hsource'
      have hlater := hstops.later hbefore after'
      exact ⟨hsource' ▸ hlater.reaches, hlater.read hsource' location⟩

end TemplateSwap.Template
