import TemplateSwap.Proofs.Template.Placeholders
import Mathlib.Data.List.Chain

namespace TemplateSwap

namespace Template

/-- Text that follows the grammar, with the names in it from left to right. -/
inductive Formed : List Char → List (List Char) → Prop
  | nil : Formed [] []
  | char {text : List Char} {names : List (List Char)} (c : Char) (hc : c ≠ '$')
    (h : Formed text names) : Formed (c :: text) names
  | dollars {text : List Char} {names : List (List Char)} (h : Formed text names) :
    Formed ('$' :: '$' :: text) names
  | hole {text : List Char} {names : List (List Char)} (name : List Char)
    (hname : Token.isName name = true) (h : Formed text names) :
    Formed ('$' :: '\x7b' :: name ++ '\x7d' :: text) (name :: names)

/-- Tokens as they are read: literal text is not empty and not next to other literal text, names are
identifiers, placeholders are numbered in their order, and names repeat only where they may. -/
structure Canonical (repeatsAllowed : Bool) (tokens : List Token) : Prop where
  nonempty : ∀ s, .literal s ∈ tokens → s ≠ ""
  apart : tokens.IsChain fun a b => a.name? ≠ none ∨ b.name? ≠ none
  names : ∀ name index, .placeholder name index ∈ tokens → Token.isName name.toList = true
  numbered : (holes tokens).map (·.2) = List.range (holes tokens).length
  distinct : repeatsAllowed = false → ((holes tokens).map (·.1)).Nodup

namespace Piece

def write : Piece → List Char
  | char c => if c = '$' then ['$', '$'] else [c]
  | hole name => '$' :: '\x7b' :: name ++ ['\x7d']

def name? : Piece → Option (List Char)
  | char _ => none
  | hole name => some name

def Valid (p : Piece) : Prop := ∀ name, p = hole name → Token.isName name = true

theorem valid_char (c : Char) : (char c).Valid := by
  intro name h
  cases h

theorem valid_hole {name : List Char} : (hole name).Valid ↔ Token.isName name = true := by
  constructor
  · intro h
    exact h name rfl
  · intro hname name' h
    obtain rfl := Piece.hole.inj h
    exact hname

end Piece

/-- What was taken of the piece that is being read. -/
def Mode.taken : Mode → List Char
  | .text => []
  | .dollar => ['$']
  | .name sofar => '$' :: '\x7b' :: sofar.reverse

namespace Mode

/-- A name that is being read has not been closed. -/
def Open (mode : Mode) : Prop := ∀ sofar, mode = name sofar → '\x7d' ∉ sofar

theorem open_text : text.Open := fun _ h => nomatch h

theorem open_dollar : dollar.Open := fun _ h => nomatch h

theorem open_name {sofar : List Char} : (name sofar).Open ↔ '\x7d' ∉ sofar := by simp [Open]

end Mode

theorem split_written {mode : Mode} {text : List Char} {pieces : List Piece}
    (h : split mode text = (pieces, none)) :
    mode.taken ++ text = pieces.flatMap Piece.write ∧ ∀ p ∈ pieces, p.Valid := by
  fun_induction split mode text generalizing pieces with
  | case1 =>
    obtain ⟨rfl, -⟩ := Prod.mk.inj h
    exact ⟨rfl, by simp⟩
  | case2 rest ih => exact ih h
  | case3 c rest hc later flaw hlater ih =>
    obtain ⟨rfl, rfl⟩ := Prod.mk.inj h
    obtain ⟨htext, hvalid⟩ := ih hlater
    refine ⟨?_, List.forall_mem_cons.mpr ⟨Piece.valid_char c, hvalid⟩⟩
    rw [List.flatMap_cons, ← htext, Piece.write, if_neg hc]
    rfl
  | case5 rest later flaw hlater ih =>
    obtain ⟨rfl, rfl⟩ := Prod.mk.inj h
    obtain ⟨htext, hvalid⟩ := ih hlater
    refine ⟨?_, List.forall_mem_cons.mpr ⟨Piece.valid_char '$', hvalid⟩⟩
    rw [List.flatMap_cons, ← htext]
    rfl
  | case6 rest hc ih => exact ih h
  | case9 sofar rest hname later flaw hlater ih =>
    obtain ⟨rfl, rfl⟩ := Prod.mk.inj h
    obtain ⟨htext, hvalid⟩ := ih hlater
    refine ⟨?_, List.forall_mem_cons.mpr ⟨Piece.valid_hole.mpr hname, hvalid⟩⟩
    rw [List.flatMap_cons, ← htext]
    simp [Piece.write, Mode.taken]
  | case11 sofar c rest hc ih =>
    obtain ⟨htext, hvalid⟩ := ih h
    refine ⟨?_, hvalid⟩
    rw [← htext]
    simp [Mode.taken]
  | case4 | case7 | case8 | case10 => cases h

theorem brace_not_mem {name : List Char} (h : Token.isName name = true) : '\x7d' ∉ name := by
  cases name with
  | nil => simp
  | cons c rest =>
    simp only [Token.isName, Bool.and_eq_true, List.all_eq_true] at h
    intro hmem
    rcases List.mem_cons.mp hmem with rfl | hmem
    · exact absurd h.1 (by decide)
    · exact absurd (h.2 _ hmem) (by decide)

theorem split_name {name : List Char} (h : '\x7d' ∉ name) (sofar rest : List Char) :
    split (.name sofar) (name ++ '\x7d' :: rest) =
      split (.name (name.reverse ++ sofar)) ('\x7d' :: rest) := by
  induction name generalizing sofar with
  | nil => rfl
  | cons c name ih =>
    rw [List.mem_cons, not_or] at h
    rw [List.cons_append, split, if_neg (Ne.symm h.1), ih h.2]
    simp

theorem split_unterminated {name : List Char} (h : '\x7d' ∉ name) (sofar : List Char) :
    split (.name sofar) name = ([], some .unterminated) := by
  induction name generalizing sofar with
  | nil => rfl
  | cons c name ih =>
    rw [List.mem_cons, not_or] at h
    rw [split, if_neg (Ne.symm h.1), ih h.2]

theorem split_opened {name : List Char} (h : '\x7d' ∉ name) (rest : List Char) :
    split .text ('$' :: '\x7b' :: name ++ '\x7d' :: rest) = split (.name name.reverse) ('\x7d' :: rest) := by
  have hopened : split .text ('$' :: '\x7b' :: name ++ '\x7d' :: rest) =
      split (.name []) (name ++ '\x7d' :: rest) := by simp [split]
  rw [hopened, split_name h, List.append_nil]

theorem split_write {p : Piece} (h : p.Valid) (rest : List Char) :
    split .text (p.write ++ rest) = (p :: (split .text rest).1, (split .text rest).2) := by
  cases p with
  | char c =>
    by_cases hc : c = '$'
    · subst hc
      rfl
    · rw [Piece.write, if_neg hc, List.singleton_append, split, if_neg hc]
  | hole name =>
    have hname := Piece.valid_hole.mp h
    have hopened : split .text ((Piece.hole name).write ++ rest) =
        split (.name []) (name ++ '\x7d' :: rest) := by
      simp [Piece.write, split]
    rw [hopened, split_name (brace_not_mem hname), split, if_pos rfl, List.append_nil, List.reverse_reverse,
      if_pos hname]

/-- Text splits into pieces without a flaw if it is the pieces written one after the other. -/
theorem split_eq_iff {text : List Char} {pieces : List Piece} :
    split .text text = (pieces, none) ↔
      text = pieces.flatMap Piece.write ∧ ∀ p ∈ pieces, p.Valid := by
  constructor
  · intro h
    exact split_written h
  · intro h
    obtain ⟨rfl, hvalid⟩ := h
    induction pieces with
    | nil => rfl
    | cons p pieces ih =>
      rw [List.forall_mem_cons] at hvalid
      rw [List.flatMap_cons, split_write hvalid.1, ih hvalid.2]

theorem formed_iff {text : List Char} {names : List (List Char)} :
    Formed text names ↔ ∃ pieces : List Piece, text = pieces.flatMap Piece.write ∧
      (∀ p ∈ pieces, p.Valid) ∧ names = pieces.filterMap Piece.name? := by
  constructor
  · intro h
    induction h with
    | nil => exact ⟨[], rfl, by simp, rfl⟩
    | char c hc h ih =>
      obtain ⟨pieces, rfl, hvalid, rfl⟩ := ih
      refine ⟨.char c :: pieces, ?_, List.forall_mem_cons.mpr ⟨Piece.valid_char c, hvalid⟩, rfl⟩
      rw [List.flatMap_cons, Piece.write, if_neg hc, List.singleton_append]
    | dollars h ih =>
      obtain ⟨pieces, rfl, hvalid, rfl⟩ := ih
      exact ⟨.char '$' :: pieces, rfl, List.forall_mem_cons.mpr ⟨Piece.valid_char '$', hvalid⟩, rfl⟩
    | hole name hname h ih =>
      obtain ⟨pieces, rfl, hvalid, rfl⟩ := ih
      refine ⟨.hole name :: pieces, ?_, List.forall_mem_cons.mpr ⟨Piece.valid_hole.mpr hname, hvalid⟩, rfl⟩
      simp [Piece.write]
  · intro h
    obtain ⟨pieces, rfl, hvalid, rfl⟩ := h
    induction pieces with
    | nil => exact .nil
    | cons p pieces ih =>
      rw [List.forall_mem_cons] at hvalid
      have hrest := ih hvalid.2
      cases p with
      | char c =>
        by_cases hc : c = '$'
        · subst hc
          exact .dollars hrest
        · rw [List.flatMap_cons, Piece.write, if_neg hc]
          exact .char c hc hrest
      | hole name =>
        have hhole := Formed.hole name (Piece.valid_hole.mp hvalid.1) hrest
        simpa [Piece.write, Piece.name?] using hhole

theorem repeated?_eq_none {seen : List (List Char)} {pieces : List Piece} :
    repeated? seen pieces = none ↔ (pieces.filterMap Piece.name?).Nodup ∧
      ∀ name ∈ pieces.filterMap Piece.name?, name ∉ seen := by
  induction pieces generalizing seen with
  | nil => simp [repeated?]
  | cons p pieces ih =>
    cases p with
    | char c => exact ih
    | hole name =>
      have hnames : (Piece.hole name :: pieces).filterMap Piece.name? =
          name :: pieces.filterMap Piece.name? := rfl
      rw [hnames, List.nodup_cons, List.forall_mem_cons, repeated?]
      by_cases hseen : name ∈ seen
      · simp [hseen]
      · rw [if_neg (by simpa using hseen), ih]
        constructor
        · intro h
          obtain ⟨hnodup, hnew⟩ := h
          exact ⟨⟨fun hmem => hnew name hmem List.mem_cons_self, hnodup⟩, hseen,
            fun n hn hmem => hnew n hn (List.mem_cons_of_mem _ hmem)⟩
        · intro h
          obtain ⟨⟨hfirst, hnodup⟩, -, hnew⟩ := h
          refine ⟨hnodup, fun n hn hmem => ?_⟩
          rcases List.mem_cons.mp hmem with rfl | hmem
          · exact hfirst hn
          · exact hnew n hn hmem

end Template

namespace Token

open Template (Piece)

/-- The pieces that are put together to a token. -/
def pieces : Token → List Piece
  | literal s => s.toList.map .char
  | placeholder name _ => [.hole name.toList]

theorem write_pieces (t : Token) : t.pieces.flatMap Piece.write = t.render := by
  cases t with
  | literal s =>
    rw [pieces, List.flatMap_map, render, escapeDollars]
    rfl
  | placeholder name index => simp [pieces, Piece.write, render]

end Token

namespace Template

theorem pieces_literalToken (text : List Char) :
    (literalToken text).flatMap Token.pieces = text.map .char := by
  unfold literalToken
  split
  · next h => simp [h]
  · simp [Token.pieces]

theorem pieces_assemble (index : Nat) (text : List Char) (pieces : List Piece) :
    (assemble index text pieces).flatMap Token.pieces = text.reverse.map .char ++ pieces := by
  induction pieces generalizing index text with
  | nil => rw [assemble, pieces_literalToken, List.append_nil]
  | cons p pieces ih =>
    cases p with
    | char c => simp [assemble, ih]
    | hole name =>
      rw [assemble, List.flatMap_append, pieces_literalToken, List.flatMap_cons, ih]
      simp [Token.pieces]

theorem assemble_chars (index : Nat) (text cs : List Char) (pieces : List Piece) :
    assemble index text (cs.map .char ++ pieces) = assemble index (cs.reverse ++ text) pieces := by
  induction cs generalizing text with
  | nil => rfl
  | cons c cs ih =>
    rw [List.map_cons, List.cons_append, assemble, ih]
    simp

/-- Canonical tokens are what their pieces are put together to. A stretch of text may come first, but
not before more literal text. -/
theorem assemble_pieces {index : Nat} {text : List Char} {tokens : List Token}
    (hnonempty : ∀ s, .literal s ∈ tokens → s ≠ "")
    (hapart : tokens.IsChain fun a b => a.name? ≠ none ∨ b.name? ≠ none)
    (hfirst : text ≠ [] → ∀ t ∈ tokens.head?, t.name? ≠ none)
    (hnumbered : (holes tokens).map (·.2) = List.range' index (holes tokens).length) :
    assemble index text (tokens.flatMap Token.pieces) = literalToken text.reverse ++ tokens := by
  induction tokens generalizing index text with
  | nil => exact (List.append_nil _).symm
  | cons t tokens ih =>
    have hrest : ∀ s, .literal s ∈ tokens → s ≠ "" := fun s hs =>
      hnonempty s (List.mem_cons_of_mem _ hs)
    cases t with
    | literal s =>
      have hempty : text = [] := by
        by_contra htext
        exact hfirst htext _ rfl rfl
      have hs : s.toList ≠ [] := by
        have hne := hnonempty s List.mem_cons_self
        simpa using hne
      have hnext : s.toList.reverse ≠ [] → ∀ t ∈ tokens.head?, t.name? ≠ none := by
        intro _ t ht
        exact ((List.isChain_cons.mp hapart).1 t ht).resolve_left fun hne => hne rfl
      have hlater := ih hrest (List.isChain_cons.mp hapart).2 hnext hnumbered
      subst hempty
      rw [List.flatMap_cons, Token.pieces, assemble_chars, List.append_nil, hlater, List.reverse_reverse,
        literalToken, if_neg hs, String.ofList_toList]
      rfl
    | placeholder name i =>
      have hholes : holes (.placeholder name i :: tokens) = (name, i) :: holes tokens := rfl
      rw [hholes, List.map_cons, List.length_cons, List.range'_succ] at hnumbered
      obtain ⟨rfl, hnumbers⟩ := List.cons.inj hnumbered
      have hlater := ih hrest (List.isChain_cons.mp hapart).2 (fun h => absurd rfl h) hnumbers
      rw [List.flatMap_cons, Token.pieces, List.singleton_append, assemble, hlater, String.ofList_toList]
      rfl

theorem assemble_nonempty (index : Nat) (text : List Char) (pieces : List Piece) (s : String)
    (hs : .literal s ∈ assemble index text pieces) : s ≠ "" := by
  have hliteral : ∀ cs : List Char, .literal s ∈ literalToken cs → s ≠ "" := by
    intro cs hmem
    unfold literalToken at hmem
    split at hmem
    · cases hmem
    · next hcs =>
      obtain rfl := Token.literal.inj (List.mem_singleton.mp hmem)
      intro heq
      exact hcs (by simpa using congrArg String.toList heq)
  induction pieces generalizing index text with
  | nil => exact hliteral _ hs
  | cons p pieces ih =>
    cases p with
    | char c => exact ih index (c :: text) hs
    | hole name =>
      rcases List.mem_append.mp hs with hmem | hmem
      · exact hliteral _ hmem
      · exact ih (index + 1) [] ((List.mem_cons.mp hmem).resolve_left (by simp))

theorem assemble_apart (index : Nat) (text : List Char) (pieces : List Piece) :
    (assemble index text pieces).IsChain fun a b => a.name? ≠ none ∨ b.name? ≠ none := by
  induction pieces generalizing index text with
  | nil =>
    rw [assemble, literalToken]
    split
    · exact .nil
    · exact .singleton _
  | cons p pieces ih =>
    cases p with
    | char c => exact ih index (c :: text)
    | hole name =>
      have hhole : (Token.placeholder (String.ofList name) index :: assemble (index + 1) [] pieces).IsChain
          fun a b => a.name? ≠ none ∨ b.name? ≠ none :=
        List.isChain_cons.mpr ⟨fun t _ => .inl (by simp [Token.name?]), ih (index + 1) []⟩
      rw [assemble, literalToken]
      split
      · exact hhole
      · exact List.isChain_cons_cons.mpr ⟨.inr (by simp [Token.name?]), hhole⟩

theorem names_pieces (tokens : List Token) :
    (tokens.flatMap Token.pieces).filterMap Piece.name? = ((holes tokens).map (·.1)).map String.toList := by
  induction tokens with
  | nil => rfl
  | cons t tokens ih =>
    cases t with
    | literal s =>
      have hnone : (s.toList.map Piece.char).filterMap Piece.name? = [] := by
        simp [List.filterMap_eq_nil_iff, Piece.name?]
      rw [List.flatMap_cons, Token.pieces, List.filterMap_append, hnone, List.nil_append, ih]
      rfl
    | placeholder name index =>
      rw [List.flatMap_cons, Token.pieces, List.filterMap_append, ih]
      rfl

theorem nodup_names_pieces {tokens : List Token} :
    ((tokens.flatMap Token.pieces).filterMap Piece.name?).Nodup ↔ ((holes tokens).map (·.1)).Nodup := by
  rw [names_pieces, List.nodup_map_iff fun _ _ => String.toList_injective]

theorem valid_pieces {tokens : List Token} :
    (∀ p ∈ tokens.flatMap Token.pieces, p.Valid) ↔
      ∀ name index, .placeholder name index ∈ tokens → Token.isName name.toList = true := by
  constructor
  · intro h name index hmem
    exact Piece.valid_hole.mp (h _ (List.mem_flatMap.mpr ⟨_, hmem, List.mem_singleton_self _⟩))
  · intro h p hp
    obtain ⟨t, ht, hp⟩ := List.mem_flatMap.mp hp
    cases t with
    | literal s =>
      obtain ⟨c, -, rfl⟩ := List.mem_map.mp hp
      exact Piece.valid_char c
    | placeholder name index =>
      obtain rfl := List.mem_singleton.mp hp
      exact Piece.valid_hole.mpr (h name index ht)

/-- Pieces are put together to canonical tokens, and canonical tokens to nothing else. -/
theorem assemble_eq_iff {repeatsAllowed : Bool} {pieces : List Piece} {tokens : List Token} :
    (assemble 0 [] pieces = tokens ∧ (∀ p ∈ pieces, p.Valid) ∧
        (repeatsAllowed = false → repeated? [] pieces = none)) ↔
      Canonical repeatsAllowed tokens ∧ tokens.flatMap Token.pieces = pieces := by
  have hrepeated : ∀ pieces, repeated? [] pieces = none ↔ (pieces.filterMap Piece.name?).Nodup := by
    intro pieces
    simp [repeated?_eq_none]
  constructor
  · intro h
    obtain ⟨rfl, hvalid, hdistinct⟩ := h
    have hpieces : (assemble 0 [] pieces).flatMap Token.pieces = pieces := pieces_assemble 0 [] pieces
    refine ⟨⟨assemble_nonempty 0 [] pieces, assemble_apart 0 [] pieces, ?_, ?_, ?_⟩, hpieces⟩
    · rw [← valid_pieces, hpieces]
      exact hvalid
    · obtain ⟨names, hnames⟩ := assemble_numbers 0 [] pieces
      rw [hnames, List.length_zipIdx, List.range_eq_range']
      exact List.zipIdx_map_snd 0 names
    · intro hno
      rw [← nodup_names_pieces, hpieces, ← hrepeated]
      exact hdistinct hno
  · intro h
    obtain ⟨hcanonical, rfl⟩ := h
    refine ⟨?_, valid_pieces.mpr hcanonical.names, ?_⟩
    · refine assemble_pieces hcanonical.nonempty hcanonical.apart (fun h => absurd rfl h) ?_
      rw [← List.range_eq_range']
      exact hcanonical.numbered
    · intro hno
      rw [hrepeated, nodup_names_pieces]
      exact hcanonical.distinct hno

theorem toList_render (tokens : List Token) :
    (render tokens).toList = (tokens.flatMap Token.pieces).flatMap Piece.write := by
  rw [render, String.toList_ofList, List.flatMap_assoc]
  simp only [Token.write_pieces]

theorem read_ok_iff {source : String} {repeatsAllowed : Bool} {location : Option Location}
    {t : Template} : read source repeatsAllowed location = .ok t ↔
      ∃ pieces, split .text source.toList = (pieces, none) ∧
        (repeatsAllowed = false → repeated? [] pieces = none) ∧
        { source, tokens := assemble 0 [] pieces, location } = t := by
  unfold read
  generalize split .text source.toList = result
  obtain ⟨pieces, flaw⟩ := result
  cases flaw with
  | some flaw =>
    constructor
    · intro h
      dsimp only at h
      split at h <;> cases h
    · intro h
      obtain ⟨_, heq, -⟩ := h
      cases heq
  | none =>
    cases repeatsAllowed with
    | true => simp
    | false => cases hrepeated : repeated? [] pieces <;> simp [hrepeated]

/-- Reading is the inverse of writing canonical tokens. -/
theorem read_eq_iff {source : String} {repeatsAllowed : Bool} {location : Option Location}
    {t : Template} : read source repeatsAllowed location = .ok t ↔
      Canonical repeatsAllowed t.tokens ∧ render t.tokens = source ∧ t.source = source ∧
        t.location = location := by
  rw [read_ok_iff]
  constructor
  · intro h
    obtain ⟨pieces, hsplit, hdistinct, rfl⟩ := h
    obtain ⟨htext, hvalid⟩ := split_eq_iff.mp hsplit
    obtain ⟨hcanonical, hpieces⟩ := assemble_eq_iff.mp ⟨rfl, hvalid, hdistinct⟩
    refine ⟨hcanonical, ?_, rfl, rfl⟩
    rw [← String.toList_inj, toList_render, hpieces, htext]
  · intro h
    obtain ⟨hcanonical, hrender, hsource, hlocation⟩ := h
    obtain ⟨hassemble, hvalid, hdistinct⟩ := assemble_eq_iff.mpr ⟨hcanonical, rfl⟩
    refine ⟨t.tokens.flatMap Token.pieces, split_eq_iff.mpr ⟨?_, hvalid⟩, hdistinct, ?_⟩
    · rw [← hrender, toList_render]
    · rw [hassemble, ← hsource, ← hlocation]

/-- Text can be read if it follows the grammar and repeats no name where that is not allowed. -/
theorem exists_read_iff {source : String} {repeatsAllowed : Bool} {location : Option Location} :
    (∃ t, read source repeatsAllowed location = .ok t) ↔
      ∃ names, Formed source.toList names ∧ (repeatsAllowed = false → names.Nodup) := by
  constructor
  · intro h
    obtain ⟨t, ht⟩ := h
    obtain ⟨pieces, hsplit, hdistinct, -⟩ := read_ok_iff.mp ht
    obtain ⟨htext, hvalid⟩ := split_eq_iff.mp hsplit
    refine ⟨_, formed_iff.mpr ⟨pieces, htext, hvalid, rfl⟩, ?_⟩
    intro hno
    exact (repeated?_eq_none.mp (hdistinct hno)).1
  · intro h
    obtain ⟨names, hformed, hdistinct⟩ := h
    obtain ⟨pieces, htext, hvalid, rfl⟩ := formed_iff.mp hformed
    refine ⟨_, read_ok_iff.mpr ⟨pieces, split_eq_iff.mpr ⟨htext, hvalid⟩, ?_, rfl⟩⟩
    intro hno
    exact repeated?_eq_none.mpr ⟨hdistinct hno, by simp⟩

/-- Reading and writing are inverse to each other on canonical tokens. What can be read is exactly the
text that follows the grammar, and no two texts have the same tokens. -/
theorem read_render (repeatsAllowed : Bool) (location : Option Location) :
    (∀ source t, read source repeatsAllowed location = .ok t →
      Canonical repeatsAllowed t.tokens ∧ render t.tokens = source ∧ t.source = source ∧
        t.location = location) ∧
    (∀ tokens, Canonical repeatsAllowed tokens →
      read (render tokens) repeatsAllowed location = .ok ⟨render tokens, tokens, location⟩) ∧
    (∀ source, (∃ t, read source repeatsAllowed location = .ok t) ↔
      ∃ names, Formed source.toList names ∧ (repeatsAllowed = false → names.Nodup)) ∧
    (∀ source source' repeatsAllowed' location' t t', read source repeatsAllowed location = .ok t →
      read source' repeatsAllowed' location' = .ok t' → t.tokens = t'.tokens → source = source') := by
  refine ⟨fun source t => read_eq_iff.mp, ?_, fun source => exists_read_iff, ?_⟩
  · intro tokens hcanonical
    exact read_eq_iff.mpr ⟨hcanonical, rfl, rfl, rfl⟩
  · intro source source' repeatsAllowed' location' t t' ht ht' hsame
    obtain ⟨-, hrender, -⟩ := read_eq_iff.mp ht
    obtain ⟨-, hrender', -⟩ := read_eq_iff.mp ht'
    rw [← hrender, ← hrender', hsame]

/-- Dollars and braces in literal text, and a name that comes twice. -/
theorem read_render_dollars :
    ∃ t, read "$$$$${x}$${}${x}" true none = .ok t ∧
      t.tokens = [.literal "$$", .placeholder "x" 0, .literal "${}", .placeholder "x" 1] ∧
      Canonical true t.tokens ∧ render t.tokens = "$$$$${x}$${}${x}" ∧
      read (render t.tokens) true none = .ok ⟨render t.tokens, t.tokens, none⟩ := by
  have hread : ∃ t, read "$$$$${x}$${}${x}" true none = .ok t ∧ decide (t.tokens =
      [.literal "$$", .placeholder "x" 0, .literal "${}", .placeholder "x" 1]) = true :=
    Results.exists_ok (by decide +kernel)
  obtain ⟨t, ht, htokens⟩ := hread
  obtain ⟨hcanonical, hrender, -⟩ := (read_render true none).1 _ t ht
  exact ⟨t, ht, of_decide_eq_true htokens, hcanonical, hrender, (read_render true none).2.1 _ hcanonical⟩

end Template

end TemplateSwap
