import TemplateSwap.Proofs.Reading.Compiled

namespace TemplateSwap.Pattern

open TemplateSwap.Text (Code)

namespace Flags

/-- With the switches for texts of several lines: anchors at every line, and a dot for any character. -/
def acrossLines (f : Flags) : Flags := { f with multiline := true, dotAll := true }

theorem union_acrossLines (f on : Flags) : f.acrossLines.union on = (f.union on).acrossLines := by
  simp [acrossLines, union]

theorem settleMode_acrossLines (f : Flags) : settleMode f.acrossLines = (settleMode f).acrossLines := rfl

end Flags

/-- A pattern with the switches for texts of several lines. -/
def acrossLines (p : Pattern) : Pattern := { p with flags := p.flags.acrossLines }

namespace Builder

def acrossLines (b : Builder) : Builder := { b with flags := b.flags.acrossLines }

@[simp] theorem acrossLines_level (b : Builder) : b.acrossLines.level = b.level := rfl

@[simp] theorem acrossLines_frames (b : Builder) : b.acrossLines.frames = b.frames := rfl

@[simp] theorem acrossLines_flags (b : Builder) : b.acrossLines.flags = b.flags.acrossLines := rfl

@[simp] theorem acrossLines_groups (b : Builder) : b.acrossLines.groups = b.groups := rfl

@[simp] theorem acrossLines_conditions (b : Builder) : b.acrossLines.conditions = b.conditions := rfl

@[simp] theorem acrossLines_info? (b : Builder) (index : Nat) : b.acrossLines.info? index = b.info? index := rfl

@[simp] theorem acrossLines_closedWidth? (b : Builder) (index : Nat) :
    b.acrossLines.closedWidth? index = b.closedWidth? index := rfl

@[simp] theorem acrossLines_indexOf? (b : Builder) (name : List Code) :
    b.acrossLines.indexOf? name = b.indexOf? name := rfl

theorem acrossLines_close (b : Builder) (frame : Frame) (frames : List Frame) :
    b.acrossLines.close frame frames = (b.close frame frames).acrossLines := by
  unfold close
  dsimp only
  split <;> rfl

end Builder

namespace Reader

variable {α β : Type}

theorem map_apply (f : α → β) (m : Reader α) (s : Source) :
    (f <$> m) s = (m s).map fun (a, rest) => (f a, rest) := by
  change (m s >>= fun x => pure (f x.1, x.2)) = _
  cases m s <;> rfl

theorem checkLookbehind_acrossLines (b : Builder) (index : Nat) :
    checkLookbehind b.acrossLines index = checkLookbehind b index := rfl

theorem reference_acrossLines (b : Builder) (index written : Nat) :
    reference b.acrossLines index written = Builder.acrossLines <$> reference b index written := by
  unfold reference
  rw [Builder.acrossLines_info?]
  split
  · rfl
  · split
    · rfl
    · rw [map_bind, checkLookbehind_acrossLines]
      rfl

theorem namedReference_acrossLines (b : Builder) :
    namedReference b.acrossLines = Builder.acrossLines <$> namedReference b := by
  unfold namedReference
  rw [map_bind]
  refine bind_congr fun name => ?_
  rw [Builder.acrossLines_indexOf?]
  split
  · rfl
  · rw [Builder.acrossLines_closedWidth?]
    split
    · rfl
    · rw [map_bind, checkLookbehind_acrossLines]
      rfl

theorem numberedCondition_acrossLines (b : Builder) (name : List Code) :
    numberedCondition b.acrossLines name = Prod.map id Builder.acrossLines <$> numberedCondition b name := by
  unfold numberedCondition
  rw [Builder.acrossLines_conditions]
  split
  · split_ifs
    · rfl
    · rfl
    · simp only [map_bind]
      rfl
    · simp only [map_bind]
      rfl
  · rfl

theorem condition_acrossLines (b : Builder) :
    condition b.acrossLines = Prod.map id Builder.acrossLines <$> condition b := by
  unfold condition
  rw [map_bind]
  refine bind_congr fun name => ?_
  split_ifs
  · rw [Builder.acrossLines_indexOf?]
    split
    · rfl
    · rw [map_bind, checkLookbehind_acrossLines]
      rfl
  · exact numberedCondition_acrossLines b name

theorem openGroup_acrossLines (b : Builder) (name : Option (List Code)) (opened : Nat) :
    openGroup b.acrossLines name opened = Builder.acrossLines <$> openGroup b name opened := by
  unfold openGroup
  dsimp only [Builder.acrossLines_indexOf?]
  split
  · rfl
  · rfl

theorem globalFlags_acrossLines (b : Builder) (on : Flags) (opened : Nat) :
    globalFlags b.acrossLines on opened = Builder.acrossLines <$> globalFlags b on opened := by
  unfold globalFlags
  rw [Builder.acrossLines_frames, Builder.acrossLines_level]
  split_ifs
  · rw [Builder.acrossLines_flags, Flags.union_acrossLines]
    rfl
  · rfl

theorem extension_acrossLines (b : Builder) (opened : Nat) :
    extension b.acrossLines opened = Builder.acrossLines <$> extension b opened := by
  unfold extension
  rw [map_bind]
  refine bind_congr fun s => ?_
  dsimp only
  split
  · rw [map_bind]
    refine bind_congr fun named => ?_
    split_ifs
    · rw [map_bind]
      exact bind_congr fun name => openGroup_acrossLines b _ opened
    · rw [map_bind]
      refine bind_congr fun referring => ?_
      split_ifs
      · exact namedReference_acrossLines b
      · rw [map_bind]
        rfl
  · rfl
  · simp only [map_bind]
    rfl
  · rfl
  · rfl
  · rw [map_bind]
    refine bind_congr fun s => ?_
    split <;> rfl
  · rw [map_bind, condition_acrossLines, bind_map_left]
    rfl
  · rfl
  · split_ifs
    · rw [map_bind]
      refine bind_congr fun result => ?_
      split
      · exact globalFlags_acrossLines b _ opened
      · rfl
    · rfl

theorem parenthesis_acrossLines (b : Builder) :
    parenthesis b.acrossLines = Builder.acrossLines <$> parenthesis b := by
  unfold parenthesis
  simp only [map_bind]
  refine bind_congr fun n => bind_congr fun found => ?_
  split_ifs
  · exact extension_acrossLines b _
  · exact openGroup_acrossLines b none _

theorem repeatLast_acrossLines (b : Builder) (started least : Nat) (most : Option Nat) :
    repeatLast b.acrossLines started least most = Builder.acrossLines <$> repeatLast b started least most := by
  unfold repeatLast
  rw [Builder.acrossLines_level]
  split
  · rfl
  · split_ifs
    · rfl
    · rfl
    · rw [map_bind]
      rfl

theorem repetition_acrossLines (b : Builder) (c : Code) :
    repetition b.acrossLines c = Builder.acrossLines <$> repetition b c := by
  unfold repetition
  rw [map_bind]
  refine bind_congr fun n => ?_
  split_ifs
  · exact repeatLast_acrossLines b _ _ _
  · exact repeatLast_acrossLines b _ _ _
  · exact repeatLast_acrossLines b _ _ _
  · rw [map_bind]
    refine bind_congr fun o => ?_
    split
    · rfl
    · exact repeatLast_acrossLines b _ _ _

theorem escaped_acrossLines (b : Builder) (c : Code) :
    escaped b.acrossLines c = Builder.acrossLines <$> escaped b c := by
  unfold escaped
  rw [map_bind]
  refine bind_congr fun e => ?_
  split
  · rfl
  · rfl
  · rfl
  · exact reference_acrossLines b _ _

theorem item_acrossLines (b : Builder) (s : Symbol) :
    item b.acrossLines s = Builder.acrossLines <$> item b s := by
  unfold item
  rw [Builder.acrossLines_level]
  split
  · exact escaped_acrossLines b _
  · rfl
  · split_ifs
    · rfl
    · simp only [map_bind]
      rfl
    · rfl
    · rfl
    · rfl
    · simp only [map_bind]
      rfl
    · exact parenthesis_acrossLines b
    · exact repetition_acrossLines b _
    · rfl

theorem bar_acrossLines (b : Builder) : bar b.acrossLines = Builder.acrossLines <$> bar b := by
  unfold bar
  rw [Builder.acrossLines_frames]
  split
  · split
    · rfl
    · rw [map_bind]
      rfl
    · rw [map_bind]
      rfl
  · rw [map_bind]
    rfl

theorem assemble_acrossLines (fuel : Nat) (b : Builder) :
    assemble fuel b.acrossLines = Builder.acrossLines <$> assemble fuel b := by
  induction fuel generalizing b with
  | zero => rfl
  | succ fuel ih =>
    unfold assemble
    rw [map_bind]
    refine bind_congr fun ahead => ?_
    split
    · rfl
    · split_ifs
      · rw [map_bind, bar_acrossLines, bind_map_left]
        exact bind_congr fun b' => ih b'
      · rw [Builder.acrossLines_frames]
        split
        · rfl
        · rw [map_bind]
          refine bind_congr fun closed => ?_
          rw [Builder.acrossLines_close]
          exact ih _
      · simp only [map_bind, item_acrossLines, bind_map_left]
        exact bind_congr fun taken => bind_congr fun b' => ih b'

end Reader

theorem finish_acrossLines (b : Builder) : finish b.acrossLines = Builder.acrossLines <$> finish b := by
  unfold finish
  rw [Builder.acrossLines_frames]
  split
  · rfl
  · have hmodes : (b.acrossLines.flags.ascii && b.acrossLines.flags.unicode)
        = (b.flags.ascii && b.flags.unicode) := rfl
    rw [hmodes, Builder.acrossLines_groups, Builder.acrossLines_conditions]
    split_ifs
    · rfl
    · rw [map_bind]
      refine bind_congr fun ahead => ?_
      split_ifs
      · rfl
      · split <;> rfl

theorem readAll_acrossLines (flags : Flags) (s : Source) :
    readAll flags.acrossLines s = (readAll flags s).map fun (b, rest) => (b.acrossLines, rest) := by
  by_cases hs : s = [.loneBackslash]
  · subst hs
    rfl
  · have hread (flags : Flags) :
        readAll flags s = (Reader.assemble (s.length + 1) (.start flags) >>= finish) s := if_neg hs
    have hassemble : Reader.assemble (s.length + 1) (.start flags.acrossLines) =
        Builder.acrossLines <$> Reader.assemble (s.length + 1) (.start flags) :=
      Reader.assemble_acrossLines _ (.start flags)
    rw [hread, hread, ← Reader.map_apply, hassemble]
    simp only [bind_map_left, map_bind, finish_acrossLines]

/-- The same texts are patterns, and the others have the same fault. -/
theorem compile_acrossLines (source : String) (flags : Flags) :
    compile source flags.acrossLines = (compile source flags).map acrossLines := by
  unfold compile
  dsimp only
  rw [readAll_acrossLines]
  cases readAll flags (.ofCodes (Text.codes source)) with
  | error stop => cases stop <;> rfl
  | ok result =>
    obtain ⟨b, rest⟩ := result
    have htemplate : (settleMode b.flags).acrossLines.template = (settleMode b.flags).template := rfl
    simp only [Except.map, Builder.acrossLines_level, Builder.acrossLines_flags,
      Flags.settleMode_acrossLines, fault?_flags htemplate]
    split <;> rfl

end TemplateSwap.Pattern
