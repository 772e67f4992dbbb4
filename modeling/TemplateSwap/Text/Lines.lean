import TemplateSwap.Text.RangeTable

namespace TemplateSwap.Text

namespace Lines

def lineBreak : Code := 10

def carriageReturn : Code := 13

def split : List Code → List (List Code)
  | [] => [[]]
  | c :: rest =>
    if c = lineBreak then [] :: split rest
    else
      match split rest with
      | [] => [[c]]
      | line :: lines => (c :: line) :: lines

def join : List (List Code) → List Code
  | [] => []
  | [line] => line
  | line :: lines => line ++ lineBreak :: join lines

theorem split_ne_nil (text : List Code) : split text ≠ [] := by
  induction text with
  | nil => simp [split]
  | cons c rest ih =>
    unfold split
    split
    · simp
    · split <;> simp

theorem join_split (text : List Code) : join (split text) = text := by
  induction text with
  | nil => rfl
  | cons c rest ih =>
    unfold split
    split
    · next h =>
      obtain ⟨line, lines, hs⟩ := List.exists_cons_of_ne_nil (split_ne_nil rest)
      rw [hs] at ih ⊢
      simp [join, ih, h]
    · split
      · next hs => exact absurd hs (split_ne_nil rest)
      · next line lines hs =>
        rw [hs] at ih
        cases lines with
        | nil => simpa [join] using ih
        | cons l ls => simpa [join] using ih

/-- A line without a carriage return at its end, and that carriage return. -/
def holdAside (line : List Code) : List Code × List Code :=
  if line.getLast? = some carriageReturn then (line.dropLast, [carriageReturn]) else (line, [])

end Lines

end TemplateSwap.Text
