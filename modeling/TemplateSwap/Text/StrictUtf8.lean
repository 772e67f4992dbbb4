import TemplateSwap.Text.Encoding

namespace TemplateSwap.Text.StrictUtf8

open TemplateSwap.Text.Encoding (character? isContinuation)

/-- Why bytes are no character, and how many of them are at fault. -/
inductive Fault
  | start
  | continuation (length : Nat)
  | tooShort

/-- The range that the second byte of a character has to be in. -/
def secondRange (first : UInt8) : UInt8 × UInt8 :=
  if first = 0xE0 then (0xA0, 0xBF)
  else if first = 0xED then (0x80, 0x9F)
  else if first = 0xF0 then (0x90, 0xBF)
  else if first = 0xF4 then (0x80, 0x8F)
  else (0x80, 0xBF)

/-- How many bytes follow the first one. -/
def following (first : UInt8) : Nat :=
  if first < 0xE0 then 1 else if first < 0xF0 then 2 else 3

/-- What is wrong with bytes that begin no character. -/
def fault (first : UInt8) (rest : List UInt8) : Fault :=
  if first < 0xC2 ∨ 0xF4 < first then .start
  else
    match rest.take (following first) with
    | [] => .tooShort
    | second :: others =>
      let (low, high) := secondRange first
      if second < low ∨ high < second then .continuation 1
      else
        let good := (others.takeWhile isContinuation).length
        if good < others.length then .continuation (good + 2) else .tooShort

def error (position : Nat) (first : UInt8) (rest : List UInt8) : DecodeError :=
  match fault first rest with
  | .start => ⟨"utf-8", first, position, position + 1, "invalid start byte"⟩
  | .continuation length => ⟨"utf-8", first, position, position + length, "invalid continuation byte"⟩
  | .tooShort => ⟨"utf-8", first, position, position + rest.length + 1, "unexpected end of data"⟩

/-- Skip the bytes of a character that is already read, then read on. -/
def readFrom (position : Nat) : Nat → List UInt8 → Except DecodeError (List Code)
  | _, [] => .ok []
  | skip + 1, _ :: rest => readFrom (position + 1) skip rest
  | 0, b :: rest =>
    match character? b rest with
    | some (code, more) => do return code :: (← readFrom (position + 1) more rest)
    | none => .error (error position b rest)

def read (data : List UInt8) : Except DecodeError (List Code) := readFrom 0 0 data

end TemplateSwap.Text.StrictUtf8
