import TemplateSwap.Pattern.Escape

namespace TemplateSwap.Pattern

open TemplateSwap.Text (Code)

/-- Sets hold characters and kinds; their escapes are nothing else. -/
def Escape.item : Escape → SetItem
  | .literal c => .one c
  | .kind negated k => .kind negated k
  | _ => .one 0

namespace Reader

/-- What one member of a set stands for, given its first symbol. -/
def setMember : Symbol → Reader Escape
  | .escaped c => setEscape c
  | s => return .literal (s.text.headD 0)

/-- A range needs two single characters in order. -/
def range (first last : Symbol) (a b : Escape) : Reader SetItem :=
  let refuse := failBack (first.size + 1 + last.size) (.badRange first.text last.text)
  match a, b with
  | .literal lo, .literal hi => if hi < lo then refuse else return .range lo hi
  | _, _ => refuse

def bracket : Symbol := .plain 93

/-- The members of a set. A closing bracket that comes first is a member. -/
def setItems (opened : Nat) : Nat → List SetItem → Reader (List SetItem)
  | 0, _ => failAt opened .unterminatedSet
  | fuel + 1, items => do
    match ← next with
    | none => failAt opened .unterminatedSet
    | some s =>
      if s = bracket ∧ items ≠ [] then return items
      else
        let first ← setMember s
        if ← accept 45 then
          match ← next with
          | none => failAt opened .unterminatedSet
          | some t =>
            if t = bracket then return items ++ [first.item, .one 45]
            else
              let last ← setMember t
              setItems opened fuel (items ++ [← range s t first last])
        else setItems opened fuel (items ++ [first.item])

/-- A set of one character is a test for that character. -/
def setTest (negated : Bool) (items : List SetItem) : Single :=
  match items.eraseDups, negated with
  | [.one c], false => .one c
  | [.one c], true => .notOne c
  | items, negated => .oneOf negated items

/-- A set, where the given number of characters is left at its opening bracket. -/
def set (opened : Nat) : Reader Single := do
  let negated ← accept 94
  let items ← fun s => setItems opened (s.length + 1) [] s
  return setTest negated items

end Reader

end TemplateSwap.Pattern
