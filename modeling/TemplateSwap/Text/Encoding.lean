import TemplateSwap.Failure

namespace TemplateSwap.Text

/-- Bytes that are no text become code points of their own, U+DC80 to U+DCFF, and turn into the same bytes again. -/
inductive Encoding
  | utf8
  | utf8Signature
  | latin1
  | ascii
  deriving DecidableEq, Repr

namespace Encoding

/-- Of a name only letters, digits and points count, in lower case. All that stands between them is one
underscore. -/
def normalName (name : String) : List Char :=
  let parts := name.toList.splitOnP fun c => !(c.isAlphanum || c = '.')
  ['_'].intercalate ((parts.filter (· ≠ [])).map (·.map Char.toLower))

def ownName : Encoding → String
  | utf8 => "utf_8"
  | utf8Signature => "utf_8_sig"
  | latin1 => "latin_1"
  | ascii => "ascii"

def aliases : Encoding → List String
  | utf8 => ["u8", "utf", "utf8", "utf8_ucs2", "utf8_ucs4", "cp65001"]
  | utf8Signature => []
  | latin1 =>
    ["8859", "cp819", "csisolatin1", "ibm819", "iso8859", "iso8859_1", "iso_8859_1", "iso_8859_1_1987", "iso_ir_100",
      "l1", "latin", "latin1"]
  | ascii =>
    ["646", "ansi_x3.4_1968", "ansi_x3_4_1968", "ansi_x3.4_1986", "cp367", "csascii", "ibm367", "iso646_us",
      "iso_646.irv_1991", "iso_ir_6", "us", "us_ascii"]

/-- Whether a normal name is one of the encoding. For a point in an alias an underscore can be meant. -/
def isCalled (normal : List Char) (e : Encoding) : Bool :=
  let names := e.aliases.map String.toList
  normal = e.ownName.toList || names.contains normal
    || names.contains (normal.map fun c => if c = '.' then '_' else c)

/-- The encoding of a name. -/
def ofName? (name : String) : Option Encoding :=
  if name.toList.contains '\x00' then none
  else [utf8, utf8Signature, latin1, ascii].find? (isCalled (normalName name))

/-- The code point that stands for a byte that is no text. -/
def escapeByte (b : UInt8) : Code := 0xDC00 + b.toNat

/-- The byte that a code point stands for. -/
def escapedByte? (c : Code) : Option UInt8 :=
  if 0xDC80 ≤ c ∧ c ≤ 0xDCFF then some (UInt8.ofNat (c - 0xDC00)) else none

def isContinuation (b : UInt8) : Bool := decide (0x80 ≤ b) && decide (b ≤ 0xBF)

def sixBits (b : UInt8) : Nat := b.toNat % 64

/-- The character that begins with the given bytes, and how many more bytes it takes. -/
def character? (first : UInt8) : List UInt8 → Option (Code × Nat)
  | rest =>
    if first < 0x80 then some (first.toNat, 0)
    else if 0xC2 ≤ first ∧ first ≤ 0xDF then
      match rest with
      | b :: _ => if isContinuation b then some (first.toNat % 32 * 64 + sixBits b, 1) else none
      | _ => none
    else if 0xE0 ≤ first ∧ first ≤ 0xEF then
      match rest with
      | b :: c :: _ =>
        let code := (first.toNat % 16 * 64 + sixBits b) * 64 + sixBits c
        if isContinuation b && isContinuation c && decide (0x800 ≤ code)
            && !(decide (0xD800 ≤ code) && decide (code ≤ 0xDFFF)) then some (code, 2)
        else none
      | _ => none
    else if 0xF0 ≤ first ∧ first ≤ 0xF4 then
      match rest with
      | b :: c :: d :: _ =>
        let code := ((first.toNat % 8 * 64 + sixBits b) * 64 + sixBits c) * 64 + sixBits d
        if isContinuation b && isContinuation c && isContinuation d && decide (0x10000 ≤ code)
            && decide (code ≤ 0x10FFFF) then some (code, 3)
        else none
      | _ => none
    else none

/-- Skip the bytes of a character that is already decoded, then decode on. -/
def decodeUtf8From : Nat → List UInt8 → List Code
  | _, [] => []
  | skip + 1, _ :: rest => decodeUtf8From skip rest
  | 0, b :: rest =>
    match character? b rest with
    | some (code, more) => code :: decodeUtf8From more rest
    | none => escapeByte b :: decodeUtf8From 0 rest

def decodeUtf8 (data : List UInt8) : List Code := decodeUtf8From 0 data

def signature : List UInt8 := [0xEF, 0xBB, 0xBF]

/-- Text from bytes. A signature is no part of the text, nor is the beginning of one that is all
there is. -/
def decode (data : List UInt8) : Encoding → List Code
  | utf8 => decodeUtf8 data
  | utf8Signature =>
    if data.isPrefixOf signature then []
    else if signature.isPrefixOf data then decodeUtf8 (data.drop 3)
    else decodeUtf8 data
  | latin1 => data.map (·.toNat)
  | ascii => data.map fun b => if b < 0x80 then b.toNat else escapeByte b

def byte (n : Nat) : UInt8 := UInt8.ofNat n

def encodeUtf8 (c : Code) : List UInt8 :=
  if c < 0x80 then [byte c]
  else if c < 0x800 then [byte (0xC0 + c / 64), byte (0x80 + c % 64)]
  else if c < 0x10000 then [byte (0xE0 + c / 4096), byte (0x80 + c / 64 % 64), byte (0x80 + c % 64)]
  else
    [byte (0xF0 + c / 262144), byte (0x80 + c / 4096 % 64), byte (0x80 + c / 64 % 64),
      byte (0x80 + c % 64)]

/-- Whether the encoding has bytes for a character. -/
def encodes (c : Code) : Encoding → Bool
  | utf8 | utf8Signature => !(decide (0xD800 ≤ c) && decide (c ≤ 0xDFFF))
  | latin1 => decide (c < 256)
  | ascii => decide (c < 128)

def encodeOne (e : Encoding) (c : Code) : Option (List UInt8) :=
  if e.encodes c then
    match e with
    | utf8 | utf8Signature => some (encodeUtf8 c)
    | latin1 | ascii => some [byte c]
  else (escapedByte? c).map ([·])

def codecName : Encoding → String
  | utf8 | utf8Signature => "utf-8"
  | latin1 => "latin-1"
  | ascii => "ascii"

def refusal : Encoding → String
  | utf8 | utf8Signature => "surrogates not allowed"
  | latin1 => "ordinal not in range(256)"
  | ascii => "ordinal not in range(128)"

/-- Bytes from text, or the first stretch of characters without bytes. -/
def encodeFrom (e : Encoding) : Nat → List Code → Except EncodeError (List UInt8)
  | _, [] => .ok []
  | position, c :: rest =>
    match e.encodeOne c with
    | some bytes => do return bytes ++ (← encodeFrom e (position + 1) rest)
    | none =>
      let stretch := (rest.takeWhile fun d => !e.encodes d).length
      .error ⟨e.codecName, c, position, position + 1 + stretch, e.refusal⟩

def encode (text : List Code) (e : Encoding) : Except EncodeError (List UInt8) := do
  let bytes ← encodeFrom e 0 text
  return if e = utf8Signature then signature ++ bytes else bytes

end Encoding

/-- How all text of a file is read from its bytes, and how it is written. Both can be refused. -/
structure Codec where
  decode : List UInt8 → Except CodecError (List Code)
  encode : List Code → Except CodecError (List UInt8)

def Encoding.codec (e : Encoding) : Codec where
  decode data := .ok (e.decode data)
  encode text := (e.encode text).mapError .unencodable

end TemplateSwap.Text
