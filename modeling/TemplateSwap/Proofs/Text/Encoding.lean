import TemplateSwap.Text.Encoding
import TemplateSwap.Proofs.Results
import Mathlib.Tactic.SplitIfs

namespace TemplateSwap.Text.Encoding

variable {e : Encoding}

theorem ofName?_utf8 : ofName? "utf-8" = some utf8 := by decide +kernel

theorem byte_eq {n : Nat} {b : UInt8} (h : n = b.toNat) : byte n = b := by
  rw [byte, h]
  simp

theorem isContinuation_iff {b : UInt8} : isContinuation b = true ↔ 128 ≤ b.toNat ∧ b.toNat ≤ 191 := by
  simp [isContinuation, UInt8.le_iff_toNat_le]

theorem encodes_utf8 {n : Nat} (h : n < 0xD800 ∨ 0xDFFF < n) : utf8.encodes n = true := by
  simpa [encodes] using h

/-- Bytes that are no text are not text in the range of characters either. -/
theorem encodeOne_escapeByte {b : UInt8} (h : 128 ≤ b.toNat) : e.encodeOne (escapeByte b) = some [b] := by
  have hb := b.toNat_lt
  have hcode : escapeByte b = (0xDC00 + b.toNat : Nat) := rfl
  have hrange : 0xDC80 ≤ 0xDC00 + b.toNat ∧ 0xDC00 + b.toNat ≤ 0xDCFF := by omega
  have hno : e.encodes (0xDC00 + b.toNat : Nat) = false := by
    have hlatin : ¬ 0xDC00 + b.toNat < 256 := by omega
    have hascii : ¬ 0xDC00 + b.toNat < 128 := by omega
    have hsurrogate : 0xD800 ≤ 0xDC00 + b.toNat ∧ 0xDC00 + b.toNat ≤ 0xDFFF := by omega
    cases e with
    | utf8 | utf8Signature => simpa [encodes] using hsurrogate
    | latin1 => simpa [encodes] using hlatin
    | ascii => simpa [encodes] using hascii
  have hbyte : escapedByte? (0xDC00 + b.toNat : Nat) = some b := by
    rw [escapedByte?, if_pos hrange]
    simp
  rw [hcode, encodeOne.eq_def, hno, hbyte]
  rfl

theorem encodeOne_latin1 (b : UInt8) : latin1.encodeOne b.toNat = some [b] := by
  have hencodes : latin1.encodes b.toNat = true := decide_eq_true b.toNat_lt
  rw [encodeOne, if_pos hencodes]
  exact congrArg (some [·]) (byte_eq rfl)

theorem encodeOne_ascii (b : UInt8) :
    ascii.encodeOne (if b < 0x80 then b.toNat else escapeByte b) = some [b] := by
  split_ifs with hb
  · have hencodes : ascii.encodes b.toNat = true := decide_eq_true (UInt8.lt_iff_toNat_lt.mp hb)
    rw [encodeOne, if_pos hencodes]
    exact congrArg (some [·]) (byte_eq rfl)
  · have hbyte : 128 ≤ b.toNat := by simpa [UInt8.lt_iff_toNat_lt] using hb
    exact encodeOne_escapeByte hbyte

theorem encodeUtf8_one {n : Nat} {a : UInt8} (h : n < 0x80) (ha : n = a.toNat) : encodeUtf8 n = [a] := by
  rw [encodeUtf8, if_pos h, byte_eq ha]

theorem encodeUtf8_two {n : Nat} {a b : UInt8} (h : 0x80 ≤ n ∧ n < 0x800)
    (ha : 0xC0 + n / 64 = a.toNat) (hb : 0x80 + n % 64 = b.toNat) : encodeUtf8 n = [a, b] := by
  have h1 : ¬ n < 0x80 := by omega
  rw [encodeUtf8, if_neg h1, if_pos h.2, byte_eq ha, byte_eq hb]

theorem encodeUtf8_three {n : Nat} {a b c : UInt8} (h : 0x800 ≤ n ∧ n < 0x10000)
    (ha : 0xE0 + n / 4096 = a.toNat) (hb : 0x80 + n / 64 % 64 = b.toNat) (hc : 0x80 + n % 64 = c.toNat) :
    encodeUtf8 n = [a, b, c] := by
  have h1 : ¬ n < 0x80 := by omega
  have h2 : ¬ n < 0x800 := by omega
  rw [encodeUtf8, if_neg h1, if_neg h2, if_pos h.2, byte_eq ha, byte_eq hb, byte_eq hc]

theorem encodeUtf8_four {n : Nat} {a b c d : UInt8} (h : 0x10000 ≤ n)
    (ha : 0xF0 + n / 262144 = a.toNat) (hb : 0x80 + n / 4096 % 64 = b.toNat)
    (hc : 0x80 + n / 64 % 64 = c.toNat) (hd : 0x80 + n % 64 = d.toNat) :
    encodeUtf8 n = [a, b, c, d] := by
  have h1 : ¬ n < 0x80 := by omega
  have h2 : ¬ n < 0x800 := by omega
  have h3 : ¬ n < 0x10000 := by omega
  rw [encodeUtf8, if_neg h1, if_neg h2, if_neg h3, byte_eq ha, byte_eq hb, byte_eq hc, byte_eq hd]

/-- A character that is decoded is encoded to the bytes that it took. -/
theorem character?_some {first : UInt8} {rest : List UInt8} {code more : Nat}
    (h : character? first rest = some (code, more)) :
    utf8.encodes code = true ∧ encodeUtf8 code ++ rest.drop more = first :: rest := by
  unfold character? at h
  dsimp only at h
  simp only [UInt8.le_iff_toNat_le, UInt8.lt_iff_toNat_lt, UInt8.reduceToNat] at h
  split_ifs at h with h1 h2 h3 h4
  · obtain ⟨rfl, rfl⟩ := Prod.mk.inj (Option.some.inj h)
    exact ⟨encodes_utf8 (by omega), by rw [encodeUtf8_one h1 rfl]; rfl⟩
  · split at h
    · next b tail =>
      split_ifs at h with hb
      obtain ⟨rfl, rfl⟩ := Prod.mk.inj (Option.some.inj h)
      have hb := isContinuation_iff.mp hb
      rw [sixBits, encodeUtf8_two (a := first) (b := b) (by omega) (by omega) (by omega)]
      exact ⟨encodes_utf8 (by omega), rfl⟩
    · cases h
  · split at h
    · next b c tail =>
      split_ifs at h with hbytes
      obtain ⟨rfl, rfl⟩ := Prod.mk.inj (Option.some.inj h)
      simp only [Bool.and_eq_true, Bool.not_eq_true', Bool.and_eq_false_iff, isContinuation_iff] at hbytes
      obtain ⟨⟨⟨hb, hc⟩, hlow⟩, hgap⟩ := hbytes
      have hlow : 0x800 ≤ (first.toNat % 16 * 64 + sixBits b) * 64 + sixBits c := of_decide_eq_true hlow
      have hgap := hgap.imp of_decide_eq_false of_decide_eq_false
      unfold sixBits at hlow hgap ⊢
      rw [encodeUtf8_three (a := first) (b := b) (c := c) (by omega) (by omega) (by omega) (by omega)]
      exact ⟨encodes_utf8 (by omega), rfl⟩
    · cases h
  · split at h
    · next b c d tail =>
      split_ifs at h with hbytes
      obtain ⟨rfl, rfl⟩ := Prod.mk.inj (Option.some.inj h)
      simp only [Bool.and_eq_true, isContinuation_iff] at hbytes
      obtain ⟨⟨⟨⟨hb, hc⟩, hd⟩, hlow⟩, hhigh⟩ := hbytes
      have hlow : 0x10000 ≤ ((first.toNat % 8 * 64 + sixBits b) * 64 + sixBits c) * 64 + sixBits d :=
        of_decide_eq_true hlow
      unfold sixBits at hlow ⊢
      rw [encodeUtf8_four (a := first) (b := b) (c := c) (d := d) (by omega) (by omega) (by omega) (by omega)
        (by omega)]
      exact ⟨encodes_utf8 (by omega), rfl⟩
    · cases h

theorem character?_none {first : UInt8} {rest : List UInt8} (h : character? first rest = none) :
    128 ≤ first.toNat := by
  by_contra hlt
  have hascii : first < 0x80 := by
    rw [UInt8.lt_iff_toNat_lt]
    exact Nat.lt_of_not_le hlt
  unfold character? at h
  rw [if_pos hascii] at h
  cases h

/-- There are bytes for a code: it is a character that the encoding has, or it stands for a byte. -/
def Encodable (e : Encoding) (c : Code) : Prop := (e.encodeOne c).isSome = true

theorem encodeFrom_cons {position : Nat} {c : Code} {rest : List Code} {bytes tail : List UInt8}
    (hc : e.encodeOne c = some bytes) (hrest : encodeFrom e (position + 1) rest = .ok tail) :
    encodeFrom e position (c :: rest) = .ok (bytes ++ tail) := by
  simp only [encodeFrom, hc, hrest]
  rfl

theorem encodeFrom_ok (position : Nat) {text : List Code} :
    (∃ bytes, encodeFrom e position text = .ok bytes) ↔ ∀ c ∈ text, e.Encodable c := by
  induction text generalizing position with
  | nil => simp [encodeFrom]
  | cons c rest ih =>
    rw [List.forall_mem_cons, ← ih (position + 1), Encodable]
    cases hc : e.encodeOne c with
    | none => simp [encodeFrom, hc]
    | some bytes =>
      constructor
      · intro h
        obtain ⟨all, hall⟩ := h
        simp only [encodeFrom, hc] at hall
        obtain ⟨tail, htail, -⟩ := Results.bind_ok.mp hall
        exact ⟨rfl, tail, htail⟩
      · intro h
        obtain ⟨-, tail, htail⟩ := h
        exact ⟨bytes ++ tail, encodeFrom_cons hc htail⟩

theorem encode_ok {text : List Code} : (∃ bytes, e.encode text = .ok bytes) ↔ ∀ c ∈ text, e.Encodable c := by
  rw [← encodeFrom_ok 0, encode]
  cases encodeFrom e 0 text <;> simp [bind, Except.bind, pure, Except.pure]

theorem encode_error {text : List Code} :
    (∃ error, e.encode text = .error error) ↔ ∃ c ∈ text, ¬e.Encodable c := by
  cases hencode : e.encode text with
  | ok bytes => simpa using encode_ok.mp ⟨bytes, hencode⟩
  | error error =>
    have hno : ¬∀ c ∈ text, e.Encodable c := by
      rw [← encode_ok, hencode]
      simp
    simpa using hno

theorem encodable_of_mem_codes {s : String} {c : Code} (h : c ∈ codes s) : utf8.Encodable c := by
  obtain ⟨character, -, rfl⟩ := List.mem_map.mp h
  have hrange : character.toNat < 0xD800 ∨ 0xDFFF < character.toNat :=
    character.valid.imp id (·.1)
  rw [Encodable, encodeOne, if_pos (encodes_utf8 hrange)]
  rfl

theorem encodeFrom_decodeUtf8From (position skip : Nat) (data : List UInt8) :
    encodeFrom utf8 position (decodeUtf8From skip data) = .ok (data.drop skip) := by
  induction data generalizing position skip with
  | nil =>
    rw [List.drop_nil]
    cases skip <;> rfl
  | cons b rest ih =>
    cases skip with
    | succ skip => exact ih position skip
    | zero =>
      rw [decodeUtf8From, List.drop_zero]
      cases hcharacter : character? b rest with
      | none =>
        exact encodeFrom_cons (encodeOne_escapeByte (character?_none hcharacter)) (ih (position + 1) 0)
      | some decoded =>
        obtain ⟨code, more⟩ := decoded
        obtain ⟨hencodes, hbytes⟩ := character?_some hcharacter
        have hcode : utf8.encodeOne code = some (encodeUtf8 code) := by rw [encodeOne, if_pos hencodes]
        rw [← hbytes]
        exact encodeFrom_cons hcode (ih (position + 1) more)

/-- Bytes that are read as text and written again are the same bytes. -/
theorem encode_decode_utf8 (data : List UInt8) : utf8.encode (utf8.decode data) = .ok data := by
  have hbytes : encodeFrom utf8 0 (utf8.decode data) = .ok data := encodeFrom_decodeUtf8From 0 0 data
  rw [encode, hbytes]
  rfl

theorem encodable_of_mem_decodeUtf8 {data : List UInt8} {c : Code} (h : c ∈ decodeUtf8 data) :
    utf8.Encodable c :=
  encode_ok.mp ⟨data, encode_decode_utf8 data⟩ c h

/-- All that is read can be written again. -/
theorem encodable_of_mem_decode {data : List UInt8} {c : Code} (h : c ∈ e.decode data) : e.Encodable c := by
  cases e with
  | utf8 => exact encodable_of_mem_decodeUtf8 h
  | utf8Signature =>
    unfold decode at h
    split_ifs at h
    · cases h
    · exact encodable_of_mem_decodeUtf8 h
    · exact encodable_of_mem_decodeUtf8 h
  | latin1 =>
    obtain ⟨b, -, rfl⟩ := List.mem_map.mp h
    rw [Encodable, encodeOne_latin1]
    rfl
  | ascii =>
    obtain ⟨b, -, rfl⟩ := List.mem_map.mp h
    rw [Encodable, encodeOne_ascii]
    rfl

/-- The bytes of a text, without a signature. -/
def bytes (e : Encoding) (text : List Code) : List UInt8 := text.flatMap fun c => (e.encodeOne c).getD []

@[simp] theorem bytes_append (text text' : List Code) : e.bytes (text ++ text') = e.bytes text ++ e.bytes text' :=
  List.flatMap_append

/-- The bytes of a stretch do not depend on what comes before it. -/
theorem encodeFrom_eq_bytes (position : Nat) {text : List Code} (h : ∀ c ∈ text, e.Encodable c) :
    encodeFrom e position text = .ok (e.bytes text) := by
  induction text generalizing position with
  | nil => rfl
  | cons c rest ih =>
    rw [List.forall_mem_cons] at h
    obtain ⟨here, hhere⟩ := Option.isSome_iff_exists.mp h.1
    have hbytes : e.bytes (c :: rest) = here ++ e.bytes rest := by
      rw [bytes, List.flatMap_cons, hhere]
      rfl
    rw [hbytes]
    exact encodeFrom_cons hhere (ih (position + 1) h.2)

theorem encode_eq_bytes (he : e ≠ utf8Signature) {text : List Code} (h : ∀ c ∈ text, e.Encodable c) :
    e.encode text = .ok (e.bytes text) := by
  rw [encode, encodeFrom_eq_bytes 0 h]
  simp [he, bind, Except.bind, pure, Except.pure]

/-- All bytes that are read are kept, whether they are text or not. -/
theorem bytes_decode (he : e ≠ utf8Signature) (data : List UInt8) : e.bytes (e.decode data) = data := by
  cases e with
  | utf8 =>
    have hread : ∀ c ∈ utf8.decode data, utf8.Encodable c := fun c hc => encodable_of_mem_decode hc
    have hbytes := encode_eq_bytes he hread
    rw [encode_decode_utf8] at hbytes
    exact (Except.ok.inj hbytes).symm
  | utf8Signature => exact absurd rfl he
  | latin1 =>
    rw [bytes, decode, List.flatMap_map]
    simp only [encodeOne_latin1, Option.getD_some]
    exact List.flatMap_singleton' data
  | ascii =>
    rw [bytes, decode, List.flatMap_map]
    simp only [encodeOne_ascii, Option.getD_some]
    exact List.flatMap_singleton' data

theorem encode_decode (he : e ≠ utf8Signature) (data : List UInt8) : e.encode (e.decode data) = .ok data := by
  rw [encode_eq_bytes he fun c hc => encodable_of_mem_decode hc, bytes_decode he]

theorem codec_encode_ok {text : List Code} {bytes : List UInt8} :
    e.codec.encode text = .ok bytes ↔ e.encode text = .ok bytes :=
  Results.mapError_ok

theorem codec_encode_error {text : List Code} {error : CodecError} :
    e.codec.encode text = .error error ↔ ∃ refused, e.encode text = .error refused ∧ .unencodable refused = error :=
  Results.mapError_error

end TemplateSwap.Text.Encoding
