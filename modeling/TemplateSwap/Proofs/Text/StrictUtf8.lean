import TemplateSwap.Proofs.Text.Encoding
import TemplateSwap.Text.StrictUtf8

namespace TemplateSwap.Text

namespace Encoding

theorem character?_one {a : UInt8} (ha : a.toNat < 0x80) (rest : List UInt8) :
    character? a rest = some (a.toNat, 0) := by
  unfold character?
  simp only [UInt8.lt_iff_toNat_lt, UInt8.reduceToNat]
  exact if_pos ha

theorem character?_two {a b : UInt8} (ha : 0xC2 ≤ a.toNat ∧ a.toNat ≤ 0xDF) (hb : isContinuation b = true)
    (rest : List UInt8) : character? a (b :: rest) = some (a.toNat % 32 * 64 + sixBits b, 1) := by
  have h1 : ¬ a.toNat < 0x80 := by omega
  unfold character?
  simp only [UInt8.le_iff_toNat_le, UInt8.lt_iff_toNat_lt, UInt8.reduceToNat]
  rw [if_neg h1, if_pos ha, if_pos hb]

theorem character?_three {a b c : UInt8} (ha : 0xE0 ≤ a.toNat ∧ a.toNat ≤ 0xEF) (hb : isContinuation b = true)
    (hc : isContinuation c = true) {n : Nat} (hn : (a.toNat % 16 * 64 + sixBits b) * 64 + sixBits c = n)
    (hlow : 0x800 ≤ n) (hgap : n < 0xD800 ∨ 0xDFFF < n) (rest : List UInt8) :
    character? a (b :: c :: rest) = some (n, 2) := by
  have h1 : ¬ a.toNat < 0x80 := by omega
  have h2 : ¬(0xC2 ≤ a.toNat ∧ a.toNat ≤ 0xDF) := by omega
  have hno : (decide (0xD800 ≤ n) && decide (n ≤ 0xDFFF)) = false := by
    rw [Bool.and_eq_false_iff, decide_eq_false_iff_not, decide_eq_false_iff_not]
    omega
  unfold character?
  simp only [UInt8.le_iff_toNat_le, UInt8.lt_iff_toNat_lt, UInt8.reduceToNat]
  rw [if_neg h1, if_neg h2, if_pos ha]
  rw [hn, hb, hc, hno, decide_eq_true hlow]
  rfl

theorem character?_four {a b c d : UInt8} (ha : 0xF0 ≤ a.toNat ∧ a.toNat ≤ 0xF4) (hb : isContinuation b = true)
    (hc : isContinuation c = true) (hd : isContinuation d = true) {n : Nat}
    (hn : ((a.toNat % 8 * 64 + sixBits b) * 64 + sixBits c) * 64 + sixBits d = n)
    (hlow : 0x10000 ≤ n) (hhigh : n ≤ 0x10FFFF) (rest : List UInt8) :
    character? a (b :: c :: d :: rest) = some (n, 3) := by
  have h1 : ¬ a.toNat < 0x80 := by omega
  have h2 : ¬(0xC2 ≤ a.toNat ∧ a.toNat ≤ 0xDF) := by omega
  have h3 : ¬(0xE0 ≤ a.toNat ∧ a.toNat ≤ 0xEF) := by omega
  unfold character?
  simp only [UInt8.le_iff_toNat_le, UInt8.lt_iff_toNat_lt, UInt8.reduceToNat]
  rw [if_neg h1, if_neg h2, if_neg h3, if_pos ha]
  rw [hn, hb, hc, hd, decide_eq_true hlow, decide_eq_true hhigh]
  rfl

theorem toNat_byte {n : Nat} (h : n < 256) : (byte n).toNat = n := by
  rw [byte, UInt8.toNat_ofNat', Nat.mod_eq_of_lt h]

theorem isContinuation_byte {n : Nat} (h : n < 64) : isContinuation (byte (0x80 + n)) = true := by
  rw [isContinuation_iff, toNat_byte (by omega)]
  omega

theorem sixBits_byte {n : Nat} (h : n < 64) : sixBits (byte (0x80 + n)) = n := by
  rw [sixBits, toNat_byte (by omega)]
  omega

/-- The bytes of a character begin that character, whatever comes after them. -/
theorem character?_encodeUtf8 {n : Nat} (h : n < 0xD800 ∨ 0xDFFF < n ∧ n ≤ 0x10FFFF) :
    ∃ first more, encodeUtf8 n = first :: more ∧
      ∀ rest, character? first (more ++ rest) = some (n, more.length) := by
  by_cases h1 : n < 0x80
  · have hfirst : (byte n).toNat = n := toNat_byte (by omega)
    refine ⟨byte n, [], encodeUtf8_one h1 hfirst.symm, fun rest => ?_⟩
    rw [List.nil_append, character?_one (by omega), hfirst, List.length_nil]
  by_cases h2 : n < 0x800
  · have hfirst : (byte (0xC0 + n / 64)).toNat = 0xC0 + n / 64 := toNat_byte (by omega)
    have hlow : n % 64 < 64 := Nat.mod_lt n (by omega)
    refine ⟨byte (0xC0 + n / 64), [byte (0x80 + n % 64)],
      encodeUtf8_two (by omega) hfirst.symm (toNat_byte (by omega)).symm, fun rest => ?_⟩
    rw [List.singleton_append, character?_two (by omega) (isContinuation_byte hlow), hfirst, sixBits_byte hlow]
    have hn : (0xC0 + n / 64) % 32 * 64 + n % 64 = n := by omega
    rw [hn, List.length_singleton]
  by_cases h3 : n < 0x10000
  · have hfirst : (byte (0xE0 + n / 4096)).toNat = 0xE0 + n / 4096 := toNat_byte (by omega)
    have hlow : n % 64 < 64 := Nat.mod_lt n (by omega)
    have hmiddle : n / 64 % 64 < 64 := Nat.mod_lt _ (by omega)
    refine ⟨byte (0xE0 + n / 4096), [byte (0x80 + n / 64 % 64), byte (0x80 + n % 64)],
      encodeUtf8_three (by omega) hfirst.symm (toNat_byte (by omega)).symm (toNat_byte (by omega)).symm,
      fun rest => ?_⟩
    refine character?_three (by omega) (isContinuation_byte hmiddle) (isContinuation_byte hlow) ?_ (by omega)
      (by omega) rest
    rw [hfirst, sixBits_byte hmiddle, sixBits_byte hlow]
    omega
  · have hfirst : (byte (0xF0 + n / 262144)).toNat = 0xF0 + n / 262144 := toNat_byte (by omega)
    have hlow : n % 64 < 64 := Nat.mod_lt n (by omega)
    have hmiddle : n / 64 % 64 < 64 := Nat.mod_lt _ (by omega)
    have hhigh : n / 4096 % 64 < 64 := Nat.mod_lt _ (by omega)
    refine ⟨byte (0xF0 + n / 262144),
      [byte (0x80 + n / 4096 % 64), byte (0x80 + n / 64 % 64), byte (0x80 + n % 64)],
      encodeUtf8_four (by omega) hfirst.symm (toNat_byte (by omega)).symm (toNat_byte (by omega)).symm
        (toNat_byte (by omega)).symm, fun rest => ?_⟩
    refine character?_four (by omega) (isContinuation_byte hhigh) (isContinuation_byte hmiddle)
      (isContinuation_byte hlow) ?_ (by omega) (by omega) rest
    rw [hfirst, sixBits_byte hhigh, sixBits_byte hmiddle, sixBits_byte hlow]
    omega

/-- What begins with some bytes is a code point. -/
theorem character?_le {first : UInt8} {rest : List UInt8} {code more : Nat}
    (h : character? first rest = some (code, more)) : code ≤ 0x10FFFF := by
  have hsix (b : UInt8) : sixBits b < 64 := Nat.mod_lt _ (by omega)
  have hfirst := first.toNat_lt
  unfold character? at h
  dsimp only at h
  split_ifs at h
  · obtain ⟨rfl, -⟩ := Prod.mk.inj (Option.some.inj h)
    omega
  · split at h
    · next b tail =>
      split_ifs at h
      obtain ⟨rfl, -⟩ := Prod.mk.inj (Option.some.inj h)
      have hb := hsix b
      omega
    · cases h
  · split at h
    · next b c tail =>
      split_ifs at h
      obtain ⟨rfl, -⟩ := Prod.mk.inj (Option.some.inj h)
      have hb := hsix b
      have hc := hsix c
      omega
    · cases h
  · split at h
    · next b c d tail =>
      split_ifs at h with hbytes
      obtain ⟨rfl, -⟩ := Prod.mk.inj (Option.some.inj h)
      simp only [Bool.and_eq_true] at hbytes
      exact of_decide_eq_true hbytes.2
    · cases h

theorem exists_char {n : Nat} (h : utf8.encodes n = true) (hle : n ≤ 0x10FFFF) : ∃ c : Char, c.toNat = n := by
  have hgap : n < 0xD800 ∨ 0xDFFF < n := by simpa [encodes] using h
  have hvalid : n.isValidChar := hgap.imp id fun h => ⟨h, Nat.lt_succ_of_le hle⟩
  refine ⟨Char.ofNat n, ?_⟩
  rw [Char.ofNat, dif_pos hvalid]
  rfl

theorem scalar_of_char (c : Char) : c.toNat < 0xD800 ∨ 0xDFFF < c.toNat ∧ c.toNat ≤ 0x10FFFF := by
  rcases c.valid with h | ⟨h, h'⟩
  · exact .inl h
  · exact .inr ⟨h, Nat.le_of_lt_succ h'⟩

end Encoding

namespace StrictUtf8

open Encoding (utf8 character? encodeUtf8)

theorem readFrom_skip (position : Nat) (more rest : List UInt8) :
    readFrom position more.length (more ++ rest) = readFrom (position + more.length) 0 rest := by
  induction more generalizing position with
  | nil => rfl
  | cons b more ih =>
    have hnext : position + 1 + more.length = position + (b :: more).length := by
      rw [List.length_cons]
      omega
    rw [← hnext, ← ih]
    rfl

theorem bytes_cons (c : Char) (cs : List Code) : utf8.bytes (c.toNat :: cs) = encodeUtf8 c.toNat ++ utf8.bytes cs := by
  have hencodes : utf8.encodes c.toNat = true :=
    Encoding.encodes_utf8 ((Encoding.scalar_of_char c).imp id And.left)
  rw [Encoding.bytes, List.flatMap_cons, Encoding.encodeOne, if_pos hencodes]
  rfl

theorem readFrom_bytes (position : Nat) (cs : List Char) :
    readFrom position 0 (utf8.bytes (cs.map Char.toNat)) = .ok (cs.map Char.toNat) := by
  induction cs generalizing position with
  | nil => rfl
  | cons c cs ih =>
    obtain ⟨first, more, hbytes, hcharacter⟩ := Encoding.character?_encodeUtf8 (Encoding.scalar_of_char c)
    rw [List.map_cons, bytes_cons, hbytes, List.cons_append, readFrom, hcharacter]
    dsimp only
    rw [readFrom_skip, ih]
    rfl

theorem bytes_of_readFrom {position skip : Nat} {data : List UInt8} {cs : List Code}
    (h : readFrom position skip data = .ok cs) :
    ∃ s : String, codes s = cs ∧ utf8.bytes cs = data.drop skip := by
  induction data generalizing position skip cs with
  | nil =>
    have hnil : cs = [] := by
      cases skip <;> exact (Except.ok.inj h).symm
    subst hnil
    exact ⟨"", rfl, List.drop_nil.symm⟩
  | cons b rest ih =>
    cases skip with
    | succ skip => exact ih h
    | zero =>
      rw [readFrom] at h
      cases hcharacter : character? b rest with
      | none =>
        rw [hcharacter] at h
        cases h
      | some found =>
        obtain ⟨code, more⟩ := found
        rw [hcharacter] at h
        obtain ⟨tail, htail, hcs⟩ := Results.bind_ok.mp h
        obtain rfl := Results.pure_ok.mp hcs
        obtain ⟨s, rfl, hbytes⟩ := ih htail
        obtain ⟨hencodes, hdata⟩ := Encoding.character?_some hcharacter
        obtain ⟨c, rfl⟩ := Encoding.exists_char hencodes (Encoding.character?_le hcharacter)
        refine ⟨String.ofList (c :: s.toList), ?_, ?_⟩
        · simp [codes]
        · rw [bytes_cons, hbytes, hdata, List.drop_zero]

/-- Bytes are read as a text exactly if they are what that text is encoded to. -/
theorem read_ok {data : List UInt8} {cs : List Code} :
    read data = .ok cs ↔ ∃ s : String, codes s = cs ∧ utf8.encode (codes s) = .ok data := by
  have hencode (s : String) : utf8.encode (codes s) = .ok (utf8.bytes (codes s)) :=
    Encoding.encode_eq_bytes (by decide) fun c hc => Encoding.encodable_of_mem_codes hc
  constructor
  · intro h
    obtain ⟨s, rfl, hbytes⟩ := bytes_of_readFrom h
    refine ⟨s, rfl, ?_⟩
    rw [hencode, hbytes, List.drop_zero]
  · intro h
    obtain ⟨s, rfl, hdata⟩ := h
    rw [hencode] at hdata
    obtain rfl := Except.ok.inj hdata
    exact readFrom_bytes 0 s.toList

end StrictUtf8

end TemplateSwap.Text
