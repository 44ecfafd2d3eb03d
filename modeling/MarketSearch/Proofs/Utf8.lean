/-
UTF-8 as a theory: bytes are read as a text exactly when they are the text's
own form (`Utf8.decode?_eq_some_iff`), so that overlong forms, surrogates and
loose bytes belong to no text.

Everything is decided character by character: the first byte says how many
follow and which second byte is in range, and within that range the bits
determine the bytes.
-/
import MarketSearch.Text.Utf8

namespace MarketSearch
namespace Utf8

variable {bits low high more : Nat} {b : UInt8} {bs rest : Bytes} {c : Char}

/-! ## One character -/

theorem readTail_zero_eq_some_iff : readTail bits low high 0 bs = (.some c, rest) ↔
    ∃ b, bs = b :: rest ∧ low ≤ b.toNat ∧ b.toNat ≤ high ∧
      c = Char.ofNat (bits * 64 + b.toNat % 64) := by
  cases bs <;> grind [readTail]

theorem readTail_succ_eq_some_iff : readTail bits low high (more + 1) bs = (.some c, rest) ↔
    ∃ b bs', bs = b :: bs' ∧ low ≤ b.toNat ∧ b.toNat ≤ high ∧
      readTail (bits * 64 + b.toNat % 64) 0x80 0xBF more bs' = (.some c, rest) := by
  cases bs <;> grind [readTail]

theorem toNat_ofNat_of_isValidChar {n : Nat} (h : n.isValidChar) : (Char.ofNat n).toNat = n := by
  rw [Char.ofNat, dif_pos h]
  rfl

theorem ofNat_eq_of_toNat {n : Nat} (h : b.toNat = n) : UInt8.ofNat n = b := by
  rw [← h, UInt8.ofNat_toNat]

theorem tailByte_eq {n : Nat} (hlow : 0x80 ≤ b.toNat) (hhigh : b.toNat ≤ 0xBF)
    (h : n % 64 = b.toNat % 64) : tailByte n = b :=
  ofNat_eq_of_toNat (by omega)

section Forms

variable {x y z : UInt8}

theorem encodeChar_one (hb : b.toNat < 0x80) : encodeChar (Char.ofNat b.toNat) = [b] := by
  unfold encodeChar
  rw [toNat_ofNat_of_isValidChar (.inl (by omega)), if_pos hb, UInt8.ofNat_toNat]

theorem encodeChar_two (hb : b.toNat = 0xC0 + bits) (hbits : 2 ≤ bits ∧ bits < 32)
    (hx : 0x80 ≤ x.toNat ∧ x.toNat ≤ 0xBF) :
    encodeChar (Char.ofNat (bits * 64 + x.toNat % 64)) = [b, x] := by
  generalize hn : bits * 64 + x.toNat % 64 = n
  unfold encodeChar
  rw [toNat_ofNat_of_isValidChar (.inl (by omega)), if_neg (by omega), if_pos (by omega),
    ofNat_eq_of_toNat (b := b) (by omega), tailByte_eq hx.1 hx.2 (by omega)]

theorem encodeChar_three (hb : b.toNat = 0xE0 + bits) (hbits : bits < 16)
    (hx : 0x80 ≤ x.toNat ∧ x.toNat ≤ 0xBF) (hy : 0x80 ≤ y.toNat ∧ y.toNat ≤ 0xBF)
    (hlow : bits = 0 → 0xA0 ≤ x.toNat) (hhigh : bits = 0xD → x.toNat ≤ 0x9F) :
    encodeChar (Char.ofNat ((bits * 64 + x.toNat % 64) * 64 + y.toNat % 64)) = [b, x, y] := by
  generalize hn : (bits * 64 + x.toNat % 64) * 64 + y.toNat % 64 = n
  have hvalid : n.isValidChar := by
    by_cases h : bits ≤ 0xD
    · exact .inl (by omega)
    · exact .inr (by omega)
  unfold encodeChar
  rw [toNat_ofNat_of_isValidChar hvalid, if_neg (by omega), if_neg (by omega), if_pos (by omega),
    ofNat_eq_of_toNat (b := b) (by omega), tailByte_eq hx.1 hx.2 (by omega),
    tailByte_eq hy.1 hy.2 (by omega)]

theorem encodeChar_four (hb : b.toNat = 0xF0 + bits) (hbits : bits < 5)
    (hx : 0x80 ≤ x.toNat ∧ x.toNat ≤ 0xBF) (hy : 0x80 ≤ y.toNat ∧ y.toNat ≤ 0xBF)
    (hz : 0x80 ≤ z.toNat ∧ z.toNat ≤ 0xBF)
    (hlow : bits = 0 → 0x90 ≤ x.toNat) (hhigh : bits = 4 → x.toNat ≤ 0x8F) :
    encodeChar (Char.ofNat (((bits * 64 + x.toNat % 64) * 64 + y.toNat % 64) * 64 + z.toNat % 64)) =
      [b, x, y, z] := by
  generalize hn : ((bits * 64 + x.toNat % 64) * 64 + y.toNat % 64) * 64 + z.toNat % 64 = n
  unfold encodeChar
  rw [toNat_ofNat_of_isValidChar (.inr (by omega)), if_neg (by omega), if_neg (by omega),
    if_neg (by omega), ofNat_eq_of_toNat (b := b) (by omega), tailByte_eq hx.1 hx.2 (by omega),
    tailByte_eq hy.1 hy.2 (by omega), tailByte_eq hz.1 hz.2 (by omega)]

end Forms

/-- What a first byte says: how many bytes follow, and which second byte keeps the form from
being overlong, a surrogate or too large. -/
theorem lead?_eq_some_iff {n : Nat} : lead? n = .some ⟨bits, low, high, more⟩ ↔
    (more = 0 ∧ n = 0xC0 + bits ∧ 2 ≤ bits ∧ bits < 32 ∧ low = 0x80 ∧ high = 0xBF) ∨
    (more = 1 ∧ n = 0xE0 + bits ∧ bits < 16 ∧ low = (if bits = 0 then 0xA0 else 0x80) ∧
      high = if bits = 0xD then 0x9F else 0xBF) ∨
    (more = 2 ∧ n = 0xF0 + bits ∧ bits < 5 ∧ low = (if bits = 0 then 0x90 else 0x80) ∧
      high = if bits = 4 then 0x8F else 0xBF) := by
  unfold lead?
  constructor
  · intro h
    repeat' split at h
    all_goals simp only [Option.some.injEq, Lead.mk.injEq, reduceCtorEq] at h
    all_goals obtain ⟨rfl, rfl, rfl, rfl⟩ := h
    all_goals grind
  · rintro (⟨rfl, rfl, h⟩ | ⟨rfl, rfl, h⟩ | ⟨rfl, rfl, h⟩)
    · grind
    · grind
    · grind

/-- What is read as a character is its own form. -/
theorem eq_encodeChar_of_readChar (h : readChar b bs = (.some c, rest)) :
    b :: bs = encodeChar c ++ rest := by
  unfold readChar at h
  split at h
  · next hb =>
    cases h
    rw [encodeChar_one hb]
    rfl
  · split at h
    · next l hl =>
      obtain ⟨bits, low, high, more⟩ := l
      rcases lead?_eq_some_iff.mp hl with ⟨rfl, hb, hmin, hmax, rfl, rfl⟩ | ⟨rfl, hb, hmax, hlow, hhigh⟩ |
        ⟨rfl, hb, hmax, hlow, hhigh⟩
      · obtain ⟨x, rfl, hx, hx', rfl⟩ := readTail_zero_eq_some_iff.mp h
        rw [encodeChar_two hb ⟨hmin, hmax⟩ ⟨hx, hx'⟩]
        rfl
      · obtain ⟨x, _, rfl, hx, hx', h⟩ := readTail_succ_eq_some_iff.mp h
        obtain ⟨y, rfl, hy, hy', rfl⟩ := readTail_zero_eq_some_iff.mp h
        rw [encodeChar_three hb hmax (by grind) ⟨hy, hy'⟩ (by grind) (by grind)]
        rfl
      · obtain ⟨x, _, rfl, hx, hx', h⟩ := readTail_succ_eq_some_iff.mp h
        obtain ⟨y, _, rfl, hy, hy', h⟩ := readTail_succ_eq_some_iff.mp h
        obtain ⟨z, rfl, hz, hz', rfl⟩ := readTail_zero_eq_some_iff.mp h
        rw [encodeChar_four hb hmax (by grind) ⟨hy, hy'⟩ ⟨hz, hz'⟩ (by grind) (by grind)]
        rfl
    · cases h

theorem readChar_of_lead (h : lead? b.toNat = .some ⟨bits, low, high, more⟩) (bs : Bytes) :
    readChar b bs = readTail bits low high more bs := by
  have hb : ¬ b.toNat < 0x80 := by
    have := lead?_eq_some_iff.mp h
    omega
  simp only [readChar, if_neg hb, h]

theorem toNat_ofNat {n : Nat} (h : n < 256) : (UInt8.ofNat n).toNat = n := UInt8.toNat_ofNat_of_lt' h

theorem toNat_tailByte (n : Nat) : (tailByte n).toNat = 0x80 + n % 64 := toNat_ofNat (by omega)

/-- A character is read back from its form, whatever follows. -/
theorem readChar_of_encodeChar (h : b :: bs = encodeChar c ++ rest) :
    readChar b bs = (.some c, rest) := by
  have hvalid : c.toNat.isValidChar := c.valid
  generalize hn : c.toNat = n at hvalid
  obtain rfl : c = Char.ofNat n := by rw [← hn, Char.ofNat_toNat]
  simp only [encodeChar, hn] at h
  by_cases hone : n < 0x80
  · rw [if_pos hone] at h
    cases h
    rw [readChar, toNat_ofNat (by omega), if_pos hone]
    rfl
  rw [if_neg hone] at h
  by_cases htwo : n < 0x800
  · rw [if_pos htwo] at h
    cases h
    rw [readChar_of_lead (lead?_eq_some_iff.mpr
      (.inl ⟨rfl, toNat_ofNat (by omega), by omega, by omega, rfl, rfl⟩))]
    refine readTail_zero_eq_some_iff.mpr ⟨_, rfl, ?_⟩
    rw [toNat_tailByte]
    exact ⟨by omega, by omega, congrArg _ (by omega)⟩
  rw [if_neg htwo] at h
  by_cases hthree : n < 0x10000
  · rw [if_pos hthree] at h
    cases h
    rw [readChar_of_lead (lead?_eq_some_iff.mpr
      (.inr (.inl ⟨rfl, toNat_ofNat (by omega), by omega, rfl, rfl⟩)))]
    simp only [readTail_succ_eq_some_iff, readTail_zero_eq_some_iff]
    refine ⟨_, _, rfl, ?_, ?_, _, rfl, ?_⟩
    all_goals simp only [toNat_tailByte]
    · split <;> omega
    · unfold Nat.isValidChar at hvalid
      split <;> omega
    · exact ⟨by omega, by omega, congrArg _ (by omega)⟩
  · rw [if_neg hthree] at h
    cases h
    rw [readChar_of_lead (lead?_eq_some_iff.mpr
      (.inr (.inr ⟨rfl, toNat_ofNat (by omega), by omega, rfl, rfl⟩)))]
    simp only [readTail_succ_eq_some_iff, readTail_zero_eq_some_iff]
    refine ⟨_, _, rfl, ?_, ?_, _, _, rfl, ?_, ?_, _, rfl, ?_⟩
    all_goals simp only [toNat_tailByte]
    · split <;> omega
    · split <;> omega
    · omega
    · omega
    · exact ⟨by omega, by omega, congrArg _ (by omega)⟩

theorem readChar_eq_some_iff : readChar b bs = (.some c, rest) ↔ b :: bs = encodeChar c ++ rest :=
  ⟨eq_encodeChar_of_readChar, readChar_of_encodeChar⟩

/-! ## Texts -/

theorem decode?_nil : decode? [] = .some [] := by simp [decode?, pieces]

theorem decode?_cons_eq_some_iff {cs : List Char} : decode? (b :: bs) = .some (c :: cs) ↔
    ∃ rest, readChar b bs = (.some c, rest) ∧ decode? rest = .some cs := by
  unfold decode?
  rw [pieces]
  obtain ⟨c?, rest⟩ := readChar b bs
  cases c? <;> simp [Option.bind_eq_some_iff, and_assoc, and_comm]

theorem decode?_cons_ne_nil : decode? (b :: bs) ≠ .some [] := by
  unfold decode?
  rw [pieces]
  cases (readChar b bs).1 <;> simp [Option.bind_eq_some_iff]

theorem encodeChar_ne_nil : encodeChar c ≠ [] := by
  simp only [encodeChar]
  repeat' split
  all_goals exact List.cons_ne_nil _ _

/-- **Bytes are read as a text exactly when they are its form.** -/
theorem decode?_eq_some_iff {cs : List Char} : decode? bs = .some cs ↔ bs = encode cs := by
  induction cs generalizing bs with
  | nil =>
    cases bs with
    | nil => simp [decode?_nil, encode]
    | cons b bs => simp [decode?_cons_ne_nil, encode]
  | cons c cs ih =>
    rw [show encode (c :: cs) = encodeChar c ++ encode cs from List.flatMap_cons]
    cases bs with
    | nil => simp [decode?_nil, encodeChar_ne_nil]
    | cons b bs => simp [decode?_cons_eq_some_iff, readChar_eq_some_iff, ih]

theorem encode_inj {cs ds : List Char} : encode cs = encode ds ↔ cs = ds := by
  refine ⟨fun h => ?_, congrArg encode⟩
  have hds := decode?_eq_some_iff.mpr h
  rw [decode?_eq_some_iff.mpr rfl, Option.some.injEq] at hds
  exact hds

theorem pieces_encode (cs : List Char) : pieces (encode cs) = cs.map .some := by
  have h := decode?_eq_some_iff.mpr (Eq.refl (encode cs))
  unfold decode? at h
  generalize pieces (encode cs) = ps at h
  induction ps generalizing cs with
  | nil => simp_all
  | cons p ps ih =>
    simp only [List.mapM_cons, id_eq, Option.bind_eq_bind, Option.bind_eq_some_iff, Option.pure_def,
      Option.some.injEq] at h
    obtain ⟨_, rfl, as, has, rfl⟩ := h
    rw [ih as has, List.map_cons]

/-- A reader that puts up with anything reads the form of a text as the text, too. -/
theorem decodeLossy_encode (cs : List Char) : decodeLossy (encode cs) = cs := by
  rw [decodeLossy, pieces_encode, List.map_map]
  exact List.map_id cs

/-- Small bytes are characters of their own. -/
theorem encode_map_ofNat (h : ∀ b ∈ bs, b.toNat < 0x80) :
    encode (bs.map fun b => Char.ofNat b.toNat) = bs := by
  induction bs with
  | nil => rfl
  | cons b bs ih =>
    simp only [List.mem_cons, forall_eq_or_imp] at h
    simp only [encode, List.map_cons, List.flatMap_cons, encodeChar_one h.1, List.singleton_append]
    exact congrArg _ (ih h.2)

end Utf8
end MarketSearch
