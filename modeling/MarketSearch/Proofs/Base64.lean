/-
Base64 as a theory: reading accepts what writing produces and nothing else
(`Base64.decode_eq_ok_iff`), so that bytes have one written form and foreign
symbols, padding and bits left over are all refused.

Four symbols stand for three bytes, and the last two to four symbols for the
last one to three.  Both functions are taken apart the same way: whole groups
in front, where no symbol but the values of one group matter, and the last
group, which alone can be short.
-/
import MarketSearch.Proofs.Except
import MarketSearch.Text.Base64

namespace MarketSearch
namespace Base64

/-! ## Symbols -/

theorem value?_symbol {v : Nat} (h : v < 64) : value? (symbol v) = .some v := by
  have hall : ∀ v < 64, value? (symbol v) = .some v := by decide
  exact hall v h

theorem toNat_symbol {v : Nat} (h : v < 64) :
    (symbol v).toNat =
      if v < 26 then 65 + v
      else if v < 52 then 71 + v
      else if v < 62 then v - 4
      else if v = 62 then 45
      else 95 := by
  rw [symbol, UInt8.toNat_ofNat_of_lt']
  have := h
  grind

theorem value?_eq_some_iff {b : UInt8} {v : Nat} : value? b = .some v ↔ v < 64 ∧ b = symbol v := by
  refine ⟨fun h => ?_, fun ⟨hv, hb⟩ => hb ▸ value?_symbol hv⟩
  have hv : v < 64 := by
    unfold value? at h
    grind
  refine ⟨hv, UInt8.toNat_inj.mp ?_⟩
  rw [toNat_symbol hv]
  unfold value? at h
  grind

theorem isPad_symbol {v : Nat} (h : v < 64) : isPad (symbol v) = false := by
  have hall : ∀ v < 64, isPad (symbol v) = false := by decide
  exact hall v h

theorem valueAt_eq_ok_iff {offset v : Nat} {b : UInt8} :
    valueAt offset b = .ok v ↔ v < 64 ∧ b = symbol v := by
  rw [← value?_eq_some_iff]
  unfold valueAt
  cases value? b <;> simp

theorem valueAt_symbol (offset : Nat) {v : Nat} (h : v < 64) : valueAt offset (symbol v) = .ok v :=
  valueAt_eq_ok_iff.mpr ⟨h, rfl⟩

/-! ## Whole groups -/

/-- The values of a group can be had back from its bytes. -/
theorem encode_group {a b c d : Nat} (ha : a < 64) (hb : b < 64) (hc : c < 64) (hd : d < 64)
    (rest : Bytes) :
    let n := ((a * 64 + b) * 64 + c) * 64 + d
    encode (UInt8.ofNat (n / 65536) :: UInt8.ofNat (n / 256 % 256) :: UInt8.ofNat (n % 256) :: rest) =
      symbol a :: symbol b :: symbol c :: symbol d :: encode rest := by
  intro n
  have hn : n = ((a * 64 + b) * 64 + c) * 64 + d := rfl
  simp only [encode]
  rw [UInt8.toNat_ofNat_of_lt' (by omega : n / 65536 < 256),
    UInt8.toNat_ofNat_of_lt' (by omega : n / 256 % 256 < 256),
    UInt8.toNat_ofNat_of_lt' (by omega : n % 256 < 256),
    show ((n / 65536) * 256 + n / 256 % 256) * 256 + n % 256 = n by omega,
    show n / 262144 = a by omega, show n / 4096 % 64 = b by omega, show n / 64 % 64 = c by omega,
    show n % 64 = d by omega]

theorem encode_append {front : Bytes} (back : Bytes) (h : front.length % 3 = 0) :
    encode (front ++ back) = encode front ++ encode back := by
  fun_induction encode front with
  | case1 a b c rest n ih =>
    simp only [List.length_cons] at h
    simp only [List.cons_append, encode, ih (by omega), n]
  | case2 => simp at h
  | case3 => simp at h
  | case4 => simp

theorem length_encode (bs : Bytes) : (encode bs).length = (4 * bs.length + 2) / 3 := by
  fun_induction encode bs with
  | case1 a b c rest n ih => simp only [List.length_cons, ih]; omega
  | case2 | case3 | case4 => simp

theorem eq_encode_of_decodeGroups {offset : Nat} {bs out : Bytes} (hlen : bs.length % 4 = 0)
    (h : decodeGroups offset bs = .ok out) : bs = encode out ∧ out.length % 3 = 0 := by
  fun_induction decodeGroups offset bs generalizing out with
  | case1 offset a b c d rest ih =>
    simp only [bind_eq_ok_iff, valueAt_eq_ok_iff] at h
    obtain ⟨_, ⟨ha, rfl⟩, _, ⟨hb, rfl⟩, _, ⟨hc, rfl⟩, _, ⟨hd, rfl⟩, back, hback, h⟩ := h
    cases h
    simp only [List.length_cons] at hlen ⊢
    obtain ⟨rfl, hmod⟩ := ih (by omega) hback
    exact ⟨(encode_group ha hb hc hd back).symm, by omega⟩
  | case2 bs offset hshort =>
    cases h
    match bs with
    | [] => exact ⟨rfl, rfl⟩
    | [_] | [_, _] | [_, _, _] => simp at hlen
    | a :: b :: c :: d :: rest => exact absurd rfl (hshort a b c d rest)

/-- The bytes of a group can be had back from its values. -/
theorem decodeGroups_group (offset : Nat) (a b c : UInt8) (rest : Bytes) :
    let n := (a.toNat * 256 + b.toNat) * 256 + c.toNat
    decodeGroups offset (symbol (n / 262144) :: symbol (n / 4096 % 64) :: symbol (n / 64 % 64) ::
        symbol (n % 64) :: rest) =
      (decodeGroups (offset + 4) rest).map fun bytes => a :: b :: c :: bytes := by
  intro n
  have ha := a.toNat_lt
  have hb := b.toNat_lt
  have hc := c.toNat_lt
  have hn : n = (a.toNat * 256 + b.toNat) * 256 + c.toNat := rfl
  have hback : ((n / 262144 * 64 + n / 4096 % 64) * 64 + n / 64 % 64) * 64 + n % 64 = n := by omega
  rw [decodeGroups, valueAt_symbol _ (by omega), valueAt_symbol _ (by omega),
    valueAt_symbol _ (by omega), valueAt_symbol _ (by omega)]
  simp only [bind, Except.bind, hback]
  rw [show n / 65536 = a.toNat by omega, show n / 256 % 256 = b.toNat by omega,
    show n % 256 = c.toNat by omega, UInt8.ofNat_toNat, UInt8.ofNat_toNat, UInt8.ofNat_toNat]
  cases decodeGroups (offset + 4) rest <;> rfl

theorem decodeGroups_encode : ∀ {offset : Nat} {out : Bytes}, out.length % 3 = 0 →
    decodeGroups offset (encode out) = .ok out
  | _, [], _ => rfl
  | _, [_], h | _, [_, _], h => by simp at h
  | offset, a :: b :: c :: rest, h => by
    simp only [List.length_cons] at h
    rw [encode, decodeGroups_group, decodeGroups_encode (by omega)]
    rfl

/-! ## The last group -/

/-- Without padding, the values read are those of the symbols. -/
theorem eq_symbols_of_readLast {offset i : Nat} {pad : Option Nat} {bs : Bytes} {vs : List Nat}
    (h : readLast offset i pad bs = .ok (vs, .none)) :
    bs = vs.map symbol ∧ (∀ v ∈ vs, v < 64) ∧ pad = .none := by
  induction bs generalizing i pad vs with
  | nil =>
    cases h
    simp
  | cons b bs ih =>
    unfold readLast at h
    split at h
    · split at h
      · cases h
      · have hpad := (ih h).2.2
        cases pad <;> simp at hpad
    · split at h
      · cases h
      · simp only [bind_eq_ok_iff, valueAt_eq_ok_iff] at h
        obtain ⟨v, ⟨hv, rfl⟩, ⟨rest, pad⟩, hrest, h⟩ := h
        cases h
        obtain ⟨rfl, hlt, -⟩ := ih hrest
        simpa [hv] using hlt

theorem readLast_symbols {offset i : Nat} {vs : List Nat} (h : ∀ v ∈ vs, v < 64) :
    readLast offset i .none (vs.map symbol) = .ok (vs, .none) := by
  induction vs generalizing i with
  | nil => rfl
  | cons v vs ih =>
    simp only [List.mem_cons, forall_eq_or_imp] at h
    simp only [List.map_cons, readLast, isPad_symbol h.1, valueAt_symbol _ h.1, ih h.2]
    rfl

theorem noBitsLeft_eq_ok_iff {left offset last : Nat} {bytes out : Bytes} :
    noBitsLeft left offset last bytes = .ok out ↔ left = 0 ∧ bytes = out := by
  unfold noBitsLeft
  split <;> simp [*]

theorem eq_encode_of_lastBytes {offset : Nat} {vs : List Nat} {out : Bytes} (hvs : ∀ v ∈ vs, v < 64)
    (h : lastBytes offset vs = .ok out) : vs.map symbol = encode out := by
  unfold lastBytes at h
  split at h
  · next a b =>
    simp only [List.mem_cons, List.not_mem_nil, or_false, forall_eq_or_imp, forall_eq] at hvs
    obtain ⟨hleft, rfl⟩ := noBitsLeft_eq_ok_iff.mp h
    simp only [encode, List.map_cons, List.map_nil]
    rw [UInt8.toNat_ofNat_of_lt' (by omega : a * 4 + b / 16 < 256),
      show (a * 4 + b / 16) * 16 / 64 = a by omega, show (a * 4 + b / 16) * 16 % 64 = b by omega]
  · next a b c =>
    simp only [List.mem_cons, List.not_mem_nil, or_false, forall_eq_or_imp, forall_eq] at hvs
    obtain ⟨hleft, rfl⟩ := noBitsLeft_eq_ok_iff.mp h
    simp only [encode, List.map_cons, List.map_nil]
    rw [UInt8.toNat_ofNat_of_lt' (by omega : a * 4 + b / 16 < 256),
      UInt8.toNat_ofNat_of_lt' (by omega : b % 16 * 16 + c / 4 < 256)]
    generalize hn : ((a * 4 + b / 16) * 256 + (b % 16 * 16 + c / 4)) * 4 = n
    rw [show n / 4096 = a by omega, show n / 64 % 64 = b by omega, show n % 64 = c by omega]
  · next a b c d =>
    simp only [List.mem_cons, List.not_mem_nil, or_false, forall_eq_or_imp, forall_eq] at hvs
    cases h
    have hgroup := encode_group hvs.1 hvs.2.1 hvs.2.2.1 hvs.2.2.2 []
    simp only at hgroup
    generalize hn : ((a * 64 + b) * 64 + c) * 64 + d = n at hgroup
    rw [show a * 4 + b / 16 = n / 65536 by omega, show b % 16 * 16 + c / 4 = n / 256 % 256 by omega,
      show c % 4 * 64 + d = n % 256 by omega, hgroup]
    rfl
  · cases h

theorem eq_encode_of_decodeLast {offset : Nat} {bs out : Bytes} (h : decodeLast offset bs = .ok out) :
    bs = encode out := by
  simp only [decodeLast, bind_eq_ok_iff] at h
  obtain ⟨⟨vs, pad⟩, hread, h⟩ := h
  split at h
  · cases h
  · split at h
    · cases h
    · next hpad =>
      obtain rfl : pad = .none := by simpa using hpad
      obtain ⟨rfl, hvs, -⟩ := eq_symbols_of_readLast hread
      exact eq_encode_of_lastBytes hvs h

theorem decodeLast_symbols (offset : Nat) {vs : List Nat} (h : ∀ v ∈ vs, v < 64) (hlen : 2 ≤ vs.length) :
    decodeLast offset (vs.map symbol) = lastBytes offset vs := by
  rw [decodeLast, readLast_symbols h]
  exact if_neg (by omega)

theorem decodeLast_encode (offset : Nat) {out : Bytes} (h : 1 ≤ out.length ∧ out.length ≤ 3) :
    decodeLast offset (encode out) = .ok out := by
  match out with
  | [] => simp at h
  | [a] =>
    have ha := a.toNat_lt
    generalize hn : a.toNat * 16 = n
    have hsymbols : encode [a] = [n / 64, n % 64].map symbol := by
      rw [encode, hn]
      rfl
    have hlt : ∀ v ∈ [n / 64, n % 64], v < 64 := by
      simp only [List.forall_mem_cons]
      exact ⟨by omega, by omega, by simp⟩
    rw [hsymbols, decodeLast_symbols offset hlt (by simp), lastBytes, noBitsLeft, if_pos (by omega),
      show n / 64 * 4 + n % 64 / 16 = a.toNat by omega, UInt8.ofNat_toNat]
  | [a, b] =>
    have ha := a.toNat_lt
    have hb := b.toNat_lt
    generalize hn : (a.toNat * 256 + b.toNat) * 4 = n
    have hsymbols : encode [a, b] = [n / 4096, n / 64 % 64, n % 64].map symbol := by
      rw [encode, hn]
      rfl
    have hlt : ∀ v ∈ [n / 4096, n / 64 % 64, n % 64], v < 64 := by
      simp only [List.forall_mem_cons]
      exact ⟨by omega, by omega, by omega, by simp⟩
    rw [hsymbols, decodeLast_symbols offset hlt (by simp), lastBytes, noBitsLeft, if_pos (by omega),
      show n / 4096 * 4 + n / 64 % 64 / 16 = a.toNat by omega,
      show n / 64 % 64 % 16 * 16 + n % 64 / 4 = b.toNat by omega, UInt8.ofNat_toNat, UInt8.ofNat_toNat]
  | [a, b, c] =>
    have ha := a.toNat_lt
    have hb := b.toNat_lt
    have hc := c.toNat_lt
    generalize hn : (a.toNat * 256 + b.toNat) * 256 + c.toNat = n
    have hsymbols : encode [a, b, c] =
        [n / 262144, n / 4096 % 64, n / 64 % 64, n % 64].map symbol := by
      rw [encode, hn]
      rfl
    have hlt : ∀ v ∈ [n / 262144, n / 4096 % 64, n / 64 % 64, n % 64], v < 64 := by
      simp only [List.forall_mem_cons]
      exact ⟨by omega, by omega, by omega, by omega, by simp⟩
    rw [hsymbols, decodeLast_symbols offset hlt (by simp), lastBytes,
      show n / 262144 * 4 + n / 4096 % 64 / 16 = a.toNat by omega,
      show n / 4096 % 64 % 16 * 16 + n / 64 % 64 / 4 = b.toNat by omega,
      show n / 64 % 64 % 4 * 64 + n % 64 = c.toNat by omega, UInt8.ofNat_toNat, UInt8.ofNat_toNat,
      UInt8.ofNat_toNat]
  | _ :: _ :: _ :: _ :: _ =>
    simp only [List.length_cons] at h
    omega

/-! ## Whole texts -/

theorem eq_encode_of_decode {bs out : Bytes} (h : decode bs = .ok out) : bs = encode out := by
  unfold decode at h
  split at h
  · next hlast =>
    cases h
    rw [List.getLast?_eq_none_iff.mp hlast]
    rfl
  · split at h
    · cases h
    · simp only [bind_eq_ok_iff] at h
      obtain ⟨front, hfront, back, hback, h⟩ := h
      cases h
      have hlen : (bs.take (beforeLast bs.length)).length % 4 = 0 := by
        rw [List.length_take, beforeLast]
        omega
      obtain ⟨hf, hmod⟩ := eq_encode_of_decodeGroups hlen hfront
      rw [encode_append back hmod, ← hf, ← eq_encode_of_decodeLast hback, List.take_append_drop]

/-- A text of bytes is cut before its last group, where these bytes are cut, too. -/
theorem beforeLast_encode {front back : Bytes} (hf : front.length % 3 = 0)
    (hb : 1 ≤ back.length ∧ back.length ≤ 3) :
    beforeLast (encode front ++ encode back).length = (encode front).length := by
  simp only [beforeLast, length_encode, List.length_append]
  omega

theorem decode_encode (out : Bytes) : decode (encode out) = .ok out := by
  by_cases hnil : out = []
  · subst hnil
    rfl
  have hpos := List.length_pos_iff.mpr hnil
  -- whole groups go to the back, too, when nothing else is there: the last group is never empty
  obtain ⟨front, back, rfl, hf, hb⟩ : ∃ front back, out = front ++ back ∧ front.length % 3 = 0 ∧
      1 ≤ back.length ∧ back.length ≤ 3 := by
    refine ⟨_, _, (List.take_append_drop ((out.length - 1) / 3 * 3) out).symm, ?_, ?_⟩
    · rw [List.length_take]
      omega
    · rw [List.length_drop]
      omega
  have hlen := length_encode (front ++ back)
  rw [encode_append back hf] at hlen ⊢
  have hne : encode front ++ encode back ≠ [] := fun h => by
    rw [h, List.length_nil] at hlen
    omega
  have hguard : ¬(encode front ++ encode back).length % 4 = 1 := by omega
  unfold decode
  rw [List.getLast?_eq_some_getLast hne]
  simp only [hguard, false_and, if_false, beforeLast_encode hf hb, List.take_left, List.drop_left,
    decodeGroups_encode hf, decodeLast_encode _ hb]
  rfl

/-- **Bytes have one written form, and nothing else is read.** -/
theorem decode_eq_ok_iff {bs out : Bytes} : decode bs = .ok out ↔ bs = encode out :=
  ⟨eq_encode_of_decode, fun h => h ▸ decode_encode out⟩

theorem exists_symbol_of_mem_encode : ∀ {bs : Bytes} {b : UInt8}, b ∈ encode bs →
    ∃ v < 64, b = symbol v
  | [], _, h => by simp [encode] at h
  | [a], _, h => by
    have ha := a.toNat_lt
    simp only [encode, List.mem_cons, List.not_mem_nil, or_false] at h
    rcases h with rfl | rfl <;> exact ⟨_, by omega, rfl⟩
  | [a, b], _, h => by
    have ha := a.toNat_lt
    have hb := b.toNat_lt
    simp only [encode, List.mem_cons, List.not_mem_nil, or_false] at h
    rcases h with rfl | rfl | rfl <;> exact ⟨_, by omega, rfl⟩
  | a :: b :: c :: rest, _, h => by
    have ha := a.toNat_lt
    have hb := b.toNat_lt
    have hc := c.toNat_lt
    simp only [encode, List.mem_cons] at h
    rcases h with rfl | rfl | rfl | rfl | h
    · exact ⟨_, by omega, rfl⟩
    · exact ⟨_, by omega, rfl⟩
    · exact ⟨_, by omega, rfl⟩
    · exact ⟨_, by omega, rfl⟩
    · exact exists_symbol_of_mem_encode h

end Base64
end MarketSearch
