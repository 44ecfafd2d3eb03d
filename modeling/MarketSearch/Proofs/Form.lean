/-
Form data reads back: the pairs that are written are the pairs that are read
(`Form.decode_encode`), and what is written is visible ASCII
(`Form.isSent_of_mem_encode`).

A byte is written as a plus sign, as itself or as an escape, and neither of the
signs that mean something (`+`, `%`, `&`, `=`) is ever written for itself.  So
each byte is read back from what it is written as, whatever follows, and the
marks between texts stand nowhere else.
-/
import MarketSearch.Proofs.Lists
import MarketSearch.Proofs.Parameters

namespace MarketSearch

/-! ## Escapes -/

namespace Percent

/-- The byte of a character of an escape. -/
def digitByte (d : Nat) : UInt8 := UInt8.ofNat (upperDigit d).toNat

theorem byte?_digitByte : ∀ n < 256, byte? (digitByte (n / 16)) (digitByte (n % 16)) = .some (UInt8.ofNat n) := by
  decide +kernel

/-- An escape is read as the byte that it names. -/
theorem decode_escape (b : UInt8) (rest : Bytes) :
    decode (37 :: digitByte (b.toNat / 16) :: digitByte (b.toNat % 16) :: rest) = b :: decode rest := by
  have hb : byte? (digitByte (b.toNat / 16)) (digitByte (b.toNat % 16)) = .some b := by
    rw [byte?_digitByte _ b.toNat_lt, UInt8.ofNat_toNat]
  simp only [decode, hb]

theorem decode_cons_of_ne {b : UInt8} (h : b ≠ 37) (rest : Bytes) : decode (b :: rest) = b :: decode rest := by
  rw [decode.eq_def]
  split
  · next heq =>
    cases heq
    exact absurd rfl h
  · next heq =>
    cases heq
    rfl
  · next heq => cases heq

end Percent

namespace Form

/-! ## Bytes -/

theorem encodeByte_cases (b : UInt8) :
    (b = 32 ∧ encodeByte b = ['+']) ∨
    (isLiteral b = true ∧ encodeByte b = [Char.ofNat b.toNat]) ∨
    encodeByte b = Percent.escape b := by
  unfold encodeByte Percent.encode
  by_cases hspace : b = 32
  · exact .inl ⟨hspace, if_pos hspace⟩
  · cases hb : isLiteral b <;> simp [hspace, hb]

theorem written_literal : ∀ n < 256, isLiteral (UInt8.ofNat n) = true →
    Utf8.encode [Char.ofNat n] = [UInt8.ofNat n] ∧ UInt8.ofNat n ≠ 37 ∧
      plusToSpace (UInt8.ofNat n) = UInt8.ofNat n := by
  decide +kernel

theorem written_escape : ∀ n < 256, (Utf8.encode (Percent.escape (UInt8.ofNat n))).map plusToSpace =
    [37, Percent.digitByte (n / 16), Percent.digitByte (n % 16)] := by
  decide +kernel

/-- A byte is read back from what it is written as, whatever follows. -/
theorem decode_written (b : UInt8) (rest : Bytes) :
    Percent.decode ((Utf8.encode (encodeByte b)).map plusToSpace ++ rest) = b :: Percent.decode rest := by
  rcases encodeByte_cases b with ⟨rfl, hb⟩ | ⟨hliteral, hb⟩ | hb
  · rw [hb]
    exact Percent.decode_cons_of_ne (by decide) rest
  · obtain ⟨hbytes, hne, hplus⟩ := written_literal b.toNat b.toNat_lt (by rwa [UInt8.ofNat_toNat])
    rw [UInt8.ofNat_toNat] at hbytes hne hplus
    rw [hb, hbytes, List.map_singleton, hplus]
    exact Percent.decode_cons_of_ne hne rest
  · have hbytes := written_escape b.toNat b.toNat_lt
    rw [UInt8.ofNat_toNat] at hbytes
    rw [hb, hbytes]
    exact Percent.decode_escape b rest

/-! ## Texts -/

theorem decodeText_encodeText (cs : List Char) : decodeText (encodeText cs) = String.ofList cs := by
  refine decodeText_eq ?_
  unfold encodeText
  induction Utf8.encode cs with
  | nil => rfl
  | cons b bs ih =>
    have happend : Utf8.encode (encodeByte b ++ bs.flatMap encodeByte) =
        Utf8.encode (encodeByte b) ++ Utf8.encode (bs.flatMap encodeByte) := List.flatMap_append
    rw [List.flatMap_cons, happend, List.map_append, decode_written, ih]

/-- A character that may stand in a query: visible, within ASCII, and not the mark of a fragment. -/
def IsSent (c : Char) : Prop := 0x20 < c.toNat ∧ c.toNat < 0x7F ∧ c ≠ '#'

instance (c : Char) : Decidable (IsSent c) := inferInstanceAs (Decidable (_ ∧ _))

/-- A character that texts are written with: none of the marks between texts. -/
def IsPlain (c : Char) : Prop := IsSent c ∧ c ≠ '&' ∧ c ≠ '='

instance (c : Char) : Decidable (IsPlain c) := inferInstanceAs (Decidable (_ ∧ _))

theorem isPlain_encodeByte : ∀ n < 256, ∀ c ∈ encodeByte (UInt8.ofNat n), IsPlain c := by
  have hall : ∀ n < 256, (encodeByte (UInt8.ofNat n)).all (fun c => decide (IsPlain c)) = true := by
    decide +kernel
  exact fun n hn => forall_mem_of_all (hall n hn)

theorem isPlain_of_mem_encodeText {cs : List Char} {c : Char} (h : c ∈ encodeText cs) : IsPlain c := by
  obtain ⟨b, -, hc⟩ := List.mem_flatMap.mp h
  refine isPlain_encodeByte b.toNat b.toNat_lt c ?_
  rwa [UInt8.ofNat_toNat]

/-! ## Pairs -/

theorem decodePair_encodePair (p : String × String) : decodePair (encodePair p) = p := by
  have hmark : '=' ∉ encodeText p.1.toList := fun h => (isPlain_of_mem_encodeText h).2.2 rfl
  unfold decodePair encodePair
  rw [Text.splitFirst?_append hmark]
  simp only [decodeText_encodeText, String.ofList_toList]

theorem not_mem_encodePair (p : String × String) : '&' ∉ encodePair p := by
  intro h
  rcases List.mem_append.mp h with h | h
  · exact (isPlain_of_mem_encodeText h).2.1 rfl
  · rcases List.mem_cons.mp h with h | h
    · exact absurd h (by decide)
    · exact (isPlain_of_mem_encodeText h).2.1 rfl

theorem splitAll_encode (p : String × String) (ps : List (String × String)) :
    Text.splitAll '&' (encode (p :: ps)) = (p :: ps).map encodePair := by
  induction ps generalizing p with
  | nil => exact Text.splitAll_of_not_mem (not_mem_encodePair p)
  | cons q qs ih =>
    show Text.splitAll '&' (encodePair p ++ '&' :: encode (q :: qs)) = _
    rw [Text.splitAll_append (not_mem_encodePair p), ih]
    rfl

/-- **Pairs are read as they are written**, whatever their names and texts are. -/
theorem decode_encode (ps : List (String × String)) : decode (encode ps) = ps := by
  cases ps with
  | nil => rfl
  | cons p ps =>
    have hnonempty : ∀ cs ∈ (p :: ps).map encodePair, (!cs.isEmpty) = true := by
      intro cs hcs
      obtain ⟨q, -, rfl⟩ := List.mem_map.mp hcs
      simp [encodePair]
    rw [decode, splitAll_encode, List.filter_eq_self.mpr hnonempty, List.map_map]
    exact (List.map_congr_left fun q _ => decodePair_encodePair q).trans (List.map_id _)

theorem isSent_of_mem_encodePair {p : String × String} {c : Char} (h : c ∈ encodePair p) : IsSent c := by
  rcases List.mem_append.mp h with h | h
  · exact (isPlain_of_mem_encodeText h).1
  · rcases List.mem_cons.mp h with rfl | h
    · decide
    · exact (isPlain_of_mem_encodeText h).1

/-- What is written may stand in a query as it is. -/
theorem isSent_of_mem_encode {ps : List (String × String)} {c : Char} (h : c ∈ encode ps) : IsSent c := by
  fun_induction encode ps with
  | case1 => simp at h
  | case2 p => exact isSent_of_mem_encodePair h
  | case3 p ps _ ih =>
    rcases List.mem_append.mp h with h | h
    · exact isSent_of_mem_encodePair h
    · rcases List.mem_cons.mp h with rfl | h
      · decide
      · exact ih h

end Form
end MarketSearch
