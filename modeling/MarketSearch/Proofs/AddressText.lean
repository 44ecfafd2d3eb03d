/-
Internet addresses are read as they are written, and so are hosts that are one.

Each part of an address is followed by a character that is no part of it, or by
the end, so that its reader stops there: numbers before anything that is no
digit (`SocketAddress.readNumber_inBase`), groups before two colons
(`SocketAddress.readGroups_grouped`).  What a gap leaves out of an address of
version 6 is a run of zeros (`Ipv6.longestZeros_spec`), and filling it gives the
address back (`SocketAddress.readV6_chars`).

An address of version 6 by itself has colons and no bracket before it, so it is
never a host; with brackets it is (`ServerSettings.addresses_of_literals`).
-/
import MarketSearch.Proofs.Listening

namespace MarketSearch

def Ipv4.text (x : Ipv4) : String := String.ofList x.chars

def Ipv6.text (x : Ipv6) : String := String.ofList x.chars

def Ipv6.loopback : Ipv6 := ⟨[0, 0, 0, 0, 0, 0, 0, 1], rfl⟩

namespace SocketAddress

variable {α : Type} {b n bound maxDigits limit : Nat} {c : Char} {cs rest : List Char} {first : Bool}
  {gs front back : List UInt16}

/-! ## Numbers -/

theorem endsDigits_cons {base : Nat} (h : isDigitOf base c = false) (rest : List Char) :
    EndsDigits base (c :: rest) := by simpa [EndsDigits] using h

/-- A number is read as it is written, up to what is no digit. -/
theorem readNumber_inBase (hb : b + 2 ≤ 16) (hbound : n < bound) (hlength : (Numeral.inBase b n).length ≤ maxDigits)
    (h : EndsDigits (b + 2) rest) :
    readNumber (b + 2) bound maxDigits (Numeral.inBase b n ++ rest) = .some (n, rest) := by
  rw [readNumber, spanDigits_of_endsDigits (isDigitOf_of_mem_inBase hb) h]
  simp [Nat.not_lt.mpr hlength, Numeral.value?_inBase hb, hbound]

theorem readNumber_eq_none {base : Nat} (h : EndsDigits base rest) : readNumber base bound maxDigits rest = .none := by
  have hspan := @spanDigits_of_endsDigits base [] rest (by simp) h
  rw [List.nil_append] at hspan
  simp [readNumber, hspan, Numeral.value?]

theorem readOctet_digits (x : UInt8) (h : EndsDigits 10 rest) :
    readOctet (Numeral.digits x.toNat ++ rest) = .some (x, rest) := by
  have hspan : spanDigits 10 (Numeral.digits x.toNat ++ rest) = (Numeral.digits x.toNat, rest) :=
    spanDigits_of_endsDigits (isDigitOf_of_mem_inBase (b := 8) (by decide)) h
  have hnumber : readNumber 10 256 3 (Numeral.digits x.toNat ++ rest) = .some (x.toNat, rest) :=
    readNumber_inBase (b := 8) (by decide) x.toNat_lt
      (Numeral.length_digits_le (Nat.lt_trans x.toNat_lt (by decide)) (by decide)) h
  have hzeros : ¬((Numeral.digits x.toNat).head? = .some '0' ∧ 1 < (Numeral.digits x.toNat).length) := by
    rintro ⟨hzero, hlong⟩
    by_cases hx : x.toNat = 0
    · rw [hx, Numeral.digits_zero] at hlong
      exact absurd hlong (by decide)
    · exact Numeral.head?_digits hx hzero
  rw [readOctet_eq, hspan, if_neg hzeros, mapped, hnumber]
  simp

theorem readOctet_eq_none (h : EndsDigits 10 rest) : readOctet rest = .none := by
  rw [readOctet_eq, mapped, readNumber_eq_none h]
  simp

theorem readGroup_hex (g : UInt16) (h : EndsDigits 16 rest) :
    readGroup (Numeral.hex g.toNat ++ rest) = .some (g, rest) := by
  have hnumber : readNumber 16 65536 4 (Numeral.hex g.toNat ++ rest) = .some (g.toNat, rest) :=
    readNumber_inBase (b := 14) (by decide) g.toNat_lt (Numeral.length_inBase_le g.toNat_lt (by decide)) h
  rw [readGroup, hnumber]
  simp

theorem readGroup_eq_none (h : EndsDigits 16 rest) : readGroup rest = .none := by
  rw [readGroup, readNumber_eq_none h, Option.map_none]

/-! ## Addresses of version 4 -/

theorem readV4_chars (x : Ipv4) (h : EndsDigits 10 rest) : readV4 (x.chars ++ rest) = .some (x, rest) := by
  have hpoint : ∀ r, EndsDigits 10 ('.' :: r) := endsDigits_cons (by decide)
  simp [readV4_eq, andThen, afterMark, given, readMark, Ipv4.chars, readOctet_digits _ (hpoint _), readOctet_digits _ h]

theorem readV4_whole (x : Ipv4) : readV4 x.chars = .some (x, []) := by
  have hread := readV4_chars x (endsDigits_nil 10)
  rwa [List.append_nil] at hread

theorem readV4_eq_none (h : EndsDigits 10 rest) : readV4 rest = .none := by
  rw [readV4_eq, andThen, readOctet_eq_none h, Option.bind_none]

/-- An address of version 4 has points. -/
theorem readV4_eq_none_of_point (h : '.' ∉ cs) : readV4 cs = .none := by
  rw [readV4_eq, andThen, Option.bind_eq_none_iff]
  intro p hp
  have hmark : readMark '.' p.2 = .none := by
    cases hr : readMark '.' p.2 with
    | none => rfl
    | some r =>
      have hmem : '.' ∈ p.2 := readMark_eq_some_iff.mp hr ▸ List.mem_cons_self
      have hsuffix := (stopsAt_readOctet (c := ':') (by decide)).suffix hp
      exact absurd (hsuffix.subset hmem) h
  rw [afterMark, hmark, Option.bind_none]

/-- Nothing comes next, or a colon. -/
def AtColon (rest : List Char) : Prop := ∀ c, rest.head? = .some c → c = ':'

theorem atColon_cons (cs : List Char) : AtColon (':' :: cs) := by simp [AtColon]

theorem AtColon.endsDigits {base : Nat} (h : AtColon rest) (hcolon : isDigitOf base ':' = false) :
    EndsDigits base rest := fun c hc => h c hc ▸ hcolon

/-- A group is no address of version 4, whether the text ends after it or goes on with a colon. -/
theorem readV4_hex (g : UInt16) (h : AtColon rest) : readV4 (Numeral.hex g.toNat ++ rest) = .none := by
  have hpoint : '.' ∉ Numeral.hex g.toNat := by
    intro hmem
    have hdigits := isDigitOf_of_mem_inBase (b := 14) (n := g.toNat) (by decide)
    exact absurd (hdigits _ hmem) (by decide)
  cases rest with
  | nil =>
    rw [List.append_nil]
    exact readV4_eq_none_of_point hpoint
  | cons c rest =>
    obtain rfl := h c rfl
    rw [(stopsAt_readV4 (by decide) (by decide)).append, readV4_eq_none_of_point hpoint, Option.map_none]

/-! ## Groups -/

/-- Groups as they are written, each behind a colon unless it is the first. -/
def grouped : Bool → List UInt16 → List Char
  | _, [] => []
  | true, g :: gs => Numeral.hex g.toNat ++ grouped false gs
  | false, g :: gs => ':' :: (Numeral.hex g.toNat ++ grouped false gs)

theorem grouped_eq_joined (gs : List UInt16) : grouped true gs = Ipv6.joined gs := by
  induction gs with
  | nil => rfl
  | cons g gs ih =>
    cases gs with
    | nil => simp [grouped, Ipv6.joined]
    | cons g' gs =>
      rw [Ipv6.joined, ← ih, grouped, grouped, grouped]
      simp

theorem AtColon.grouped_append (h : AtColon rest) (gs : List UInt16) : AtColon (grouped false gs ++ rest) := by
  cases gs with
  | nil => exact h
  | cons g gs => exact atColon_cons _

theorem readAfterColon_grouped (read : Reader α) (first : Bool) (g : UInt16) (gs : List UInt16) (rest : List Char) :
    readAfterColon first read (grouped first (g :: gs) ++ rest) =
      read (Numeral.hex g.toNat ++ (grouped false gs ++ rest)) := by
  cases first <;> simp [readAfterColon, grouped, readMark]

/-- **Groups are read as they are written**, and then what comes next, which has a colon before it. -/
theorem readGroups_grouped (h : AtColon rest) (hlimit : gs.length ≤ limit) :
    readGroups first limit (grouped first gs ++ rest) =
      let r := readGroups (first && gs.isEmpty) (limit - gs.length) rest
      (gs ++ r.1, r.2) := by
  induction gs generalizing first limit with
  | nil => simp [grouped]
  | cons g gs ih =>
    obtain ⟨limit, rfl⟩ := Nat.exists_eq_add_one_of_ne_zero (Nat.ne_of_gt (Nat.lt_of_lt_of_le (Nat.succ_pos _) hlimit))
    have hnext := h.grouped_append gs
    have hv4 : (if limit = 0 then .none
        else readAfterColon first readV4 (grouped first (g :: gs) ++ rest)) = .none := by
      rw [readAfterColon_grouped, readV4_hex g hnext, ite_self]
    have hgroup : readAfterColon first readGroup (grouped first (g :: gs) ++ rest) =
        .some (g, grouped false gs ++ rest) := by
      rw [readAfterColon_grouped, readGroup_hex g (hnext.endsDigits (by decide))]
    simp only [readGroups, hv4, hgroup, ih (Nat.le_of_succ_le_succ hlimit)]
    simp

/-- Where groups end: at the end of the text, or at two colons. -/
def EndsGroups (rest : List Char) : Prop := rest = [] ∨ ∃ r, rest = ':' :: ':' :: r

theorem EndsGroups.atColon (h : EndsGroups rest) : AtColon rest := by
  rcases h with rfl | ⟨r, rfl⟩
  · simp [AtColon]
  · exact atColon_cons _

theorem EndsGroups.readAfterColon_eq_none {read : Reader α} (h : EndsGroups rest)
    (hread : ∀ r, AtColon r → read r = .none) (first : Bool) : readAfterColon first read rest = .none := by
  cases first with
  | true => exact hread rest h.atColon
  | false =>
    rcases h with rfl | ⟨r, rfl⟩
    · rfl
    · exact hread (':' :: r) (atColon_cons r)

theorem EndsGroups.readGroups_eq (h : EndsGroups rest) (first : Bool) (limit : Nat) :
    readGroups first limit rest = ([], false, rest) := by
  cases limit with
  | zero => rfl
  | succ limit =>
    have hv4 := h.readAfterColon_eq_none (fun r hr => readV4_eq_none (hr.endsDigits (by decide))) first
    have hgroup := h.readAfterColon_eq_none (fun r hr => readGroup_eq_none (hr.endsDigits (by decide))) first
    simp only [readGroups, hv4, hgroup, ite_self]

theorem readGroups_joined (h : EndsGroups rest) (hlimit : gs.length ≤ limit) :
    readGroups true limit (Ipv6.joined gs ++ rest) = (gs, false, rest) := by
  rw [← grouped_eq_joined, readGroups_grouped h.atColon hlimit, h.readGroups_eq]
  simp

/-! ## Addresses of version 6 -/

theorem readV6_joined (x : Ipv6) : readV6 (Ipv6.joined x.groups) = .some (x, []) := by
  have hread := @readGroups_joined 8 [] x.groups (.inl rfl) (Nat.le_of_eq x.length_groups)
  rw [List.append_nil] at hread
  simp [readV6, hread, x.length_groups, ofGroups?]

/-- What a gap leaves out is filled with zeros. -/
theorem readV6_gap {isV4 : Bool} (hfront : front.length < 8)
    (hback : readGroups true (7 - front.length) cs = (back, isV4, [])) :
    readV6 (Ipv6.joined front ++ ':' :: ':' :: cs) = (ofGroups? (fill front back)).map fun x => (x, []) := by
  have hread := @readGroups_joined 8 (':' :: ':' :: cs) front (.inr ⟨cs, rfl⟩) (Nat.le_of_lt hfront)
  cases hfilled : ofGroups? (fill front back) <;>
    simp [readV6, hread, Nat.ne_of_lt hfront, readMark, hback, hfilled]

/-- A text that has a colon is no address of version 4 from end to end. -/
theorem readV4_ne_some_of_colon {x : Ipv4} (h : ':' ∈ cs) : readV4 cs ≠ .some (x, []) := by
  obtain ⟨front, back, rfl⟩ := List.append_of_mem h
  rw [(stopsAt_readV4 (by decide) (by decide)).append]
  intro hread
  obtain ⟨p, -, hp⟩ := Option.map_eq_some_iff.mp hread
  simp at hp

end SocketAddress

namespace Ipv6

variable {x : Ipv6} {y : Ipv4}

theorem zeros_spec (gs : List UInt16) : gs = List.replicate (zeros gs) 0 ++ gs.dropWhile (· == 0) := by
  have hzeros : gs.takeWhile (· == 0) = List.replicate (zeros gs) 0 := by
    refine List.eq_replicate_of_mem fun g hg => ?_
    simpa using List.all_eq_true.mp List.all_takeWhile g hg
  rw [← hzeros, List.takeWhile_append_dropWhile]

/-- The longest run of zeros is one, and stands where it is said to. -/
theorem longestZeros_spec (gs : List UInt16) : ∃ front back, front.length = (longestZeros gs).1 ∧
    gs = front ++ (List.replicate (longestZeros gs).2 0 ++ back) := by
  induction gs with
  | nil => exact ⟨[], [], rfl, rfl⟩
  | cons g gs ih =>
    simp only [longestZeros]
    split
    · exact ⟨[], (g :: gs).dropWhile (· == 0), rfl, zeros_spec (g :: gs)⟩
    · obtain ⟨front, back, hfront, hgs⟩ := ih
      exact ⟨g :: front, back, congrArg (· + 1) hfront, congrArg (g :: ·) hgs⟩

theorem groups_of_mapped? (h : x.mapped? = .some y) : x.groups = [0, 0, 0, 0, 0, 0xFFFF] ++ y.groups := by
  unfold mapped? at h
  split at h
  · next g h' hgroups =>
    have hbytes : ∀ g : UInt16, UInt16.ofNat
        ((UInt8.ofNat (g.toNat / 256)).toNat * 256 + (UInt8.ofNat (g.toNat % 256)).toNat) = g := by
      intro g
      have hg := g.toNat_lt
      have hhigh : (UInt8.ofNat (g.toNat / 256)).toNat = g.toNat / 256 := by
        rw [UInt8.toNat_ofNat', Nat.mod_eq_of_lt (by omega)]
      have hlow : (UInt8.ofNat (g.toNat % 256)).toNat = g.toNat % 256 := by
        rw [UInt8.toNat_ofNat', Nat.mod_eq_of_lt (by omega)]
      rw [hhigh, hlow, Nat.div_add_mod', UInt16.ofNat_toNat]
    cases h
    rw [hgroups, Ipv4.groups, hbytes, hbytes]
    rfl
  · cases h

end Ipv6

namespace SocketAddress

/-- The last two groups are read from an address of version 4. -/
theorem readGroups_v4 (x : Ipv4) (limit : Nat) :
    readGroups false (limit + 2) (':' :: x.chars) = (x.groups, true, []) := by
  simp [readGroups, readAfterColon, readMark, readV4_whole]

/-- **An address of version 6 is read as it is written.** -/
theorem readV6_chars (x : Ipv6) : readV6 x.chars = .some (x, []) := by
  have hfilled : ∀ {gs}, gs = x.groups → (ofGroups? gs).map (fun x => (x, ([] : List Char))) = .some (x, []) := by
    rintro _ rfl
    simp [ofGroups?, x.length_groups]
  unfold Ipv6.chars
  cases hmapped : x.mapped? with
  | some y =>
    have hgroups := Ipv6.groups_of_mapped? hmapped
    have hhex : Numeral.hex 0xFFFF = ['f', 'f', 'f', 'f'] := by decide +kernel
    have hback : readGroups true 7 (['f', 'f', 'f', 'f', ':'] ++ y.chars) = (0xFFFF :: y.groups, true, []) := by
      have hread := @readGroups_grouped 7 _ true [0xFFFF] (atColon_cons y.chars) (by decide)
      simpa [grouped, hhex, readGroups_v4 y 4] using hread
    have hread : readV6 (Ipv6.joined [] ++ ':' :: ':' :: (['f', 'f', 'f', 'f', ':'] ++ y.chars)) =
        (ofGroups? (fill [] (0xFFFF :: y.groups))).map fun x => (x, []) := readV6_gap (by decide) hback
    exact hread.trans (hfilled hgroups.symm)
  | none =>
    obtain ⟨front, back, hfront, hgroups⟩ := Ipv6.longestZeros_spec x.groups
    generalize Ipv6.longestZeros x.groups = run at *
    obtain ⟨start, size⟩ := run
    dsimp only at hfront hgroups ⊢
    split
    · exact readV6_joined x
    · next hsize =>
      have hlength : front.length + (size + back.length) = 8 := by
        rw [← x.length_groups, hgroups]
        simp
      have hback : readGroups true (7 - front.length) (Ipv6.joined back) = (back, false, []) := by
        have hread := @readGroups_joined (7 - front.length) [] back (.inl rfl) (by omega)
        rwa [List.append_nil] at hread
      have htake : x.groups.take start = front := by rw [hgroups, ← hfront, List.take_left]
      have hdrop : x.groups.drop (start + size) = back := by
        rw [hgroups, ← List.append_assoc, List.drop_left' (by simp [hfront])]
      rw [htake, hdrop, List.append_assoc]
      refine (readV6_gap (by omega) hback).trans (hfilled ?_)
      rw [fill, hgroups, show 8 - front.length - back.length = size by omega, List.append_assoc]

/-! ## Hosts -/

theorem colon_mem_joined (h : 2 ≤ gs.length) : ':' ∈ Ipv6.joined gs := by
  match gs, h with
  | g :: g' :: gs, _ => simp [Ipv6.joined]

theorem colon_mem_chars (x : Ipv6) : ':' ∈ x.chars := by
  unfold Ipv6.chars
  split
  · exact List.mem_append_left _ (by decide)
  · dsimp only
    split
    · exact colon_mem_joined (by simp [x.length_groups])
    · simp

/-- An address of version 6 stands for no host. -/
theorem not_ofHost_chars (x : Ipv6) (port : UInt16) (a : SocketAddress) : ¬OfHost port x.chars a := by
  have hbracket : ∀ cs, readV6 ('[' :: cs) = .none := fun _ => rfl
  intro h
  generalize hcs : x.chars = cs at h
  cases h with
  | v4 hread => exact readV4_ne_some_of_colon (hcs ▸ colon_mem_chars x) hread
  | v6 _ =>
    have hread := readV6_chars x
    rw [hcs, hbracket] at hread
    cases hread

theorem ofHost_v6 (x : Ipv6) (port : UInt16) : OfHost port ('[' :: (x.chars ++ [']'])) (.v6 x 0 port) := by
  refine .v6 ?_
  rw [scopedReader, andThen, readV6_chars]
  rfl

theorem OfHost.port_eq {port : UInt16} {a : SocketAddress} (h : OfHost port cs a) : a.port = port := by
  cases h <;> rfl

end SocketAddress

namespace ServerSettings

open SocketAddress
open Ipv6 (loopback)

/-- **Which addresses are hosts.** An address of version 4, as it is written, is a host that is listened at with the
port that was set.  One of version 6 is in brackets, and without them it is refused, whichever it is.  Of any
host, the port is the one that was set. -/
theorem addresses_of_literals (port : UInt16) (limit : UInt64) :
    (∀ x : Ipv4, address ⟨x.text, port, limit⟩ = .ok (.v4 x port)) ∧
    (∀ x : Ipv6, address ⟨"[" ++ x.text ++ "]", port, limit⟩ = .ok (.v6 x 0 port) ∧
      address ⟨x.text, port, limit⟩ = .error .address) ∧
    ∀ host a, address ⟨host, port, limit⟩ = .ok a → a.port = port := by
  refine ⟨fun x => ?v4, fun x => ⟨?bracketed, ?bare⟩, fun host a h => ((address_eq_ok_iff _ a).mp h).port_eq⟩
  case v4 =>
    rw [address_eq_ok_iff, Ipv4.text, String.toList_ofList]
    exact .v4 (readV4_whole x)
  case bracketed =>
    have htext : ("[" ++ x.text ++ "]").toList = '[' :: (x.chars ++ [']']) := by simp [Ipv6.text]
    rw [address_eq_ok_iff, htext]
    exact ofHost_v6 x port
  case bare =>
    rw [address_eq_error_iff, Ipv6.text, String.toList_ofList]
    exact not_ofHost_chars x port

/-- An address of version 4, one that is mapped into version 6, and one with a gap, which stands for the longer of
its two runs of zeros, with brackets and without; and the port of an address with a scope. -/
theorem addresses_of_hosts :
    let mapped : Ipv6 := ⟨[0, 0, 0, 0, 0, 0xFFFF, 0x0102, 0x0304], rfl⟩
    let gapped : Ipv6 := ⟨[1, 0, 0, 2, 0, 0, 0, 3], rfl⟩
    let linked : Ipv6 := ⟨[0xFE80, 0, 0, 0, 0, 0, 0, 1], rfl⟩
    address ⟨"255.0.10.1", 443, 10000⟩ = .ok (.v4 ⟨255, 0, 10, 1⟩ 443) ∧
    address ⟨"[::ffff:1.2.3.4]", 8080, 10000⟩ = .ok (.v6 mapped 0 8080) ∧
    address ⟨"[1:0:0:2::3]", 0, 10000⟩ = .ok (.v6 gapped 0 0) ∧
    address ⟨"1:0:0:2::3", 0, 10000⟩ = .error .address ∧
    address ⟨"[fe80::1%1]", 65535, 10000⟩ = .ok (.v6 linked 1 65535) ∧
      (SocketAddress.v6 linked 1 65535).port = 65535 := by
  intro mapped gapped linked
  have hscoped : address ⟨"[fe80::1%1]", 65535, 10000⟩ = .ok (.v6 linked 1 65535) := by decide +kernel
  have hv4 : Ipv4.text ⟨255, 0, 10, 1⟩ = "255.0.10.1" := by decide +kernel
  have hmapped : "[" ++ mapped.text ++ "]" = "[::ffff:1.2.3.4]" := by decide +kernel
  have hgapped : gapped.text = "1:0:0:2::3" := by decide +kernel
  refine ⟨?_, ?_, ?_, ?_, hscoped, (addresses_of_literals 65535 10000).2.2 _ _ hscoped⟩
  · exact hv4 ▸ (addresses_of_literals 443 10000).1 ⟨255, 0, 10, 1⟩
  · exact hmapped ▸ ((addresses_of_literals 8080 10000).2.1 mapped).1
  · have hbracketed := ((addresses_of_literals 0 10000).2.1 gapped).1
    rwa [hgapped] at hbracketed
  · exact hgapped ▸ ((addresses_of_literals 0 10000).2.1 gapped).2

/-- The loopback address has a text and, with a port, makes an address to listen at; as a host it is refused. -/
theorem address_of_loopback : loopback.text = "::1" ∧ SocketAddress.text (.v6 loopback 0 8080) = "[::1]:8080" ∧
    address ⟨"::1", 8080, 10000⟩ = .error .address ∧
    ¬∀ (x : Ipv6) (port : UInt16) (limit : UInt64), ∃ scope,
      address ⟨x.text, port, limit⟩ = .ok (.v6 x scope port) := by
  have htext : loopback.text = "::1" := by decide +kernel
  have hrefused : address ⟨"::1", 8080, 10000⟩ = .error .address := by decide +kernel
  refine ⟨htext, by decide +kernel, hrefused, fun h => ?_⟩
  obtain ⟨scope, haddress⟩ := h loopback 8080 10000
  rw [htext, hrefused] at haddress
  cases haddress

end ServerSettings
end MarketSearch
