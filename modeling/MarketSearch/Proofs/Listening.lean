/-
What the service can listen at: which hosts form an address with a port.

The text that is read is the host, a colon and the port, and an address of
version 6 has colons of its own.  That nothing is cut in the wrong place rests
on two facts about the readers of parts of an address (`SocketAddress.StopsAt`):
none looks past a character that is no part of what it reads, and each leaves an
end of its text.  So a host is an address of version 4, or one of version 6 in
brackets, and the port is the one that was set (`ServerSettings.address_eq_ok_iff`).
-/
import MarketSearch.Proofs.Lists
import MarketSearch.Proofs.Numeral
import MarketSearch.Settings.Basic

namespace MarketSearch
namespace SocketAddress

/-! ## Readers -/

abbrev Reader (α : Type) := List Char → Option (α × List Char)

/-- The reader sees the text only up to the character, and leaves an end of its text. -/
structure StopsAt {α : Type} (c : Char) (read : Reader α) : Prop where
  append : ∀ cs t, read (cs ++ c :: t) = (read cs).map fun p => (p.1, p.2 ++ c :: t)
  suffix : ∀ {cs x r}, read cs = .some (x, r) → r <:+ cs

/-- Reads nothing, and has a result if there is one. -/
def given {α : Type} (x? : Option α) : Reader α := fun cs => x?.map fun x => (x, cs)

/-- One reader after another. -/
def andThen {α β : Type} (read : Reader α) (next : α → Reader β) : Reader β :=
  fun cs => (read cs).bind fun p => next p.1 p.2

def afterMark {α : Type} (mark : Char) (read : Reader α) : Reader α := fun cs => (readMark mark cs).bind read

/-- Turns what is read into something else. -/
def mapped {α β : Type} (f : α → β) (read : Reader α) : Reader β := fun cs => (read cs).map fun p => (f p.1, p.2)

/-- The first of two readers that succeeds. -/
def orElse {α : Type} (read other : Reader α) : Reader α := fun cs => (read cs).or (other cs)

variable {α β : Type} {c : Char} {read other : Reader α} {next : α → Reader β}

theorem stopsAt_given (c : Char) (x? : Option α) : StopsAt c (given x?) := by
  constructor
  · intro cs t
    cases x? <;> rfl
  · intro cs x r h
    obtain ⟨_, -, h⟩ := Option.map_eq_some_iff.mp h
    cases h
    exact List.suffix_refl _

theorem StopsAt.andThen (h : StopsAt c read) (hnext : ∀ x, StopsAt c (next x)) : StopsAt c (andThen read next) := by
  constructor
  · intro cs t
    unfold SocketAddress.andThen
    rw [h.append]
    cases read cs with
    | none => rfl
    | some p => exact (hnext p.1).append p.2 t
  · intro cs x r hr
    obtain ⟨p, hp, hr⟩ := Option.bind_eq_some_iff.mp hr
    exact ((hnext p.1).suffix hr).trans (h.suffix hp)

theorem readMark_eq_some_iff {mark : Char} {cs r : List Char} : readMark mark cs = .some r ↔ cs = mark :: r := by
  cases cs with
  | nil => simp [readMark]
  | cons d cs =>
    by_cases hd : d = mark <;> simp [readMark, hd]

theorem readMark_append {mark : Char} (hc : c ≠ mark) (cs t : List Char) :
    readMark mark (cs ++ c :: t) = (readMark mark cs).map (· ++ c :: t) := by
  cases cs with
  | nil => simp [readMark, hc]
  | cons d cs =>
    by_cases hd : d = mark <;> simp [readMark, hd]

theorem StopsAt.afterMark {mark : Char} (hc : c ≠ mark) (h : StopsAt c read) : StopsAt c (afterMark mark read) := by
  constructor
  · intro cs t
    unfold SocketAddress.afterMark
    rw [readMark_append hc]
    cases readMark mark cs with
    | none => rfl
    | some r => exact h.append r t
  · intro cs x r hr
    obtain ⟨r', hr', hr⟩ := Option.bind_eq_some_iff.mp hr
    rw [readMark_eq_some_iff.mp hr']
    exact (h.suffix hr).trans (List.suffix_cons _ _)

theorem StopsAt.mapped (h : StopsAt c read) (f : α → β) : StopsAt c (mapped f read) := by
  constructor
  · intro cs t
    unfold SocketAddress.mapped
    rw [h.append, Option.map_map, Option.map_map]
    rfl
  · intro cs x r hr
    obtain ⟨p, hp, hr⟩ := Option.map_eq_some_iff.mp hr
    cases hr
    exact h.suffix hp

theorem StopsAt.orElse (h : StopsAt c read) (hother : StopsAt c other) : StopsAt c (orElse read other) := by
  constructor
  · intro cs t
    unfold SocketAddress.orElse
    rw [h.append, hother.append]
    cases read cs <;> rfl
  · intro cs x r hr
    rcases Option.or_eq_some_iff.mp hr with hr | ⟨-, hr⟩
    · exact h.suffix hr
    · exact hother.suffix hr

/-! ## Numbers -/

def isDigitOf (base : Nat) (c : Char) : Bool := (Numeral.digitValue? base c).isSome

theorem spanDigits_eq (base : Nat) (cs : List Char) :
    spanDigits base cs = (cs.takeWhile (isDigitOf base), cs.dropWhile (isDigitOf base)) :=
  List.span_eq_takeWhile_dropWhile _ _

theorem spanDigits_append {base : Nat} (hc : isDigitOf base c = false) (cs t : List Char) :
    spanDigits base (cs ++ c :: t) = ((spanDigits base cs).1, (spanDigits base cs).2 ++ c :: t) := by
  rw [spanDigits_eq, spanDigits_eq, takeWhile_append_cons hc, dropWhile_append_cons hc]

theorem spanDigits_suffix (base : Nat) (cs : List Char) : (spanDigits base cs).2 <:+ cs := by
  rw [spanDigits_eq]
  exact List.dropWhile_suffix _

/-- Nothing comes next, or what is no digit of the base. -/
def EndsDigits (base : Nat) (rest : List Char) : Prop := ∀ c, rest.head? = .some c → isDigitOf base c = false

theorem endsDigits_nil (base : Nat) : EndsDigits base [] := by simp [EndsDigits]

theorem spanDigits_of_endsDigits {base : Nat} {cs rest : List Char} (hcs : ∀ c ∈ cs, isDigitOf base c = true)
    (h : EndsDigits base rest) : spanDigits base (cs ++ rest) = (cs, rest) := by
  rw [spanDigits_eq, takeWhile_append_of_head? hcs h, dropWhile_append_of_head? hcs h]

theorem isDigitOf_of_mem_inBase {b n : Nat} (hb : b + 2 ≤ 16) :
    ∀ c ∈ Numeral.inBase b n, isDigitOf (b + 2) c = true := by
  refine Numeral.forall_mem_inBase (P := fun c => isDigitOf (b + 2) c = true) (fun d hd => ?_) n
  rw [isDigitOf, Numeral.digitValue?_digitChar _ hb d hd]
  rfl

theorem stopsAt_readNumber {base : Nat} (hc : isDigitOf base c = false) (bound maxDigits : Nat) :
    StopsAt c (readNumber base bound maxDigits) := by
  constructor
  · intro cs t
    simp only [readNumber, spanDigits_append hc]
    split
    · rfl
    · simp [Option.map_map, Function.comp_def]
  · intro cs x r h
    simp only [readNumber] at h
    split at h
    · cases h
    · obtain ⟨_, -, h⟩ := Option.map_eq_some_iff.mp h
      cases h
      exact spanDigits_suffix base cs

/-- Of a number of any length no digit is too many. -/
theorem readLong_eq (bound : Nat) (cs : List Char) : readLong bound cs =
    ((Numeral.value? 10 (spanDigits 10 cs).1).filter (· < bound)).map fun n => (n, (spanDigits 10 cs).2) := by
  have hlength : ¬ cs.length < (spanDigits 10 cs).1.length := by
    rw [spanDigits_eq, Nat.not_lt]
    exact (List.takeWhile_sublist _).length_le
  simp only [readLong, readNumber, if_neg hlength]

theorem stopsAt_readLong (hc : isDigitOf 10 c = false) (bound : Nat) : StopsAt c (readLong bound) := by
  constructor
  · intro cs t
    simp only [readLong_eq, spanDigits_append hc, Option.map_map]
    rfl
  · exact fun h => (stopsAt_readNumber hc bound _).suffix h

theorem readOctet_eq (cs : List Char) : readOctet cs =
    if (spanDigits 10 cs).1.head? = .some '0' ∧ 1 < (spanDigits 10 cs).1.length then .none
    else mapped UInt8.ofNat (readNumber 10 256 3) cs := by
  unfold readOctet
  split
  · next h => simp [h]
  · next h =>
    rw [if_neg]
    · rfl
    rintro ⟨hhead, hlength⟩
    generalize hspan : spanDigits 10 cs = p at *
    obtain ⟨ds, r⟩ := p
    match ds with
    | [] => cases hhead
    | [d] => simp at hlength
    | d :: e :: ds =>
      cases hhead
      exact h _ _ _ rfl

theorem stopsAt_readOctet (hc : isDigitOf 10 c = false) : StopsAt c readOctet := by
  have hnumber := (stopsAt_readNumber hc 256 3).mapped UInt8.ofNat
  constructor
  · intro cs t
    simp only [readOctet_eq, spanDigits_append hc]
    split
    · rfl
    · exact hnumber.append cs t
  · intro cs x r h
    rw [readOctet_eq] at h
    split at h
    · cases h
    · exact hnumber.suffix h

/-! ## Addresses of both versions -/

theorem readV4_eq : readV4 = andThen readOctet fun a => afterMark '.' (andThen readOctet fun b =>
    afterMark '.' (andThen readOctet fun c => afterMark '.' (andThen readOctet fun d => given (.some ⟨a, b, c, d⟩)))) := rfl

theorem stopsAt_readV4 (hc : isDigitOf 10 c = false) (hpoint : c ≠ '.') : StopsAt c readV4 := by
  have hoctet := stopsAt_readOctet hc
  rw [readV4_eq]
  exact hoctet.andThen fun a => (hoctet.andThen fun b => (hoctet.andThen fun d => (hoctet.andThen fun e =>
    stopsAt_given c _).afterMark hpoint).afterMark hpoint).afterMark hpoint

/-- A character that ends an address of version 6. -/
structure EndsV6 (c : Char) : Prop where
  digit10 : isDigitOf 10 c = false
  digit16 : isDigitOf 16 c = false
  ne_point : c ≠ '.'
  ne_colon : c ≠ ':'

theorem endsV6_bracket : EndsV6 ']' := ⟨by decide, by decide, by decide, by decide⟩

theorem StopsAt.afterColon (hc : c ≠ ':') (first : Bool) (h : StopsAt c read) :
    StopsAt c (readAfterColon first read) := by
  cases first with
  | true => exact h
  | false => exact h.afterMark hc

theorem EndsV6.stopsAt_readV4 (hc : EndsV6 c) (first : Bool) : StopsAt c (readAfterColon first readV4) :=
  (SocketAddress.stopsAt_readV4 hc.digit10 hc.ne_point).afterColon hc.ne_colon first

theorem EndsV6.stopsAt_readGroup (hc : EndsV6 c) (first : Bool) : StopsAt c (readAfterColon first readGroup) :=
  ((stopsAt_readNumber hc.digit16 65536 4).mapped UInt16.ofNat).afterColon hc.ne_colon first

/-- The groups at the front of a text as a reader, which never fails. -/
def groupsReader (first : Bool) (limit : Nat) : Reader (List UInt16 × Bool) := fun cs =>
  let r := readGroups first limit cs
  .some ((r.1, r.2.1), r.2.2)

theorem groupsReader_succ (first : Bool) (limit : Nat) : groupsReader first (limit + 1) =
    orElse (mapped (fun x => (x.groups, true)) (if limit = 0 then given .none else readAfterColon first readV4))
      (orElse
        (andThen (readAfterColon first readGroup) fun g =>
          mapped (fun p => (g :: p.1, p.2)) (groupsReader false limit))
        (given (.some ([], false)))) := by
  funext cs
  have hv4 : (if limit = 0 then given .none else readAfterColon first readV4) cs =
      if limit = 0 then .none else readAfterColon first readV4 cs := by split <;> rfl
  simp only [groupsReader, readGroups, orElse, mapped, andThen, hv4]
  cases (if limit = 0 then .none else readAfterColon first readV4 cs) with
  | some p => rfl
  | none => cases readAfterColon first readGroup cs <;> rfl

theorem EndsV6.stopsAt_groupsReader (hc : EndsV6 c) (first : Bool) (limit : Nat) :
    StopsAt c (groupsReader first limit) := by
  induction limit generalizing first with
  | zero => exact stopsAt_given c (.some ([], false))
  | succ limit ih =>
    have hv4 : StopsAt c (if limit = 0 then given .none else readAfterColon first readV4) := by
      split
      · exact stopsAt_given c .none
      · exact hc.stopsAt_readV4 first
    rw [groupsReader_succ]
    exact (hv4.mapped _).orElse
      (((hc.stopsAt_readGroup first).andThen fun g => (ih false).mapped _).orElse (stopsAt_given c _))

theorem readV6_eq : readV6 = andThen (groupsReader true 8) fun front =>
    if front.1.length = 8 then given (ofGroups? front.1)
    else if front.2 then given .none
    else afterMark ':' (afterMark ':' (andThen (groupsReader true (7 - front.1.length)) fun back =>
      given (ofGroups? (fill front.1 back.1)))) := by
  funext cs
  simp only [readV6, andThen, groupsReader, Option.bind_some]
  split
  · rfl
  · split
    · rfl
    · refine Option.bind_congr fun r _ => Option.bind_congr fun r _ => ?_
      exact Option.map_eq_bind.symm

theorem EndsV6.stopsAt_readV6 (hc : EndsV6 c) : StopsAt c readV6 := by
  rw [readV6_eq]
  refine (hc.stopsAt_groupsReader true 8).andThen fun front => ?_
  split
  · exact stopsAt_given c _
  · split
    · exact stopsAt_given c _
    · exact (((hc.stopsAt_groupsReader true _).andThen fun back => stopsAt_given c _).afterMark
        hc.ne_colon).afterMark hc.ne_colon

/-- The scope at the front of a text as a reader. -/
def scopeReader : Reader UInt32 := fun cs => .some (readScope cs)

theorem scopeReader_eq : scopeReader =
    orElse (mapped UInt32.ofNat (afterMark '%' (readLong (Nat.pow 2 32)))) (given (.some 0)) := by
  funext cs
  simp only [scopeReader, readScope, orElse, mapped, afterMark]
  cases (readMark '%' cs).bind (readLong (Nat.pow 2 32)) <;> rfl

theorem stopsAt_scopeReader (hc : isDigitOf 10 c = false) (hmark : c ≠ '%') : StopsAt c scopeReader := by
  rw [scopeReader_eq]
  exact (((stopsAt_readLong hc _).afterMark hmark).mapped _).orElse (stopsAt_given c _)

/-- An address of version 6 and its scope. -/
def scopedReader : Reader (Ipv6 × UInt32) := andThen readV6 fun x => mapped (fun scope => (x, scope)) scopeReader

theorem stopsAt_scopedReader : StopsAt ']' scopedReader :=
  endsV6_bracket.stopsAt_readV6.andThen fun _ => (stopsAt_scopeReader (by decide) (by decide)).mapped _

/-! ## Ports -/

theorem readPort_eq (cs : List Char) : readPort cs = mapped UInt16.ofNat (afterMark ':' (readLong 65536)) cs := by
  simp only [readPort, mapped, afterMark]
  cases readMark ':' cs with
  | none => rfl
  | some r => cases h : readLong 65536 r <;> simp [h]

/-- A colon and the digits of a number. -/
def portChars (port : UInt16) : List Char := ':' :: Numeral.digits port.toNat

theorem readLong_digits {bound n : Nat} (h : n < bound) : readLong bound (Numeral.digits n) = .some (n, []) := by
  have hspan : spanDigits 10 (Numeral.digits n) = (Numeral.digits n, []) := by
    have hwhole := spanDigits_of_endsDigits (isDigitOf_of_mem_inBase (b := 8) (n := n) (by decide)) (endsDigits_nil 10)
    rwa [List.append_nil] at hwhole
  rw [readLong_eq, hspan, Numeral.value?_digits]
  simp [h]

theorem readPort_portChars (port : UInt16) : readPort (portChars port) = .some (port, []) := by
  have hlong := readLong_digits port.toNat_lt
  rw [readPort_eq]
  simp [mapped, afterMark, portChars, readMark, hlong]

/-- What comes before the colon of the port is not read as a part of it. -/
theorem readPort_append_eq_some_iff {cs : List Char} {port p : UInt16} :
    readPort (cs ++ portChars port) = .some (p, []) ↔ cs = [] ∧ p = port := by
  constructor
  · intro h
    cases cs with
    | nil =>
      rw [List.nil_append, readPort_portChars] at h
      cases h
      exact ⟨rfl, rfl⟩
    | cons c cs =>
      rw [readPort_eq] at h
      obtain ⟨⟨n, r⟩, hafter, hr⟩ := Option.map_eq_some_iff.mp h
      obtain ⟨r', hmark, hlong⟩ := Option.bind_eq_some_iff.mp hafter
      have hr' : cs ++ portChars port = r' := (List.cons_eq_cons.mp (readMark_eq_some_iff.mp hmark)).2
      rw [← hr', portChars, (stopsAt_readLong (by decide) _).append] at hlong
      obtain ⟨_, -, hrest⟩ := Option.map_eq_some_iff.mp hlong
      cases hrest
      simp at hr
  · rintro ⟨rfl, rfl⟩
    exact readPort_portChars p

/-! ## Hosts -/

/-- The addresses that a host stands for: one of version 4, or one of version 6 in brackets. -/
inductive OfHost (port : UInt16) : List Char → SocketAddress → Prop
  | v4 {cs : List Char} {x : Ipv4} (h : readV4 cs = .some (x, [])) : OfHost port cs (.v4 x port)
  | v6 {cs : List Char} {x : Ipv6} {scope : UInt32} (h : scopedReader cs = .some ((x, scope), [])) :
    OfHost port ('[' :: (cs ++ [']'])) (.v6 x scope port)

theorem readSocketV4_eq (cs : List Char) :
    readSocketV4 cs = andThen readV4 (fun x => mapped (.v4 x) readPort) cs := by
  unfold readSocketV4 andThen mapped
  exact Option.bind_congr fun p _ => Option.map_eq_bind.symm

theorem readSocketV6_eq (cs : List Char) : readSocketV6 cs =
    afterMark '[' (andThen scopedReader fun x => afterMark ']' (mapped (.v6 x.1 x.2) readPort)) cs := by
  unfold readSocketV6 afterMark scopedReader andThen mapped scopeReader
  refine Option.bind_congr fun body _ => ?_
  cases readV6 body with
  | none => rfl
  | some p => exact Option.bind_congr fun r _ => Option.map_eq_bind.symm

theorem readSocketV4_append_eq_some_iff {host : List Char} {port : UInt16} {a : SocketAddress} :
    readSocketV4 (host ++ portChars port) = .some (a, []) ↔
      ∃ x, readV4 host = .some (x, []) ∧ a = .v4 x port := by
  have hcolon : StopsAt ':' readV4 := stopsAt_readV4 (by decide) (by decide)
  rw [readSocketV4_eq, andThen, portChars, hcolon.append]
  constructor
  · intro h
    obtain ⟨p, hv4, hport⟩ := Option.bind_eq_some_iff.mp h
    obtain ⟨⟨x, r⟩, hhost, rfl⟩ := Option.map_eq_some_iff.mp hv4
    obtain ⟨⟨p, r'⟩, hread, heq⟩ := Option.map_eq_some_iff.mp hport
    cases heq
    obtain ⟨rfl, rfl⟩ := readPort_append_eq_some_iff.mp hread
    exact ⟨x, hhost, rfl⟩
  · rintro ⟨x, hhost, rfl⟩
    have hport : readPort (':' :: Numeral.digits port.toNat) = .some (port, []) := readPort_portChars port
    simp [mapped, hhost, hport]

theorem bracket_not_mem_portChars (port : UInt16) : ']' ∉ portChars port := by
  intro h
  rcases List.mem_cons.mp h with h | h
  · cases h
  · exact absurd (Numeral.isDigit_of_mem_digits h) (by decide)

/-- The bracket that ends an address of version 6 is the first one and the last of the host. -/
theorem scopedReader_append_eq_some {host r : List Char} {port p : UInt16} {x : Ipv6 × UInt32}
    (hread : scopedReader (host ++ portChars port) = .some (x, ']' :: r)) (hport : readPort r = .some (p, [])) :
    ∃ cs, host = cs ++ [']'] ∧ scopedReader cs = .some (x, []) ∧ p = port := by
  have hmem : ']' ∈ host := by
    have hsuffix := (stopsAt_scopedReader.suffix hread).subset List.mem_cons_self
    exact (List.mem_append.mp hsuffix).resolve_right (bracket_not_mem_portChars port)
  obtain ⟨cs, back, rfl, hfirst⟩ := List.eq_append_cons_of_mem hmem
  rw [List.append_assoc, List.cons_append, stopsAt_scopedReader.append] at hread
  obtain ⟨⟨y, rest⟩, hcs, heq⟩ := Option.map_eq_some_iff.mp hread
  obtain ⟨rfl, hrest⟩ := Prod.mk.inj heq
  cases rest with
  | cons c rest =>
    obtain ⟨rfl, -⟩ := List.cons_eq_cons.mp hrest
    exact absurd ((stopsAt_scopedReader.suffix hcs).subset List.mem_cons_self) hfirst
  | nil =>
    obtain ⟨-, rfl⟩ := List.cons_eq_cons.mp hrest
    obtain ⟨rfl, rfl⟩ := readPort_append_eq_some_iff.mp hport
    exact ⟨cs, rfl, hcs, rfl⟩

theorem readSocketV6_append_eq_some_iff {host : List Char} {port : UInt16} {a : SocketAddress} :
    readSocketV6 (host ++ portChars port) = .some (a, []) ↔ ∃ cs x scope,
      host = '[' :: (cs ++ [']']) ∧ scopedReader cs = .some ((x, scope), []) ∧ a = .v6 x scope port := by
  rw [readSocketV6_eq]
  constructor
  · intro h
    obtain ⟨body, hmark, hafter⟩ := Option.bind_eq_some_iff.mp h
    obtain ⟨⟨⟨x, scope⟩, r⟩, hread, hend⟩ := Option.bind_eq_some_iff.mp hafter
    obtain ⟨r', hbracket, hlast⟩ := Option.bind_eq_some_iff.mp hend
    obtain ⟨⟨p, r''⟩, hport, heq⟩ := Option.map_eq_some_iff.mp hlast
    cases heq
    obtain rfl : r = ']' :: r' := readMark_eq_some_iff.mp hbracket
    cases host with
    | nil => cases readMark_eq_some_iff.mp hmark
    | cons c host =>
      obtain ⟨rfl, hbody⟩ := List.cons_eq_cons.mp (readMark_eq_some_iff.mp hmark)
      rw [← hbody] at hread
      obtain ⟨cs, rfl, hcs, rfl⟩ := scopedReader_append_eq_some hread hport
      exact ⟨cs, x, scope, rfl, hcs, rfl⟩
  · rintro ⟨cs, x, scope, rfl, hcs, rfl⟩
    have hbody : scopedReader (cs ++ ']' :: portChars port) = .some ((x, scope), ']' :: portChars port) := by
      rw [stopsAt_scopedReader.append, hcs]
      rfl
    have hport := readPort_portChars port
    simp [afterMark, readMark, andThen, mapped, hbody, hport]

theorem readSocketV4_bracket (cs : List Char) : readSocketV4 ('[' :: cs) = .none := rfl

theorem ofChars?_eq_some_iff {cs : List Char} {a : SocketAddress} : ofChars? cs = .some a ↔
    readSocketV4 cs = .some (a, []) ∨ (readSocketV4 cs = .none ∧ readSocketV6 cs = .some (a, [])) := by
  have hread : ofChars? cs = .some a ↔ (readSocketV4 cs).or (readSocketV6 cs) = .some (a, []) := by
    unfold ofChars?
    split
    · next h => simp [h]
    · next h =>
      simp only [reduceCtorEq, false_iff]
      exact h a
  rw [hread, Option.or_eq_some_iff]

/-- A host with a port is an address exactly if the host is one alone, and then its port is that one. -/
theorem ofChars?_append_portChars_iff {host : List Char} {port : UInt16} {a : SocketAddress} :
    ofChars? (host ++ portChars port) = .some a ↔ OfHost port host a := by
  rw [ofChars?_eq_some_iff, readSocketV4_append_eq_some_iff, readSocketV6_append_eq_some_iff]
  constructor
  · rintro (⟨x, hx, rfl⟩ | ⟨-, cs, x, scope, rfl, hcs, rfl⟩)
    · exact .v4 hx
    · exact .v6 hcs
  · rintro (⟨hx⟩ | ⟨hcs⟩)
    · exact .inl ⟨_, hx, rfl⟩
    · exact .inr ⟨readSocketV4_bracket _, _, _, _, rfl, hcs, rfl⟩

end SocketAddress

theorem ServerSettings.address_eq_ok_iff (s : ServerSettings) (a : SocketAddress) :
    s.address = .ok a ↔ SocketAddress.OfHost s.port s.host.toList a := by
  rw [← SocketAddress.ofChars?_append_portChars_iff]
  unfold ServerSettings.address
  change _ ↔ SocketAddress.ofChars? (s.host.toList ++ ':' :: Numeral.digits s.port.toNat) = _
  cases SocketAddress.ofChars? (s.host.toList ++ ':' :: Numeral.digits s.port.toNat) <;> simp

theorem ServerSettings.address_eq_error_iff (s : ServerSettings) :
    s.address = .error .address ↔ ∀ a, ¬SocketAddress.OfHost s.port s.host.toList a := by
  simp only [← address_eq_ok_iff]
  unfold address
  cases SocketAddress.ofChars? (s.host.toList ++ ':' :: Numeral.digits s.port.toNat) <;> simp

end MarketSearch
