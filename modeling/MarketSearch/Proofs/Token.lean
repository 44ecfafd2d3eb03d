/-
Soundness of the verifier: what a token has to be for its claims to count
(`Verifier.Vouches`), and that nothing else is let through, whatever it says
about itself (`Verifier.authorize_sound`).

A token is taken apart from the outside in.  Its parts are the texts between
points and, since bytes have one written form in base64, each part is the
written form of some bytes; what bytes say as data is the reader's business
(`Json.ofBytes?` for the header, and for the payload a view of what matters of
it).  The checks are then inverted one by one: header and signature, then
payload and time, then the scope.  The digest itself is never opened.  A claim that
is not known plays no part, whatever it holds (`Verifier.verify_sealed_insert`).
-/
import MarketSearch.Proofs.Base64
import MarketSearch.Proofs.Fields
import MarketSearch.Proofs.View
import MarketSearch.Token.Verifier

namespace MarketSearch

/-! ## Parts -/

namespace Text

variable {mark : Char} {cs a b : List Char}

theorem not_mem_of_splitLast? (h : splitLast? mark cs = .none) : mark ∉ cs := by
  induction cs with
  | nil => exact List.not_mem_nil
  | cons c cs ih =>
    unfold splitLast? at h
    split at h
    · cases h
    · next hcs =>
      split at h
      · cases h
      · next hc => exact List.not_mem_cons_of_ne_of_not_mem (Ne.symm hc) (ih hcs)

theorem splitLast?_eq_some_iff : splitLast? mark cs = .some (a, b) ↔ cs = a ++ mark :: b ∧ mark ∉ b := by
  refine ⟨fun h => ?_, fun ⟨hcs, hb⟩ => hcs ▸ splitLast?_append a hb⟩
  induction cs generalizing a with
  | nil => cases h
  | cons c cs ih =>
    unfold splitLast? at h
    split at h
    · next hcs =>
      cases h
      obtain ⟨rfl, hb⟩ := ih hcs
      exact ⟨rfl, hb⟩
    · next hcs =>
      split at h
      · next hc =>
        cases h
        exact ⟨by rw [hc, List.nil_append], not_mem_of_splitLast? hcs⟩
      · cases h

end Text

namespace Token

variable {cs : List Char} {bs : Bytes} {v : Json} {t : Token}

open Verifier (partOf)

theorem toNat_lt_of_mem_encode {b : UInt8} (h : b ∈ Base64.encode bs) : b.toNat < 0x80 := by
  obtain ⟨v, hv, rfl⟩ := Base64.exists_symbol_of_mem_encode h
  rw [Base64.toNat_symbol hv]
  grind

theorem encode_partOf (bs : Bytes) : Utf8.encode (partOf bs) = Base64.encode bs :=
  Utf8.encode_map_ofNat fun _ => toNat_lt_of_mem_encode

theorem exists_symbol_of_mem_partOf {c : Char} (h : c ∈ partOf bs) :
    ∃ n < 64, c = Char.ofNat (Base64.symbol n).toNat := by
  obtain ⟨b, hb, rfl⟩ := List.mem_map.mp h
  obtain ⟨n, hn, rfl⟩ := Base64.exists_symbol_of_mem_encode hb
  exact ⟨n, hn, rfl⟩

theorem point_not_mem_partOf (bs : Bytes) : '.' ∉ partOf bs := fun h => by
  obtain ⟨n, hn, hc⟩ := exists_symbol_of_mem_partOf h
  have hall : ∀ n < 64, '.' ≠ Char.ofNat (Base64.symbol n).toNat := by decide
  exact hall n hn hc

/-- A part is read as bytes when it is their written form. -/
theorem part_eq_ok_iff : part cs = .ok bs ↔ cs = partOf bs := by
  rw [← Utf8.encode_inj, encode_partOf, ← Base64.decode_eq_ok_iff]
  unfold part
  cases Base64.decode (Utf8.encode cs) <;> simp

/-- The part is the written form of bytes that are read as `v`. -/
def Carries (read? : Bytes → Option Json) (cs : List Char) (v : Json) : Prop :=
  ∃ bs, cs = partOf bs ∧ read? bs = .some v

theorem partValue_eq_ok_iff {read? : Bytes → Option Json} : partValue read? cs = .ok v ↔ Carries read? cs v := by
  unfold partValue Carries
  rw [bind_eq_ok_iff]
  refine exists_congr fun bs => and_congr part_eq_ok_iff ?_
  cases read? bs <;> simp

theorem partValue_partOf (read? : Bytes → Option Json) (bs : Bytes) :
    partValue read? (partOf bs) = orData (read? bs) := by
  have hpart : part (partOf bs) = .ok bs := part_eq_ok_iff.mpr rfl
  simp only [partValue, hpart, bind, Except.bind]
  cases read? bs <;> rfl

theorem ofChars?_eq_some_iff : ofChars? cs = .some t ↔
    cs = t.signed ++ '.' :: t.signature ∧ '.' ∉ t.payload ∧ '.' ∉ t.signature := by
  unfold ofChars?
  simp only [Option.bind_eq_some_iff, Option.map_eq_some_iff, Prod.exists, Text.splitLast?_eq_some_iff]
  constructor
  · rintro ⟨_, _, ⟨rfl, hs⟩, _, _, ⟨rfl, hp⟩, rfl⟩
    exact ⟨rfl, hp, hs⟩
  · rintro ⟨rfl, hp, hs⟩
    exact ⟨_, _, ⟨rfl, hs⟩, _, _, ⟨rfl, hp⟩, rfl⟩

theorem ofChars?_toList_iff {token : String} : ofChars? token.toList = .some t ↔
    token = t.text ∧ '.' ∉ t.payload ∧ '.' ∉ t.signature := by
  rw [ofChars?_eq_some_iff, text, ← String.toList_inj, String.toList_ofList]

end Token

/-! ## Header -/

namespace TokenHeader

/-- The header names an algorithm, in one of the two ways to write a name. -/
def Names (v : Json) (algorithm : String) : Prop :=
  Json.under "alg" v = [.str algorithm] ∨ Json.under "alg" v = [.obj [(algorithm, .null)]]

theorem isSetBy_alg : layout.IsSetBy id "alg" := by
  intro f hf hne
  simp only [layout, List.mem_cons, List.mem_map] at hf
  rcases hf with rfl | rfl | rfl | rfl | ⟨n, -, rfl⟩
  · exact absurd rfl hne
  all_goals exact keeps_field fun _ _ => rfl

theorem eq_of_lookup_labelled {name : String}
    (h : SigningAlgorithm.labelled.lookup name = .some .hs256) : name = "HS256" := by
  obtain ⟨_, _, hl, -⟩ := List.lookup_eq_some_iff.mp h
  have hmem : (name, SigningAlgorithm.hs256) ∈ SigningAlgorithm.labelled := by simp [hl]
  simpa [SigningAlgorithm.labelled] using hmem

theorem names_of_algorithm? {v : Json} (h : algorithm? v = .some .hs256) : Names v "HS256" := by
  unfold algorithm? at h
  split at h
  · next fields =>
    split at h
    · have hr : layout.decodeOnce .none (.obj fields) = .ok (.some .hs256) :=
        toOption_eq_some_iff.mp (Option.join_eq_some_iff.mp h)
      rcases Json.Layout.get_of_decodeOnce rfl isSetBy_alg hr with ⟨-, hget⟩ | ⟨v, _, _, hv, hset, hget⟩
      · cases hget
      · obtain ⟨a, ha, rfl⟩ := set_field_eq_ok_iff.mp hset
        obtain rfl : .hs256 = a := Option.some.inj hget
        obtain ⟨name, hname, hshape⟩ := Json.choice_eq_ok_iff.mp ha
        obtain rfl := eq_of_lookup_labelled hname
        rcases hshape with rfl | rfl
        · exact .inl hv
        · exact .inr hv
    · cases h
  · cases h

end TokenHeader

/-! ## Claims -/

namespace Claims

variable {c : Claims} {v : Json} {p : Payload}

/-- The claims are what an object says: each once, and the scope possibly not at all. -/
structure IsWrittenIn (c : Claims) (v : Json) : Prop where
  sub : Json.under "sub" v = [.str c.sub]
  scope : Json.under "scope" v = [.str c.scope] ∨ Json.under "scope" v = [] ∧ c.scope = ""
  exp : Json.under "exp" v = [.int c.exp]
  exp_lt : c.exp < Nat.pow 2 64

/-- The fields of a payload that matter are looked at as values. -/
theorem ofBytes?_view {cs : List Char} {fields : List (String × Json)}
    (h : Json.ofChars? cs = .some (.obj fields)) (hnames : ∀ f ∈ fields, f.1 ∈ ["sub", "scope", "exp"]) :
    view.ofBytes? (Utf8.encode cs) = .some (.obj fields) := by
  refine Json.View.ofBytes?_record h fun f hf => ?_
  have hname := hnames f hf
  simp only [List.mem_cons, List.not_mem_nil, or_false] at hname
  rcases hname with hname | hname | hname <;> rw [hname] <;> rfl

/-- Each part of a payload has a field of its own. -/
theorem isSetBy_parts : layout.IsSetBy Payload.sub "sub" ∧ layout.IsSetBy Payload.scope "scope" ∧
    layout.IsSetBy Payload.exp "exp" := by
  refine ⟨?_, ?_, ?_⟩
  all_goals
    intro f hf hne
    simp only [layout, List.mem_cons, List.not_mem_nil, or_false] at hf
    rcases hf with rfl | rfl | rfl | rfl | rfl | rfl
    all_goals first
      | exact absurd rfl hne
      | exact keeps_field fun _ _ => rfl

theorem ofPayload?_eq_some_iff : ofPayload? p = .some c ↔
    p.sub = .some c.sub ∧ p.scope = c.scope ∧ p.exp = .some c.exp := by
  obtain ⟨sub, scope, exp, audience⟩ := p
  obtain ⟨_, _, _⟩ := c
  cases sub <;> cases exp <;> simp [ofPayload?]

theorem isWrittenIn_of_payload? (hp : payload? v = .some p) (hc : ofPayload? p = .some c) :
    c.IsWrittenIn v := by
  obtain ⟨hsub, hscope, hexp⟩ := ofPayload?_eq_some_iff.mp hc
  unfold payload? at hp
  split at hp
  · next fields =>
    have hr : layout.decodeOnce .blank (.obj fields) = .ok p := toOption_eq_some_iff.mp hp
    obtain ⟨hset_sub, hset_scope, hset_exp⟩ := isSetBy_parts
    have hsub' : Json.under "sub" (.obj fields) = [.str c.sub] := by
      rcases Json.Layout.get_of_decodeOnce rfl hset_sub hr with ⟨-, hget⟩ | ⟨x, _, _, hx, hset, hget⟩
      · cases hsub.symm.trans hget
      · obtain ⟨s, hs, rfl⟩ := set_field_eq_ok_iff.mp hset
        obtain rfl : c.sub = s := Option.some.inj (hsub.symm.trans hget)
        rw [hx, Json.string_eq_ok_iff.mp hs]
    have hscope' : Json.under "scope" (.obj fields) = [.str c.scope] ∨
        Json.under "scope" (.obj fields) = [] ∧ c.scope = "" := by
      rcases Json.Layout.get_of_decodeOnce rfl hset_scope hr with ⟨hx, hget⟩ | ⟨x, _, _, hx, hset, hget⟩
      · exact .inr ⟨hx, hscope.symm.trans hget⟩
      · obtain ⟨s, hs, rfl⟩ := set_field_eq_ok_iff.mp hset
        obtain rfl : c.scope = s := hscope.symm.trans hget
        exact .inl (by rw [hx, Json.string_eq_ok_iff.mp hs])
    have hexp' : Json.under "exp" (.obj fields) = [.int c.exp] ∧ c.exp < Nat.pow 2 64 := by
      rcases Json.Layout.get_of_decodeOnce rfl hset_exp hr with ⟨-, hget⟩ | ⟨x, _, _, hx, hset, hget⟩
      · cases hexp.symm.trans hget
      · obtain ⟨n, hn, rfl⟩ := set_field_eq_ok_iff.mp hset
        obtain rfl : c.exp = n := Option.some.inj (hexp.symm.trans hget)
        obtain ⟨rfl, hlt⟩ := Json.unsigned_eq_ok_iff.mp hn
        exact ⟨hx, hlt⟩
    exact ⟨hsub', hscope', hexp'.1, hexp'.2⟩
  · cases hp

end Claims

/-! ## The verifier -/

namespace Verifier

open Grammar (Member gathering plainly string? string?_plainly)

variable {v : Verifier} {now : Nat} {token : String} {t : Token} {c : Claims}

/-- The token vouches for the claims: its header names the keyed digest, its signature is the digest
of the other two parts under the secret, its payload says the claims, and their time has not passed. -/
structure Vouches (v : Verifier) (now : Nat) (t : Token) (c : Claims) : Prop where
  header : ∃ h, Token.Carries Json.ofBytes? t.header h ∧ TokenHeader.Names h "HS256"
  signature : t.signature = partOf (v.signature t.signed)
  payload : ∃ p, Token.Carries Claims.view.ofBytes? t.payload p ∧ c.IsWrittenIn p
  exp : now ≤ c.exp + leeway

theorem orData_eq_ok_iff {α : Type} {x : Option α} {a : α} : Token.orData x = .ok a ↔ x = .some a := by
  cases x <;> simp [Token.orData]

theorem checkSignature_eq_ok_iff : v.checkSignature t = .ok () ↔
    (∃ h, Token.Carries Json.ofBytes? t.header h ∧ TokenHeader.algorithm? h = .some .hs256) ∧
      t.signature = partOf (v.signature t.signed) := by
  unfold checkSignature
  simp only [bind_eq_ok_iff, orData_eq_ok_iff, Token.partValue_eq_ok_iff]
  constructor
  · rintro ⟨h, hh, algorithm, ha, hchecks⟩
    split at hchecks
    · cases hchecks
    · next halgorithm =>
      obtain ⟨mac, hmac, hchecks⟩ := bind_eq_ok_iff.mp hchecks
      split at hchecks
      · cases hchecks
      · next hsame =>
        refine ⟨⟨h, hh, ?_⟩, ?_⟩
        · rw [ha, Classical.not_not.mp halgorithm]
        · rw [← Classical.not_not.mp hsame, ← Token.part_eq_ok_iff, hmac]
  · rintro ⟨⟨h, hh, ha⟩, hs⟩
    refine ⟨h, hh, .hs256, ha, ?_⟩
    rw [if_neg (not_not_intro rfl), Token.part_eq_ok_iff.mpr hs]
    exact if_neg (not_not_intro rfl)

theorem checkClaims_eq_ok_iff : checkClaims now t = .ok c ↔
    ∃ h p, Token.Carries Claims.view.ofBytes? t.payload h ∧ Claims.payload? h = .some p ∧ Claims.ofPayload? p = .some c ∧
      now ≤ c.exp + leeway ∧ p.hasAudience = false := by
  unfold checkClaims
  simp only [bind_eq_ok_iff, orData_eq_ok_iff, Token.partValue_eq_ok_iff]
  constructor
  · rintro ⟨h, hh, p, hp, claims, hclaims, hchecks⟩
    split at hchecks
    · cases hchecks
    · next htime =>
      split at hchecks
      · cases hchecks
      · next haudience =>
        cases hchecks
        exact ⟨h, p, hh, hp, hclaims, by omega, by simpa using haudience⟩
  · rintro ⟨h, p, hh, hp, hclaims, htime, haudience⟩
    refine ⟨h, hh, p, hp, c, hclaims, ?_⟩
    rw [if_neg (by omega), haudience]
    rfl

theorem verify_eq_ok_iff : v.verify now token = .ok c ↔
    ∃ t, Token.ofChars? token.toList = .some t ∧ v.checkSignature t = .ok () ∧ checkClaims now t = .ok c := by
  unfold verify
  cases Token.ofChars? token.toList with
  | none => simp
  | some t =>
    simp only [bind_eq_ok_iff, Option.some.injEq, exists_eq_left']
    exact ⟨fun ⟨(), hs, hc⟩ => ⟨hs, hc⟩, fun ⟨hs, hc⟩ => ⟨(), hs, hc⟩⟩

theorem vouches_of_checks (hs : v.checkSignature t = .ok ()) (hc : checkClaims now t = .ok c) :
    v.Vouches now t c := by
  obtain ⟨⟨h, hh, ha⟩, hsignature⟩ := checkSignature_eq_ok_iff.mp hs
  obtain ⟨p, q, hp, hq, hclaims, htime, -⟩ := checkClaims_eq_ok_iff.mp hc
  exact ⟨⟨h, hh, TokenHeader.names_of_algorithm? ha⟩, hsignature,
    ⟨p, hp, Claims.isWrittenIn_of_payload? hq hclaims⟩, htime⟩

theorem vouches_of_verify (h : v.verify now token = .ok c) : ∃ t, token = t.text ∧ v.Vouches now t c := by
  obtain ⟨t, ht, hs, hc⟩ := verify_eq_ok_iff.mp h
  exact ⟨t, (Token.ofChars?_toList_iff.mp ht).1, vouches_of_checks hs hc⟩

/-! ## Sealing -/

/-- The token with these texts as header and payload. -/
def sealed (v : Verifier) (header payload : List Char) : Token :=
  let header := partOf (Utf8.encode header)
  let payload := partOf (Utf8.encode payload)
  ⟨header, payload, partOf (v.signature (header ++ '.' :: payload))⟩

theorem ofChars?_sealed (v : Verifier) (header payload : List Char) :
    Token.ofChars? (v.sealed header payload).text.toList = .some (v.sealed header payload) :=
  Token.ofChars?_toList_iff.mpr ⟨rfl, Token.point_not_mem_partOf _, Token.point_not_mem_partOf _⟩

/-- A sealed token is accepted when its texts say what is required of them. -/
theorem verify_sealed {header payload : List Char} {h p : Json} {q : Claims.Payload}
    (hh : Json.ofChars? header = .some h) (ha : TokenHeader.algorithm? h = .some .hs256)
    (hp : Claims.view.ofBytes? (Utf8.encode payload) = .some p) (hq : Claims.payload? p = .some q)
    (hc : Claims.ofPayload? q = .some c) (hnow : now ≤ c.exp + leeway) (haudience : q.hasAudience = false) :
    v.verify now (v.sealed header payload).text = .ok c := by
  have hheader : Json.ofBytes? (Utf8.encode header) = .some h := by
    rw [Json.ofBytes?, Utf8.decode?_eq_some_iff.mpr rfl, Option.bind_some, hh]
  exact verify_eq_ok_iff.mpr ⟨_, ofChars?_sealed v header payload,
    checkSignature_eq_ok_iff.mpr ⟨⟨h, ⟨_, rfl, hheader⟩, ha⟩, rfl⟩,
    checkClaims_eq_ok_iff.mpr ⟨p, q, ⟨_, rfl, hp⟩, hq, hc, hnow, haudience⟩⟩

/-- Whether header and signature of a sealed token are right is a matter of its header. -/
theorem checkSignature_sealed (v : Verifier) (header payload payload' : List Char) :
    v.checkSignature (v.sealed header payload) = v.checkSignature (v.sealed header payload') := by
  have hsignature : ∀ payload, Token.part (v.sealed header payload).signature =
      .ok (v.signature (v.sealed header payload).signed) := fun _ => Token.part_eq_ok_iff.mpr rfl
  have hheader : (v.sealed header payload).header = (v.sealed header payload').header := rfl
  simp only [checkSignature, hsignature, hheader]
  simp [bind, Except.bind]

/-- **A claim that is not known plays no part**, whatever it holds. -/
theorem verify_sealed_insert (header : List Char) {m : Member} {name : String}
    (hname : string? m.1.inner = .some name) (hunknown : name ∉ ["sub", "scope", "exp", "aud", "nbf", "iss"])
    (front back : List Member) :
    v.verify now (v.sealed header (gathering (front ++ m :: back)).chars).text =
      v.verify now (v.sealed header (gathering (front ++ back)).chars).text := by
  have hview : Claims.view.ofBytes? (Utf8.encode (gathering (front ++ m :: back)).chars) =
      Claims.view.ofBytes? (Utf8.encode (gathering (front ++ back)).chars) := by
    refine Json.View.ofBytes?_gathering hname ?_ front back
    simpa [List.lookup_eq_none_iff] using hunknown
  have hclaims : checkClaims now (v.sealed header (gathering (front ++ m :: back)).chars) =
      checkClaims now (v.sealed header (gathering (front ++ back)).chars) := by
    rw [checkClaims, checkClaims, sealed, sealed, Token.partValue_partOf, Token.partValue_partOf, hview]
  simp only [verify, ofChars?_sealed, hclaims]
  rw [checkSignature_sealed v header _ (gathering (front ++ back)).chars]
/-- What a reader's token says. -/
def readerHeader : List Char := "\x7b\"typ\":\"JWT\",\"alg\":\"HS256\"\x7d".toList

def readerPayload : List Char :=
  "\x7b\"sub\":\"reader\",\"scope\":\"product:write product:read\",\"exp\":4102444800\x7d".toList

def readerClaims : Claims := ⟨"reader", "product:write product:read", 4102444800⟩

theorem verify_reader (v : Verifier) :
    v.verify 1735689600 (v.sealed readerHeader readerPayload).text = .ok readerClaims :=
  verify_sealed rfl rfl (Claims.ofBytes?_view rfl (by decide)) rfl rfl (by decide) rfl

/-- The fields of what the reader's token says. -/
def readerFields : List Member :=
  [(.tight (plainly "sub" (by decide)), .tight (.string (plainly "reader" (by decide)))),
    (.tight (plainly "scope" (by decide)), .tight (.string (plainly "product:write product:read" (by decide)))),
    (.tight (plainly "exp" (by decide)), .tight (.number
      ⟨false, ⟨['4', '1', '0', '2', '4', '4', '4', '8', '0', '0'], by decide⟩, .none, .none, by decide⟩))]

/-- A field that is not known, with a number out of range. -/
def endlessLevel : Member := (.tight (plainly "level" (by decide)), .tight (.number .endless))

/-- What the reader's token says, and this field besides. -/
def endlessPayload : List Char :=
  ("\x7b\"sub\":\"reader\",\"scope\":\"product:write product:read\",\"exp\":4102444800," ++
    "\"level\":1e400\x7d").toList

theorem verify_endless (v : Verifier) :
    v.verify 1735689600 (v.sealed readerHeader endlessPayload).text = .ok readerClaims := by
  have hless : (gathering readerFields).chars = readerPayload := by decide +kernel
  have hmore : (gathering (readerFields ++ [endlessLevel])).chars = endlessPayload := by decide +kernel
  have hinsert := @verify_sealed_insert v 1735689600 readerHeader endlessLevel "level"
    (string?_plainly "level" (by decide)) (by decide) readerFields []
  rw [hmore, List.append_nil, hless] at hinsert
  exact hinsert.trans (verify_reader v)

/-! ## The scope -/

theorem hasScope_iff {scope : String} : c.hasScope scope = true ↔ scope ∈ Text.words c.scope := by
  rw [Claims.hasScope, List.contains_iff_mem]

theorem authorize_eq_ok_iff : v.authorize now token = .ok c ↔
    v.verify now token = .ok c ∧ v.requiredScope ∈ Text.words c.scope := by
  rw [← hasScope_iff, authorize]
  cases v.verify now token with
  | error f => simp
  | ok claims =>
    dsimp only
    split
    · next hs =>
      simp only [Except.ok.injEq]
      exact ⟨fun h => ⟨h, h ▸ hs⟩, And.left⟩
    · next hs =>
      simp only [reduceCtorEq, Except.ok.injEq, false_iff]
      rintro ⟨rfl, hs'⟩
      exact hs hs'

theorem authorize_eq_missingScope_iff {scope : String} :
    v.authorize now token = .error (.missingScope scope) ↔
      scope = v.requiredScope ∧ ∃ c, v.verify now token = .ok c ∧ v.requiredScope ∉ Text.words c.scope := by
  simp only [← hasScope_iff]
  unfold authorize
  cases v.verify now token with
  | error f => simp [AuthFault.ofToken]
  | ok claims =>
    simp only [Except.ok.injEq, exists_eq_left']
    split
    · next hs => simp [hs]
    · next hs => simp [hs, eq_comm]

/-- **Nobody is let through but the bearer of a sealed token.** Claims are accepted when a token
vouches for them and they grant the scope required; claims that a token vouches for alone miss the
scope; and every other token is invalid, whatever its payload says: among them are those whose
signature is not the digest of the other parts and those whose header names another algorithm. -/
theorem authorize_sound (v : Verifier) (now : Nat) (token : String) :
    (∀ c, v.authorize now token = .ok c →
      (∃ t, token = t.text ∧ v.Vouches now t c) ∧ v.requiredScope ∈ Text.words c.scope) ∧
    (∀ scope, v.authorize now token = .error (.missingScope scope) → scope = v.requiredScope ∧
      ∃ c, (∃ t, token = t.text ∧ v.Vouches now t c) ∧ v.requiredScope ∉ Text.words c.scope) ∧
    ((∀ c, v.authorize now token ≠ .ok c) →
      (∀ scope, v.authorize now token ≠ .error (.missingScope scope)) →
      ∃ reason, v.authorize now token = .error (.invalidToken reason)) ∧
    ∀ t : Token, token = t.text → '.' ∉ t.payload → '.' ∉ t.signature →
      (t.signature ≠ partOf (v.signature t.signed) ∨
        ∀ h, Token.Carries Json.ofBytes? t.header h → ¬ TokenHeader.Names h "HS256") →
      ∃ reason, v.authorize now token = .error (.invalidToken reason) := by
  have hinvalid : (∀ c, v.verify now token ≠ .ok c) →
      ∃ reason, v.authorize now token = .error (.invalidToken reason) := fun h => by
    unfold authorize
    cases hv : v.verify now token with
    | ok c => exact absurd hv (h c)
    | error f => exact ⟨f.message, rfl⟩
  refine ⟨fun c h => ?_, fun scope h => ?_, fun hok hscope => ?_, fun t htext hp hs hforged => ?_⟩
  · obtain ⟨hv, hscope⟩ := authorize_eq_ok_iff.mp h
    exact ⟨vouches_of_verify hv, hscope⟩
  · obtain ⟨rfl, c, hv, hscope⟩ := authorize_eq_missingScope_iff.mp h
    exact ⟨rfl, c, vouches_of_verify hv, hscope⟩
  · refine hinvalid fun c hv => ?_
    by_cases hmem : v.requiredScope ∈ Text.words c.scope
    · exact hok c (authorize_eq_ok_iff.mpr ⟨hv, hmem⟩)
    · exact hscope _ (authorize_eq_missingScope_iff.mpr ⟨rfl, c, hv, hmem⟩)
  · refine hinvalid fun c hv => ?_
    obtain ⟨t', ht', hchecks, hclaims⟩ := verify_eq_ok_iff.mp hv
    obtain rfl : t = t' := Option.some.inj ((Token.ofChars?_toList_iff.mpr ⟨htext, hp, hs⟩).symm.trans ht')
    have hvouches := vouches_of_checks hchecks hclaims
    obtain ⟨h, hh, hnames⟩ := hvouches.header
    rcases hforged with hforged | hforged
    · exact hforged hvouches.signature
    · exact hforged h hh hnames

/-- Claims that grant more than is required are accepted from the bearer of their token, also where the token
has a number out of range among what is not looked at. -/
theorem authorize_sound_reader :
    let v : Verifier := ⟨"secret", "product:read"⟩
    let token := (v.sealed readerHeader readerPayload).text
    let endless := (v.sealed readerHeader endlessPayload).text
    (v.authorize 1735689600 token = .ok readerClaims ∧
      (∃ t, token = t.text ∧ v.Vouches 1735689600 t readerClaims) ∧
        v.requiredScope ∈ Text.words readerClaims.scope) ∧
    v.authorize 1735689600 endless = .ok readerClaims ∧
      ∃ t, endless = t.text ∧ v.Vouches 1735689600 t readerClaims := by
  intro v token endless
  have hscope : v.requiredScope ∈ Text.words readerClaims.scope := by decide
  have h : v.authorize 1735689600 token = .ok readerClaims := authorize_eq_ok_iff.mpr ⟨verify_reader v, hscope⟩
  have hendless : v.authorize 1735689600 endless = .ok readerClaims :=
    authorize_eq_ok_iff.mpr ⟨verify_endless v, hscope⟩
  exact ⟨⟨h, (authorize_sound v 1735689600 token).1 readerClaims h⟩,
    hendless, ((authorize_sound v 1735689600 endless).1 readerClaims hendless).1⟩

end Verifier
end MarketSearch
