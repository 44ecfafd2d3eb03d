/-
How a failed call is classified.

A call of a marketplace fails by itself: the fault is one of the marketplace
asked, and it is decided by what happened on the way, never by the text that
came back.  An answer that is no success is decided by its status, whatever
becomes of its body; an answer of success by its body, which may go on for ever,
be cut off, or arrive (`ServerAnswer.isLate_or_isCut_or_brings`), and then it is
an envelope with records or it is not.

This holds of every caller that reads bodies in some way (`Caller.classifies_outcome`),
and the clients read them as envelopes.
-/
import MarketSearch.Proofs.Records

namespace MarketSearch

/-! ## Bodies -/

namespace ServerAnswer

variable {a : ServerAnswer} {body : Bytes}

/-- The body does not come to an end. -/
def IsLate (a : ServerAnswer) : Prop := Status.hasBody a.status = true ∧ a.bodyEnd = .stalled

/-- The body ends too early. -/
def IsCut (a : ServerAnswer) : Prop := Status.hasBody a.status = true ∧ a.bodyEnd = .cut

/-- The body arrives as announced, or there is none. -/
inductive Brings (a : ServerAnswer) : Bytes → Prop where
  | bodiless : Status.hasBody a.status = false → Brings a []
  | whole : Status.hasBody a.status = true → a.bodyEnd = .whole → Brings a a.body

theorem isLate_or_isCut_or_brings (a : ServerAnswer) : a.IsLate ∨ a.IsCut ∨ ∃ body, a.Brings body := by
  cases hbody : Status.hasBody a.status with
  | false => exact .inr (.inr ⟨_, .bodiless hbody⟩)
  | true =>
    cases hend : a.bodyEnd with
    | whole => exact .inr (.inr ⟨_, .whole hbody hend⟩)
    | cut => exact .inr (.inl ⟨hbody, hend⟩)
    | stalled => exact .inl ⟨hbody, hend⟩

theorem stalls_eq_true_iff : a.stalls = true ↔ a.IsLate := by
  simp [stalls, IsLate]

theorem content?_eq_some_iff : a.content? = .some body ↔ a.Brings body := by
  unfold content?
  constructor
  · intro h
    split at h
    · next hnone =>
      cases h
      exact .bodiless (by simpa using hnone)
    · next hbody =>
      split at h
      · next hend =>
        cases h
        exact .whole (by simpa using hbody) hend
      · cases h
  · intro h
    cases h with
    | bodiless hnone => simp [hnone]
    | whole hbody hend => simp [hbody, hend]

theorem IsCut.content? (h : a.IsCut) : a.content? = .none := by
  simp [ServerAnswer.content?, h.1, h.2]

theorem IsCut.stalls (h : a.IsCut) : a.stalls = false := by
  simp [ServerAnswer.stalls, h.2]

end ServerAnswer

/-! ## Callers -/

namespace Caller

open ServerAnswer

variable {α : Type} {c : Caller} {url : Url} {decode : Bytes → Option α} {carries : Bytes → α → Prop} {x : Exchange}
  {a : ServerAnswer}

/-- What happened on a call decides how it ends, where a body carries what can be read of it. -/
structure Classifies (c : Caller) (carries : Bytes → α → Prop) (x : Exchange) (r : Except SourceFault α) : Prop where
  no_answer : x = .refused ∨ x = .closed → ∃ m, r = .error (.unavailable c.source m)
  silence : x = .silent → r = .error (.timeout c.source (.some c.timeout))
  /-- Two statuses say that a server further on took too long, whatever the body says. -/
  timeout_status : ∀ a, x = .answered a → Status.isSuccess a.status = false →
    (r = .error (.timeout c.source .none) ↔ a.status = 408 ∨ a.status = 504)
  other_status : ∀ a, x = .answered a → Status.isSuccess a.status = false →
    ((∃ m, r = .error (.unavailable c.source m)) ↔ ¬ (a.status = 408 ∨ a.status = 504))
  late_body : ∀ a, x = .answered a → Status.isSuccess a.status = true →
    (r = .error (.timeout c.source (.some c.timeout)) ↔ a.IsLate)
  broken_body : ∀ a, x = .answered a → Status.isSuccess a.status = true →
    ((∃ m, r = .error (.unavailable c.source m)) ↔ a.IsCut ∨ ∃ body, a.Brings body ∧ ∀ y, ¬ carries body y)
  body : ∀ a, x = .answered a → Status.isSuccess a.status = true →
    ∀ y, r = .ok y ↔ ∃ body, a.Brings body ∧ carries body y

theorem statusFault_of_timeout (h : a.status = 408 ∨ a.status = 504) : c.statusFault a = .timeout c.source .none :=
  if_pos h

theorem exists_statusFault (h : ¬ (a.status = 408 ∨ a.status = 504)) :
    ∃ m, c.statusFault a = .unavailable c.source m := by
  unfold statusFault
  dsimp only
  rw [if_neg h]
  split
  · exact ⟨_, rfl⟩
  · split
    · exact ⟨_, rfl⟩
    · split <;> exact ⟨_, rfl⟩

theorem content_of_isLate (h : a.IsLate) : c.content url decode a = .error (.timeout c.source (.some c.timeout)) :=
  if_pos (stalls_eq_true_iff.mpr h)

theorem exists_content_of_isCut (h : a.IsCut) :
    ∃ m, c.content url decode a = .error (.unavailable c.source m) := by
  simp only [content, h.stalls, h.content?]
  exact ⟨_, rfl⟩

theorem content_of_brings {body : Bytes} {y : α} (h : a.Brings body) (hdecode : decode body = .some y) :
    c.content url decode a = .ok y := by
  have hcontent := content?_eq_some_iff.mpr h
  simp [content, stalls_of_content? hcontent, hcontent, hdecode]

theorem exists_content_of_brings {body : Bytes} (h : a.Brings body) (hdecode : decode body = .none) :
    ∃ m, c.content url decode a = .error (.unavailable c.source m) := by
  have hcontent := content?_eq_some_iff.mpr h
  simp only [content, stalls_of_content? hcontent, hcontent, Option.bind_some, hdecode]
  exact ⟨_, rfl⟩

/-- The ways in which an answer of success ends. -/
theorem content_cases (c : Caller) (url : Url) (decode : Bytes → Option α) (a : ServerAnswer) :
    (a.IsLate ∧ c.content url decode a = .error (.timeout c.source (.some c.timeout))) ∨
    ((a.IsCut ∨ ∃ body, a.Brings body ∧ decode body = .none) ∧
      ∃ m, c.content url decode a = .error (.unavailable c.source m)) ∨
    ∃ body y, a.Brings body ∧ decode body = .some y ∧ c.content url decode a = .ok y := by
  rcases a.isLate_or_isCut_or_brings with hlate | hcut | ⟨body, hbody⟩
  · exact .inl ⟨hlate, content_of_isLate hlate⟩
  · exact .inr (.inl ⟨.inl hcut, exists_content_of_isCut hcut⟩)
  · cases hdecode : decode body with
    | none => exact .inr (.inl ⟨.inr ⟨body, hbody, hdecode⟩, exists_content_of_brings hbody hdecode⟩)
    | some y => exact .inr (.inr ⟨body, y, hbody, hdecode, content_of_brings hbody hdecode⟩)

theorem content_eq_timeout_iff :
    c.content url decode a = .error (.timeout c.source (.some c.timeout)) ↔ a.IsLate := by
  refine ⟨fun h => ?_, content_of_isLate⟩
  rcases c.content_cases url decode a with ⟨hlate, -⟩ | ⟨-, m, hm⟩ | ⟨body, y, -, -, hy⟩
  · exact hlate
  · rw [hm] at h
    cases h
  · rw [hy] at h
    cases h

theorem content_eq_unavailable_iff : (∃ m, c.content url decode a = .error (.unavailable c.source m)) ↔
    a.IsCut ∨ ∃ body, a.Brings body ∧ decode body = .none := by
  constructor
  · intro h
    obtain ⟨m, h⟩ := h
    rcases c.content_cases url decode a with ⟨-, hlate⟩ | ⟨hbroken, -⟩ | ⟨body, y, -, -, hy⟩
    · rw [hlate] at h
      cases h
    · exact hbroken
    · rw [hy] at h
      cases h
  · intro h
    rcases h with hcut | ⟨body, hbody, hdecode⟩
    · exact exists_content_of_isCut hcut
    · exact exists_content_of_brings hbody hdecode

theorem content_eq_ok_iff {y : α} :
    c.content url decode a = .ok y ↔ ∃ body, a.Brings body ∧ decode body = .some y := by
  constructor
  · intro h
    rcases c.content_cases url decode a with ⟨-, hlate⟩ | ⟨-, m, hm⟩ | ⟨body, z, hbody, hdecode, hz⟩
    · rw [hlate] at h
      cases h
    · rw [hm] at h
      cases h
    · rw [hz] at h
      cases h
      exact ⟨body, hbody, hdecode⟩
  · intro h
    obtain ⟨body, hbody, hdecode⟩ := h
    exact content_of_brings hbody hdecode

/-- **What happened decides how a call ends.** -/
theorem classifies_outcome (c : Caller) (url : Url) (hdecode : ∀ body y, decode body = .some y ↔ carries body y)
    (x : Exchange) : c.Classifies carries x (c.outcome url decode x) := by
  have hnone : ∀ body, decode body = .none ↔ ∀ y, ¬ carries body y := by
    intro body
    simp only [Option.eq_none_iff_forall_ne_some, ne_eq, hdecode]
  have hsuccess : ∀ a, Status.isSuccess a.status = true →
      c.outcome url decode (.answered a) = c.content url decode a := fun a h => if_pos h
  have hfault : ∀ a, Status.isSuccess a.status = false →
      c.outcome url decode (.answered a) = .error (c.statusFault a) := fun a h => if_neg (by simp [h])
  constructor
  case no_answer =>
    intro hx
    rcases hx with rfl | rfl
    · exact ⟨_, rfl⟩
    · exact ⟨_, rfl⟩
  case silence =>
    intro hx
    subst hx
    rfl
  case timeout_status =>
    intro a hx hstatus
    subst hx
    rw [hfault a hstatus]
    constructor
    · intro h
      by_contra hother
      obtain ⟨m, hm⟩ := @exists_statusFault c a hother
      rw [hm] at h
      cases h
    · intro h
      rw [statusFault_of_timeout h]
  case other_status =>
    intro a hx hstatus
    subst hx
    rw [hfault a hstatus]
    constructor
    · intro h htimeout
      obtain ⟨m, h⟩ := h
      rw [statusFault_of_timeout htimeout] at h
      cases h
    · intro h
      obtain ⟨m, hm⟩ := @exists_statusFault c a h
      exact ⟨m, congrArg _ hm⟩
  case late_body =>
    intro a hx hstatus
    subst hx
    rw [hsuccess a hstatus]
    exact content_eq_timeout_iff
  case broken_body =>
    intro a hx hstatus
    subst hx
    rw [hsuccess a hstatus, content_eq_unavailable_iff]
    simp only [hnone]
  case body =>
    intro a hx hstatus y
    subst hx
    rw [hsuccess a hstatus, content_eq_ok_iff]
    simp only [hdecode]

/-- **A call fails by itself**, and not by another source. -/
theorem isLocal_of_outcome {e : SourceFault} (h : c.outcome url decode x = .error e) :
    e.isLocal = true ∧ e.origin = c.source := by
  have hunavailable : ∀ m, e = .unavailable c.source m → e.isLocal = true ∧ e.origin = c.source := by
    intro m he
    subst he
    exact ⟨rfl, rfl⟩
  have htimeout : ∀ ms, e = .timeout c.source ms → e.isLocal = true ∧ e.origin = c.source := by
    intro ms he
    subst he
    exact ⟨rfl, rfl⟩
  cases x with
  | refused | closed => exact hunavailable _ (Except.error.inj h).symm
  | silent => exact htimeout _ (Except.error.inj h).symm
  | answered a =>
    rw [outcome] at h
    split at h
    · rcases c.content_cases url decode a with ⟨-, hlate⟩ | ⟨-, m, hm⟩ | ⟨body, y, -, -, hy⟩
      · exact htimeout _ (Except.error.inj (h.symm.trans hlate))
      · exact hunavailable m (Except.error.inj (h.symm.trans hm))
      · cases h.symm.trans hy
    · by_cases hstatus : a.status = 408 ∨ a.status = 504
      · exact htimeout _ ((Except.error.inj h).symm.trans (statusFault_of_timeout hstatus))
      · obtain ⟨m, hm⟩ := @exists_statusFault c a hstatus
        exact hunavailable m ((Except.error.inj h).symm.trans hm)

end Caller

/-! ## Clients -/

namespace Envelope

open Json.Outline (ofSigns signs) in
/-- The body is an envelope of the source with these records: its signs are a text of the grammar, of which
such an envelope is seen. -/
def Carries (s : Source) (body : Bytes) (records : List Json) : Prop :=
  ∃ d : Grammar.Document, d.chars = signs body ∧
    ∃ v es, (view s).see? Json.maxDepth (d.inner.outline ofSigns) = .some v ∧ Encloses s v es ∧
      es.map (recordOf s) = records

theorem decode_eq_some_iff {s : Source} {body : Bytes} {records : List Json} :
    decode s body = .some records ↔ Carries s body records := by
  simp only [decode, Json.View.ofBytes?, Option.bind_eq_some_iff, Grammar.ofBytes?_eq_some_iff,
    records?_eq_some_iff, Carries]
  constructor
  · intro h
    obtain ⟨v, ⟨_, ⟨d, hd, rfl⟩, hv⟩, es, hes, hrecords⟩ := h
    exact ⟨d, hd, v, es, hv, hes, hrecords⟩
  · intro h
    obtain ⟨d, hd, v, es, hv, hes, hrecords⟩ := h
    exact ⟨v, ⟨_, ⟨d, hd, rfl⟩, hv⟩, es, hes, hrecords⟩

end Envelope

namespace MarketClient

open Envelope

end MarketClient
end MarketSearch
