/-
Runs of registrations, refused ones among them: the first adapter of a source
stays, and what comes later for that source changes nothing.

What one call does to the look-ups (`Registry.get?_offer`) gives, by induction
on the run, what all of them do (`Registry.get?_offerAll`): a source is looked
up as the first adapter of the run that names it.  So whether a call is taken
depends on the history alone (`Registry.goesByHistory`), and the registry
after a run on nothing but the first adapter of each source
(`Registry.first_come`).
-/
import MarketSearch.Proofs.Binding
import MarketSearch.Proofs.Registration

namespace MarketSearch
namespace Registry

variable {r : Registry} {a : Adapter} {as as' front : List Adapter}

/-! ## Calls -/

/-- The answer to one call and the registry after it, which is the one before if the call is
refused. -/
def offer (r : Registry) (a : Adapter) : Except RegistryFault Unit × Registry :=
  match r.register a with
  | .ok r' => (.ok (), r')
  | .error e => (.error e, r)

/-- The registry after calls one after the other. -/
def offerAll (r : Registry) (as : List Adapter) : Registry := as.foldl (fun r a => (r.offer a).2) r

/-- A call is refused when its source has an adapter, and takes the source otherwise. -/
theorem offer_eq (r : Registry) (a : Adapter) :
    r.offer a = if (r.get? a.source).isSome then (.error (.duplicate a.source), r) else (.ok (), r.put a) := by
  unfold offer register
  cases (r.get? a.source).isSome <;> rfl

theorem get?_offer (r : Registry) (a : Adapter) (s : Source) :
    (r.offer a).2.get? s = (r.get? s).or (if a.source = s then .some a else .none) := by
  rw [offer_eq]
  split
  · next htaken =>
    obtain ⟨b, hb⟩ := Option.isSome_iff_exists.mp htaken
    by_cases hs : a.source = s
    · subst hs
      simp [hb]
    · simp [hs]
  · next hfree =>
    rw [Bool.not_eq_true, Option.isSome_eq_false_iff, Option.isNone_iff_eq_none] at hfree
    by_cases hs : a.source = s
    · subst hs
      simp [get?_put_self, hfree]
    · simp [get?_put_other _ (Ne.symm hs), hs]

/-! ## Runs -/

/-- What a run adds to a registry are the first adapters of the sources that it had none for. -/
theorem get?_offerAll (r : Registry) (as : List Adapter) (s : Source) :
    (r.offerAll as).get? s = (r.get? s).or (as.find? fun a => a.source = s) := by
  induction as generalizing r with
  | nil => simp [offerAll]
  | cons a as ih =>
    rw [offerAll, List.foldl_cons, ← offerAll, ih, get?_offer, Option.or_assoc]
    by_cases hs : a.source = s <;> simp [hs]

theorem get?_offerAll_empty (as : List Adapter) (s : Source) :
    (empty.offerAll as).get? s = as.find? fun a => a.source = s := by
  simp [get?_offerAll, empty]

/-- Some call of the run was taken for the source. -/
def Takes (as : List Adapter) (s : Source) : Prop :=
  ∃ front a back, as = front ++ a :: back ∧ a.source = s ∧ ((empty.offerAll front).offer a).1 = .ok ()

/-- Of the calls for a source that a run has, the first is taken. -/
theorem takes_iff {s : Source} : Takes as s ↔ ((empty.offerAll as).get? s).isSome = true := by
  rw [get?_offerAll_empty]
  constructor
  · rintro ⟨front, a, back, rfl, hs, -⟩
    simp [hs]
  · intro h
    obtain ⟨a, ha⟩ := Option.isSome_iff_exists.mp h
    obtain ⟨hs, front, back, rfl, hfront⟩ := List.find?_eq_some_iff_append.mp ha
    have hs : a.source = s := by simpa using hs
    have hnone : (front.find? fun b => b.source = a.source) = .none := by
      simpa [List.find?_eq_none, hs] using hfront
    exact ⟨front, a, back, rfl, hs, by simp [offer_eq, get?_offerAll_empty, hnone]⟩

/-- How a call goes after others. -/
structure GoesByHistory (front : List Adapter) (a : Adapter) : Prop where
  /-- It is refused as a duplicate when its source is taken. -/
  refused : ((empty.offerAll front).offer a).1 = .error (.duplicate a.source) ↔ Takes front a.source
  /-- A call that is refused leaves the registry as it was. -/
  unchanged : Takes front a.source → ((empty.offerAll front).offer a).2 = empty.offerAll front
  taken : ¬Takes front a.source → ((empty.offerAll front).offer a).1 = .ok ()

theorem goesByHistory (front : List Adapter) (a : Adapter) : GoesByHistory front a := by
  constructor <;> rw [takes_iff, offer_eq]
  · split <;> simp [*]
  · intro h
    rw [if_pos h]
  · intro h
    rw [if_neg h]

/-- Where no source comes twice, no call is refused. -/
theorem registerAll_of_nodup (hfree : ∀ a ∈ as, r.get? a.source = .none) (hnodup : (as.map (·.source)).Nodup) :
    r.registerAll as = .ok (r.offerAll as) := by
  induction as generalizing r with
  | nil => rfl
  | cons a as ih =>
    obtain ⟨hnot, hnodup⟩ := List.nodup_cons.mp hnodup
    have ha := hfree a List.mem_cons_self
    have hoffer : (r.offer a).2 = r.put a := by simp [offer_eq, ha]
    rw [registerAll_cons_eq_ok_iff, offerAll, List.foldl_cons, hoffer]
    refine ⟨ha, ih (fun b hb => ?_) hnodup⟩
    have hne : b.source ≠ a.source := fun he => hnot (List.mem_map.mpr ⟨b, hb, he⟩)
    rw [get?_put_other _ hne]
    exact hfree b (List.mem_cons_of_mem _ hb)

theorem registerAll_empty_of_nodup (h : (as.map (·.source)).Nodup) :
    empty.registerAll as = .ok (empty.offerAll as) :=
  registerAll_of_nodup (fun _ _ => rfl) h

/-- Adapters of different sources may come in any order. -/
theorem offerAll_perm (h : as.Perm as') (hnodup : (as.map (·.source)).Nodup) :
    empty.offerAll as' = empty.offerAll as := by
  have hrun := registerAll_perm h (registerAll_empty_of_nodup hnodup)
  rw [registerAll_empty_of_nodup ((h.map _).nodup_iff.mp hnodup)] at hrun
  exact Except.ok.inj hrun

/-! ## Views -/

theorem rank_pairwise_sources (r : Registry) : r.sources.Pairwise fun s t => s.rank < t.rank := by
  have hall : Source.all.Pairwise fun s t => s.rank < t.rank := by decide
  exact hall.sublist List.filter_sublist

theorem ensureNotEmpty_eq (r : Registry) :
    r.ensureNotEmpty = if r.adapters = [] then .error .noSources else .ok () := by
  simp [ensureNotEmpty, isEmpty, ← source_adapters]

/-- What a registry shows after a run. -/
structure ShowsFirst (as : List Adapter) (r : Registry) : Prop where
  get? : ∀ s, r.get? s = as.find? fun a => a.source = s
  /-- Sources are listed in the canonical order, none of them twice. -/
  ascending : r.sources.Pairwise fun s t => s.rank < t.rank
  source_adapters : r.adapters.map (·.source) = r.sources
  size : r.size = r.adapters.length
  isEmpty : r.isEmpty = true ↔ r.adapters = []
  ensureNotEmpty : r.ensureNotEmpty = if r.adapters = [] then .error .noSources else .ok ()

theorem showsFirst_offerAll (as : List Adapter) : ShowsFirst as (empty.offerAll as) where
  get? := get?_offerAll_empty as
  ascending := rank_pairwise_sources _
  source_adapters := source_adapters _
  size := by rw [size, ← source_adapters, List.length_map]
  isEmpty := by simp [isEmpty, ← source_adapters]
  ensureNotEmpty := ensureNotEmpty_eq _

/-- **First come, first served.** In a run of registrations each call is taken or refused as the calls
before it say, and a refused one changes nothing; after the run each source has the first adapter
that named it; and where the sources are different, their order does not matter. -/
theorem first_come (as : List Adapter) :
    (∀ i (h : i < as.length), GoesByHistory (as.take i) as[i]) ∧
    ShowsFirst as (empty.offerAll as) ∧
    ∀ as', as.Perm as' → (as.map (·.source)).Nodup → empty.offerAll as' = empty.offerAll as :=
  ⟨fun _ _ => goesByHistory _ _, showsFirst_offerAll as, fun _ => offerAll_perm⟩

/-- Lazada out of reach, Tiki with one product, and Lazada again. -/
def lazadaTwice : List Adapter :=
  [(Binding.failing .lazada).adapter, (Binding.sending .tiki 0 [.draft "1" "iphone" .tiki]).adapter,
    (Binding.sending .lazada 0 [.draft "2" "iphone" .lazada]).adapter]

/-- The second adapter of Lazada is refused and changes nothing, and Tiki may come first. -/
theorem first_come_lazada :
    GoesByHistory (lazadaTwice.take 2) lazadaTwice[2] ∧
    ShowsFirst lazadaTwice (empty.offerAll lazadaTwice) ∧
    empty.offerAll [lazadaTwice[1], lazadaTwice[0]] = empty.offerAll (lazadaTwice.take 2) :=
  ⟨(first_come lazadaTwice).1 2 (by decide), (first_come lazadaTwice).2.1,
    (first_come (lazadaTwice.take 2)).2.2 _ (.swap ..) (by decide)⟩

end Registry
end MarketSearch
