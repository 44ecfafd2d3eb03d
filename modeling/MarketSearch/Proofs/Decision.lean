/-
The complete decision of an authorized search: exactly one of four endings
holds of the pairs in the query, the sources and the limits, and it fixes the
response (`Service.decision_of_admits`).

The checks have an order that can be observed, so the endings are stated with
it: parameters that are refused, then a source that keeps the search waiting
for longer than the request may take, then sources of which none contributes a
product, then products.  That they exclude each other rests on the filter,
which the pairs determine.
-/
import MarketSearch.Proofs.Authorization
import MarketSearch.Proofs.Contribution
import MarketSearch.Proofs.Parameters
import MarketSearch.Proofs.Token

namespace MarketSearch

/-! ## Endings -/

/-- How a search ends. -/
inductive Ending where
  | refused (message : String)
  | late
  | nothing (query : String)
  | found (products : List Product)

namespace Ending

def status : Ending → Nat
  | .refused _ => 422
  | .late => 408
  | .nothing _ => 404
  | .found _ => 200

/-- The response to a request for a path that may take `limit` milliseconds. -/
def response (path : String) (limit : Nat) : Ending → Response
  | .refused message => ApiError.response ⟨422, path, message⟩
  | .late => ApiError.response ⟨408, path, "Request timed out after " ++ Numeral.text limit ++ "ms"⟩
  | .nothing query => ApiError.response ⟨404, path, "No product found for query: " ++ query⟩
  | .found products => .ofJson 200 (Product.listJson products)

theorem status_response (e : Ending) (path : String) (limit : Nat) :
    (e.response path limit).status = e.status := by
  cases e <;> rfl

end Ending

/-! ## Tokens in requests -/

namespace Bearer

variable {v : Verifier} {header payload : List Char}

theorem exists_of_mem_sealed {c : Char} (h : c ∈ (v.sealed header payload).text.toList) :
    c = '.' ∨ ∃ n < 64, c = Char.ofNat (Base64.symbol n).toNat := by
  simp only [Token.text, String.toList_ofList, Token.signed, Verifier.sealed, List.mem_append,
    List.mem_cons] at h
  rcases h with (h | rfl | h) | rfl | h
  · exact .inr (Token.exists_symbol_of_mem_partOf h)
  · exact .inl rfl
  · exact .inr (Token.exists_symbol_of_mem_partOf h)
  · exact .inl rfl
  · exact .inr (Token.exists_symbol_of_mem_partOf h)

theorem isVisible_of_mem_sealed {c : Char} (h : c ∈ (v.sealed header payload).text.toList) :
    isVisible c = true ∧ Text.isBlank c = false := by
  have hall : ∀ n < 64, isVisible (Char.ofNat (Base64.symbol n).toNat) = true ∧
      Text.isBlank (Char.ofNat (Base64.symbol n).toNat) = false := by decide
  rcases exists_of_mem_sealed h with rfl | ⟨n, hn, rfl⟩
  · decide
  · exact hall n hn

/-- A sealed token is found in the header that it is sent in, behind any spaces and tabs. -/
theorem ofRequest?_sealed (method uri : String) {gap : String} (hgap : ∀ c ∈ gap.toList, c = ' ' ∨ c = '\t') :
    ofRequest? ⟨method, uri, [("Authorization", "Bearer " ++ (gap ++ (v.sealed header payload).text))]⟩ =
      .some (v.sealed header payload).text := by
  have hvisible := fun c (h : c ∈ (v.sealed header payload).text.toList) => isVisible_of_mem_sealed h
  generalize (v.sealed header payload).text = token at hvisible
  have hheader : Request.header? ⟨method, uri, [("Authorization", "Bearer " ++ (gap ++ token))]⟩ "authorization" =
      .some ("Bearer " ++ (gap ++ token)) := by
    have hname : ("Authorization".toList.map Char.toLower == "authorization".toList) = true := by decide
    simp only [Request.header?, List.find?, hname, Option.map_some]
  have hchars : ("Bearer " ++ (gap ++ token)).toList = "Bearer ".toList ++ (gap.toList ++ token.toList) := by
    rw [String.toList_append, String.toList_append]
  have hspaces : ∀ c ∈ gap.toList, isVisible c = true ∧ Text.isBlank c = true := by
    intro c hc
    rcases hgap c hc with rfl | rfl <;> decide
  have hall : ("Bearer ".toList ++ (gap.toList ++ token.toList)).all isVisible = true := by
    rw [List.all_append, List.all_append, Bool.and_eq_true, Bool.and_eq_true]
    exact ⟨by decide, List.all_eq_true.mpr fun c hc => (hspaces c hc).1,
      List.all_eq_true.mpr fun c hc => (hvisible c hc).1⟩
  have htrim : Text.trimStart (gap.toList ++ token.toList) = token.toList :=
    dropWhile_append_of_head? (fun c hc => (hspaces c hc).2)
      fun c hc => (hvisible c (List.mem_of_head? hc)).2
  have hscheme : ((("Bearer ".toList ++ (gap.toList ++ token.toList)).take scheme.length).map Char.toLower ==
      scheme) = true := rfl
  simp only [ofRequest?, hheader, Option.bind_some, token?, hchars, hall, hscheme, Bool.and_self, if_true]
  show Option.some (String.ofList (Text.trimStart (gap.toList ++ token.toList))) = _
  rw [htrim, String.ofList_toList]

end Bearer

namespace Service

variable {s : Service} {now : Moment} {turn : Nat} {r : Request} {f : Filter} {path : String}
  {pairs : List (String × String)} {query : List Char}

/-- A registered source keeps the search waiting for longer than the request may take: until it
answers, or until it is given up. -/
def IsLate (s : Service) (turn : Nat) (f : Filter) : Prop :=
  ∃ source a, s.engine.registry.get? source = .some a ∧
    s.requestTimeout < min (a.fetch turn f).delay s.engine.timeout

/-- What a valid filter, the sources and the limits lead to. -/
inductive AnswersWith (s : Service) (turn : Nat) (f : Filter) : Ending → Prop where
  | late : s.IsLate turn f → AnswersWith s turn f .late
  | nothing : ¬ s.IsLate turn f → (∀ source, s.engine.contribution turn f source = []) →
      AnswersWith s turn f (.nothing f.query)
  | found {source : Source} {products : List Product} : ¬ s.IsLate turn f →
      s.engine.contribution turn f source ≠ [] → s.engine.aggregate turn f = .ok products →
      AnswersWith s turn f (.found products)

/-- What the pairs of a query, the sources and the limits lead to. -/
inductive EndsWith (s : Service) (turn : Nat) (pairs : List (String × String)) : Ending → Prop where
  | refused {message : String} : Refused pairs message → EndsWith s turn pairs (.refused message)
  | answered {f : Filter} {ending : Ending} : f.IsAskedBy pairs → f.validate = .ok () →
      s.AnswersWith turn f ending → EndsWith s turn pairs ending

/-! ### Of the endings there is one -/

theorem gathered_isEmpty_iff {e : SearchEngine} :
    (e.gathered turn f).isEmpty = true ↔ ∀ source, e.contribution turn f source = [] := by
  simp only [SearchEngine.gathered, List.isEmpty_iff, List.flatMap_eq_nil_iff]
  exact ⟨fun h source => h source source.mem_all, fun h source _ => h source⟩

theorem exists_answersWith (s : Service) (turn : Nat) (hv : f.validate = .ok ()) :
    ∃ ending, s.AnswersWith turn f ending := by
  by_cases hlate : s.IsLate turn f
  · exact ⟨_, .late hlate⟩
  by_cases hnone : ∀ source, s.engine.contribution turn f source = []
  · exact ⟨_, .nothing hlate hnone⟩
  · obtain ⟨source, hsome⟩ := Classical.not_forall.mp hnone
    have haggregate := @SearchEngine.aggregate_of_valid s.engine turn f hv
    rw [if_neg (mt gathered_isEmpty_iff.mp hnone)] at haggregate
    exact ⟨_, .found hlate hsome haggregate⟩

theorem exists_endsWith (s : Service) (turn : Nat) (query : List Char) :
    ∃ ending, s.EndsWith turn (Form.decode query) ending := by
  cases hq : Filter.ofQuery query with
  | error e =>
    obtain ⟨m, rfl⟩ := exists_of_ofQuery_eq_error hq
    exact ⟨_, .refused (refused_iff.mpr (.inl hq))⟩
  | ok f =>
    have hf := ofQuery_eq_ok_iff.mp hq
    by_cases hv : f.validate = .ok ()
    · obtain ⟨ending, h⟩ := exists_answersWith s turn hv
      exact ⟨ending, .answered hf hv h⟩
    · exact ⟨_, .refused (.filter hf hv)⟩

theorem AnswersWith.unique {a b : Ending} (ha : s.AnswersWith turn f a) (hb : s.AnswersWith turn f b) :
    a = b := by
  cases ha with
  | late hlate =>
    cases hb with
    | late _ => rfl
    | nothing hintime _ | found hintime _ _ => exact absurd hlate hintime
  | nothing hintime hnone =>
    cases hb with
    | late hlate => exact absurd hlate hintime
    | nothing _ _ => rfl
    | found _ hsome _ => exact absurd (hnone _) hsome
  | found hintime hsome hproducts =>
    cases hb with
    | late hlate => exact absurd hlate hintime
    | nothing _ hnone => exact absurd (hnone _) hsome
    | found _ _ hproducts' => rw [Except.ok.inj (hproducts.symm.trans hproducts')]

theorem EndsWith.unique {a b : Ending} (ha : s.EndsWith turn (Form.decode query) a)
    (hb : s.EndsWith turn (Form.decode query) b) : a = b := by
  cases ha with
  | refused hm =>
    cases hb with
    | refused hm' => rw [hm.unique hm']
    | answered hf hv _ => exact absurd hv (hm.invalid hf)
  | answered hf hv ha =>
    cases hb with
    | refused hm => exact absurd hv (hm.invalid hf)
    | answered hf' _ hb =>
      cases hf.unique hf'
      exact ha.unique hb

/-! ### The ending fixes the response -/

theorem outlasts_iff : s.engine.outlasts s.requestTimeout turn f = true ↔ s.IsLate turn f := by
  simp only [SearchEngine.outlasts, SearchEngine.calls, Registry.adapters, List.any_map, List.any_eq_true,
    List.mem_filterMap, Function.comp_apply, decide_eq_true_eq]
  constructor
  · rintro ⟨a, ⟨source, -, ha⟩, hlate⟩
    exact ⟨source, a, ha, hlate⟩
  · rintro ⟨source, a, ha, hlate⟩
    exact ⟨a, ⟨source, source.mem_all, ha⟩, hlate⟩

theorem asked_of_isLate (hv : f.validate = .ok ()) (h : s.IsLate turn f) :
    (s.engine.search turn f).asked ≠ [] := by
  obtain ⟨source, a, ha, -⟩ := h
  have hmem : a ∈ s.engine.registry.adapters := List.mem_filterMap.mpr ⟨source, source.mem_all, ha⟩
  simp only [SearchEngine.search, hv, SearchEngine.calls]
  exact List.ne_nil_of_mem (List.mem_map_of_mem (List.mem_map_of_mem hmem))

theorem answer_of_late (hv : f.validate = .ok ()) (h : s.IsLate turn f) :
    (s.answer turn path f).response = Ending.late.response path s.requestTimeout := by
  have hasked : (s.engine.search turn f).asked.isEmpty = false := by
    simpa using asked_of_isLate hv h
  simp only [answer, hasked, outlasts_iff.mpr h, Bool.not_false, Bool.and_self, if_true]
  rw [ApiError.timeout, Nat.mul_div_cancel_left _ (by decide)]
  rfl

theorem outlasts_of_inTime (h : ¬ s.IsLate turn f) : s.engine.outlasts s.requestTimeout turn f = false :=
  Bool.eq_false_iff.mpr (mt outlasts_iff.mp h)

theorem answer_of_ok (h : ¬ s.IsLate turn f) {report : SearchReport}
    (hr : (s.engine.search turn f).result = .ok report) :
    (s.answer turn path f).response = .ofJson 200 (Product.listJson report.products) := by
  simp only [answer, outlasts_of_inTime h, Bool.and_false, Bool.false_eq_true, if_false, hr]

theorem answer_of_error (h : ¬ s.IsLate turn f) {e : SearchError}
    (hr : (s.engine.search turn f).result = .error e) :
    (s.answer turn path f).response = (ApiError.ofSearch path e).response := by
  simp only [answer, outlasts_of_inTime h, Bool.and_false, Bool.false_eq_true, if_false, hr]

theorem answer_of_answersWith (hv : f.validate = .ok ()) {ending : Ending} (h : s.AnswersWith turn f ending) :
    (s.answer turn path f).response = ending.response path s.requestTimeout := by
  cases h with
  | late hlate => exact answer_of_late hv hlate
  | nothing hintime hnone =>
    have hresult : (s.engine.search turn f).result = .error (.noProduct f.query) := by
      rw [SearchEngine.search_result_of_valid hv, if_pos (gathered_isEmpty_iff.mpr hnone)]
    exact answer_of_error hintime hresult
  | found hintime _ hproducts =>
    obtain ⟨report, hreport, rfl⟩ := map_eq_ok_iff.mp hproducts
    exact answer_of_ok hintime hreport

theorem answer_of_invalid (hv : f.validate ≠ .ok ()) :
    (s.answer turn path f).response =
      (Ending.refused ("INVALID: " ++ f.text)).response path s.requestTimeout := by
  cases h : f.validate with
  | ok u => exact absurd h hv
  | error v =>
    simp only [answer, SearchEngine.search, h, List.isEmpty_nil, Bool.not_true, Bool.false_and,
      Bool.false_eq_true, if_false]
    rfl

theorem search_of_endsWith {ending : Ending} (h : s.EndsWith turn (Form.decode r.target.query) ending) :
    (s.search turn r).response = ending.response r.path s.requestTimeout := by
  unfold search
  cases h with
  | refused hm =>
    rcases refused_iff.mp hm with hq | ⟨f, hq, hinvalid, rfl⟩
    · rw [hq]
      rfl
    · rw [hq]
      exact answer_of_invalid hinvalid
  | answered hf hv h =>
    rw [ofQuery_eq_ok_iff.mpr hf]
    exact answer_of_answersWith hv h

/-! ## The decision -/

theorem Admits.authorize (ha : s.Admits now r) : ∃ claims, s.authorize now r = .ok claims := by
  obtain ⟨token, claims, hb, hc⟩ := ha
  exact ⟨claims, by simp only [Service.authorize, hb, hc]⟩

/-- An authorized request to read is answered by the search, and the answer is shared. -/
theorem handle_of_admits (hm : r.method = "GET") (hp : r.path = Route.products.path) (ha : s.Admits now r)
    (turn : Nat) : (s.handle now turn r).response = shared (s.search turn r).response := by
  obtain ⟨claims, hauthorize⟩ := ha.authorize
  simp only [handle, Route.ofPath?_eq_some_iff.mpr hp.symm, hm, route, hauthorize]
  rfl

/-- A reader asks the service with one source for something, with a tab in front of the token and a number out
of range in it. -/
def readerRequest (uri : String) : Request :=
  ⟨"GET", uri, [("Authorization",
    "Bearer " ++ ("\t" ++ (openService.verifier.sealed Verifier.readerHeader Verifier.endlessPayload).text))]⟩

theorem admits_reader (uri : String) : openService.Admits ⟨1735689600, "now"⟩ (readerRequest uri) :=
  ⟨_, Verifier.readerClaims, Bearer.ofRequest?_sealed "GET" uri fun _ hc => .inr (List.mem_singleton.mp hc),
    Verifier.authorize_eq_ok_iff.mpr ⟨Verifier.verify_endless _, by decide⟩⟩

end Service
end MarketSearch
