/-
The limit on requests: it gates what is answered and changes nothing else.

Two services that differ in the limit alone ask the same sources for the same
requests, and the one with the longer limit answers as the other does wherever
that one is not out of time (`Service.Gates`).  Only the answer to a valid
search looks at the limit, so that step carries the rest: the layers around it
hand on the status they are given, and a run is a sequence of requests, in
which the limit does not change what the sources have been asked before.  When
a search is out of time follows from its decision
(`Service.limit_only_gates`).
-/
import MarketSearch.Proofs.Decision

namespace MarketSearch
namespace Service

variable {s : Service} {now : Moment} {turn limit limit' : Nat} {r : Request} {f : Filter} {path : String}

/-! ## Layers around an answer -/

/-- What a request is answered before the headers that it is sent with. -/
def handled (s : Service) (now : Moment) (turn : Nat) (r : Request) : Handled :=
  if r.method = "OPTIONS" then ⟨preflight, []⟩
  else
    match Route.ofPath? r.path with
    | .some route => s.route now turn r route
    | .none => ⟨.empty 404, []⟩

/-- A response with the headers that it is sent with. -/
def sent (r : Request) (response : Response) : Response :=
  let named := if (Route.ofPath? r.path).isSome && !Route.accepts r.method then Route.allow response else response
  shared (if r.method = "HEAD" then named.withoutBody else named)

theorem handle_eq (s : Service) (now : Moment) (turn : Nat) (r : Request) :
    s.handle now turn r = ⟨sent r (s.handled now turn r).response, (s.handled now turn r).asked⟩ := rfl

theorem status_sent (r : Request) (response : Response) : (sent r response).status = response.status := by
  have hshared : ∀ p : Response, (shared p).status = p.status := fun _ => rfl
  have hnamed : ∀ b : Bool, (if b then Route.allow response else response).status = response.status := by
    intro b
    cases b <;> rfl
  simp only [sent, hshared]
  by_cases hhead : r.method = "HEAD"
  · rw [if_pos hhead]
    exact hnamed _
  · rw [if_neg hhead]
    exact hnamed _

theorem handled_of_admits (hm : Route.accepts r.method = true) (hp : r.path = Route.products.path)
    (ha : s.Admits now r) (turn : Nat) : s.handled now turn r = s.search turn r := by
  obtain ⟨claims, hauthorize⟩ := ha.authorize
  have hmethod : r.method ≠ "OPTIONS" := by
    rintro h
    rw [h] at hm
    cases hm
  simp only [handled, if_neg hmethod, Route.ofPath?_eq_some_iff.mpr hp.symm, route, hauthorize, read, hm,
    if_true]

/-! ## Two limits -/

/-- The service with another limit on its requests. -/
def withLimit (s : Service) (limit : Nat) : Service := { s with requestTimeout := limit }

/-- The same sources are asked, and the second response is the first one unless that is out of time. -/
structure Gates (h h' : Handled) : Prop where
  asked : h'.asked = h.asked
  response : h.response.status ≠ 408 → h'.response = h.response

theorem Gates.refl (h : Handled) : Gates h h := ⟨rfl, fun _ => rfl⟩

/-- With more time for the request, a source that was in time still is. -/
theorem IsLate.of_le (hle : limit ≤ limit') (h : (s.withLimit limit').IsLate turn f) :
    (s.withLimit limit).IsLate turn f := by
  obtain ⟨source, a, ha, hlate⟩ := h
  exact ⟨source, a, ha, Nat.lt_of_le_of_lt hle hlate⟩

theorem gates_answer (hle : limit ≤ limit') (turn : Nat) (path : String) (f : Filter) :
    Gates ((s.withLimit limit).answer turn path f) ((s.withLimit limit').answer turn path f) := by
  refine ⟨rfl, fun hstatus => ?_⟩
  by_cases hv : f.validate = .ok ()
  · by_cases hlate : (s.withLimit limit).IsLate turn f
    · rw [answer_of_late hv hlate] at hstatus
      exact absurd rfl hstatus
    · have hlate' : ¬ (s.withLimit limit').IsLate turn f := mt (IsLate.of_le hle) hlate
      cases hresult : (s.engine.search turn f).result with
      | ok report => rw [answer_of_ok hlate hresult, answer_of_ok hlate' hresult]
      | error e => rw [answer_of_error hlate hresult, answer_of_error hlate' hresult]
  · rw [answer_of_invalid hv, answer_of_invalid hv]
    rfl

theorem gates_search (hle : limit ≤ limit') (turn : Nat) (r : Request) :
    Gates ((s.withLimit limit).search turn r) ((s.withLimit limit').search turn r) := by
  unfold search
  cases Filter.ofQuery r.target.query with
  | ok f => exact gates_answer hle turn r.path f
  | error e => exact .refl _

theorem Gates.read {h h' : Handled} (hg : Gates h h') (method : String) :
    Gates (read method h) (read method h') := by
  unfold Service.read
  split
  · exact hg
  · exact .refl _

theorem gates_handled (hle : limit ≤ limit') (now : Moment) (turn : Nat) (r : Request) :
    Gates ((s.withLimit limit).handled now turn r) ((s.withLimit limit').handled now turn r) := by
  unfold handled
  split
  · exact .refl _
  · split
    · next route _ =>
      cases route with
      | health => exact .refl _
      | products =>
        have hauthorize : (s.withLimit limit').authorize now r = (s.withLimit limit).authorize now r := rfl
        simp only [Service.route, hauthorize]
        cases (s.withLimit limit).authorize now r with
        | ok claims => exact (gates_search hle turn r).read r.method
        | error fault => exact .refl _
    · exact .refl _

theorem gates_handle (hle : limit ≤ limit') (now : Moment) (turn : Nat) (r : Request) :
    Gates ((s.withLimit limit).handle now turn r) ((s.withLimit limit').handle now turn r) := by
  obtain ⟨hasked, hresponse⟩ := @gates_handled s limit limit' hle now turn r
  rw [handle_eq, handle_eq]
  refine ⟨hasked, fun hstatus => ?_⟩
  rw [status_sent] at hstatus
  rw [hresponse hstatus]

/-- In a run, each request finds the sources asked as often with the one limit as with the other. -/
theorem gates_handleAll (hle : limit ≤ limit') (now : Moment) (turn : Nat) (rs : List Request) :
    List.Forall₂ Gates ((s.withLimit limit).handleAll now turn rs)
      ((s.withLimit limit').handleAll now turn rs) := by
  induction rs generalizing turn with
  | nil => exact .nil
  | cons r rs ih =>
    have hstep := @gates_handle s limit limit' hle now turn r
    simp only [handleAll, hstep.asked]
    exact .cons hstep (ih _)

/-! ## Out of time -/

theorem status_answer_of_valid (hv : f.validate = .ok ()) :
    (s.answer turn path f).response.status = 408 ↔ s.IsLate turn f := by
  obtain ⟨ending, hending⟩ := exists_answersWith s turn hv
  rw [answer_of_answersWith hv hending, Ending.status_response]
  cases hending with
  | late hlate => simp [Ending.status, hlate]
  | nothing hintime _ | found hintime _ _ => simp [Ending.status, hintime]

theorem status_response (e : ApiError) : e.response.status = e.status := rfl

theorem status_ofSearch_ne (path : String) (e : SearchError) : (ApiError.ofSearch path e).response.status ≠ 408 := by
  cases e <;> simp [status_response, ApiError.ofSearch]

theorem status_ofAuth_ne (path : String) (fault : AuthFault) :
    (ApiError.ofAuth path fault).response.status ≠ 408 := by
  cases fault <;> simp [status_response, ApiError.ofAuth, ApiError.authStatus]

/-- A search is out of time when it is valid and some source is late for it. -/
theorem status_search_iff : (s.search turn r).response.status = 408 ↔
    ∃ f : Filter, f.IsAskedBy (Form.decode r.target.query) ∧ f.validate = .ok () ∧ s.IsLate turn f := by
  simp only [← ofQuery_eq_ok_iff]
  unfold search
  cases Filter.ofQuery r.target.query with
  | error e => simpa using status_ofSearch_ne r.path e
  | ok f =>
    simp only [Except.ok.injEq, exists_eq_left']
    by_cases hv : f.validate = .ok ()
    · simp only [hv, true_and]
      exact status_answer_of_valid hv
    · simp only [hv, false_and, iff_false, answer_of_invalid hv, Ending.status_response, Ending.status]
      decide

/-- A request is out of time when it may search, reads, and asks for a search that is. -/
theorem status_handle_iff : (s.handle now turn r).response.status = 408 ↔
    s.Admits now r ∧ Route.accepts r.method = true ∧ r.path = Route.products.path ∧
      (s.search turn r).response.status = 408 := by
  rw [handle_eq, status_sent]
  constructor
  · intro h
    unfold handled at h
    split at h
    · cases h
    · split at h
      · next route hroute =>
        have hread : ∀ response : Handled, (read r.method response).response.status = 408 →
            Route.accepts r.method = true ∧ response.response.status = 408 := by
          intro response h
          unfold read at h
          split at h
          · next hm => exact ⟨hm, h⟩
          · cases h
        cases route with
        | health => cases (hread _ h).2
        | products =>
          by_cases ha : s.Admits now r
          · have hp := (Route.ofPath?_eq_some_iff.mp hroute).symm
            obtain ⟨claims, hauthorize⟩ := ha.authorize
            simp only [Service.route, hauthorize] at h
            exact ⟨ha, (hread _ h).1, hp, (hread _ h).2⟩
          · obtain ⟨fault, hfault⟩ := not_admits_iff.mp ha
            rw [route_of_unauthorized hfault] at h
            exact absurd h (status_ofAuth_ne r.path fault)
      · cases h
  · rintro ⟨ha, hm, hp, h⟩
    rwa [handled_of_admits hm hp ha]

/-- **The limit on requests gates answers and changes none.** With a longer limit, a request is
answered as with a shorter one unless that ran out of time, alone and in whatever run; a valid
search runs out of time when some registered source keeps it waiting for longer than the limit;
and no request does where the limit is no shorter than what each source is given. -/
theorem limit_only_gates (s : Service) (now : Moment) :
    (∀ {limit limit' : Nat}, limit ≤ limit' →
      (∀ turn r, ((s.withLimit limit).handle now turn r).response.status ≠ 408 →
        ((s.withLimit limit').handle now turn r).response = ((s.withLimit limit).handle now turn r).response) ∧
      ∀ turn rs, List.Forall₂ Gates ((s.withLimit limit).handleAll now turn rs)
        ((s.withLimit limit').handleAll now turn rs)) ∧
    (∀ {turn : Nat} {r : Request} {f : Filter}, s.Admits now r → Route.accepts r.method = true →
      r.path = "/api/v1/products" → f.IsAskedBy (Form.decode r.target.query) → f.validate = .ok () →
      ((s.handle now turn r).response.status = 408 ↔
        ∃ source a, s.engine.registry.get? source = .some a ∧
          s.requestTimeout < min (a.fetch turn f).delay s.engine.timeout)) ∧
    (s.engine.timeout ≤ s.requestTimeout → ∀ turn r, (s.handle now turn r).response.status ≠ 408) := by
  refine ⟨fun hle => ⟨fun turn r => (gates_handle hle now turn r).response, gates_handleAll hle now⟩,
    fun {turn r f} ha hm hp hf hv => ?_, fun hle turn r h => ?_⟩
  · rw [status_handle_iff, status_search_iff]
    constructor
    · rintro ⟨-, -, -, g, hg, -, hlate⟩
      rwa [hf.unique hg]
    · exact fun hlate => ⟨ha, hm, hp, f, hf, hv, hlate⟩
  · obtain ⟨-, -, -, hsearch⟩ := status_handle_iff.mp h
    obtain ⟨f, -, -, source, a, -, hlate⟩ := status_search_iff.mp hsearch
    have hgiven := Nat.min_le_right (a.fetch turn f).delay s.engine.timeout
    omega

/-- Tiki with a product after fifty milliseconds, of sixty that it is given. -/
def slowService : Service :=
  { openService with engine := ⟨Registry.empty.put (SearchEngine.tikiAfter 50), .price, 60, .none⟩ }

/-- Forty milliseconds are too few for it, and with fifty there is the answer that there is with
seventy. -/
theorem slow_search_is_gated :
    ((slowService.withLimit 40).handle ⟨1735689600, "now"⟩ 0
      (readerRequest "/api/v1/products?query=iphone")).response.status = 408 ∧
    ((slowService.withLimit 70).handle ⟨1735689600, "now"⟩ 0
        (readerRequest "/api/v1/products?query=iphone")).response =
      ((slowService.withLimit 50).handle ⟨1735689600, "now"⟩ 0
        (readerRequest "/api/v1/products?query=iphone")).response ∧
    ((slowService.withLimit 60).handle ⟨1735689600, "now"⟩ 0
      (readerRequest "/api/v1/products?query=iphone")).response.status ≠ 408 := by
  have hpairs : Form.decode "query=iphone".toList = [("query", "iphone")] := by
    have hname : Form.decodeText "query".toList = "query" := Form.decodeText_eq (by decide)
    have hvalue : Form.decodeText "iphone".toList = "iphone" := Form.decodeText_eq (by decide)
    show [(Form.decodeText "query".toList, Form.decodeText "iphone".toList)] = _
    rw [hname, hvalue]
  have hasked : Filter.IsAskedBy ⟨"iphone", .ascending⟩
      (Form.decode (readerRequest "/api/v1/products?query=iphone").target.query) := by
    have hquery : (readerRequest "/api/v1/products?query=iphone").target.query = "query=iphone".toList := rfl
    rw [hquery, hpairs]
    exact ⟨.inl rfl, .inr ⟨rfl, rfl⟩⟩
  have hstatus := fun limit => @(limit_only_gates (slowService.withLimit limit) ⟨1735689600, "now"⟩).2.1
    0 _ _ (admits_reader _) rfl rfl hasked (by decide)
  refine ⟨(hstatus 40).mpr ⟨.tiki, _, rfl, by decide⟩, ?_,
    (limit_only_gates (slowService.withLimit 60) _).2.2 (by decide) 0 _⟩
  refine ((limit_only_gates slowService _).1 (by decide)).1 0 _ (mt (hstatus 50).mp ?_)
  rintro ⟨source, a, ha, hlate⟩
  have hdelay : (a.fetch 0 ⟨"iphone", .ascending⟩).delay ≤ 50 := by
    cases source with
    | tiki =>
      cases ha
      decide
    | shopee | lazada => cases ha
  have hwaiting := Nat.min_le_left (a.fetch 0 ⟨"iphone", .ascending⟩).delay
    (slowService.withLimit 50).engine.timeout
  have hlimit : (slowService.withLimit 50).requestTimeout = 50 := rfl
  omega

end Service
end MarketSearch
