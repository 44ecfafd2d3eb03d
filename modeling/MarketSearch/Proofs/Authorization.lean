/-
The gate in front of searches: without a token that the verifier accepts no
source is asked, and what is answered depends on the method, the path and the
headers of the request and on the verifier, but on nothing that is behind the
gate (`Service.unauthorized_learns_nothing`).

The layers around the gate (preflight, the headers that all responses have,
the body that is dropped) look at the method and the path only, so the whole
rests on what the route for searches does with a token that is refused
(`Service.route_of_unauthorized`).  The route for the health of the service
has no gate; it asks no source, but shows which are registered.
-/
import MarketSearch.Http.Service
import MarketSearch.Proofs.Binding

namespace MarketSearch

/-! ## Paths -/

namespace Route

theorem ofPath?_eq_some_iff {path : String} {route : Route} :
    ofPath? path = .some route ↔ route.path = path := by
  unfold ofPath?
  by_cases hh : health.path = path
  · subst hh
    cases route <;> simp [Route.path]
  by_cases hp : products.path = path
  · subst hp
    cases route <;> simp [Route.path]
  · cases route <;> simp [hh, hp]

end Route

namespace Service

variable {s s' : Service} {now : Moment} {turn turn' : Nat} {r r' : Request}

/-! ## Tokens -/

/-- The request carries a token that is accepted at this time. -/
def Admits (s : Service) (now : Moment) (r : Request) : Prop :=
  ∃ token claims, Bearer.ofRequest? r = .some token ∧
    s.verifier.authorize now.seconds token = .ok claims

theorem not_admits_iff : ¬ s.Admits now r ↔ ∃ fault, s.authorize now r = .error fault := by
  unfold Admits authorize
  cases hb : Bearer.ofRequest? r with
  | none => simp
  | some token =>
    cases ha : s.verifier.authorize now.seconds token with
    | ok claims => simp [ha]
    | error fault => simp [ha]

theorem authorize_congr (hv : s'.verifier = s.verifier) (hh : r'.headers = r.headers) :
    s'.authorize now r' = s.authorize now r := by
  simp only [authorize, Bearer.ofRequest?, Request.header?, hv, hh]

/-! ## Refusal -/

theorem route_of_unauthorized {fault : AuthFault} (h : s.authorize now r = .error fault) (turn : Nat) :
    s.route now turn r .products = ⟨(ApiError.ofAuth r.path fault).response, []⟩ := by
  simp only [route, h]

theorem asked_read (method : String) {response : Handled} (h : response.asked = []) :
    (read method response).asked = [] := by
  unfold read
  split
  · exact h
  · rfl

theorem asked_of_unauthorized (h : ¬ s.Admits now r) (turn : Nat) : (s.handle now turn r).asked = [] := by
  obtain ⟨fault, hf⟩ := not_admits_iff.mp h
  simp only [handle]
  split
  · rfl
  · split
    · next route _ =>
      cases route with
      | health => exact asked_read _ rfl
      | products => rw [route_of_unauthorized hf]
    · rfl

/-- In whatever run, a source is asked only for a request that carries an accepted token. -/
theorem admits_of_asked {rs : List Request} :
    ∀ {turn : Nat}, ∀ p ∈ rs.zip (s.handleAll now turn rs), p.2.asked ≠ [] → s.Admits now p.1 := by
  induction rs with
  | nil => simp [handleAll]
  | cons r rs ih =>
    intro turn p hp hasked
    simp only [handleAll, List.zip_cons_cons, List.mem_cons] at hp
    rcases hp with rfl | hp
    · exact Classical.byContradiction fun h => hasked (asked_of_unauthorized h turn)
    · exact ih p hp hasked

/-- **Without an authorized token nothing is asked and nothing is learnt.** No source is asked; and
off the path of health, the response is the same for every engine, request limit and history, and
for every address with the same path, whatever its query. -/
theorem unauthorized_learns_nothing (h : ¬ s.Admits now r) :
    (∀ turn, (s.handle now turn r).asked = []) ∧
    ∀ {s' : Service} {r' : Request} (turn turn' : Nat), s'.verifier = s.verifier →
      r'.method = r.method → r'.headers = r.headers → r'.path = r.path → r.path ≠ Route.health.path →
      (s'.handle now turn' r').response = (s.handle now turn r).response := by
  refine ⟨asked_of_unauthorized h, fun {s' r'} turn turn' hv hm hh hp hhealth => ?_⟩
  obtain ⟨fault, hf⟩ := not_admits_iff.mp h
  have hf' : s'.authorize now r' = .error fault := (authorize_congr hv hh).trans hf
  simp only [handle, hp, hm]
  cases hroute : Route.ofPath? r.path with
  | none => rfl
  | some route =>
    cases route with
    | health => exact absurd (Route.ofPath?_eq_some_iff.mp hroute).symm hhealth
    | products => simp only [route_of_unauthorized hf, route_of_unauthorized hf', hp]

/-- No source, and no time to search in. -/
def closedService : Service := ⟨.ofRegistry .empty, ⟨"secret", "product:read"⟩, 0⟩

/-- One source with a product, and the same verifier. -/
def openService : Service :=
  ⟨⟨Registry.empty.put (Binding.sending .tiki 0 [.draft "1" "iphone" .tiki]).adapter, .name, 7, .some 1⟩,
    ⟨"secret", "product:read"⟩, 10⟩

/-- With a token that is none, a query that says nothing is answered like one that says something. -/
theorem broken_token_learns_nothing :
    (∀ turn, (closedService.handle ⟨0, "now"⟩ turn
      ⟨"GET", "/api/v1/products?query=", [("Authorization", "Bearer abc.def")]⟩).asked = []) ∧
    (openService.handle ⟨0, "now"⟩ 4
        ⟨"GET", "/api/v1/products?query=iphone", [("Authorization", "Bearer abc.def")]⟩).response =
      (closedService.handle ⟨0, "now"⟩ 0
        ⟨"GET", "/api/v1/products?query=", [("Authorization", "Bearer abc.def")]⟩).response := by
  have h : ¬ closedService.Admits ⟨0, "now"⟩
      ⟨"GET", "/api/v1/products?query=", [("Authorization", "Bearer abc.def")]⟩ :=
    not_admits_iff.mpr ⟨.invalidToken "InvalidToken", rfl⟩
  obtain ⟨hasked, hsame⟩ := unauthorized_learns_nothing h
  exact ⟨hasked, hsame _ _ rfl rfl rfl (by decide) (by decide)⟩

end Service
end MarketSearch
