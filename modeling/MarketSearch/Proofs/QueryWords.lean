/-
The blanks around a query make no difference.

Nothing looks at a query but through its words: the check of a filter, the
parameters of every client, and with them what sources reply.  So filters of
the same words and direction (`Filter.SaysSame`) are accepted or refused alike
and have the same answer, but for messages that show the query as it was given
(`SearchEngine.SameOutcome`).  What is sent of an accepted filter are its words,
which are as the check wants them (`Filter.validate_eq_ok_iff`).
-/
import MarketSearch.Proofs.Trimming
import MarketSearch.Proofs.Upstream

namespace MarketSearch

/-! ## Queries of addresses -/

namespace Text

theorem splitAll_ne_nil (mark : Char) (cs : List Char) : splitAll mark cs ≠ [] := by
  fun_induction splitAll mark cs with
  | case1 => simp
  | case2 => simp
  | case3 => simp
  | case4 => simp

/-- A mark cuts, whatever stands before it. -/
theorem splitAll_append_mark (mark : Char) (a b : List Char) :
    splitAll mark (a ++ mark :: b) = splitAll mark a ++ splitAll mark b := by
  induction a with
  | nil => simp [splitAll]
  | cons c cs ih =>
    by_cases hc : c = mark
    · simp only [List.cons_append, splitAll, if_pos hc, ih]
    · simp only [List.cons_append, splitAll, if_neg hc, ih]
      cases hcs : splitAll mark cs with
      | nil => exact absurd hcs (splitAll_ne_nil mark cs)
      | cons p ps => rfl

end Text

theorem Form.decode_append (a b : List Char) : decode (a ++ '&' :: b) = decode a ++ decode b := by
  simp only [decode, Text.splitAll_append_mark, List.filter_append, List.map_append]

/-- Parameters that are added are read after those that were there. -/
theorem Url.decode_extend (query : Option (List Char)) (pairs : List (String × String)) :
    Form.decode (extend query pairs) = Form.decode (query.getD []) ++ pairs := by
  match query with
  | .none => exact Form.decode_encode pairs
  | .some [] => exact Form.decode_encode pairs
  | .some (c :: cs) =>
    show Form.decode (c :: cs ++ '&' :: Form.encode pairs) = _
    rw [Form.decode_append, Form.decode_encode]
    rfl

/-! ## Filters -/

/-- What a query may be that is sent: not empty, without blanks at its ends, not too long, and without
control characters. -/
structure IsSendable (text : String) : Prop where
  ne_empty : text ≠ ""
  first : ∀ c, text.toList.head? = .some c → Text.isBlank c = false
  last : ∀ c, text.toList.getLast? = .some c → Text.isBlank c = false
  length_le : text.toList.length ≤ 256
  no_control : ∀ c ∈ text.toList, Text.isControl c = false

namespace Filter

variable {f g : Filter}

/-- The filters have the same words and the same direction. -/
structure SaysSame (f g : Filter) : Prop where
  words : f.words = g.words
  direction : f.direction = g.direction

theorem SaysSame.validate (h : f.SaysSame g) : f.validate = g.validate := by
  simp only [Filter.validate, h.words]

theorem toList_words (f : Filter) : f.words.toList = Text.trim f.query.toList := String.toList_ofList

/-- A filter is accepted when its words can be sent. -/
theorem validate_eq_ok_iff : f.validate = .ok () ↔ IsSendable f.words := by
  have hchecks : f.validate = .ok () ↔ f.words.toList ≠ [] ∧ f.words.toList.length ≤ 256 ∧
      ∀ c ∈ f.words.toList, Text.isControl c = false := by
    simp [validate, maxQueryLength, ite_error_eq_ok_iff]
  rw [hchecks]
  constructor
  · rintro ⟨hempty, hlength, hcontrol⟩
    refine ⟨fun h => hempty (by rw [h]; rfl), fun c hc => ?_, fun c hc => ?_, hlength, hcontrol⟩
    · exact Text.head?_trim (toList_words f ▸ hc)
    · exact Text.getLast?_trim (toList_words f ▸ hc)
  · intro h
    exact ⟨fun hempty => h.ne_empty (String.toList_inj.mp hempty), h.length_le, h.no_control⟩

end Filter

/-! ## Clients -/

namespace MarketClient

variable {c : MarketClient} {f g : Filter} {url : Url}

theorem url?_congr (h : f.SaysSame g) (c : MarketClient) : c.url? f = c.url? g := by
  rw [url?, url?, params_eq, params_eq, h.words, h.direction]

theorem fetchVia_congr {m : Type → Type} [Monad m] (h : f.SaysSame g) (c : MarketClient) (send : Url → m Exchange) :
    c.fetchVia send f = c.fetchVia send g := by
  rw [fetchVia, fetchVia, url?_congr h]

/-- The parameters in the address itself. -/
def addressPairs (c : MarketClient) : List (String × String) :=
  Form.decode (((Url.ofChars? c.address).bind Url.query).getD [])

/-- What is asked of a server are the words and the direction, after what is in its address. -/
theorem exists_query_of_url? (h : c.url? f = .some url) :
    ∃ query, url.query = .some query ∧ Form.decode query = c.addressPairs ++ pairs f.words c.source f.direction := by
  obtain ⟨u, hu, rfl⟩ := Option.map_eq_some_iff.mp h
  refine ⟨_, rfl, ?_⟩
  rw [Url.decode_extend, params_eq, addressPairs, hu]
  rfl

end MarketClient

/-! ## Searches -/

namespace SearchEngine

variable {e : SearchEngine} {turn : Nat} {f g : Filter}

/-- The registered sources reply to the filters alike. -/
def RepliesAlike (e : SearchEngine) (turn : Nat) (f g : Filter) : Prop :=
  ∀ s a, e.registry.get? s = .some a → a.fetch turn f = a.fetch turn g

/-- Of two filters, both are refused, or nothing is found for both, or the same is. -/
inductive SameOutcome (f g : Filter) : Except SearchError SearchReport → Except SearchError SearchReport → Prop where
  | refused : SameOutcome f g (.error (.invalidFilter f)) (.error (.invalidFilter g))
  | nothing : SameOutcome f g (.error (.noProduct f.query)) (.error (.noProduct g.query))
  | found (r : SearchReport) : SameOutcome f g (.ok r) (.ok r)

theorem RepliesAlike.calls (h : e.RepliesAlike turn f g) : e.calls turn f = e.calls turn g := by
  refine List.map_congr_left fun a ha => ?_
  obtain ⟨s, -, hs⟩ := List.mem_filterMap.mp ha
  rw [h s a hs]

theorem report_congr (h : f.SaysSame g) (e : SearchEngine) (outcomes : List (Except SourceFault Batch)) :
    SameOutcome f g (e.report f outcomes) (e.report g outcomes) := by
  simp only [report, h.direction]
  split
  · exact .nothing
  · exact .found _

/-- A search looks at the words and the direction, and so do the sources. -/
theorem search_congr (h : f.SaysSame g) (hsources : e.RepliesAlike turn f g) :
    SameOutcome f g (e.search turn f).result (e.search turn g).result ∧
      (e.search turn f).asked = (e.search turn g).asked := by
  simp only [search, h.validate, hsources.calls]
  cases g.validate with
  | error v => exact ⟨.refused, rfl⟩
  | ok _ => exact ⟨report_congr h e _, rfl⟩

end SearchEngine

/-- The marketplaces that settings enable reply by the words and the direction. -/
theorem SourcesSettings.repliesAlike {s : SourcesSettings} {network : Network} {e : SearchEngine} {f g : Filter}
    (he : s.registry network = .ok e.registry) (h : f.SaysSame g) (turn : Nat) : e.RepliesAlike turn f g := by
  intro x a ha
  rw [get?_registry he] at ha
  split at ha
  · cases ha
    simp only [Binding.adapter, binding, MarketClient.fetch, MarketClient.fetchVia_congr h]
  · cases ha

namespace Filter

/-- **Blanks around a query are irrelevant.** Filters of the same words and direction are accepted, or refused for
the same reason; every client sends the same for them, through whatever carries its requests out; and from
sources that reply to them alike, as the marketplaces of all settings do, both have the same answer.
What is sent of a filter are its words, and it is accepted just when these are not empty, end with no blank on
either side, are not too long, and hold no control character. -/
theorem surrounding_blanks_are_irrelevant :
    (∀ f g : Filter, f.SaysSame g →
      f.validate = g.validate ∧
      (∀ c : MarketClient, c.url? f = c.url? g ∧ ∀ {m : Type → Type} [Monad m] (send : Url → m Exchange),
        c.fetchVia send f = c.fetchVia send g) ∧
      (∀ (e : SearchEngine) (turn : Nat), e.RepliesAlike turn f g →
        SearchEngine.SameOutcome f g (e.search turn f).result (e.search turn g).result ∧
        (e.search turn f).asked = (e.search turn g).asked) ∧
      ∀ (s : SourcesSettings) (network : Network) (e : SearchEngine), s.registry network = .ok e.registry →
        ∀ turn, e.RepliesAlike turn f g) ∧
    ∀ f : Filter, (f.validate = .ok () ↔ IsSendable f.words) ∧
      ∀ (c : MarketClient) (url : Url), c.url? f = .some url → ∃ query, url.query = .some query ∧
        Form.decode query = c.addressPairs ++ MarketClient.pairs f.words c.source f.direction := by
  refine ⟨fun f g h => ⟨h.validate, fun c => ⟨c.url?_congr h, c.fetchVia_congr h⟩, ?_, ?_⟩, fun f => ⟨?_, ?_⟩⟩
  · exact fun e turn hsources => SearchEngine.search_congr h hsources
  · exact fun s network e he turn => SourcesSettings.repliesAlike he h turn
  · exact validate_eq_ok_iff
  · exact fun c url => MarketClient.exists_query_of_url?

/-- A service whose address has a parameter of its own. -/
def queriedClient : MarketClient := ⟨.tiki, "http://localhost:8081/?page=2&path=", 3000⟩

/-- A line break, which is a control character, and a wide space come off; what is between words stays. -/
theorem blanks_around_iphone :
    let f : Filter := ⟨"\n iphone 15\u3000", .ascending⟩
    let g : Filter := ⟨"iphone 15", .ascending⟩
    f.SaysSame g ∧ f.validate = g.validate ∧ g.validate = .ok () ∧
    SearchEngine.SameOutcome f g ((SearchEngine.withTikiAfter 3).search 0 f).result
      ((SearchEngine.withTikiAfter 3).search 0 g).result ∧
    ∃ url query, queriedClient.url? f = .some url ∧ queriedClient.url? g = .some url ∧ url.query = .some query ∧
      Form.decode query = [("page", "2"), ("path", "/api/v2/products"), ("q", "iphone 15"), ("sort", "price,asc")] := by
  intro f g
  have hsame : f.SaysSame g := ⟨by decide, rfl⟩
  have hf : f.validate = .ok () := by decide
  have hwords : f.words = "iphone 15" := by decide
  have hreplies : (SearchEngine.withTikiAfter 3).RepliesAlike 0 f g := by
    intro s a ha
    cases s <;> cases ha <;> rfl
  have hurl : (queriedClient.url? f).isSome = true := by decide +kernel
  have haddress : queriedClient.addressPairs = [("page", "2"), ("path", "/api/v2/products")] := by decide +kernel
  obtain ⟨url, hurl⟩ := Option.isSome_iff_exists.mp hurl
  obtain ⟨hvalidate, hclients, hsearches, -⟩ := surrounding_blanks_are_irrelevant.1 f g hsame
  obtain ⟨query, hquery, hpairs⟩ := (surrounding_blanks_are_irrelevant.2 f).2 queriedClient url hurl
  refine ⟨hsame, hvalidate, hvalidate ▸ hf, (hsearches _ 0 hreplies).1, url, query, hurl, ?_, hquery, ?_⟩
  · exact (hclients queriedClient).1 ▸ hurl
  · rw [hpairs, haddress, hwords]
    rfl

end Filter
end MarketSearch
