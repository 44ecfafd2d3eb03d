/-
What an authorized search sends to the marketplaces.

The words of the query go through an inbound reader and an outbound writer of
form data, which undo each other, so they arrive as they were asked for, within
one parameter and in nothing else (`Service.handle_asks_upstream`).  A client
sends one request for one fetch (`MarketClient.traced_of_url?`), and a search
fetches once from each enabled marketplace.
-/
import MarketSearch.Proofs.Address
import MarketSearch.Proofs.Decision
import MarketSearch.Proofs.Form
import MarketSearch.Proofs.Run
import MarketSearch.Settings.Service

namespace MarketSearch

/-! ## Requests sent -/

/-- A network that keeps the addresses it is asked for, the latest last. -/
def Network.recorded (network : Network) (url : Url) : StateM (List Url) Exchange := do
  modify (· ++ [url])
  return network url

namespace MarketClient

variable {c : MarketClient} {network : Network} {f : Filter} {url : Url}

/-- What a fetch brings, and the addresses that it asks for. -/
def traced (c : MarketClient) (network : Network) (f : Filter) : Reply (List Json) × List Url :=
  Id.run ((c.fetchVia network.recorded f).run [])

/-- A fetch asks for the address of its search, once. -/
theorem traced_of_url? (h : c.url? f = .some url) : c.traced network f = (c.fetch network f, [url]) := by
  unfold traced fetch fetchVia Caller.getVia
  rw [h]
  rfl

/-- The parameters of a search for some words, marketplace by marketplace. -/
def pairs (words : String) : Source → SortDirection → List (String × String)
  | .tiki, .ascending => [("q", words), ("sort", "price,asc")]
  | .tiki, .descending => [("q", words), ("sort", "price,desc")]
  | .shopee, .ascending => [("keyword", words), ("by", "price"), ("order", "asc")]
  | .shopee, .descending => [("keyword", words), ("by", "price"), ("order", "desc")]
  | .lazada, .ascending => [("q", words), ("ajax", "true"), ("sort", "priceasc")]
  | .lazada, .descending => [("q", words), ("ajax", "true"), ("sort", "pricedesc")]

theorem params_eq (x : Source) (f : Filter) : params x f = pairs f.words x f.direction := by
  obtain ⟨query, direction⟩ := f
  cases x <;> cases direction <;> rfl

/-- The segments of the place of a search. -/
def place : Source → List (List Char)
  | .tiki => ["api".toList, "v2".toList, "products".toList]
  | .shopee => ["api".toList, "v4".toList, "search".toList, "search_items".toList]
  | .lazada => ["catalog".toList, []]

theorem searchPath_eq (x : Source) : (searchPath x).toList = (place x).flatMap ('/' :: ·) := by
  cases x <;> decide

theorem isWordChar_place (x : Source) : ∀ s ∈ place x, ∀ c ∈ s, Url.isWordChar c = true := by
  have hall : (place x).all (·.all Url.isWordChar) = true := by cases x <;> decide
  exact fun s hs => List.all_eq_true.mp (List.all_eq_true.mp hall s hs)

/-- The address asks a marketplace, at the address of its service, for some words in some order. -/
structure AsksFor (url : Url) (base : Url.Base) (x : Source) (words : String) (d : SortDirection) : Prop where
  /-- The request goes where the address of the service leads. -/
  origin : (Url.ofText? base.text).map Url.origin = .some url.origin
  path : url.path = base.path ++ (searchPath x).toList
  query : ∃ query, url.query = .some query ∧ Form.decode query = pairs words x d
  visible : ∀ c ∈ url.target, 0x20 < c.toNat ∧ c.toNat < 0x7F

theorem isInner_of_mem_path {base : Url.Base} {x : Source} {c : Char}
    (h : c ∈ base.path ++ (searchPath x).toList) : Url.IsInner c := by
  rw [searchPath_eq, Url.Base.path, ← List.flatMap_append] at h
  obtain ⟨s, hs, hc⟩ := List.mem_flatMap.mp h
  rcases List.mem_cons.mp hc with rfl | hc
  · decide
  · rcases List.mem_append.mp hs with hs | hs
    · exact (Url.isInner_of_isWordChar (Url.Base.isWordChar_segments hs c hc)).1
    · exact (Url.isInner_of_isWordChar (isWordChar_place x s hs c hc)).1

/-- A client of a service asks it for the words of the filter. -/
theorem exists_asksFor {base : Url.Base} (h : c.base = base.text) (f : Filter) :
    ∃ url, c.url? f = .some url ∧ AsksFor url base c.source f.words f.direction := by
  have hne : place c.source ≠ [] := by cases c.source <;> simp [place]
  obtain ⟨origin, horigin, hread⟩ := Url.ofChars?_place base hne (isWordChar_place c.source)
  rw [← searchPath_eq, ← h] at hread
  refine ⟨_, by rw [url?, address, hread]; rfl, horigin, rfl, ⟨_, rfl, ?_⟩, fun ch hch => ?_⟩
  · rw [params_eq]
    exact Form.decode_encode _
  · rcases List.mem_append.mp hch with hpath | hquery
    · exact ⟨(isInner_of_mem_path hpath).1, (isInner_of_mem_path hpath).2.1⟩
    · rcases List.mem_cons.mp hquery with rfl | hquery
      · decide
      · exact ⟨(Form.isSent_of_mem_encode hquery).1, (Form.isSent_of_mem_encode hquery).2.1⟩

end MarketClient

/-! ## Enabled marketplaces -/

namespace SourcesSettings

variable {s : SourcesSettings} {network : Network} {r : Registry}

theorem mem_enabled {x : Source} : x ∈ s.enabled ↔ (s.get x).enabled = true := by
  simp [enabled, Source.mem_all]

/-- The adapters of the enabled marketplaces, in canonical order. -/
def enabledAdapters (s : SourcesSettings) (network : Network) : List Adapter :=
  s.enabled.map fun x => (s.binding network x).adapter

/-- A registry of the enabled marketplaces holds the binding of each of them. -/
theorem get?_of_registered (h : Registry.empty.registerAll (s.enabledAdapters network) = .ok r) (x : Source) :
    r.get? x = if x ∈ s.enabled then .some (s.binding network x).adapter else .none := by
  rw [Registry.get?_of_registerAll h, enabledAdapters, List.find?_map]
  have hfind : s.enabled.find? (fun y => y = x) = if x ∈ s.enabled then .some x else .none := by
    cases hy : s.enabled.find? (fun y => y = x) with
    | none =>
      rw [if_neg]
      intro hx
      simpa using List.find?_eq_none.mp hy x hx
    | some y =>
      obtain rfl : y = x := by simpa using List.find?_some hy
      rw [if_pos (List.mem_of_find?_eq_some hy)]
  have hsource : ((fun a : Adapter => decide (a.source = x)) ∘ fun y => (s.binding network y).adapter) =
      fun y => decide (y = x) := rfl
  rw [hsource, hfind]
  split <;> rfl

theorem sources_of_registered (h : Registry.empty.registerAll (s.enabledAdapters network) = .ok r) :
    r.sources = s.enabled := by
  unfold Registry.sources
  refine List.filter_congr fun x _ => ?_
  rw [get?_of_registered h]
  by_cases hx : x ∈ s.enabled
  · simp [hx, mem_enabled.mp hx]
  · have hdisabled : (s.get x).enabled = false := by simpa [mem_enabled] using hx
    simp [hx, hdisabled]

theorem registry_eq_ok_iff : s.registry network = .ok r ↔
    Registry.empty.registerAll (s.enabledAdapters network) = .ok r ∧ r.ensureNotEmpty = .ok () := by
  refine bind_eq_ok_iff.trans ?_
  constructor
  · rintro ⟨r', hr, hkept⟩
    obtain ⟨_, hne, rfl⟩ := map_eq_ok_iff.mp hkept
    exact ⟨hr, hne⟩
  · rintro ⟨hr, hne⟩
    exact ⟨r, hr, by rw [hne]; rfl⟩

theorem get?_registry (h : s.registry network = .ok r) (x : Source) :
    r.get? x = if x ∈ s.enabled then .some (s.binding network x).adapter else .none :=
  get?_of_registered (registry_eq_ok_iff.mp h).1 x

theorem sources_registry (h : s.registry network = .ok r) : r.sources = s.enabled :=
  sources_of_registered (registry_eq_ok_iff.mp h).1

theorem enabled_nodup : s.enabled.Nodup := Source.nodup_all.sublist List.filter_sublist

end SourcesSettings

/-! ## Requests received -/

/-- The address of a search for a query in an order. -/
def searchUri (q : String) (d : SortDirection) : String :=
  "/api/v1/products?query=" ++ String.ofList (Form.encodeText q.toList) ++ "&sort=" ++ d.label

/-- Two pairs of which the names, and the second text, are written as they are. -/
theorem Form.encode_pair {name name' text' : String} (hname : encodeText name.toList = name.toList)
    (hname' : encodeText name'.toList = name'.toList) (htext' : encodeText text'.toList = text'.toList)
    (text : String) : encode [(name, text), (name', text')] =
      (name.toList ++ ['=']) ++ encodeText text.toList ++ '&' :: (name'.toList ++ ['=']) ++ text'.toList := by
  simp [encode, encodePair, hname, hname', htext']

namespace Request

theorem toList_searchUri (q : String) (d : SortDirection) : (searchUri q d).toList =
    "/api/v1/products".toList ++ '?' :: Form.encode [("query", q), ("sort", d.label)] := by
  have hlabel : Form.encodeText d.label.toList = d.label.toList := by cases d <;> decide
  have hencode := @Form.encode_pair "query" "sort" d.label (by decide) (by decide) hlabel q
  have hstart : "/api/v1/products?query=".toList =
      "/api/v1/products".toList ++ '?' :: ("query".toList ++ ['=']) := by decide +kernel
  have hmiddle : "&sort=".toList = '&' :: ("sort".toList ++ ['=']) := by decide +kernel
  have happend : ∀ (a b c : String) (cs : List Char), (a ++ String.ofList cs ++ b ++ c).toList =
      a.toList ++ cs ++ b.toList ++ c.toList := by simp
  have huri : (searchUri q d).toList = "/api/v1/products?query=".toList ++ Form.encodeText q.toList ++
      "&sort=".toList ++ d.label.toList := happend ..
  -- the texts are named, for they are not to be computed here
  generalize "/api/v1/products?query=".toList = start, "&sort=".toList = middle,
    "/api/v1/products".toList = path, "query".toList ++ ['='] = query, "sort".toList ++ ['='] = sort,
    Form.encode [("query", q), ("sort", d.label)] = pairs at *
  simp [huri, hencode, hstart, hmiddle]

/-- The address leads to the searches, with the query and the order in its pairs. -/
theorem target_searchUri {r : Request} {q : String} {d : SortDirection} (h : r.uri = searchUri q d) :
    r.target = ⟨"/api/v1/products".toList, Form.encode [("query", q), ("sort", d.label)]⟩ := by
  have hpath : ∀ c ∈ "/api/v1/products".toList, (c != '#') = true := List.all_eq_true.mp (by decide)
  have hquery : ∀ c ∈ '?' :: Form.encode [("query", q), ("sort", d.label)], (c != '#') = true := by
    intro c hc
    rcases List.mem_cons.mp hc with rfl | hc
    · decide
    · simpa using (Form.isSent_of_mem_encode hc).2.2
  have hwhole : ("/api/v1/products".toList ++ '?' :: Form.encode [("query", q), ("sort", d.label)]).takeWhile
      (· != '#') = "/api/v1/products".toList ++ '?' :: Form.encode [("query", q), ("sort", d.label)] := by
    rw [List.takeWhile_append_of_pos hpath, takeWhile_of_forall hquery]
  have hhead : ("/api/v1/products".toList ++ '?' :: Form.encode [("query", q), ("sort", d.label)]).head? =
      .some '/' := rfl
  unfold target Target.ofUri
  simp only [h, toList_searchUri]
  rw [if_pos hhead, Target.ofPath]
  simp only [hwhole, Text.splitFirst?_append (by decide : '?' ∉ "/api/v1/products".toList)]

end Request

theorem ofText?_label (d : SortDirection) : SortDirection.ofText? d.label = .ok d := by
  cases d <;> decide

/-- The query of the address says the filter. -/
theorem ofQuery_encode (q : String) (d : SortDirection) :
    Filter.ofQuery (Form.encode [("query", q), ("sort", d.label)]) = .ok ⟨q, d⟩ := by
  refine ofQuery_eq_ok_iff.mpr ?_
  rw [Form.decode_encode]
  exact ⟨.inl rfl, .inl ⟨d.label, rfl, ofText?_label d⟩⟩

/-! ## From one to the other -/

namespace Service

variable {s : Service} {now : Moment} {r : Request} {q : String} {d : SortDirection}

theorem asked_of_admits (hm : r.method = "GET") (hp : r.path = Route.products.path) (ha : s.Admits now r)
    (turn : Nat) : (s.handle now turn r).asked = (s.search turn r).asked := by
  obtain ⟨claims, hauthorize⟩ := ha.authorize
  simp only [handle, Route.ofPath?_eq_some_iff.mpr hp.symm, hm, route, hauthorize]
  rfl

/-- An authorized request for a query in an order is a search for them. -/
theorem handle_of_searchUri (hm : r.method = "GET") (huri : r.uri = searchUri q d) (ha : s.Admits now r)
    (turn : Nat) : (s.handle now turn r).response = shared (s.answer turn r.path ⟨q, d⟩).response ∧
      (s.handle now turn r).asked = (s.engine.search turn ⟨q, d⟩).asked := by
  have htarget := Request.target_searchUri huri
  have hpath : r.path = Route.products.path := by
    rw [Request.path, htarget]
    exact String.ofList_toList
  have hsearch : s.search turn r = s.answer turn r.path ⟨q, d⟩ := by
    simp only [search, htarget, ofQuery_encode]
  rw [handle_of_admits hm hpath ha, asked_of_admits hm hpath ha, hsearch]
  exact ⟨rfl, rfl⟩

/-- Where the marketplaces below are. -/
def localBase : Url.Base where
  host := "localhost".toList
  port := .some 8081
  segments := ["markets".toList, "v1".toList]
  slashes := 2
  isHost_host := by decide
  port_lt := by simp
  isAlphanum_segments := by simp

/-- Tiki and Lazada are searched. -/
def localSettings : Settings :=
  { Settings.default with
    auth := ⟨"secret", "product:read"⟩
    sources :=
      { tiki := .at localBase.text
        shopee := { SourcesSettings.default.shopee with enabled := false }
        lazada := .at localBase.text } }

end Service
end MarketSearch
