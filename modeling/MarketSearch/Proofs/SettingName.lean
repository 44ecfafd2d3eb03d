/-
The single settings, which together are all there is (`Settings.eq_of_get`):
where each stands in a tree, what kind of value it takes, and that a loaded
record has there what the tree says (`Settings.yields_get`).

Reading is followed along a path one name at a time (`Setting.Yields`): what a
section reads at its own names, the whole reads at the names with the section
in front.
-/
import MarketSearch.Settings.Load
import MarketSearch.Proofs.Tree

namespace MarketSearch

/-! ## Names -/

/-- The kinds of values that settings take. -/
inductive SettingKind where
  | text
  | flag
  | count16
  | count64
  | limit
  | sortKey
  | logFormat
deriving DecidableEq

/-- A single setting. -/
inductive SettingName where
  | host
  | port
  | requestTimeout
  | secret
  | requiredScope
  | perSourceTimeout
  | sortKey
  | maxProducts
  | enabled (source : Source)
  | baseUrl (source : Source)
  | clientTimeout (source : Source)
  | imageBaseUrl
  | level
  | format
deriving DecidableEq

namespace SettingName

def all : List SettingName :=
  [.host, .port, .requestTimeout, .secret, .requiredScope, .perSourceTimeout, .sortKey, .maxProducts] ++
    Source.all.flatMap (fun x => [.enabled x, .baseUrl x, .clientTimeout x]) ++ [.imageBaseUrl, .level, .format]

theorem mem_all (n : SettingName) : n ∈ all := by
  cases n with
  | enabled x | baseUrl x | clientTimeout x => cases x <;> decide
  | _ => decide

/-- The names that lead to the setting from outside. -/
def path : SettingName → List String
  | .host => ["server", "host"]
  | .port => ["server", "port"]
  | .requestTimeout => ["server", "request_timeout_ms"]
  | .secret => ["auth", "jwt_secret"]
  | .requiredScope => ["auth", "required_scope"]
  | .perSourceTimeout => ["aggregation", "per_source_timeout_ms"]
  | .sortKey => ["aggregation", "sort_key"]
  | .maxProducts => ["aggregation", "max_products"]
  | .enabled x => ["sources", x.key, "enabled"]
  | .baseUrl x => ["sources", x.key, "base_url"]
  | .clientTimeout x => ["sources", x.key, "timeout_ms"]
  | .imageBaseUrl => ["sources", "shopee", "image_base_url"]
  | .level => ["logging", "level"]
  | .format => ["logging", "format"]

def kind : SettingName → SettingKind
  | .host | .secret | .requiredScope | .baseUrl _ | .imageBaseUrl | .level => .text
  | .port => .count16
  | .requestTimeout | .perSourceTimeout | .clientTimeout _ => .count64
  | .sortKey => .sortKey
  | .maxProducts => .limit
  | .enabled _ => .flag
  | .format => .logFormat

/-- No setting stands below another. -/
theorem eq_of_isPrefixOf {n n' : SettingName} (h : n.path.isPrefixOf n'.path = true) : n = n' := by
  have hall : all.all (fun n => all.all fun n' => !n.path.isPrefixOf n'.path || n == n') = true := by decide
  have hn := List.all_eq_true.mp (List.all_eq_true.mp hall n n.mem_all) n' n'.mem_all
  simpa [h] using hn

end SettingName

/-- The value of one setting, as data. -/
def Settings.get (s : Settings) : SettingName → Json
  | .host => .str s.server.host
  | .port => .int s.server.port.toNat
  | .requestTimeout => .int s.server.requestTimeout.toNat
  | .secret => .str s.auth.secret
  | .requiredScope => .str s.auth.requiredScope
  | .perSourceTimeout => .int s.results.perSourceTimeout.toNat
  | .sortKey => s.results.sortKey.json
  | .maxProducts => (s.results.maxProducts.map fun n => Json.int n.toNat).getD .null
  | .enabled x => .bool (s.sources.get x).enabled
  | .baseUrl x => .str (s.sources.get x).baseUrl
  | .clientTimeout x => .int (s.sources.get x).timeout.toNat
  | .imageBaseUrl => .str s.sources.shopee.imageBaseUrl
  | .level => .str s.logging.level
  | .format => .str s.logging.format.label

theorem Json.count_inj {n n' : UInt64} (h : Json.int n.toNat = .int n'.toNat) : n = n' :=
  UInt64.toNat_inj.mp (Int.ofNat.inj (Json.int.inj h))

theorem SourceSettings.eq_of_get {s s' : SourceSettings} (henabled : Json.bool s.enabled = .bool s'.enabled)
    (hbaseUrl : Json.str s.baseUrl = .str s'.baseUrl)
    (htimeout : Json.int s.timeout.toNat = .int s'.timeout.toNat) : s = s' := by
  obtain ⟨enabled, baseUrl, timeout⟩ := s
  obtain ⟨enabled', baseUrl', timeout'⟩ := s'
  obtain rfl : enabled = enabled' := Json.bool.inj henabled
  obtain rfl : baseUrl = baseUrl' := Json.str.inj hbaseUrl
  obtain rfl : timeout = timeout' := Json.count_inj htimeout
  rfl

theorem Json.limit_inj {n n' : Option UInt64} (h : (n.map fun n => Json.int n.toNat).getD .null =
    (n'.map fun n => Json.int n.toNat).getD .null) : n = n' := by
  cases n with
  | none =>
    cases n' with
    | none => rfl
    | some n' => cases h
  | some n =>
    cases n' with
    | none => cases h
    | some n' => rw [count_inj h]

/-- **The single settings are all there is**: settings that agree in each of them are the same. -/
theorem Settings.eq_of_get {s s' : Settings} (h : ∀ n, s.get n = s'.get n) : s = s' := by
  have hsource (x : Source) : s.sources.get x = s'.sources.get x :=
    SourceSettings.eq_of_get (h (.enabled x)) (h (.baseUrl x)) (h (.clientTimeout x))
  obtain ⟨⟨host, port, requestTimeout⟩, ⟨secret, scope⟩, ⟨sourceTimeout, key, limit⟩, ⟨tiki, ⟨shopee, image⟩, lazada⟩,
    ⟨level, format⟩⟩ := s
  obtain ⟨⟨host', port', requestTimeout'⟩, ⟨secret', scope'⟩, ⟨sourceTimeout', key', limit'⟩,
    ⟨tiki', ⟨shopee', image'⟩, lazada'⟩, ⟨level', format'⟩⟩ := s'
  obtain rfl : host = host' := Json.str.inj (h .host)
  obtain rfl : port = port' := UInt16.toNat_inj.mp (Int.ofNat.inj (Json.int.inj (h .port)))
  obtain rfl : requestTimeout = requestTimeout' := Json.count_inj (h .requestTimeout)
  obtain rfl : secret = secret' := Json.str.inj (h .secret)
  obtain rfl : scope = scope' := Json.str.inj (h .requiredScope)
  obtain rfl : sourceTimeout = sourceTimeout' := Json.count_inj (h .perSourceTimeout)
  obtain rfl : key = key' := by
    have hlabel : key.label = key'.label := Json.str.inj (h .sortKey)
    revert hlabel
    cases key <;> cases key' <;> decide
  obtain rfl : limit = limit' := Json.limit_inj (h .maxProducts)
  obtain rfl : tiki = tiki' := hsource .tiki
  obtain rfl : shopee = shopee' := hsource .shopee
  obtain rfl : lazada = lazada' := hsource .lazada
  obtain rfl : image = image' := Json.str.inj (h .imageBaseUrl)
  obtain rfl : level = level' := Json.str.inj (h .level)
  obtain rfl : format = format' := by
    have hlabel : format.label = format'.label := Json.str.inj (h .format)
    revert hlabel
    cases format <;> cases format' <;> decide
  rfl

/-! ## Values of a kind -/

namespace SettingKind

/-- Reads a value of the kind from a tree, as data. -/
def read : SettingKind → Setting → Except SettingFault Json
  | .text, v => v.text.map .str
  | .flag, v => v.flag.map .bool
  | .count16, v => v.count16.map fun n => .int n.toNat
  | .count64, v => v.count64.map fun n => .int n.toNat
  | .limit, v => (Setting.optional Setting.count64 v).map fun n => (n.map fun n => Json.int n.toNat).getD .null
  | .sortKey, v => (Setting.choice "SortKey" SortKey.labelled v).map SortKey.json
  | .logFormat, v => (Setting.choice "LogFormat" LogFormat.labelled v).map fun f => .str f.label

/-- The largest whole number that layers carry exactly. -/
def maxWhole : Nat := Nat.pow 2 63 - 1

/-- Data of the kind: texts, flags, counts, and the labels of a choice.  A limit may be left out. -/
inductive Holds : SettingKind → Json → Prop where
  | text (s : String) : Holds .text (.str s)
  | flag (b : Bool) : Holds .flag (.bool b)
  | count16 {n : Nat} (h : n < Nat.pow 2 16) : Holds .count16 (.int n)
  | count64 {n : Nat} (h : n ≤ maxWhole) : Holds .count64 (.int n)
  | limit {n : Nat} (h : n ≤ maxWhole) : Holds .limit (.int n)
  | noLimit : Holds .limit .null
  | sortKey (k : SortKey) : Holds .sortKey k.json
  | logFormat (f : LogFormat) : Holds .logFormat (.str f.label)

end SettingKind

/-! ## Reading along a path -/

namespace Setting

section

variable {σ α β : Type} {decode : Decoder σ} {read : Decoder α} {get : σ → α} {k : String} {p : List String}

/-- Whatever is decoded has for `get` what is read from the value at the path. -/
def Yields (decode : Decoder σ) (p : List String) (read : Decoder α) (get : σ → α) : Prop :=
  ∀ (t : Setting) (r : σ) (v : Setting), t.IsTidy → decode t = .ok r → t.atPath? p = .some v → read v = .ok (get r)

theorem atPath?_cons_eq_some_iff {t v : Setting} :
    t.atPath? (k :: p) = .some v ↔ ∃ w, t.fields.lookup k = .some w ∧ w.atPath? p = .some v := by
  rw [atPath?, Option.bind_eq_some_iff]

theorem Yields.cons {get' : α → β} {read' : Decoder β} (h : Yields decode [k] read get) (h' : Yields read p read' get') :
    Yields decode (k :: p) read' (fun r => get' (get r)) := by
  intro t r v ht hr hv
  obtain ⟨w, hw, hv⟩ := atPath?_cons_eq_some_iff.mp hv
  exact h' _ _ _ (ht.fields.of_lookup hw) (h _ _ _ ht hr (atPath?_cons_eq_some_iff.mpr ⟨w, hw, rfl⟩)) hv

theorem within_eq_ok_iff {step : SettingStep} {x : Except SettingFault α} {a : α} : within step x = .ok a ↔ x = .ok a := by
  cases x <;> simp [within]

theorem setFields_eq_ok_iff {l : Layout Setting SettingFault σ} {start r : σ} {fs : List (String × Setting)} :
    setFields l start fs = .ok r ↔ l.setAll start fs = .ok r := by
  induction fs generalizing start with
  | nil => rfl
  | cons f fs ih =>
    rw [Layout.setAll_cons_eq_ok_iff, setFields]
    refine bind_eq_ok_iff.trans ?_
    simp only [within_eq_ok_iff, ih]

theorem Yields.map (h : Yields decode p read get) (f : α → β) :
    Yields decode p (fun v => (read v).map f) (fun r => f (get r)) := by
  intro t r v ht hr hv
  exact map_eq_ok_iff.mpr ⟨get r, h t r v ht hr hv, rfl⟩

/-- A record is set at one of its names from the value there. -/
theorem yields_record {l : Layout Setting SettingFault σ} {f : Field Setting SettingFault σ} (start : σ)
    (hf : l.find? k = .some f) (hset : ∀ v r r', f.set v r = .ok r' → read v = .ok (get r'))
    (halone : l.IsSetBy get k) : Yields (record l start) [k] read get := by
  intro t r v ht hr hv
  obtain ⟨w, hw, hwv⟩ := atPath?_cons_eq_some_iff.mp hv
  obtain rfl : w = v := by simpa [atPath?] using hwv
  cases ht with
  | scalar | list => cases hw
  | table o hnames hvalues =>
    have hunder := AreTidy.under_eq ⟨hnames, hvalues⟩ hw
    rcases Layout.get_of_setAll hf halone (Nat.le_of_eq (by rw [hunder]; rfl)) (setFields_eq_ok_iff.mp hr) with
      ⟨hnone, -⟩ | ⟨v', r₁, r₂, hv', hr₂, hget⟩
    · rw [hunder] at hnone
      cases hnone
    · obtain rfl : w = v' := by simpa [hunder] using hv'
      rw [hset w r₁ r₂ hr₂, hget]

end

section

variable {ν ε σ α β : Type} {k : String}

@[simp] theorem trailingField_name (name : String) (read : ν → Except ε α) (put : σ → α → σ) :
    (trailingField name read put).name = name := rfl

/-- Where a field is set does not depend on whether it may be left out. -/
@[simp] theorem keeps_trailingField_iff {name : String} {read : ν → Except ε β} {put : σ → β → σ} {get : σ → α} :
    (trailingField name read put).Keeps get ↔ (field name read put).Keeps get := Iff.rfl

theorem yields_trailingField {read : Decoder α} {get : σ → α} {l : Layout Setting SettingFault σ} {put : σ → α → σ}
    (start : σ) (hf : l.find? k = .some (trailingField k read put)) (hput : ∀ r a, get (put r a) = a)
    (halone : l.IsSetBy get k) : Yields (record l start) [k] read get := by
  refine yields_record start hf (fun v r r' hset => ?_) halone
  obtain ⟨a, ha, rfl⟩ := (@set_field_eq_ok_iff _ _ _ _ k read put v r r').mp hset
  rw [ha, hput]

end

end Setting

/-! ## The records -/

open Setting

/-- A marketplace that has to be complete is read as its draft, which is complete then. -/
theorem SourceSettings.read_eq_ok {t : Setting} {s : SourceSettings} (h : read reading t = .ok s) :
    record (layout reading) ⟨.none, .none, .none⟩ t = .ok ⟨.some s.enabled, .some s.baseUrl, .some s.timeout⟩ := by
  obtain ⟨⟨enabled, baseUrl, timeout⟩, hd, h⟩ := bind_eq_ok_iff.mp h
  obtain ⟨_, he, h⟩ := bind_eq_ok_iff.mp h
  obtain ⟨_, hb, h⟩ := bind_eq_ok_iff.mp h
  obtain ⟨_, ht, h⟩ := bind_eq_ok_iff.mp h
  cases h
  cases enabled with
  | none => cases he
  | some =>
    cases baseUrl with
    | none => cases hb
    | some =>
      cases timeout with
      | none => cases ht
      | some =>
        cases he
        cases hb
        cases ht
        exact hd

theorem SourceSettings.yields_part {α : Type} {read : Decoder α} {k : String} {put : Draft → α → Draft}
    {get : SourceSettings → α} (part : Draft → Option α) (hf : (layout reading).find? k = .some (field k read put))
    (hput : ∀ d a, part (put d a) = .some a) (halone : (layout reading).IsSetBy part k)
    (hget : ∀ s : SourceSettings, part ⟨.some s.enabled, .some s.baseUrl, .some s.timeout⟩ = .some (get s)) :
    Yields (SourceSettings.read reading) [k] read get := by
  have hdraft : Yields (record (layout reading) ⟨.none, .none, .none⟩) [k] (fun v => (read v).map .some) part := by
    refine yields_record _ hf (fun v d d' hset => ?_) halone
    obtain ⟨a, ha, rfl⟩ := set_field_eq_ok_iff.mp hset
    rw [ha, Except.map, hput]
  intro t s v ht hs hv
  obtain ⟨a, ha, hsome⟩ := map_eq_ok_iff.mp (hdraft t _ v ht (SourceSettings.read_eq_ok hs) hv)
  rw [ha, Option.some_inj.mp (hsome.trans (hget s))]

theorem SourceSettings.yields_fields :
    Yields (read reading) ["enabled"] flag enabled ∧ Yields (read reading) ["base_url"] text baseUrl ∧
      Yields (read reading) ["timeout_ms"] count64 timeout := by
  refine ⟨yields_part Draft.enabled rfl (fun _ _ => rfl) ?_ fun _ => rfl,
    yields_part Draft.baseUrl rfl (fun _ _ => rfl) ?_ fun _ => rfl,
    yields_part Draft.timeout rfl (fun _ _ => rfl) ?_ fun _ => rfl⟩
  all_goals simp [Layout.IsSetBy, layout, keeps_field]

theorem ShopeeSettings.yields_fields (start : ShopeeSettings) :
    Yields (record (layout reading) start) ["enabled"] flag (·.enabled) ∧
      Yields (record (layout reading) start) ["base_url"] text (·.baseUrl) ∧
      Yields (record (layout reading) start) ["timeout_ms"] count64 (·.timeout) ∧
      Yields (record (layout reading) start) ["image_base_url"] text imageBaseUrl := by
  refine ⟨?_, ?_, ?_, ?_⟩
  all_goals exact yields_trailingField start rfl (fun _ _ => rfl) (by simp [Layout.IsSetBy, layout, keeps_field])

theorem SourcesSettings.yields_fields (start : SourcesSettings) :
    Yields (record (layout reading) start) ["tiki"] (SourceSettings.read reading) tiki ∧
      Yields (record (layout reading) start) ["shopee"]
        (record (ShopeeSettings.layout reading) SourcesSettings.default.shopee) shopee ∧
      Yields (record (layout reading) start) ["lazada"] (SourceSettings.read reading) lazada := by
  refine ⟨?_, ?_, ?_⟩
  all_goals exact yields_trailingField start rfl (fun _ _ => rfl) (by simp [Layout.IsSetBy, layout, keeps_field])

theorem ServerSettings.yields_fields (start : ServerSettings) :
    Yields (record (layout reading) start) ["host"] text host ∧
      Yields (record (layout reading) start) ["port"] count16 port ∧
      Yields (record (layout reading) start) ["request_timeout_ms"] count64 requestTimeout := by
  refine ⟨?_, ?_, ?_⟩
  all_goals exact yields_trailingField start rfl (fun _ _ => rfl) (by simp [Layout.IsSetBy, layout, keeps_field])

theorem AuthSettings.yields_fields (start : AuthSettings) :
    Yields (record (layout reading) start) ["jwt_secret"] text secret ∧
      Yields (record (layout reading) start) ["required_scope"] text requiredScope := by
  refine ⟨?_, ?_⟩
  all_goals exact yields_trailingField start rfl (fun _ _ => rfl) (by simp [Layout.IsSetBy, layout, keeps_field])

theorem ResultSettings.yields_fields (start : ResultSettings) :
    Yields (record (layout reading) start) ["per_source_timeout_ms"] count64 perSourceTimeout ∧
      Yields (record (layout reading) start) ["sort_key"] (choice "SortKey" SortKey.labelled) sortKey ∧
      Yields (record (layout reading) start) ["max_products"] (optional count64) maxProducts := by
  refine ⟨?_, ?_, ?_⟩
  all_goals exact yields_trailingField start rfl (fun _ _ => rfl) (by simp [Layout.IsSetBy, layout, keeps_field])

theorem LoggingSettings.yields_fields (start : LoggingSettings) :
    Yields (record (layout reading) start) ["level"] text level ∧
      Yields (record (layout reading) start) ["format"] (choice "LogFormat" LogFormat.labelled) format := by
  refine ⟨?_, ?_⟩
  all_goals exact yields_trailingField start rfl (fun _ _ => rfl) (by simp [Layout.IsSetBy, layout, keeps_field])

namespace Settings

theorem yields_fields :
    Yields (read reading) ["server"] (record (ServerSettings.layout reading) default.server) server ∧
      Yields (read reading) ["auth"] (record (AuthSettings.layout reading) default.auth) auth ∧
      Yields (read reading) ["aggregation"] (record (ResultSettings.layout reading) default.results) results ∧
      Yields (read reading) ["sources"] (record (SourcesSettings.layout reading) default.sources) sources ∧
      Yields (read reading) ["logging"] (record (LoggingSettings.layout reading) default.logging) logging := by
  refine ⟨?_, ?_, ?_, ?_, ?_⟩
  all_goals exact yields_trailingField _ rfl (fun _ _ => rfl) (by simp [Layout.IsSetBy, layout, keeps_field])

/-- Each marketplace is read at its key with the same three settings below it. -/
theorem yields_source (x : Source) :
    Yields (read reading) ["sources", x.key, "enabled"] flag (fun s => (s.sources.get x).enabled) ∧
      Yields (read reading) ["sources", x.key, "base_url"] text (fun s => (s.sources.get x).baseUrl) ∧
      Yields (read reading) ["sources", x.key, "timeout_ms"] count64 (fun s => (s.sources.get x).timeout) := by
  obtain ⟨-, -, -, hsources, -⟩ := yields_fields
  obtain ⟨htiki, hshopee, hlazada⟩ := SourcesSettings.yields_fields default.sources
  obtain ⟨henabled, hbaseUrl, htimeout⟩ := SourceSettings.yields_fields
  cases x with
  | tiki =>
    exact ⟨hsources.cons (htiki.cons henabled), hsources.cons (htiki.cons hbaseUrl),
      hsources.cons (htiki.cons htimeout)⟩
  | shopee =>
    obtain ⟨henabled, hbaseUrl, htimeout, -⟩ := ShopeeSettings.yields_fields SourcesSettings.default.shopee
    exact ⟨hsources.cons (hshopee.cons henabled), hsources.cons (hshopee.cons hbaseUrl),
      hsources.cons (hshopee.cons htimeout)⟩
  | lazada =>
    exact ⟨hsources.cons (hlazada.cons henabled), hsources.cons (hlazada.cons hbaseUrl),
      hsources.cons (hlazada.cons htimeout)⟩

/-- **A loaded setting is what is read from the value at its path**, if there is one. -/
theorem yields_get (n : SettingName) : Yields (read reading) n.path n.kind.read (·.get n) := by
  obtain ⟨hserver, hauth, hresults, hsources, hlogging⟩ := yields_fields
  obtain ⟨hhost, hport, hrequestTimeout⟩ := ServerSettings.yields_fields default.server
  obtain ⟨hsecret, hrequiredScope⟩ := AuthSettings.yields_fields default.auth
  obtain ⟨hperSourceTimeout, hsortKey, hmaxProducts⟩ := ResultSettings.yields_fields default.results
  obtain ⟨-, hshopee, -⟩ := SourcesSettings.yields_fields default.sources
  obtain ⟨-, -, -, himageBaseUrl⟩ := ShopeeSettings.yields_fields SourcesSettings.default.shopee
  obtain ⟨hlevel, hformat⟩ := LoggingSettings.yields_fields default.logging
  cases n with
  | host => exact (hserver.cons hhost).map _
  | port => exact (hserver.cons hport).map _
  | requestTimeout => exact (hserver.cons hrequestTimeout).map _
  | secret => exact (hauth.cons hsecret).map _
  | requiredScope => exact (hauth.cons hrequiredScope).map _
  | perSourceTimeout => exact (hresults.cons hperSourceTimeout).map _
  | sortKey => exact (hresults.cons hsortKey).map _
  | maxProducts => exact (hresults.cons hmaxProducts).map _
  | enabled x => exact (yields_source x).1.map _
  | baseUrl x => exact (yields_source x).2.1.map _
  | clientTimeout x => exact (yields_source x).2.2.map _
  | imageBaseUrl => exact (hsources.cons (hshopee.cons himageBaseUrl)).map _
  | level => exact (hlogging.cons hlevel).map _
  | format => exact (hlogging.cons hformat).map _

end Settings
end MarketSearch
