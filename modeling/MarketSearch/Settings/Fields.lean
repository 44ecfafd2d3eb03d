/-
The names of the settings, and settings as data.

The layouts serve every kind of value that settings are read from.
-/
import MarketSearch.Settings.Basic

namespace MarketSearch

variable {ν ε : Type}

/-! ## Layouts -/

def ServerSettings.layout (r : Reading ν ε) : Layout ν ε ServerSettings :=
  ⟨"ServerConfig",
   [trailingField "host" r.text fun s v => { s with host := v },
    trailingField "port" r.count16 fun s v => { s with port := v },
    trailingField "request_timeout_ms" r.count64 fun s v => { s with requestTimeout := v }]⟩

def AuthSettings.layout (r : Reading ν ε) : Layout ν ε AuthSettings :=
  ⟨"AuthConfig",
   [trailingField "jwt_secret" r.text fun s v => { s with secret := v },
    trailingField "required_scope" r.text fun s v => { s with requiredScope := v }]⟩

def ResultSettings.layout (r : Reading ν ε) : Layout ν ε ResultSettings :=
  ⟨"AggregationSettings",
   [trailingField "per_source_timeout_ms" r.count64 fun s v => { s with perSourceTimeout := v },
    trailingField "sort_key" (r.choice "SortKey" SortKey.labelled) fun s v => { s with sortKey := v },
    trailingField "max_products" (r.optional r.size) fun s v => { s with maxProducts := v }]⟩

/-- A marketplace of which some settings may not be known yet. -/
structure SourceSettings.Draft where
  enabled : Option Bool
  baseUrl : Option String
  timeout : Option UInt64

namespace SourceSettings

def layout (r : Reading ν ε) : Layout ν ε Draft :=
  ⟨"SourceSettings",
   [field "enabled" r.flag fun s v => { s with enabled := .some v },
    field "base_url" r.text fun s v => { s with baseUrl := .some v },
    field "timeout_ms" r.count64 fun s v => { s with timeout := .some v }]⟩

/-- Reads a complete record. -/
def read (r : Reading ν ε) (v : ν) : Except ε SourceSettings := do
  let d ← r.record (layout r) ⟨.none, .none, .none⟩ v
  return ⟨← r.require "enabled" d.enabled, ← r.require "base_url" d.baseUrl,
    ← r.require "timeout_ms" d.timeout⟩

end SourceSettings

def ShopeeSettings.layout (r : Reading ν ε) : Layout ν ε ShopeeSettings :=
  ⟨"ShopeeSettings",
   [trailingField "enabled" r.flag fun s v => { s with enabled := v },
    trailingField "base_url" r.text fun s v => { s with baseUrl := v },
    trailingField "timeout_ms" r.count64 fun s v => { s with timeout := v },
    trailingField "image_base_url" r.text fun s v => { s with imageBaseUrl := v }]⟩

def SourcesSettings.layout (r : Reading ν ε) : Layout ν ε SourcesSettings :=
  ⟨"SourcesConfig",
   [trailingField "tiki" (SourceSettings.read r) fun s v => { s with tiki := v },
    trailingField "shopee" (r.record (ShopeeSettings.layout r) SourcesSettings.default.shopee)
      fun s v => { s with shopee := v },
    trailingField "lazada" (SourceSettings.read r) fun s v => { s with lazada := v }]⟩

def LoggingSettings.layout (r : Reading ν ε) : Layout ν ε LoggingSettings :=
  ⟨"LoggingConfig",
   [trailingField "level" r.text fun s v => { s with level := v },
    trailingField "format" (r.choice "LogFormat" LogFormat.labelled) fun s v => { s with format := v }]⟩

namespace Settings

def layout (r : Reading ν ε) : Layout ν ε Settings :=
  ⟨"AppConfig",
   [trailingField "server" (r.record (ServerSettings.layout r) default.server)
      fun s v => { s with server := v },
    trailingField "auth" (r.record (AuthSettings.layout r) default.auth)
      fun s v => { s with auth := v },
    trailingField "aggregation" (r.record (ResultSettings.layout r) default.results)
      fun s v => { s with results := v },
    trailingField "sources" (r.record (SourcesSettings.layout r) default.sources)
      fun s v => { s with sources := v },
    trailingField "logging" (r.record (LoggingSettings.layout r) default.logging)
      fun s v => { s with logging := v }]⟩

/-- Reads settings; what is not given has its default. -/
def read (r : Reading ν ε) (v : ν) : Except ε Settings := r.record (layout r) default v

def decode : Json.Decoder Settings := read Json.reading

end Settings

/-! ## As data -/

def ServerSettings.json (s : ServerSettings) : Json :=
  .obj
    [("host", .str s.host), ("port", .int s.port.toNat),
     ("request_timeout_ms", .int s.requestTimeout.toNat)]

def AuthSettings.json (s : AuthSettings) : Json :=
  .obj [("jwt_secret", .str s.secret), ("required_scope", .str s.requiredScope)]

def ResultSettings.json (s : ResultSettings) : Json :=
  .obj
    [("per_source_timeout_ms", .int s.perSourceTimeout.toNat), ("sort_key", s.sortKey.json),
     ("max_products", (s.maxProducts.map fun n => Json.int n.toNat).getD .null)]

def SourceSettings.fields (s : SourceSettings) : List (String × Json) :=
  [("enabled", .bool s.enabled), ("base_url", .str s.baseUrl), ("timeout_ms", .int s.timeout.toNat)]

def SourcesSettings.json (s : SourcesSettings) : Json :=
  .obj
    [("tiki", .obj s.tiki.fields),
     ("shopee", .obj (s.shopee.fields ++ [("image_base_url", .str s.shopee.imageBaseUrl)])),
     ("lazada", .obj s.lazada.fields)]

def LoggingSettings.json (s : LoggingSettings) : Json :=
  .obj [("level", .str s.level), ("format", .str s.format.label)]

def Settings.json (s : Settings) : Json :=
  .obj
    [("server", s.server.json), ("auth", s.auth.json), ("aggregation", s.results.json),
     ("sources", s.sources.json), ("logging", s.logging.json)]

end MarketSearch
