/-
The settings of the service.

Every setting but the secret has a default.  A marketplace of which some
setting is given by itself keeps the defaults of the others, except that the
record of Tiki or Lazada, where it is given afresh, has to be complete.
-/
import MarketSearch.Json.Decoder
import MarketSearch.SocketAddress
import MarketSearch.Sorting
import MarketSearch.Text.Blank

namespace MarketSearch

inductive LogFormat where
  | pretty
  | json
deriving DecidableEq

namespace LogFormat

def label : LogFormat → String
  | .pretty => "pretty"
  | .json => "json"

def labelled : List (String × LogFormat) := [("pretty", .pretty), ("json", .json)]

end LogFormat

/-! ## Sections -/

/-- Where the service listens, and the milliseconds one request may take. -/
structure ServerSettings where
  host : String
  port : UInt16
  requestTimeout : UInt64
deriving DecidableEq

structure AuthSettings where
  secret : String
  requiredScope : String
deriving DecidableEq

/-- The milliseconds each source is given, what results are sorted by, and the most products in a
result. -/
structure ResultSettings where
  perSourceTimeout : UInt64
  sortKey : SortKey
  maxProducts : Option UInt64
deriving DecidableEq

/-- A marketplace: whether it is searched, where, and the milliseconds its client waits. -/
structure SourceSettings where
  enabled : Bool
  baseUrl : String
  timeout : UInt64
deriving DecidableEq

structure ShopeeSettings extends SourceSettings where
  imageBaseUrl : String
deriving DecidableEq

structure SourcesSettings where
  tiki : SourceSettings
  shopee : ShopeeSettings
  lazada : SourceSettings
deriving DecidableEq

structure LoggingSettings where
  level : String
  format : LogFormat
deriving DecidableEq

structure Settings where
  server : ServerSettings
  auth : AuthSettings
  results : ResultSettings
  sources : SourcesSettings
  logging : LoggingSettings
deriving DecidableEq

/-! ## Defaults -/

def SourceSettings.at (baseUrl : String) : SourceSettings := ⟨true, baseUrl, 3000⟩

def SourcesSettings.default : SourcesSettings where
  tiki := .at "https://tiki.vn"
  shopee := { SourceSettings.at "https://shopee.vn" with
    imageBaseUrl := "https://cf.shopee.vn/file" }
  lazada := .at "https://www.lazada.vn"

namespace Settings

def default : Settings where
  server := ⟨"0.0.0.0", 8080, 10000⟩
  auth := ⟨"", "product:read"⟩
  results := ⟨5000, .price, .none⟩
  sources := .default
  logging := ⟨"info", .pretty⟩

end Settings

/-! ## Marketplaces -/

namespace SourcesSettings

def get (s : SourcesSettings) : Source → SourceSettings
  | .tiki => s.tiki
  | .shopee => s.shopee.toSourceSettings
  | .lazada => s.lazada

/-- The marketplaces that are searched, in canonical order. -/
def enabled (s : SourcesSettings) : List Source := Source.all.filter fun x => (s.get x).enabled

end SourcesSettings

/-! ## Faults -/

/-- Why settings cannot run a service. -/
inductive InvalidSettings where
  | noSecret
  | noRequestTime
  | noSourceTime
  | noClientTime (source : Source)
  | noSource
  | address
deriving DecidableEq

def InvalidSettings.reason : InvalidSettings → String
  | .noSecret => "auth.jwt_secret must be set"
  | .noRequestTime => "server.request_timeout_ms must be positive"
  | .noSourceTime => "aggregation.per_source_timeout_ms must be positive"
  | .noClientTime s => "sources." ++ s.key ++ ".timeout_ms must be positive"
  | .noSource => "at least one source must be enabled"
  | .address => "server address: invalid socket address syntax"

def InvalidSettings.message (i : InvalidSettings) : String :=
  "invalid configuration: " ++ i.reason

/-- The address to listen at. -/
def ServerSettings.address (s : ServerSettings) : Except InvalidSettings SocketAddress :=
  match SocketAddress.ofChars? (s.host.toList ++ ':' :: Numeral.digits s.port.toNat) with
  | .some x => .ok x
  | .none => .error .address

/-! ## Validity -/

namespace Settings

/-- Checks the settings in a fixed order and reports the first fault. -/
def validate (s : Settings) : Except InvalidSettings Unit :=
  if Text.isAllBlank s.auth.secret then .error .noSecret
  else if s.server.requestTimeout = 0 then .error .noRequestTime
  else if s.results.perSourceTimeout = 0 then .error .noSourceTime
  else
    match Source.all.find? fun x => (s.sources.get x).timeout = 0 with
    | .some x => .error (.noClientTime x)
    | .none => if s.sources.enabled.isEmpty then .error .noSource else .ok ()

end Settings
end MarketSearch
