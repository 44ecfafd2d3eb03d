/-
What is run with settings: a client for every enabled marketplace, the engine
that searches them all, and the service in front of it.
-/
import MarketSearch.Client.Marketplace
import MarketSearch.Http.Service
import MarketSearch.Listing.Mapper
import MarketSearch.Settings.Basic

namespace MarketSearch
namespace SourcesSettings

def client (s : SourcesSettings) (source : Source) : MarketClient :=
  ⟨source, (s.get source).baseUrl, (s.get source).timeout.toNat⟩

def mapper (s : SourcesSettings) : Source → Mapper
  | .tiki => .tiki
  | .shopee => .shopee s.shopee.imageBaseUrl
  | .lazada => .lazada

/-- The client of a marketplace and the mapper of its listings. -/
def binding (s : SourcesSettings) (network : Network) (source : Source) : Binding Json where
  source := source
  fetch _ f := (s.client source).fetch network f
  map := (s.mapper source).map

/-- The registry of the enabled marketplaces, of which there has to be one. -/
def registry (s : SourcesSettings) (network : Network) : Except RegistryFault Registry :=
  (Registry.empty.registerAll (s.enabled.map fun x => (s.binding network x).adapter)).bind
    fun r => r.ensureNotEmpty.map fun _ => r

end SourcesSettings

namespace ResultSettings

def engine (s : ResultSettings) (r : Registry) : SearchEngine where
  registry := r
  key := s.sortKey
  timeout := s.perSourceTimeout.toNat
  maxProducts := s.maxProducts.map UInt64.toNat

end ResultSettings

namespace Settings

def verifier (s : Settings) : Verifier := ⟨s.auth.secret, s.auth.requiredScope⟩

/-- The service that is run with these settings. -/
def service (s : Settings) (network : Network) : Except RegistryFault Service :=
  (s.sources.registry network).map fun r =>
    { engine := s.results.engine r
      verifier := s.verifier
      requestTimeout := s.server.requestTimeout.toNat }

end Settings
end MarketSearch
