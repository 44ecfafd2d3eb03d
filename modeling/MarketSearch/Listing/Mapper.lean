/-
The mappers from the listings of each marketplace to products.
-/
import MarketSearch.Listing.Lazada
import MarketSearch.Listing.Shopee
import MarketSearch.Listing.Tiki
import MarketSearch.SourceFault

namespace MarketSearch

/-- A way to read listings: one for each marketplace, where Shopee's has a base address for
images. -/
inductive Mapper where
  | tiki
  | shopee (imageBase : String)
  | lazada

namespace Mapper

def source : Mapper → Source
  | .tiki => .tiki
  | .shopee _ => .shopee
  | .lazada => .lazada

def normalize : Mapper → Json → Listed Product
  | .tiki, v => TikiListing.normalize v
  | .shopee base, v => ShopeeListing.normalize base v
  | .lazada, v => LazadaListing.normalize v

/-- The product of a listing, or the fault of the marketplace that wrote it. -/
def map (m : Mapper) (v : Json) : Except SourceFault Product :=
  match m.normalize v with
  | .ok p => .ok p
  | .error e => .error (.malformed m.source e.message)

end Mapper
end MarketSearch
