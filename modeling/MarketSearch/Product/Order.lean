/-
The order of a search result.

Products are compared by the sort key in the direction asked for, then by
source, then by code, the last two always ascending.  Sorting is stable.
-/
import MarketSearch.Product.Basic
import MarketSearch.Text.Case

namespace MarketSearch
namespace Product

/-- By the lower-case names, and by the names as written where those agree. -/
def compareNames (a b : String) : Ordering :=
  (compare (Text.toLower a) (Text.toLower b)).then (compare a b)

def compareKey (key : SortKey) (a b : Product) : Ordering :=
  match key with
  | .price => a.price.compare b.price
  | .name => compareNames a.name b.name
  | .discountRate => a.discountRate.compare b.discountRate

def order (key : SortKey) (direction : SortDirection) (a b : Product) : Ordering :=
  let byKey := match direction with
    | .ascending => compareKey key a b
    | .descending => compareKey key b a
  (byKey.then (a.source.compare b.source)).then (compare a.code b.code)

def sort (key : SortKey) (direction : SortDirection) (ps : List Product) : List Product :=
  ps.mergeSort fun a b => (order key direction a b).isLE

end Product
end MarketSearch
