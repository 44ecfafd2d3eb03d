/-
Addresses to which a path is added: the slashes at their end do not count.
-/
namespace MarketSearch
namespace Text

def trimSlashes (cs : List Char) : List Char := (cs.reverse.dropWhile (· == '/')).reverse

theorem trimSlashes_append_slash (cs : List Char) :
    trimSlashes (cs ++ ['/']) = trimSlashes cs := by
  simp [trimSlashes]

end Text
end MarketSearch
