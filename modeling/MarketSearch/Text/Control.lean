/-
Control characters: the C0 controls, delete, and the C1 controls.
-/
namespace MarketSearch
namespace Text

def isControl (c : Char) : Bool :=
  c.toNat < 0x20 || (0x7F ≤ c.toNat && c.toNat ≤ 0x9F)

end Text
end MarketSearch
