/-
What the bodies of responses are read as.

A body is a written value, and each part of it is read as itself but the prices
and the rates: those are binary numbers, which are read as the numbers that
their digits are worth to the reader (`Binary64.IsReadAs`).  So the data of a
search has one object for each product, with the texts of the product, and an
error has its path and its message (`Response.body_reads_back`).
-/
import MarketSearch.Http.ApiError
import MarketSearch.Product.Basic
import MarketSearch.Proofs.NumberText

namespace MarketSearch

/-! ## Numbers -/

/-- The text of a number is read as another one, which is finite. -/
structure Binary64.IsReadAs (x y : Binary64) : Prop where
  isFinite : y.isFinite = true
  ofText? : Json.ofText? (Json.float x).text = .some (.float y)

theorem Json.readsAs_float {x : Binary64} (h : x.AtMost (2 ^ 200)) :
    ∃ y, x.IsReadAs y ∧ ∀ depth, ReadsAs depth (.float x) (.float y) := by
  obtain ⟨t, hchars, y, hfinite, hvalue⟩ := Binary64.exists_number h
  have hreads : ∀ depth, ReadsAs depth (.float x) (.float y) :=
    fun depth => ⟨.number t, hchars, by cases depth <;> exact hvalue⟩
  refine ⟨y, ⟨hfinite, ?_⟩, hreads⟩
  rw [ofText?, text, String.toList_ofList]
  exact (hreads maxDepth).ofChars?

/-! ## Products -/

namespace Product

/-- A promotion code, or nothing at all. -/
def promotionJson : Option String → Json
  | .some code => .str code
  | .none => .null

/-- The fields of a product, with numbers for the price and the rate. -/
def fieldsWith (p : Product) (price rate : Binary64) : List (String × Json) :=
  [("code", .str p.code),
   ("name", .str p.name),
   ("description", .str p.description),
   ("price", .float price),
   ("brand", .str p.brand),
   ("category", .str p.category),
   ("promotion", promotionJson p.promotion),
   ("image", .str p.image),
   ("discountRate", .float rate),
   ("source", .str p.source.label)]

/-- The object of a product, as it is read. -/
def IsReadAs (p : Product) (v : Json) : Prop :=
  ∃ price rate, p.price.amount.toBinary64.IsReadAs price ∧ p.discountRate.percent.toBinary64.IsReadAs rate ∧
    v = .obj (p.fieldsWith price rate)

theorem json_eq (p : Product) :
    p.json = .obj (p.fieldsWith p.price.amount.toBinary64 p.discountRate.percent.toBinary64) := by
  obtain ⟨_, _, _, _, _, _, promotion, _, _, _⟩ := p
  cases promotion <;> rfl

theorem exists_isReadAs (p : Product) (depth : Nat) :
    ∃ v, p.IsReadAs v ∧ Json.ReadsAs (depth + 1) p.json v := by
  obtain ⟨price, hprice, hprices⟩ := Json.readsAs_float p.price.amount.atMost_toBinary64
  obtain ⟨rate, hrate, hrates⟩ := Json.readsAs_float p.discountRate.percent.atMost_toBinary64
  refine ⟨_, ⟨price, rate, hprice, hrate, rfl⟩, ?_⟩
  have hstr : ∀ name s, Json.FieldReadsAs depth (name, .str s) (name, .str s) :=
    fun name s => ⟨rfl, Json.readsAs_str s⟩
  have hpromotion : Json.ReadsAs depth (promotionJson p.promotion) (promotionJson p.promotion) := by
    cases p.promotion with
    | none => exact Json.readsAs_null
    | some s => exact Json.readsAs_str s
  rw [json_eq]
  refine .obj ?_
  simp only [fieldsWith, List.forall₂_cons, List.forall₂_nil_left_iff, and_true]
  exact ⟨hstr .., hstr .., hstr .., ⟨rfl, hprices depth⟩, hstr .., hstr .., ⟨rfl, hpromotion⟩, hstr ..,
    ⟨rfl, hrates depth⟩, hstr ..⟩

end Product

/-! ## Bodies -/

namespace Response

theorem ofText?_body {v w : Json} (h : Json.ReadsAs Json.maxDepth v w) (status : Nat) :
    Json.ofText? (Response.ofJson status v).body = .some w := by
  change Json.ofText? v.text = _
  rw [Json.ofText?, Json.text, String.toList_ofList]
  exact h.ofChars?

/-- **A body is read as what was answered.** The data of a search is an object with nothing but the
products, which are in their order and have their texts and their sources, and a number for the price
and for the rate; and an error is an object with nothing but its path and its message. -/
theorem body_reads_back :
    (∀ ps : List Product, ∃ items,
      Json.ofText? (Response.ofJson 200 (Product.listJson ps)).body = .some (.obj [("products", .arr items)]) ∧
        List.Forall₂ Product.IsReadAs ps items) ∧
    ∀ e : ApiError, Json.ofText? e.response.body =
      .some (.obj [("path", .str e.path), ("message", .str e.message)]) := by
  constructor
  · intro ps
    obtain ⟨items, hitems⟩ := exists_forall₂ fun p (_ : p ∈ ps) => p.exists_isReadAs 124
    have harray : Json.ReadsAs 126 (.arr (ps.map Product.json)) (.arr items) :=
      .arr (List.forall₂_map_left_iff.mpr (hitems.imp fun _ _ h => h.2))
    have hbody : Json.ReadsAs 127 (Product.listJson ps) (.obj [("products", .arr items)]) :=
      .obj (.cons ⟨rfl, harray⟩ .nil)
    exact ⟨items, ofText?_body hbody 200, hitems.imp fun _ _ h => h.1⟩
  · intro e
    have hbody : Json.ReadsAs 127 e.json e.json :=
      .obj (.cons ⟨rfl, Json.readsAs_str _⟩ (.cons ⟨rfl, Json.readsAs_str _⟩ .nil))
    exact ofText?_body hbody e.status

end Response
end MarketSearch
