/-
The codes of Shopee's listings: one for each pair of numbers.

A code is the number of the item, behind the number of the shop and a point when
the shop is known.  Numbers are told by their digits and no digit is a point, so
both can be read off a code (`ShopeeListing.codeOf_inj`).  The numbers
themselves are what a record says under their names (`Json.said?`), since each
is a part of the listing that one field alone sets.
-/
import MarketSearch.Proofs.KnownField
import MarketSearch.Text.Split

namespace MarketSearch

/-! ## What records say -/

namespace Json

/-- The named values of a record with these fields: those of an object, or those of an array in the order of
the fields. -/
def namedValues (names : List String) : Json → List (String × Json)
  | .obj fields => fields
  | .arr items => names.zip items
  | _ => []

/-- What a record says under the name of a field, where the last value counts and a null says nothing. -/
def said? (names : List String) (name : String) (v : Json) : Option Json :=
  match (MarketSearch.Layout.under name (v.namedValues names)).getLast? with
  | .some .null => .none
  | said => said

namespace Layout

variable {σ α : Type} {l : Layout σ} {start r : σ} {v : Json} {name : String} {read : Decoder α}
  {put : σ → Option α → σ} {get : σ → Option α}

theorem setAll_namedValues (hl : l.IsRegular) (h : l.decode start v = .ok r) :
    l.setAll start (v.namedValues l.names) = .ok r := by
  cases hasShape_of_decode hl h with
  | object fields => exact h
  | array hlength => exact (decode_arr_eq_ok_iff hl hlength (List.Perm.refl _)).mp h

/-- **A part of a listing is what the record says** of it, when one field alone sets it. -/
theorem said?_of_decode (hl : l.IsRegular) (hf : field name (optional read) put ∈ l.fields)
    (halone : l.IsSetBy get name) (hput : ∀ r o, get (put r o) = o) (hstart : get start = .none) {value : α → Json}
    (hread : ∀ v a, read v = .ok a → v = value a) (h : l.decode start v = .ok r) :
    said? l.names name v = (get r).map value := by
  unfold said?
  rcases MarketSearch.Layout.get_of_setAll_last (hl.find?_eq hf) halone (setAll_namedValues hl h) with
    ⟨hnone, hget⟩ | ⟨w, r₁, r₂, hlast, hset, hget⟩
  · rw [field_name] at hnone
    rw [hnone, hget, hstart]
    rfl
  · obtain ⟨o, ho, rfl⟩ := set_field_eq_ok_iff.mp hset
    rw [field_name] at hlast
    rw [hlast, hget, hput]
    obtain ⟨rfl, rfl⟩ | ⟨hnull, a, ha, rfl⟩ := optional_eq_ok_iff.mp ho
    · rfl
    · obtain rfl := hread w a ha
      split
      · next heq => exact absurd (Option.some.inj heq) hnull
      · rfl

end Layout
end Json

/-! ## Codes -/

namespace ShopeeListing

variable {base : String} {l : ShopeeListing} {v : Json} {p : Product} {shop shop' : Option Nat} {item item' : Nat}

theorem splitFirst?_codeOf (shop : Option Nat) (item : Nat) : Text.splitFirst? '.' (codeOf shop item).toList =
    shop.map fun n => (Numeral.digits n, Numeral.digits item) := by
  have hpoint : ∀ n, '.' ∉ Numeral.digits n := fun n h => absurd (Numeral.isDigit_of_mem_digits h) (by decide)
  cases shop with
  | none =>
    rw [codeOf, Numeral.text, String.toList_ofList, Text.splitFirst?_eq_none (hpoint item)]
    rfl
  | some n =>
    have hcode : (codeOf (.some n) item).toList = Numeral.digits n ++ '.' :: Numeral.digits item := by
      simp [codeOf, Numeral.text]
    rw [hcode, Text.splitFirst?_append (hpoint n)]
    rfl

/-- **A code tells the numbers that it is made of.** -/
theorem codeOf_inj : codeOf shop item = codeOf shop' item' ↔ shop = shop' ∧ item = item' := by
  constructor
  · intro h
    have hsplit := congrArg (fun s : String => Text.splitFirst? '.' s.toList) h
    simp only [splitFirst?_codeOf] at hsplit
    cases shop with
    | none =>
      cases shop' with
      | none => exact ⟨rfl, Numeral.digits_inj.mp (String.ofList_injective h)⟩
      | some n' => cases hsplit
    | some n =>
      cases shop' with
      | none => cases hsplit
      | some n' =>
        obtain ⟨hshop, hitem⟩ := Prod.mk.inj (Option.some.inj hsplit)
        exact ⟨congrArg _ (Numeral.digits_inj.mp hshop), Numeral.digits_inj.mp hitem⟩
  · rintro ⟨rfl, rfl⟩
    rfl

theorem exists_code_of_toProduct (h : l.toProduct base = .ok p) :
    ∃ item, l.itemId = .some item ∧ p.code = codeOf l.shopId item := by
  simp only [toProduct, bind_eq_ok_iff, Listed.checked_eq_ok_iff] at h
  obtain ⟨item, hitem, _, -, _, -, _, -, hdraft⟩ := h
  obtain ⟨-, -, rfl⟩ := Product.ofDraft_eq_ok_iff.mp hdraft
  refine ⟨item, ?_, rfl⟩
  unfold Listed.field at hitem
  split at hitem
  · next hid => rw [hid, Except.ok.inj hitem]
  · cases hitem

/-- Products of two listings have the same code when the numbers of the listings are the same. -/
theorem code_eq_code_iff {base' : String} {m : ShopeeListing} {q : Product} (hp : l.toProduct base = .ok p)
    (hq : m.toProduct base' = .ok q) : p.code = q.code ↔ l.itemId = m.itemId ∧ l.shopId = m.shopId := by
  obtain ⟨item, hitem, hcode⟩ := exists_code_of_toProduct hp
  obtain ⟨item', hitem', hcode'⟩ := exists_code_of_toProduct hq
  rw [hcode, hcode', codeOf_inj, hitem, hitem', Option.some.injEq]
  exact and_comm

/-- A number of a listing is what the record says under its name. -/
theorem said?_number {name : String} {put : ShopeeListing → Option Nat → ShopeeListing}
    {get : ShopeeListing → Option Nat}
    (hf : field name (Json.optional Json.unsigned64) put ∈ layout.fields) (halone : layout.IsSetBy get name)
    (hput : ∀ l o, get (put l o) = o) (hstart : get blank = .none) (h : layout.decode blank v = .ok l) :
    Json.said? layout.names name v = (get l).map fun n : Nat => .int n :=
  Json.Layout.said?_of_decode isRegular_layout hf halone hput hstart
    (fun _ _ hn => (Json.unsigned_eq_ok_iff.mp hn).1) h

theorem said?_itemid (h : layout.decode blank v = .ok l) :
    Json.said? layout.names "itemid" v = l.itemId.map fun n : Nat => .int n := by
  refine said?_number (List.mem_of_getElem? (i := 0) rfl) ?_ (fun _ _ => rfl) rfl h
  simp [Layout.IsSetBy, layout, keeps_field]

theorem said?_shopid (h : layout.decode blank v = .ok l) :
    Json.said? layout.names "shopid" v = l.shopId.map fun n : Nat => .int n := by
  refine said?_number (List.mem_of_getElem? (i := 1) rfl) ?_ (fun _ _ => rfl) rfl h
  simp [Layout.IsSetBy, layout, keeps_field]

theorem map_number_inj {a b : Option Nat} :
    a.map (fun n : Nat => Json.int n) = b.map (fun n : Nat => Json.int n) ↔ a = b := by
  cases a <;> cases b <;> simp

/-- **A code is of one listing alone.** Products of Shopee have the same code just when their listings have the
same number and the same shop, or no shop both; and of records, just when they say the same of the two. -/
theorem codes_are_unique (base base' : String) (p q : Product) :
    (∀ l m : ShopeeListing, l.toProduct base = .ok p → m.toProduct base' = .ok q →
      (p.code = q.code ↔ l.itemId = m.itemId ∧ l.shopId = m.shopId)) ∧
    ∀ v w : Json, (Mapper.shopee base).map v = .ok p → (Mapper.shopee base').map w = .ok q →
      (p.code = q.code ↔ Json.said? layout.names "itemid" v = Json.said? layout.names "itemid" w ∧
        Json.said? layout.names "shopid" v = Json.said? layout.names "shopid" w) := by
  refine ⟨fun _ _ => code_eq_code_iff, fun v w hv hw => ?_⟩
  obtain ⟨(l : ShopeeListing), hl, hp⟩ := Mapper.map_eq_ok_iff_decode.mp hv
  obtain ⟨(m : ShopeeListing), hm, hq⟩ := Mapper.map_eq_ok_iff_decode.mp hw
  rw [said?_itemid hl, said?_itemid hm, said?_shopid hl, said?_shopid hm, map_number_inj, map_number_inj]
  exact code_eq_code_iff hp hq

/-- Item 23 of shop 1, written as an object and, under another name, as an array; and item 3 of shop 12. -/
theorem codes_of_lamps :
    let v : Json := .obj [("shopid", .int 1), ("itemid", .int 23), ("name", .str "lamp"), ("price", .int 100000)]
    let v' : Json := .arr [.int 23, .int 1, .str "bulb", .null, .int 100000, .null, .null, .null, .null, .null]
    let w : Json := .obj [("itemid", .int 3), ("shopid", .int 12), ("name", .str "lamp"), ("price", .int 100000)]
    let product (code name : String) : Product :=
      { Product.draft code name .shopee with price := ⟨⟨false, 1, 0, by decide, by decide⟩⟩ }
    (Mapper.shopee "").map v = .ok (product "1.23" "lamp") ∧
    (Mapper.shopee "").map v' = .ok (product "1.23" "bulb") ∧
    (Mapper.shopee "").map w = .ok (product "12.3" "lamp") ∧
    (product "1.23" "lamp").code = (product "1.23" "bulb").code ∧
    (product "1.23" "lamp").code ≠ (product "12.3" "lamp").code := by
  intro v v' w product
  have hv : (Mapper.shopee "").map v = .ok (product "1.23" "lamp") := toOption_eq_some_iff.mp (by decide +kernel)
  have hv' : (Mapper.shopee "").map v' = .ok (product "1.23" "bulb") := toOption_eq_some_iff.mp (by decide +kernel)
  have hw : (Mapper.shopee "").map w = .ok (product "12.3" "lamp") := toOption_eq_some_iff.mp (by decide +kernel)
  refine ⟨hv, hv', hw, ?_, fun hcode => ?_⟩
  · exact ((codes_are_unique "" "" _ _).2 v v' hv hv').mpr ⟨rfl, rfl⟩
  · obtain ⟨hitem, -⟩ := ((codes_are_unique "" "" _ _).2 v w hv hw).mp hcode
    cases hitem

end ShopeeListing
end MarketSearch
