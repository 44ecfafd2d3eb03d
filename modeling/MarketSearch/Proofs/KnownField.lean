/-
What of a record makes a difference.

A reader of records passes over fields that it does not know, and one that is
null leaves the record as the reading began.  So such a field may be put into an
object or taken out of it: what is read, or the fault that is found, is the same
(`Json.Layout.decode_insert`).  What remains of an object without them are the
values that it tells under the names of fields, and these decide
(`Json.Layout.decode_eq_ok_of_told`).

Both hold of a record inside a record as well, at the place of one field, and
with them of the products that mappers make (`Mapper.heeds_known_fields`).
-/
import MarketSearch.Proofs.ListedPrice

namespace MarketSearch

/-! ## Fields that make no difference -/

namespace Layout

variable {ν ε σ : Type} {l : Layout ν ε σ} {x : String × ν} {before : List (String × ν)} {start r : σ}

theorem find?_eq_none_of_notMem (h : x.1 ∉ l.names) : l.find? x.1 = .none := by
  rw [find?, List.find?_eq_none]
  intro f hf hname
  exact h (List.mem_map.mpr ⟨f, hf, by simpa using hname⟩)

/-- What leaves the start as it is leaves what follows as it is, up to a field of the same name. -/
theorem Commutes.setNamed_of_start (hl : l.Commutes) (hx : l.setNamed start x = .ok start)
    (hbefore : ∀ y ∈ before, x.1 ≠ y.1) (hr : l.setAll start before = .ok r) : l.setNamed r x = .ok r := by
  have hfirst : l.setAll start (x :: before) = .ok r := setAll_cons_eq_ok_iff.mpr ⟨start, hx, hr⟩
  have hlast : l.setAll start (before ++ [x]) = .ok r := (hl.setAll_cons hbefore).mp hfirst
  rw [setAll_append, hr] at hlast
  obtain ⟨r', hset, hr'⟩ := setAll_cons_eq_ok_iff.mp hlast
  cases hr'
  exact hset

end Layout

namespace Json

/-- A field that tells nothing to a reader of these names: the name is none of them, or the value is null and
there is no other field of the name. -/
def IsIdle (names : List String) (others : List (String × Json)) (x : String × Json) : Prop :=
  x.1 ∉ names ∨ x.2 = .null ∧ x.1 ∉ others.map Prod.fst

/-- The value that an object tells under a name; a null tells none. -/
def told? (name : String) (fields : List (String × Json)) : Option Json :=
  match fields.lookup name with
  | .some .null => .none
  | v => v

/-- Whether a field has one of the names, and another value than null. -/
def tells (names : List String) : String × Json → Bool
  | (_, .null) => false
  | (name, _) => names.contains name

variable {names : List String} {fields fields' before after : List (String × Json)} {x : String × Json}

theorem tells_eq_true_iff : tells names x = true ↔ x.1 ∈ names ∧ x.2 ≠ .null := by
  obtain ⟨name, v⟩ := x
  cases v <;> simp [tells]

theorem told?_eq_some_iff {name : String} {v : Json} :
    told? name fields = .some v ↔ fields.lookup name = .some v ∧ v ≠ .null := by
  unfold told?
  split
  · next h => simp +contextual [h, eq_comm]
  · next h =>
    refine ⟨fun hv => ⟨hv, ?_⟩, And.left⟩
    rintro rfl
    exact h hv

theorem isIdle_of_not_tells (hnodup : ((before ++ x :: after).map Prod.fst).Nodup) (h : tells names x = false) :
    IsIdle names (before ++ after) x := by
  have hmiddle : (before ++ x :: after).Perm (x :: (before ++ after)) := List.perm_middle
  have hother := (List.nodup_cons.mp ((hmiddle.map Prod.fst).nodup_iff.mp hnodup)).1
  by_cases hname : x.1 ∈ names
  · refine .inr ⟨?_, hother⟩
    have htells := mt tells_eq_true_iff.mpr (Bool.eq_false_iff.mp h)
    exact not_not.mp fun hnull => htells ⟨hname, hnull⟩
  · exact .inl hname

/-- Objects that tell the same under some names have the same fields of these names, but for their order. -/
theorem filter_tells_perm (hnodup : (fields.map Prod.fst).Nodup) (hnodup' : (fields'.map Prod.fst).Nodup)
    (h : ∀ name ∈ names, told? name fields = told? name fields') :
    (fields.filter (tells names)).Perm (fields'.filter (tells names)) := by
  have hmem : ∀ {fields : List (String × Json)} {x}, (fields.map Prod.fst).Nodup →
      (x ∈ fields.filter (tells names) ↔ x.1 ∈ names ∧ told? x.1 fields = .some x.2) := by
    intro fields x hnodup
    rw [List.mem_filter, tells_eq_true_iff, told?_eq_some_iff, lookup_eq_some_iff_mem hnodup]
    exact and_left_comm
  refine (List.perm_ext_iff_of_nodup (hnodup.of_map.filter _) (hnodup'.of_map.filter _)).mpr fun x => ?_
  rw [hmem hnodup, hmem hnodup']
  exact and_congr_right fun hname => by rw [h _ hname]

/-! ## Reading -/

namespace Layout

variable {σ : Type} {l : Layout σ} {start r : σ}

/-- A null in any field leaves the record as the reading began. -/
def IsBlank (l : Layout σ) (start : σ) : Prop := ∀ f ∈ l.fields, f.set .null start = .ok start

theorem setNamed_of_isIdle (hl : l.Commutes) (hstart : l.IsBlank start) (hx : IsIdle l.names (before ++ after) x)
    (hr : l.setAll start before = .ok r) : l.setNamed r x = .ok r := by
  obtain ⟨name, v⟩ := x
  rcases hx with hunknown | ⟨rfl, hother⟩
  · rw [MarketSearch.Layout.setNamed, MarketSearch.Layout.find?_eq_none_of_notMem hunknown]
  · have hfirst : l.setNamed start (name, .null) = .ok start := by
      unfold MarketSearch.Layout.setNamed
      cases hfind : l.find? name with
      | none => rfl
      | some f => exact hstart f (List.mem_of_find?_eq_some hfind)
    refine hl.setNamed_of_start hfirst (fun y hy hname => hother ?_) hr
    rw [hname]
    exact List.mem_map_of_mem (List.mem_append_left _ hy)

/-- **A field that tells nothing makes no difference**, wherever it stands. -/
theorem decode_insert (hl : l.Commutes) (hstart : l.IsBlank start) (hx : IsIdle l.names (before ++ after) x) :
    l.decode start (.obj (before ++ x :: after)) = l.decode start (.obj (before ++ after)) := by
  rw [decode, decode, MarketSearch.Layout.setAll_append, MarketSearch.Layout.setAll_append]
  cases hr : l.setAll start before with
  | error e => rfl
  | ok r =>
    have hset := setNamed_of_isIdle hl hstart hx hr
    change l.setAll r (x :: after) = l.setAll r after
    rw [MarketSearch.Layout.setAll, List.foldlM_cons, hset]
    rfl

theorem decode_filter_tells (hl : l.Commutes) (hstart : l.IsBlank start)
    (hnodup : ((before ++ after).map Prod.fst).Nodup) :
    l.decode start (.obj (before ++ after)) = l.decode start (.obj (before ++ after.filter (tells l.names))) := by
  -- a field that tells something goes over to those before, which stay
  induction after generalizing before with
  | nil => rfl
  | cons x after ih =>
    cases hx : tells l.names x with
    | true =>
      have hrest := @ih (before ++ [x]) (by simpa using hnodup)
      rw [List.filter_cons_of_pos hx]
      simpa using hrest
    | false =>
      rw [decode_insert hl hstart (isIdle_of_not_tells hnodup hx), List.filter_cons_of_neg (by simp [hx])]
      refine ih (hnodup.sublist ?_)
      exact (List.Sublist.append_left (List.sublist_cons_self x after) before).map _

/-- **A record is made of what its object tells** under the names of the fields. -/
theorem decode_eq_ok_of_told (hl : l.Commutes) (hstart : l.IsBlank start) (hnodup : (fields.map Prod.fst).Nodup)
    (hnodup' : (fields'.map Prod.fst).Nodup) (h : ∀ name ∈ l.names, told? name fields = told? name fields')
    (hread : l.decode start (.obj fields) = .ok r) : l.decode start (.obj fields') = .ok r := by
  have htells := fun fields hnodup => @decode_filter_tells [] fields σ l start hl hstart hnodup
  simp only [List.nil_append] at htells
  rw [htells fields hnodup] at hread
  rw [htells fields' hnodup']
  exact hl.setAll_perm (filter_tells_perm hnodup hnodup' h) (hnodup.sublist (List.filter_sublist.map _)) hread

end Layout
end Json

/-- What the field at the gap reads alike, or refuses for the same fault, the record does. -/
theorem Frame.decode_fill_congr {σ : Type} {l : Json.Layout σ} {f : Field Json Json.Mismatch σ} {start : σ}
    {v v' : Json} {F : Frame} (h : l.IsRegular) (hf : f ∈ l.fields) (hF : F.IsFor l.names f.name)
    (hset : ∀ r, f.set v r = f.set v' r) : l.decode start (F.fill f.name v) = l.decode start (F.fill f.name v') := by
  rw [decode_fill h hf hF, decode_fill h hf hF]
  simp only [hset]

/-! ## Listings -/

theorem TikiListing.isBlank_layout : layout.IsBlank blank := by
  simp [Json.Layout.IsBlank, layout, field, Json.optional, Except.map, blank]

theorem TikiCategory.isBlank_layout : layout.IsBlank ⟨.none, .none⟩ := by
  simp [Json.Layout.IsBlank, layout, field, Json.optional, Except.map]

theorem ShopeeListing.isBlank_layout : layout.IsBlank blank := by
  simp [Json.Layout.IsBlank, layout, field, Json.optional, Except.map, blank]

theorem ShopeeVoucher.isBlank_layout : layout.IsBlank ⟨.none⟩ := by
  simp [Json.Layout.IsBlank, layout, field, Json.optional, Except.map]

theorem LazadaListing.isBlank_layout : layout.IsBlank blank := by
  simp [Json.Layout.IsBlank, layout, field, Json.optional, Except.map, blank]

/-! ## Mappers -/

namespace Mapper

open Json

variable {m : Mapper} {v v' : Json}

theorem isBlank_layout (m : Mapper) : m.kind.layout.IsBlank m.kind.blank := by
  cases m with
  | tiki => exact TikiListing.isBlank_layout
  | shopee base => exact ShopeeListing.isBlank_layout
  | lazada => exact LazadaListing.isBlank_layout

/-- Records that are read alike, or refused for the same fault, are mapped alike. -/
theorem map_congr (h : m.kind.layout.decode m.kind.blank v = m.kind.layout.decode m.kind.blank v') :
    m.map v = m.map v' := by
  have hnormalize : m.normalize v = m.normalize v' := by
    cases m <;> exact congrArg (Listed.decoded · >>= _) h
  rw [map, map, hnormalize]

/-- Of the object at a place in a record, only what it tells under these names makes a difference: not the
other fields that it has, nor nulls. -/
structure Heeds (m : Mapper) (names : List String) (place : Json → Json) : Prop where
  /-- A field that tells nothing may be put in or taken out. -/
  insert : ∀ before x after, IsIdle names (before ++ after) x →
    m.map (place (.obj (before ++ x :: after))) = m.map (place (.obj (before ++ after)))
  /-- Objects that tell the same become the same product, or none. -/
  congr : ∀ fields fields', (fields.map Prod.fst).Nodup → (fields'.map Prod.fst).Nodup →
    (∀ name ∈ names, told? name fields = told? name fields') →
    (m.map (place (.obj fields))).toOption = (m.map (place (.obj fields'))).toOption

theorem heeds_fieldNames (m : Mapper) : m.Heeds m.fieldNames id where
  insert _ _ _ hx := map_congr (Layout.decode_insert m.isRegular_layout.commutes m.isBlank_layout hx)
  congr _ _ hnodup hnodup' h := by
    have hl := m.isRegular_layout.commutes
    have hstart := m.isBlank_layout
    refine toOption_map_congr fun l => ⟨?_, ?_⟩
    · exact Layout.decode_eq_ok_of_told hl hstart hnodup hnodup' h
    · exact Layout.decode_eq_ok_of_told hl hstart hnodup' hnodup fun name hname => (h name hname).symm

theorem heeds_nested {σ : Type} {l : Json.Layout σ} {start : σ} {put : m.kind.Listing → Option σ → m.kind.Listing}
    {name : String} {F : Frame} (hfield : field name (optional (l.decode start)) put ∈ m.kind.layout.fields)
    (hl : l.Commutes) (hstart : l.IsBlank start) (hF : F.IsFor m.fieldNames name) : m.Heeds l.names (F.fill name) := by
  have hm := m.isRegular_layout
  constructor
  case insert =>
    intro before x after hx
    refine map_congr (Frame.decode_fill_congr hm hfield hF fun r => ?_)
    simp only [field, Json.optional, Layout.decode_insert hl hstart hx]
  case congr =>
    intro fields fields' hnodup hnodup' h
    have hread : ∀ {fields fields' : List (String × Json)}, (fields.map Prod.fst).Nodup →
        (fields'.map Prod.fst).Nodup → (∀ name ∈ l.names, told? name fields = told? name fields') →
        ∀ r r', (field name (optional (l.decode start)) put).set (.obj fields) r = .ok r' →
          (field name (optional (l.decode start)) put).set (.obj fields') r = .ok r' := by
      intro fields fields' hnodup hnodup' h r r'
      exact set_nested_congr (by simp) (by simp) fun a =>
        Layout.decode_eq_ok_of_told hl hstart hnodup hnodup' h
    refine toOption_map_congr fun r => ⟨?_, ?_⟩
    · exact Frame.decode_fill_eq_ok_of_imp hm hfield hF (hread hnodup hnodup' h)
    · exact Frame.decode_fill_eq_ok_of_imp hm hfield hF
        (hread hnodup' hnodup fun name hname => (h name hname).symm)

/-- **Of a record only its known fields make a difference**, and of a record inside a record as well: other
fields and nulls may be put in or taken out, and the product is the same, or the fault is. -/
theorem heeds_known_fields (m : Mapper) :
    m.Heeds m.fieldNames id ∧
    ∀ name inner, m.nested? = .some (name, inner) → ∀ F : Frame, F.IsFor m.fieldNames name →
      m.Heeds inner (F.fill name) := by
  refine ⟨m.heeds_fieldNames, fun name inner hnested F hF => ?_⟩
  cases m with
  | tiki =>
    cases hnested
    have hfield := List.mem_of_getElem? (l := tiki.kind.layout.fields) (i := 6) rfl
    exact heeds_nested hfield TikiCategory.isRegular_layout.commutes TikiCategory.isBlank_layout hF
  | shopee base =>
    cases hnested
    have hfield := List.mem_of_getElem? (l := (shopee base).kind.layout.fields) (i := 7) rfl
    exact heeds_nested hfield ShopeeVoucher.isRegular_layout.commutes ShopeeVoucher.isBlank_layout hF
  | lazada => cases hnested

/-- The fields of a phone, all but its price. -/
def phoneFields : List (String × Json) := [("id", .int 1), ("name", .str "x")]

/-- A colour, a brand that is null, and what is beside the name of a category make no difference; nor
does the order of the fields. -/
theorem heeds_known_fields_of_phone :
    tiki.map (.obj (phoneFields ++ ("colour", Json.str "red") :: [("price", Json.int 100)])) =
      tiki.map (.obj (phoneFields ++ [("price", Json.int 100)])) ∧
    tiki.map (.obj (phoneFields ++ ("brand_name", Json.null) :: [("price", Json.int 100)])) =
      tiki.map (.obj (phoneFields ++ [("price", Json.int 100)])) ∧
    (tiki.map (.obj (("price", Json.int 100) :: ("sku", Json.null) :: phoneFields))).toOption =
      (tiki.map (.obj (phoneFields ++ [("price", Json.int 100), ("colour", Json.null)]))).toOption ∧
    tiki.map (phone.fill "categories" (.obj ([("name", Json.str "Phones")] ++ ("path", Json.arr []) :: []))) =
      tiki.map (phone.fill "categories" (.obj ([("name", Json.str "Phones")] ++ []))) := by
  obtain ⟨hrecord, hnested⟩ := heeds_known_fields tiki
  have hcategory := hnested "categories" ["id", "name"] rfl phone rfl
  refine ⟨hrecord.insert _ _ _ (.inl (by decide)), hrecord.insert _ _ _ (.inr ⟨rfl, by decide⟩),
    hrecord.congr _ _ (by decide) (by decide) ?_, hcategory.insert _ _ _ (.inl (by decide))⟩
  have hnames : tiki.fieldNames = ["id", "sku", "name", "short_description", "price", "brand_name", "categories",
    "promotion_code", "thumbnail_url", "discount_rate"] := rfl
  rw [hnames]
  simp [told?, phoneFields, List.lookup_cons]

end Mapper
end MarketSearch
