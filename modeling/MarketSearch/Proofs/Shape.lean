/-
What values can be records.

A record is read from an object by the names of its fields, or from an array by
their order.  Of an array every field has its value, so an array of another
length is no record, and one of the right length is the record of the object
that has the same values under the names, whatever their order there
(`Layout.IsRegular.decode_arr_eq_ok_iff`).  The same holds of records inside
records, at the place of one field (`Frame.decode_fill`).

A mapper refuses what cannot be read, so the records of a marketplace are
objects and full arrays (`Mapper.records_are_objects_or_full_arrays`).
-/
import MarketSearch.Listing.Mapper
import MarketSearch.Proofs.ReadBack

namespace MarketSearch

/-! ## Layouts -/

namespace Layout

variable {ν ε σ : Type} {l : Layout ν ε σ} {f : Field ν ε σ} {name : String}

def names (l : Layout ν ε σ) : List String := l.fields.map (·.name)

/-- No two fields share a name, none may be left out of a list, and it does not matter in which order they
are set. -/
structure IsRegular (l : Layout ν ε σ) : Prop where
  nodup : l.names.Nodup
  complete : ∀ f ∈ l.fields, f.trailing = false
  commutes : l.Commutes

theorem IsRegular.find?_eq (h : l.IsRegular) (hf : f ∈ l.fields) : l.find? f.name = .some f := by
  obtain ⟨front, back, hfields⟩ := List.append_of_mem hf
  have hnodup := h.nodup
  rw [names, hfields, List.map_append, List.map_cons, List.nodup_append] at hnodup
  have hfront : ∀ g ∈ front, ¬ (g.name == f.name) = true := by
    intro g hg hname
    exact hnodup.2.2 g.name (List.mem_map_of_mem hg) f.name List.mem_cons_self (by simpa using hname)
  rw [find?, hfields, List.find?_append, List.find?_eq_none.mpr hfront, Option.none_or, List.find?_cons_of_pos (by simp)]

theorem setAll_append (fields fields' : List (String × ν)) (start : σ) :
    l.setAll start (fields ++ fields') = (l.setAll start fields).bind fun r => l.setAll r fields' :=
  List.foldlM_append

/-- Sets fields from values, one after the other, as long as there are both. -/
def setEach (fs : List (Field ν ε σ)) (vs : List ν) (start : σ) : Except ε σ :=
  (fs.zip vs).foldlM (fun r (x : Field ν ε σ × ν) => x.1.set x.2 r) start

theorem IsRegular.setNamed_eq (h : l.IsRegular) (hf : f ∈ l.fields) (v : ν) (r : σ) :
    l.setNamed r (f.name, v) = f.set v r := by
  rw [setNamed, h.find?_eq hf]

end Layout

namespace Json
namespace Layout

variable {σ : Type} {l : Layout σ} {start r : σ} {items : List Json}

/-- A list gives every field its value, or it is refused. -/
theorem length_of_ofItems {fs : List (Field Json Mismatch σ)} (hfs : ∀ f ∈ fs, f.trailing = false) {i : Nat}
    (h : l.ofItems fs i start items = .ok r) : items.length = fs.length := by
  induction fs generalizing i start items with
  | nil =>
    cases items with
    | nil => rfl
    | cons v vs => cases h
  | cons f fs ih =>
    obtain ⟨hf, hfs⟩ := List.forall_mem_cons.mp hfs
    cases items with
    | nil => simp [ofItems, hf] at h
    | cons v vs =>
      obtain ⟨r', -, hrest⟩ := bind_eq_ok_iff.mp h
      rw [List.length_cons, List.length_cons, ih hfs hrest]

/-- A list that begins with values for some fields sets these first. -/
theorem ofItems_append {fs gs : List (Field Json Mismatch σ)} {vs : List Json} (hlength : vs.length = fs.length)
    (i : Nat) (start : σ) (ws : List Json) : l.ofItems (fs ++ gs) i start (vs ++ ws) =
      (MarketSearch.Layout.setEach fs vs start).bind fun r => l.ofItems gs (i + vs.length) r ws := by
  induction fs generalizing i start vs with
  | nil =>
    obtain rfl := List.length_eq_zero_iff.mp hlength
    rfl
  | cons f fs ih =>
    cases vs with
    | nil => cases hlength
    | cons v vs =>
      have hrest := fun r => ih (Nat.succ_inj.mp hlength) (i + 1) r
      rw [List.cons_append, List.cons_append, MarketSearch.Layout.setEach, List.zip_cons_cons, List.foldlM_cons, ofItems]
      cases hset : f.set v start with
      | error e => rfl
      | ok r =>
        simp only [Except.bind, hrest, List.length_cons]
        rw [Nat.add_assoc, Nat.add_comm 1]
        rfl

/-- The values of all fields in order are set as they are under the names of the fields. -/
theorem setAll_zip (h : l.IsRegular) {fs : List (Field Json Mismatch σ)} (hfs : ∀ f ∈ fs, f ∈ l.fields) (start : σ)
    (vs : List Json) : l.setAll start ((fs.map (·.name)).zip vs) = MarketSearch.Layout.setEach fs vs start := by
  induction fs generalizing start vs with
  | nil => rfl
  | cons f fs ih =>
    obtain ⟨hf, hfs⟩ := List.forall_mem_cons.mp hfs
    cases vs with
    | nil => rfl
    | cons v vs =>
      rw [List.map_cons, List.zip_cons_cons, MarketSearch.Layout.setEach, List.zip_cons_cons, MarketSearch.Layout.setAll,
        List.foldlM_cons, List.foldlM_cons, h.setNamed_eq hf]
      exact bind_congr fun r => ih hfs r vs

/-- **An array of all fields is the record of an object with the same values**, in whatever order. -/
theorem decode_arr_eq_ok_iff (h : l.IsRegular) (hlength : items.length = l.names.length)
    {fields : List (String × Json)} (hfields : fields.Perm (l.names.zip items)) :
    l.decode start (.arr items) = .ok r ↔ l.decode start (.obj fields) = .ok r := by
  have hlength' : items.length = l.fields.length := by rwa [MarketSearch.Layout.names, List.length_map] at hlength
  have harray : l.decode start (.arr items) = l.setAll start (l.names.zip items) := by
    have hsplit := @ofItems_append σ l l.fields [] items hlength' 0 start []
    rw [List.append_nil, List.append_nil] at hsplit
    rw [decode, hsplit, MarketSearch.Layout.names, setAll_zip h fun f hf => hf]
    cases MarketSearch.Layout.setEach l.fields items start <;> rfl
  have hzip : ((l.names.zip items).map Prod.fst).Nodup := by
    rw [List.map_fst_zip (by omega)]
    exact h.nodup
  rw [harray]
  constructor
  · exact h.commutes.setAll_perm hfields.symm hzip
  · exact h.commutes.setAll_perm hfields ((hfields.map Prod.fst).nodup_iff.mpr hzip)

end Layout

/-- The value may be a record of fields with these names: it is an object, or an array with a value for each
field. -/
inductive HasShape (names : List String) : Json → Prop where
  | object (fields : List (String × Json)) : HasShape names (.obj fields)
  | array {items : List Json} : items.length = names.length → HasShape names (.arr items)

theorem Layout.hasShape_of_decode {σ : Type} {l : Layout σ} {start r : σ} {v : Json} (h : l.IsRegular)
    (hread : l.decode start v = .ok r) : HasShape l.names v := by
  cases v with
  | obj fields => exact .object fields
  | arr items =>
    refine .array ?_
    rw [MarketSearch.Layout.names, List.length_map]
    exact length_of_ofItems h.complete hread
  | _ => cases hread

end Json

/-! ## Frames -/

/-- A record with a gap for the value of one field: among named fields, or among the values of all fields in
order. -/
inductive Frame where
  | named (before after : List (String × Json))
  | listed (before after : List Json)

namespace Frame

open Json

/-- The record with a value in the gap, for a field of this name. -/
def fill (name : String) (v : Json) : Frame → Json
  | .named before after => .obj (before ++ (name, v) :: after)
  | .listed before after => .arr (before ++ v :: after)

/-- The gap of a list is at the place of the field. -/
def IsFor (names : List String) (name : String) : Frame → Prop
  | .named _ _ => True
  | .listed before _ => names[before.length]? = .some name

variable {σ : Type} {l : Json.Layout σ} {f : Field Json Mismatch σ} {start r : σ} {name : String} {v v' : Json}
  {F : Frame}

/-- What is read before the gap. -/
def upTo (l : Json.Layout σ) (start : σ) : Frame → Except Mismatch σ
  | .named before _ => l.setAll start before
  | .listed before _ => MarketSearch.Layout.setEach l.fields before start

/-- What is read after the gap. -/
def onwards (l : Json.Layout σ) (r : σ) : Frame → Except Mismatch σ
  | .named _ after => l.setAll r after
  | .listed before after => l.ofItems (l.fields.drop (before.length + 1)) (before.length + 1) r after

/-- **A record is read up to the gap, at the gap and onwards.** -/
theorem decode_fill (h : l.IsRegular) (hf : f ∈ l.fields) (hF : F.IsFor l.names f.name) (start : σ) (v : Json) :
    l.decode start (F.fill f.name v) =
      (F.upTo l start).bind fun r => (f.set v r).bind fun r => F.onwards l r := by
  cases F with
  | named before after =>
    rw [fill, Json.Layout.decode, MarketSearch.Layout.setAll_append]
    refine congrArg _ (funext fun r => ?_)
    rw [MarketSearch.Layout.setAll, List.foldlM_cons, h.setNamed_eq hf]
    rfl
  | listed before after =>
    have hplace : (l.fields.map (·.name))[before.length]? = .some f.name := hF
    rw [List.getElem?_map, Option.map_eq_some_iff] at hplace
    obtain ⟨g, hg, hname⟩ := hplace
    have hlt := (List.getElem?_eq_some_iff.mp hg).1
    have hgf : g = f := by
      have hfind := h.find?_eq (List.mem_of_getElem? hg)
      rw [hname, h.find?_eq hf] at hfind
      exact (Option.some.inj hfind).symm
    have hfields : l.fields.take before.length ++ f :: l.fields.drop (before.length + 1) = l.fields :=
      take_append_cons_drop (hgf ▸ hg)
    have hlength : before.length = (l.fields.take before.length).length := by
      rw [List.length_take]
      omega
    have hzip : (l.fields.take before.length).zip before = l.fields.zip before := by
      rw [@List.zip_eq_zip_take_min _ _ l.fields before, Nat.min_eq_right (Nat.le_of_lt hlt), List.take_length]
    change l.ofItems l.fields 0 start (before ++ v :: after) = _
    conv_lhs => rw [← hfields]
    rw [Json.Layout.ofItems_append hlength, MarketSearch.Layout.setEach, hzip, Nat.zero_add]
    rfl

/-- What the field at the gap refuses, the record does. -/
theorem decode_fill_ne_ok (h : l.IsRegular) (hf : f ∈ l.fields) (hF : F.IsFor l.names f.name)
    (hset : ∀ r r', f.set v r ≠ .ok r') : l.decode start (F.fill f.name v) ≠ .ok r := by
  intro hread
  rw [decode_fill h hf hF] at hread
  obtain ⟨r₁, -, hread⟩ := bind_eq_ok_iff.mp hread
  obtain ⟨r₂, hgap, -⟩ := bind_eq_ok_iff.mp hread
  exact hset r₁ r₂ hgap

/-- What the field at the gap reads alike, the record does. -/
theorem decode_fill_eq_ok_of_imp (h : l.IsRegular) (hf : f ∈ l.fields) (hF : F.IsFor l.names f.name)
    (hset : ∀ r r', f.set v r = .ok r' → f.set v' r = .ok r') (hread : l.decode start (F.fill f.name v) = .ok r) :
    l.decode start (F.fill f.name v') = .ok r := by
  rw [decode_fill h hf hF] at hread ⊢
  obtain ⟨r₁, hbefore, hread⟩ := bind_eq_ok_iff.mp hread
  obtain ⟨r₂, hgap, hafter⟩ := bind_eq_ok_iff.mp hread
  exact bind_eq_ok_iff.mpr ⟨r₁, hbefore, bind_eq_ok_iff.mpr ⟨r₂, hset r₁ r₂ hgap, hafter⟩⟩

end Frame

/-! ## Listings -/

theorem TikiListing.isRegular_layout : layout.IsRegular where
  nodup := by decide
  complete := by simp [layout, field]
  commutes := by simp [Layout.Commutes, layout, commutes_field]

theorem TikiCategory.isRegular_layout : layout.IsRegular where
  nodup := by decide
  complete := by simp [layout, field]
  commutes := by simp [Layout.Commutes, layout, commutes_field]

theorem ShopeeListing.isRegular_layout : layout.IsRegular where
  nodup := by decide
  complete := by simp [layout, field]
  commutes := by simp [Layout.Commutes, layout, commutes_field]

theorem ShopeeVoucher.isRegular_layout : layout.IsRegular where
  nodup := by decide
  complete := by simp [layout, field]
  commutes := by simp [Layout.Commutes, layout]

theorem LazadaListing.isRegular_layout : layout.IsRegular where
  nodup := by decide
  complete := by simp [layout, field]
  commutes := by simp [Layout.Commutes, layout, commutes_field]

/-! ## Mappers -/

/-- How the listings of a marketplace are read, and what is made of them. -/
structure ListingKind where
  Listing : Type
  layout : Json.Layout Listing
  blank : Listing
  toProduct : Listing → Listed Product

namespace Mapper

open Json

def kind : Mapper → ListingKind
  | .tiki => ⟨TikiListing, TikiListing.layout, .blank, TikiListing.toProduct⟩
  | .shopee base => ⟨ShopeeListing, ShopeeListing.layout, .blank, ShopeeListing.toProduct base⟩
  | .lazada => ⟨LazadaListing, LazadaListing.layout, .blank, LazadaListing.toProduct⟩

/-- The names of the fields of a listing, in order. -/
def fieldNames (m : Mapper) : List String := m.kind.layout.names

/-- The field of a listing that is a record itself, and the names of the fields in that. -/
def nested? : Mapper → Option (String × List String)
  | .tiki => .some ("categories", TikiCategory.layout.names)
  | .shopee _ => .some ("voucher_info", ShopeeVoucher.layout.names)
  | .lazada => .none

variable {m : Mapper} {v : Json} {p : Product}

theorem isRegular_layout (m : Mapper) : m.kind.layout.IsRegular := by
  cases m with
  | tiki => exact TikiListing.isRegular_layout
  | shopee base => exact ShopeeListing.isRegular_layout
  | lazada => exact LazadaListing.isRegular_layout

theorem map_eq_ok_iff_decode : m.map v = .ok p ↔
    ∃ l, m.kind.layout.decode m.kind.blank v = .ok l ∧ m.kind.toProduct l = .ok p := by
  have hnormalize : m.normalize v = (Listed.decoded (m.kind.layout.decode m.kind.blank v) >>= m.kind.toProduct) := by
    cases m <;> rfl
  have hmap : m.map v = .ok p ↔ m.normalize v = .ok p := by
    unfold map
    cases m.normalize v <;> simp
  rw [hmap, hnormalize]
  cases m.kind.layout.decode m.kind.blank v with
  | error e => simp [Listed.decoded, bind, Except.bind]
  | ok l => simp [Listed.decoded, bind, Except.bind]

/-- The record is refused as malformed, and the marketplace that wrote it is named. -/
def Refuses (m : Mapper) (v : Json) : Prop := ∃ message, m.map v = .error (.malformed m.source message)

theorem refuses_of_ne_ok (h : ∀ l, m.kind.layout.decode m.kind.blank v ≠ .ok l) : m.Refuses v := by
  have hmap : ∀ p, m.map v ≠ .ok p := by
    intro p hp
    obtain ⟨l, hl, -⟩ := map_eq_ok_iff_decode.mp hp
    exact h l hl
  unfold map at hmap
  unfold Refuses map
  split at hmap
  · next p hp => exact absurd rfl (hmap p)
  · next e he => exact ⟨e.message, rfl⟩

/-- Records that are read alike become the same product, or none. -/
theorem toOption_map_congr {v' : Json}
    (h : ∀ l, m.kind.layout.decode m.kind.blank v = .ok l ↔ m.kind.layout.decode m.kind.blank v' = .ok l) :
    (m.map v).toOption = (m.map v').toOption := by
  refine Option.ext fun p => ?_
  rw [toOption_eq_some_iff, toOption_eq_some_iff, map_eq_ok_iff_decode, map_eq_ok_iff_decode]
  simp only [h]

/-- The field that is a record itself is read by a layout of its own. -/
theorem exists_nested {name : String} {inner : List String} (h : m.nested? = .some (name, inner)) :
    ∃ (σ : Type) (l : Json.Layout σ) (start : σ) (put : m.kind.Listing → Option σ → m.kind.Listing),
      field name (optional (l.decode start)) put ∈ m.kind.layout.fields ∧ l.IsRegular ∧ l.names = inner := by
  cases m with
  | tiki =>
    cases h
    have hplace : TikiListing.layout.fields[6]? = .some _ := rfl
    exact ⟨_, _, _, _, List.mem_of_getElem? hplace, TikiCategory.isRegular_layout, rfl⟩
  | shopee base =>
    cases h
    have hplace : ShopeeListing.layout.fields[7]? = .some _ := rfl
    exact ⟨_, _, _, _, List.mem_of_getElem? hplace, ShopeeVoucher.isRegular_layout, rfl⟩
  | lazada => cases h

section

variable {σ β : Type} {l : Json.Layout σ} {start : σ} {put : β → Option σ → β} {name : String} {r r' : β}

/-- A record inside a record is an object or a full array, or missing. -/
theorem hasShape_of_nested (h : l.IsRegular) (hnull : v ≠ .null)
    (hset : (field name (optional (l.decode start)) put).set v r = .ok r') : HasShape l.names v := by
  obtain ⟨o, ho, -⟩ := set_field_eq_ok_iff.mp hset
  obtain ⟨hv, -⟩ | ⟨-, a, ha, -⟩ := optional_eq_ok_iff.mp ho
  · exact absurd hv hnull
  · exact Layout.hasShape_of_decode h ha

theorem set_nested_congr {v' : Json} (hv : v ≠ .null) (hv' : v' ≠ .null)
    (h : ∀ a, l.decode start v = .ok a → l.decode start v' = .ok a)
    (hset : (field name (optional (l.decode start)) put).set v r = .ok r') :
    (field name (optional (l.decode start)) put).set v' r = .ok r' := by
  obtain ⟨o, ho, hr⟩ := set_field_eq_ok_iff.mp hset
  obtain ⟨hnull, -⟩ | ⟨-, a, ha, rfl⟩ := optional_eq_ok_iff.mp ho
  · exact absurd hnull hv
  · exact set_field_eq_ok_iff.mpr ⟨_, optional_eq_ok_iff.mpr (.inr ⟨hv', a, h a ha, rfl⟩), hr⟩

end

/-- **Records are objects, or arrays that have every field in order.** Anything else is refused, and an array
of all fields is taken for an object that has the same values under their names. The same holds of a
record inside a record that is there at all. -/
theorem records_are_objects_or_full_arrays (m : Mapper) :
    (∀ v, ¬ HasShape m.fieldNames v → m.Refuses v) ∧
    (∀ items fields, items.length = m.fieldNames.length → fields.Perm (m.fieldNames.zip items) →
      (m.map (.arr items)).toOption = (m.map (.obj fields)).toOption) ∧
    ∀ name inner, m.nested? = .some (name, inner) → ∀ F : Frame, F.IsFor m.fieldNames name →
      (∀ v, v ≠ .null → ¬ HasShape inner v → m.Refuses (F.fill name v)) ∧
      ∀ items fields, items.length = inner.length → fields.Perm (inner.zip items) →
        (m.map (F.fill name (.arr items))).toOption = (m.map (F.fill name (.obj fields))).toOption := by
  have hm := m.isRegular_layout
  refine ⟨fun v hv => ?_, fun items fields hlength hfields => ?_, fun name inner hnested F hF => ?_⟩
  · refine refuses_of_ne_ok fun l hl => hv ?_
    exact Layout.hasShape_of_decode hm hl
  · exact toOption_map_congr fun l => Layout.decode_arr_eq_ok_iff hm hlength hfields
  · obtain ⟨σ, l, start, put, hfield, hl, rfl⟩ := exists_nested hnested
    constructor
    · intro v hnull hv
      refine refuses_of_ne_ok fun r => Frame.decode_fill_ne_ok hm hfield hF fun r r' hset => hv ?_
      exact hasShape_of_nested hl hnull hset
    · intro items fields hlength hfields
      have hread : ∀ a, l.decode start (.arr items) = .ok a ↔ l.decode start (.obj fields) = .ok a := fun a =>
        Layout.decode_arr_eq_ok_iff hl hlength hfields
      have harr : Json.arr items ≠ .null := by simp
      have hobj : Json.obj fields ≠ .null := by simp
      refine toOption_map_congr fun r => ⟨?_, ?_⟩
      · exact Frame.decode_fill_eq_ok_of_imp hm hfield hF fun r r' =>
          set_nested_congr harr hobj fun a => (hread a).mp
      · exact Frame.decode_fill_eq_ok_of_imp hm hfield hF fun r r' =>
          set_nested_congr hobj harr fun a => (hread a).mpr

/-- The fields of a listing of Tiki in order, but for what it says of the category. -/
def phone : Frame := .listed [.int 1, .str "1", .str "x", .null, .int 100, .null] [.null, .null, .null]

/-- A text is refused, as a record and as a category; a category may be an array, and its fields may come in
another order. -/
theorem records_of_phone :
    tiki.Refuses (.str "x") ∧ tiki.Refuses (phone.fill "categories" (.str "x")) ∧
    (tiki.map (phone.fill "categories" (.arr [.int 2, .str "Phones"]))).toOption =
      (tiki.map (phone.fill "categories" (.obj [("name", .str "Phones"), ("id", .int 2)]))).toOption := by
  obtain ⟨hrefused, -, hnested⟩ := records_are_objects_or_full_arrays tiki
  obtain ⟨hinner, hlisted⟩ := hnested "categories" ["id", "name"] rfl phone rfl
  have htext : ∀ names, ¬ HasShape names (.str "x") := by
    intro names h
    cases h
  refine ⟨hrefused _ (htext _), hinner _ (by simp) (htext _), hlisted _ _ rfl ?_⟩
  exact .swap ..

/-- An array that is a record, and one that is a category. -/
theorem map_phone_listed :
    ∃ p, tiki.map (phone.fill "categories" (.arr [.int 2, .str "Phones"])) = .ok p ∧
      p.code = "1" ∧ p.category = "Phones" := by
  refine ⟨{ Product.draft "1" "x" .tiki with
    price := ⟨⟨false, 100, 0, by decide, by decide⟩⟩
    category := "Phones" }, ?_, rfl, rfl⟩
  exact toOption_eq_some_iff.mp (by decide)

end Mapper
end MarketSearch
