/-
What becomes of the records of a source, each of them by itself.

A binding makes a product of every record that its mapper takes for a listing
of its own source, and counts the others.  A record more puts its product, or
itself as dropped, into the batch of the rest (`Binding.batch_append_cons`), so
no record changes what becomes of another.

The records of a marketplace are the elements of the array in its envelope, as
many as there are (`MarketClient.fetch_eq_ok_iff_encloses`).
-/
import MarketSearch.Proofs.Binding
import MarketSearch.Proofs.Canonical
import MarketSearch.Proofs.Envelope

namespace MarketSearch

/-! ## Batches -/

/-- What a batch becomes with a record more, whose product goes to a place if there is one. -/
def Batch.insert (place : Nat) : Option Product → Batch → Batch
  | .some p, b => { b with products := b.products.insertIdx place p }
  | .none, b => { b with dropped := b.dropped + 1 }

namespace Binding

variable {ρ : Type} {b : Binding ρ}

/-- The product that the mapper makes of a record, if it bears the name of the source. -/
def image? (b : Binding ρ) (record : ρ) : Option Product :=
  (b.map record).toOption.filter fun p => p.source = b.source

theorem image?_eq_some_iff {record : ρ} {p : Product} :
    b.image? record = .some p ↔ b.map record = .ok p ∧ p.source = b.source := by
  simp [image?, Option.filter_eq_some_iff, toOption_eq_some_iff]

theorem toOption_mapRecord (b : Binding ρ) (record : ρ) : (b.mapRecord record).toOption = b.image? record := by
  unfold mapRecord image?
  cases b.map record with
  | error e => rfl
  | ok p =>
    by_cases h : p.source = b.source <;> simp [h, Except.toOption, Option.filter]

/-- The first record goes before the others. -/
theorem batch_cons (b : Binding ρ) (r : ρ) (rs : List ρ) :
    b.batch (r :: rs) = (b.batch rs).insert 0 (b.image? r) := by
  rw [batch, ← toOption_mapRecord]
  cases b.mapRecord r <;> rfl

theorem products_batch (b : Binding ρ) (rs : List ρ) : (b.batch rs).products = rs.filterMap b.image? := by
  induction rs with
  | nil => rfl
  | cons r rs ih =>
    rw [batch_cons, List.filterMap_cons, ← ih]
    cases b.image? r <;> rfl

theorem dropped_batch (b : Binding ρ) (rs : List ρ) :
    (b.batch rs).dropped = rs.countP fun r => (b.image? r).isNone := by
  induction rs with
  | nil => rfl
  | cons r rs ih =>
    rw [batch_cons, List.countP_cons, ← ih]
    cases b.image? r <;> rfl

/-- **A record more leaves the batch of the others as it is**, but for its own product or the drop. -/
theorem batch_append_cons (b : Binding ρ) (rs₁ : List ρ) (r : ρ) (rs₂ : List ρ) :
    b.batch (rs₁ ++ r :: rs₂) =
      (b.batch (rs₁ ++ rs₂)).insert (b.batch rs₁).products.length (b.image? r) := by
  induction rs₁ with
  | nil => exact batch_cons b r rs₂
  | cons r₁ rs₁ ih =>
    rw [List.cons_append, List.cons_append, batch_cons, batch_cons, batch_cons, ih]
    -- each of the two records gives a product or is dropped
    cases b.image? r₁ <;> cases b.image? r <;> rfl

theorem products_batch_append_cons (b : Binding ρ) (rs₁ : List ρ) (r : ρ) (rs₂ : List ρ) :
    (b.batch (rs₁ ++ r :: rs₂)).products =
      (b.batch rs₁).products ++ (b.image? r).toList ++ (b.batch rs₂).products := by
  simp only [products_batch, List.filterMap_append, List.filterMap_cons, List.append_assoc]
  cases b.image? r <;> rfl

theorem answer_adapter {turn : Nat} {f : Filter} {records : List ρ}
    (h : (b.fetch turn f).answer = .ok records) :
    (b.adapter.fetch turn f).answer = .ok (b.batch records) :=
  map_eq_ok_iff.mpr ⟨records, h, rfl⟩

end Binding

/-! ## Envelopes -/

namespace Envelope

/-- What a value has under a name: an object has its one field of the name, or nothing, and an array of
one element has that under every name. -/
inductive HasField (name : String) : Json → Option Json → Prop where
  | missing {fields : List (String × Json)} :
      (Json.obj fields).under name = [] → HasField name (.obj fields) .none
  | named {fields : List (String × Json)} {x : Json} :
      (Json.obj fields).under name = [x] → HasField name (.obj fields) (.some x)
  | alone (x : Json) : HasField name (.arr [x]) (.some x)

/-- The elements of an array, of which there are none where it is missing or null. -/
inductive Lists : Option Json → List Json → Prop where
  | missing : Lists .none []
  | null : Lists (.some .null) []
  | array (es : List Json) : Lists (.some (.arr es)) es

/-- Under a name a value has an array with these elements, which may be missing or null. -/
def Holds (name : String) (v : Json) (es : List Json) : Prop := ∃ x, HasField name v x ∧ Lists x es

theorem Holds.ne_null {name : String} {v : Json} {es : List Json} (h : Holds name v es) : v ≠ .null := by
  rintro rfl
  obtain ⟨x, hx, -⟩ := h
  cases hx

/-- A value is an envelope of a source, and these are the elements of its array. -/
inductive Encloses : Source → Json → List Json → Prop where
  | data {v : Json} {es : List Json} : Holds "data" v es → Encloses .tiki v es
  | noData : Encloses .tiki (.arr []) []
  | items {v : Json} {es : List Json} : Holds "items" v es → Encloses .shopee v es
  | noMods {v : Json} : HasField "mods" v .none → Encloses .lazada v []
  | nullMods {v : Json} : HasField "mods" v (.some .null) → Encloses .lazada v []
  | listItems {v mods : Json} {es : List Json} :
      HasField "mods" v (.some mods) → Holds "listItems" mods es → Encloses .lazada v es

/-- The record that an element of the array is. Shopee has it inside the element, the last of those under
its name, and where there is none it is null. -/
def recordOf : Source → Json → Json
  | .shopee, e => ((e.under "item_basic").getLast?.map Json.canonical).getD .null
  | _, e => e.canonical

theorem unwrap_canonical (s : Source) (e : Json) : unwrap s e.canonical = recordOf s e := by
  cases s with
  | shopee => rw [unwrap, Json.get?_canonical, recordOf]
  | tiki | lazada => rfl

theorem hasField_obj_iff {name : String} {fields : List (String × Json)} {x : Option Json} :
    HasField name (.obj fields) x ↔ (Json.obj fields).under name = x.toList := by
  constructor
  · rintro (h | h)
    · exact h
    · exact h
  · cases x with
    | none => exact .missing
    | some x => exact .named

theorem hasField_arr_iff {name : String} {vs : List Json} {x : Option Json} :
    HasField name (.arr vs) x ↔ ∃ y, vs = [y] ∧ x = .some y := by
  constructor
  · intro h
    cases h with
    | alone y => exact ⟨y, rfl, rfl⟩
  · rintro ⟨y, rfl, rfl⟩
    exact .alone y

/-! ### Layouts of one field -/

section

variable {σ : Type} {l : Json.Layout σ} {f : Field Json Json.Mismatch σ} {start r : σ} {v : Json}

theorem setAll_single (h : l.fields = [f]) (start : σ) (fields : List (String × Json)) :
    l.setAll start fields = ((Json.obj fields).under f.name).foldlM (fun r x => f.set x r) start := by
  induction fields generalizing start with
  | nil => rfl
  | cons g fields ih =>
    obtain ⟨n, x⟩ := g
    rw [Layout.setAll, List.foldlM_cons, Layout.setNamed, Layout.find?, h]
    by_cases hn : n = f.name
    · subst hn
      rw [Json.under, Layout.under_cons_self, List.foldlM_cons, List.find?_cons_of_pos (by simp)]
      exact bind_congr fun r => ih r
    · rw [Json.under, Layout.under_cons_of_ne hn, List.find?_cons_of_neg (by simpa using Ne.symm hn)]
      exact ih start

/-- A layout of one field reads what has the field, or nothing where the field may be left out. -/
theorem decodeOnce_eq_ok_iff (h : l.fields = [f]) : l.decodeOnce start v = .ok r ↔
    (HasField f.name v .none ∧ r = start) ∨
    (∃ x, HasField f.name v (.some x) ∧ f.set x start = .ok r) ∨
    (f.trailing = true ∧ v = .arr [] ∧ r = start) := by
  cases v with
  | obj fields =>
    rw [Json.Layout.decodeOnce_obj_eq_ok_iff, setAll_single h, h]
    simp only [hasField_obj_iff, List.forall_mem_singleton, reduceCtorEq, false_and, and_false, or_false]
    rcases (Json.obj fields).under f.name with _ | ⟨x, _ | ⟨y, ys⟩⟩
    · simp [pure, Except.pure, eq_comm]
    · simp [eq_comm]
    · simp
  | arr vs =>
    change l.ofItems l.fields 0 start vs = .ok r ↔ _
    rw [h]
    simp only [hasField_arr_iff]
    rcases vs with _ | ⟨x, _ | ⟨y, ys⟩⟩
    · cases ht : f.trailing <;> simp [Json.Layout.ofItems, ht, eq_comm]
    · cases hx : f.set x start <;> simp [Json.Layout.ofItems, hx, Except.bind]
    · cases hx : f.set x start <;> simp [Json.Layout.ofItems, hx, Except.bind]
  | _ =>
    constructor
    · intro hread
      cases hread
    · rintro (⟨⟨⟩, -⟩ | ⟨_, ⟨⟩, -⟩ | ⟨-, hv, -⟩)
      cases hv

end

/-! ### Records -/

section

variable {v : Json} {rs : List Json}

theorem lists_some_iff {x : Json} :
    (∃ items, Json.optional (Json.list record) x = .ok items ∧ items.getD [] = rs) ↔
      ∃ es, Lists (.some x) es ∧ es.map Json.canonical = rs := by
  constructor
  · rintro ⟨items, hread, rfl⟩
    cases x with
    | null =>
      cases hread
      exact ⟨[], .null, rfl⟩
    | arr es =>
      obtain ⟨_, hes, rfl⟩ := map_eq_ok_iff.mp hread
      rw [list_record] at hes
      cases hes
      exact ⟨es, .array es, rfl⟩
    | _ => cases hread
  · rintro ⟨es, hlists, rfl⟩
    cases hlists with
    | null => exact ⟨.none, rfl, rfl⟩
    | array => exact ⟨.some (es.map Json.canonical), map_eq_ok_iff.mpr ⟨_, list_record es, rfl⟩, rfl⟩

theorem map_items_eq_ok_iff {x : Except Json.Mismatch Items} {items : Items} :
    (x.map fun vs => vs) = .ok items ↔ x = .ok items :=
  map_eq_ok_iff.trans exists_eq_right

/-- A layout of which the one field holds the items reads what has them under the name of the field. -/
theorem decodeOnce_items_eq_ok_iff {l : Json.Layout Items} {f : Field Json Json.Mismatch Items}
    (h : l.fields = [f])
    (hset : ∀ x items, f.set x .none = .ok items ↔ Json.optional (Json.list record) x = .ok items) :
    (∃ items, l.decodeOnce .none v = .ok items ∧ items.getD [] = rs) ↔
      (∃ es, Holds f.name v es ∧ es.map Json.canonical = rs) ∨
      (f.trailing = true ∧ v = .arr [] ∧ rs = []) := by
  simp only [decodeOnce_eq_ok_iff h, hset]
  constructor
  · rintro ⟨items, ⟨hfield, rfl⟩ | ⟨x, hfield, hx⟩ | ⟨htrailing, hv, rfl⟩, rfl⟩
    · exact .inl ⟨[], ⟨_, hfield, .missing⟩, rfl⟩
    · obtain ⟨es, hlists, hes⟩ := lists_some_iff.mp ⟨items, hx, rfl⟩
      exact .inl ⟨es, ⟨_, hfield, hlists⟩, hes⟩
    · exact .inr ⟨htrailing, hv, rfl⟩
  · rintro (⟨es, ⟨x, hfield, hlists⟩, rfl⟩ | ⟨htrailing, hv, rfl⟩)
    · cases x with
      | none =>
        cases hlists
        exact ⟨.none, .inl ⟨hfield, rfl⟩, rfl⟩
      | some x =>
        obtain ⟨items, hx, hitems⟩ := lists_some_iff.mpr ⟨es, hlists, rfl⟩
        exact ⟨items, .inr (.inl ⟨x, hfield, hx⟩), hitems⟩
    · exact ⟨.none, .inr (.inr ⟨htrailing, hv, rfl⟩), rfl⟩

theorem decodeOnce_tiki_iff : (∃ items, tiki.decodeOnce .none v = .ok items ∧ items.getD [] = rs) ↔
    ∃ es, Encloses .tiki v es ∧ es.map Json.canonical = rs := by
  rw [@decodeOnce_items_eq_ok_iff _ _ tiki _ rfl fun _ _ => map_items_eq_ok_iff]
  constructor
  · rintro (⟨es, hes, hrs⟩ | ⟨-, rfl, rfl⟩)
    · exact ⟨es, .data hes, hrs⟩
    · exact ⟨[], .noData, rfl⟩
  · rintro ⟨es, hes, hrs⟩
    cases hes with
    | data hes => exact .inl ⟨es, hes, hrs⟩
    | noData => exact .inr ⟨rfl, rfl, hrs.symm⟩

theorem decodeOnce_shopee_iff : (∃ items, shopee.decodeOnce .none v = .ok items ∧ items.getD [] = rs) ↔
    ∃ es, Encloses .shopee v es ∧ es.map Json.canonical = rs := by
  rw [decodeOnce_items_eq_ok_iff rfl fun _ _ => map_items_eq_ok_iff]
  constructor
  · rintro (⟨es, hes, hrs⟩ | ⟨hfalse, -⟩)
    · exact ⟨es, .items hes, hrs⟩
    · cases hfalse
  · rintro ⟨es, hes, hrs⟩
    cases hes with
    | items hes => exact .inl ⟨es, hes, hrs⟩

/-- Mods that are there hold the items by a layout of their own. -/
theorem decodeOnce_lazada_iff : (∃ items, lazada.decodeOnce .none v = .ok items ∧ items.getD [] = rs) ↔
    ∃ es, Encloses .lazada v es ∧ es.map Json.canonical = rs := by
  have hinner {x : Json} : (∃ items, lazadaMods.decodeOnce .none x = .ok items ∧ items.getD [] = rs) ↔
      ∃ es, Holds "listItems" x es ∧ es.map Json.canonical = rs :=
    (decodeOnce_items_eq_ok_iff rfl fun _ _ => map_items_eq_ok_iff).trans (by simp [field])
  simp only [@decodeOnce_eq_ok_iff _ lazada _ _ _ _ rfl]
  constructor
  · rintro ⟨items, ⟨hfield, rfl⟩ | ⟨x, hfield, hset⟩ | ⟨hfalse, -⟩, rfl⟩
    · exact ⟨[], .noMods hfield, rfl⟩
    · obtain ⟨mods, hx, rfl⟩ := set_field_eq_ok_iff.mp hset
      obtain ⟨rfl, rfl⟩ | ⟨-, items, hread, rfl⟩ := Json.optional_eq_ok_iff.mp hx
      · exact ⟨[], .nullMods hfield, rfl⟩
      · obtain ⟨es, hes, hrs⟩ := hinner.mp ⟨items, hread, rfl⟩
        exact ⟨es, .listItems hfield hes, hrs⟩
    · cases hfalse
  · rintro ⟨es, hes, rfl⟩
    cases hes with
    | noMods hfield => exact ⟨.none, .inl ⟨hfield, rfl⟩, rfl⟩
    | nullMods hfield => exact ⟨.none, .inr (.inl ⟨_, hfield, rfl⟩), rfl⟩
    | listItems hfield hes =>
      obtain ⟨items, hitems, hrs⟩ := hinner.mpr ⟨es, hes, rfl⟩
      have hx := Json.optional_eq_ok_iff.mpr (.inr ⟨hes.ne_null, items, hitems, rfl⟩)
      exact ⟨items, .inr (.inl ⟨_, hfield, set_field_eq_ok_iff.mpr ⟨_, hx, rfl⟩⟩), hrs⟩

end

/-- **The records in an envelope are the elements of its array**, each by itself. -/
theorem records?_eq_some_iff {s : Source} {v : Json} {records : List Json} :
    records? s v = .some records ↔ ∃ es, Encloses s v es ∧ es.map (recordOf s) = records := by
  have hrecords : records? s v = .some records ↔
      ∃ rs, (∃ items, (layout s).decodeOnce .none v = .ok items ∧ items.getD [] = rs) ∧
        rs.map (unwrap s) = records := by
    rw [records?, Option.map_eq_some_iff]
    simp only [toOption_eq_some_iff]
    constructor
    · rintro ⟨items, hitems, rfl⟩
      exact ⟨_, ⟨items, hitems, rfl⟩, rfl⟩
    · rintro ⟨_, ⟨items, hitems, rfl⟩, rfl⟩
      exact ⟨items, hitems, rfl⟩
  have hmap (es : List Json) : (es.map Json.canonical).map (unwrap s) = es.map (recordOf s) := by
    rw [List.map_map]
    exact List.map_congr_left fun e _ => unwrap_canonical s e
  have hread {rs : List Json} : (∃ items, (layout s).decodeOnce .none v = .ok items ∧ items.getD [] = rs) ↔
      ∃ es, Encloses s v es ∧ es.map Json.canonical = rs := by
    cases s with
    | tiki => exact decodeOnce_tiki_iff
    | shopee => exact decodeOnce_shopee_iff
    | lazada => exact decodeOnce_lazada_iff
  rw [hrecords]
  constructor
  · rintro ⟨_, hitems, rfl⟩
    obtain ⟨es, hes, rfl⟩ := hread.mp hitems
    exact ⟨es, hes, (hmap es).symm⟩
  · rintro ⟨es, hes, rfl⟩
    exact ⟨_, hread.mpr ⟨es, hes, rfl⟩, hmap es⟩

end Envelope

/-! ## Fetches -/

/-- A body that ends as announced does not go on for ever. -/
theorem ServerAnswer.stalls_of_content? {a : ServerAnswer} {body : Bytes} (h : a.content? = .some body) :
    a.stalls = false := by
  unfold content? at h
  unfold stalls
  split at h
  · next hnone =>
    have hnone : Status.hasBody a.status = false := by simpa using hnone
    simp [hnone]
  · split at h
    · next hend => simp [hend]
    · cases h

namespace MarketClient

open Envelope

section

variable {c : MarketClient} {network : Network} {f : Filter} {url : Url} {a : ServerAnswer} {body : Bytes}

/-- A success with a whole body brings what the body decodes to. -/
theorem fetch_eq_ok_iff (hurl : c.url? f = .some url) (hanswer : network url = .answered a)
    (hsuccess : Status.isSuccess a.status = true) (hbody : a.content? = .some body) {records : List Json} :
    (c.fetch network f).answer = .ok records ↔ Envelope.decode c.source body = .some records := by
  simp only [answer_fetch, hurl, hanswer]
  rw [Caller.outcome, if_pos hsuccess, Caller.content,
    if_neg (by simp [ServerAnswer.stalls_of_content? hbody]), hbody, Option.bind_some]
  cases Envelope.decode c.source body <;> simp

/-- **A fetch brings the elements of the array** in the envelope that is seen of the body, or fails. -/
theorem fetch_eq_ok_iff_encloses (hurl : c.url? f = .some url) (hanswer : network url = .answered a)
    (hsuccess : Status.isSuccess a.status = true) (hbody : a.content? = .some body) {records : List Json} :
    (c.fetch network f).answer = .ok records ↔
      ∃ v es, (view c.source).ofBytes? body = .some v ∧ Encloses c.source v es ∧
        es.map (recordOf c.source) = records := by
  rw [fetch_eq_ok_iff hurl hanswer hsuccess hbody, Envelope.decode, Option.bind_eq_some_iff]
  simp only [records?_eq_some_iff, exists_and_left]

end

end MarketClient

/-! ## Records one by one -/

open Envelope MarketClient

/-- **Every record is taken by itself, and none is lost.** A fetch that brings records gives a batch of the
products that the mapper makes of them for the source, in order, and counts the others; a record more
or another one in its place changes nothing of the rest. The records of a marketplace that answers with
success are those of the elements in its envelope, one for each. -/
theorem records_one_by_one :
    (∀ {ρ : Type} (b : Binding ρ) (r : ρ) (p : Product),
      b.image? r = .some p ↔ b.map r = .ok p ∧ p.source = b.source) ∧
    (∀ {ρ : Type} (b : Binding ρ) (turn : Nat) (f : Filter) (records : List ρ),
      (b.fetch turn f).answer = .ok records →
        (b.adapter.fetch turn f).answer = .ok (b.batch records) ∧
        (b.batch records).products = records.filterMap b.image? ∧
        (b.batch records).dropped = (records.countP fun r => (b.image? r).isNone) ∧
        (b.batch records).received = records.length) ∧
    (∀ {ρ : Type} (b : Binding ρ) (rs₁ : List ρ) (r : ρ) (rs₂ : List ρ),
      b.batch (rs₁ ++ r :: rs₂) =
        (b.batch (rs₁ ++ rs₂)).insert (b.batch rs₁).products.length (b.image? r) ∧
      (b.batch (rs₁ ++ r :: rs₂)).products =
        (b.batch rs₁).products ++ (b.image? r).toList ++ (b.batch rs₂).products) ∧
    (∀ (c : MarketClient) (network : Network) (f : Filter) (url : Url) (a : ServerAnswer) (body : Bytes),
      c.url? f = .some url → network url = .answered a → Status.isSuccess a.status = true →
      a.content? = .some body → ∀ records,
        (c.fetch network f).answer = .ok records ↔
          ∃ v es, (view c.source).ofBytes? body = .some v ∧ Encloses c.source v es ∧
            es.map (recordOf c.source) = records) := by
  refine ⟨fun b r p => b.image?_eq_some_iff, fun b turn f records h => ?_, fun b rs₁ r rs₂ => ?_, ?_⟩
  · exact ⟨b.answer_adapter h, b.products_batch records, b.dropped_batch records, b.received_batch records⟩
  · exact ⟨b.batch_append_cons rs₁ r rs₂, b.products_batch_append_cons rs₁ r rs₂⟩
  · intro c network f url a body hurl hanswer hsuccess hbody records
    exact fetch_eq_ok_iff_encloses hurl hanswer hsuccess hbody

theorem isPlain_items : "items".toList.all Grammar.isPlain = true := by decide

theorem isPlain_item_basic : "item_basic".toList.all Grammar.isPlain = true := by decide

/-- The array `[{"item_basic":{"id":1}},{"id":1}]`. -/
def wrappedAndBare : Grammar.Document :=
  .tight (listing [.tight (naming "item_basic" isPlain_item_basic (.tight oneId)), .tight oneId])

/-- The object with the array under `items`, and `"paging":1e400`. -/
def pagedItems : Grammar.Document :=
  .tight (Grammar.gathering [(.tight (Grammar.plainly "items" isPlain_items), wrappedAndBare), paging])

/-- Of two items one is wrapped, and the other is null, whatever stands beside them; of two products one is of
another source, and is dropped. -/
theorem records_of_wrapped_and_bare :
    ((⟨.shopee, "http://localhost:8082", 5000⟩ : MarketClient).fetch (.answering pagedItems.text)
      ⟨"iphone", .ascending⟩).answer = .ok [.obj [("id", .int 1)], .null] ∧
    ((Binding.sending .tiki 0 [.draft "a" "A" .tiki, .draft "b" "B" .lazada]).adapter.fetch 0
      ⟨"iphone", .ascending⟩).answer = .ok ⟨[.draft "a" "A" .tiki], 1⟩ := by
  obtain ⟨-, hbatch, -, hfetch⟩ := records_one_by_one
  have hvalue : (view .shopee).ofBytes? (Utf8.ofText pagedItems.text) =
      .some (.obj [("items", .arr [.obj [("item_basic", .obj [("id", .int 1)])], .obj [("id", .int 1)]])]) := by
    rw [Utf8.ofText, Grammar.Document.text, String.toList_ofList, pagedItems, Grammar.chars_tight]
    refine (Json.View.ofBytes?_gathering (Grammar.string?_plainly "paging" (by decide)) (by decide)
      [(.tight (Grammar.plainly "items" isPlain_items), wrappedAndBare)] []).trans ?_
    have hread := Grammar.ofChars?_chars (.tight (naming "items" isPlain_items wrappedAndBare))
    rw [Grammar.chars_tight] at hread
    exact Json.View.ofBytes?_record hread (by simp)
  constructor
  · obtain ⟨url, hurl⟩ : ∃ url, (⟨.shopee, "http://localhost:8082", 5000⟩ : MarketClient).url?
        ⟨"iphone", .ascending⟩ = .some url := ⟨_, rfl⟩
    refine (hfetch _ _ _ url _ _ hurl rfl rfl rfl _).mpr ⟨_, _, hvalue, .items ⟨_, .named rfl, .array _⟩, ?_⟩
    rfl
  · exact (hbatch (Binding.sending .tiki 0 _) 0 _ _ rfl).1

end MarketSearch
