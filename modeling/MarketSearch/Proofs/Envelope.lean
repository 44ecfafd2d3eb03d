/-
What becomes of the records in the envelope of a marketplace.

An envelope around texts of the grammar is a text of the grammar itself
(`chars_wrap`), and the array in it is read as one value, before the records are
looked at one by one.  So each record comes out as what its text is by itself, or none does
(`decode_around`): one that nests too deep within the envelope, that has a
number out of range or half a pair of surrogates takes its whole source with it
(`MarketClient.fetch_around`).  What stands beside the array has to be a text of the
grammar, and what it is worth plays no part (`decode_insert`).
-/
import MarketSearch.Client.Marketplace
import MarketSearch.Proofs.View

namespace MarketSearch

/-- An object with the one field of a layout is read by that field. -/
theorem Json.Layout.decodeOnce_single {σ : Type} {l : Json.Layout σ} {f : Field Json Json.Mismatch σ}
    {name : String} (h : l.fields = [f]) (hname : f.name = name) (start : σ) (v : Json) :
    l.decodeOnce start (.obj [(name, v)]) = f.set v start := by
  subst hname
  have hrepeated : l.repeated? [(f.name, v)] = .none := by simp [repeated?, h]
  have hfind : l.find? f.name = .some f := by simp [MarketSearch.Layout.find?, h]
  simp only [decodeOnce, hrepeated, decode, MarketSearch.Layout.setAll, List.foldlM_cons, List.foldlM_nil,
    MarketSearch.Layout.setNamed, hfind]
  cases f.set v start <;> rfl

namespace Envelope

open Grammar

/-! ## Records -/

theorem list_record (vs : List Json) : Json.list record (.arr vs) = .ok (vs.map Json.canonical) := by
  change vs.mapM record = _
  induction vs with
  | nil => rfl
  | cons v vs ih =>
    rw [List.mapM_cons, ih]
    rfl

/-- A layout of which the one field holds the items. -/
theorem decodeOnce_items {l : Json.Layout Items} {f : Field Json Json.Mismatch Items} {name : String}
    (h : l.fields = [f]) (hname : f.name = name)
    (hset : ∀ v r, f.set v r = (Json.optional (Json.list record) v).map fun vs => vs) (vs : List Json) :
    l.decodeOnce .none (.obj [(name, .arr vs)]) = .ok (.some (vs.map Json.canonical)) := by
  rw [Json.Layout.decodeOnce_single h hname, hset]
  change ((Json.list record (.arr vs)).map Option.some).map _ = _
  rw [list_record]
  rfl

/-- What an envelope holds. -/
def whole : Source → List Json → Json
  | .tiki, vs => .obj [("data", .arr vs)]
  | .shopee, vs => .obj [("items", .arr (vs.map fun v => .obj [("item_basic", v)]))]
  | .lazada, vs => .obj [("mods", .obj [("listItems", .arr vs)])]

/-- The records in an envelope are the values in it, with their objects in order. -/
theorem records?_whole (s : Source) (vs : List Json) :
    records? s (whole s vs) = .some (vs.map Json.canonical) := by
  cases s with
  | tiki =>
    have hitems := @decodeOnce_items tiki _ "data" rfl rfl (fun _ _ => rfl) vs
    simp [records?, layout, whole, hitems, unwrap, Except.toOption]
  | shopee =>
    have hitems := @decodeOnce_items shopee _ "items" rfl rfl (fun _ _ => rfl)
    simp [records?, layout, whole, hitems, unwrap, Except.toOption, Json.canonical, Json.canonicalFields,
      Json.sortFields, Json.setField, Json.get?]
  | lazada =>
    have hitems := @decodeOnce_items lazadaMods _ "listItems" rfl rfl (fun _ _ => rfl) vs
    have hmods : lazada.decodeOnce .none (.obj [("mods", .obj [("listItems", .arr vs)])]) =
        ((lazadaMods.decodeOnce .none (.obj [("listItems", .arr vs)])).map Option.some).map Option.join :=
      @Json.Layout.decodeOnce_single _ lazada _ "mods" rfl rfl .none _
    rw [hitems] at hmods
    simp [records?, layout, whole, hmods, unwrap, Except.toOption, Except.map]

/-! ## Texts -/

/-- The text of an envelope around the texts of records. -/
def around : Source → List String → String
  | .tiki, rs => "\x7b\"data\":[" ++ ",".intercalate rs ++ "]\x7d"
  | .shopee, rs =>
    "\x7b\"items\":[" ++ ",".intercalate (rs.map fun r => "\x7b\"item_basic\":" ++ r ++ "\x7d") ++ "]\x7d"
  | .lazada, rs => "\x7b\"mods\":\x7b\"listItems\":[" ++ ",".intercalate rs ++ "]\x7d\x7d"

/-- The array of some texts. -/
def listing : List Document → Value
  | [] => .emptyArray .none
  | d :: ds => .array d ds

/-- The object with one field. -/
def naming (name : String) (h : name.toList.all isPlain = true) (d : Document) : Value :=
  gathering [(.tight (plainly name h), d)]

/-- The envelope around texts of the grammar. -/
def wrap : Source → List Document → Value
  | .tiki, ds => naming "data" (by decide) (.tight (listing ds))
  | .shopee, ds =>
    naming "items" (by decide) (.tight (listing (ds.map fun d => .tight (naming "item_basic" (by decide) d))))
  | .lazada, ds =>
    naming "mods" (by decide) (.tight (naming "listItems" (by decide) (.tight (listing ds))))

theorem intercalate_cons (mark : Char) (cs : List Char) (css : List (List Char)) :
    List.intercalate [mark] (cs :: css) = cs ++ css.flatMap (mark :: ·) := by
  induction css generalizing cs with
  | nil => simp [List.intercalate]
  | cons ds dss ih =>
    have := ih ds
    simp_all [List.intercalate]

theorem itemsChars_eq (ds : List Document) :
    Value.itemsChars ds = (ds.map Document.chars).flatMap (',' :: ·) ++ [']'] := by
  induction ds with
  | nil => simp [Value.itemsChars]
  | cons d ds ih => simp [Value.itemsChars, Document.chars, ih]

theorem chars_listing (ds : List Document) :
    (listing ds).chars = '[' :: (List.intercalate [','] (ds.map Document.chars) ++ [']']) := by
  cases ds with
  | nil => simp [listing, Value.chars, Space.none]
  | cons d ds =>
    rw [List.map_cons, intercalate_cons]
    simp [listing, Value.chars, itemsChars_eq, Document.chars]

theorem chars_naming (name : String) (h : name.toList.all isPlain = true) (d : Document) :
    (naming name h d).chars = '\x7b' :: '"' :: (name.toList ++ '"' :: ':' :: (d.chars ++ ['\x7d'])) := by
  simp [naming, gathering, Value.chars, Value.membersChars, nameChars, quoted, Padded.tight, plainly, chars_pmap_plain (List.all_eq_true.mp h),
    Space.none, Document.chars]

theorem toList_listed (opening closing : String) (rs : List String) :
    (opening ++ ",".intercalate rs ++ closing).toList =
      opening.toList ++ (List.intercalate [','] (rs.map String.toList) ++ closing.toList) := by
  simp [String.toList_intercalate]

/-- The envelope is a text of the grammar. -/
theorem chars_wrap (s : Source) (ds : List Document) :
    (wrap s ds).chars = (around s (ds.map Document.text)).toList := by
  have htexts : (ds.map Document.text).map String.toList = ds.map Document.chars := by simp [Document.text]
  cases s with
  | tiki =>
    unfold wrap around
    rewrite [toList_listed, htexts, chars_naming, chars_tight, chars_listing]
    simp
  | shopee =>
    have hitem : ∀ d : Document, (naming "item_basic" (by decide) d).chars =
        ("\x7b\"item_basic\":" ++ d.text ++ "\x7d").toList := by
      intro d
      rewrite [chars_naming]
      simp [Document.text]
    have hitems : (ds.map fun d => .tight (naming "item_basic" (by decide) d)).map Document.chars =
        ((ds.map Document.text).map fun r => "\x7b\"item_basic\":" ++ r ++ "\x7d").map String.toList := by
      simp only [List.map_map]
      exact List.map_congr_left fun d _ => (chars_tight _).trans (hitem d)
    unfold wrap around
    rewrite [toList_listed, ← hitems, chars_naming, chars_tight, chars_listing]
    simp
  | lazada =>
    unfold wrap around
    rewrite [toList_listed, htexts, chars_naming, chars_tight, chars_naming, chars_tight, chars_listing]
    simp

/-- The levels of nesting around the records. -/
def levels : Source → Nat
  | .tiki => 2
  | .shopee | .lazada => 3

theorem json?_listing (depth : Nat) (ds : List Document) :
    (listing ds).json? (depth + 1) = (ds.mapM fun d : Document => d.inner.json? depth).map .arr := by
  cases ds <;> rfl

theorem json?_naming (name : String) (h : name.toList.all isPlain = true) (d : Document) (depth : Nat) :
    (naming name h d).json? (depth + 1) = (d.inner.json? depth).map fun v => .obj [(name, v)] := by
  simp only [naming, gathering, Value.json?, mapM_cons_eq, Value.member?, Padded.tight, string?_plainly]
  cases d.inner.json? depth <;> simp

/-- An envelope is worth what is around the values of the records. -/
theorem json?_wrap (s : Source) (ds : List Document) (depth : Nat) :
    (wrap s ds).json? (depth + levels s) = (ds.mapM fun d : Document => d.inner.json? depth).map (whole s) := by
  cases s with
  | tiki =>
    simp only [wrap, levels, json?_naming, Padded.tight, json?_listing, Option.map_map]
    rfl
  | shopee =>
    simp only [wrap, levels, json?_naming, Padded.tight, json?_listing, Option.map_map, mapM_map_eq,
      mapM_map_right]
    rfl
  | lazada =>
    simp only [wrap, levels, json?_naming, Padded.tight, json?_listing, Option.map_map]
    rfl

/-- What is seen of an object with one field, if the field is known. -/
theorem see?_naming (name : String) (h : name.toList.all isPlain = true) (d : Document) (w : Json.View)
    (depth : Nat) : (Json.View.record [(name, w)]).see? (depth + 1) ((naming name h d).outline Utf8.encode) =
      (w.see? depth (d.inner.outline Utf8.encode)).map fun v => .obj [(name, v)] := by
  have hname : Json.Outline.name? (Utf8.encode (quoted (plainly name h))) = .some name := by
    rw [name?_encode, string?_plainly]
  rw [naming, outline_gathering, Json.View.see?, List.map_singleton, mapM_cons_eq]
  simp only [Padded.tight, Json.View.field?, hname, Option.bind_some, List.lookup_cons_self]
  cases w.see? depth (d.inner.outline Utf8.encode) <;> simp

/-- Of an envelope everything is looked at. -/
theorem see?_wrap (s : Source) (ds : List Document) (depth : Nat) :
    (view s).see? (depth + levels s) ((wrap s ds).outline Utf8.encode) = (wrap s ds).json? (depth + levels s) := by
  cases s with
  | tiki | shopee => simp only [view, wrap, levels, see?_naming, Json.View.see?_whole, json?_outline, json?_naming]
  | lazada =>
    simp only [view, wrap, levels, Padded.tight, see?_naming, Json.View.see?_whole, json?_outline, json?_naming]

/-- The levels that are left to a record inside an envelope. -/
def room (s : Source) : Nat := Json.maxDepth - levels s

/-- The record nests within the levels left to it, its numbers are in range, and its surrogates come in
pairs. -/
def Fits (s : Source) (d : Document) : Prop := d.inner.NestsWithin (room s) ∧ d.inner.IsReadable

/-- What an envelope around texts of the grammar is worth: the values of all of them, or nothing. -/
theorem decode_around (s : Source) (ds : List Document) :
    decode s (Utf8.ofText (around s (ds.map Document.text))) =
      (ds.mapM fun d : Document => d.inner.json? (room s)).map (List.map Json.canonical) := by
  have hdepth : Json.maxDepth = room s + levels s := by cases s <;> rfl
  rw [decode, Json.View.ofBytes?, Utf8.ofText, ← chars_wrap, ofBytes?_encode_value, Option.bind_some, hdepth,
    see?_wrap, json?_wrap]
  cases ds.mapM fun d : Document => d.inner.json? (room s) with
  | none => rfl
  | some vs => exact records?_whole s vs

/-- **What an envelope has besides its records is not looked at**, whatever it is worth. -/
theorem decode_insert {s : Source} {known : List (String × Json.View)} (hview : view s = .record known)
    {m : Member} {name : String} (hname : string? m.1.inner = .some name) (hunknown : known.lookup name = .none)
    (front back : List Member) :
    decode s (Utf8.encode (gathering (front ++ m :: back)).chars) =
      decode s (Utf8.encode (gathering (front ++ back)).chars) := by
  rw [decode, decode, hview, Json.View.ofBytes?_gathering hname hunknown]

/-- A field that is not known, with a number out of range. -/
def paging : Member := (.tight (plainly "paging" (by decide)), .tight (.number .endless))

/-- The object `{"data":[],"paging":1e400}`. -/
def endlessPaging : Value := gathering [(.tight (plainly "data" (by decide)), .tight (listing [])), paging]

theorem decode_endlessPaging :
    decode .tiki (Utf8.ofText "\x7b\"data\":[],\"paging\":1e400\x7d") = .some [] := by
  have htext : String.ofList endlessPaging.chars = "\x7b\"data\":[],\"paging\":1e400\x7d" := by decide +kernel
  have hempty : (wrap .tiki []).chars = (around .tiki []).toList := chars_wrap .tiki []
  rw [← htext, Utf8.ofText, String.toList_ofList]
  refine (decode_insert rfl (string?_plainly "paging" (by decide)) (by decide)
    [(.tight (plainly "data" (by decide)), .tight (listing []))] []).trans ?_
  exact (congrArg (decode .tiki) (congrArg Utf8.encode hempty)).trans (decode_around .tiki [])

/-- Records that fit are what their texts are by themselves. -/
theorem decode_of_fits {s : Source} {ds : List Document} (h : ∀ d ∈ ds, Fits s d) :
    ∃ records, decode s (Utf8.ofText (around s (ds.map Document.text))) = .some records ∧
      List.Forall₂ (fun (d : Document) r => Json.parse? d.text = .some r) ds records := by
  have hsome : (ds.mapM fun d : Document => d.inner.json? (room s)).isSome = true :=
    isSome_mapM_iff.mpr fun d hd => Value.isSome_json?_iff.mpr (h d hd)
  obtain ⟨vs, hvs⟩ := Option.isSome_iff_exists.mp hsome
  refine ⟨vs.map Json.canonical, by rw [decode_around, hvs]; rfl, ?_⟩
  refine List.forall₂_map_right_iff.mpr ((mapM_eq_some_iff.mp hvs).imp fun d v hv => ?_)
  rw [parse?_text, Value.json?_of_le (Nat.sub_le _ _) hv]
  rfl

/-- One record that does not fit is enough for there to be none. -/
theorem decode_of_not_fits {s : Source} {ds : List Document} {d : Document} (hd : d ∈ ds) (h : ¬ Fits s d) :
    decode s (Utf8.ofText (around s (ds.map Document.text))) = .none := by
  rw [decode_around, Option.map_eq_none_iff, ← Option.not_isSome_iff_eq_none]
  exact fun hsome => h (Value.isSome_json?_iff.mp (isSome_mapM_iff.mp hsome d hd))

end Envelope

/-! ## Fetches -/

/-- A network of which every server answers with a text. -/
def Network.answering (text : String) : Network := fun _ =>
  .answered ⟨200, .some "application/json", Utf8.ofText text, .whole⟩

namespace MarketClient

open Grammar Envelope

variable {c : MarketClient} {network : Network} {f : Filter} {url : Url} {contentType : Option String}

/-- A client asks for an address, or has none. -/
theorem answer_fetch (c : MarketClient) (network : Network) (f : Filter) : (c.fetch network f).answer =
    match c.url? f with
    | .some url => c.caller.outcome url (Envelope.decode c.source) (network url)
    | .none => .error (.unavailable c.source "HTTP request failed: builder error") := by
  unfold fetch fetchVia Caller.getVia
  cases c.url? f <;> rfl

/-- What a fetch brings when the answer is a success with a whole body. -/
theorem fetch_answered (hurl : c.url? f = .some url) {body : Bytes}
    (hanswer : network url = .answered ⟨200, contentType, body, .whole⟩) :
    ∃ reason, (c.fetch network f).answer =
      match Envelope.decode c.source body with
      | .some records => .ok records
      | .none => .error (.unavailable c.source ("Failed to parse response: " ++ reason)) := by
  refine ⟨"error decoding response body" ++ Caller.forUrl url, ?_⟩
  simp only [answer_fetch, hurl, hanswer]
  change c.caller.content url (Envelope.decode c.source) ⟨200, contentType, body, .whole⟩ = _
  have hbody : (⟨200, contentType, body, .whole⟩ : ServerAnswer).content?.bind (Envelope.decode c.source) =
      Envelope.decode c.source body := rfl
  rw [Caller.content, if_neg (by simp [ServerAnswer.stalls]), hbody]
  cases Envelope.decode c.source body <;> rfl

/-- **A record that does not fit takes its whole source with it**, and only that does. -/
theorem fetch_around {ds : List Document} (hurl : c.url? f = .some url)
    (hanswer : network url =
      .answered ⟨200, contentType, Utf8.ofText (around c.source (ds.map Document.text)), .whole⟩) :
    ((∀ d ∈ ds, Fits c.source d) → ∃ records, (c.fetch network f).answer = .ok records ∧
      List.Forall₂ (fun (d : Document) r => Json.parse? d.text = .some r) ds records) ∧
    ((∃ d ∈ ds, ¬ Fits c.source d) → ∃ reason, (c.fetch network f).answer =
      .error (.unavailable c.source ("Failed to parse response: " ++ reason))) := by
  obtain ⟨reason, hfetch⟩ := fetch_answered hurl hanswer
  rw [hfetch]
  constructor
  · intro hfits
    obtain ⟨records, hdecode, hrecords⟩ := decode_of_fits hfits
    exact ⟨records, by rw [hdecode], hrecords⟩
  · intro h
    obtain ⟨d, hd, hfits⟩ := h
    exact ⟨reason, by rw [decode_of_not_fits hd hfits]⟩

/-- A client of Tiki. -/
def nearby : MarketClient := ⟨.tiki, "http://localhost:8081", 5000⟩

theorem url?_nearby : ∃ url, nearby.url? ⟨"iphone", .ascending⟩ = .some url := ⟨_, rfl⟩

/-- The object `{"id":1}`. -/
def oneId : Value :=
  naming "id" (by decide) (.tight (.number .one))

/-- What has another shape is a record like any other. -/
theorem fetch_null_and_object :
    ∃ records, (nearby.fetch (.answering (around .tiki ["null", "\x7b\"id\":1\x7d"]))
        ⟨"iphone", .ascending⟩).answer = .ok records ∧
      List.Forall₂ (fun t r => Json.parse? t = .some r) ["null", "\x7b\"id\":1\x7d"] records := by
  obtain ⟨url, hurl⟩ := url?_nearby
  have htexts : ([.tight .null, .tight oneId] : List Document).map Document.text =
      ["null", "\x7b\"id\":1\x7d"] := by decide +kernel
  have hfits : ∀ d ∈ ([.tight .null, .tight oneId] : List Document), Fits .tiki d := by
    intro d hd
    refine Value.isSome_json?_iff.mp ?_
    revert d
    decide +kernel
  have hanswer : Network.answering (around .tiki ["null", "\x7b\"id\":1\x7d"]) url =
      .answered ⟨200, .some "application/json", Utf8.ofText (around nearby.source
        (([.tight .null, .tight oneId] : List Document).map Document.text)), .whole⟩ := by
    rw [htexts]
    rfl
  obtain ⟨records, hanswer, hrecords⟩ := (fetch_around hurl hanswer).1 hfits
  refine ⟨records, hanswer, ?_⟩
  rw [← htexts]
  exact List.forall₂_map_left_iff.mpr hrecords

/-- Arrays in one another, `n` of them inside the outermost one. -/
def nested : Nat → Value
  | 0 => .emptyArray .none
  | n + 1 => .array (.tight (nested n)) []

theorem nestsWithin_nested {n depth : Nat} : (nested n).NestsWithin depth ↔ n < depth := by
  induction n generalizing depth with
  | zero => cases depth <;> simp [nested, Value.NestsWithin, Value.isNest, Value.children]
  | succ n ih => cases depth <;> simp [nested, Value.NestsWithin, Value.isNest, Value.children, Padded.tight, ih]

theorem isReadable_nested (n : Nat) : (nested n).IsReadable := by
  induction n with
  | zero => exact .of trivial (by simp [nested, Value.children])
  | succ n ih => exact .of trivial (by simpa [nested, Value.children, Padded.tight] using ih)

theorem chars_nested (n : Nat) :
    (nested n).chars = List.replicate (n + 1) '[' ++ List.replicate (n + 1) ']' := by
  induction n with
  | zero => rfl
  | succ n ih =>
    simp only [nested, Value.chars, Value.itemsChars, Padded.tight, Space.none, List.nil_append, ih]
    have hopening : List.replicate (n + 2) '[' = '[' :: List.replicate (n + 1) '[' := List.replicate_succ
    have hclosing : List.replicate (n + 2) ']' = List.replicate (n + 1) ']' ++ [']'] := List.replicate_succ'
    rw [hopening, hclosing]
    simp only [List.cons_append, List.append_assoc]

/-- Arrays in one another, 126 in all. -/
def deepText : String := String.ofList (List.replicate 126 '[' ++ List.replicate 126 ']')

/-- Arrays 126 deep are read by themselves, and fail their source in the envelope of Tiki, which is two
levels more. -/
theorem fetch_deep_record :
    (Json.parse? deepText).isSome = true ∧
    ∃ reason, (nearby.fetch (.answering (around .tiki [deepText])) ⟨"iphone", .ascending⟩).answer =
      .error (.unavailable .tiki ("Failed to parse response: " ++ reason)) := by
  have htext : Document.text (.tight (nested 125)) = deepText := by
    unfold deepText
    rw [Document.text, chars_tight, chars_nested]
  obtain ⟨url, hurl⟩ := url?_nearby
  refine ⟨?_, ?_⟩
  · rw [← htext, parse?_text, Option.isSome_map]
    exact Value.isSome_json?_iff.mpr ⟨nestsWithin_nested.mpr (by decide), isReadable_nested _⟩
  · have hdecode := @decode_of_not_fits .tiki [.tight (nested 125)] _ List.mem_cons_self
      fun h => absurd (nestsWithin_nested.mp h.1) (by decide)
    rw [List.map_singleton, htext] at hdecode
    obtain ⟨reason, hfetch⟩ := @fetch_answered nearby (.answering (around .tiki [deepText])) _ _ _ hurl _ rfl
    exact ⟨reason, by rw [hfetch, show Envelope.decode nearby.source _ = _ from hdecode]; rfl⟩

end MarketClient
end MarketSearch
