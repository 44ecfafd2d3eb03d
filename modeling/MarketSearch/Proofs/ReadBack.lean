/-
Settings and filters that are written as data and read again.

A record is written as an object of all its fields, each read by what undoes its
writer (`Json.Restores`), and set in whatever order the fields come
(`Layout.Commutes.setAll_perm`).  So a record is read back from the object as it
was written, and as it is looked at as a value, which sorts the fields; whether
fields given twice are refused makes no difference (`Settings.restored`,
`Filter.restored`).
-/
import MarketSearch.Filter
import MarketSearch.Settings.Fields
import MarketSearch.Proofs.Canonical
import MarketSearch.Proofs.Writing

namespace MarketSearch

/-! ## Fields in any order -/

section

variable {ν ε σ α β : Type}

/-- What one field and then another set, they set the other way round as well. -/
def Field.Commutes (f f' : Field ν ε σ) : Prop :=
  ∀ v v' r r₁ r₂, f.set v r = .ok r₁ → f'.set v' r₁ = .ok r₂ →
    ∃ r₁', f'.set v' r = .ok r₁' ∧ f.set v r₁' = .ok r₂

theorem commutes_field {name name' : String} {read : ν → Except ε α} {read' : ν → Except ε β}
    {put : σ → α → σ} {put' : σ → β → σ} (h : ∀ r a b, put (put' r b) a = put' (put r a) b) :
    (field name read put).Commutes (field name' read' put') := by
  intro v v' r r₁ r₂ hf hf'
  obtain ⟨a, ha, rfl⟩ := set_field_eq_ok_iff.mp hf
  obtain ⟨b, hb, rfl⟩ := set_field_eq_ok_iff.mp hf'
  exact ⟨put' r b, set_field_eq_ok_iff.mpr ⟨b, hb, rfl⟩, set_field_eq_ok_iff.mpr ⟨a, ha, h r a b⟩⟩

@[simp] theorem commutes_trailingField_left {name : String} {read : ν → Except ε α} {put : σ → α → σ}
    {f : Field ν ε σ} : (trailingField name read put).Commutes f ↔ (field name read put).Commutes f := Iff.rfl

@[simp] theorem commutes_trailingField_right {name : String} {read : ν → Except ε α} {put : σ → α → σ}
    {f : Field ν ε σ} : f.Commutes (trailingField name read put) ↔ f.Commutes (field name read put) := Iff.rfl

namespace Layout

variable {l : Layout ν ε σ} {start r r₁ r₂ : σ}

/-- Fields of different names may be set in either order. -/
def Commutes (l : Layout ν ε σ) : Prop :=
  ∀ f ∈ l.fields, ∀ f' ∈ l.fields, f.name ≠ f'.name → f.Commutes f'

theorem Commutes.setNamed (hl : l.Commutes) {x y : String × ν} (hne : x.1 ≠ y.1)
    (hx : l.setNamed r x = .ok r₁) (hy : l.setNamed r₁ y = .ok r₂) :
    ∃ r₁', l.setNamed r y = .ok r₁' ∧ l.setNamed r₁' x = .ok r₂ := by
  unfold Layout.setNamed at hx hy ⊢
  cases hf : l.find? x.1 with
  | none =>
    rw [hf] at hx
    cases hx
    exact ⟨r₂, hy, rfl⟩
  | some f =>
    rw [hf] at hx
    cases hf' : l.find? y.1 with
    | none =>
      rw [hf'] at hy
      cases hy
      exact ⟨r, rfl, hx⟩
    | some f' =>
      rw [hf'] at hy
      have hname : f.name = x.1 := by simpa using List.find?_some hf
      have hname' : f'.name = y.1 := by simpa using List.find?_some hf'
      exact hl f (List.mem_of_find?_eq_some hf) f' (List.mem_of_find?_eq_some hf') (by rwa [hname, hname'])
        _ _ _ _ _ hx hy

/-- **Fields that commute are set in any order**, if none is given twice. -/
theorem Commutes.setAll_perm (hl : l.Commutes) {fields fields' : List (String × ν)}
    (hperm : fields.Perm fields') (hnodup : (fields.map Prod.fst).Nodup) (h : l.setAll start fields = .ok r) :
    l.setAll start fields' = .ok r := by
  induction hperm generalizing start with
  | nil => exact h
  | cons x _ ih =>
    obtain ⟨r', hx, h⟩ := setAll_cons_eq_ok_iff.mp h
    exact setAll_cons_eq_ok_iff.mpr ⟨r', hx, ih (List.nodup_cons.mp hnodup).2 h⟩
  | swap x y fields =>
    obtain ⟨r₁, hy, h⟩ := setAll_cons_eq_ok_iff.mp h
    obtain ⟨r₂, hx, h⟩ := setAll_cons_eq_ok_iff.mp h
    have hne : y.1 ≠ x.1 := fun hname => (List.nodup_cons.mp hnodup).1 (by simp [hname])
    obtain ⟨r₁', hx', hy'⟩ := hl.setNamed hne hy hx
    exact setAll_cons_eq_ok_iff.mpr ⟨r₁', hx', setAll_cons_eq_ok_iff.mpr ⟨r₂, hy', h⟩⟩
  | trans hperm _ ih ih' => exact ih' ((hperm.map Prod.fst).nodup_iff.mp hnodup) (ih hnodup h)

end Layout

end

namespace Json

/-! ## Arranged values -/

/-- The fields of objects come in another order perhaps, and nothing else is changed. -/
structure Arranges (g : Json → Json) : Prop where
  null : g .null = .null
  bool : ∀ b, g (.bool b) = .bool b
  int : ∀ n, g (.int n) = .int n
  str : ∀ s, g (.str s) = .str s
  obj : ∀ {fields : List (String × Json)}, (fields.map Prod.fst).Nodup →
    ∃ fields', g (.obj fields) = .obj fields' ∧ fields'.Perm (fields.map fun f => (f.1, g f.2))

theorem arranges_id : Arranges id where
  null := rfl
  bool _ := rfl
  int _ := rfl
  str _ := rfl
  obj _ := ⟨_, rfl, by simp⟩

theorem arranges_canonical : Arranges canonical where
  null := by simp [canonical]
  bool _ := by simp [canonical]
  int _ := by simp [canonical]
  str _ := by simp [canonical]
  obj := canonical_obj

/-- How data is read, where a record that gives a known field twice is refused or not. -/
def readingBy (once : Bool) : Reading Json Mismatch :=
  { reading with record := fun l start => cond once (Layout.decodeOnce l start) (Layout.decode l start) }

/-- What a writer makes of a value is read as the value, however it is arranged. -/
def Restores {α : Type} (g : Json → Json) (read : Decoder α) (write : α → Json) : Prop :=
  ∀ a, read (g (write a)) = .ok a

section

variable {g : Json → Json} {once : Bool}

theorem restores_text (hg : Arranges g) : Restores g (readingBy once).text .str := by
  intro s
  rw [hg.str]
  rfl

theorem restores_flag (hg : Arranges g) : Restores g (readingBy once).flag .bool := by
  intro b
  rw [hg.bool]
  rfl

theorem restores_count16 (hg : Arranges g) : Restores g (readingBy once).count16 fun n => .int n.toNat := by
  intro n
  rw [hg.int]
  exact map_eq_ok_iff.mpr ⟨n.toNat, unsigned_eq_ok_iff.mpr ⟨rfl, n.toNat_lt⟩, UInt16.ofNat_toNat⟩

/-- Every count fits in its 64 bits, whatever messages call them. -/
theorem map_unsigned_toNat (name : String) (n : UInt64) :
    (unsigned name 64 (.int n.toNat)).map UInt64.ofNat = .ok n :=
  map_eq_ok_iff.mpr ⟨n.toNat, unsigned_eq_ok_iff.mpr ⟨rfl, n.toNat_lt⟩, UInt64.ofNat_toNat⟩

theorem restores_count64 (hg : Arranges g) : Restores g (readingBy once).count64 fun n => .int n.toNat := by
  intro n
  rw [hg.int]
  exact map_unsigned_toNat "u64" n

theorem restores_limit (hg : Arranges g) : Restores g ((readingBy once).optional (readingBy once).size)
    fun o => (o.map fun n => Json.int n.toNat).getD .null := by
  intro o
  cases o with
  | none =>
    change optional _ (g .null) = _
    rw [hg.null]
    rfl
  | some n =>
    change optional _ (g (.int n.toNat)) = _
    rw [hg.int]
    exact map_eq_ok_iff.mpr ⟨n, map_unsigned_toNat "usize" n, rfl⟩

/-- A name that stands for a value is read as the value. -/
theorem restores_choice (hg : Arranges g) {α : Type} {names : List (String × α)} {label : α → String}
    (h : ∀ a, names.lookup (label a) = .some a) : Restores g (choice names) fun a => .str (label a) := by
  intro a
  rw [hg.str]
  exact choice_eq_ok_iff.mpr ⟨label a, h a, .inl rfl⟩

/-! ## Records -/

section

variable {σ α : Type} {l : Layout σ} {start r : σ} {fields : List (String × Json)}

theorem record_of_nodup (hnodup : (fields.map Prod.fst).Nodup) (h : l.setAll start fields = .ok r) :
    (readingBy once).record l start (.obj fields) = .ok r := by
  cases once with
  | false => exact h
  | true =>
    exact Layout.decodeOnce_obj_eq_ok_iff.mpr ⟨fun f _ => MarketSearch.Layout.length_under_le hnodup f.name, h⟩

/-- A record is read from the object of its fields, whatever order they come in. -/
theorem record_of_setAll (hg : Arranges g) (hl : l.Commutes) (hnodup : (fields.map Prod.fst).Nodup)
    (h : l.setAll start (fields.map fun f => (f.1, g f.2)) = .ok r) :
    (readingBy once).record l start (g (.obj fields)) = .ok r := by
  obtain ⟨fields', hobj, hperm⟩ := hg.obj hnodup
  have hnames : ((fields.map fun f => (f.1, g f.2)).map Prod.fst).Nodup := by rwa [List.map_map]
  rw [hobj]
  exact record_of_nodup ((hperm.map Prod.fst).nodup_iff.mpr hnames) (hl.setAll_perm hperm.symm hnames h)

theorem setAll_of_field {name : String} {trailing : Bool} {read : Decoder α} {write : α → Json}
    {put : σ → α → σ} (hf : l.find? name = .some ⟨name, fun v r => (read v).map (put r), trailing⟩)
    (hread : Restores g read write) (a : α) (h : l.setAll (put start a) fields = .ok r) :
    l.setAll start ((name, g (write a)) :: fields) = .ok r := by
  refine MarketSearch.Layout.setAll_cons_eq_ok_iff.mpr ⟨put start a, ?_, h⟩
  rw [MarketSearch.Layout.setNamed, hf]
  exact map_eq_ok_iff.mpr ⟨a, hread a, rfl⟩

end

end

end Json

/-! ## Settings -/

open Json

theorem SortKey.lookup_labelled (k : SortKey) : labelled.lookup k.label = .some k := by cases k <;> decide

theorem LogFormat.lookup_labelled (f : LogFormat) : labelled.lookup f.label = .some f := by cases f <;> decide

section

variable {g : Json → Json} {once : Bool}

/-- A section gives all its fields, so it does not matter what the reading starts from. -/
theorem ServerSettings.restored (hg : Arranges g) (start : ServerSettings) :
    Restores g ((readingBy once).record (layout (readingBy once)) start) json := by
  intro s
  refine record_of_setAll hg (by simp [Layout.Commutes, layout, commutes_field]) (by simp) ?_
  exact setAll_of_field rfl (restores_text hg) _ <|
    setAll_of_field rfl (restores_count16 hg) _ <|
    setAll_of_field rfl (restores_count64 hg) _ rfl

theorem AuthSettings.restored (hg : Arranges g) (start : AuthSettings) :
    Restores g ((readingBy once).record (layout (readingBy once)) start) json := by
  intro s
  refine record_of_setAll hg (by simp [Layout.Commutes, layout, commutes_field]) (by simp) ?_
  exact setAll_of_field rfl (restores_text hg) _ <| setAll_of_field rfl (restores_text hg) _ rfl

theorem ResultSettings.restored (hg : Arranges g) (start : ResultSettings) :
    Restores g ((readingBy once).record (layout (readingBy once)) start) json := by
  intro s
  refine record_of_setAll hg (by simp [Layout.Commutes, layout, commutes_field]) (by simp) ?_
  exact setAll_of_field rfl (restores_count64 hg) _ <|
    setAll_of_field rfl (restores_choice hg SortKey.lookup_labelled) _ <|
    setAll_of_field rfl (restores_limit hg) _ rfl

theorem LoggingSettings.restored (hg : Arranges g) (start : LoggingSettings) :
    Restores g ((readingBy once).record (layout (readingBy once)) start) json := by
  intro s
  refine record_of_setAll hg (by simp [Layout.Commutes, layout, commutes_field]) (by simp) ?_
  exact setAll_of_field rfl (restores_text hg) _ <|
    setAll_of_field rfl (restores_choice hg LogFormat.lookup_labelled) _ rfl

/-- A marketplace is complete where it is written. -/
theorem SourceSettings.restored (hg : Arranges g) :
    Restores g (SourceSettings.read (readingBy once)) fun s => .obj s.fields := by
  intro s
  have hdraft : (readingBy once).record (layout (readingBy once)) ⟨.none, .none, .none⟩ (g (.obj s.fields)) =
      .ok ⟨.some s.enabled, .some s.baseUrl, .some s.timeout⟩ := by
    refine record_of_setAll hg (by simp [Layout.Commutes, layout, commutes_field]) (by simp [fields]) ?_
    exact setAll_of_field rfl (restores_flag hg) _ <| setAll_of_field rfl (restores_text hg) _ <|
      setAll_of_field rfl (restores_count64 hg) _ rfl
  rw [read, hdraft]
  rfl

theorem ShopeeSettings.restored (hg : Arranges g) (start : ShopeeSettings) :
    Restores g ((readingBy once).record (layout (readingBy once)) start)
      fun s => .obj (s.fields ++ [("image_base_url", .str s.imageBaseUrl)]) := by
  intro s
  refine record_of_setAll hg (by simp [Layout.Commutes, layout, commutes_field]) (by simp [SourceSettings.fields]) ?_
  exact setAll_of_field rfl (restores_flag hg) _ <| setAll_of_field rfl (restores_text hg) _ <|
    setAll_of_field rfl (restores_count64 hg) _ <| setAll_of_field rfl (restores_text hg) _ rfl

theorem SourcesSettings.restored (hg : Arranges g) (start : SourcesSettings) :
    Restores g ((readingBy once).record (layout (readingBy once)) start) json := by
  intro s
  refine record_of_setAll hg (by simp [Layout.Commutes, layout, commutes_field]) (by simp) ?_
  exact setAll_of_field rfl (SourceSettings.restored hg) _ <|
    setAll_of_field rfl (ShopeeSettings.restored hg _) _ <|
    setAll_of_field rfl (SourceSettings.restored hg) _ rfl

theorem Settings.restored (hg : Arranges g) : Restores g (read (readingBy once)) json := by
  intro s
  refine record_of_setAll hg (by simp [Layout.Commutes, layout, commutes_field]) (by simp) ?_
  exact setAll_of_field rfl (ServerSettings.restored hg _) _ <|
    setAll_of_field rfl (AuthSettings.restored hg _) _ <|
    setAll_of_field rfl (ResultSettings.restored hg _) _ <|
    setAll_of_field rfl (SourcesSettings.restored hg _) _ <|
    setAll_of_field rfl (LoggingSettings.restored hg _) _ rfl

/-! ## Filters -/

/-- Reads a filter in one of the ways that records are read. -/
def Filter.read (r : Reading Json Mismatch) : Json.Decoder Filter := fun v =>
  (r.record layout ⟨.none, .ascending⟩ v).bind fun p =>
    (r.require "query" p.query).map fun q => ⟨q, p.direction⟩

theorem SortDirection.lookup_label (d : SortDirection) :
    [("ASC", SortDirection.ascending), ("DESC", .descending)].lookup d.label = .some d := by
  cases d <;> decide

theorem Filter.restored (hg : Arranges g) : Restores g (read (readingBy once)) json := by
  intro f
  have hpartial : (readingBy once).record layout ⟨.none, .ascending⟩ (g f.json) =
      .ok ⟨.some f.query, f.direction⟩ := by
    refine record_of_setAll hg (by simp [Layout.Commutes, layout, commutes_field]) (by simp) ?_
    exact setAll_of_field rfl (@restores_text _ once hg) _ <|
      setAll_of_field rfl (restores_choice hg SortDirection.lookup_label) _ rfl
  rw [read, hpartial]
  rfl

end

/-! ## Texts -/

namespace Json

variable {α : Type} {read : Decoder α} {write : α → Json}

theorem IsExact.noFields {depth : Nat} : IsExact (depth + 1) (.obj []) := .obj (by simp)

theorem IsExact.field {depth : Nat} {v : Json} {fields : List (String × Json)} (name : String) (hv : v.IsExact depth)
    (h : IsExact (depth + 1) (.obj fields)) : IsExact (depth + 1) (.obj ((name, v) :: fields)) := by
  cases h with
  | obj h => exact .obj (List.forall_mem_cons.mpr ⟨hv, h⟩)

theorem isExact_count {n : Nat} (h : n < Nat.pow 2 64) (depth : Nat) : IsExact depth (.int n) := by
  have hlow : -(Nat.pow 2 63 : Int) ≤ 0 := by decide
  exact .int ⟨by omega, Int.ofNat_lt.mpr h⟩

/-- What is restored as it was written is read from its text. -/
theorem map_ofText?_text (hread : Restores id read write) {a : α} (ha : (write a).IsExact maxDepth) :
    (ofText? (write a).text).map read = .some (.ok a) := by
  rw [ofText?, text, String.toList_ofList, ofChars?_of_isExact ha]
  exact congrArg Option.some (hread a)

theorem map_parse?_text (hread : Restores canonical read write) {a : α} (ha : (write a).IsExact maxDepth) :
    (parse? (write a).text).map read = .some (.ok a) := by
  rw [parse?, ofText?, text, String.toList_ofList, ofChars?_of_isExact ha]
  exact congrArg Option.some (hread a)

end Json

theorem SourceSettings.isExact_fields (s : SourceSettings) {depth : Nat} {fields : List (String × Json)}
    (h : IsExact (depth + 1) (.obj fields)) : IsExact (depth + 1) (.obj (s.fields ++ fields)) :=
  .field _ (.bool _) <| .field _ (.str _) <| .field _ (isExact_count s.timeout.toNat_lt _) h

theorem ResultSettings.isExact_json (s : ResultSettings) (depth : Nat) : s.json.IsExact (depth + 1) := by
  refine .field _ (isExact_count s.perSourceTimeout.toNat_lt _) <| .field _ (.str _) <| .field _ ?_ .noFields
  cases s.maxProducts with
  | none => exact .null
  | some n => exact isExact_count n.toNat_lt _

theorem SourcesSettings.isExact_json (s : SourcesSettings) (depth : Nat) : s.json.IsExact (depth + 2) :=
  .field _ (s.tiki.isExact_fields .noFields) <|
  .field _ (s.shopee.isExact_fields (.field _ (.str _) .noFields)) <|
  .field _ (s.lazada.isExact_fields .noFields) .noFields

theorem ServerSettings.isExact_json (s : ServerSettings) (depth : Nat) : s.json.IsExact (depth + 1) := by
  have hport : s.port.toNat < Nat.pow 2 64 := Nat.lt_trans s.port.toNat_lt (by decide)
  exact .field _ (.str _) <| .field _ (isExact_count hport _) <|
    .field _ (isExact_count s.requestTimeout.toNat_lt _) .noFields

theorem Settings.isExact_json (s : Settings) : s.json.IsExact maxDepth :=
  .field _ (s.server.isExact_json _) <|
  .field _ (.field _ (.str _) <| .field _ (.str _) .noFields) <|
  .field _ (s.results.isExact_json _) <|
  .field _ (s.sources.isExact_json _) <|
  .field _ (.field _ (.str _) <| .field _ (.str _) .noFields) .noFields

theorem Filter.isExact_json (f : Filter) : f.json.IsExact maxDepth :=
  .field _ (.str _) <| .field _ (.str _) .noFields

/-- **Settings and filters come back as they were**, whatever they are: from what is written of them as it
is looked at, and as it is read, with fields given twice refused. -/
theorem settings_and_filters_come_back :
    (∀ s : Settings,
      (parse? s.json.text).map Settings.decode = .some (.ok s) ∧
      (ofText? s.json.text).map (Settings.read (readingBy true)) = .some (.ok s)) ∧
    (∀ f : Filter,
      (parse? f.json.text).map Filter.decode = .some (.ok f) ∧
      (ofText? f.json.text).map (Filter.read (readingBy true)) = .some (.ok f)) := by
  refine ⟨fun s => ⟨?_, ?_⟩, fun f => ⟨?_, ?_⟩⟩
  · exact map_parse?_text (@Settings.restored _ false arranges_canonical) s.isExact_json
  · exact map_ofText?_text (Settings.restored arranges_id) s.isExact_json
  · exact map_parse?_text (@Filter.restored _ false arranges_canonical) f.isExact_json
  · exact map_ofText?_text (Filter.restored arranges_id) f.isExact_json

end MarketSearch
