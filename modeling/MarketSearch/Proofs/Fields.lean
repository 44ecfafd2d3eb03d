/-
What a record says about the object it was read from: a part of the record
that one field alone sets comes from the value that the object has under the
name of that field, or is the part of the record that the reading started from
(`Json.Layout.get_of_decodeOnce`).

The argument is a run over the fields of the object in their order: those of
other names leave the part as it is, and there is at most one of its own name,
since known fields given twice are refused.
-/
import MarketSearch.Json.Decoder
import MarketSearch.Proofs.Except

namespace MarketSearch

/-! ## Single fields -/

section

variable {ν ε σ α β : Type}

/-- Setting the field leaves a part of the record as it is. -/
def Field.Keeps (f : Field ν ε σ) (get : σ → α) : Prop :=
  ∀ v r r', f.set v r = .ok r' → get r' = get r

@[simp] theorem field_name (name : String) (read : ν → Except ε α) (put : σ → α → σ) :
    (field name read put).name = name := rfl

theorem set_field_eq_ok_iff {name : String} {read : ν → Except ε α} {put : σ → α → σ} {v : ν} {r r' : σ} :
    (field name read put).set v r = .ok r' ↔ ∃ a, read v = .ok a ∧ put r a = r' :=
  map_eq_ok_iff

theorem keeps_field {name : String} {read : ν → Except ε β} {put : σ → β → σ} {get : σ → α}
    (h : ∀ r b, get (put r b) = get r) : (field name read put).Keeps get := by
  intro v r r' hset
  obtain ⟨b, -, rfl⟩ := set_field_eq_ok_iff.mp hset
  exact h r b

namespace Layout

variable {l : Layout ν ε σ} {f : Field ν ε σ} {get : σ → α} {start r : σ}

/-- Fields of other names leave a part of the record as it is. -/
def IsSetBy (l : Layout ν ε σ) (get : σ → α) (name : String) : Prop :=
  ∀ f ∈ l.fields, f.name ≠ name → f.Keeps get

theorem get_of_setNamed_of_ne {name : String} (h : l.IsSetBy get name) {x : String × ν} (hx : x.1 ≠ name)
    (hr : l.setNamed start x = .ok r) : get r = get start := by
  unfold setNamed at hr
  split at hr
  · next known hfind =>
    have hname : known.name = x.1 := by simpa using List.find?_some hfind
    exact h known (List.mem_of_find?_eq_some hfind) (hname ▸ hx) _ _ _ hr
  · cases hr
    rfl

theorem setAll_cons_eq_ok_iff {x : String × ν} {fields : List (String × ν)} :
    l.setAll start (x :: fields) = .ok r ↔ ∃ r', l.setNamed start x = .ok r' ∧ l.setAll r' fields = .ok r := by
  rw [setAll, List.foldlM_cons, bind_eq_ok_iff]
  rfl

/-- The values given under a name. -/
def under (name : String) (fields : List (String × ν)) : List ν :=
  (fields.filter (·.1 == name)).map (·.2)

theorem under_cons_self (name : String) (v : ν) (fields : List (String × ν)) :
    under name ((name, v) :: fields) = v :: under name fields := by
  simp [under]

theorem under_cons_of_ne {name : String} {x : String × ν} (h : x.1 ≠ name) (fields : List (String × ν)) :
    under name (x :: fields) = under name fields := by
  simp [under, h]

theorem under_append (name : String) (fields fields' : List (String × ν)) :
    under name (fields ++ fields') = under name fields ++ under name fields' := by
  simp [under]

theorem under_eq_nil_of_notMem {name : String} {fields : List (String × ν)} (h : name ∉ fields.map Prod.fst) :
    under name fields = [] := by
  simp only [under, List.map_eq_nil_iff, List.filter_eq_nil_iff, beq_iff_eq]
  exact fun x hx hname => h (List.mem_map.mpr ⟨x, hx, hname⟩)

/-- Where no name is used twice, there is at most one value under each. -/
theorem length_under_le {fields : List (String × ν)} (h : (fields.map Prod.fst).Nodup) (name : String) :
    (under name fields).length ≤ 1 := by
  induction fields with
  | nil => exact Nat.zero_le 1
  | cons x fields ih =>
    obtain ⟨n, v⟩ := x
    obtain ⟨hn, hfields⟩ := List.nodup_cons.mp h
    by_cases hname : n = name
    · subst hname
      rw [under_cons_self, under_eq_nil_of_notMem hn]
      exact Nat.le_refl 1
    · rw [under_cons_of_ne hname]
      exact ih hfields

/-- The last value given under a name is the one that counts. -/
theorem get_of_setAll_last {name : String} (hf : l.find? name = .some f) (h : l.IsSetBy get name)
    {fields : List (String × ν)} (hr : l.setAll start fields = .ok r) :
    (under name fields = [] ∧ get r = get start) ∨
      ∃ v r₁ r₂, (under name fields).getLast? = .some v ∧ f.set v r₁ = .ok r₂ ∧ get r = get r₂ := by
  induction fields generalizing start with
  | nil =>
    cases hr
    exact .inl ⟨rfl, rfl⟩
  | cons x fields ih =>
    obtain ⟨n, v⟩ := x
    obtain ⟨r', hx, hback⟩ := setAll_cons_eq_ok_iff.mp hr
    by_cases hn : n = name
    · subst hn
      rw [setNamed, hf] at hx
      rw [under_cons_self, List.getLast?_cons]
      rcases ih hback with ⟨hrest, hget⟩ | ⟨w, r₁, r₂, hlast, hset, hget⟩
      · exact .inr ⟨v, start, r', by rw [hrest]; rfl, hx, hget⟩
      · exact .inr ⟨w, r₁, r₂, by rw [hlast]; rfl, hset, hget⟩
    · rw [under_cons_of_ne hn, ← get_of_setNamed_of_ne h hn hx]
      exact ih hback

theorem get_of_setAll {name : String} (hf : l.find? name = .some f) (h : l.IsSetBy get name)
    {fields : List (String × ν)} (honce : (under name fields).length ≤ 1)
    (hr : l.setAll start fields = .ok r) :
    (under name fields = [] ∧ get r = get start) ∨
      ∃ v r₁ r₂, under name fields = [v] ∧ f.set v r₁ = .ok r₂ ∧ get r = get r₂ := by
  rcases get_of_setAll_last hf h hr with hnone | ⟨v, r₁, r₂, hlast, hset, hget⟩
  · exact .inl hnone
  · refine .inr ⟨v, r₁, r₂, ?_, hset, hget⟩
    obtain ⟨front, hfront⟩ := List.getLast?_eq_some_iff.mp hlast
    rw [hfront, List.length_append, List.length_singleton] at honce
    rw [hfront, List.length_eq_zero_iff.mp (by omega : front.length = 0), List.nil_append]

end Layout

end

namespace Json

/-! ## Single values -/

variable {v : Json}

theorem string_eq_ok_iff {s : String} : string v = .ok s ↔ v = .str s := by
  cases v <;> simp [string]

theorem unsigned_eq_ok_iff {name : String} {bits n : Nat} :
    unsigned name bits v = .ok n ↔ v = .int n ∧ n < Nat.pow 2 bits := by
  have hpos : 0 < Nat.pow 2 bits := Nat.pow_pos (by decide)
  rw [unsigned, map_eq_ok_iff]
  cases v with
  | int m =>
    simp only [whole, int.injEq]
    constructor
    · rintro ⟨a, ha, rfl⟩
      split at ha
      · cases ha
        omega
      · cases ha
    · rintro ⟨rfl, hn⟩
      exact ⟨n, if_pos (by omega), rfl⟩
  | _ => simp [whole]

theorem optional_eq_ok_iff {α : Type} {item : Decoder α} {o : Option α} : optional item v = .ok o ↔
    (v = .null ∧ o = .none) ∨ (v ≠ .null ∧ ∃ a, item v = .ok a ∧ .some a = o) := by
  cases v with
  | null => simp [optional, eq_comm]
  | _ => simp [optional, map_eq_ok_iff]

theorem choice_eq_ok_iff {α : Type} {names : List (String × α)} {a : α} : choice names v = .ok a ↔
    ∃ name, names.lookup name = .some a ∧ (v = .str name ∨ v = .obj [(name, .null)]) := by
  cases v with
  | str s => cases h : names.lookup s <;> simp [choice, h]
  | obj fields =>
    match fields with
    | [(s, content)] =>
      cases h : names.lookup s with
      | none =>
        simp only [choice, h, reduceCtorEq, false_or, false_iff, obj.injEq, List.cons.injEq, and_true,
          Prod.mk.injEq]
        rintro ⟨_, hlookup, rfl, -⟩
        cases h ▸ hlookup
      | some b => cases content <;> simp [choice, h]
    | [] | _ :: _ :: _ => simp [choice]
  | _ => simp [choice]

/-! ## Objects -/

/-- The values that an object has under a name. -/
def under (name : String) : Json → List Json
  | .obj fields => MarketSearch.Layout.under name fields
  | _ => []

namespace Layout

variable {σ α : Type} {l : Layout σ} {f : Field Json Mismatch σ} {get : σ → α} {start r : σ}
  {fields : List (String × Json)}

theorem decodeOnce_obj_eq_ok_iff : l.decodeOnce start (.obj fields) = .ok r ↔
    (∀ f ∈ l.fields, (under f.name (.obj fields)).length ≤ 1) ∧ l.setAll start fields = .ok r := by
  have hrepeated : l.repeated? fields = .none ↔
      ∀ f ∈ l.fields, (under f.name (.obj fields)).length ≤ 1 := by
    simp [repeated?, under, MarketSearch.Layout.under]
  rw [← hrepeated]
  unfold decodeOnce
  cases hr : l.repeated? fields with
  | some name => simp [hr]
  | none => simp [hr, decode]

/-- **A part of a record that one field sets** is as the reading started, and the object has nothing
under the name of the field, or it is as the field sets it from the one value there. -/
theorem get_of_decodeOnce {name : String} (hf : l.find? name = .some f) (h : l.IsSetBy get name)
    (hr : l.decodeOnce start (.obj fields) = .ok r) :
    (under name (.obj fields) = [] ∧ get r = get start) ∨
      ∃ v r₁ r₂, under name (.obj fields) = [v] ∧ f.set v r₁ = .ok r₂ ∧ get r = get r₂ := by
  obtain ⟨honce, hr⟩ := decodeOnce_obj_eq_ok_iff.mp hr
  have hname : f.name = name := by simpa using List.find?_some hf
  exact MarketSearch.Layout.get_of_setAll hf h
    (hname ▸ honce f (List.mem_of_find?_eq_some hf)) hr

end Layout

end Json

end MarketSearch
