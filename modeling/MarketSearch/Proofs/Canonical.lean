/-
What is left of an object when it is looked at as a value: under each name the
last value that was given (`Json.get?_canonical`), and where no name was given
twice the same fields, in another order perhaps (`Json.canonical_obj`).
-/
import Mathlib.Data.List.Induction
import MarketSearch.Proofs.Fields
import MarketSearch.Proofs.Lists

namespace MarketSearch
namespace Json

section

variable {α : Type} {name k : String} {fields : List (String × α)}

/-! ## Names looked up -/

theorem lookup_setField_self (name : String) (value : α) (fields : List (String × α)) :
    (setField name value fields).lookup name = .some value := by
  induction fields with
  | nil => exact List.lookup_cons_self
  | cons f fields ih =>
    obtain ⟨n, v⟩ := f
    unfold setField
    split
    · exact List.lookup_cons_self
    · next hne =>
      split
      · exact List.lookup_cons_self
      · rw [lookup_cons_of_ne hne, ih]

theorem lookup_setField_of_ne (h : k ≠ name) (value : α) (fields : List (String × α)) :
    (setField name value fields).lookup k = fields.lookup k := by
  induction fields with
  | nil => exact lookup_cons_of_ne h _ _
  | cons f fields ih =>
    obtain ⟨n, v⟩ := f
    unfold setField
    split
    · next hname =>
      subst hname
      rw [lookup_cons_of_ne h, lookup_cons_of_ne h]
    · split
      · rw [lookup_cons_of_ne h]
      · rw [List.lookup_cons, List.lookup_cons, ih]

theorem sortFields_append_singleton (fields : List (String × α)) (f : String × α) :
    sortFields (fields ++ [f]) = setField f.1 f.2 (sortFields fields) := by
  rw [sortFields, List.foldl_append]
  rfl

/-- Of the values given under a name, sorting keeps the last. -/
theorem lookup_sortFields (name : String) (fields : List (String × α)) :
    (sortFields fields).lookup name = (MarketSearch.Layout.under name fields).getLast? := by
  induction fields using List.reverseRecOn with
  | nil => rfl
  | append_singleton fields f ih =>
    obtain ⟨n, v⟩ := f
    rw [sortFields_append_singleton, MarketSearch.Layout.under_append]
    by_cases h : n = name
    · subst h
      rw [lookup_setField_self, MarketSearch.Layout.under_cons_self, List.getLast?_append]
      rfl
    · rw [lookup_setField_of_ne (Ne.symm h), MarketSearch.Layout.under_cons_of_ne h, ih]
      simp [MarketSearch.Layout.under]

/-! ## Fields in order -/

theorem setField_perm (h : name ∉ fields.map Prod.fst) (value : α) :
    (setField name value fields).Perm ((name, value) :: fields) := by
  induction fields with
  | nil => exact .refl _
  | cons f fields ih =>
    obtain ⟨n, v⟩ := f
    rw [List.map_cons, List.mem_cons, not_or] at h
    obtain ⟨hne, hfields⟩ := h
    unfold setField
    rw [if_neg hne]
    split
    · exact .refl _
    · exact ((ih hfields).cons _).trans (.swap ..)

/-- Where no name is given twice, sorting loses nothing. -/
theorem sortFields_perm (h : (fields.map Prod.fst).Nodup) : (sortFields fields).Perm fields := by
  induction fields using List.reverseRecOn with
  | nil => exact .refl _
  | append_singleton fields f ih =>
    have hlast : (fields ++ [f]).Perm (f :: fields) := List.perm_append_singleton f fields
    rw [(hlast.map Prod.fst).nodup_iff, List.map_cons, List.nodup_cons] at h
    have hfields := ih h.2
    rw [sortFields_append_singleton]
    have hname : f.1 ∉ (sortFields fields).map Prod.fst := fun hmem => h.1 ((hfields.map Prod.fst).mem_iff.mp hmem)
    exact (setField_perm hname f.2).trans ((hfields.cons f).trans hlast.symm)

end

/-! ## Canonical values -/

theorem canonicalFields_eq_map (fields : List (String × Json)) :
    canonicalFields fields = fields.map fun f => (f.1, f.2.canonical) := by
  induction fields with
  | nil => rfl
  | cons f fields ih =>
    obtain ⟨n, v⟩ := f
    rw [canonicalFields, ih, List.map_cons]

/-- **A canonical object has under each name the last value that was given there.** -/
theorem get?_canonical (v : Json) (name : String) :
    v.canonical.get? name = ((v.under name).getLast?).map canonical := by
  cases v with
  | obj fields =>
    rw [canonical, get?, lookup_sortFields, canonicalFields_eq_map, under, ← List.getLast?_map,
      MarketSearch.Layout.under, MarketSearch.Layout.under, List.filter_map, List.map_map, List.map_map]
    rfl
  | _ => rfl

/-- **An object without repeated names is canonical up to the order of its fields**, if their values are. -/
theorem canonical_obj {fields : List (String × Json)} (h : (fields.map Prod.fst).Nodup) :
    ∃ sorted, (Json.obj fields).canonical = .obj sorted ∧
      sorted.Perm (fields.map fun f => (f.1, f.2.canonical)) := by
  refine ⟨_, rfl, ?_⟩
  rw [canonicalFields_eq_map]
  refine sortFields_perm ?_
  rwa [List.map_map]

end Json
end MarketSearch
