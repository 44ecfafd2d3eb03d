/-
Trees of settings looked at along paths of names: what a merged tree has at a
path is what the layer gives there, and what was there before where the layer
gives nothing (`Setting.atPath?_merge`, `Setting.atPath?_overlay`).

A layer gives a value at a path if its tables lead there and no table stands at
the end (`Setting.OpensTo`); such a value replaces the one below it whole.  A
value that is set at another path, one that parts from the first at some name,
leaves the value as it is (`Setting.atPath?_mergeAt_of_apart`).
-/
import MarketSearch.Settings.Tree
import MarketSearch.Proofs.Fields
import MarketSearch.Proofs.Lists

namespace MarketSearch
namespace Setting

open Layout (under under_cons_self under_cons_of_ne)

variable {v t : Setting} {k n : String} {p : List String} {q : List SettingStep} {fs ts : List (String × Setting)}

/-! ## Fields -/

theorem fields_toTable (v : Setting) (change : List (String × Setting) → List (String × Setting)) :
    (v.toTable change).fields = change v.fields := by
  cases v <;> rfl

theorem lookup_update_self (n : String) (f : Setting → Setting) (fs : List (String × Setting)) :
    (update n f fs).lookup n = .some (f ((fs.lookup n).getD none)) := by
  induction fs with
  | nil => exact List.lookup_cons_self
  | cons x fs ih =>
    obtain ⟨m, w⟩ := x
    by_cases h : m = n
    · subst h
      rw [update, if_pos rfl, List.lookup_cons_self, List.lookup_cons_self, Option.getD_some]
    · rw [update, if_neg h, lookup_cons_of_ne (Ne.symm h), ih, lookup_cons_of_ne (Ne.symm h)]

theorem lookup_update_of_ne (h : k ≠ n) (f : Setting → Setting) (fs : List (String × Setting)) :
    (update n f fs).lookup k = fs.lookup k := by
  induction fs with
  | nil => exact lookup_cons_of_ne h _ _
  | cons x fs ih =>
    obtain ⟨m, w⟩ := x
    by_cases hm : m = n
    · subst hm
      rw [update, if_pos rfl, lookup_cons_of_ne h, lookup_cons_of_ne h]
    · rw [update, if_neg hm, List.lookup_cons, List.lookup_cons, ih]

/-- Values of one name are merged one after the other. -/
theorem lookup_mergeFields (k : String) (fs ts : List (String × Setting)) : (mergeFields fs ts).lookup k =
    (under k fs).foldl (fun acc v => .some (merge v (acc.getD none))) (ts.lookup k) := by
  induction fs generalizing ts with
  | nil => rfl
  | cons x fs ih =>
    obtain ⟨n, v⟩ := x
    rw [mergeFields, ih]
    by_cases h : n = k
    · subst h
      rw [under_cons_self, List.foldl_cons, lookup_update_self]
    · rw [under_cons_of_ne h, lookup_update_of_ne (Ne.symm h)]

/-! ## Paths -/

/-- The value at a path of names. -/
def atPath? (v : Setting) : List String → Option Setting
  | [] => .some v
  | k :: p => (v.fields.lookup k).bind fun w => w.atPath? p

/-- The values given at a path, in their order. -/
def given (v : Setting) : List String → List Setting
  | [] => [v]
  | k :: p => (under k v.fields).flatMap fun w => w.given p

/-- Tables lead along the path, and where it ends there is no table. -/
def OpensTo (v : Setting) : List String → Prop
  | [] => ∀ o fs, v ≠ .table o fs
  | k :: p => (∃ o fs, v = .table o fs) ∧ ∀ w ∈ under k v.fields, w.OpensTo p

/-- Nothing leads beyond a value that is not there. -/
theorem atPath?_getD_none (w : Option Setting) (hp : p ≠ []) :
    (w.getD none).atPath? p = w.bind fun v => v.atPath? p := by
  cases w with
  | some v => rfl
  | none =>
    cases p with
    | nil => exact absurd rfl hp
    | cons k p => rfl

theorem atPath?_congr_fields (h : v.fields = t.fields) (hp : p ≠ []) : v.atPath? p = t.atPath? p := by
  cases p with
  | nil => exact absurd rfl hp
  | cons k p => rw [atPath?, atPath?, h]

/-! ## Merging -/

theorem merge_of_ne_table (h : ∀ o fs, v ≠ .table o fs) (t : Setting) : merge v t = v := by
  cases v with
  | table o fs => exact absurd rfl (h o fs)
  | _ => rw [merge]

/-- The run over the values of one name, where each of them alone is merged as it should be. -/
theorem atPath?_foldl_merge {vs : List Setting}
    (h : ∀ v ∈ vs, ∀ t, (merge v t).atPath? p = ((v.given p).getLast?).or (t.atPath? p))
    (hnil : p = [] → ∀ v ∈ vs, ∀ t, merge v t = v) (acc : Option Setting) :
    (vs.foldl (fun acc v => .some (merge v (acc.getD none))) acc).bind (·.atPath? p) =
      ((vs.flatMap (·.given p)).getLast?).or (acc.bind (·.atPath? p)) := by
  induction vs generalizing acc with
  | nil => simp
  | cons v vs ih =>
    simp only [List.mem_cons, forall_eq_or_imp] at h hnil
    rw [List.foldl_cons, ih h.2 (fun hp => (hnil hp).2), Option.bind_some, List.flatMap_cons,
      List.getLast?_append, Option.or_assoc]
    congr 1
    -- A name that is new is merged into an empty scalar.  At the end of the path that would count as a
    -- value, so there it has to be known that what is merged replaces it.
    by_cases hp : p = []
    · subst hp
      rw [(hnil rfl).1, given, atPath?]
      rfl
    · rw [h.1, atPath?_getD_none acc hp]

/-- **What a merged tree has at a path**: the last value that the layer gives there, or what was there. -/
theorem atPath?_merge (h : v.OpensTo p) (t : Setting) :
    (merge v t).atPath? p = ((v.given p).getLast?).or (t.atPath? p) := by
  induction p generalizing v t with
  | nil =>
    rw [merge_of_ne_table h]
    rfl
  | cons k p ih =>
    obtain ⟨⟨o, fs, rfl⟩, hunder⟩ := h
    rw [merge, atPath?, fields_toTable, lookup_mergeFields]
    refine atPath?_foldl_merge (fun w hw => ih (hunder w hw)) ?_ (t.fields.lookup k)
    rintro rfl w hw
    exact merge_of_ne_table (hunder w hw)

/-! ## Values set at a path -/

/-- The steps leave the path at some name. -/
inductive Apart : List SettingStep → List String → Prop where
  | here {m m' : String} (h : m ≠ m') (q : List SettingStep) (p : List String) : Apart (.key m :: q) (m' :: p)
  | there (m : String) {q : List SettingStep} {p : List String} (h : Apart q p) : Apart (.key m :: q) (m :: p)

theorem Apart.ne_nil (h : Apart q p) : p ≠ [] := by
  cases h <;> exact List.cons_ne_nil _ _

theorem atPath?_mergeAt_of_apart (h : Apart q p) (v t : Setting) : (mergeAt v q t).atPath? p = t.atPath? p := by
  induction h generalizing t with
  | here h q p => rw [mergeAt, atPath?, fields_toTable, lookup_update_of_ne (Ne.symm h), atPath?]
  | there m h ih =>
    rw [mergeAt, atPath?, fields_toTable, lookup_update_self, Option.bind_some, ih,
      atPath?_getD_none _ h.ne_nil, atPath?]

/-- What is no table stands where it is set. -/
theorem atPath?_mergeAt_self (h : ∀ o fs, v ≠ .table o fs) (p : List String) (t : Setting) :
    (mergeAt v (p.map .key) t).atPath? p = .some v := by
  induction p generalizing t with
  | nil =>
    rw [List.map_nil, mergeAt, merge_of_ne_table h]
    rfl
  | cons k p ih =>
    rw [List.map_cons, mergeAt, atPath?, fields_toTable, lookup_update_self, Option.bind_some, ih]

/-- Two paths of which neither goes on from the other part at some name. -/
theorem apart_of_not_isPrefixOf {p' : List String} (h : p.isPrefixOf p' = false) (h' : p'.isPrefixOf p = false) :
    Apart (p.map .key) p' := by
  induction p generalizing p' with
  | nil => cases h
  | cons k p ih =>
    cases p' with
    | nil => cases h'
    | cons k' p' =>
      by_cases hk : k = k'
      · subst hk
        simp only [List.isPrefixOf, BEq.rfl, Bool.true_and] at h h'
        exact .there k (ih h h')
      · exact .here hk _ _

/-! ## Layers -/

theorem overlay_cons (t : Setting) (x : String × Setting) (layer : List (String × Setting)) :
    t.overlay (x :: layer) = (mergeAt x.2 (SettingPath.ofKey x.1) t).overlay layer := rfl

theorem overlay_append (t : Setting) (layer layer' : List (String × Setting)) :
    t.overlay (layer ++ layer') = (t.overlay layer).overlay layer' :=
  List.foldl_append

/-- A layer of plain names is laid over a tree as one table. -/
theorem fields_overlay {layer : List (String × Setting)} (h : ∀ x ∈ layer, SettingPath.ofKey x.1 = [.key x.1])
    (t : Setting) : (t.overlay layer).fields = mergeFields layer t.fields := by
  induction layer generalizing t with
  | nil => rfl
  | cons x layer ih =>
    simp only [List.mem_cons, forall_eq_or_imp] at h
    rw [overlay_cons, h.1, ih h.2, mergeAt, fields_toTable, mergeFields]
    rfl

theorem atPath?_overlay {layer : List (String × Setting)} (h : ∀ x ∈ layer, SettingPath.ofKey x.1 = [.key x.1])
    (hp : p ≠ []) {o : Option String} (hopens : (Setting.table o layer).OpensTo p) (t : Setting) :
    (t.overlay layer).atPath? p = (((Setting.table o layer).given p).getLast?).or (t.atPath? p) := by
  have hfields : (t.overlay layer).fields = (merge (.table o layer) t).fields := by
    rw [fields_overlay h, merge, fields_toTable]
  rw [atPath?_congr_fields hfields hp, atPath?_merge hopens]

theorem atPath?_overlay_of_apart {layer : List (String × Setting)} (h : ∀ x ∈ layer, Apart (SettingPath.ofKey x.1) p)
    (t : Setting) : (t.overlay layer).atPath? p = t.atPath? p := by
  induction layer generalizing t with
  | nil => rfl
  | cons x layer ih =>
    obtain ⟨hx, hlayer⟩ := List.forall_mem_cons.mp h
    rw [overlay_cons, ih hlayer, atPath?_mergeAt_of_apart hx]

/-! ## Tidiness -/

/-- In each table that names lead to, no name is used twice. -/
inductive IsTidy : Setting → Prop where
  | scalar (o : Option String) (x : Scalar) : IsTidy (.scalar o x)
  | list (o : Option String) (vs : List Setting) : IsTidy (.list o vs)
  | table (o : Option String) {fs : List (String × Setting)} (hnames : (fs.map Prod.fst).Nodup)
      (hvalues : ∀ f ∈ fs, IsTidy f.2) : IsTidy (.table o fs)

/-- The fields of a tidy table. -/
structure AreTidy (fs : List (String × Setting)) : Prop where
  names : (fs.map Prod.fst).Nodup
  values : ∀ f ∈ fs, IsTidy f.2

theorem AreTidy.nil : AreTidy [] := ⟨List.nodup_nil, by simp⟩

theorem IsTidy.fields (h : t.IsTidy) : AreTidy t.fields := by
  cases h with
  | scalar | list => exact .nil
  | table o hnames hvalues => exact ⟨hnames, hvalues⟩

theorem IsTidy.toTable (h : t.IsTidy) {change : List (String × Setting) → List (String × Setting)}
    (hchange : ∀ fs, AreTidy fs → AreTidy (change fs)) : (t.toTable change).IsTidy := by
  have hfields := hchange t.fields h.fields
  cases t <;> exact .table _ hfields.names hfields.values

theorem IsTidy.toList (t : Setting) (change : List Setting → List Setting) : (t.toList change).IsTidy := by
  cases t <;> exact .list _ _

theorem mem_keys_update {f : Setting → Setting} {m : String} (h : m ∈ (update n f fs).map Prod.fst) :
    m = n ∨ m ∈ fs.map Prod.fst := by
  induction fs with
  | nil => simpa [update] using h
  | cons x fs ih =>
    obtain ⟨k, w⟩ := x
    by_cases hk : k = n
    · right
      simpa [update, hk] using h
    · simp only [update, if_neg hk, List.map_cons, List.mem_cons] at h ⊢
      rcases h with h | h
      · exact .inr (.inl h)
      · exact (ih h).imp_right .inr

theorem AreTidy.update (h : AreTidy fs) (n : String) {f : Setting → Setting} (hf : ∀ t, t.IsTidy → (f t).IsTidy) :
    AreTidy (update n f fs) := by
  induction fs with
  | nil => exact ⟨by simp [Setting.update], by simpa [Setting.update] using hf none (.scalar _ _)⟩
  | cons x fs ih =>
    obtain ⟨k, w⟩ := x
    obtain ⟨hnew, hnames⟩ := List.nodup_cons.mp h.names
    have hvalues := List.forall_mem_cons.mp h.values
    by_cases hk : k = n
    · rw [Setting.update, if_pos hk]
      exact ⟨h.names, List.forall_mem_cons.mpr ⟨hf w hvalues.1, hvalues.2⟩⟩
    · have hrest := ih ⟨hnames, hvalues.2⟩
      rw [Setting.update, if_neg hk]
      refine ⟨List.nodup_cons.mpr ⟨fun hmem => ?_, hrest.names⟩, List.forall_mem_cons.mpr ⟨hvalues.1, hrest.values⟩⟩
      rcases mem_keys_update hmem with hmem | hmem
      · exact hk hmem
      · exact hnew hmem

mutual

/-- Whatever is merged into a tidy tree, its names are sorted out on the way. -/
theorem IsTidy.merge : (v : Setting) → {t : Setting} → t.IsTidy → (merge v t).IsTidy
  | .table _ fs, _, h => by
    rw [Setting.merge]
    exact h.toTable fun _ hts => AreTidy.mergeFields fs hts
  | .list o vs, _, _ => by
    rw [Setting.merge]
    exact .list o vs
  | .scalar o x, _, _ => by
    rw [Setting.merge]
    exact .scalar o x

theorem AreTidy.mergeFields : (fs : List (String × Setting)) → {ts : List (String × Setting)} → AreTidy ts →
    AreTidy (mergeFields fs ts)
  | [], _, h => h
  | (n, v) :: fs, _, h => by
    rw [Setting.mergeFields]
    exact AreTidy.mergeFields fs (h.update n fun _ ht => IsTidy.merge v ht)

end

theorem IsTidy.mergeAt (v : Setting) (q : List SettingStep) (h : t.IsTidy) : (mergeAt v q t).IsTidy := by
  induction q generalizing t with
  | nil => exact h.merge v
  | cons step q ih =>
    cases step with
    | key n => exact h.toTable fun _ hfs => hfs.update n fun _ ht => ih ht
    | index i => exact .toList t _

theorem IsTidy.overlay (h : t.IsTidy) (layer : List (String × Setting)) : (t.overlay layer).IsTidy := by
  induction layer generalizing t with
  | nil => exact h
  | cons x layer ih => exact ih (h.mergeAt x.2 _)

/-- A tidy table has one value under a name that it has. -/
theorem AreTidy.under_eq (h : AreTidy fs) (hv : fs.lookup n = .some v) : under n fs = [v] := by
  induction fs with
  | nil => cases hv
  | cons x fs ih =>
    obtain ⟨k, w⟩ := x
    obtain ⟨hnew, hnames⟩ := List.nodup_cons.mp h.names
    by_cases hk : k = n
    · subst hk
      have hw : w = v := by simpa using hv
      rw [under_cons_self, Layout.under_eq_nil_of_notMem hnew, hw]
    · rw [under_cons_of_ne hk]
      refine ih ⟨hnames, (List.forall_mem_cons.mp h.values).2⟩ ?_
      rwa [lookup_cons_of_ne (Ne.symm hk)] at hv

theorem AreTidy.of_lookup (h : AreTidy fs) (hv : fs.lookup n = .some v) : v.IsTidy := by
  have hmem : v ∈ under n fs := by
    rw [h.under_eq hv]
    exact List.mem_singleton.mpr rfl
  obtain ⟨f, hf, rfl⟩ := List.mem_map.mp hmem
  exact h.values f ((List.mem_filter.mp hf).1)

end Setting
end MarketSearch
