/-
The parameters of a search: which filter the pairs of a query ask for, and why
they ask for none.

A query may give each parameter once.  Pairs are taken up one after the other,
so that the first one given again decides what is said about it; what the
texts mean is looked at afterwards, the direction before the query.
-/
import MarketSearch.Http.Service
import MarketSearch.Proofs.Fields
import MarketSearch.Proofs.Utf8

namespace MarketSearch

open Layout (under)

/-! ## Form data -/

/-- A text that is written as another one is read as that. -/
theorem Form.decodeText_eq {cs ds : List Char}
    (h : Percent.decode ((Utf8.encode cs).map Form.plusToSpace) = Utf8.encode ds) :
    Form.decodeText cs = String.ofList ds := by
  rw [Form.decodeText, h, Utf8.toTextLossy, Utf8.decodeLossy_encode]

namespace SearchParams

/-! ## Values given at most once -/

theorem exists_toList_eq {α : Type} {as : List α} (h : as.length ≤ 1) : ∃ a : Option α, as = a.toList := by
  match as, h with
  | [], _ => exact ⟨.none, rfl⟩
  | [a], _ => exact ⟨.some a, rfl⟩

theorem length_toList_le {α : Type} (a : Option α) : a.toList.length ≤ 1 := by
  cases a <;> simp

theorem toList_ne_nil_iff {α : Type} {a : Option α} : a.toList ≠ [] ↔ a.isSome := by
  cases a <;> simp

theorem length_le_of_append_eq {α : Type} {front back : List α} {a : Option α}
    (h : front ++ back = a.toList) : front.length ≤ 1 := by
  have hlen := length_toList_le a
  rw [← h, List.length_append] at hlen
  omega

variable {p p' : SearchParams} {x : String × String} {pairs : List (String × String)} {m : String}

/-! ## Pairs -/

/-- What a pair that is taken up adds. -/
theorem set_eq_ok_iff : set p x = .ok p' ↔
    p.query.toList ++ under "query" [x] = p'.query.toList ∧
      p.sort.toList ++ under "sort" [x] = p'.sort.toList := by
  obtain ⟨name, value⟩ := x
  obtain ⟨query, sort⟩ := p
  obtain ⟨query', sort'⟩ := p'
  unfold set
  by_cases hquery : name = "query"
  · subst hquery
    cases query <;> cases query' <;> cases sort <;> cases sort' <;> simp [under]
  by_cases hsort : name = "sort"
  · subst hsort
    cases query <;> cases query' <;> cases sort <;> cases sort' <;> simp [under]
  · cases query <;> cases query' <;> cases sort <;> cases sort' <;> simp [under, hquery, hsort]

theorem set_eq_error_iff : set p x = .error m ↔
    (x.1 = "query" ∧ p.query.isSome ∧ duplicate "query" = m) ∨
      (x.1 = "sort" ∧ p.sort.isSome ∧ duplicate "sort" = m) := by
  unfold set
  by_cases hquery : x.1 = "query"
  · cases p.query <;> simp [hquery]
  by_cases hsort : x.1 = "sort"
  · cases p.sort <;> simp [hsort]
  · simp [hquery, hsort]

theorem foldlM_set_eq_ok_iff : pairs.foldlM set p = .ok p' ↔
    p.query.toList ++ under "query" pairs = p'.query.toList ∧
      p.sort.toList ++ under "sort" pairs = p'.sort.toList := by
  induction pairs generalizing p with
  | nil =>
    obtain ⟨query, sort⟩ := p
    obtain ⟨query', sort'⟩ := p'
    cases query <;> cases query' <;> cases sort <;> cases sort' <;>
      simp [under, pure, Except.pure]
  | cons x pairs ih =>
    have hunder : ∀ name, under name (x :: pairs) = under name [x] ++ under name pairs := fun name =>
      Layout.under_append name [x] pairs
    simp only [List.foldlM_cons, bind_eq_ok_iff, ih, set_eq_ok_iff, hunder, ← List.append_assoc]
    constructor
    · rintro ⟨q, ⟨hquery, hsort⟩, hquery', hsort'⟩
      exact ⟨hquery ▸ hquery', hsort ▸ hsort'⟩
    · rintro ⟨hquery, hsort⟩
      -- what the first pair adds is at most one value of each, as is what all of them add
      obtain ⟨query, hq⟩ := exists_toList_eq (length_le_of_append_eq hquery)
      obtain ⟨sort, hs⟩ := exists_toList_eq (length_le_of_append_eq hsort)
      exact ⟨⟨query, sort⟩, ⟨hq, hs⟩, hq ▸ hquery, hs ▸ hsort⟩

/-- Pairs are taken up when each parameter is given at most once, and are then as they are given. -/
theorem ofPairs_eq_ok_iff : ofPairs pairs = .ok p ↔
    under "query" pairs = p.query.toList ∧ under "sort" pairs = p.sort.toList := by
  rw [ofPairs, foldlM_set_eq_ok_iff]
  simp

/-- The parameters that may be given once. -/
def names : List String := ["query", "sort"]

/-- The parameter is given again, and none is before. -/
def IsFirstRepeated (pairs : List (String × String)) (name : String) : Prop :=
  ∃ front value back, pairs = front ++ (name, value) :: back ∧ name ∈ names ∧ under name front ≠ [] ∧
    ∀ n ∈ names, (under n front).length ≤ 1

/-- Pairs are refused for the first parameter that is given again. -/
theorem ofPairs_eq_error_iff : ofPairs pairs = .error m ↔
    ∃ name, IsFirstRepeated pairs name ∧ duplicate name = m := by
  rw [ofPairs, foldlM_eq_error_iff]
  constructor
  · rintro ⟨front, ⟨name, value⟩, back, q, rfl, hq, hset⟩
    obtain ⟨hquery, hsort⟩ := ofPairs_eq_ok_iff.mp hq
    have honce : ∀ n ∈ names, (under n front).length ≤ 1 := by
      simp only [names, List.forall_mem_cons, hquery, hsort]
      exact ⟨length_toList_le _, length_toList_le _, by simp⟩
    rcases set_eq_error_iff.mp hset with ⟨rfl, hsome, rfl⟩ | ⟨rfl, hsome, rfl⟩
    · exact ⟨"query", ⟨front, value, back, rfl, by simp [names],
        hquery ▸ toList_ne_nil_iff.mpr hsome, honce⟩, rfl⟩
    · exact ⟨"sort", ⟨front, value, back, rfl, by simp [names],
        hsort ▸ toList_ne_nil_iff.mpr hsome, honce⟩, rfl⟩
  · rintro ⟨name, ⟨front, value, back, rfl, hname, hgiven, honce⟩, rfl⟩
    simp only [names, List.forall_mem_cons] at honce
    obtain ⟨query, hquery⟩ := exists_toList_eq honce.1
    obtain ⟨sort, hsort⟩ := exists_toList_eq honce.2.1
    refine ⟨front, (name, value), back, ⟨query, sort⟩, rfl, ofPairs_eq_ok_iff.mpr ⟨hquery, hsort⟩,
      set_eq_error_iff.mpr ?_⟩
    simp only [names, List.mem_cons, List.not_mem_nil, or_false] at hname
    rcases hname with rfl | rfl
    · exact .inl ⟨rfl, toList_ne_nil_iff.mp (hquery ▸ hgiven), rfl⟩
    · exact .inr ⟨rfl, toList_ne_nil_iff.mp (hsort ▸ hgiven), rfl⟩

end SearchParams

/-! ## Filters -/

variable {pairs : List (String × String)} {query : List Char} {f : Filter} {m : String}

/-- The pairs ask for a filter: with the query given or an empty one, and with the direction that
is spelt or, without any, ascending. -/
structure Filter.IsAskedBy (f : Filter) (pairs : List (String × String)) : Prop where
  query : under "query" pairs = [f.query] ∨ under "query" pairs = [] ∧ f.query = ""
  direction : (∃ text, under "sort" pairs = [text] ∧ SortDirection.ofText? text = .ok f.direction) ∨
    under "sort" pairs = [] ∧ f.direction = .ascending

/-- The pairs do not lead to a search, by the first of the checks that fails, and what is said then. -/
inductive Refused (pairs : List (String × String)) : String → Prop where
  | repeated {name : String} : SearchParams.IsFirstRepeated pairs name →
      Refused pairs
        ("INVALID: " ++ ("Failed to deserialize query string: duplicate field `" ++ name ++ "`"))
  | direction {text : String} : (under "query" pairs).length ≤ 1 → under "sort" pairs = [text] →
      (∀ d, SortDirection.ofText? text ≠ .ok d) →
      Refused pairs ("INVALID: " ++ ("invalid SortDirection value: '" ++ text ++ "'"))
  | filter {f : Filter} : f.IsAskedBy pairs → f.validate ≠ .ok () → Refused pairs ("INVALID: " ++ f.text)

theorem direction_eq_ok_iff {p : SearchParams} {d : SortDirection} {texts : List String}
    (h : texts = p.sort.toList) : p.direction = .ok d ↔
      (∃ text, texts = [text] ∧ SortDirection.ofText? text = .ok d) ∨ texts = [] ∧ d = .ascending := by
  subst h
  unfold SearchParams.direction
  cases p.sort <;> simp [eq_comm]

theorem query_getD_eq_iff {p : SearchParams} {text : String} {texts : List String}
    (h : texts = p.query.toList) : p.query.getD "" = text ↔
      texts = [text] ∨ texts = [] ∧ text = "" := by
  subst h
  cases p.query <;> simp [eq_comm]

theorem filter_eq_ok_iff {p : SearchParams} : p.filter = .ok f ↔
    p.direction = .ok f.direction ∧ p.query.getD "" = f.query := by
  obtain ⟨query, direction⟩ := f
  unfold SearchParams.filter
  cases p.direction <;> simp [and_comm]

/-- Parameters stand for no filter when a direction is asked for that is none. -/
theorem filter_eq_error_iff {p : SearchParams} {e : SearchError} : p.filter = .error e ↔
    ∃ text, p.sort = .some text ∧ (∀ d, SortDirection.ofText? text ≠ .ok d) ∧
      e = .invalidInput ("INVALID: " ++ ("invalid SortDirection value: '" ++ text ++ "'")) := by
  unfold SearchParams.filter SearchParams.direction
  cases p.sort with
  | none => simp
  | some text =>
    simp only [SortDirection.ofText?, Option.some.injEq, exists_eq_left']
    cases SortDirection.spellings.lookup (Text.toUpper (Text.trimmed text)) with
    | none =>
      simp only [Except.error.injEq, reduceCtorEq, not_false_eq_true, implies_true, true_and, ne_eq]
      exact eq_comm
    | some d => simp

theorem Filter.IsAskedBy.once (h : f.IsAskedBy pairs) :
    (under "query" pairs).length ≤ 1 ∧ (under "sort" pairs).length ≤ 1 := by
  constructor
  · rcases h.query with h | ⟨h, -⟩ <;> simp [h]
  · rcases h.direction with ⟨_, h, -⟩ | ⟨h, -⟩ <;> simp [h]

theorem exists_ofPairs (hquery : (under "query" pairs).length ≤ 1) (hsort : (under "sort" pairs).length ≤ 1) :
    ∃ p, SearchParams.ofPairs pairs = .ok p := by
  obtain ⟨query, hquery⟩ := SearchParams.exists_toList_eq hquery
  obtain ⟨sort, hsort⟩ := SearchParams.exists_toList_eq hsort
  exact ⟨⟨query, sort⟩, SearchParams.ofPairs_eq_ok_iff.mpr ⟨hquery, hsort⟩⟩

theorem ofQuery_eq_ok_iff : Filter.ofQuery query = .ok f ↔ f.IsAskedBy (Form.decode query) := by
  unfold Filter.ofQuery
  cases hp : SearchParams.ofPairs (Form.decode query) with
  | error m =>
    refine ⟨fun h => (by cases h), fun h => ?_⟩
    obtain ⟨p, hp'⟩ := exists_ofPairs h.once.1 h.once.2
    cases hp.symm.trans hp'
  | ok p =>
    obtain ⟨hquery, hsort⟩ := SearchParams.ofPairs_eq_ok_iff.mp hp
    dsimp only
    rw [filter_eq_ok_iff, direction_eq_ok_iff hsort, query_getD_eq_iff hquery]
    exact ⟨fun ⟨hd, hq⟩ => ⟨hq, hd⟩, fun h => ⟨h.direction, h.query⟩⟩

theorem exists_of_ofQuery_eq_error {e : SearchError} (h : Filter.ofQuery query = .error e) :
    ∃ m, e = .invalidInput m := by
  unfold Filter.ofQuery at h
  split at h
  · obtain ⟨_, -, -, rfl⟩ := filter_eq_error_iff.mp h
    exact ⟨_, rfl⟩
  · cases h
    exact ⟨_, rfl⟩

theorem refused_iff : Refused (Form.decode query) m ↔
    Filter.ofQuery query = .error (.invalidInput m) ∨
      ∃ f, Filter.ofQuery query = .ok f ∧ f.validate ≠ .ok () ∧ "INVALID: " ++ f.text = m := by
  constructor
  · intro h
    cases h with
    | repeated hname =>
      refine .inl ?_
      unfold Filter.ofQuery
      rw [SearchParams.ofPairs_eq_error_iff.mpr ⟨_, hname, rfl⟩]
      rfl
    | @direction text hquery hsort hnone =>
      obtain ⟨p, hp⟩ := exists_ofPairs hquery (by simp [hsort])
      have htext : p.sort = .some text := by
        have hlist := (SearchParams.ofPairs_eq_ok_iff.mp hp).2
        rw [hsort] at hlist
        cases hs : p.sort <;> simp_all
      refine .inl ?_
      unfold Filter.ofQuery
      rw [hp]
      exact filter_eq_error_iff.mpr ⟨text, htext, hnone, rfl⟩
    | filter hf hinvalid => exact .inr ⟨_, ofQuery_eq_ok_iff.mpr hf, hinvalid, rfl⟩
  · rintro (h | ⟨f, hf, hinvalid, rfl⟩)
    · unfold Filter.ofQuery at h
      split at h
      · next p hp =>
        obtain ⟨hquery, hsort⟩ := SearchParams.ofPairs_eq_ok_iff.mp hp
        obtain ⟨text, htext, hnone, he⟩ := filter_eq_error_iff.mp h
        cases he
        refine .direction (hquery ▸ SearchParams.length_toList_le _) ?_ hnone
        rw [hsort, htext]
        rfl
      · next m' hp =>
        cases h
        obtain ⟨name, hname, rfl⟩ := SearchParams.ofPairs_eq_error_iff.mp hp
        exact .repeated hname
    · exact .filter (ofQuery_eq_ok_iff.mp hf) hinvalid

/-! ### What pairs lead to is one thing -/

theorem Filter.IsAskedBy.unique {f g : Filter} (hf : f.IsAskedBy (Form.decode query))
    (hg : g.IsAskedBy (Form.decode query)) : f = g :=
  Except.ok.inj ((ofQuery_eq_ok_iff.mpr hf).symm.trans (ofQuery_eq_ok_iff.mpr hg))

theorem Refused.invalid (h : Refused (Form.decode query) m) (hf : f.IsAskedBy (Form.decode query)) :
    f.validate ≠ .ok () := by
  have hq := ofQuery_eq_ok_iff.mpr hf
  rcases refused_iff.mp h with he | ⟨g, hg, hinvalid, -⟩
  · cases hq.symm.trans he
  · cases hq.symm.trans hg
    exact hinvalid

theorem Refused.unique {m' : String} (h : Refused (Form.decode query) m)
    (h' : Refused (Form.decode query) m') : m = m' := by
  rcases refused_iff.mp h with he | ⟨f, hf, -, rfl⟩ <;>
    rcases refused_iff.mp h' with he' | ⟨g, hg, -, rfl⟩
  · cases he.symm.trans he'
    rfl
  · cases he.symm.trans hg
  · cases hf.symm.trans he'
  · cases hf.symm.trans hg
    rfl

end MarketSearch
