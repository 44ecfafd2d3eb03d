/-
Variables that name settings: which path the name of a variable stands for, and
what its text is worth to a setting of each kind.

A setting has one name of a variable, up to the case of its letters
(`SettingName.IsNamedBy`).  The text of a flag, a count or a choice is taken for
what it says; that of a text is taken as it is unless it reads as a flag or a
number (`SettingKind.holds_of_ofText?`).  The variables of a file come after
those of the process and only add names that are not set yet
(`Settings.environment_eq_append`).
-/
import MarketSearch.Proofs.Lists
import MarketSearch.Proofs.Numeral
import MarketSearch.Proofs.SettingName

namespace MarketSearch

/-! ## Numerals -/

namespace Numeral

theorem toNat_lt_of_decimal {c : Char} (h : (digitValue? 10 c).isSome = true) : c.toNat < 58 := by
  refine Classical.byContradiction fun hlarge => ?_
  have hdecimal : ¬(48 ≤ c.toNat ∧ c.toNat ≤ 57) := by omega
  have hletter : ¬((if 97 ≤ c.toNat ∧ c.toNat ≤ 102 then c.toNat - 87
      else if 65 ≤ c.toNat ∧ c.toNat ≤ 70 then c.toNat - 55 else 10) < 10) := by
    split
    · omega
    · split <;> omega
  simp [digitValue?, hdecimal, hletter] at h

/-- A numeral begins with a digit. -/
theorem exists_head_of_value? {cs : List Char} {n : Nat} (h : value? 10 cs = .some n) :
    ∃ c r, cs = c :: r ∧ (digitValue? 10 c).isSome = true := by
  cases cs with
  | nil => cases h
  | cons c r =>
    simp only [value?, List.isEmpty_cons, Bool.false_eq_true, if_false, valueFrom, Option.bind_eq_some_iff] at h
    obtain ⟨d, hd, -⟩ := h
    exact ⟨c, r, rfl, Option.isSome_of_mem hd⟩

theorem natUpTo?_eq_some_iff {max n : Nat} {cs : List Char} :
    natUpTo? max cs = .some n ↔
      n ≤ max ∧ (value? 10 cs = .some n ∨ ∃ r, cs = '+' :: r ∧ value? 10 r = .some n) := by
  have hplus : ∀ r, value? 10 ('+' :: r) = .none := fun _ => rfl
  unfold natUpTo?
  split
  · next r => simp [Option.filter_eq_some_iff, hplus, and_comm]
  · next hne =>
    have hno : ¬∃ r, cs = '+' :: r ∧ value? 10 r = .some n := fun ⟨r, hr, _⟩ => hne r hr
    simp [Option.filter_eq_some_iff, hno, and_comm]

/-- A count begins with neither a letter nor a minus sign. -/
theorem exists_head_of_natUpTo? {max n : Nat} {cs : List Char} (h : natUpTo? max cs = .some n) :
    ∃ c r, cs = c :: r ∧ c.toNat < 58 := by
  obtain ⟨-, h | ⟨r, rfl, -⟩⟩ := natUpTo?_eq_some_iff.mp h
  · obtain ⟨c, r, rfl, hc⟩ := exists_head_of_value? h
    exact ⟨c, r, rfl, toNat_lt_of_decimal hc⟩
  · exact ⟨'+', r, rfl, by decide⟩

theorem int64?_of_natUpTo? {max n : Nat} {cs : List Char} (hmax : max < Nat.pow 2 63)
    (h : natUpTo? max cs = .some n) : int64? cs = .some n := by
  obtain ⟨hn, hvalue⟩ := natUpTo?_eq_some_iff.mp h
  have hrange : (-(Nat.pow 2 63 : Int) ≤ n && (n : Int) < Nat.pow 2 63) = true := by
    simp only [Bool.and_eq_true, decide_eq_true_eq]
    omega
  have hminus : ∀ r, value? 10 ('-' :: r) = .none := fun _ => rfl
  unfold int64?
  rcases hvalue with hvalue | ⟨r, rfl, hvalue⟩
  · split
    · cases (hminus _).symm.trans hvalue
    · cases hvalue
    · rw [hvalue]
      exact Option.filter_eq_some_iff.mpr ⟨rfl, hrange⟩
  · simp only [hvalue]
    exact Option.filter_eq_some_iff.mpr ⟨rfl, hrange⟩

end Numeral

/-! ## Texts as values -/

/-- What stands in front of the letters keeps its place in lower case. -/
theorem Text.head?_toLower {s : String} {c : Char} {r : List Char} (hs : s.toList = c :: r) (hc : c.toNat < 58) :
    (toLower s).toList.head? = .some c := by
  have hsigma : c ≠ 'Σ' := by
    rintro rfl
    exact absurd hc (by decide)
  have hlower : c.toLower = c := by
    have hno : ¬(c.val ≥ 'A'.val ∧ c.val ≤ 'Z'.val) := fun ⟨h, _⟩ => by
      have hletter : 65 ≤ c.toNat := h
      omega
    exact dif_neg hno
  have hforms : lowerForms c = [c] := by rw [lowerForms, if_pos (by omega), hlower]
  rw [toLower, hs, lowerFrom, if_neg hsigma, hforms, String.toList_ofList]
  rfl

namespace Environment

theorem valueOf_eq_int {s : String} {n : Int} (hword : Text.toLower s ≠ "true" ∧ Text.toLower s ≠ "false")
    (h : Numeral.int64? s.toList = .some n) : valueOf s = .int n := by
  simp only [valueOf, if_neg hword.1, if_neg hword.2, h]

/-- A count that fits is the value of its text. -/
theorem valueOf_of_natUpTo? {max n : Nat} {s : String} (hmax : max < Nat.pow 2 63)
    (h : Numeral.natUpTo? max s.toList = .some n) : valueOf s = .int n := by
  obtain ⟨c, r, hs, hc⟩ := Numeral.exists_head_of_natUpTo? h
  have hhead := Text.head?_toLower hs hc
  have hword : ∀ w : String, w.toList.head?.all (·.toNat < 58) = false → Text.toLower s ≠ w := by
    rintro w hw rfl
    rw [hhead] at hw
    simp [hc] at hw
  exact valueOf_eq_int ⟨hword _ (by decide), hword _ (by decide)⟩ (Numeral.int64?_of_natUpTo? hmax h)

end Environment

theorem SortKey.eq_label_of_lookup {s : String} {key : SortKey} (h : labelled.lookup s = .some key) : s = key.label := by
  have hmem := mem_of_lookup h
  cases key <;> simpa [labelled, label] using hmem

theorem LogFormat.eq_label_of_lookup {s : String} {f : LogFormat} (h : labelled.lookup s = .some f) : s = f.label := by
  have hmem := mem_of_lookup h
  cases f <;> simpa [labelled, label] using hmem

namespace SettingKind

/-- What the text of a variable says to a setting of the kind. -/
def ofText? : SettingKind → String → Option Json
  | .text, s => if Environment.valueOf s = .str s then .some (.str s) else .none
  | .flag, s =>
    if Text.toLower s = "true" then .some (.bool true)
    else if Text.toLower s = "false" then .some (.bool false)
    else .none
  | .count16, s => (Numeral.natUpTo? (Nat.pow 2 16 - 1) s.toList).map fun n : Nat => .int n
  | .count64, s | .limit, s => (Numeral.natUpTo? maxWhole s.toList).map fun n : Nat => .int n
  | .sortKey, s => (SortKey.labelled.lookup s).map SortKey.json
  | .logFormat, s => (LogFormat.labelled.lookup s).map fun f => .str f.label

theorem ofInt_of_le {n : Nat} (h : n ≤ maxWhole) : Setting.ofInt n = .int n := by
  have hmax : maxWhole < Nat.pow 2 63 := by decide
  exact if_pos ⟨by omega, by omega⟩

/-- A count that layers carry is read as it is. -/
theorem count_of_le {n : Nat} (h : n ≤ maxWhole) (o : Option String) :
    Setting.count (.ofJson o (.int n)) = .ok n := by
  rw [Setting.ofJson, ofInt_of_le h, Setting.count, if_neg (by omega)]
  rfl

theorem count64_of_le {n : Nat} (h : n ≤ maxWhole) (o : Option String) :
    (Setting.count64 (.ofJson o (.int n))).map (fun n => n.toNat) = .ok n := by
  have hmax : maxWhole < Nat.pow 2 64 := by decide
  rw [Setting.count64, count_of_le h]
  exact congrArg Except.ok (UInt64.toNat_ofNat_of_lt' (Nat.lt_of_le_of_lt h hmax))

/-- **Data of a kind is read as it is**, wherever it was set. -/
theorem read_of_holds {k : SettingKind} {x : Json} (h : k.Holds x) (o : Option String) :
    k.read (.ofJson o x) = .ok x := by
  cases h with
  | text | flag | noLimit => rfl
  | @count16 n h =>
    have hmax : Nat.pow 2 16 ≤ maxWhole := by decide
    have hcount := count_of_le (Nat.le_trans (Nat.le_of_lt h) hmax) o
    have hn : (UInt16.ofNat n).toNat = n := UInt16.toNat_ofNat_of_lt' h
    rw [read, Setting.count16, hcount, Except.bind, if_pos h, Except.map, hn]
  | @count64 n h =>
    obtain ⟨m, hm, hmn⟩ := map_eq_ok_iff.mp (count64_of_le h o)
    rw [read, hm, Except.map, hmn]
  | @limit n h =>
    obtain ⟨m, hm, hmn⟩ := map_eq_ok_iff.mp (count64_of_le h o)
    rw [Setting.ofJson, ofInt_of_le h] at hm
    have hread : Setting.optional Setting.count64 (.scalar o (.int n)) = .ok (.some m) := by
      rw [Setting.optional, hm, Except.map]
      rintro _ ⟨⟩
    rw [read, Setting.ofJson, ofInt_of_le h, hread, Except.map, Option.map_some, hmn]
    rfl
  | sortKey key => cases key <;> rfl
  | logFormat f => cases f <;> rfl

theorem ofJson_of_natUpTo? {max n : Nat} {s : String} (hmax : max ≤ maxWhole)
    (h : Numeral.natUpTo? max s.toList = .some n) (o : Option String) :
    n ≤ max ∧ .scalar o (Environment.valueOf s) = Setting.ofJson o (.int n) := by
  have hn := (Numeral.natUpTo?_eq_some_iff.mp h).1
  have hlt : max < Nat.pow 2 63 := Nat.lt_of_le_of_lt hmax (by decide)
  exact ⟨hn, by rw [Environment.valueOf_of_natUpTo? hlt h, Setting.ofJson, ofInt_of_le (Nat.le_trans hn hmax)]⟩

/-- **The text of a variable is worth what it says**: it is data of the kind, and its value is that data. -/
theorem holds_of_ofText? {k : SettingKind} {s : String} {x : Json} (h : k.ofText? s = .some x) (o : Option String) :
    k.Holds x ∧ .scalar o (Environment.valueOf s) = Setting.ofJson o x := by
  cases k with
  | text =>
    simp only [ofText?, Option.ite_none_right_eq_some, Option.some.injEq] at h
    obtain ⟨hvalue, rfl⟩ := h
    exact ⟨.text s, by rw [hvalue, Setting.ofJson]⟩
  | flag =>
    rw [ofText?] at h
    split at h
    · next htrue =>
      cases h
      exact ⟨.flag true, by rw [Environment.valueOf, if_pos htrue, Setting.ofJson]⟩
    · next htrue =>
      simp only [Option.ite_none_right_eq_some, Option.some.injEq] at h
      obtain ⟨hfalse, rfl⟩ := h
      exact ⟨.flag false, by rw [Environment.valueOf, if_neg htrue, if_pos hfalse, Setting.ofJson]⟩
  | count16 =>
    obtain ⟨n, hn, rfl⟩ := Option.map_eq_some_iff.mp h
    obtain ⟨hle, hvalue⟩ := ofJson_of_natUpTo? (by decide) hn o
    exact ⟨.count16 (Nat.lt_of_le_of_lt hle (by decide)), hvalue⟩
  | count64 =>
    obtain ⟨n, hn, rfl⟩ := Option.map_eq_some_iff.mp h
    obtain ⟨hle, hvalue⟩ := ofJson_of_natUpTo? (Nat.le_refl _) hn o
    exact ⟨.count64 hle, hvalue⟩
  | limit =>
    obtain ⟨n, hn, rfl⟩ := Option.map_eq_some_iff.mp h
    obtain ⟨hle, hvalue⟩ := ofJson_of_natUpTo? (Nat.le_refl _) hn o
    exact ⟨.limit hle, hvalue⟩
  | sortKey =>
    obtain ⟨key, hkey, rfl⟩ := Option.map_eq_some_iff.mp h
    rw [SortKey.eq_label_of_lookup hkey]
    refine ⟨.sortKey key, ?_⟩
    cases key <;> rfl
  | logFormat =>
    obtain ⟨f, hf, rfl⟩ := Option.map_eq_some_iff.mp h
    rw [LogFormat.eq_label_of_lookup hf]
    refine ⟨.logFormat f, ?_⟩
    cases f <;> rfl

end SettingKind

/-! ## Names of variables -/

namespace SettingName

/-- The variable of a setting, in lower case. -/
def variableName (n : SettingName) : String := "product_composite__" ++ "__".intercalate n.path

/-- A variable that sets the setting: its name counts in any letter case. -/
def IsNamedBy (n : SettingName) (name : String) : Prop := Text.toLower name = n.variableName

instance (n : SettingName) (name : String) : Decidable (n.IsNamedBy name) := inferInstanceAs (Decidable (_ = _))

/-- The key that a name in lower case stands for. -/
theorem settingKey?_eq_some {n : SettingName} {name : String} (h : n.IsNamedBy name) :
    Environment.settingKey? name = .some (".".intercalate n.path) := by
  have hall : all.all (fun n => Environment.settingPrefix.isPrefixOf n.variableName.toList &&
      String.ofList (Environment.joinParts (n.variableName.toList.drop Environment.settingPrefix.length)) ==
        ".".intercalate n.path) = true := by decide +kernel
  have hn := List.all_eq_true.mp hall n n.mem_all
  simp only [Bool.and_eq_true, beq_iff_eq] at hn
  rw [Environment.settingKey?, h, if_pos hn.1, hn.2]

theorem ofKey_path (n : SettingName) : SettingPath.ofKey (".".intercalate n.path) = n.path.map .key := by
  have hall : all.all (fun n => SettingPath.ofKey (".".intercalate n.path) == n.path.map .key) = true := by
    decide +kernel
  simpa using List.all_eq_true.mp hall n n.mem_all

/-- A variable names one setting at most. -/
theorem IsNamedBy.unique {n n' : SettingName} {name : String} (h : n.IsNamedBy name) (h' : n'.IsNamedBy name) :
    n = n' := by
  have hkey := Option.some.inj ((settingKey?_eq_some h).symm.trans (settingKey?_eq_some h'))
  have hsteps : n.path.map SettingStep.key = n'.path.map .key := by
    rw [← ofKey_path, ← ofKey_path, hkey]
  have hpath : n.path = n'.path := List.map_injective_iff.mpr (fun _ _ h => SettingStep.key.inj h) hsteps
  exact eq_of_isPrefixOf (by rw [hpath]; exact List.isPrefixOf_iff_prefix.mpr List.prefix_rfl)

/-- The paths of two settings part at some name. -/
theorem apart {n n' : SettingName} (h : n ≠ n') : Setting.Apart (n.path.map .key) n'.path :=
  Setting.apart_of_not_isPrefixOf (Bool.eq_false_iff.mpr fun hp => h (eq_of_isPrefixOf hp))
    (Bool.eq_false_iff.mpr fun hp => h (eq_of_isPrefixOf hp).symm)

/-- A variable of another setting sets another place. -/
theorem apart_of_isNamedBy {n n' : SettingName} {name key : String} (hname : n'.IsNamedBy name) (h : n' ≠ n)
    (hkey : Environment.settingKey? name = .some key) : Setting.Apart (SettingPath.ofKey key) n.path := by
  obtain rfl := Option.some.inj (hkey.symm.trans (settingKey?_eq_some hname))
  rw [ofKey_path]
  exact apart h

/-- What variables say to the setting: the last of those that name it. -/
def fromVariables (n : SettingName) (env : Environment) : Option Json :=
  (env.filterMap fun v => if n.IsNamedBy v.1 then n.kind.ofText? v.2 else .none).getLast?

/-- A variable that sets nothing, or a setting by its name and to a value of its kind. -/
def Spelled (v : String × String) : Prop :=
  Environment.settingKey? v.1 = .none ∨ ∃ n : SettingName, n.IsNamedBy v.1 ∧ (n.kind.ofText? v.2).isSome = true

instance (v : String × String) : Decidable (Spelled v) :=
  decidable_of_iff (Environment.settingKey? v.1 = .none ∨
      ∃ n ∈ all, n.IsNamedBy v.1 ∧ (n.kind.ofText? v.2).isSome = true) <| by
    simp [Spelled, mem_all]

/-- **What the variables give a setting** stands at its path, over what stood there. -/
theorem atPath?_overlay_layer {n : SettingName} {env : Environment} (henv : ∀ v ∈ env, Spelled v) (t : Setting) :
    (t.overlay env.layer).atPath? n.path =
      ((n.fromVariables env).map (Setting.ofJson (.some Environment.origin))).or (t.atPath? n.path) := by
  -- The first variable is merged into the tree that the others are laid over: it sets nothing, this
  -- setting, which counts unless a later one names it again, or another, which leaves this one alone.
  induction env generalizing t with
  | nil => rfl
  | cons v env ih =>
    obtain ⟨hv, henv⟩ := List.forall_mem_cons.mp henv
    rcases hv with hnone | ⟨n', hname, hsome⟩
    · have hlayer : Environment.layer (v :: env) = Environment.layer env := by
        rw [Environment.layer, List.filterMap_cons, Environment.setting?, hnone]
        rfl
      have hn : ¬n.IsNamedBy v.1 := fun hn => by
        cases hnone.symm.trans (settingKey?_eq_some hn)
      rw [hlayer, ih henv, fromVariables, fromVariables, List.filterMap_cons, if_neg hn]
    · obtain ⟨x, hx⟩ := Option.isSome_iff_exists.mp hsome
      obtain ⟨-, hvalue⟩ := SettingKind.holds_of_ofText? hx (.some Environment.origin)
      have hlayer : t.overlay (Environment.layer (v :: env)) =
          (Setting.mergeAt (.ofJson (.some Environment.origin) x) (n'.path.map .key) t).overlay
            (Environment.layer env) := by
        rw [Environment.layer, List.filterMap_cons, Environment.setting?, settingKey?_eq_some hname, Option.map_some,
          hvalue, Setting.overlay_cons, ofKey_path]
        rfl
      rw [hlayer, ih henv]
      by_cases hn : n' = n
      · subst hn
        rw [Setting.atPath?_mergeAt_self (by rw [← hvalue]; rintro _ _ ⟨⟩)]
        simp only [fromVariables, List.filterMap_cons, if_pos hname, hx, List.getLast?_cons]
        cases (env.filterMap fun v => if n'.IsNamedBy v.1 then n'.kind.ofText? v.2 else .none).getLast? <;> rfl
      · have hother : ¬n.IsNamedBy v.1 := fun h => hn (hname.unique h)
        rw [Setting.atPath?_mergeAt_of_apart (apart hn)]
        simp only [fromVariables, List.filterMap_cons, if_neg hother]

end SettingName

/-! ## Files of variables -/

namespace Environment

/-- What entries add to variables: of the names that are not set, the first entry of each. -/
structure Adds (env : Environment) (entries added : List (String × String)) : Prop where
  names : (added.map Prod.fst).Nodup
  lookup : ∀ name, added.lookup name = if (env.get? name).isSome then .none else entries.lookup name

theorem Adds.cons {env : Environment} {v : String × String} {entries added : List (String × String)}
    (hv : (env.get? v.1).isSome = false) (h : Adds (env ++ [v]) entries added) :
    env.Adds (v :: entries) (v :: added) := by
  have hself : (Environment.get? (env ++ [v]) v.1).isSome = true := by
    rw [get?, List.lookup_append, List.lookup_cons_self, Option.isSome_or, Option.isSome_some, Bool.or_true]
  have hother : ∀ name, name ≠ v.1 → Environment.get? (env ++ [v]) name = env.get? name := by
    intro name hname
    rw [get?, List.lookup_append, lookup_cons_of_ne hname, List.lookup_nil, Option.or_none, get?]
  constructor
  -- A second entry of the name finds it set, so it is not added again.
  · refine List.nodup_cons.mpr ⟨fun hmem => ?_, h.names⟩
    obtain ⟨a, ha, hav⟩ := List.mem_map.mp hmem
    have hnone := h.lookup v.1
    rw [if_pos hself] at hnone
    exact absurd hav.symm (by simpa using List.lookup_eq_none_iff.mp hnone a ha)
  · intro name
    by_cases hname : name = v.1
    · rw [hname, List.lookup_cons_self, List.lookup_cons_self, hv]
      rfl
    · rw [lookup_cons_of_ne hname, lookup_cons_of_ne hname, h.lookup name, hother name hname]

theorem foldl_setDefault (entries : List (String × String)) (env : Environment) :
    ∃ added, entries.foldl (fun e v => e.setDefault v.1 v.2) env = env ++ added ∧ env.Adds entries added := by
  induction entries generalizing env with
  | nil => exact ⟨[], (List.append_nil env).symm, List.nodup_nil, fun name => by simp⟩
  | cons v entries ih =>
    rw [List.foldl_cons, setDefault]
    split
    · next hset =>
      obtain ⟨added, heq, hadds⟩ := ih env
      refine ⟨added, heq, hadds.names, fun name => ?_⟩
      rw [hadds.lookup name]
      by_cases hname : name = v.1
      · rw [hname, if_pos hset, if_pos hset]
      · rw [lookup_cons_of_ne hname]
    · next hset =>
      obtain ⟨added, heq, hadds⟩ := ih (env ++ [v])
      exact ⟨v :: added, by rw [heq, List.append_assoc, List.singleton_append], hadds.cons (by simpa using hset)⟩

end Environment

namespace EnvFile

/-- The names that lines set and their values, in the order of the lines. -/
def entriesFrom (env : Environment) (earlier : List (String × String)) :
    List (Option (List Char)) → List (String × String)
  | [] => []
  | line :: rest =>
    match line.bind readLine with
    | .none => []
    | .some .none => entriesFrom env earlier rest
    | .some (.some e) =>
      let value := evaluate env earlier e.value
      (e.name, value) :: entriesFrom (env.setDefault e.name value) ((e.name, value) :: earlier) rest

theorem setLines_eq_foldl (env : Environment) (earlier : List (String × String)) (lines : List (Option (List Char))) :
    setLines env earlier lines = (entriesFrom env earlier lines).foldl (fun e v => e.setDefault v.1 v.2) env := by
  induction lines generalizing env earlier with
  | nil => rfl
  | cons line rest ih =>
    simp only [setLines, entriesFrom]
    cases line.bind readLine with
    | none => rfl
    | some entry =>
      cases entry with
      | none => exact ih env earlier
      | some e => exact ih (env.setDefault e.name (evaluate env earlier e.value)) _

/-- The entries of a file that is loaded into an environment. -/
def entries (env : Environment) (file : String) : List (String × String) :=
  entriesFrom env [] (joinLines [] .nothing (splitLines (Toml.dropMark file.toList)))

theorem load_eq_foldl (env : Environment) (file : String) :
    load env file = (entries env file).foldl (fun e v => e.setDefault v.1 v.2) env :=
  setLines_eq_foldl _ _ _

end EnvFile

namespace Settings

/-- The entries of the file of variables, if there is one. -/
def fileVariables (files : Files) (env : Environment) : List (String × String) :=
  ((files.get? variablesFile).map (EnvFile.entries env)).getD []

/-- **The file of variables only adds names**: those of the process stay in front, and of the names that it
does not define the first entry of each comes after them. -/
theorem environment_eq_append (files : Files) (env : Environment) :
    ∃ added, environment files env = env ++ added ∧ env.Adds (fileVariables files env) added := by
  unfold environment fileVariables
  cases files.get? variablesFile with
  | none => exact ⟨[], (List.append_nil env).symm, List.nodup_nil, fun name => by simp⟩
  | some text =>
    obtain ⟨added, heq, hadds⟩ := Environment.foldl_setDefault (EnvFile.entries env text) env
    exact ⟨added, (EnvFile.load_eq_foldl env text).trans heq, hadds⟩

end Settings
end MarketSearch
