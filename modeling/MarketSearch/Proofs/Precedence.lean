/-
Precedence: each setting is what the highest layer that sets it says, and its
default where none does (`Settings.get_of_highest_layer`).

A layer is summed up, for one setting, by what it gives it (`Settings.Gives`):
laid over any tree it puts that at the path of the setting and, giving nothing,
leaves what is there.  Files that have the shape of the schema and variables
that are spelled as it has them are such layers.  A run over layers then hands
on the last thing given (`Settings.Stands.foldl`), so nothing that is said about
other settings matters.
-/
import MarketSearch.Proofs.Variables

namespace MarketSearch

open Setting (ofJson ofFields)

/-! ## Documents -/

/-- The values at a path of names, in their order. -/
def Json.valuesAt (x : Json) : List String → List Json
  | [] => [x]
  | k :: p => (x.under k).flatMap fun y => y.valuesAt p

namespace SettingName

/-- What a document says to the setting: the last value at its path. -/
def fromDocument (n : SettingName) (document : List (String × Json)) : Option Json :=
  ((Json.obj document).valuesAt n.path).getLast?

end SettingName

section

variable {n : SettingName} {x y : Json} {p rest : List String} {o : Option String}

theorem Setting.ofFields_eq_map (o : Option String) (fields : List (String × Json)) :
    ofFields o fields = fields.map fun f => (f.1, ofJson o f.2) := by
  induction fields with
  | nil => rfl
  | cons f fields ih =>
    obtain ⟨m, y⟩ := f
    rw [ofFields, ih, List.map_cons]

theorem Setting.under_ofFields (k : String) (o : Option String) (fields : List (String × Json)) :
    Layout.under k (ofFields o fields) = (Layout.under k fields).map (ofJson o) := by
  rw [ofFields_eq_map, Layout.under, Layout.under, List.filter_map, List.map_map, List.map_map]
  rfl

theorem Setting.under_ofJson (k : String) (o : Option String) (x : Json) :
    Layout.under k (ofJson o x).fields = (x.under k).map (ofJson o) := by
  cases x with
  | obj fields => exact under_ofFields k o fields
  | _ => rfl

/-- A document gives at a path what it has there. -/
theorem Setting.given_ofJson (o : Option String) (x : Json) (p : List String) :
    (ofJson o x).given p = (x.valuesAt p).map (ofJson o) := by
  induction p generalizing x with
  | nil => rfl
  | cons k p ih => simp only [given, under_ofJson, Json.valuesAt, List.flatMap_map, List.map_flatMap, ih]

theorem SettingKind.Holds.ne_table {k : SettingKind} (h : k.Holds x) (o o' : Option String)
    (fs : List (String × Setting)) : ofJson o x ≠ .table o' fs := by
  cases h <;> rintro ⟨⟩

theorem SettingName.eq_of_append {n n' : SettingName} (h : n'.path = n.path ++ rest) : n = n' ∧ rest = [] := by
  have hn : n = n' := eq_of_isPrefixOf (List.isPrefixOf_iff_prefix.mpr ⟨rest, h.symm⟩)
  subst hn
  exact ⟨rfl, List.self_eq_append_right.mp h⟩

/-- The first names of the schema are plain. -/
theorem SettingName.ofKey_head {k : String} (hn : n.path = k :: rest) : SettingPath.ofKey k = [.key k] := by
  have hall : all.all (fun n => n.path.head?.all fun k => SettingPath.ofKey k == [.key k]) = true := by decide +kernel
  have hhead := List.all_eq_true.mp hall n n.mem_all
  rw [hn] at hhead
  simpa using hhead

theorem SettingName.path_ne_nil (n : SettingName) : n.path ≠ [] := by
  cases n <;> exact List.cons_ne_nil _ _

end

/-! ## Documents as the schema has them -/

/-- A whole number from zero to a bound. -/
def SettingKind.isCount (max : Nat) (n : Int) : Bool := 0 ≤ n && n ≤ max

theorem SettingKind.exists_of_isCount {max : Nat} {n : Int} (h : isCount max n = true) : ∃ m : Nat, n = m ∧ m ≤ max := by
  simp only [isCount, Bool.and_eq_true, decide_eq_true_eq] at h
  obtain ⟨m, rfl⟩ := Int.eq_ofNat_of_zero_le h.1
  exact ⟨m, rfl, Int.ofNat_le.mp h.2⟩

/-- Whether data is of the kind, as a test. -/
def SettingKind.accepts : SettingKind → Json → Bool
  | .text, .str _ => true
  | .flag, .bool _ => true
  | .count16, .int n => isCount (Nat.pow 2 16 - 1) n
  | .count64, .int n => isCount maxWhole n
  | .limit, .int n => isCount maxWhole n
  | .limit, .null => true
  | .sortKey, .str s => (SortKey.labelled.lookup s).isSome
  | .logFormat, .str s => (LogFormat.labelled.lookup s).isSome
  | _, _ => false

theorem SettingKind.holds_of_accepts {k : SettingKind} {x : Json} (h : k.accepts x = true) : k.Holds x := by
  unfold accepts at h
  split at h
  · exact .text _
  · exact .flag _
  · obtain ⟨m, rfl, hm⟩ := exists_of_isCount h
    exact .count16 (Nat.lt_of_le_of_lt hm (by decide))
  · obtain ⟨m, rfl, hm⟩ := exists_of_isCount h
    exact .count64 hm
  · obtain ⟨m, rfl, hm⟩ := exists_of_isCount h
    exact .limit hm
  · exact .noLimit
  · next s =>
    obtain ⟨key, hkey⟩ := Option.isSome_iff_exists.mp h
    rw [SortKey.eq_label_of_lookup hkey]
    exact .sortKey key
  · next s =>
    obtain ⟨f, hf⟩ := Option.isSome_iff_exists.mp h
    rw [LogFormat.eq_label_of_lookup hf]
    exact .logFormat f
  · cases h

namespace Settings

/-- A part of a document, at a path, that is as the schema has it: a value of its kind where a setting is, and
above settings a table of such parts. -/
inductive IsPart : List String → Json → Prop where
  | setting (n : SettingName) {x : Json} (h : n.kind.Holds x) {p : List String} (hp : n.path = p) : IsPart p x
  | table {p : List String} (habove : ∃ n : SettingName, ∃ k rest, n.path = p ++ k :: rest)
      {fields : List (String × Json)} (h : ∀ f ∈ fields, IsPart (p ++ [f.1]) f.2) : IsPart p (.obj fields)

/-! ### Checking -/

mutual

/-- Whether a part of a document is as the schema has it, as a test. -/
def checkPart (p : List String) : Json → Bool
  | .obj fields =>
    SettingName.all.any (fun n => p.isPrefixOf n.path && n.path != p) && checkFields p fields
  | x => SettingName.all.any fun n => n.path == p && n.kind.accepts x

def checkFields (p : List String) : List (String × Json) → Bool
  | [] => true
  | (k, x) :: fields => checkPart (p ++ [k]) x && checkFields p fields

end

theorem isPart_of_any {p : List String} {x : Json}
    (h : (SettingName.all.any fun n => n.path == p && n.kind.accepts x) = true) : IsPart p x := by
  obtain ⟨n, -, hn⟩ := List.any_eq_true.mp h
  obtain ⟨hp, hx⟩ := Bool.and_eq_true_iff.mp hn
  exact .setting n (SettingKind.holds_of_accepts hx) (beq_iff_eq.mp hp)

mutual

theorem isPart_of_checkPart {p : List String} : (x : Json) → checkPart p x = true → IsPart p x
  | .obj fields, h => by
    rw [checkPart] at h
    obtain ⟨habove, hfields⟩ := Bool.and_eq_true_iff.mp h
    obtain ⟨n, -, hn⟩ := List.any_eq_true.mp habove
    obtain ⟨hleads, hne⟩ := Bool.and_eq_true_iff.mp hn
    obtain ⟨rest, hrest⟩ := List.isPrefixOf_iff_prefix.mp hleads
    refine .table ⟨n, ?_⟩ (isPart_of_checkFields fields hfields)
    cases rest with
    | nil => simp [← hrest] at hne
    | cons k rest => exact ⟨k, rest, hrest.symm⟩
  | .null, h | .bool _, h | .int _, h | .float _, h | .str _, h | .arr _, h => by
    rw [checkPart] at h
    · exact isPart_of_any h
    · rintro _ ⟨⟩

theorem isPart_of_checkFields {p : List String} : (fields : List (String × Json)) → checkFields p fields = true →
    ∀ f ∈ fields, IsPart (p ++ [f.1]) f.2
  | [], _ => by simp
  | (k, x) :: fields, h => by
    rw [checkFields] at h
    obtain ⟨hx, hfields⟩ := Bool.and_eq_true_iff.mp h
    exact List.forall_mem_cons.mpr ⟨isPart_of_checkPart x hx, isPart_of_checkFields fields hfields⟩

end

/-! ### On the way to a setting -/

variable {n : SettingName} {x y : Json} {p rest : List String}

/-- A part of a document is on the way to some setting. -/
theorem IsPart.exists_name (h : IsPart p x) : ∃ n : SettingName, ∃ rest, n.path = p ++ rest := by
  cases h with
  | setting n _ hp => exact ⟨n, [], by rw [hp, List.append_nil]⟩
  | table habove _ =>
    obtain ⟨n, k, rest, hn⟩ := habove
    exact ⟨n, k :: rest, hn⟩

/-- Followed down to a setting, a part of a document leads to values of its kind. -/
theorem IsPart.opensTo (h : IsPart p x) (o : Option String) (hn : n.path = p ++ rest) :
    (ofJson o x).OpensTo rest ∧ ∀ y ∈ x.valuesAt rest, n.kind.Holds y := by
  -- On the way to a setting there is no value of another, and at its end no table: no setting stands
  -- below another.
  induction rest generalizing p x with
  | nil =>
    rw [List.append_nil] at hn
    cases h with
    | setting n' hx hp =>
      have hpath : n.path = n'.path ++ [] := by rw [hn, hp, List.append_nil]
      obtain ⟨rfl, -⟩ := SettingName.eq_of_append hpath
      exact ⟨hx.ne_table o, fun y hy => by rwa [List.mem_singleton.mp hy]⟩
    | table habove _ =>
      obtain ⟨n', k, rest, hn'⟩ := habove
      have hpath : n'.path = n.path ++ k :: rest := by rw [hn', hn]
      cases (SettingName.eq_of_append hpath).2
  | cons k rest ih =>
    cases h with
    | setting n' hx hp =>
      have hpath : n.path = n'.path ++ k :: rest := by rw [hn, hp]
      cases (SettingName.eq_of_append hpath).2
    | @table p _ fields hfields =>
      have hbelow : ∀ y ∈ Layout.under k fields, IsPart (p ++ [k]) y := by
        intro y hy
        obtain ⟨f, hf, rfl⟩ := List.mem_map.mp hy
        obtain ⟨hf, hname⟩ := List.mem_filter.mp hf
        rw [← (beq_iff_eq.mp hname : f.1 = k)]
        exact hfields f hf
      have hk : n.path = (p ++ [k]) ++ rest := by rw [hn, List.append_assoc, List.singleton_append]
      refine ⟨⟨⟨o, _, rfl⟩, fun w hw => ?_⟩, fun y hy => ?_⟩
      · obtain ⟨y, hy, rfl⟩ := List.mem_map.mp ((Setting.under_ofFields k o fields) ▸ hw)
        exact (ih (hbelow y hy) hk).1
      · obtain ⟨z, hz, hy⟩ := List.mem_flatMap.mp hy
        exact (ih (hbelow z hz) hk).2 y hy

theorem IsPart.fields {document : List (String × Json)} (h : IsPart [] (.obj document)) :
    ∀ f ∈ document, IsPart [f.1] f.2 := by
  cases h with
  | setting n _ hp => exact absurd hp n.path_ne_nil
  | table _ hfields => exact hfields

/-! ## Layers -/

/-- What a layer gives a setting, as data of its kind: laid over any tree, it puts that at the path of the
setting, and if it gives nothing it leaves what is there. -/
structure Gives (layer : Layer) (n : SettingName) (x : Option Json) : Prop where
  holds : ∀ y, x = .some y → n.kind.Holds y
  atPath : ∃ o, ∀ t : Setting, (t.overlay layer).atPath? n.path = (x.map (ofJson o)).or (t.atPath? n.path)

/-- A value of the kind of a setting stands at its path. -/
def Stands (t : Setting) (n : SettingName) (x : Json) : Prop :=
  n.kind.Holds x ∧ ∃ o, t.atPath? n.path = .some (ofJson o x)

/-- **A document in the shape of the schema gives each setting what it has there.** -/
theorem gives_document {document : List (String × Json)} (h : IsPart [] (.obj document)) (o : Option String)
    (n : SettingName) : Gives (ofFields o document) n (n.fromDocument document) := by
  have hpath : n.path = [] ++ n.path := rfl
  obtain ⟨hopens, hholds⟩ := h.opensTo o hpath
  have hplain : ∀ x ∈ ofFields o document, SettingPath.ofKey x.1 = [.key x.1] := by
    intro x hx
    rw [Setting.ofFields_eq_map] at hx
    obtain ⟨f, hf, rfl⟩ := List.mem_map.mp hx
    obtain ⟨n', rest, hn'⟩ := (h.fields f hf).exists_name
    exact SettingName.ofKey_head hn'
  refine ⟨fun y hy => hholds y (List.mem_of_getLast? hy), o, fun t => ?_⟩
  rw [Setting.atPath?_overlay hplain n.path_ne_nil hopens, ← Setting.ofJson, Setting.given_ofJson, List.getLast?_map]
  rfl

/-- **Variables that are spelled as the schema has them give each setting what they say to it.** -/
theorem gives_variables {env : Environment} (h : ∀ v ∈ env, SettingName.Spelled v) (n : SettingName) :
    Gives env.layer n (n.fromVariables env) := by
  refine ⟨fun y hy => ?_, .some Environment.origin, SettingName.atPath?_overlay_layer h⟩
  obtain ⟨v, -, hv⟩ := List.mem_filterMap.mp (List.mem_of_getLast? hy)
  obtain ⟨-, hv⟩ := Option.ite_none_right_eq_some.mp hv
  exact (SettingKind.holds_of_ofText? hv .none).1

/-- One layer: what it gives stands, or what stood before. -/
theorem Stands.overlay {t : Setting} {n : SettingName} {x : Json} {layer : Layer} {y : Option Json} (h : Stands t n x)
    (hlayer : Gives layer n y) : Stands (t.overlay layer) n (y.getD x) := by
  obtain ⟨hx, o, ht⟩ := h
  obtain ⟨hy, o', hgives⟩ := hlayer
  cases y with
  | none => exact ⟨hx, o, by rw [hgives, ht]; rfl⟩
  | some y => exact ⟨hy y rfl, o', by rw [hgives]; rfl⟩

/-- All layers: the last thing given stands, or what stood at the start. -/
theorem Stands.foldl {t : Setting} {n : SettingName} {x : Json} {layers : List Layer} {ys : List (Option Json)}
    (h : Stands t n x) (hlayers : List.Forall₂ (Gives · n ·) layers ys) :
    Stands (layers.foldl Setting.overlay t) n (ys.foldl (fun x y => y.getD x) x) := by
  induction hlayers generalizing t x with
  | nil => exact h
  | cons hlayer hlayers ih => exact ih (h.overlay hlayer)

/-! ## The defaults -/

/-- **Each default is data of its kind** and stands at its path. -/
theorem stands_default (n : SettingName) : Stands defaultTree n (default.get n) := by
  refine ⟨?_, .none, ?_⟩
  · cases n with
    | host | secret | requiredScope | imageBaseUrl | level => exact .text _
    | baseUrl x => exact .text _
    | port => exact .count16 (n := 8080) (by decide)
    | requestTimeout => exact .count64 (n := 10000) (by decide)
    | perSourceTimeout => exact .count64 (n := 5000) (by decide)
    | clientTimeout x => cases x <;> exact .count64 (n := 3000) (by decide)
    | sortKey => exact .sortKey .price
    | maxProducts => exact .noLimit
    | enabled x => exact .flag _
    | format => exact .logFormat .pretty
  · cases n with
    | enabled x | baseUrl x | clientTimeout x => cases x <;> rfl
    | _ => rfl

theorem isTidy_defaultTree : defaultTree.IsTidy := by
  have hmerge : Setting.merge defaultTree .empty = defaultTree := rfl
  rw [← hmerge]
  exact Setting.IsTidy.merge _ (.table _ List.nodup_nil (by simp))

theorem isTidy_foldl {t : Setting} (h : t.IsTidy) (layers : List Layer) : (layers.foldl Setting.overlay t).IsTidy := by
  induction layers generalizing t with
  | nil => exact h
  | cons layer layers ih => exact ih (h.overlay layer)

/-! ## Loading -/

theorem ofTree_eq_ok {t : Setting} {s : Settings} (h : ofTree t = .ok s) : read Setting.reading t = .ok s := by
  unfold ofTree at h
  split at h
  · cases h
  · next r hr =>
    split at h
    · cases h
    · cases h
      exact hr

/-- The settings of layers that give a setting known things: it has the last of them, or its default. -/
theorem get_of_ofLayers {layers : List Layer} {s : Settings} {n : SettingName} {ys : List (Option Json)}
    (h : ofLayers layers = .ok s) (hlayers : List.Forall₂ (Gives · n ·) layers ys) :
    s.get n = ys.foldl (fun x y => y.getD x) (default.get n) := by
  obtain ⟨hx, o, hstands⟩ := (stands_default n).foldl hlayers
  have hread := yields_get n _ s _ (isTidy_foldl isTidy_defaultTree layers) (ofTree_eq_ok h) hstands
  exact Except.ok.inj (hread.symm.trans (SettingKind.read_of_holds hx o))

/-- The fields of the file of a name; a file that is not found has none. -/
def document (files : Files) (name : String) : List (String × Json) :=
  match findFile files name with
  | .ok (_, format, text) => (format.fields? text).getD []
  | .error _ => []

/-- The fields of the file that a variable names, if one does. -/
def namedDocument (files : Files) (env : Environment) : List (String × Json) :=
  ((env.get? fileVariable).map (document files)).getD []

theorem fileLayer_eq_ok {path text : String} {format : FileFormat} {layer : Layer}
    (h : fileLayer path format text = .ok layer) : ∃ o, layer = ofFields o ((format.fields? text).getD []) := by
  unfold fileLayer at h
  split at h
  · next fields hfields =>
    cases h
    exact ⟨_, by rw [hfields, Option.getD_some]⟩
  · cases h

theorem optionalLayer_eq_ok {files : Files} {name : String} {layer : Layer}
    (h : optionalLayer files name = .ok layer) : ∃ o, layer = ofFields o (document files name) := by
  unfold optionalLayer at h
  unfold document
  cases hfile : findFile files name with
  | ok found =>
    rw [hfile] at h
    exact fileLayer_eq_ok h
  | error fault =>
    rw [hfile] at h
    cases h
    exact ⟨.none, rfl⟩

theorem namedLayer_eq_ok {files : Files} {env : Environment} {layer : Layer}
    (h : namedLayer files env = .ok layer) : ∃ o, layer = ofFields o (namedDocument files env) := by
  unfold namedLayer at h
  unfold namedDocument
  cases hname : env.get? fileVariable with
  | some name =>
    rw [hname] at h
    obtain ⟨⟨path, format, text⟩, hfile, h⟩ := bind_eq_ok_iff.mp h
    rw [Option.map_some, Option.getD_some, document, hfile]
    exact fileLayer_eq_ok h
  | none =>
    rw [hname] at h
    cases h
    exact ⟨.none, rfl⟩

/-- The files and variables of a start are as the schema has them. -/
structure Shaped (files : Files) (env : Environment) : Prop where
  base : IsPart [] (.obj (document files defaultFile))
  named : IsPart [] (.obj (namedDocument files (environment files env)))
  spelled : ∀ v ∈ environment files env, SettingName.Spelled v

theorem get_of_load {files : Files} {env : Environment} {s : Settings} (h : load files env = .ok s)
    (hshape : Shaped files env) (n : SettingName) : s.get n =
      (n.fromVariables (environment files env)).getD
        ((n.fromDocument (namedDocument files (environment files env))).getD
          ((n.fromDocument (document files defaultFile)).getD (default.get n))) := by
  obtain ⟨base, hbase, h⟩ := bind_eq_ok_iff.mp h
  obtain ⟨named, hnamed, h⟩ := bind_eq_ok_iff.mp h
  obtain ⟨o, rfl⟩ := optionalLayer_eq_ok hbase
  obtain ⟨o', rfl⟩ := namedLayer_eq_ok hnamed
  exact get_of_ofLayers h (.cons (gives_document hshape.base o n) (.cons (gives_document hshape.named o' n)
    (.cons (gives_variables hshape.spelled n) .nil)))

theorem get_of_ofToml {text : String} {s : Settings} {doc : List (String × Json)} (h : ofToml text = .ok s)
    (hdoc : Toml.ofText? text = .some doc) (hshape : IsPart [] (.obj doc)) (n : SettingName) :
    s.get n = (n.fromDocument doc).getD (default.get n) := by
  rw [ofToml, hdoc] at h
  exact get_of_ofLayers h (.cons (gives_document hshape .none n) .nil)

/-- **Each setting is what the highest layer that sets it says**, and its default where none does: the
variables, those of their file only where the process does not define the name; then the file that a variable
names; then the file of the service.  Settings of one text are what the text says, or the defaults. -/
theorem get_of_highest_layer (n : SettingName) :
    (∀ files env s, load files env = .ok s → Shaped files env → s.get n =
      (n.fromVariables (environment files env)).getD
        ((n.fromDocument (namedDocument files (environment files env))).getD
          ((n.fromDocument (document files defaultFile)).getD (default.get n)))) ∧
    (∀ files env, ∃ added, environment files env = env ++ added ∧ env.Adds (fileVariables files env) added) ∧
    (∀ text s doc, ofToml text = .ok s → Toml.ofText? text = .some doc → IsPart [] (.obj doc) →
      s.get n = (n.fromDocument doc).getD (default.get n)) :=
  ⟨fun _ _ _ h hshape => get_of_load h hshape n, environment_eq_append,
    fun _ _ _ h hdoc hshape => get_of_ofToml h hdoc hshape n⟩

/-- Two files, of which a variable in the third names the second. -/
def mixedFiles : Files :=
  [("config/default.toml", "[server]\nport = 9000\n[sources.lazada]\nenabled = false\n"),
   ("extra.toml", "[auth]\njwt_secret = \"s\"\n[sources.tiki]\ntimeout_ms = 7\n"),
   (".env", "PRODUCT_COMPOSITE__SERVER__PORT=9001\nPRODUCT_COMPOSITE_CONFIG=extra\n")]

/-- What a start with the three files and one variable loads. -/
def mixedSettings : Settings where
  server := ⟨"::1", 9001, 10000⟩
  auth := ⟨"s", "product:read"⟩
  results := default.results
  sources :=
    { SourcesSettings.default with
      tiki := ⟨true, "https://tiki.vn", 7⟩, lazada := ⟨false, "https://www.lazada.vn", 3000⟩ }
  logging := default.logging

/-- A document that gives the secret and leaves out one marketplace. -/
def partialText : String := "[auth]\njwt_secret = \"s\"\n[sources.lazada]\nenabled = false\n"

def partialSettings : Settings :=
  { default with
    auth := { default.auth with secret := "s" }
    sources := { SourcesSettings.default with lazada := ⟨false, "https://www.lazada.vn", 3000⟩ } }

theorem get_mixedSettings :
    let env := [("PRODUCT_COMPOSITE__SERVER__HOST", "::1")]
    (load mixedFiles env = .ok mixedSettings ∧ Shaped mixedFiles env ∧
      mixedSettings.get .port =
        (SettingName.port.fromVariables (environment mixedFiles env)).getD
          ((SettingName.port.fromDocument (namedDocument mixedFiles (environment mixedFiles env))).getD
            ((SettingName.port.fromDocument (document mixedFiles defaultFile)).getD (default.get .port)))) ∧
    ∃ doc, Toml.ofText? partialText = .some doc ∧ ofToml partialText = .ok partialSettings ∧
      partialSettings.get (.baseUrl .lazada) =
        ((SettingName.baseUrl .lazada).fromDocument doc).getD (default.get (.baseUrl .lazada)) := by
  intro env
  have hload : load mixedFiles env = .ok mixedSettings := by decide +kernel
  have hshape : Shaped mixedFiles env :=
    ⟨isPart_of_checkPart _ (by decide +kernel), isPart_of_checkPart _ (by decide +kernel), by decide +kernel⟩
  have hsome : (Toml.ofText? partialText).isSome = true := by decide +kernel
  obtain ⟨doc, hdoc⟩ := Option.isSome_iff_exists.mp hsome
  have hcheck : (Toml.ofText? partialText).all (fun doc => checkPart [] (.obj doc)) = true := by decide +kernel
  have hpart : IsPart [] (.obj doc) := isPart_of_checkPart _ (by simpa [hdoc] using hcheck)
  have hread : ofToml partialText = .ok partialSettings := by decide +kernel
  exact ⟨⟨hload, hshape, (get_of_highest_layer .port).1 _ _ _ hload hshape⟩, doc, hdoc, hread,
    (get_of_highest_layer (.baseUrl .lazada)).2.2 _ _ _ hread hdoc hpart⟩

/-- A count beyond the whole numbers that layers carry is rounded on the way, although it fits the setting and
nothing else sets that. -/
theorem get_of_large_count :
    let text := "9223372036854775809"
    let env := [("PRODUCT_COMPOSITE__AUTH__JWT_SECRET", "s"), ("PRODUCT_COMPOSITE__SERVER__REQUEST_TIMEOUT_MS", text)]
    SettingName.requestTimeout.IsNamedBy "PRODUCT_COMPOSITE__SERVER__REQUEST_TIMEOUT_MS" ∧
      Numeral.natUpTo? Setting.maxCount text.toList = .some 9223372036854775809 ∧
      ∃ s, load [] env = .ok s ∧ s.get .requestTimeout = .int 9223372036854775808 ∧
        s.get .requestTimeout ≠ .int 9223372036854775809 := by
  refine ⟨by decide +kernel, by decide +kernel, { default with
    auth := { default.auth with secret := "s" }
    server := { default.server with requestTimeout := 9223372036854775808 } }, by decide +kernel, rfl, ?_⟩
  exact fun h => absurd (Json.int.inj h) (by decide)

end Settings
end MarketSearch
