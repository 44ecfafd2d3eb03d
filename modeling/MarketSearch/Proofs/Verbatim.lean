/-
What becomes of the text of a variable that sets a text.

The text is read as a flag or a number first and written back
(`Environment.rendered`), so it is loaded as it stands exactly when that is how
its value is written (`Environment.IsVerbatim`): a flag in small letters, a
whole number without a plus sign and without zeros in front
(`Numeral.intChars_eq_iff`), a number in its plain form, or a text that is
neither (`Settings.text_of_variable`).
-/
import MarketSearch.Proofs.Precedence
import MarketSearch.Proofs.Writing

namespace MarketSearch

/-! ## Canonical numerals -/

namespace Numeral

theorem digitChar_of_digitValue? {c : Char} {d : Nat} (h : digitValue? 10 c = .some d) :
    d < 10 ∧ digitChar d = c := by
  have hall : ∀ n < 58, ∀ d ∈ digitValue? 10 (Char.ofNat n), d < 10 ∧ digitChar d = Char.ofNat n := by decide
  have hc := hall c.toNat (toNat_lt_of_decimal (Option.isSome_of_mem h))
  rw [Char.ofNat_toNat] at hc
  exact hc d h

/-- Digits after a number that is not zero stand behind its own. -/
theorem digits_of_valueFrom {m n : Nat} {cs : List Char} (hm : 0 < m) (h : valueFrom 10 m cs = .some n) :
    digits n = digits m ++ cs := by
  induction cs generalizing m with
  | nil =>
    cases h
    exact (List.append_nil _).symm
  | cons c cs ih =>
    obtain ⟨d, hd, h⟩ := Option.bind_eq_some_iff.mp h
    obtain ⟨hlt, hchar⟩ := digitChar_of_digitValue? hd
    rw [ih (by omega) h, digits_push hm hlt, hchar, List.append_assoc, List.singleton_append]

/-- Digits with no zero in front are the digits of their value. -/
theorem digits_of_value? {c : Char} {r : List Char} {n : Nat} (hc : c ≠ '0') (h : value? 10 (c :: r) = .some n) :
    digits n = c :: r := by
  obtain ⟨d, hd, h⟩ := Option.bind_eq_some_iff.mp h
  obtain ⟨hlt, hchar⟩ := digitChar_of_digitValue? hd
  have hpos : 0 < d := by
    refine Nat.pos_of_ne_zero fun hzero => hc ?_
    subst hzero
    exact hchar.symm
  have hdigits : digits d = [c] := by
    rw [digits, inBase, if_pos hlt, hchar]
  rw [digits_of_valueFrom (by omega) h, Nat.mul_zero, Nat.zero_add, hdigits, List.singleton_append]

/-- A whole number as it is written: zero, or a digit other than zero in front, perhaps after a minus sign. -/
def IsCanonical (cs : List Char) : Prop :=
  cs = ['0'] ∨ ∃ c r, c ≠ '0' ∧ c ≠ '+' ∧ c ≠ '-' ∧ (cs = c :: r ∨ cs = '-' :: c :: r)

/-- What is written is canonical. -/
theorem isCanonical_intChars (n : Int) : IsCanonical (intChars n) := by
  have hdigits : ∀ m, m ≠ 0 → ∃ c r, c ≠ '0' ∧ c ≠ '+' ∧ c ≠ '-' ∧ digits m = c :: r := by
    intro m hm
    obtain ⟨c, r, hcr⟩ := List.exists_cons_of_ne_nil (digits_ne_nil m)
    have hzero := head?_digits hm
    have hdigit : c.isDigit = true := isDigit_of_mem_digits (n := m) (by rw [hcr]; exact List.mem_cons_self)
    rw [hcr] at hzero
    refine ⟨c, r, fun h => hzero (congrArg some h), ?_, ?_, hcr⟩
    · rintro rfl
      cases hdigit
    · rintro rfl
      cases hdigit
  cases n with
  | ofNat m =>
    by_cases hm : m = 0
    · subst hm
      exact .inl digits_zero
    · obtain ⟨c, r, hzero, hplus, hminus, hcr⟩ := hdigits m hm
      exact .inr ⟨c, r, hzero, hplus, hminus, .inl hcr⟩
  | negSucc m =>
    obtain ⟨c, r, hzero, hplus, hminus, hcr⟩ := hdigits (m + 1) (Nat.succ_ne_zero m)
    exact .inr ⟨c, r, hzero, hplus, hminus, .inr (congrArg ('-' :: ·) hcr)⟩

/-- What is read behind a minus sign, behind a plus sign, or without a sign. -/
theorem int64?_eq_some {n : Int} {cs : List Char} (h : int64? cs = .some n) :
    (∃ r m, cs = '-' :: r ∧ value? 10 r = .some m ∧ n = -(m : Int)) ∨
      (∃ r m, cs = '+' :: r ∧ value? 10 r = .some m ∧ n = m) ∨ ∃ m, value? 10 cs = .some m ∧ n = m := by
  unfold int64? at h
  obtain ⟨h, -⟩ := Option.filter_eq_some_iff.mp h
  have hread : ∀ (f : Int → Int) (r : List Char), ((do let m ← value? 10 r; pure (m : Int)) : Option Int).map f = .some n →
      ∃ m : Nat, value? 10 r = .some m ∧ n = f m := by
    intro f r hr
    simp only [Option.map_eq_some_iff, Option.bind_eq_bind, Option.bind_eq_some_iff, Option.pure_def,
      Option.some.injEq] at hr
    obtain ⟨_, ⟨m, hm, rfl⟩, rfl⟩ := hr
    exact ⟨m, hm, rfl⟩
  split at h
  · next r =>
    obtain ⟨m, hm, hn⟩ := hread _ _ h
    exact .inl ⟨_, m, rfl, hm, hn⟩
  · obtain ⟨m, hm, hn⟩ := hread _ _ h
    exact .inr (.inl ⟨_, m, rfl, hm, hn⟩)
  · obtain ⟨m, hm, hn⟩ := hread _ _ h
    exact .inr (.inr ⟨m, hm, hn⟩)

/-- **A whole number is written as it was read** exactly when it was read from a canonical numeral. -/
theorem intChars_eq_iff {n : Int} {cs : List Char} (h : int64? cs = .some n) : intChars n = cs ↔ IsCanonical cs := by
  constructor
  · rintro rfl
    exact isCanonical_intChars n
  · rintro (rfl | ⟨c, r, hzero, hplus, hminus, rfl | rfl⟩)
    · have hzero : int64? ['0'] = .some 0 := by decide
      obtain rfl : n = 0 := Option.some.inj (h.symm.trans hzero)
      exact digits_zero
    · obtain ⟨_, _, hcs, -⟩ | ⟨_, _, hcs, -⟩ | ⟨m, hm, rfl⟩ := int64?_eq_some h
      · exact absurd (List.cons_eq_cons.mp hcs).1 hminus
      · exact absurd (List.cons_eq_cons.mp hcs).1 hplus
      · exact digits_of_value? hzero hm
    · obtain ⟨_, m, hcs, hm, rfl⟩ | ⟨_, _, hcs, -⟩ | ⟨m, hm, rfl⟩ := int64?_eq_some h
      · obtain rfl := (List.cons_eq_cons.mp hcs).2
        have hdigits := digits_of_value? hzero hm
        cases m with
        | zero => exact absurd (List.cons_eq_cons.mp (digits_zero.symm.trans hdigits)).1.symm hzero
        | succ m => exact congrArg ('-' :: ·) hdigits
      · cases hcs
      · cases hm

end Numeral

/-! ## Texts written back -/

namespace Environment

/-- What a text is once it has been read as a value and written back. -/
def rendered (s : String) : String :=
  if Text.toLower s = "true" ∨ Text.toLower s = "false" then Text.toLower s
  else
    match Numeral.int64? s.toList, Binary64.ofText? s with
    | .some n, _ => Numeral.intText n
    | .none, .some x => x.plainText
    | .none, .none => s

/-- The text of a value as the value is written. -/
def IsVerbatim (s : String) : Prop :=
  if Text.toLower s = "true" ∨ Text.toLower s = "false" then Text.toLower s = s
  else
    match Numeral.int64? s.toList, Binary64.ofText? s with
    | .some _, _ => Numeral.IsCanonical s.toList
    | .none, .some x => x.plainText = s
    | .none, .none => True

theorem rendered_eq_self_iff (s : String) : rendered s = s ↔ IsVerbatim s := by
  unfold rendered IsVerbatim
  split
  · rfl
  · split
    · next n _ hn =>
      rw [Numeral.intText, ← Numeral.intChars_eq_iff hn, ← String.toList_inj, String.toList_ofList]
    · rfl
    · exact iff_of_true rfl trivial

example : rendered "1e3" = "1000" ∧ rendered "+5" = "5" ∧ rendered "s3cret" = "s3cret" := by decide +kernel

theorem text_valueOf (s : String) (o : Option String) : Setting.text (.scalar o (valueOf s)) = .ok (rendered s) := by
  unfold valueOf rendered
  by_cases htrue : Text.toLower s = "true"
  · rw [if_pos htrue, if_pos (.inl htrue), htrue]
    rfl
  · by_cases hfalse : Text.toLower s = "false"
    · rw [if_neg htrue, if_pos hfalse, if_pos (.inr hfalse), hfalse]
      rfl
    · rw [if_neg htrue, if_neg hfalse, if_neg (not_or.mpr ⟨htrue, hfalse⟩)]
      cases Numeral.int64? s.toList with
      | some n => rfl
      | none => cases Binary64.ofText? s <;> rfl

end Environment

/-! ## Texts of variables -/

namespace Settings

/-- **A text that a variable sets is loaded as it is written back**, and so as it stands exactly when it is
the text of a flag or a number as these are written, or of neither.  Variables after it set other places. -/
theorem text_of_variable {n : SettingName} (hkind : n.kind = .text) {files : Files} {env before after : Environment}
    {name text : String} {s : Settings} (hload : load files env = .ok s)
    (henv : environment files env = before ++ (name, text) :: after) (hname : n.IsNamedBy name)
    (hafter : ∀ v ∈ after, ∀ key, Environment.settingKey? v.1 = .some key →
      Setting.Apart (SettingPath.ofKey key) n.path) :
    s.get n = .str (Environment.rendered text) ∧ (s.get n = .str text ↔ Environment.IsVerbatim text) := by
  have hget : s.get n = .str (Environment.rendered text) := by
    obtain ⟨base, -, hload⟩ := bind_eq_ok_iff.mp hload
    obtain ⟨named, -, hload⟩ := bind_eq_ok_iff.mp hload
    have hlayer : (environment files env).layer = Environment.layer before ++
        (".".intercalate n.path, .scalar (.some Environment.origin) (Environment.valueOf text)) ::
          Environment.layer after := by
      rw [henv, Environment.layer, List.filterMap_append, List.filterMap_cons, Environment.setting?,
        SettingName.settingKey?_eq_some hname]
      rfl
    have hapart : ∀ x ∈ Environment.layer after, Setting.Apart (SettingPath.ofKey x.1) n.path := by
      intro x hx
      obtain ⟨v, hv, hset⟩ := List.mem_filterMap.mp hx
      obtain ⟨key, hkey, rfl⟩ := Option.map_eq_some_iff.mp hset
      exact hafter v hv key hkey
    have hstands : (([base, named, (environment files env).layer].foldl Setting.overlay defaultTree).atPath? n.path) =
        .some (.scalar (.some Environment.origin) (Environment.valueOf text)) := by
      rw [List.foldl_cons, List.foldl_cons, List.foldl_cons, List.foldl_nil, hlayer, Setting.overlay_append,
        Setting.overlay_cons, Setting.atPath?_overlay_of_apart hapart, SettingName.ofKey_path]
      exact Setting.atPath?_mergeAt_self (by rintro _ _ ⟨⟩) _ _
    have hread := yields_get n _ s _ (isTidy_foldl isTidy_defaultTree _) (ofTree_eq_ok hload) hstands
    rw [hkind, SettingKind.read, Environment.text_valueOf] at hread
    exact (Except.ok.inj hread).symm
  refine ⟨hget, ?_⟩
  rw [hget, Json.str.injEq]
  exact Environment.rendered_eq_self_iff text

/-- The flag `TRUE` as a secret, with another variable after it. -/
theorem text_of_capital_flag :
    let env := [("PRODUCT_COMPOSITE__AUTH__JWT_SECRET", "TRUE"), ("PRODUCT_COMPOSITE__SERVER__PORT", "9090")]
    let s := { default with
      auth := { default.auth with secret := "true" }, server := { default.server with port := 9090 } }
    load [] env = .ok s ∧ s.get .secret = .str (Environment.rendered "TRUE") ∧
      (s.get .secret = .str "TRUE" ↔ Environment.IsVerbatim "TRUE") := by
  intro env s
  have hload : load [] env = .ok s := by decide +kernel
  have henv : environment [] env = [] ++ ("PRODUCT_COMPOSITE__AUTH__JWT_SECRET", "TRUE") ::
      [("PRODUCT_COMPOSITE__SERVER__PORT", "9090")] := rfl
  refine ⟨hload, text_of_variable rfl hload henv (by decide +kernel) fun v hv key hkey => ?_⟩
  obtain rfl := List.mem_singleton.mp hv
  have hport : SettingName.port.IsNamedBy "PRODUCT_COMPOSITE__SERVER__PORT" := by decide +kernel
  exact SettingName.apart_of_isNamedBy hport (by decide) hkey

/-- A secret of digits with zeros in front is loaded without them. -/
theorem secret_without_zeros :
    ∃ s, load [] [("PRODUCT_COMPOSITE__AUTH__JWT_SECRET", "007")] = .ok s ∧ s.get .secret = .str "7" :=
  ⟨{ default with auth := ⟨"7", "product:read"⟩ }, by decide +kernel, rfl⟩

end Settings
end MarketSearch
