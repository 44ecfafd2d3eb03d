/-
Tokens that are issued: the verifier of the same secret takes one for exactly
the claims that it was issued for, and lets its bearer through or misses the
scope, as the claims say (`Verifier.authorize_issue`).

An issued token is a sealed one, whose texts are the standard header and the
claims as written.  Both are written without binary numbers, so they are read
back as they were (`Json.ofChars?_of_isExact`), and what is left is what the
header and the payload say as values.
-/
import MarketSearch.Proofs.Token
import MarketSearch.Proofs.Writing

namespace MarketSearch

/-! ## Claims as written -/

namespace Claims

variable {c : Claims}

theorem isExact_json (h : c.exp < Nat.pow 2 64) (depth : Nat) : c.json.IsExact (depth + 1) := by
  refine .obj fun f hf => ?_
  simp only [List.mem_cons, List.not_mem_nil, or_false] at hf
  rcases hf with rfl | rfl | rfl
  · exact .str c.sub
  · exact .str c.scope
  · have hlow : -(Nat.pow 2 63 : Int) ≤ 0 := by decide
    exact .int ⟨by omega, Int.ofNat_lt.mpr h⟩

/-- The payload of claims says them, and for whom the token is meant it does not say. -/
theorem payload?_json (h : c.exp < Nat.pow 2 64) :
    payload? c.json = .some ⟨.some c.sub, c.scope, .some c.exp, .null⟩ := by
  have hexp : Json.unsigned64 (.int c.exp) = .ok c.exp := Json.unsigned_eq_ok_iff.mpr ⟨rfl, h⟩
  refine toOption_eq_some_iff.mpr (Json.Layout.decodeOnce_obj_eq_ok_iff.mpr ⟨?_, ?_⟩)
  · have hnames : ([("sub", .str c.sub), ("scope", .str c.scope), ("exp", .int c.exp)].map
        (Prod.fst : String × Json → String)).Nodup := by
      change ["sub", "scope", "exp"].Nodup
      decide
    exact fun f _ => Layout.length_under_le hnames f.name
  · simp only [Layout.setAll_cons_eq_ok_iff]
    refine ⟨_, rfl, _, rfl, _, congrArg (Except.map _) hexp, rfl⟩

end Claims

/-! ## Issued tokens -/

namespace Verifier

variable {v : Verifier} {now : Nat} {c : Claims}

theorem isExact_standardHeader (depth : Nat) : standardHeader.IsExact (depth + 1) := by
  refine .obj fun f hf => ?_
  simp only [List.mem_cons, List.not_mem_nil, or_false] at hf
  rcases hf with rfl | rfl
  · exact .str "JWT"
  · exact .str "HS256"

theorem issue_eq_sealed (v : Verifier) (c : Claims) :
    v.issue c = v.sealed standardHeader.chars c.json.chars := rfl

/-- The claims of an issued token are those that it was issued for. -/
theorem verify_issue (hexp : c.exp < Nat.pow 2 64) (hnow : now ≤ c.exp + leeway) :
    v.verify now (v.issue c).text = .ok c := by
  have hclaims : Claims.ofPayload? ⟨.some c.sub, c.scope, .some c.exp, .null⟩ = .some c := rfl
  rw [issue_eq_sealed]
  exact verify_sealed (Json.ofChars?_of_isExact (isExact_standardHeader _)) rfl
    (Claims.ofBytes?_view (Json.ofChars?_of_isExact (c.isExact_json hexp _)) (by simp))
    (Claims.payload?_json hexp) hclaims hnow rfl

/-- **A token that is issued is taken for the claims it was issued for.** Whatever subject and scope
they name, and whenever they end as long as that has not passed, the verifier of the same secret
returns them when they grant the scope required, misses that scope when they do not, and never
finds the token invalid. -/
theorem authorize_issue (v : Verifier) {now : Nat} {c : Claims} (hexp : c.exp < Nat.pow 2 64)
    (hnow : now ≤ c.exp + leeway) :
    (c.hasScope v.requiredScope = true → v.authorize now (v.issue c).text = .ok c) ∧
    (c.hasScope v.requiredScope = false →
      v.authorize now (v.issue c).text = .error (.missingScope v.requiredScope)) ∧
    ∀ reason, v.authorize now (v.issue c).text ≠ .error (.invalidToken reason) := by
  have hverify : v.verify now (v.issue c).text = .ok c := verify_issue hexp hnow
  cases hscope : c.hasScope v.requiredScope <;> simp [authorize, hverify, hscope]

/-- Claims with quotes, a line end and letters beyond ASCII, for the last second that there is. -/
def oddClaims : Claims := ⟨"Đỗ \"Quyên\"\n\\", "sản-phẩm:đọc product:read", 18446744073709551615⟩

theorem authorize_issue_odd :
    authorize ⟨"bí mật", "product:read"⟩ 1735689600 (issue ⟨"bí mật", "product:read"⟩ oddClaims).text =
      .ok oddClaims ∧
    authorize ⟨"bí mật", "product:write"⟩ 1735689600 (issue ⟨"bí mật", "product:write"⟩ oddClaims).text =
      .error (.missingScope "product:write") :=
  ⟨(authorize_issue ⟨"bí mật", "product:read"⟩ (by decide) (by decide)).1 (by decide),
    (authorize_issue ⟨"bí mật", "product:write"⟩ (by decide) (by decide)).2.1 (by decide)⟩

end Verifier
end MarketSearch
