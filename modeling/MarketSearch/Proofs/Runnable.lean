/-
What it takes to run a service with settings that were checked.

Running one takes an address to listen at, a registry of the marketplaces that
are searched, and a scope that a token can grant.  The check of the settings
promises the registry (`SourcesSettings.exists_registry`) and looks at neither
the host nor the scope, so the other two hold exactly for some of the settings
that pass it (`Settings.runs_iff_of_validate`).
-/
import MarketSearch.Proofs.FirstCome
import MarketSearch.Proofs.Listening
import MarketSearch.Proofs.Upstream
import MarketSearch.Proofs.Words

namespace MarketSearch

/-- Of each marketplace that is searched there is an adapter, if one is searched at all. -/
theorem SourcesSettings.exists_registry {s : SourcesSettings} (h : s.enabled ≠ []) (network : Network) :
    ∃ r, s.registry network = .ok r ∧ r.sources = s.enabled := by
  have hnodup : ((s.enabledAdapters network).map (·.source)).Nodup := by
    rw [enabledAdapters, List.map_map]
    exact (List.map_id s.enabled).symm ▸ enabled_nodup
  have hrun := Registry.registerAll_empty_of_nodup hnodup
  have hsources := sources_of_registered hrun
  refine ⟨_, registry_eq_ok_iff.mpr ⟨hrun, ?_⟩, hsources⟩
  simp [Registry.ensureNotEmpty, Registry.isEmpty, hsources, h]

namespace Settings

variable {s : Settings}

theorem validate_eq_ok_iff : s.validate = .ok () ↔
    Text.isAllBlank s.auth.secret = false ∧ s.server.requestTimeout ≠ 0 ∧ s.results.perSourceTimeout ≠ 0 ∧
      (∀ x, (s.sources.get x).timeout ≠ 0) ∧ s.sources.enabled ≠ [] := by
  have hall : (Source.all.find? fun x => (s.sources.get x).timeout = 0) = .none ↔
      ∀ x, (s.sources.get x).timeout ≠ 0 := by
    simp [Source.mem_all]
  rw [← hall]
  unfold validate
  cases hfind : Source.all.find? fun x => (s.sources.get x).timeout = 0 with
  | some x => grind
  | none => grind

/-- The settings with another host and another scope. -/
def withHostAndScope (s : Settings) (host scope : String) : Settings :=
  { s with server := { s.server with host }, auth := { s.auth with requiredScope := scope } }

/-- The check looks at neither. -/
theorem validate_withHostAndScope (s : Settings) (host scope : String) :
    (s.withHostAndScope host scope).validate = s.validate := rfl

/-- A service can be run. -/
structure Runs (s : Settings) : Prop where
  address : ∃ a, s.server.address = .ok a
  registry : ∀ network, ∃ r, s.sources.registry network = .ok r ∧ r.sources = s.sources.enabled
  /-- Some claims are let in. -/
  scope : ∃ c : Claims, c.hasScope s.auth.requiredScope = true

/-- **What the check of the settings promises.** Settings that pass it have a registry of just the
marketplaces that are enabled.  A service can be run with them exactly if, beyond that, the host is
an address alone, of version 6 only in brackets, and the scope is one word; and they pass whatever
their host and their scope are. -/
theorem runs_iff_of_validate (h : s.validate = .ok ()) :
    (∀ network, ∃ r, s.sources.registry network = .ok r ∧ r.sources = s.sources.enabled) ∧
    (s.Runs ↔ (∃ a, SocketAddress.OfHost s.server.port s.server.host.toList a) ∧
      Text.IsWord s.auth.requiredScope.toList) ∧
    ∀ host scope, (s.withHostAndScope host scope).validate = .ok () := by
  have hregistry := SourcesSettings.exists_registry (validate_eq_ok_iff.mp h).2.2.2.2
  refine ⟨hregistry, ?_, fun host scope => (validate_withHostAndScope s host scope).trans h⟩
  simp only [← ServerSettings.address_eq_ok_iff, ← Claims.exists_hasScope_iff]
  exact ⟨fun hruns => ⟨hruns.address, hruns.scope⟩, fun ⟨ha, hc⟩ => ⟨ha, hregistry, hc⟩⟩

/-- The defaults with a secret, a host and a scope. -/
def hosted (host scope : String) : Settings := withHostAndScope { default with auth := ⟨"s", ""⟩ } host scope

/-- A host of version 6 in brackets and a scope of one word will do. -/
theorem runs_iff_of_validate_bracketed : (hosted "[::1]" "product:read").validate = .ok () ∧
    (hosted "[::1]" "product:read").Runs := by
  have hvalid : (hosted "[::1]" "product:read").validate = .ok () := by decide
  have hhost : SocketAddress.OfHost 8080 "[::1]".toList (.v6 ⟨[0, 0, 0, 0, 0, 0, 0, 1], by decide⟩ 0 8080) :=
    @SocketAddress.OfHost.v6 8080 "::1".toList _ _ (by decide)
  exact ⟨hvalid, (runs_iff_of_validate hvalid).2.1.mpr ⟨⟨_, hhost⟩, by decide⟩⟩

/-- Settings that pass the check with a host that is an address of version 6 without brackets or a
name, and with scopes that no claims grant. -/
theorem not_runs_of_validate :
    ((hosted "::1" "product:read").validate = .ok () ∧
      (hosted "::1" "product:read").server.address = .error .address) ∧
    ((hosted "localhost" "product:read").validate = .ok () ∧
      (hosted "localhost" "product:read").server.address = .error .address) ∧
    ∀ scope ∈ ["", "product:read product:write"], (hosted "0.0.0.0" scope).validate = .ok () ∧
      ∀ c : Claims, c.hasScope (hosted "0.0.0.0" scope).auth.requiredScope = false := by
  refine ⟨by decide, by decide, ?_⟩
  intro scope hscope
  refine ⟨(validate_withHostAndScope _ _ _).trans (by decide), fun c => ?_⟩
  have hword : ¬Text.IsWord scope.toList := by
    revert scope
    decide
  rw [← Bool.not_eq_true]
  exact fun hc => hword (Claims.exists_hasScope_iff.mp ⟨c, hc⟩)

end Settings
end MarketSearch
