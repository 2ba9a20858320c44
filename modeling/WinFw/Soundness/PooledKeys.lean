import WinFw.Soundness.Outcome

/-! # Pooled filters never share a key

`PermitVpnRelay` and `PermitEndpoint` take their filter keys from fixed arrays, starting at the
first entry on every `apply`. Within one rule the keys are distinct because each family's counter
only grows; across rules because every composition holds at most one rule of each class and the
relay and endpoint arrays share no GUID. So in every state the module reaches, the pooled filters
of the installed ruleset have pairwise distinct keys.
-/

namespace WinFw

/-- Whether a rule takes its filter keys from a pool: `PermitVpnRelay` and `PermitEndpoint`. -/
def Rule.isPooled : Rule → Bool
  | .permitVpnRelay _ | .permitEndpoint _ => true
  | _ => false

/-- The pooled rules of a ruleset are at most one `PermitVpnRelay` followed by at most one
`PermitEndpoint`. -/
def Ruleset.PooledOnce (ruleset : Ruleset) : Prop :=
  ∃ (relays : Option (List PermitVpnRelay.Endpoint)) (endpoints : Option (List PermitEndpoint.Endpoint)),
    ruleset.filter Rule.isPooled =
      (relays.map Rule.permitVpnRelay).toList ++ (endpoints.map Rule.permitEndpoint).toList

section Keys

variable (filtersOf : Rule → List Filter)

theorem relayKeys_nodup (endpoints : List PermitVpnRelay.Endpoint) :
    ((Rule.filters filtersOf (.permitVpnRelay endpoints)).map Filter.key).Nodup :=
  PermitVpnRelay.pool.filters_keys_nodup (fun _ _ => rfl) (fun _ _ => rfl) (by decide)

theorem endpointKeys_nodup (endpoints : List PermitEndpoint.Endpoint) :
    ((Rule.filters filtersOf (.permitEndpoint endpoints)).map Filter.key).Nodup :=
  PermitEndpoint.pool.filters_keys_nodup (fun _ _ => rfl) (fun _ _ => rfl) (by decide)

/-- No relay filter shares its key with an allowed-endpoint filter. -/
theorem relayKeys_disjoint_endpointKeys (relays : List PermitVpnRelay.Endpoint)
    (endpoints : List PermitEndpoint.Endpoint) :
    ((Rule.filters filtersOf (.permitVpnRelay relays)).map Filter.key).Disjoint
      ((Rule.filters filtersOf (.permitEndpoint endpoints)).map Filter.key) := by
  simp only [List.Disjoint, List.mem_map]
  rintro key ⟨relayFilter, relayMember, rfl⟩ ⟨endpointFilter, endpointMember, same⟩
  have inRelayPool := PermitVpnRelay.pool.filters_key_mem (fun _ _ => rfl) (fun _ _ => rfl)
    relayFilter relayMember
  have inEndpointPool := PermitEndpoint.pool.filters_key_mem (fun _ _ => rfl) (fun _ _ => rfl)
    endpointFilter endpointMember
  rw [same] at inEndpointPool
  simp only [List.drop_zero] at inRelayPool inEndpointPool
  have inRelayArrays : relayFilter.key ∈ PermitVpnRelay.endpointIpv4Guids ++
      PermitVpnRelay.endpointIpv6Guids := List.mem_append.mpr inRelayPool
  rcases inEndpointPool with ipv4 | ipv6
  · exact endpointGuids_not_relay .ipv4 _ ipv4 inRelayArrays
  · exact endpointGuids_not_relay .ipv6 _ ipv6 inRelayArrays

/-- The filters of at most one relay rule and at most one endpoint rule have pairwise distinct
keys. -/
theorem Ruleset.PooledOnce.keys_nodup {ruleset : Ruleset} (once : Ruleset.PooledOnce ruleset) :
    ((Ruleset.filters filtersOf (ruleset.filter Rule.isPooled)).map Filter.key).Nodup := by
  obtain ⟨relays, endpoints, pooled⟩ := once
  rw [pooled]
  cases relays with
  | none =>
    cases endpoints with
    | none => exact List.nodup_nil
    | some endpoints => simpa [Ruleset.filters] using endpointKeys_nodup filtersOf endpoints
  | some relays =>
    cases endpoints with
    | none => simpa [Ruleset.filters] using relayKeys_nodup filtersOf relays
    | some endpoints =>
      simpa [Ruleset.filters] using List.nodup_append.mpr ⟨relayKeys_nodup filtersOf relays,
        endpointKeys_nodup filtersOf endpoints,
        relayKeys_disjoint_endpointKeys filtersOf relays endpoints⟩

end Keys

theorem appendSettingsRules_pooled (settings : WinFwSettings) :
    (appendSettingsRules (appendNetBlockedRules []) settings).filter Rule.isPooled = [] := by
  unfold appendSettingsRules appendNetBlockedRules
  split_ifs <;> rfl

theorem appendTunnelRules_pooled {parseIpAddress : String → Except FwError IpAddress}
    {interfaceType : InterfaceType} {tunnelIfaceAlias : Option String}
    {allowedTunnelTraffic : WinFwAllowedTunnelTraffic} {tunnelRules : Ruleset}
    (built : appendTunnelRules parseIpAddress [] interfaceType tunnelIfaceAlias
      allowedTunnelTraffic = .ok tunnelRules) :
    tunnelRules.filter Rule.isPooled = [] := by
  rcases appendTunnelRules_ok parseIpAddress built with rfl | ⟨_, _, rfl⟩ <;> rfl

theorem nonTunnelDnsRules_pooled (exitTunnelIfaceAlias : Option String)
    (nonTunnelDnsServers : List IpAddress) :
    (nonTunnelDnsRules exitTunnelIfaceAlias nonTunnelDnsServers).filter Rule.isPooled = [] := by
  unfold nonTunnelDnsRules
  split <;> rfl

theorem connectedPermits_pooled (entryTunnelIfaceAlias exitTunnelIfaceAlias : Option String)
    (tunnelDnsServers nonTunnelDnsServers : List IpAddress) :
    (connectedPermits entryTunnelIfaceAlias exitTunnelIfaceAlias tunnelDnsServers
      nonTunnelDnsServers).filter Rule.isPooled = [] := by
  unfold connectedPermits nonTunnelDnsRules
  cases exitTunnelIfaceAlias <;> cases entryTunnelIfaceAlias <;> (try split_ifs) <;> rfl

/-- The settings rules, at most one relay rule, the allowed-endpoint rules and unpooled permits
hold each pooled rule at most once. -/
theorem pooledOnce_of_parts (settings : WinFwSettings)
    (relayRule : Option (List PermitVpnRelay.Endpoint)) {allowed : Ruleset}
    (allowedShape : allowed = [] ∨
      ∃ endpoints : List PermitEndpoint.Endpoint, allowed = [Rule.permitEndpoint endpoints])
    (permits : Ruleset) (unpooled : permits.filter Rule.isPooled = []) :
    Ruleset.PooledOnce (appendSettingsRules (appendNetBlockedRules []) settings ++
      (relayRule.map Rule.permitVpnRelay).toList ++ allowed ++ permits) := by
  rcases allowedShape with rfl | ⟨endpoints, rfl⟩
  · refine ⟨relayRule, none, ?_⟩
    cases relayRule <;> simp [List.filter_append, appendSettingsRules_pooled, unpooled, Rule.isPooled]
  · refine ⟨relayRule, some endpoints, ?_⟩
    cases relayRule <;> simp [List.filter_append, appendSettingsRules_pooled, unpooled, Rule.isPooled]

theorem Request.target_pooledOnce (parseIpAddress : String → Except FwError IpAddress)
    {request : Request} {target : Installed} (targeted : request.target parseIpAddress = .ok target) :
    Ruleset.PooledOnce target.ruleset := by
  cases request with
  | applyPolicyConnecting settings =>
    obtain ⟨rules, composed, rfl⟩ := Except.map_eq_ok targeted
    obtain ⟨ruleEndpoints, _, _, _, allowedOk, entryOk, exitOk, rfl⟩ :=
      composePolicyConnecting_ok parseIpAddress composed
    simpa only [List.append_assoc] using pooledOnce_of_parts settings (some ruleEndpoints)
      (allowedEndpointRules_ok parseIpAddress allowedOk) _ (by
        simp only [List.filter_append, nonTunnelDnsRules_pooled, appendTunnelRules_pooled entryOk,
          appendTunnelRules_pooled exitOk, List.append_nil])
  | applyPolicyConnected settings =>
    obtain ⟨rules, composed, rfl⟩ := Except.map_eq_ok targeted
    obtain ⟨ruleEndpoints, _, allowedOk, rfl⟩ := composePolicyConnected_ok parseIpAddress composed
    exact pooledOnce_of_parts settings (some ruleEndpoints)
      (allowedEndpointRules_ok parseIpAddress allowedOk) _ (connectedPermits_pooled _ _ _ _)
  | applyPolicyBlocked settings =>
    obtain ⟨rules, composed, rfl⟩ := Except.map_eq_ok targeted
    rw [composePolicyBlocked_eq] at composed
    obtain ⟨_, allowedOk, rfl⟩ := Except.map_eq_ok composed
    simpa using pooledOnce_of_parts settings none (allowedEndpointRules_ok parseIpAddress allowedOk)
      [] rfl
  | reset =>
    cases targeted
    exact ⟨none, none, rfl⟩

section Interface

variable (parseIpAddress : String → Except FwError IpAddress)

theorem ApiCall.target_pooledOnce (call : ApiCall) {target : Installed}
    (targeted : call.target parseIpAddress = .ok target) : Ruleset.PooledOnce target.ruleset := by
  cases call with
  | initializePlain =>
    cases targeted
    exact ⟨none, none, rfl⟩
  | initializeBlocked settings allowedEndpoints =>
    cases settings with
    | none => cases targeted
    | some settings =>
      exact Request.target_pooledOnce parseIpAddress (show (Request.applyPolicyBlocked settings
        (makeOptionalVector allowedEndpoints)).target parseIpAddress = .ok target from targeted)
  | deinitializeWith =>
    cases targeted
    exact ⟨none, none, rfl⟩
  | reset =>
    exact Request.target_pooledOnce parseIpAddress
      (show Request.reset.target parseIpAddress = _ from targeted)
  | _ =>
    obtain ⟨_, -, targeted⟩ := Except.bind_eq_ok targeted
    exact Request.target_pooledOnce parseIpAddress targeted

/-- A property of the installed state that every call's target has holds along every replayed
log. -/
theorem ApiCall.replay_of_targets (holdsOf : Installed → Prop)
    (targets : ∀ (call : ApiCall) target, call.target parseIpAddress = .ok target → holdsOf target)
    {installed : Option Installed} (holds : ∀ held ∈ installed, holdsOf held)
    (log : List (ApiCall × Except FwError ApiResult)) :
    ∀ held ∈ ApiCall.replay parseIpAddress installed log, holdsOf held := by
  induction log generalizing installed with
  | nil => exact holds
  | cons entry rest ih =>
    refine ih fun held settled => ?_
    unfold ApiCall.settle Installed.settleApi at settled
    split at settled
    · cases settled
    · split at settled
      · cases settled
        exact targets _ _ ‹_›
      · cases settled
        exact targets _ _ ‹_›
      · exact holds held settled

end Interface

/-- From the empty module, after any sequence of `WinFw_*` calls, a context holds the filters of a
ruleset whose pooled filters have pairwise distinct keys. -/
theorem winFw_run_pooled_keys_nodup (parseIpAddress : String → Except FwError IpAddress)
    (filtersOf : Rule → List Filter) (calls : List (Engine × ApiCall)) {context : FwContext}
    (holds : (ApiCall.run parseIpAddress filtersOf calls none).1 = some context) :
    ∃ ruleset : Ruleset, context.sessionController.records =
        structuralRecords ++ (Ruleset.filters filtersOf ruleset).map .filter ∧
      ((Ruleset.filters filtersOf (ruleset.filter Rule.isPooled)).map Filter.key).Nodup := by
  have refines := ApiCall.run_none_refines parseIpAddress filtersOf calls
  have pooled := ApiCall.replay_of_targets parseIpAddress (fun held => Ruleset.PooledOnce held.ruleset)
    (fun call _ targeted => call.target_pooledOnce parseIpAddress targeted)
    (show ∀ held ∈ (none : Option Installed), Ruleset.PooledOnce held.ruleset from nofun)
    (ApiCall.run parseIpAddress filtersOf calls none).2
  rw [holds] at refines
  generalize ApiCall.replay parseIpAddress none _ = installed at refines pooled
  cases installed with
  | none => exact refines.elim
  | some held => exact ⟨held.ruleset, refines.records, (pooled held rfl).keys_nodup filtersOf⟩

/-- The host session of `exampleApiCalls`, ending in the connected policy with two relays and
four allowed endpoints of each family. -/
theorem winFw_run_pooled_keys_nodup_connecting :
    ∃ context, (ApiCall.run exampleParse exampleFiltersOf exampleApiCalls none).1 = some context ∧
      ∃ ruleset : Ruleset, context.sessionController.records =
          structuralRecords ++ (Ruleset.filters exampleFiltersOf ruleset).map .filter ∧
        ((Ruleset.filters exampleFiltersOf (ruleset.filter Rule.isPooled)).map Filter.key).Nodup :=
  ⟨_, rfl, winFw_run_pooled_keys_nodup exampleParse exampleFiltersOf exampleApiCalls rfl⟩

end WinFw
