import WinFw.Proofs.PermitRules
import Mathlib.Data.Multiset.Basic
import Mathlib.Tactic.Abel

/-! # The three compositions side by side

Every composition starts with the blocked rules: `AppendNetBlockedRules`, `AppendSettingsRules`
and the optional allowed-endpoint rule. The two connection policies put the relay rule between the
settings and the allowed endpoints, and end with a tail of DNS and tunnel permits. A composition
throws when an address does not parse or a client path is null; the lemmas below say what a
successful one is made of, and the comparisons between policies are then statements about rules
counted with multiplicity.
-/

namespace WinFw

section Parts

variable (parseIpAddress : String → Except FwError IpAddress)

theorem appendRelayRules_ok {ruleset withRelays : Ruleset} {relays : List WinFwAllowedEndpoint}
    (built : appendRelayRules parseIpAddress ruleset relays = .ok withRelays) :
    ∃ ruleEndpoints, withRelays = ruleset ++ [.permitVpnRelay ruleEndpoints] := by
  obtain ⟨ruleEndpoints, -, rfl⟩ := Except.map_eq_ok built
  exact ⟨ruleEndpoints, rfl⟩

/-- The optional allowed-endpoint rule does not look at the rules before it. -/
theorem appendOptionalAllowedEndpointRules_eq (ruleset : Ruleset)
    (allowedEndpoints : Option (List WinFwAllowedEndpoint)) :
    appendOptionalAllowedEndpointRules parseIpAddress ruleset allowedEndpoints =
      (appendOptionalAllowedEndpointRules parseIpAddress [] allowedEndpoints).map (ruleset ++ ·) := by
  cases allowedEndpoints with
  | none => simp [appendOptionalAllowedEndpointRules, Except.map]
  | some endpoints =>
    simp only [appendOptionalAllowedEndpointRules, appendAllowedEndpointRules]
    cases endpoints.mapM (allowedEndpoint parseIpAddress) <;> simp [Except.map]

/-- The allowed-endpoint rules are at most the one `PermitEndpoint` rule. -/
theorem allowedEndpointRules_ok {allowedEndpoints : Option (List WinFwAllowedEndpoint)}
    {allowed : Ruleset}
    (built : appendOptionalAllowedEndpointRules parseIpAddress [] allowedEndpoints = .ok allowed) :
    allowed = [] ∨ ∃ ruleEndpoints, allowed = [.permitEndpoint ruleEndpoints] := by
  cases allowedEndpoints with
  | none => cases built; exact .inl rfl
  | some endpoints =>
    obtain ⟨ruleEndpoints, -, rfl⟩ := Except.map_eq_ok built
    exact .inr ⟨ruleEndpoints, rfl⟩

theorem appendTunnelRules_eq (ruleset : Ruleset) (interfaceType : InterfaceType)
    (tunnelIfaceAlias : Option String) (allowedTunnelTraffic : WinFwAllowedTunnelTraffic) :
    appendTunnelRules parseIpAddress ruleset interfaceType tunnelIfaceAlias allowedTunnelTraffic =
      (appendTunnelRules parseIpAddress [] interfaceType tunnelIfaceAlias
        allowedTunnelTraffic).map (ruleset ++ ·) := by
  cases tunnelIfaceAlias with
  | none => simp [appendTunnelRules, Except.map]
  | some aliasStr =>
    cases allowedTunnelTraffic with
    | all | none => simp [appendTunnelRules, Except.map]
    | one endpoint1 =>
      simp only [appendTunnelRules]
      cases tunnelEndpoint parseIpAddress endpoint1 <;> simp [Except.map]
    | two endpoint1 endpoint2 =>
      simp only [appendTunnelRules]
      cases tunnelEndpoint parseIpAddress endpoint1 <;>
        cases tunnelEndpoint parseIpAddress endpoint2 <;> simp [Except.map, Except.bind]

/-- The tunnel rules built for one interface are nothing or one twin pair of that interface. -/
theorem appendTunnelRules_ok {interfaceType : InterfaceType} {tunnelIfaceAlias : Option String}
    {allowedTunnelTraffic : WinFwAllowedTunnelTraffic} {tunnelRules : Ruleset}
    (built : appendTunnelRules parseIpAddress [] interfaceType tunnelIfaceAlias
      allowedTunnelTraffic = .ok tunnelRules) :
    tunnelRules = [] ∨ ∃ aliasStr constraint, tunnelRules =
      [.permitVpnTunnel interfaceType aliasStr constraint,
        .permitVpnTunnelService interfaceType aliasStr constraint] := by
  cases tunnelIfaceAlias with
  | none => cases built; exact .inl rfl
  | some aliasStr =>
    cases allowedTunnelTraffic with
    | all => cases built; exact .inr ⟨aliasStr, _, rfl⟩
    | none => cases built; exact .inl rfl
    | one endpoint1 =>
      obtain ⟨_, -, rfl⟩ := Except.map_eq_ok built
      exact .inr ⟨aliasStr, _, rfl⟩
    | two endpoint1 endpoint2 =>
      obtain ⟨_, -, built⟩ := Except.bind_eq_ok built
      obtain ⟨_, -, rfl⟩ := Except.map_eq_ok built
      exact .inr ⟨aliasStr, _, rfl⟩

theorem composePolicyBlocked_eq (settings : WinFwSettings)
    (allowedEndpoints : Option (List WinFwAllowedEndpoint)) :
    composePolicyBlocked parseIpAddress settings allowedEndpoints =
      (appendOptionalAllowedEndpointRules parseIpAddress [] allowedEndpoints).map
        (appendSettingsRules (appendNetBlockedRules []) settings ++ ·) :=
  appendOptionalAllowedEndpointRules_eq parseIpAddress _ _

/-- The non-tunnel DNS permit `applyPolicyConnecting` appends when it has servers. -/
def nonTunnelDnsRules (exitTunnelIfaceAlias : Option String)
    (nonTunnelDnsServers : List IpAddress) : Ruleset :=
  if nonTunnelDnsServers.isEmpty then [] else [.dnsPermitNonTunnel exitTunnelIfaceAlias nonTunnelDnsServers]

/-- The DNS and tunnel permits `applyPolicyConnected` appends after the allowed endpoints. -/
def connectedPermits (entryTunnelIfaceAlias exitTunnelIfaceAlias : Option String)
    (tunnelDnsServers nonTunnelDnsServers : List IpAddress) : Ruleset :=
  (match exitTunnelIfaceAlias with
    | some aliasStr =>
      (if tunnelDnsServers.isEmpty then [] else [.dnsPermitTunnel aliasStr tunnelDnsServers]) ++
      nonTunnelDnsRules (some aliasStr) nonTunnelDnsServers ++ tunnelTwins .exit aliasStr none
    | none => []) ++
  match entryTunnelIfaceAlias with
  | some aliasStr => tunnelTwins .entry aliasStr none
  | none => []

/-- A successful `applyPolicyConnecting` composition is the settings rules, the relay rule, the
allowed-endpoint rule if any, the non-tunnel DNS permit and the entry and exit tunnel rules. -/
theorem composePolicyConnecting_ok {settings : WinFwSettings} {relays : List WinFwAllowedEndpoint}
    {entryTunnelIfaceAlias : Option String} {allowedEntryTunnelTraffic : WinFwAllowedTunnelTraffic}
    {exitTunnelIfaceAlias : Option String} {allowedExitTunnelTraffic : WinFwAllowedTunnelTraffic}
    {allowedEndpoints : Option (List WinFwAllowedEndpoint)} {nonTunnelDnsServers : List IpAddress}
    {rules : Ruleset}
    (composed : composePolicyConnecting parseIpAddress settings relays entryTunnelIfaceAlias
      allowedEntryTunnelTraffic exitTunnelIfaceAlias allowedExitTunnelTraffic allowedEndpoints
      nonTunnelDnsServers = .ok rules) :
    ∃ ruleEndpoints allowed entry exit,
      appendOptionalAllowedEndpointRules parseIpAddress [] allowedEndpoints = .ok allowed ∧
      appendTunnelRules parseIpAddress [] .entry entryTunnelIfaceAlias allowedEntryTunnelTraffic =
        .ok entry ∧
      appendTunnelRules parseIpAddress [] .exit exitTunnelIfaceAlias allowedExitTunnelTraffic =
        .ok exit ∧
      rules = appendSettingsRules (appendNetBlockedRules []) settings ++
        [.permitVpnRelay ruleEndpoints] ++ allowed ++
        nonTunnelDnsRules exitTunnelIfaceAlias nonTunnelDnsServers ++ entry ++ exit := by
  obtain ⟨_, relayed, composed⟩ := Except.bind_eq_ok composed
  obtain ⟨ruleEndpoints, rfl⟩ := appendRelayRules_ok parseIpAddress relayed
  obtain ⟨_, allowedAppended, composed⟩ := Except.bind_eq_ok composed
  obtain ⟨_, entryAppended, exitAppended⟩ := Except.bind_eq_ok composed
  rw [appendOptionalAllowedEndpointRules_eq] at allowedAppended
  rw [appendTunnelRules_eq] at entryAppended exitAppended
  obtain ⟨allowed, allowedOk, rfl⟩ := Except.map_eq_ok allowedAppended
  obtain ⟨entry, entryOk, rfl⟩ := Except.map_eq_ok entryAppended
  obtain ⟨exit, exitOk, rfl⟩ := Except.map_eq_ok exitAppended
  exact ⟨ruleEndpoints, allowed, entry, exit, allowedOk, entryOk, exitOk, by
    simp only [nonTunnelDnsRules]; split <;> simp⟩

/-- A successful `applyPolicyConnected` composition is the settings rules, the relay rule, the
allowed-endpoint rule if any and the DNS and tunnel permits. -/
theorem composePolicyConnected_ok {settings : WinFwSettings} {relays : List WinFwAllowedEndpoint}
    {entryTunnelIfaceAlias exitTunnelIfaceAlias : Option String}
    {allowedEndpoints : Option (List WinFwAllowedEndpoint)}
    {tunnelDnsServers nonTunnelDnsServers : List IpAddress} {rules : Ruleset}
    (composed : composePolicyConnected parseIpAddress settings relays entryTunnelIfaceAlias
      exitTunnelIfaceAlias allowedEndpoints tunnelDnsServers nonTunnelDnsServers = .ok rules) :
    ∃ ruleEndpoints allowed,
      appendOptionalAllowedEndpointRules parseIpAddress [] allowedEndpoints = .ok allowed ∧
      rules = appendSettingsRules (appendNetBlockedRules []) settings ++
        [.permitVpnRelay ruleEndpoints] ++ allowed ++
        connectedPermits entryTunnelIfaceAlias exitTunnelIfaceAlias tunnelDnsServers
          nonTunnelDnsServers := by
  obtain ⟨_, relayed, composed⟩ := Except.bind_eq_ok composed
  obtain ⟨ruleEndpoints, rfl⟩ := appendRelayRules_ok parseIpAddress relayed
  obtain ⟨_, allowedAppended, rfl⟩ := Except.map_eq_ok composed
  rw [appendOptionalAllowedEndpointRules_eq] at allowedAppended
  obtain ⟨allowed, allowedOk, rfl⟩ := Except.map_eq_ok allowedAppended
  refine ⟨ruleEndpoints, allowed, allowedOk, ?_⟩
  cases exitTunnelIfaceAlias <;> cases entryTunnelIfaceAlias <;>
    simp [connectedPermits, nonTunnelDnsRules]

end Parts

/-- Whether a rule is one of the permits only the connection policies add: the relay rule, the DNS
permits and the tunnel rules. -/
def Rule.isConnectionPermit : Rule → Bool
  | .permitVpnRelay _ | .dnsPermitNonTunnel _ _ | .dnsPermitTunnel _ _ | .permitVpnTunnel _ _ _
  | .permitVpnTunnelService _ _ _ => true
  | _ => false

theorem appendTunnelRules_connectionPermit {parseIpAddress : String → Except FwError IpAddress}
    {interfaceType : InterfaceType} {tunnelIfaceAlias : Option String}
    {allowedTunnelTraffic : WinFwAllowedTunnelTraffic} {tunnelRules : Ruleset}
    (built : appendTunnelRules parseIpAddress [] interfaceType tunnelIfaceAlias
      allowedTunnelTraffic = .ok tunnelRules) :
    ∀ rule ∈ tunnelRules, rule.isConnectionPermit := by
  rcases appendTunnelRules_ok parseIpAddress built with rfl | ⟨_, _, rfl⟩ <;>
    simp [Rule.isConnectionPermit]

theorem nonTunnelDnsRules_connectionPermit (exitTunnelIfaceAlias : Option String)
    (nonTunnelDnsServers : List IpAddress) :
    ∀ rule ∈ nonTunnelDnsRules exitTunnelIfaceAlias nonTunnelDnsServers, rule.isConnectionPermit := by
  unfold nonTunnelDnsRules
  split <;> simp [Rule.isConnectionPermit]

theorem connectedPermits_connectionPermit (entryTunnelIfaceAlias exitTunnelIfaceAlias : Option String)
    (tunnelDnsServers nonTunnelDnsServers : List IpAddress) :
    ∀ rule ∈ connectedPermits entryTunnelIfaceAlias exitTunnelIfaceAlias tunnelDnsServers
      nonTunnelDnsServers, rule.isConnectionPermit := by
  unfold connectedPermits nonTunnelDnsRules
  simp only [List.forall_mem_append]
  refine ⟨?_, ?_⟩ <;> split <;> (try split_ifs) <;> simp [tunnelTwins, Rule.isConnectionPermit]

/-- With no exit alias, `applyPolicyConnected` leaves out the non-tunnel DNS permit that
`applyPolicyConnecting` composes with both selectors `All`. -/
theorem composePolicyConnected_without_exit_alias :
    composePolicyConnected exampleParse ⟨false, false⟩ [] none none none [] [.ipv4 0x08080808] =
      .ok [.blockAll, .permitLoopback, .permitDns, .dnsPermitLoopback, .dnsBlockAll,
        .permitVpnRelay []] ∧
    composePolicyConnecting exampleParse ⟨false, false⟩ [] none .all none .all none
        [.ipv4 0x08080808] =
      .ok [.blockAll, .permitLoopback, .permitDns, .dnsPermitLoopback, .dnsBlockAll,
        .permitVpnRelay [], .dnsPermitNonTunnel none [.ipv4 0x08080808]] ∧
    ((↑[Rule.blockAll, .permitLoopback, .permitDns, .dnsPermitLoopback, .dnsBlockAll,
        .permitVpnRelay []] : Multiset Rule) ≠
      ↑[Rule.blockAll, .permitLoopback, .permitDns, .dnsPermitLoopback, .dnsBlockAll,
        .permitVpnRelay [], .dnsPermitNonTunnel none [.ipv4 0x08080808]]) :=
  ⟨rfl, rfl, fun same => by simpa using congrArg Multiset.card same⟩

/-- Counted with multiplicity, `applyPolicyConnected` composes what `applyPolicyConnecting` does with
both selectors `All`, give or take the two DNS permits; both throw alike. -/
theorem composePolicyConnected_eq_connecting_all (parseIpAddress : String → Except FwError IpAddress)
    (settings : WinFwSettings) (relays : List WinFwAllowedEndpoint)
    (entryTunnelIfaceAlias exitTunnelIfaceAlias : Option String)
    (allowedEndpoints : Option (List WinFwAllowedEndpoint))
    (tunnelDnsServers nonTunnelDnsServers : List IpAddress) :
    (composePolicyConnected parseIpAddress settings relays entryTunnelIfaceAlias exitTunnelIfaceAlias
        allowedEndpoints tunnelDnsServers nonTunnelDnsServers).map (fun rules : Ruleset =>
        ((rules ++ match exitTunnelIfaceAlias with
          | some _ => []
          | none => if nonTunnelDnsServers.isEmpty then []
            else [.dnsPermitNonTunnel none nonTunnelDnsServers] : Ruleset) : Multiset Rule)) =
      (composePolicyConnecting parseIpAddress settings relays entryTunnelIfaceAlias .all
        exitTunnelIfaceAlias .all allowedEndpoints nonTunnelDnsServers).map (fun rules : Ruleset =>
        ((rules ++ match exitTunnelIfaceAlias with
          | some exitAlias => if tunnelDnsServers.isEmpty then []
            else [.dnsPermitTunnel exitAlias tunnelDnsServers]
          | none => [] : Ruleset) : Multiset Rule)) := by
  unfold composePolicyConnected composePolicyConnecting
  cases appendRelayRules parseIpAddress (appendSettingsRules (appendNetBlockedRules []) settings)
    relays with
  | error => rfl
  | ok withRelays =>
    dsimp only [Except.bind]
    cases appendOptionalAllowedEndpointRules parseIpAddress withRelays allowedEndpoints with
    | error => rfl
    | ok withAllowed =>
      cases exitTunnelIfaceAlias <;> cases entryTunnelIfaceAlias <;>
        simp only [Except.map, appendTunnelRules, List.append_assoc, ← Multiset.coe_add,
          Multiset.coe_nil] <;> split_ifs <;> simp only [List.append_nil, ← Multiset.coe_add,
          Multiset.coe_nil, Except.ok.injEq] <;> abel

section Tunnel

variable (parseIpAddress : String → Except FwError IpAddress)

end Tunnel

end WinFw
