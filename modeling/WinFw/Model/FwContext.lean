import WinFw.Model.Rules

/-! # The policy context

`FwContext` composes a ruleset for each policy (blocked, connecting, connected) from the host's
arguments and applies it in one transaction that first reverts the session to `m_baseline`, the
checkpoint taken when only the structural objects (provider and sublayers) were installed. The
active policy is updated only when that transaction committed. Each composition is the chain of
`Append…Rules` calls of the source. It parses the address strings of relays, allowed endpoints and
tunnel endpoints with the `wfp::IpAddress` constructor, the parameter `parseIpAddress`, which may
throw; building a client path from a null pointer while copying the allowed endpoints is
undefined, so the compositions may also abort.
-/

namespace WinFw

/-- `AppendNetBlockedRules`. -/
def appendNetBlockedRules (ruleset : Ruleset) : Ruleset :=
  ruleset ++ [.blockAll, .permitLoopback]

/-- `AppendSettingsRules`: DHCP and LAN by the settings, then the DNS rules unconditionally. -/
def appendSettingsRules (ruleset : Ruleset) (settings : WinFwSettings) : Ruleset :=
  ruleset ++ (if settings.permitDhcp then [.permitDhcp, .permitNdp] else []) ++
    (if settings.permitLan then [.permitLan, .permitLanService, .permitDhcpServer] else []) ++
    [.permitDns, .dnsPermitLoopback, .dnsBlockAll]

section Compose

variable (parseIpAddress : String → Except FwError IpAddress)

/-- The relay endpoint `AppendRelayRules` builds: null client paths are skipped, a relay on the
DNS port goes to the DNS sublayer, and the address string is parsed, which may throw. -/
def relayEndpoint (relay : WinFwAllowedEndpoint) : Except FwError PermitVpnRelay.Endpoint :=
  (parseIpAddress relay.endpoint.ip).map fun ip =>
    { ip := ip
      port := relay.endpoint.port
      protocol := relay.endpoint.protocol
      clients := relay.clients.filterMap id
      sublayer := if dnsServerPort == relay.endpoint.port then .dns else .baseline }

/-- `AppendRelayRules`: one `PermitVpnRelay` over every relay. -/
def appendRelayRules (ruleset : Ruleset) (relays : List WinFwAllowedEndpoint) :
    Except FwError Ruleset :=
  (relays.mapM (relayEndpoint parseIpAddress)).map fun ruleEndpoints =>
    ruleset ++ [.permitVpnRelay ruleEndpoints]

/-- A `std::wstring` built from a client path pointer. -/
def clientPath : Option String → Except FwError String
  | some path => .ok path
  | none => .error .nullClient

/-- The endpoint `AppendAllowedEndpointRules` builds: every client path is copied, then the
address string is parsed. -/
def allowedEndpoint (endpoint : WinFwAllowedEndpoint) : Except FwError PermitEndpoint.Endpoint :=
  (endpoint.clients.mapM clientPath).bind fun clients =>
    (parseIpAddress endpoint.endpoint.ip).map fun ip =>
      { ip := ip, port := endpoint.endpoint.port, protocol := endpoint.endpoint.protocol,
        clients := clients }

/-- `AppendAllowedEndpointRules`. -/
def appendAllowedEndpointRules (ruleset : Ruleset) (endpoints : List WinFwAllowedEndpoint) :
    Except FwError Ruleset :=
  (endpoints.mapM (allowedEndpoint parseIpAddress)).map fun ruleEndpoints =>
    ruleset ++ [.permitEndpoint ruleEndpoints]

/-- `if (allowedEndpoints.has_value()) AppendAllowedEndpointRules(…)`. -/
def appendOptionalAllowedEndpointRules (ruleset : Ruleset)
    (allowedEndpoints : Option (List WinFwAllowedEndpoint)) : Except FwError Ruleset :=
  match allowedEndpoints with
  | some endpoints => appendAllowedEndpointRules parseIpAddress ruleset endpoints
  | none => .ok ruleset

/-- `FwContext::composePolicyBlocked`. -/
def composePolicyBlocked (settings : WinFwSettings)
    (allowedEndpoints : Option (List WinFwAllowedEndpoint)) : Except FwError Ruleset :=
  appendOptionalAllowedEndpointRules parseIpAddress
    (appendSettingsRules (appendNetBlockedRules []) settings) allowedEndpoints

/-- `PermitVpnTunnel::Endpoint` from a selector's endpoint, parsing its address string. -/
def tunnelEndpoint (endpoint : WinFwEndpoint) : Except FwError PermitVpnTunnel.Endpoint :=
  (parseIpAddress endpoint.ip).map fun ip => ⟨ip, endpoint.port, endpoint.protocol⟩

/-- The twin rules for one tunnel interface: the generic and the service variant. -/
def tunnelTwins (interfaceType : InterfaceType) (tunnelInterfaceAlias : String)
    (potentialEndpoints : Option PermitVpnTunnel.Endpoints) : Ruleset :=
  [.permitVpnTunnel interfaceType tunnelInterfaceAlias potentialEndpoints,
    .permitVpnTunnelService interfaceType tunnelInterfaceAlias potentialEndpoints]

/-- The entry and the exit tunnel blocks of `applyPolicyConnecting`: nothing without an alias or
for `None`, otherwise the twins, unconstrained for `All` and pinned to the selector's parsed
endpoints, `endpoint1` first, for `One` and `Two`. -/
def appendTunnelRules (ruleset : Ruleset) (interfaceType : InterfaceType)
    (tunnelIfaceAlias : Option String) (allowedTunnelTraffic : WinFwAllowedTunnelTraffic) :
    Except FwError Ruleset :=
  match tunnelIfaceAlias, allowedTunnelTraffic with
  | some tunnelIfaceAliasStr, .all =>
    .ok (ruleset ++ tunnelTwins interfaceType tunnelIfaceAliasStr none)
  | some tunnelIfaceAliasStr, .one endpoint1 =>
    (tunnelEndpoint parseIpAddress endpoint1).map fun onlyEndpoint =>
      ruleset ++ tunnelTwins interfaceType tunnelIfaceAliasStr (some ⟨onlyEndpoint, none⟩)
  | some tunnelIfaceAliasStr, .two endpoint1 endpoint2 =>
    (tunnelEndpoint parseIpAddress endpoint1).bind fun firstEndpoint =>
      (tunnelEndpoint parseIpAddress endpoint2).map fun secondEndpoint =>
        ruleset ++ tunnelTwins interfaceType tunnelIfaceAliasStr
          (some ⟨firstEndpoint, some secondEndpoint⟩)
  | some _, .none => .ok ruleset
  | none, _ => .ok ruleset

/-- The rules `applyPolicyConnecting` composes, in the order the source appends them. -/
def composePolicyConnecting (settings : WinFwSettings) (relays : List WinFwAllowedEndpoint)
    (entryTunnelIfaceAlias : Option String) (allowedEntryTunnelTraffic : WinFwAllowedTunnelTraffic)
    (exitTunnelIfaceAlias : Option String) (allowedExitTunnelTraffic : WinFwAllowedTunnelTraffic)
    (allowedEndpoints : Option (List WinFwAllowedEndpoint)) (nonTunnelDnsServers : List IpAddress) :
    Except FwError Ruleset :=
  (appendRelayRules parseIpAddress (appendSettingsRules (appendNetBlockedRules []) settings)
      relays).bind fun withRelays =>
  (appendOptionalAllowedEndpointRules parseIpAddress withRelays allowedEndpoints).bind
    fun withAllowed =>
  let withDns := if nonTunnelDnsServers.isEmpty then withAllowed
    else withAllowed ++ [.dnsPermitNonTunnel exitTunnelIfaceAlias nonTunnelDnsServers]
  (appendTunnelRules parseIpAddress withDns .entry entryTunnelIfaceAlias
      allowedEntryTunnelTraffic).bind fun withEntry =>
  appendTunnelRules parseIpAddress withEntry .exit exitTunnelIfaceAlias allowedExitTunnelTraffic

/-- The rules `applyPolicyConnected` composes: tunnel DNS, non-tunnel DNS and the open exit
tunnel under the exit alias, then the open entry tunnel. -/
def composePolicyConnected (settings : WinFwSettings) (relays : List WinFwAllowedEndpoint)
    (entryTunnelIfaceAlias exitTunnelIfaceAlias : Option String)
    (allowedEndpoints : Option (List WinFwAllowedEndpoint))
    (tunnelDnsServers nonTunnelDnsServers : List IpAddress) : Except FwError Ruleset :=
  (appendRelayRules parseIpAddress (appendSettingsRules (appendNetBlockedRules []) settings)
      relays).bind fun withRelays =>
  (appendOptionalAllowedEndpointRules parseIpAddress withRelays allowedEndpoints).map
    fun withAllowed =>
    let withExit := (match exitTunnelIfaceAlias with
      | some exitTunnelIfaceAliasStr =>
        withAllowed ++
          (if tunnelDnsServers.isEmpty then []
            else [Rule.dnsPermitTunnel exitTunnelIfaceAliasStr tunnelDnsServers]) ++
          (if nonTunnelDnsServers.isEmpty then []
            else [Rule.dnsPermitNonTunnel (some exitTunnelIfaceAliasStr) nonTunnelDnsServers]) ++
          tunnelTwins .exit exitTunnelIfaceAliasStr none
      | none => withAllowed)
    match entryTunnelIfaceAlias with
    | some entryTunnelIfaceAliasStr => withExit ++ tunnelTwins .entry entryTunnelIfaceAliasStr none
    | none => withExit

end Compose

/-- `FwContext::Policy`. -/
inductive Policy
  | connecting
  | connected
  | blocked
  | none
deriving DecidableEq, Repr

/-- `FwContext`, with its members `m_sessionController`, `m_baseline` and `m_activePolicy`. -/
structure FwContext where
  sessionController : SessionController
  baseline : Nat
  activePolicy : Policy
deriving DecidableEq, Repr

/-- The structural objects, in the order `applyCommonBaseConfiguration` adds them. -/
def structuralRecords : List ObjectRecord :=
  [.provider MullvadGuids.provider, .sublayer MullvadGuids.sublayerBaseline,
    .sublayer MullvadGuids.sublayerDns]

/-- `applyCommonBaseConfiguration`: purge every registered object, then
`addProvider(…) && addSublayer(baseline) && addSublayer(dns)`. -/
def applyCommonBaseConfiguration (engine : Engine) : Installer Bool := fun records =>
  match runPurge engine .removeAll with
  | .ok () => installAll engine structuralRecords records
  | .error error => .error error

/-- Whether a call's outcome is `return true`. -/
def returnedTrue : Except FwError Bool → Bool
  | .ok status => status
  | .error _ => false

section Context

variable (parseIpAddress : String → Except FwError IpAddress) (filtersOf : Rule → List Filter)

/-- `applyRulesetDirectly`: apply the rules in order, stopping at the first that fails. -/
def applyRulesetDirectly (engine : Engine) : Ruleset → Installer Bool
  | [] => fun records => .ok (true, records)
  | rule :: rest => (rule.apply filtersOf engine).andThen (applyRulesetDirectly engine rest)

/-- `applyBaseConfiguration`: the structural objects in one transaction. -/
def applyBaseConfiguration (engine : Engine) (controller : SessionController) :
    Except FwError Bool × SessionController :=
  controller.executeTransaction engine (applyCommonBaseConfiguration engine) id

/-- The transaction of `applyBlockedBaseConfiguration`. Its result carries the final value of
the captured `checkpoint`, which it sets to `peekCheckpoint()` right after the structural
objects. -/
def applyBlockedBaseConfiguration (engine : Engine) (settings : WinFwSettings)
    (allowedEndpoints : Option (List WinFwAllowedEndpoint)) (controller : SessionController) :
    Except FwError (Bool × Nat) × SessionController :=
  controller.executeTransaction engine (fun records =>
    match applyCommonBaseConfiguration engine records with
    | .ok (true, structural) =>
      match composePolicyBlocked parseIpAddress settings allowedEndpoints with
      | .ok ruleset =>
        (applyRulesetDirectly filtersOf engine ruleset structural).map fun (status, applied) =>
          ((status, peekCheckpoint structural), applied)
      | .error error => .error error
    | .ok (false, records) => .ok ((false, 0), records)
    | .error error => .error error) Prod.fst

namespace FwContext

/-- `FwContext(timeout)`: install the structural objects and take the baseline checkpoint. -/
def create (engine : Engine) : Except FwError FwContext :=
  match applyBaseConfiguration engine ⟨[]⟩ with
  | (.ok true, controller) => .ok ⟨controller, controller.checkpoint, .none⟩
  | (.ok false, _) => .error (.error "Failed to apply base configuration in BFE")
  | (.error error, _) => .error error

/-- `FwContext(timeout, settings, allowedEndpoints)`: the structural objects, the baseline
checkpoint, and the blocked policy, in one transaction. -/
def createBlocked (engine : Engine) (settings : WinFwSettings)
    (allowedEndpoints : Option (List WinFwAllowedEndpoint)) : Except FwError FwContext :=
  match applyBlockedBaseConfiguration parseIpAddress filtersOf engine settings allowedEndpoints ⟨[]⟩ with
  | (.ok (true, checkpoint), controller) => .ok ⟨controller, checkpoint, .blocked⟩
  | (.ok (false, _), _) => .error (.error "Failed to apply base configuration in BFE")
  | (.error error, _) => .error error

/-- `applyRuleset`: one transaction that reverts to the baseline and applies the ruleset. -/
def applyRuleset (engine : Engine) (ruleset : Ruleset) (context : FwContext) :
    Except FwError Bool × SessionController :=
  context.sessionController.executeTransaction engine
    (fun records => applyRulesetDirectly filtersOf engine ruleset (revert context.baseline records)) id

/-- The common end of the `applyPolicy…` methods: apply the composed ruleset and set the active
policy only when the transaction committed. -/
def applyComposed (engine : Engine) (policy : Policy) (ruleset : Except FwError Ruleset)
    (context : FwContext) : Except FwError Bool × FwContext :=
  match ruleset with
  | .error error => (.error error, context)
  | .ok ruleset =>
    let (status, controller) := context.applyRuleset filtersOf engine ruleset
    (status, { context with
      sessionController := controller
      activePolicy := if returnedTrue status then policy else context.activePolicy })

/-- `applyPolicyConnecting`. -/
def applyPolicyConnecting (engine : Engine) (settings : WinFwSettings)
    (relays : List WinFwAllowedEndpoint)
    (entryTunnelIfaceAlias : Option String) (allowedEntryTunnelTraffic : WinFwAllowedTunnelTraffic)
    (exitTunnelIfaceAlias : Option String) (allowedExitTunnelTraffic : WinFwAllowedTunnelTraffic)
    (allowedEndpoints : Option (List WinFwAllowedEndpoint)) (nonTunnelDnsServers : List IpAddress)
    (context : FwContext) : Except FwError Bool × FwContext :=
  context.applyComposed filtersOf engine .connecting
    (composePolicyConnecting parseIpAddress settings relays entryTunnelIfaceAlias
      allowedEntryTunnelTraffic exitTunnelIfaceAlias allowedExitTunnelTraffic allowedEndpoints
      nonTunnelDnsServers)

/-- `applyPolicyConnected`. -/
def applyPolicyConnected (engine : Engine) (settings : WinFwSettings)
    (relays : List WinFwAllowedEndpoint) (entryTunnelIfaceAlias exitTunnelIfaceAlias : Option String)
    (allowedEndpoints : Option (List WinFwAllowedEndpoint))
    (tunnelDnsServers nonTunnelDnsServers : List IpAddress) (context : FwContext) :
    Except FwError Bool × FwContext :=
  context.applyComposed filtersOf engine .connected
    (composePolicyConnected parseIpAddress settings relays entryTunnelIfaceAlias
      exitTunnelIfaceAlias allowedEndpoints tunnelDnsServers nonTunnelDnsServers)

/-- `applyPolicyBlocked`. -/
def applyPolicyBlocked (engine : Engine) (settings : WinFwSettings)
    (allowedEndpoints : Option (List WinFwAllowedEndpoint)) (context : FwContext) :
    Except FwError Bool × FwContext :=
  context.applyComposed filtersOf engine .blocked
    (composePolicyBlocked parseIpAddress settings allowedEndpoints)

end FwContext

end Context

/-- `reset`: one transaction that reverts to the baseline. -/
def FwContext.reset (engine : Engine) (context : FwContext) : Except FwError Bool × FwContext :=
  let (status, controller) := context.sessionController.executeTransaction engine
    (fun records => .ok (true, revert context.baseline records)) id
  (status, { context with
    sessionController := controller
    activePolicy := if returnedTrue status then .none else context.activePolicy })

/-- A call of the host on the context, with its arguments. -/
inductive Request
  | applyPolicyConnecting (settings : WinFwSettings) (relays : List WinFwAllowedEndpoint)
      (entryTunnelIfaceAlias : Option String) (allowedEntryTunnelTraffic : WinFwAllowedTunnelTraffic)
      (exitTunnelIfaceAlias : Option String) (allowedExitTunnelTraffic : WinFwAllowedTunnelTraffic)
      (allowedEndpoints : Option (List WinFwAllowedEndpoint)) (nonTunnelDnsServers : List IpAddress)
  | applyPolicyConnected (settings : WinFwSettings) (relays : List WinFwAllowedEndpoint)
      (entryTunnelIfaceAlias exitTunnelIfaceAlias : Option String)
      (allowedEndpoints : Option (List WinFwAllowedEndpoint))
      (tunnelDnsServers nonTunnelDnsServers : List IpAddress)
  | applyPolicyBlocked (settings : WinFwSettings)
      (allowedEndpoints : Option (List WinFwAllowedEndpoint))
  | reset

/-- One of the two constructors of `FwContext`, with its arguments. -/
inductive Construction
  | plain
  | blocked (settings : WinFwSettings) (allowedEndpoints : Option (List WinFwAllowedEndpoint))

section Run

variable (parseIpAddress : String → Except FwError IpAddress) (filtersOf : Rule → List Filter)

/-- Construct a context. -/
def FwContext.construct (engine : Engine) : Construction → Except FwError FwContext
  | .plain => FwContext.create engine
  | .blocked settings allowedEndpoints =>
    FwContext.createBlocked parseIpAddress filtersOf engine settings allowedEndpoints

/-- Serve one request; an exception leaves the context as it was. -/
def FwContext.call (engine : Engine) : Request → FwContext → Except FwError Bool × FwContext
  | .applyPolicyConnecting settings relays entryAlias entryTraffic exitAlias exitTraffic allowed
      nonTunnel => FwContext.applyPolicyConnecting parseIpAddress filtersOf engine settings relays
        entryAlias entryTraffic exitAlias exitTraffic allowed nonTunnel
  | .applyPolicyConnected settings relays entryAlias exitAlias allowed tunnel nonTunnel =>
    FwContext.applyPolicyConnected parseIpAddress filtersOf engine settings relays entryAlias
      exitAlias allowed tunnel nonTunnel
  | .applyPolicyBlocked settings allowed =>
    FwContext.applyPolicyBlocked parseIpAddress filtersOf engine settings allowed
  | .reset => FwContext.reset engine

/-- Serve a sequence of requests, each against its own engine behaviour, and log each outcome. -/
def FwContext.run : List (Engine × Request) → FwContext →
    FwContext × List (Request × Except FwError Bool)
  | [], context => (context, [])
  | (engine, request) :: rest, context =>
    let served := context.call parseIpAddress filtersOf engine request
    let continued := run rest served.2
    (continued.1, (request, served.1) :: continued.2)

end Run

end WinFw
