import WinFw.Model.Session

/-! # Rules and the pooled permit rules

`PermitEndpoint` and `PermitVpnRelay` permit outbound traffic to a list of endpoints, one filter
per endpoint. Their keys come from fixed pools, one array per address family, indexed by a running
per-family counter; the counter is compared with the pool size only after the filter was added
with the key it indexed. Both loops are one `Pool.loop`, instantiated with each rule's pool size,
key arrays and filter builders. The remaining rule classes are modelled from the spec: each adds
a fixed list of filters in order and fails at the first one the engine rejects.
-/

namespace WinFw

/-- `guids[index]`; reading past the end of the fixed array is undefined behaviour. -/
def readGuid (array : String) (guids : List GUID) (index : Nat) : Except FwError GUID :=
  match guids[index]? with
  | some key => .ok key
  | none => .error (.readPastEnd array index)

/-- The filter of the four `Add…Filter` functions: permit outbound connections to one remote
address, port and protocol, from each of the listed client applications. -/
def permitOutbound (key : GUID) (name description : String) (layer : Layer) (sublayer : GUID)
    (weight : WeightClass) (ip : IpAddress) (port : UInt16) (protocol : WinFwProtocol)
    (clients : List String) : Filter where
  key := key
  name := name
  description := description
  provider := MullvadGuids.provider
  layer := layer
  sublayer := sublayer
  weight := weight
  action := .permit
  conditions := [.remoteIp ip, .remotePort port, .protocol protocol] ++ clients.map .application

/-- A rule that gives each endpoint the next key of its family's pool. Both arrays are declared
with `maxAllowedEndpoints` entries. -/
structure Pool (E : Type) where
  maxAllowedEndpoints : Nat
  ipv4Guids : List GUID
  ipv6Guids : List GUID
  ip : E → IpAddress
  ipv4Filter : E → GUID → Filter
  ipv6Filter : E → GUID → Filter
  ipv4Guids_length : ipv4Guids.length = maxAllowedEndpoints
  ipv6Guids_length : ipv6Guids.length = maxAllowedEndpoints

namespace Pool

variable {E : Type} (pool : Pool E) (engine : Engine)

/-- One iteration for an endpoint whose family counter is `count`: index the pool, add the
filter, and only then compare the counter, post-increment, with the pool size. -/
def step (array message : String) (guids : List GUID) (count : Nat) (filter : GUID → Filter)
    (next : Installer Bool) : Installer Bool := fun records =>
  match readGuid array guids count with
  | .error error => .error error
  | .ok key =>
    (addFilter engine (filter key)).andThen (fun added =>
      if count == pool.maxAllowedEndpoints then .error (.error message) else next added) records

/-- The loop of `apply`, from the counters `ipv4Count` and `ipv6Count` on. -/
def loop : List E → Nat → Nat → Installer Bool
  | [], _, _ => fun records => .ok (true, records)
  | endpoint :: rest, ipv4Count, ipv6Count =>
    match (pool.ip endpoint).type with
    | .ipv4 =>
      pool.step engine "ENDPOINT_IPV4_GUIDS" "Exceeded max allowed endpoints (IPv4)"
        pool.ipv4Guids ipv4Count (pool.ipv4Filter endpoint) (loop rest (ipv4Count + 1) ipv6Count)
    | .ipv6 =>
      pool.step engine "ENDPOINT_IPV6_GUIDS" "Exceeded max allowed endpoints (IPv6)"
        pool.ipv6Guids ipv6Count (pool.ipv6Filter endpoint) (loop rest ipv4Count (ipv6Count + 1))

/-- The filters the loop requests, in order, up to the first read past a pool. -/
def filters : List E → Nat → Nat → List Filter
  | [], _, _ => []
  | endpoint :: rest, ipv4Count, ipv6Count =>
    match (pool.ip endpoint).type with
    | .ipv4 =>
      match pool.ipv4Guids[ipv4Count]? with
      | some key => pool.ipv4Filter endpoint key :: filters rest (ipv4Count + 1) ipv6Count
      | none => []
    | .ipv6 =>
      match pool.ipv6Guids[ipv6Count]? with
      | some key => pool.ipv6Filter endpoint key :: filters rest ipv4Count (ipv6Count + 1)
      | none => []

end Pool

namespace PermitEndpoint

/-- `MAX_ALLOWED_ENDPOINTS`: allowed endpoints per IP protocol version. -/
def maxAllowedEndpoints : Nat := 4

/-- `ENDPOINT_IPV4_GUIDS`. -/
def endpointIpv4Guids : List GUID :=
  [MullvadGuids.filterBaselinePermitEndpointIpv4_1, MullvadGuids.filterBaselinePermitEndpointIpv4_2,
    MullvadGuids.filterBaselinePermitEndpointIpv4_3, MullvadGuids.filterBaselinePermitEndpointIpv4_4]

/-- `ENDPOINT_IPV6_GUIDS`. -/
def endpointIpv6Guids : List GUID :=
  [MullvadGuids.filterBaselinePermitEndpointIpv6_1, MullvadGuids.filterBaselinePermitEndpointIpv6_2,
    MullvadGuids.filterBaselinePermitEndpointIpv6_3, MullvadGuids.filterBaselinePermitEndpointIpv6_4]

/-- The filter `AddIpv4EndpointFilter` hands to `addFilter`. -/
def addIpv4EndpointFilter (endpoint : Endpoint) (ipv4Guid : GUID) : Filter :=
  permitOutbound ipv4Guid "Permit outbound connections to a given endpoint (IPv4)"
    "This filter is part of a rule that permits traffic to a specific endpoint" .aleAuthConnectV4
    MullvadGuids.sublayerBaseline .max endpoint.ip endpoint.port endpoint.protocol endpoint.clients

/-- The filter `AddIpv6EndpointFilter` hands to `addFilter`. -/
def addIpv6EndpointFilter (endpoint : Endpoint) (ipv6Guid : GUID) : Filter :=
  permitOutbound ipv6Guid "Permit outbound connections to a given endpoint (IPv6)"
    "This filter is part of a rule that permits traffic to a specific endpoint" .aleAuthConnectV6
    MullvadGuids.sublayerBaseline .max endpoint.ip endpoint.port endpoint.protocol endpoint.clients

/-- The key pool of `PermitEndpoint`. -/
def pool : Pool Endpoint where
  maxAllowedEndpoints := maxAllowedEndpoints
  ipv4Guids := endpointIpv4Guids
  ipv6Guids := endpointIpv6Guids
  ip := Endpoint.ip
  ipv4Filter := addIpv4EndpointFilter
  ipv6Filter := addIpv6EndpointFilter
  ipv4Guids_length := rfl
  ipv6Guids_length := rfl

/-- `PermitEndpoint::apply`. -/
def apply (engine : Engine) (endpoints : List Endpoint) : Installer Bool :=
  pool.loop engine endpoints 0 0

end PermitEndpoint

namespace PermitVpnRelay

/-- `MAX_ALLOWED_ENDPOINTS`: allowed relays per IP protocol. -/
def maxAllowedEndpoints : Nat := 2

/-- `ENDPOINT_IPV4_GUIDS`. -/
def endpointIpv4Guids : List GUID :=
  [MullvadGuids.filterBaselinePermitVpnRelayIpv4_1, MullvadGuids.filterBaselinePermitVpnRelayIpv4_2]

/-- `ENDPOINT_IPV6_GUIDS`. -/
def endpointIpv6Guids : List GUID :=
  [MullvadGuids.filterBaselinePermitVpnRelayIpv6_1, MullvadGuids.filterBaselinePermitVpnRelayIpv6_2]

/-- `TranslateSublayer`. -/
def translateSublayer : Sublayer → GUID
  | .baseline => MullvadGuids.sublayerBaseline
  | .dns => MullvadGuids.sublayerDns

/-- The filter `AddIpv4RelayFilter` hands to `addFilter`. -/
def addIpv4RelayFilter (endpoint : Endpoint) (ipv4Guid : GUID) : Filter :=
  permitOutbound ipv4Guid "Permit outbound connections to VPN relay"
    "This filter is part of a rule that permits communication with a VPN relay" .aleAuthConnectV4
    (translateSublayer endpoint.sublayer) .medium endpoint.ip endpoint.port endpoint.protocol
    endpoint.clients

/-- The filter `AddIpv6RelayFilter` hands to `addFilter`. -/
def addIpv6RelayFilter (endpoint : Endpoint) (ipv6Guid : GUID) : Filter :=
  permitOutbound ipv6Guid "Permit outbound connections to VPN relay"
    "This filter is part of a rule that permits communication with a VPN relay" .aleAuthConnectV6
    (translateSublayer endpoint.sublayer) .medium endpoint.ip endpoint.port endpoint.protocol
    endpoint.clients

/-- The key pool of `PermitVpnRelay`. -/
def pool : Pool Endpoint where
  maxAllowedEndpoints := maxAllowedEndpoints
  ipv4Guids := endpointIpv4Guids
  ipv6Guids := endpointIpv6Guids
  ip := Endpoint.ip
  ipv4Filter := addIpv4RelayFilter
  ipv6Filter := addIpv6RelayFilter
  ipv4Guids_length := rfl
  ipv6Guids_length := rfl

/-- `PermitVpnRelay::apply`. -/
def apply (engine : Engine) (endpoints : List Endpoint) : Installer Bool :=
  pool.loop engine endpoints 0 0

end PermitVpnRelay

section Apply

variable (filtersOf : Rule → List Filter)

/-- Modelled from the spec: `apply` of the rule classes whose sources are absent. Such a rule adds
its filters `filtersOf rule` in order and returns `false` at the first one the engine rejects. -/
def applyListed (engine : Engine) (rule : Rule) : Installer Bool :=
  installFilters engine (filtersOf rule)

/-- `IFirewallRule::apply`. -/
def Rule.apply (engine : Engine) : Rule → Installer Bool
  | .permitVpnRelay endpoints => PermitVpnRelay.apply engine endpoints
  | .permitEndpoint endpoints => PermitEndpoint.apply engine endpoints
  | rule => applyListed filtersOf engine rule

/-- The filters a rule installs when its `apply` succeeds. -/
def Rule.filters : Rule → List Filter
  | .permitVpnRelay endpoints => PermitVpnRelay.pool.filters endpoints 0 0
  | .permitEndpoint endpoints => PermitEndpoint.pool.filters endpoints 0 0
  | rule => filtersOf rule

/-- The filters of a whole ruleset, rule after rule. -/
def Ruleset.filters (ruleset : Ruleset) : List Filter :=
  ruleset.flatMap (Rule.filters filtersOf)

end Apply

end WinFw
