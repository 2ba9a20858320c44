import WinFw.Model.Guids

/-! # Endpoints, filters and rules

The host passes endpoints, settings and tunnel selectors as the C structures of `winfw.h`; the
firewall turns them into a `Ruleset`, an ordered list of rules, and each rule into filters that
it installs through the session. This module fixes the vocabulary: the argument structures, the
description of one filter (what `FilterBuilder` and `ConditionBuilder` hold together), the closed
set of rule variants `FwContext` composes, and the errors a call can end in.
-/

namespace WinFw

/-- `wfp::IpAddress::Type`: the address family, which selects key pool and filter layer. -/
inductive AddressType
  | ipv4
  | ipv6
deriving DecidableEq, Repr

/-- `wfp::IpAddress`, as its string constructor parses it. -/
inductive IpAddress
  | ipv4 (address : UInt32)
  | ipv6 (address : BitVec 128)
deriving DecidableEq, Repr

/-- `IpAddress::type()`. -/
def IpAddress.type : IpAddress → AddressType
  | .ipv4 _ => .ipv4
  | .ipv6 _ => .ipv6

/-- Modelled from the spec: `WinFwProtocol` of `winfw.h`, which is absent. -/
inductive WinFwProtocol
  | tcp
  | udp
deriving DecidableEq, Repr

/-- Modelled from the spec: `WinFwEndpoint` of `winfw.h`; `ip` is the address string the rules
parse with `wfp::IpAddress`. -/
structure WinFwEndpoint where
  ip : String
  port : UInt16
  protocol : WinFwProtocol
deriving DecidableEq, Repr

/-- Modelled from the spec: `WinFwAllowedEndpoint`. The `numClients` entries of `clients` are
C string pointers, and any of them may be null. -/
structure WinFwAllowedEndpoint where
  clients : List (Option String)
  endpoint : WinFwEndpoint
deriving DecidableEq, Repr

/-- Modelled from the spec: `WinFwSettings`, the two toggles the rules read. -/
structure WinFwSettings where
  permitDhcp : Bool
  permitLan : Bool
deriving DecidableEq, Repr

/-- Modelled from the spec: `WinFwAllowedTunnelTraffic`, a tagged variant whose `one` and `two`
cases carry the endpoints `endpoint1` and `endpoint2` point to. -/
inductive WinFwAllowedTunnelTraffic
  | all
  | one (endpoint1 : WinFwEndpoint)
  | two (endpoint1 endpoint2 : WinFwEndpoint)
  | none
deriving DecidableEq, Repr

/-- `rules::DNS_SERVER_PORT`. -/
def dnsServerPort : UInt16 := 53

/-- The filtering layers the modelled rules use: outbound connection authorisation. -/
inductive Layer
  | aleAuthConnectV4
  | aleAuthConnectV6
deriving DecidableEq, Repr

/-- `FilterBuilder::WeightClass`, as far as the modelled rules use it. -/
inductive WeightClass
  | medium
  | max
deriving DecidableEq, Repr

/-- What a filter does with matching traffic. -/
inductive FilterAction
  | permit
  | block
deriving DecidableEq, Repr

/-- A match condition of a `ConditionBuilder`. -/
inductive Condition
  | remoteIp (ip : IpAddress)
  | remotePort (port : UInt16)
  | protocol (protocol : WinFwProtocol)
  | application (path : String)
deriving DecidableEq, Repr

/-- One filter as a `FilterBuilder` and its `ConditionBuilder` describe it to `addFilter`. -/
structure Filter where
  key : GUID
  name : String
  description : String
  provider : GUID
  layer : Layer
  sublayer : GUID
  weight : WeightClass
  action : FilterAction
  conditions : List Condition
deriving DecidableEq, Repr

/-- `PermitVpnTunnel::InterfaceType`. -/
inductive InterfaceType
  | entry
  | exit
deriving DecidableEq, Repr

namespace PermitVpnTunnel

/-- `PermitVpnTunnel::Endpoint`. -/
structure Endpoint where
  ip : IpAddress
  port : UInt16
  protocol : WinFwProtocol
deriving DecidableEq, Repr

/-- `PermitVpnTunnel::Endpoints`: the one or two endpoints a tunnel interface is pinned to. -/
structure Endpoints where
  entryEndpoint : Endpoint
  exitEndpoint : Option Endpoint
deriving DecidableEq, Repr

end PermitVpnTunnel

namespace PermitVpnRelay

/-- `PermitVpnRelay::Sublayer`. -/
inductive Sublayer
  | baseline
  | dns
deriving DecidableEq, Repr

/-- `PermitVpnRelay::Endpoint`. -/
structure Endpoint where
  ip : IpAddress
  port : UInt16
  protocol : WinFwProtocol
  clients : List String
  sublayer : Sublayer
deriving DecidableEq, Repr

end PermitVpnRelay

namespace PermitEndpoint

/-- `PermitEndpoint::Endpoint`. -/
structure Endpoint where
  ip : IpAddress
  port : UInt16
  protocol : WinFwProtocol
  clients : List String
deriving DecidableEq, Repr

end PermitEndpoint

/-- The rule variants `FwContext` composes, each with the configuration it is built with. -/
inductive Rule
  | blockAll
  | permitLoopback
  | permitDhcp
  | permitNdp
  | permitLan
  | permitLanService
  /-- `PermitDhcpServer::WithExtent(Extent::IPv4Only)`, the only extent in use. -/
  | permitDhcpServer
  | permitDns
  | dnsPermitLoopback
  | dnsBlockAll
  | dnsPermitNonTunnel (tunnelInterfaceAlias : Option String) (servers : List IpAddress)
  | dnsPermitTunnel (tunnelInterfaceAlias : String) (servers : List IpAddress)
  | permitVpnRelay (endpoints : List PermitVpnRelay.Endpoint)
  | permitEndpoint (endpoints : List PermitEndpoint.Endpoint)
  | permitVpnTunnel (interfaceType : InterfaceType) (tunnelInterfaceAlias : String)
      (potentialEndpoints : Option PermitVpnTunnel.Endpoints)
  | permitVpnTunnelService (interfaceType : InterfaceType) (tunnelInterfaceAlias : String)
      (potentialEndpoints : Option PermitVpnTunnel.Endpoints)
  /-- `rules::persistent::BlockAll`, which `WinFw_Deinitialize` installs to keep blocking. -/
  | persistentBlockAll
deriving DecidableEq, Repr

/-- `FwContext::Ruleset`. -/
abbrev Ruleset := List Rule

/-- How a call ends other than by returning. Reading past a fixed array and building a
`std::wstring` from a null pointer are undefined behaviour; the model aborts there. -/
inductive FwError
  /-- `THROW_ERROR` with its message. -/
  | error (message : String)
  /-- A `common::error::WindowsException` from the filtering engine, with its error code. -/
  | engine (errorCode : UInt32)
  /-- Undefined behaviour: `array[index]` past the end of a fixed array. -/
  | readPastEnd (array : String) (index : Nat)
  /-- Undefined behaviour: a client path built from a null pointer. -/
  | nullClient
deriving DecidableEq, Repr

end WinFw
