import Mathlib.Data.List.Dedup

/-! # Stable identities of the firewall's objects

Every provider, sublayer and filter the firewall installs carries a fixed GUID from
`MullvadGuids`. `detailedRegistry` lists them by object type; the purger removes exactly these
objects, so a key that a rule installs must be one of its `filter` entries. The pooled rules
index small arrays of these keys, one slot per endpoint of an address family.
-/

namespace WinFw

/-- A Windows `GUID`: `Data1`, `Data2`, `Data3` and the eight bytes of `Data4` in order. -/
structure GUID where
  data1 : UInt32
  data2 : UInt16
  data3 : UInt16
  b0 : UInt8
  b1 : UInt8
  b2 : UInt8
  b3 : UInt8
  b4 : UInt8
  b5 : UInt8
  b6 : UInt8
  b7 : UInt8
deriving DecidableEq, Repr

/-- The three kinds of object registered with the filtering engine. -/
inductive WfpObjectType
  | provider
  | sublayer
  | filter
deriving DecidableEq, Repr

/-- Modelled from the spec: the qualifier flags of `mullvadguids.h`, which is absent;
`DetailedRegistry` tests only these two flags. -/
structure IdentityQualifier where
  includeDeprecated : Bool
  includePersistent : Bool
deriving DecidableEq, Repr

namespace MullvadGuids

def provider : GUID := ⟨0xc736d993, 0x9447, 0x4982, 0x8d, 0xd1, 0xee, 0xe1, 0x04, 0x61, 0xef, 0x3c⟩
def providerPersistent : GUID := ⟨0x26646a94, 0xc70a, 0x47a3, 0xac, 0x66, 0x11, 0x4b, 0xac, 0xfa, 0x55, 0x6a⟩
def sublayerBaseline : GUID := ⟨0x25a0d4a1, 0x5fd3, 0x4d32, 0x92, 0x52, 0x34, 0xa7, 0xb4, 0x7a, 0x7d, 0x2e⟩
def sublayerDns : GUID := ⟨0x3fdec7aa, 0x9cf9, 0x4f8b, 0x98, 0x0f, 0x8a, 0xad, 0xe8, 0xba, 0x0d, 0xc6⟩
def sublayerPersistent : GUID := ⟨0x7f81ab43, 0x6f94, 0x4772, 0xb3, 0xd2, 0x17, 0xdb, 0x75, 0x7b, 0xbe, 0x3b⟩
def filterBoottimeBlockAllOutboundIpv4 : GUID := ⟨0xc862565b, 0xee75, 0x4065, 0x9a, 0x92, 0x5d, 0x72, 0xa6, 0x56, 0x9b, 0x28⟩
def filterBoottimeBlockAllInboundIpv4 : GUID := ⟨0x71881e3a, 0xd74a, 0x45ad, 0xb9, 0x83, 0xfb, 0x5b, 0xfe, 0xde, 0xcf, 0x62⟩
def filterBoottimeBlockAllOutboundIpv6 : GUID := ⟨0x107b140f, 0x0195, 0x473a, 0xb3, 0x08, 0x61, 0x1b, 0x77, 0xd0, 0x60, 0x0b⟩
def filterBoottimeBlockAllInboundIpv6 : GUID := ⟨0xfa8db319, 0x85bc, 0x458d, 0x98, 0xff, 0xf9, 0x07, 0x1f, 0x0d, 0x69, 0xbb⟩
def filterPersistentBlockAllOutboundIpv4 : GUID := ⟨0xe94f85e6, 0x0c56, 0x4ee5, 0xbc, 0x63, 0xee, 0xe0, 0xab, 0x75, 0x9a, 0x37⟩
def filterPersistentBlockAllInboundIpv4 : GUID := ⟨0xf5c393b1, 0xbfb6, 0x4845, 0x96, 0x18, 0x96, 0x89, 0x84, 0xa6, 0xa3, 0x89⟩
def filterPersistentBlockAllOutboundIpv6 : GUID := ⟨0x3b8f4102, 0x5cdd, 0x41f4, 0x9e, 0x7e, 0xfe, 0x77, 0x6b, 0xf4, 0x22, 0x60⟩
def filterPersistentBlockAllInboundIpv6 : GUID := ⟨0xf09e4128, 0xb482, 0x4853, 0x92, 0x35, 0xfd, 0xf4, 0x3c, 0x1e, 0xd3, 0x14⟩
def filterBaselineBlockAllOutboundIpv4 : GUID := ⟨0x57ae8f49, 0x2583, 0x4d3e, 0x8a, 0xb7, 0x66, 0xa9, 0xbc, 0xbc, 0x88, 0x66⟩
def filterBaselineBlockAllInboundIpv4 : GUID := ⟨0xb0e82d34, 0x2534, 0x4b58, 0xb6, 0xff, 0x7e, 0x7a, 0xe7, 0xea, 0xd7, 0xa4⟩
def filterBaselineBlockAllOutboundIpv6 : GUID := ⟨0x02fe62ff, 0x68a1, 0x453b, 0xae, 0x36, 0x97, 0xea, 0xf8, 0x7c, 0x15, 0xdc⟩
def filterBaselineBlockAllInboundIpv6 : GUID := ⟨0xc5275e0a, 0x21b7, 0x4f80, 0x88, 0x66, 0xff, 0xea, 0x23, 0xae, 0xf6, 0x00⟩
def filterBaselinePermitLanOutboundIpv4 : GUID := ⟨0x743dc4e9, 0x052f, 0x4215, 0xaa, 0x4a, 0xf9, 0x41, 0x7f, 0x3d, 0x31, 0xec⟩
def filterBaselinePermitLanOutboundMulticastIpv4 : GUID := ⟨0xb0131301, 0x4967, 0x4ee0, 0xad, 0xf3, 0x36, 0xf2, 0xe1, 0x31, 0x18, 0xa7⟩
def filterBaselinePermitLanOutboundIpv6 : GUID := ⟨0x031fa5de, 0xbd10, 0x440e, 0xb3, 0x87, 0x41, 0xf3, 0x0a, 0x52, 0xfc, 0x5d⟩
def filterBaselinePermitLanOutboundMulticastIpv6 : GUID := ⟨0x70d3e5df, 0x9d56, 0x4242, 0x8a, 0x69, 0x75, 0x30, 0x4d, 0x58, 0x02, 0x8d⟩
def filterBaselinePermitLanServiceInboundIpv4 : GUID := ⟨0x8dc88a9f, 0xa6d7, 0x4c10, 0x81, 0x43, 0xf3, 0x8f, 0xf4, 0xa4, 0x63, 0xd6⟩
def filterBaselinePermitLanServiceInboundIpv6 : GUID := ⟨0xb3f7bf6d, 0x0250, 0x4a80, 0xa9, 0xb8, 0x21, 0x26, 0xe3, 0x16, 0x96, 0x26⟩
def filterBaselinePermitLoopbackOutboundIpv4 : GUID := ⟨0x4c62148b, 0xd5a7, 0x4981, 0xab, 0x93, 0xad, 0xea, 0x54, 0xd7, 0xd1, 0x91⟩
def filterBaselinePermitLoopbackInboundIpv4 : GUID := ⟨0xdf187b6e, 0xce45, 0x4653, 0x84, 0x1a, 0xf8, 0x04, 0x01, 0xc9, 0xdb, 0x00⟩
def filterBaselinePermitLoopbackOutboundIpv6 : GUID := ⟨0xd9199d45, 0xbc8d, 0x4935, 0x9a, 0x36, 0x7f, 0xc5, 0x2a, 0xfb, 0x3c, 0xf8⟩
def filterBaselinePermitLoopbackInboundIpv6 : GUID := ⟨0xbbec26d8, 0x7f2e, 0x4141, 0xbb, 0x51, 0xbb, 0xb4, 0xc9, 0xfa, 0x72, 0x92⟩
def filterBaselinePermitDhcpOutboundRequestIpv4 : GUID := ⟨0x4fc8eec2, 0xc8cb, 0x4b6f, 0xa9, 0xec, 0x4b, 0x02, 0x55, 0xe0, 0xf6, 0x76⟩
def filterBaselinePermitDhcpInboundResponseIpv4 : GUID := ⟨0x577c6d56, 0xef10, 0x4ada, 0x8a, 0xb6, 0xbb, 0x22, 0xc7, 0xba, 0xdf, 0x42⟩
def filterBaselinePermitDhcpOutboundRequestIpv6 : GUID := ⟨0x5d91a7c0, 0xa9a9, 0x43c7, 0xa9, 0x5f, 0xb8, 0x73, 0x3c, 0x14, 0xf8, 0xd7⟩
def filterBaselinePermitDhcpInboundResponseIpv6 : GUID := ⟨0x5cfe4773, 0xa8dc, 0x4770, 0xa0, 0xae, 0xb5, 0x84, 0x78, 0x51, 0x1d, 0x8c⟩
def filterBaselinePermitDhcpServerInboundRequestIpv4 : GUID := ⟨0xc7fac6e7, 0xe33e, 0x48cc, 0x96, 0xca, 0x76, 0x84, 0xe1, 0xb5, 0xf1, 0x34⟩
def filterBaselinePermitDhcpServerOutboundResponseIpv4 : GUID := ⟨0x84fa25b6, 0x9f4f, 0x416d, 0xbc, 0xd5, 0x7c, 0xb5, 0x93, 0x2c, 0xd0, 0x88⟩
def filterBaselinePermitVpnRelayIpv4_1 : GUID := ⟨0x93e92e50, 0xfa3f, 0x45d9, 0xb5, 0x76, 0x8a, 0xb1, 0x23, 0x32, 0x69, 0xa3⟩
def filterBaselinePermitVpnRelayIpv4_2 : GUID := ⟨0x1f484d78, 0xf9b8, 0x43c1, 0x99, 0x30, 0x88, 0x3e, 0xf8, 0x30, 0x43, 0x1f⟩
def filterBaselinePermitVpnRelayIpv6_1 : GUID := ⟨0x2e0d95d2, 0x530e, 0x4d35, 0x9b, 0xa8, 0x50, 0x45, 0x8b, 0x97, 0x1b, 0x46⟩
def filterBaselinePermitVpnRelayIpv6_2 : GUID := ⟨0xa9893597, 0x4fca, 0x49bc, 0x99, 0xa1, 0xed, 0x3f, 0xc4, 0x4d, 0xea, 0x82⟩
def filterBaselinePermitEndpointIpv4_1 : GUID := ⟨0xaf5716aa, 0xd4e4, 0x4e3e, 0x9e, 0x85, 0xe5, 0x3a, 0xb4, 0x47, 0x93, 0x38⟩
def filterBaselinePermitEndpointIpv6_1 : GUID := ⟨0xc88c848f, 0x2df9, 0x4908, 0x94, 0x4d, 0xde, 0x55, 0x0c, 0xad, 0x32, 0x5e⟩
def filterBaselinePermitEndpointIpv4_2 : GUID := ⟨0x1f1d87ec, 0x6022, 0x48c9, 0xbd, 0xaa, 0x22, 0x4c, 0x42, 0x8e, 0x30, 0xc0⟩
def filterBaselinePermitEndpointIpv6_2 : GUID := ⟨0xa8777d53, 0x399b, 0x418f, 0xb2, 0x4f, 0xb0, 0x3b, 0xae, 0xab, 0xb6, 0x8e⟩
def filterBaselinePermitEndpointIpv4_3 : GUID := ⟨0xcfda4531, 0x279d, 0x4f4f, 0x98, 0x9c, 0x93, 0xfb, 0x7c, 0x1c, 0x7a, 0xed⟩
def filterBaselinePermitEndpointIpv6_3 : GUID := ⟨0xece12f4d, 0xea16, 0x4672, 0xa1, 0x28, 0x43, 0xbe, 0x87, 0xa2, 0xd9, 0xc9⟩
def filterBaselinePermitEndpointIpv4_4 : GUID := ⟨0x7cb2cba7, 0xaf0a, 0x43c8, 0xb8, 0x6e, 0x86, 0x40, 0x5f, 0xbc, 0x63, 0x52⟩
def filterBaselinePermitEndpointIpv6_4 : GUID := ⟨0xa6674eda, 0x3aa6, 0x4937, 0xb2, 0xdc, 0xfa, 0xe0, 0xb1, 0xae, 0x83, 0xbe⟩
def filterBaselinePermitVpnTunnelEntryOutboundIpv4_1 : GUID := ⟨0xbcece8d7, 0x2baa, 0x40ce, 0xa7, 0xe9, 0x5a, 0x40, 0x44, 0xe2, 0x48, 0x83⟩
def filterBaselinePermitVpnTunnelEntryOutboundIpv6_1 : GUID := ⟨0x0dbd1d20, 0x112e, 0x4b56, 0x94, 0x6d, 0x6a, 0xb3, 0xda, 0xb7, 0x22, 0xc9⟩
def filterBaselinePermitVpnTunnelEntryOutboundIpv4_2 : GUID := ⟨0xdca44438, 0x7942, 0x4215, 0xbd, 0x11, 0x30, 0xda, 0xe8, 0xee, 0x0e, 0x03⟩
def filterBaselinePermitVpnTunnelEntryOutboundIpv6_2 : GUID := ⟨0x36862faf, 0x4ac0, 0x4852, 0x95, 0xa1, 0xff, 0x31, 0x4f, 0x9f, 0x2f, 0x5b⟩
def filterBaselinePermitVpnTunnelExitOutboundIpv4_1 : GUID := ⟨0xc593d84f, 0x9f07, 0x429a, 0x9b, 0x78, 0xce, 0x6c, 0xb4, 0x24, 0x9e, 0xfc⟩
def filterBaselinePermitVpnTunnelExitOutboundIpv6_1 : GUID := ⟨0x04a39b8d, 0x03dc, 0x4c93, 0xae, 0x62, 0xe3, 0xd6, 0xba, 0x41, 0x78, 0xf3⟩
def filterBaselinePermitVpnTunnelExitOutboundIpv4_2 : GUID := ⟨0x67ee5b14, 0xc670, 0x47b7, 0xb6, 0xc5, 0xe9, 0xee, 0x23, 0x4c, 0x71, 0x5e⟩
def filterBaselinePermitVpnTunnelExitOutboundIpv6_2 : GUID := ⟨0x2c632bdb, 0xf1ab, 0x42c7, 0xa7, 0xfe, 0x91, 0xce, 0x2d, 0xf7, 0x4e, 0x9f⟩
def filterBaselinePermitVpnTunnelServiceEntryIpv4_1 : GUID := ⟨0x4a83f108, 0x7008, 0x4510, 0x8e, 0xe3, 0x90, 0x0a, 0x74, 0x95, 0xca, 0xab⟩
def filterBaselinePermitVpnTunnelServiceEntryIpv6_1 : GUID := ⟨0x652e1f33, 0x4e01, 0x4f27, 0xb0, 0xb9, 0x74, 0x91, 0x2a, 0xa8, 0xf1, 0x10⟩
def filterBaselinePermitVpnTunnelServiceEntryIpv4_2 : GUID := ⟨0x0f2f41e9, 0x6403, 0x4a35, 0xb9, 0xd0, 0xd1, 0x78, 0x4e, 0x40, 0x08, 0x69⟩
def filterBaselinePermitVpnTunnelServiceEntryIpv6_2 : GUID := ⟨0xd83633a3, 0xe391, 0x4391, 0xaa, 0x85, 0x81, 0x86, 0xb9, 0x5d, 0xc3, 0x63⟩
def filterBaselinePermitVpnTunnelServiceExitIpv4_1 : GUID := ⟨0x9d857d88, 0x211d, 0x41dc, 0x8a, 0x4c, 0x1b, 0xc7, 0x34, 0x74, 0x17, 0x3c⟩
def filterBaselinePermitVpnTunnelServiceExitIpv6_1 : GUID := ⟨0x32798a35, 0x721e, 0x4313, 0x90, 0xef, 0xbc, 0x4c, 0xe4, 0x2b, 0x00, 0xb3⟩
def filterBaselinePermitVpnTunnelServiceExitIpv4_2 : GUID := ⟨0xbd6b5856, 0x5f51, 0x45e9, 0xa4, 0xeb, 0xb1, 0x82, 0x02, 0x82, 0x61, 0x91⟩
def filterBaselinePermitVpnTunnelServiceExitIpv6_2 : GUID := ⟨0x131e52d0, 0x502d, 0x436f, 0xb1, 0xa2, 0x88, 0xa9, 0x79, 0xcc, 0xbf, 0x9f⟩
def filterBaselinePermitNdpOutboundRouterSolicitation : GUID := ⟨0x755a4486, 0x3cf5, 0x4f5d, 0x93, 0x08, 0xad, 0x1a, 0x3f, 0x4a, 0x7d, 0xe4⟩
def filterBaselinePermitNdpInboundRouterAdvertisement : GUID := ⟨0x43c954ba, 0x3739, 0x4762, 0xb3, 0xdd, 0xf6, 0xfa, 0x94, 0xb3, 0x18, 0x47⟩
def filterBaselinePermitNdpOutboundNeighborSolicitation : GUID := ⟨0xfea40503, 0xadc7, 0x450c, 0x9b, 0x66, 0x5c, 0xb0, 0x69, 0x1f, 0xde, 0xb4⟩
def filterBaselinePermitNdpInboundNeighborSolicitation : GUID := ⟨0x843d33cc, 0x99cb, 0x4e67, 0xa1, 0xd3, 0xbd, 0x57, 0x44, 0xef, 0xab, 0x61⟩
def filterBaselinePermitNdpOutboundNeighborAdvertisement : GUID := ⟨0x4c3f711e, 0xd479, 0x4fb2, 0x81, 0xd2, 0x1c, 0xe3, 0xa8, 0xd3, 0x91, 0x28⟩
def filterBaselinePermitNdpInboundNeighborAdvertisement : GUID := ⟨0x1bfba8e5, 0xfbf5, 0x4d81, 0xb7, 0xe5, 0x34, 0xb2, 0x11, 0x93, 0x4f, 0x7e⟩
def filterBaselinePermitNdpInboundRedirect : GUID := ⟨0xcb455186, 0x0ed9, 0x493c, 0xb0, 0x23, 0xbb, 0x38, 0x10, 0xa7, 0x9c, 0xf9⟩
def filterBaselinePermitDnsOutboundIpv4 : GUID := ⟨0xa1259109, 0xfc57, 0x47f8, 0x8f, 0xda, 0x79, 0x99, 0x03, 0xd9, 0x0d, 0x39⟩
def filterBaselinePermitDnsOutboundIpv6 : GUID := ⟨0xfd90a07d, 0xa244, 0x4faf, 0xbd, 0x6d, 0x26, 0xb9, 0x7e, 0x9b, 0x28, 0x93⟩
def filterDnsBlockAllOutboundIpv4 : GUID := ⟨0x6da3ad59, 0x4217, 0x42f8, 0xa0, 0x8d, 0x01, 0x6a, 0x76, 0xfe, 0xb2, 0xbd⟩
def filterDnsBlockAllOutboundIpv6 : GUID := ⟨0x067b590e, 0x7845, 0x4b87, 0xa9, 0x70, 0xc7, 0xae, 0x84, 0x7a, 0x38, 0x6a⟩
def filterDnsPermitNonTunnelOutboundIpv4 : GUID := ⟨0x69dcb3d4, 0xfa52, 0x43a5, 0xb2, 0x19, 0x80, 0xca, 0x48, 0xaf, 0x4c, 0x5c⟩
def filterDnsPermitNonTunnelOutboundIpv6 : GUID := ⟨0xe4cbcf1f, 0xcebc, 0x44f9, 0x84, 0xca, 0xe0, 0x5a, 0x86, 0xc3, 0x71, 0xad⟩
def filterDnsPermitTunnelOutboundIpv4 : GUID := ⟨0xc0b4407b, 0x0ece, 0x4c0b, 0xa3, 0x33, 0x84, 0xf6, 0x8b, 0xae, 0x3e, 0x37⟩
def filterDnsPermitTunnelOutboundIpv6 : GUID := ⟨0xc59e6976, 0x212e, 0x4233, 0x93, 0xc2, 0xc5, 0x1f, 0x94, 0x1d, 0x7d, 0x65⟩
def filterDnsPermitLoopbackOutboundIpv4 : GUID := ⟨0xa9a29810, 0x61a4, 0x4331, 0xa4, 0x41, 0xa2, 0x0f, 0x51, 0xd2, 0xb4, 0x5a⟩
def filterDnsPermitLoopbackOutboundIpv6 : GUID := ⟨0x3ed5ba1d, 0xc39d, 0x431a, 0x8d, 0x51, 0x85, 0xe9, 0x15, 0xeb, 0xa7, 0xfa⟩

/-- The filters of the current version, in the order `DetailedRegistry` inserts them. -/
def currentFilters : List GUID := [
  filterBaselineBlockAllOutboundIpv4,
  filterBaselineBlockAllInboundIpv4,
  filterBaselineBlockAllOutboundIpv6,
  filterBaselineBlockAllInboundIpv6,
  filterBaselinePermitLanOutboundIpv4,
  filterBaselinePermitLanOutboundMulticastIpv4,
  filterBaselinePermitLanOutboundIpv6,
  filterBaselinePermitLanOutboundMulticastIpv6,
  filterBaselinePermitLanServiceInboundIpv4,
  filterBaselinePermitLanServiceInboundIpv6,
  filterBaselinePermitLoopbackOutboundIpv4,
  filterBaselinePermitLoopbackInboundIpv4,
  filterBaselinePermitLoopbackOutboundIpv6,
  filterBaselinePermitLoopbackInboundIpv6,
  filterBaselinePermitDhcpOutboundRequestIpv4,
  filterBaselinePermitDhcpInboundResponseIpv4,
  filterBaselinePermitDhcpOutboundRequestIpv6,
  filterBaselinePermitDhcpInboundResponseIpv6,
  filterBaselinePermitDhcpServerInboundRequestIpv4,
  filterBaselinePermitDhcpServerOutboundResponseIpv4,
  filterBaselinePermitVpnRelayIpv4_1,
  filterBaselinePermitVpnRelayIpv6_1,
  filterBaselinePermitVpnRelayIpv4_2,
  filterBaselinePermitVpnRelayIpv6_2,
  filterBaselinePermitEndpointIpv4_1,
  filterBaselinePermitEndpointIpv6_1,
  filterBaselinePermitEndpointIpv4_2,
  filterBaselinePermitEndpointIpv6_2,
  filterBaselinePermitEndpointIpv4_3,
  filterBaselinePermitEndpointIpv6_3,
  filterBaselinePermitEndpointIpv4_4,
  filterBaselinePermitEndpointIpv6_4,
  filterBaselinePermitVpnTunnelEntryOutboundIpv4_1,
  filterBaselinePermitVpnTunnelEntryOutboundIpv6_1,
  filterBaselinePermitVpnTunnelEntryOutboundIpv4_2,
  filterBaselinePermitVpnTunnelEntryOutboundIpv6_2,
  filterBaselinePermitVpnTunnelExitOutboundIpv4_1,
  filterBaselinePermitVpnTunnelExitOutboundIpv6_1,
  filterBaselinePermitVpnTunnelExitOutboundIpv4_2,
  filterBaselinePermitVpnTunnelExitOutboundIpv6_2,
  filterBaselinePermitVpnTunnelServiceEntryIpv4_1,
  filterBaselinePermitVpnTunnelServiceEntryIpv6_1,
  filterBaselinePermitVpnTunnelServiceEntryIpv4_2,
  filterBaselinePermitVpnTunnelServiceEntryIpv6_2,
  filterBaselinePermitVpnTunnelServiceExitIpv4_1,
  filterBaselinePermitVpnTunnelServiceExitIpv6_1,
  filterBaselinePermitVpnTunnelServiceExitIpv4_2,
  filterBaselinePermitVpnTunnelServiceExitIpv6_2,
  filterBaselinePermitNdpOutboundRouterSolicitation,
  filterBaselinePermitNdpInboundRouterAdvertisement,
  filterBaselinePermitNdpOutboundNeighborSolicitation,
  filterBaselinePermitNdpInboundNeighborSolicitation,
  filterBaselinePermitNdpOutboundNeighborAdvertisement,
  filterBaselinePermitNdpInboundNeighborAdvertisement,
  filterBaselinePermitNdpInboundRedirect,
  filterBaselinePermitDnsOutboundIpv4,
  filterBaselinePermitDnsOutboundIpv6,
  filterDnsBlockAllOutboundIpv4,
  filterDnsBlockAllOutboundIpv6,
  filterDnsPermitLoopbackOutboundIpv4,
  filterDnsPermitLoopbackOutboundIpv6,
  filterDnsPermitNonTunnelOutboundIpv4,
  filterDnsPermitNonTunnelOutboundIpv6,
  filterDnsPermitTunnelOutboundIpv4,
  filterDnsPermitTunnelOutboundIpv6
]

/-- The boot-time and persistent blocking filters, which outlive the process. -/
def persistentFilters : List GUID := [
  filterBoottimeBlockAllInboundIpv4,
  filterBoottimeBlockAllOutboundIpv4,
  filterBoottimeBlockAllInboundIpv6,
  filterBoottimeBlockAllOutboundIpv6,
  filterPersistentBlockAllInboundIpv4,
  filterPersistentBlockAllOutboundIpv4,
  filterPersistentBlockAllInboundIpv6,
  filterPersistentBlockAllOutboundIpv6
]

/-- Identities that earlier versions installed, kept so that upgrades can remove them. -/
def deprecatedIdentities : List (WfpObjectType × GUID) := []

/-- `DetailedRegistry`: the source's `std::multimap` as a list in insertion order, since only
membership is ever asked of it. -/
def detailedRegistry (qualifier : IdentityQualifier) : List (WfpObjectType × GUID) :=
  (if qualifier.includeDeprecated then deprecatedIdentities else []) ++
    ((.provider, provider) :: (.sublayer, sublayerBaseline) :: (.sublayer, sublayerDns) ::
      currentFilters.map (.filter, ·)) ++
    if qualifier.includePersistent then
      (.provider, providerPersistent) :: (.sublayer, sublayerPersistent) ::
        persistentFilters.map (.filter, ·)
    else []

/-- `Registry`: the GUIDs of `DetailedRegistry` as a set (`std::unordered_set`), here a list
without repeats. -/
def registry (qualifier : IdentityQualifier) : List GUID :=
  ((detailedRegistry qualifier).map Prod.snd).dedup

end MullvadGuids

end WinFw
