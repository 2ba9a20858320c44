import WinFw.Model.FwContext

/-! # The `WinFw_*` interface

`winfw.cpp` exports the firewall to the host as C functions over one global context,
`g_fwContext`, which `WinFw_Initialize` and `WinFw_InitializeBlocked` create and
`WinFw_Deinitialize` destroys. Each function checks its pointer arguments, converts the C arrays
and strings to the context's argument types, calls the context inside a `try`, and maps the
outcome to its return value: `bool` for the lifecycle functions, `WINFW_POLICY_STATUS` for the
policy functions, where an engine exception with `FWP_E_TIMEOUT` is a lock timeout and every
other failure a general failure. A null pointer is `none`; an array is the list of its `num…`
entries, each a pointer that may be null. The log sink and the timeouts are left out.
-/

namespace WinFw

/-- Modelled from the spec: `WINFW_POLICY_STATUS` of `winfw.h`, which is absent. -/
inductive WinFwPolicyStatus
  | success
  | generalFailure
  | lockTimeout
deriving DecidableEq, Repr

/-- Modelled from the spec: `WINFW_CLEANUP_POLICY` of `winfw.h`, which is absent. -/
inductive WinFwCleanupPolicy
  | continueBlocking
  | resetFirewall
deriving DecidableEq, Repr

/-- `FWP_E_TIMEOUT`: the engine's write lock was not acquired in time. -/
def fwpETimeout : UInt32 := 0x80320012

/-- `HandlePolicyException`. -/
def handlePolicyException (errorCode : UInt32) : WinFwPolicyStatus :=
  if fwpETimeout == errorCode then .lockTimeout else .generalFailure

/-- The `catch` clauses of a policy function around `status ? SUCCESS : GENERAL_FAILURE`: an
engine exception goes to `HandlePolicyException`, any other exception is a general failure, and
undefined behaviour stays an abort. -/
def policyStatus : Except FwError Bool → Except FwError WinFwPolicyStatus
  | .ok true => .ok .success
  | .ok false => .ok .generalFailure
  | .error (.engine errorCode) => .ok (handlePolicyException errorCode)
  | .error (.error _) => .ok .generalFailure
  | .error error => .error error

/-- The `catch` clauses of a lifecycle function: every exception is `false`, and undefined
behaviour stays an abort. -/
def caughtFalse : Except FwError Bool → Except FwError Bool
  | .error (.engine _) => .ok false
  | .error (.error _) => .ok false
  | outcome => outcome

/-- `MakeOptionalStr`: a null or empty string is no alias. -/
def makeOptionalStr : Option String → Option String
  | some str => if str.isEmpty then none else some str
  | none => none

/-- `MakeOptionalVector`: the items behind the non-null pointers, or nothing when the array is
null, has no entries, or holds only null pointers. -/
def makeOptionalVector {T : Type} : Option (List (Option T)) → Option (List T)
  | none => none
  | some items =>
    if items.isEmpty then none
    else
      let result := items.filterMap id
      if result.isEmpty then none else some result

/-- `MakeVector`: the items behind the non-null pointers. -/
def makeVector {T : Type} : Option (List (Option T)) → List T
  | none => []
  | some items => if items.isEmpty then [] else items.filterMap id

/-- `MakeIpAddressVector`: each non-null string parsed by the `wfp::IpAddress` constructor, which
may throw. -/
def makeIpAddressVector (parseIpAddress : String → Except FwError IpAddress) :
    Option (List (Option String)) → Except FwError (List IpAddress)
  | none => .ok []
  | some data => if data.isEmpty then .ok [] else (data.filterMap id).mapM parseIpAddress

section Interface

variable (parseIpAddress : String → Except FwError IpAddress)

/-- The request `WinFw_ApplyPolicyConnecting` makes of the context inside its `try`: the argument
checks in their order, then the conversions. -/
def applyPolicyConnectingRequest (settings : Option WinFwSettings)
    (relays : Option (List (Option WinFwAllowedEndpoint)))
    (entryTunnelIfaceAlias exitTunnelIfaceAlias : Option String)
    (allowedEndpoints : Option (List (Option WinFwAllowedEndpoint)))
    (allowedEntryTunnelTraffic allowedExitTunnelTraffic : Option WinFwAllowedTunnelTraffic)
    (nonTunnelDnsServers : Option (List (Option String))) : Except FwError Request :=
  match settings, allowedEntryTunnelTraffic, allowedExitTunnelTraffic with
  | none, _, _ => .error (.error "Invalid argument: settings")
  | some _, none, _ => .error (.error "Invalid argument: allowedEntryTunnelTraffic")
  | some _, some _, none => .error (.error "Invalid argument: allowedExitTunnelTraffic")
  | some settings, some entryTraffic, some exitTraffic =>
    (makeIpAddressVector parseIpAddress nonTunnelDnsServers).map fun nonTunnel =>
      .applyPolicyConnecting settings (makeVector relays) (makeOptionalStr entryTunnelIfaceAlias)
        entryTraffic (makeOptionalStr exitTunnelIfaceAlias) exitTraffic
        (makeOptionalVector allowedEndpoints) nonTunnel

/-- The request `WinFw_ApplyPolicyConnected` makes of the context inside its `try`. -/
def applyPolicyConnectedRequest (settings : Option WinFwSettings)
    (relays : Option (List (Option WinFwAllowedEndpoint)))
    (entryTunnelIfaceAlias exitTunnelIfaceAlias : Option String)
    (tunnelDnsServers nonTunnelDnsServers : Option (List (Option String)))
    (allowedEndpoints : Option (List (Option WinFwAllowedEndpoint))) : Except FwError Request :=
  match settings, relays, tunnelDnsServers, nonTunnelDnsServers with
  | none, _, _, _ => .error (.error "Invalid argument: settings")
  | some _, none, _, _ => .error (.error "Invalid argument: relays")
  | some _, some _, none, _ => .error (.error "Invalid argument: tunnelDnsServers")
  | some _, some _, some _, none => .error (.error "Invalid argument: nonTunnelDnsServers")
  | some settings, some _, some _, some _ =>
    (makeIpAddressVector parseIpAddress nonTunnelDnsServers).bind fun nonTunnel =>
      (makeIpAddressVector parseIpAddress tunnelDnsServers).map fun tunnel =>
        .applyPolicyConnected settings (makeVector relays) (makeOptionalStr entryTunnelIfaceAlias)
          (makeOptionalStr exitTunnelIfaceAlias) (makeOptionalVector allowedEndpoints) tunnel
          nonTunnel

end Interface

/-- The request `WinFw_ApplyPolicyBlocked` makes of the context inside its `try`. -/
def applyPolicyBlockedRequest (settings : Option WinFwSettings)
    (allowedEndpoints : Option (List (Option WinFwAllowedEndpoint))) : Except FwError Request :=
  match settings with
  | none => .error (.error "Invalid argument: settings")
  | some settings => .ok (.applyPolicyBlocked settings (makeOptionalVector allowedEndpoints))

/-- A call of the `WinFw_*` interface, with its arguments as the host passes them. -/
inductive ApiCall
  | initializePlain
  | initializeBlocked (settings : Option WinFwSettings)
      (allowedEndpoints : Option (List (Option WinFwAllowedEndpoint)))
  | deinitializeWith (cleanupPolicy : WinFwCleanupPolicy)
  | applyPolicyConnecting (settings : Option WinFwSettings)
      (relays : Option (List (Option WinFwAllowedEndpoint)))
      (entryTunnelIfaceAlias exitTunnelIfaceAlias : Option String)
      (allowedEndpoints : Option (List (Option WinFwAllowedEndpoint)))
      (allowedEntryTunnelTraffic allowedExitTunnelTraffic : Option WinFwAllowedTunnelTraffic)
      (nonTunnelDnsServers : Option (List (Option String)))
  | applyPolicyConnected (settings : Option WinFwSettings)
      (relays : Option (List (Option WinFwAllowedEndpoint)))
      (entryTunnelIfaceAlias exitTunnelIfaceAlias : Option String)
      (tunnelDnsServers nonTunnelDnsServers : Option (List (Option String)))
      (allowedEndpoints : Option (List (Option WinFwAllowedEndpoint)))
  | applyPolicyBlocked (settings : Option WinFwSettings)
      (allowedEndpoints : Option (List (Option WinFwAllowedEndpoint)))
  | reset

/-- What a `WinFw_*` function returns. -/
inductive ApiResult
  | bool (value : Bool)
  | status (status : WinFwPolicyStatus)
deriving DecidableEq, Repr

section Calls

variable (parseIpAddress : String → Except FwError IpAddress) (filtersOf : Rule → List Filter)
  (engine : Engine)

/-- `WinFw_Initialize`. -/
def winFwInitialize (fwContext : Option FwContext) : Except FwError Bool × Option FwContext :=
  match fwContext with
  | some _ => (caughtFalse (.error (.error "Cannot initialize WINFW twice")), fwContext)
  | none =>
    match FwContext.create engine with
    | .ok context => (.ok true, some context)
    | .error error => (caughtFalse (.error error), none)

/-- `WinFw_InitializeBlocked`. -/
def winFwInitializeBlocked (settings : Option WinFwSettings)
    (allowedEndpoints : Option (List (Option WinFwAllowedEndpoint)))
    (fwContext : Option FwContext) : Except FwError Bool × Option FwContext :=
  match fwContext, settings with
  | some _, _ => (caughtFalse (.error (.error "Cannot initialize WINFW twice")), fwContext)
  | none, none => (caughtFalse (.error (.error "Invalid argument: settings")), none)
  | none, some settings =>
    match FwContext.createBlocked parseIpAddress filtersOf engine settings
      (makeOptionalVector allowedEndpoints) with
    | .ok context => (.ok true, some context)
    | .error error => (caughtFalse (.error error), none)

/-- The body the `WinFw_ApplyPolicy…` functions share: without a context a general failure;
otherwise the request built inside the `try` is served by the context and its outcome mapped to
a status. -/
def applyPolicyThroughContext (request : Except FwError Request) (fwContext : Option FwContext) :
    Except FwError WinFwPolicyStatus × Option FwContext :=
  match fwContext with
  | none => (.ok .generalFailure, none)
  | some context =>
    match request with
    | .error error => (policyStatus (.error error), some context)
    | .ok request =>
      let served := context.call parseIpAddress filtersOf engine request
      (policyStatus served.1, some served.2)

/-- `WinFw_ApplyPolicyConnecting`. -/
def winFwApplyPolicyConnecting (settings : Option WinFwSettings)
    (relays : Option (List (Option WinFwAllowedEndpoint)))
    (entryTunnelIfaceAlias exitTunnelIfaceAlias : Option String)
    (allowedEndpoints : Option (List (Option WinFwAllowedEndpoint)))
    (allowedEntryTunnelTraffic allowedExitTunnelTraffic : Option WinFwAllowedTunnelTraffic)
    (nonTunnelDnsServers : Option (List (Option String))) :
    Option FwContext → Except FwError WinFwPolicyStatus × Option FwContext :=
  applyPolicyThroughContext parseIpAddress filtersOf engine
    (applyPolicyConnectingRequest parseIpAddress settings relays entryTunnelIfaceAlias
      exitTunnelIfaceAlias allowedEndpoints allowedEntryTunnelTraffic allowedExitTunnelTraffic
      nonTunnelDnsServers)

/-- `WinFw_ApplyPolicyConnected`. -/
def winFwApplyPolicyConnected (settings : Option WinFwSettings)
    (relays : Option (List (Option WinFwAllowedEndpoint)))
    (entryTunnelIfaceAlias exitTunnelIfaceAlias : Option String)
    (tunnelDnsServers nonTunnelDnsServers : Option (List (Option String)))
    (allowedEndpoints : Option (List (Option WinFwAllowedEndpoint))) :
    Option FwContext → Except FwError WinFwPolicyStatus × Option FwContext :=
  applyPolicyThroughContext parseIpAddress filtersOf engine
    (applyPolicyConnectedRequest parseIpAddress settings relays entryTunnelIfaceAlias
      exitTunnelIfaceAlias tunnelDnsServers nonTunnelDnsServers allowedEndpoints)

/-- `WinFw_ApplyPolicyBlocked`. -/
def winFwApplyPolicyBlocked (settings : Option WinFwSettings)
    (allowedEndpoints : Option (List (Option WinFwAllowedEndpoint))) :
    Option FwContext → Except FwError WinFwPolicyStatus × Option FwContext :=
  applyPolicyThroughContext parseIpAddress filtersOf engine
    (applyPolicyBlockedRequest settings allowedEndpoints)

/-- `WinFw_Reset`: without a context, purge every registered object in a transaction of its
own; otherwise reset the context. -/
def winFwReset (fwContext : Option FwContext) :
    Except FwError WinFwPolicyStatus × Option FwContext :=
  match fwContext with
  | none => (policyStatus (ObjectPurger.execute engine .removeAll), none)
  | some context =>
    let served := context.reset engine
    (policyStatus served.1, some served.2)

/-- The transaction `WinFw_Deinitialize` runs on a session of its own to keep blocking: purge the
non-persistent objects, then add the persistent provider and sublayer and the persistent
block-all rule. -/
def persistentBlockTransaction : Except FwError Bool :=
  ((⟨[]⟩ : SessionController).executeTransaction engine (fun records =>
    match runPurge engine .removeNonPersistent with
    | .ok () => ((addProvider engine MullvadGuids.providerPersistent).andThen
        ((addSublayer engine MullvadGuids.sublayerPersistent).andThen
          (Rule.persistentBlockAll.apply filtersOf engine))) records
    | .error error => .error error) id).1

/-- `WinFw_Deinitialize`: destroy the context, then keep blocking with persistent objects when
asked to and the blocked policy was active, or else reset the firewall. -/
def winFwDeinitialize (cleanupPolicy : WinFwCleanupPolicy) (fwContext : Option FwContext) :
    Except FwError Bool × Option FwContext :=
  match fwContext with
  | none => (.ok true, none)
  | some context =>
    if cleanupPolicy = .continueBlocking ∧ context.activePolicy = .blocked then
      (caughtFalse (persistentBlockTransaction filtersOf engine), none)
    else ((winFwReset engine none).1.map (· == .success), none)

end Calls

section Module

variable (parseIpAddress : String → Except FwError IpAddress) (filtersOf : Rule → List Filter)

/-- Serve one call of the interface on the global context. -/
def ApiCall.serve (engine : Engine) : ApiCall → Option FwContext →
    Except FwError ApiResult × Option FwContext
  | .initializePlain, fwContext =>
    let served := winFwInitialize engine fwContext
    (served.1.map .bool, served.2)
  | .initializeBlocked settings allowedEndpoints, fwContext =>
    let served := winFwInitializeBlocked parseIpAddress filtersOf engine settings allowedEndpoints
      fwContext
    (served.1.map .bool, served.2)
  | .deinitializeWith cleanupPolicy, fwContext =>
    let served := winFwDeinitialize filtersOf engine cleanupPolicy fwContext
    (served.1.map .bool, served.2)
  | .applyPolicyConnecting settings relays entryAlias exitAlias allowed entryTraffic exitTraffic
      nonTunnel, fwContext =>
    let served := winFwApplyPolicyConnecting parseIpAddress filtersOf engine settings relays
      entryAlias exitAlias allowed entryTraffic exitTraffic nonTunnel fwContext
    (served.1.map .status, served.2)
  | .applyPolicyConnected settings relays entryAlias exitAlias tunnel nonTunnel allowed,
      fwContext =>
    let served := winFwApplyPolicyConnected parseIpAddress filtersOf engine settings relays
      entryAlias exitAlias tunnel nonTunnel allowed fwContext
    (served.1.map .status, served.2)
  | .applyPolicyBlocked settings allowed, fwContext =>
    let served := winFwApplyPolicyBlocked parseIpAddress filtersOf engine settings allowed fwContext
    (served.1.map .status, served.2)
  | .reset, fwContext =>
    let served := winFwReset engine fwContext
    (served.1.map .status, served.2)

/-- Serve a sequence of calls from the host, each against its own engine behaviour, and log each
result. -/
def ApiCall.run : List (Engine × ApiCall) → Option FwContext →
    Option FwContext × List (ApiCall × Except FwError ApiResult)
  | [], fwContext => (fwContext, [])
  | (engine, call) :: rest, fwContext =>
    let served := call.serve parseIpAddress filtersOf engine fwContext
    let continued := run rest served.2
    (continued.1, (call, served.1) :: continued.2)

end Module

end WinFw
