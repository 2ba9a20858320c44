import WinFw.Model.Api
import WinFw.Soundness.Installed

/-! # What the interface holds, over every run

The refinement of `Installed` lifted to the `WinFw_*` interface: the abstract state is empty
exactly when there is no global context. A call installs its target only when it reports success,
deinitialization empties the module, and every other outcome leaves the state as it was; from the
empty module every sequence of calls keeps the global context refining that state.
-/

namespace WinFw

theorem handlePolicyException_ne_success (errorCode : UInt32) :
    handlePolicyException errorCode ≠ .success := by
  unfold handlePolicyException
  split <;> nofun

/-- The status of a policy call is `SUCCESS` only when the work inside its `try` returned
`true`. -/
theorem policyStatus_eq_success {outcome : Except FwError Bool} :
    policyStatus outcome = .ok .success ↔ outcome = .ok true := by
  constructor
  · intro status
    rcases outcome with (_ | errorCode | _ | _) | (_ | _) <;>
      first
      | rfl
      | exact absurd (Except.ok.inj status) (handlePolicyException_ne_success errorCode)
      | cases status
  · rintro rfl
    rfl

/-- The installed state an interface call leaves, from what it returned and what it asked for. -/
def Installed.settleApi (installed : Option Installed) (result : Except FwError ApiResult)
    (target : Except FwError Installed) : Option Installed :=
  match installed, result, target with
  | none, .ok (.bool true), .ok target => some target
  | some _, .ok (.status .success), .ok target => some target
  | installed, _, _ => installed

theorem Installed.settleApi_policyStatus (installed : Installed) (outcome : Except FwError Bool)
    (target : Except FwError Installed) :
    Installed.settleApi (some installed) ((policyStatus outcome).map .status) target =
      some (installed.settle outcome target) := by
  by_cases succeeded : outcome = .ok true
  · subst succeeded
    cases target <;> rfl
  · have notSuccess : (policyStatus outcome).map ApiResult.status ≠ .ok (.status .success) := by
      intro status
      obtain ⟨_, mapped, same⟩ := Except.map_eq_ok status
      cases same
      exact succeeded (policyStatus_eq_success.mp mapped)
    rw [Installed.settle_of_ne _ succeeded]
    generalize (policyStatus outcome).map ApiResult.status = result at notSuccess
    rcases result with _ | ((_ | _) | (_ | _ | _)) <;> cases target <;>
      first | rfl | exact absurd rfl notSuccess

/-- Nothing is installed on an empty module by a call that did not return `true`. -/
theorem Installed.settleApi_none {result : Except FwError ApiResult}
    (target : Except FwError Installed) (notTrue : result ≠ .ok (.bool true)) :
    Installed.settleApi none result target = none := by
  rcases result with _ | ((_ | _) | _) <;> first | rfl | exact absurd rfl notTrue

theorem caughtFalse_map_ne (error : FwError) :
    (caughtFalse (.error error)).map ApiResult.bool ≠ .ok (.bool true) := by
  cases error <;> nofun

theorem caughtFalse_eq_true (outcome : Except FwError Bool) :
    caughtFalse outcome = .ok true ↔ outcome = .ok true := by
  rcases outcome with (_ | _ | _ | _) | _ <;> simp [caughtFalse]

section Module

variable (parseIpAddress : String → Except FwError IpAddress) (filtersOf : Rule → List Filter)

/-- The installed state an interface call asks for. -/
def ApiCall.target : ApiCall → Except FwError Installed
  | .initializePlain => Construction.plain.target parseIpAddress
  | .initializeBlocked settings allowedEndpoints =>
    match settings with
    | none => .error (.error "Invalid argument: settings")
    | some settings =>
      (Construction.blocked settings (makeOptionalVector allowedEndpoints)).target parseIpAddress
  | .deinitializeWith _ => .ok ⟨.none, []⟩
  | .applyPolicyConnecting settings relays entryAlias exitAlias allowed entryTraffic exitTraffic
      nonTunnel => (applyPolicyConnectingRequest parseIpAddress settings relays entryAlias exitAlias
        allowed entryTraffic exitTraffic nonTunnel).bind (Request.target parseIpAddress)
  | .applyPolicyConnected settings relays entryAlias exitAlias tunnel nonTunnel allowed =>
    (applyPolicyConnectedRequest parseIpAddress settings relays entryAlias exitAlias tunnel
      nonTunnel allowed).bind (Request.target parseIpAddress)
  | .applyPolicyBlocked settings allowed => (applyPolicyBlockedRequest settings allowed).bind
      (Request.target parseIpAddress)
  | .reset => Request.reset.target parseIpAddress

/-- The installed state after an interface call: deinitialization empties the module, any other
call settles by what it returned. -/
def ApiCall.settle (call : ApiCall) (installed : Option Installed)
    (result : Except FwError ApiResult) : Option Installed :=
  match call with
  | .deinitializeWith _ => none
  | call => Installed.settleApi installed result (call.target parseIpAddress)

/-- The installed state after a logged sequence of interface calls. -/
def ApiCall.replay (installed : Option Installed) :
    List (ApiCall × Except FwError ApiResult) → Option Installed
  | [] => installed
  | (call, result) :: rest => replay (call.settle parseIpAddress installed result) rest

/-- The global context refines the abstract state: both empty, or a context refining what is
installed. -/
def ApiRefines : Option FwContext → Option Installed → Prop
  | none, none => True
  | some context, some installed => Refines filtersOf context installed
  | _, _ => False

end Module

section Step

variable (parseIpAddress : String → Except FwError IpAddress) (filtersOf : Rule → List Filter)
  (engine : Engine) {fwContext : Option FwContext} {installed : Option Installed}

/-- `WinFw_Deinitialize` always leaves the module without a context. -/
theorem winFwDeinitialize_empties (cleanupPolicy : WinFwCleanupPolicy) :
    ( winFwDeinitialize filtersOf engine cleanupPolicy fwContext).2 = none := by
  unfold winFwDeinitialize
  split
  · rfl
  · split <;> rfl

theorem winFwInitialize_refines (refines : ApiRefines filtersOf fwContext installed) :
    ApiRefines filtersOf (winFwInitialize engine fwContext).2
      (Installed.settleApi installed ((winFwInitialize engine fwContext).1.map .bool)
        (Construction.plain.target parseIpAddress)) := by
  match fwContext, installed, refines with
  | some _, some _, refines => exact refines
  | none, none, _ =>
    dsimp only [winFwInitialize]
    cases created : FwContext.create engine with
    | ok context => exact create_refines filtersOf created
    | error error =>
      dsimp only
      rw [Installed.settleApi_none _ (caughtFalse_map_ne error)]
      trivial

theorem winFwInitializeBlocked_refines (settings : Option WinFwSettings)
    (allowedEndpoints : Option (List (Option WinFwAllowedEndpoint)))
    (refines : ApiRefines filtersOf fwContext installed) :
    ApiRefines filtersOf
      (winFwInitializeBlocked parseIpAddress filtersOf engine settings allowedEndpoints fwContext).2
      (Installed.settleApi installed ((winFwInitializeBlocked parseIpAddress filtersOf engine settings
        allowedEndpoints fwContext).1.map .bool)
        ((ApiCall.initializeBlocked settings allowedEndpoints).target parseIpAddress)) := by
  match fwContext, installed, refines, settings with
  | some _, some _, refines, _ => exact refines
  | none, none, _, none => trivial
  | none, none, _, some settings =>
    dsimp only [winFwInitializeBlocked]
    cases created : FwContext.createBlocked parseIpAddress filtersOf engine settings
        (makeOptionalVector allowedEndpoints) with
    | ok context =>
      obtain ⟨ruleset, composed, refines⟩ := createBlocked_refines parseIpAddress filtersOf created
      have target : (ApiCall.initializeBlocked (some settings) allowedEndpoints).target
          parseIpAddress = .ok ⟨.blocked, ruleset⟩ := by
        simp [ApiCall.target, Construction.target, composed, Except.map]
      rw [target]
      exact refines
    | error error =>
      dsimp only
      rw [Installed.settleApi_none _ (caughtFalse_map_ne error)]
      trivial

theorem applyPolicyThroughContext_refines (request : Except FwError Request)
    (refines : ApiRefines filtersOf fwContext installed) :
    ApiRefines filtersOf (applyPolicyThroughContext parseIpAddress filtersOf engine request fwContext).2
      (Installed.settleApi installed
        ((applyPolicyThroughContext parseIpAddress filtersOf engine request fwContext).1.map .status)
        (request.bind (Request.target parseIpAddress))) := by
  match fwContext, installed, refines with
  | none, none, _ => trivial
  | some context, some installed, refines =>
    cases request with
    | error error =>
      show ApiRefines filtersOf (some context) (Installed.settleApi (some installed)
        ((policyStatus (.error error)).map .status) (.error error))
      rw [Installed.settleApi_policyStatus]
      exact refines
    | ok request =>
      show ApiRefines filtersOf (some _) (Installed.settleApi (some installed)
        ((policyStatus _).map .status) (request.target parseIpAddress))
      rw [Installed.settleApi_policyStatus]
      exact call_refines parseIpAddress filtersOf refines engine request

theorem winFwReset_refines (refines : ApiRefines filtersOf fwContext installed) :
    ApiRefines filtersOf (winFwReset engine fwContext).2
      (Installed.settleApi installed ((winFwReset engine fwContext).1.map .status)
        (Request.reset.target parseIpAddress)) := by
  match fwContext, installed, refines with
  | none, none, _ =>
    show ApiRefines filtersOf none (Installed.settleApi none
      ((policyStatus (ObjectPurger.execute engine .removeAll)).map .status) _)
    generalize policyStatus (ObjectPurger.execute engine .removeAll) = status
    cases status <;> trivial
  | some context, some installed, refines =>
    show ApiRefines filtersOf (some _) (Installed.settleApi (some installed)
      ((policyStatus _).map .status) _)
    rw [Installed.settleApi_policyStatus]
    exact call_refines parseIpAddress filtersOf refines engine .reset

/-- One call of the interface keeps the global context refining the abstract state. -/
theorem ApiCall.serve_refines (call : ApiCall) (refines : ApiRefines filtersOf fwContext installed) :
    ApiRefines filtersOf (call.serve parseIpAddress filtersOf engine fwContext).2
      (call.settle parseIpAddress installed (call.serve parseIpAddress filtersOf engine fwContext).1) := by
  cases call with
  | initializePlain => exact winFwInitialize_refines parseIpAddress filtersOf engine refines
  | initializeBlocked settings allowedEndpoints =>
    exact winFwInitializeBlocked_refines parseIpAddress filtersOf engine settings allowedEndpoints
      refines
  | deinitializeWith cleanupPolicy =>
    show ApiRefines filtersOf ( winFwDeinitialize filtersOf engine cleanupPolicy fwContext).2 none
    rw [winFwDeinitialize_empties]
    trivial
  | applyPolicyConnecting =>
    exact applyPolicyThroughContext_refines parseIpAddress filtersOf engine _ refines
  | applyPolicyConnected =>
    exact applyPolicyThroughContext_refines parseIpAddress filtersOf engine _ refines
  | applyPolicyBlocked =>
    exact applyPolicyThroughContext_refines parseIpAddress filtersOf engine _ refines
  | reset => exact winFwReset_refines parseIpAddress filtersOf engine refines

/-- Every sequence of interface calls keeps the global context refining the replayed state. -/
theorem ApiCall.run_refines (calls : List (Engine × ApiCall))
    (refines : ApiRefines filtersOf fwContext installed) :
    ApiRefines filtersOf (ApiCall.run parseIpAddress filtersOf calls fwContext).1
      (ApiCall.replay parseIpAddress installed (ApiCall.run parseIpAddress filtersOf calls fwContext).2) := by
  induction calls generalizing fwContext installed with
  | nil => exact refines
  | cons call rest ih => exact ih (ApiCall.serve_refines parseIpAddress filtersOf call.1 call.2 refines)

end Step

/-- From the empty module, after any sequence of `WinFw_*` calls, each against its own engine, the
global context refines the replayed abstract state. -/
theorem winFw_run_refines (parseIpAddress : String → Except FwError IpAddress)
    (filtersOf : Rule → List Filter) (calls : List (Engine × ApiCall)) :
    ApiRefines filtersOf (ApiCall.run parseIpAddress filtersOf calls none).1
      (ApiCall.replay parseIpAddress none (ApiCall.run parseIpAddress filtersOf calls none).2) :=
  ApiCall.run_refines parseIpAddress filtersOf calls trivial

/-- The objects `WinFw_Deinitialize` adds to keep blocking, in order. -/
def persistentBlockRecords (filtersOf : Rule → List Filter) : List ObjectRecord :=
  [.provider MullvadGuids.providerPersistent, .sublayer MullvadGuids.sublayerPersistent] ++
    (filtersOf .persistentBlockAll).map .filter

section BlocksFirst

variable (parseIpAddress : String → Except FwError IpAddress)

theorem ApiCall.target_blocksFirst (call : ApiCall) {target : Installed}
    (targeted : call.target parseIpAddress = .ok target) : target.BlocksFirst := by
  cases call with
  | initializePlain =>
    cases targeted
    exact .inl ⟨rfl, rfl⟩
  | initializeBlocked settings allowedEndpoints =>
    cases settings with
    | none => cases targeted
    | some settings =>
      exact Construction.target_of_targets parseIpAddress _ (.inl ⟨rfl, rfl⟩)
        (fun _ _ => Request.target_blocksFirst parseIpAddress)
        (show (Construction.blocked settings (makeOptionalVector allowedEndpoints)).target
          parseIpAddress = _ from targeted)
  | deinitializeWith =>
    cases targeted
    exact .inl ⟨rfl, rfl⟩
  | reset =>
    exact Request.target_blocksFirst parseIpAddress (show Request.reset.target parseIpAddress = _ from targeted)
  | _ =>
    obtain ⟨_, -, targeted⟩ := Except.bind_eq_ok targeted
    exact Request.target_blocksFirst parseIpAddress targeted

theorem ApiCall.settle_blocksFirst (call : ApiCall) {installed : Option Installed}
    (blocks : ∀ held ∈ installed, Installed.BlocksFirst held) (result : Except FwError ApiResult) :
    ∀ held ∈ call.settle parseIpAddress installed result, Installed.BlocksFirst held := by
  unfold ApiCall.settle Installed.settleApi
  split
  · nofun
  · split
    · rintro _ ⟨⟩
      exact call.target_blocksFirst parseIpAddress ‹_›
    · rintro _ ⟨⟩
      exact call.target_blocksFirst parseIpAddress ‹_›
    · exact blocks

theorem ApiCall.replay_blocksFirst {installed : Option Installed}
    (blocks : ∀ held ∈ installed, Installed.BlocksFirst held)
    (log : List (ApiCall × Except FwError ApiResult)) :
    ∀ held ∈ ApiCall.replay parseIpAddress installed log, Installed.BlocksFirst held := by
  induction log generalizing installed with
  | nil => exact blocks
  | cons entry rest ih => exact ih (entry.1.settle_blocksFirst parseIpAddress blocks entry.2)

/-- From the empty module, after any sequence of `WinFw_*` calls, a context holds the structural
objects alone, or followed first by the `BlockAll` and then the `PermitLoopback` filters. -/
theorem winFw_run_blocks_first (filtersOf : Rule → List Filter) (calls : List (Engine × ApiCall))
    {context : FwContext} (holds : (ApiCall.run parseIpAddress filtersOf calls none).1 = some context) :
    (context.activePolicy = .none ∧ context.sessionController.records = structuralRecords) ∨
    (context.activePolicy ≠ .none ∧
      structuralRecords ++ (filtersOf .blockAll ++ filtersOf .permitLoopback).map .filter <+:
        context.sessionController.records) := by
  have refines := ApiCall.run_refines parseIpAddress filtersOf calls
    (show ApiRefines filtersOf none none from trivial)
  have blocks := ApiCall.replay_blocksFirst parseIpAddress
    (show ∀ held ∈ (none : Option Installed), held.BlocksFirst from nofun)
    (ApiCall.run parseIpAddress filtersOf calls none).2
  rw [holds] at refines
  generalize ApiCall.replay parseIpAddress none _ = installed at refines blocks
  cases installed with
  | none => exact refines.elim
  | some held => exact Refines.records_of_blocksFirst filtersOf refines (blocks held rfl)

/-- A host session: blocked initialization with eight allowed endpoints, then the connecting policy
with a pinned exit tunnel and the connected policy, each with two relays of each family. -/
def exampleApiCalls : List (Engine × ApiCall) :=
  [(.accepting, .initializeBlocked (some ⟨true, false⟩) (some (exampleEndpoints.map some))),
    (.accepting, .applyPolicyConnecting (some ⟨false, false⟩) (some (exampleRelays.map some))
      (some "wg-entry") (some "wg-exit") none (some .all) (some (.one ⟨"192.0.2.3", 51820, .udp⟩))
      (some [some "192.0.2.4"])),
    (.accepting, .applyPolicyConnected (some ⟨true, true⟩) (some (exampleRelays.map some))
      (some "wg-entry") (some "wg-exit") (some [some "2001:db8::4"]) (some [])
      (some (exampleEndpoints.map some)))]

/-- The host session of `exampleApiCalls`, with the example filters. -/
theorem winFw_run_blocks_first_blocked :
    ∃ context, (ApiCall.run exampleParse exampleFiltersOf exampleApiCalls none).1 = some context ∧
      ((context.activePolicy = .none ∧ context.sessionController.records = structuralRecords) ∨
      (context.activePolicy ≠ .none ∧
        structuralRecords ++ (exampleFiltersOf .blockAll ++ exampleFiltersOf .permitLoopback).map
          .filter <+: context.sessionController.records)) :=
  ⟨_, rfl, winFw_run_blocks_first exampleParse exampleFiltersOf exampleApiCalls rfl⟩

end BlocksFirst

end WinFw
