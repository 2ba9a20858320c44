import WinFw.Proofs.PermitRules
import WinFw.Proofs.Compose

/-! # What the context holds, over every run

The abstract state is the policy last applied and its ruleset. `Refines` ties a concrete
`FwContext` to it: the baseline right after the structural objects, the records those objects
followed by exactly the installed ruleset's filters, and the installed policy active. Both
constructors establish it and every call preserves it, moving to the call's target exactly when the
call returned `true`; two invariants follow: every active policy blocks first, and every object the
context holds is registered.
-/

namespace WinFw

section Refinement

variable (filtersOf : Rule → List Filter)

/-- A rule that returns `true` appended exactly its filters. -/
theorem Rule.apply_true {engine : Engine} {rule : Rule} {records after : List ObjectRecord}
    (success : rule.apply filtersOf engine records = .ok (true, after)) :
    after = records ++ (rule.filters filtersOf).map .filter := by
  cases rule with
  | permitVpnRelay endpoints => exact (PermitVpnRelay.pool.loop_true engine success).2
  | permitEndpoint endpoints => exact (PermitEndpoint.pool.loop_true engine success).2
  | _ => exact installFilters_true success

/-- A ruleset applied with result `true` appended exactly its filters, rule after rule. -/
theorem applyRulesetDirectly_true {engine : Engine} {ruleset : Ruleset}
    {records after : List ObjectRecord}
    (success : applyRulesetDirectly filtersOf engine ruleset records = .ok (true, after)) :
    after = records ++ (Ruleset.filters filtersOf ruleset).map .filter := by
  induction ruleset generalizing records with
  | nil => simpa [applyRulesetDirectly, Ruleset.filters] using success.symm
  | cons rule rest ih =>
    obtain ⟨added, first, next⟩ := Installer.andThen_true success
    simp [ih next, Rule.apply_true filtersOf first, Ruleset.filters]

/-- The policy the firewall is meant to enforce and the ruleset it was applied with. -/
structure Installed where
  policy : Policy
  ruleset : Ruleset
deriving DecidableEq, Repr

/-- The context holds the installed state: the baseline checkpoint right after the structural
objects, those objects followed by exactly the installed ruleset's filters, and its policy. -/
structure Refines (context : FwContext) (installed : Installed) : Prop where
  baseline : context.baseline = structuralRecords.length
  records : context.sessionController.records =
    structuralRecords ++ (Ruleset.filters filtersOf installed.ruleset).map .filter
  policy : context.activePolicy = installed.policy

/-- Reverting to the baseline leaves the structural objects. -/
theorem Refines.revert_baseline {context : FwContext} {installed : Installed}
    (refines : Refines filtersOf context installed) :
    revert context.baseline context.sessionController.records = structuralRecords := by
  rw [refines.baseline, refines.records, revert, List.take_left]

end Refinement

/-- The state a call leaves: its target when it returned `true`, the previous state otherwise. -/
def Installed.settle (installed : Installed) (outcome : Except FwError Bool)
    (target : Except FwError Installed) : Installed :=
  match outcome, target with
  | .ok true, .ok target => target
  | _, _ => installed

theorem Installed.settle_of_ne {installed : Installed} {outcome : Except FwError Bool}
    (target : Except FwError Installed) (notTrue : outcome ≠ .ok true) :
    installed.settle outcome target = installed :=
  match outcome, notTrue with
  | .ok true, notTrue => absurd rfl notTrue
  | .ok false, _ => rfl
  | .error _, _ => rfl

section Targets

variable (parseIpAddress : String → Except FwError IpAddress)

/-- The policy a request asks for, with the ruleset it composes for it. -/
def Request.target : Request → Except FwError Installed
  | .applyPolicyConnecting settings relays entryAlias entryTraffic exitAlias exitTraffic allowed
      nonTunnel => (composePolicyConnecting parseIpAddress settings relays entryAlias entryTraffic
        exitAlias exitTraffic allowed nonTunnel).map (⟨.connecting, ·⟩)
  | .applyPolicyConnected settings relays entryAlias exitAlias allowed tunnel nonTunnel =>
    (composePolicyConnected parseIpAddress settings relays entryAlias exitAlias allowed tunnel
      nonTunnel).map (⟨.connected, ·⟩)
  | .applyPolicyBlocked settings allowed =>
    (composePolicyBlocked parseIpAddress settings allowed).map (⟨.blocked, ·⟩)
  | .reset => .ok ⟨.none, []⟩

/-- The state a constructor is meant to establish: nothing, or the blocked ruleset. -/
def Construction.target : Construction → Except FwError Installed
  | .plain => .ok ⟨.none, []⟩
  | .blocked settings allowed =>
    (composePolicyBlocked parseIpAddress settings allowed).map (⟨.blocked, ·⟩)

/-- The installed state after a logged sequence of calls: the target of the last call that
returned `true`. -/
def Installed.replay (installed : Installed) : List (Request × Except FwError Bool) → Installed
  | [] => installed
  | (request, outcome) :: rest =>
    replay (installed.settle outcome (request.target parseIpAddress)) rest

/-- A property of the starting state and of every request's target holds after any replay. -/
theorem Installed.replay_of_targets (holds : Installed → Prop)
    (targets : ∀ (request : Request) (target : Installed),
      request.target parseIpAddress = .ok target → holds target) :
    ∀ {installed : Installed} (log : List (Request × Except FwError Bool)), holds installed →
      holds (installed.replay parseIpAddress log)
  | _, [], initial => initial
  | installed, (request, outcome) :: rest, initial => by
    refine Installed.replay_of_targets holds targets rest ?_
    unfold Installed.settle
    split
    · exact targets request _ ‹_›
    · exact initial

/-- A property of the empty state and of every request's target holds of every constructor's
target. -/
theorem Construction.target_of_targets (holds : Installed → Prop) (empty : holds ⟨.none, []⟩)
    (targets : ∀ (request : Request) (target : Installed),
      request.target parseIpAddress = .ok target → holds target)
    {construction : Construction} {target : Installed}
    (targeted : construction.target parseIpAddress = .ok target) : holds target := by
  cases construction with
  | plain => cases targeted; exact empty
  | blocked settings allowedEndpoints =>
    exact targets (.applyPolicyBlocked settings allowedEndpoints) target targeted

end Targets

section Step

variable (parseIpAddress : String → Except FwError IpAddress) (filtersOf : Rule → List Filter)
  {context : FwContext} {installed : Installed}

/-- The context after a call that committed `target`: its filters after the baseline, and its
policy active. -/
def FwContext.committed (context : FwContext) (target : Installed) : FwContext :=
  { context with
    sessionController := ⟨revert context.baseline context.sessionController.records ++
      (Ruleset.filters filtersOf target.ruleset).map .filter⟩
    activePolicy := target.policy }

/-- Applying a composed ruleset commits it and returns `true`, or leaves the context as it was. -/
theorem applyComposed_cases (engine : Engine) (policy : Policy)
    (composition : Except FwError Ruleset) :
    (∃ target, composition.map (⟨policy, ·⟩) = .ok target ∧
      context.applyComposed filtersOf engine policy composition =
        (.ok true, context.committed filtersOf target)) ∨
    ((context.applyComposed filtersOf engine policy composition).1 ≠ .ok true ∧
      (context.applyComposed filtersOf engine policy composition).2 = context) := by
  cases composition with
  | error error => exact .inr ⟨nofun, rfl⟩
  | ok ruleset =>
    dsimp only [FwContext.applyComposed, FwContext.applyRuleset]
    rcases SessionController.executeTransaction_cases engine (fun records => applyRulesetDirectly
        filtersOf engine ruleset (revert context.baseline records)) id context.sessionController with
      ⟨result, records, ran, committed, executed⟩ | ⟨unchanged, notTrue⟩
    · obtain rfl : result = true := committed
      obtain rfl := applyRulesetDirectly_true filtersOf ran
      exact .inl ⟨⟨policy, ruleset⟩, rfl, by simp only [executed]; rfl⟩
    · generalize context.sessionController.executeTransaction engine _ id = served at unchanged notTrue ⊢
      obtain ⟨status, controller⟩ := served
      cases unchanged
      rcases status with error | status
      · exact .inr ⟨nofun, rfl⟩
      · obtain rfl : status = false := notTrue status rfl
        exact .inr ⟨nofun, rfl⟩

/-- `reset` commits, reverting to the baseline with no policy, or leaves the context as it was. -/
theorem reset_cases (engine : Engine) (context : FwContext) :
    context.reset engine = (.ok true, context.committed filtersOf ⟨.none, []⟩) ∨
    ((context.reset engine).1 ≠ .ok true ∧ (context.reset engine).2 = context) := by
  unfold FwContext.reset SessionController.executeTransaction
  rcases engine.transactionError with _ | errorCode
  · exact .inl (by simp [FwContext.committed, Ruleset.filters, returnedTrue])
  · exact .inr ⟨nofun, rfl⟩

/-- One call commits its target and returns `true`, or leaves the context as it was. -/
theorem call_cases (engine : Engine) (request : Request) (context : FwContext) :
    (∃ target, request.target parseIpAddress = .ok target ∧
      context.call parseIpAddress filtersOf engine request =
        (.ok true, context.committed filtersOf target)) ∨
    ((context.call parseIpAddress filtersOf engine request).1 ≠ .ok true ∧
      (context.call parseIpAddress filtersOf engine request).2 = context) := by
  cases request with
  | reset =>
    rcases reset_cases filtersOf engine context with served | unchanged
    · exact .inl ⟨_, rfl, served⟩
    · exact .inr unchanged
  | _ => exact applyComposed_cases filtersOf engine _ _

/-- A context that refines `installed` and commits `target` refines `target`. -/
theorem Refines.committed (refines : Refines filtersOf context installed) (target : Installed) :
    Refines filtersOf (context.committed filtersOf target) target :=
  ⟨refines.baseline, by rw [FwContext.committed, refines.revert_baseline], rfl⟩

/-- One call keeps the context refining the installed state, which moves to the call's target
exactly when the call returned `true`. -/
theorem call_refines (refines : Refines filtersOf context installed) (engine : Engine)
    (request : Request) :
    Refines filtersOf (context.call parseIpAddress filtersOf engine request).2
      (installed.settle (context.call parseIpAddress filtersOf engine request).1
        (request.target parseIpAddress)) := by
  rcases call_cases parseIpAddress filtersOf engine request context with
    ⟨target, targeted, served⟩ | ⟨notTrue, same⟩
  · rw [served, targeted]
    exact refines.committed filtersOf target
  · rw [Installed.settle_of_ne _ notTrue, same]
    exact refines

/-- Two contexts that refine the same installed state are the same context. -/
theorem Refines.unique {context' : FwContext} (first : Refines filtersOf context installed)
    (second : Refines filtersOf context' installed) : context = context' := by
  obtain ⟨⟨records⟩, baseline, policy⟩ := context
  obtain ⟨⟨records'⟩, baseline', policy'⟩ := context'
  obtain ⟨rfl, rfl, rfl⟩ := first
  obtain ⟨rfl, rfl, same⟩ := second
  simp_all

theorem Installed.settle_settle (installed : Installed) (outcome : Except FwError Bool)
    (target : Except FwError Installed) :
    (installed.settle (.ok true) target).settle outcome target = installed.settle (.ok true) target :=
  match outcome, target with
  | .ok true, .ok _ => rfl
  | .ok false, _ => rfl
  | .error _, _ => rfl
  | .ok true, .error _ => rfl

/-- Repeating a call that returned `true` leaves the context as the first call left it, whatever
the repeated call's outcome: applying the same policy twice is applying it once. -/
theorem call_repeat_unchanged (refines : Refines filtersOf context installed)
    (engine engine' : Engine) (request : Request)
    (first : (context.call parseIpAddress filtersOf engine request).1 = .ok true) :
    ((context.call parseIpAddress filtersOf engine request).2.call parseIpAddress filtersOf engine'
      request).2 = (context.call parseIpAddress filtersOf engine request).2 := by
  have once := call_refines parseIpAddress filtersOf refines engine request
  have twice := call_refines parseIpAddress filtersOf once engine' request
  rw [first, Installed.settle_settle] at twice
  rw [first] at once
  exact twice.unique filtersOf once

/-- An outbound filter under `key` at the connect layer of `type`. -/
def exampleFilter (key : GUID) (type : AddressType) (action : FilterAction) : Filter :=
  ⟨key, "", "", MullvadGuids.provider, connectLayer type, MullvadGuids.sublayerBaseline, .max,
    action, []⟩

/-- Outbound filters under each rule's own keys, for the rules whose sources are absent; the
persistent rule uses the persistent keys. -/
def exampleFiltersOf : Rule → List Filter
  | .blockAll => [exampleFilter MullvadGuids.filterBaselineBlockAllOutboundIpv4 .ipv4 .block,
      exampleFilter MullvadGuids.filterBaselineBlockAllOutboundIpv6 .ipv6 .block]
  | .permitLoopback =>
    [exampleFilter MullvadGuids.filterBaselinePermitLoopbackOutboundIpv4 .ipv4 .permit,
      exampleFilter MullvadGuids.filterBaselinePermitLoopbackOutboundIpv6 .ipv6 .permit]
  | .permitDns => [exampleFilter MullvadGuids.filterBaselinePermitDnsOutboundIpv4 .ipv4 .permit,
      exampleFilter MullvadGuids.filterBaselinePermitDnsOutboundIpv6 .ipv6 .permit]
  | .dnsPermitLoopback =>
    [exampleFilter MullvadGuids.filterDnsPermitLoopbackOutboundIpv4 .ipv4 .permit,
      exampleFilter MullvadGuids.filterDnsPermitLoopbackOutboundIpv6 .ipv6 .permit]
  | .dnsBlockAll => [exampleFilter MullvadGuids.filterDnsBlockAllOutboundIpv4 .ipv4 .block,
      exampleFilter MullvadGuids.filterDnsBlockAllOutboundIpv6 .ipv6 .block]
  | .persistentBlockAll =>
    [exampleFilter MullvadGuids.filterPersistentBlockAllOutboundIpv4 .ipv4 .block,
      exampleFilter MullvadGuids.filterPersistentBlockAllOutboundIpv6 .ipv6 .block]
  | _ => []

/-- The blocked policy with eight allowed endpoints, applied twice to a plain context. -/
theorem call_repeat_unchanged_blocked :
    Refines exampleFiltersOf ⟨⟨structuralRecords⟩, 3, .none⟩ ⟨.none, []⟩ ∧
    (FwContext.call exampleParse exampleFiltersOf .accepting
      (.applyPolicyBlocked ⟨true, false⟩ (some exampleEndpoints))
      ⟨⟨structuralRecords⟩, 3, .none⟩).1 = .ok true ∧
    ((FwContext.call exampleParse exampleFiltersOf .accepting
      (.applyPolicyBlocked ⟨true, false⟩ (some exampleEndpoints))
      ⟨⟨structuralRecords⟩, 3, .none⟩).2.call exampleParse exampleFiltersOf .accepting
        (.applyPolicyBlocked ⟨true, false⟩ (some exampleEndpoints))).2 =
      (FwContext.call exampleParse exampleFiltersOf .accepting
        (.applyPolicyBlocked ⟨true, false⟩ (some exampleEndpoints))
        ⟨⟨structuralRecords⟩, 3, .none⟩).2 :=
  ⟨⟨rfl, rfl, rfl⟩, rfl, call_repeat_unchanged exampleParse exampleFiltersOf
    (⟨rfl, rfl, rfl⟩ : Refines exampleFiltersOf ⟨⟨structuralRecords⟩, 3, .none⟩ ⟨.none, []⟩) _ _ _
    rfl⟩

/-- Every sequence of calls keeps the context refining the replayed installed state. -/
theorem run_refines (calls : List (Engine × Request)) (refines : Refines filtersOf context installed) :
    Refines filtersOf (context.run parseIpAddress filtersOf calls).1
      (installed.replay parseIpAddress (context.run parseIpAddress filtersOf calls).2) := by
  induction calls generalizing context installed with
  | nil => exact refines
  | cons call rest ih => exact ih (call_refines parseIpAddress filtersOf refines call.1 call.2)

end Step

section Construction

variable (parseIpAddress : String → Except FwError IpAddress) (filtersOf : Rule → List Filter)
  {engine : Engine} {context : FwContext}

/-- A base configuration that returned `true` added exactly the structural objects. -/
theorem applyCommonBaseConfiguration_true {records after : List ObjectRecord}
    (success : applyCommonBaseConfiguration engine records = .ok (true, after)) :
    after = records ++ structuralRecords := by
  unfold applyCommonBaseConfiguration at success
  split at success
  · exact installAll_true success
  · cases success

/-- The plain constructor holds the structural objects only, with the baseline after them. -/
theorem create_refines (created : FwContext.create engine = .ok context) :
    Refines filtersOf context ⟨.none, []⟩ := by
  unfold FwContext.create at created
  split at created
  · next controller executed =>
    cases created
    have installed := applyCommonBaseConfiguration_true
      (SessionController.executeTransaction_ok executed rfl)
    rw [List.nil_append] at installed
    exact ⟨by simp [SessionController.checkpoint, installed], by simp [installed, Ruleset.filters], rfl⟩
  all_goals cases created

/-- The blocked constructor holds the structural objects and the blocked ruleset's filters, with
the baseline right after the structural objects. -/
theorem createBlocked_refines {settings : WinFwSettings}
    {allowedEndpoints : Option (List WinFwAllowedEndpoint)}
    (created : FwContext.createBlocked parseIpAddress filtersOf engine settings allowedEndpoints =
      .ok context) :
    ∃ ruleset, composePolicyBlocked parseIpAddress settings allowedEndpoints = .ok ruleset ∧
      Refines filtersOf context ⟨.blocked, ruleset⟩ := by
  unfold FwContext.createBlocked at created
  split at created
  · next checkpoint controller executed =>
    cases created
    have ran := SessionController.executeTransaction_ok executed rfl
    dsimp only at ran
    split at ran
    · next structural base =>
      rw [applyCommonBaseConfiguration_true base, List.nil_append] at ran
      split at ran
      · next ruleset composed =>
        obtain ⟨⟨status, applied⟩, applies, same⟩ := Except.map_eq_ok ran
        cases same
        exact ⟨ruleset, composed, rfl, applyRulesetDirectly_true filtersOf applies, rfl⟩
      · cases ran
    all_goals cases ran
  all_goals cases created

/-- Either constructor establishes its target. -/
theorem construct_refines {construction : Construction}
    (constructed : FwContext.construct parseIpAddress filtersOf engine construction = .ok context) :
    ∃ initial, construction.target parseIpAddress = .ok initial ∧
      Refines filtersOf context initial := by
  cases construction with
  | plain => exact ⟨_, rfl, create_refines filtersOf constructed⟩
  | blocked settings allowedEndpoints =>
    obtain ⟨ruleset, composed, refines⟩ := createBlocked_refines parseIpAddress filtersOf constructed
    exact ⟨_, by simp [Construction.target, composed, Except.map], refines⟩

/-- From either constructor, after any sequence of calls, each against its own engine behaviour,
the context refines the target of the last call that returned `true`, or the constructor's. -/
theorem fwContext_run_refines (engine : Engine) (construction : Construction)
    (constructed : FwContext.construct parseIpAddress filtersOf engine construction = .ok context)
    (calls : List (Engine × Request)) :
    ∃ initial, construction.target parseIpAddress = .ok initial ∧
      Refines filtersOf context initial ∧
      Refines filtersOf (context.run parseIpAddress filtersOf calls).1
        (initial.replay parseIpAddress (context.run parseIpAddress filtersOf calls).2) := by
  obtain ⟨initial, target, refines⟩ := construct_refines parseIpAddress filtersOf constructed
  exact ⟨initial, target, refines, run_refines parseIpAddress filtersOf calls refines⟩

/-- The calls of `exampleRun`: the connecting policy with two relays of each family, the engine
rejecting every filter, and then a reset. -/
def exampleCalls : List (Engine × Request) :=
  [(⟨fun _ _ => .rejected, fun _ => none, none⟩, .applyPolicyConnecting ⟨false, false⟩ exampleRelays
      (some "wg-entry") .all (some "wg-exit") (.one ⟨"192.0.2.3", 51820, .udp⟩) none []),
    (.accepting, .applyPolicyConnected ⟨true, true⟩ exampleRelays (some "wg-entry") (some "wg-exit")
      (some exampleEndpoints) [.ipv4 0x0a400001] [.ipv4 0x08080808]),
    (.accepting, .reset)]

/-- The blocked constructor with eight allowed endpoints, then a rejected connecting policy, an
applied connected policy and a reset. -/
theorem fwContext_run_refines_blockedThenReset :
    ∃ context, FwContext.construct exampleParse exampleFiltersOf .accepting
        (.blocked ⟨true, false⟩ (some exampleEndpoints)) = .ok context ∧
      ∃ initial, (Construction.blocked ⟨true, false⟩ (some exampleEndpoints)).target exampleParse =
          .ok initial ∧
        Refines exampleFiltersOf context initial ∧
        Refines exampleFiltersOf (context.run exampleParse exampleFiltersOf exampleCalls).1
          (initial.replay exampleParse (context.run exampleParse exampleFiltersOf exampleCalls).2) :=
  ⟨_, rfl, fwContext_run_refines exampleParse exampleFiltersOf .accepting
    (.blocked ⟨true, false⟩ (some exampleEndpoints)) rfl _⟩

end Construction

/-- What every installed state looks like: no policy and nothing installed, or a policy whose
ruleset starts with `BlockAll` and then `PermitLoopback`. -/
def Installed.BlocksFirst (installed : Installed) : Prop :=
  (installed.policy = .none ∧ installed.ruleset = []) ∨
    (installed.policy ≠ .none ∧ ∃ rest, installed.ruleset = .blockAll :: .permitLoopback :: rest)

theorem appendSettingsRules_netBlocked (settings : WinFwSettings) :
    ∃ rest, appendSettingsRules (appendNetBlockedRules []) settings =
      .blockAll :: .permitLoopback :: rest :=
  ⟨_, rfl⟩

/-- A policy whose ruleset starts with the net-blocked and settings rules blocks first. -/
theorem Installed.blocksFirst_of_prefix {policy : Policy} {settings : WinFwSettings}
    {rules : Ruleset} (active : policy ≠ .none)
    (starts : appendSettingsRules (appendNetBlockedRules []) settings <+: rules) :
    Installed.BlocksFirst ⟨policy, rules⟩ := by
  obtain ⟨more, rfl⟩ := starts
  obtain ⟨rest, base⟩ := appendSettingsRules_netBlocked settings
  exact .inr ⟨active, rest ++ more, by rw [base]; rfl⟩

theorem Request.target_blocksFirst (parseIpAddress : String → Except FwError IpAddress)
    {request : Request} {target : Installed} (targeted : request.target parseIpAddress = .ok target) :
    target.BlocksFirst := by
  cases request with
  | applyPolicyConnecting =>
    obtain ⟨rules, composed, rfl⟩ := Except.map_eq_ok targeted
    obtain ⟨_, _, _, _, -, -, -, rfl⟩ := composePolicyConnecting_ok parseIpAddress composed
    exact Installed.blocksFirst_of_prefix nofun (by simp only [List.append_assoc]; exact List.prefix_append _ _)
  | applyPolicyConnected =>
    obtain ⟨rules, composed, rfl⟩ := Except.map_eq_ok targeted
    obtain ⟨_, _, -, rfl⟩ := composePolicyConnected_ok parseIpAddress composed
    exact Installed.blocksFirst_of_prefix nofun (by simp only [List.append_assoc]; exact List.prefix_append _ _)
  | applyPolicyBlocked =>
    obtain ⟨rules, composed, rfl⟩ := Except.map_eq_ok targeted
    rw [composePolicyBlocked_eq] at composed
    obtain ⟨_, -, rfl⟩ := Except.map_eq_ok composed
    exact Installed.blocksFirst_of_prefix nofun (List.prefix_append _ _)
  | reset =>
    cases targeted
    exact .inl ⟨rfl, rfl⟩

section BlocksFirst

variable (parseIpAddress : String → Except FwError IpAddress) (filtersOf : Rule → List Filter)
  {engine : Engine} {context : FwContext}

/-- A context refining a state that blocks first holds the structural objects alone, or followed
by the `BlockAll` and then the `PermitLoopback` filters. -/
theorem Refines.records_of_blocksFirst {installed : Installed}
    (refines : Refines filtersOf context installed) (blocks : installed.BlocksFirst) :
    (context.activePolicy = .none ∧ context.sessionController.records = structuralRecords) ∨
    (context.activePolicy ≠ .none ∧
      structuralRecords ++ (filtersOf .blockAll ++ filtersOf .permitLoopback).map .filter <+:
        context.sessionController.records) := by
  rcases blocks with ⟨inactive, empty⟩ | ⟨active, rest, starts⟩
  · refine .inl ⟨refines.policy.trans inactive, ?_⟩
    rw [refines.records, empty]
    simp [Ruleset.filters]
  · refine .inr ⟨refines.policy ▸ active, ?_⟩
    rw [refines.records, starts]
    exact ⟨(Ruleset.filters filtersOf rest).map .filter, by simp [Ruleset.filters, Rule.filters]⟩

/-- From either constructor, after any sequence of calls, the context holds the structural objects
alone, or followed first by the `BlockAll` and then the `PermitLoopback` filters. -/
theorem run_blocks_first (engine : Engine) (construction : Construction)
    (constructed : FwContext.construct parseIpAddress filtersOf engine construction = .ok context)
    (calls : List (Engine × Request)) :
    ((context.run parseIpAddress filtersOf calls).1.activePolicy = .none ∧
      (context.run parseIpAddress filtersOf calls).1.sessionController.records = structuralRecords) ∨
    ((context.run parseIpAddress filtersOf calls).1.activePolicy ≠ .none ∧
      structuralRecords ++ (filtersOf .blockAll ++ filtersOf .permitLoopback).map .filter <+:
        (context.run parseIpAddress filtersOf calls).1.sessionController.records) := by
  obtain ⟨initial, target, refines⟩ := construct_refines parseIpAddress filtersOf constructed
  have blocksFirst := fun request target => @Request.target_blocksFirst parseIpAddress request target
  exact (run_refines parseIpAddress filtersOf calls refines).records_of_blocksFirst filtersOf
    (Installed.replay_of_targets parseIpAddress _ blocksFirst _
      (Construction.target_of_targets parseIpAddress _ (.inl ⟨rfl, rfl⟩) blocksFirst target))

/-- The blocked constructor, then a rejected connecting policy, an applied connected policy and a
reset. -/
theorem run_blocks_first_blocked :
    ∃ context, FwContext.construct exampleParse exampleFiltersOf .accepting
        (.blocked ⟨true, false⟩ (some exampleEndpoints)) = .ok context ∧
      (((context.run exampleParse exampleFiltersOf exampleCalls).1.activePolicy = .none ∧
        (context.run exampleParse exampleFiltersOf exampleCalls).1.sessionController.records =
          structuralRecords) ∨
      ((context.run exampleParse exampleFiltersOf exampleCalls).1.activePolicy ≠ .none ∧
        structuralRecords ++ (exampleFiltersOf .blockAll ++ exampleFiltersOf .permitLoopback).map
          .filter <+: (context.run exampleParse exampleFiltersOf exampleCalls).1.sessionController.records)) :=
  ⟨_, rfl, run_blocks_first exampleParse exampleFiltersOf .accepting
    (.blocked ⟨true, false⟩ (some exampleEndpoints)) rfl _⟩

end BlocksFirst

/-- The identity under which `MullvadGuids::DetailedRegistry` lists an object. -/
def ObjectRecord.identity : ObjectRecord → WfpObjectType × GUID
  | .provider key => (.provider, key)
  | .sublayer key => (.sublayer, key)
  | .filter entry => (.filter, entry.key)

theorem appendSettingsRules_not_persistent (settings : WinFwSettings) :
    Rule.persistentBlockAll ∉ appendSettingsRules (appendNetBlockedRules []) settings := by
  simp only [appendSettingsRules, appendNetBlockedRules]
  split_ifs <;> simp

theorem not_persistent_of_connectionPermit {rules : Ruleset}
    (permits : ∀ rule ∈ rules, rule.isConnectionPermit) : Rule.persistentBlockAll ∉ rules :=
  fun member => absurd (permits _ member) (by decide)

theorem allowedEndpointRules_not_persistent {parseIpAddress : String → Except FwError IpAddress}
    {allowedEndpoints : Option (List WinFwAllowedEndpoint)} {allowed : Ruleset}
    (built : appendOptionalAllowedEndpointRules parseIpAddress [] allowedEndpoints = .ok allowed) :
    Rule.persistentBlockAll ∉ allowed := by
  rcases allowedEndpointRules_ok parseIpAddress built with rfl | ⟨_, rfl⟩ <;> simp

/-- No composition holds the persistent rule, which only `WinFw_Deinitialize` installs. -/
theorem Request.target_not_persistent (parseIpAddress : String → Except FwError IpAddress)
    {request : Request} {target : Installed} (targeted : request.target parseIpAddress = .ok target) :
    Rule.persistentBlockAll ∉ target.ruleset := by
  cases request with
  | applyPolicyConnecting settings =>
    obtain ⟨rules, composed, rfl⟩ := Except.map_eq_ok targeted
    obtain ⟨_, _, _, _, allowedOk, entryOk, exitOk, rfl⟩ :=
      composePolicyConnecting_ok parseIpAddress composed
    simp only [List.mem_append, List.mem_singleton, reduceCtorEq, or_false, or_assoc]
    rintro (base | allowed | dns | entered | exited)
    · exact appendSettingsRules_not_persistent settings base
    · exact allowedEndpointRules_not_persistent allowedOk allowed
    · exact not_persistent_of_connectionPermit (nonTunnelDnsRules_connectionPermit _ _) dns
    · exact not_persistent_of_connectionPermit (appendTunnelRules_connectionPermit entryOk) entered
    · exact not_persistent_of_connectionPermit (appendTunnelRules_connectionPermit exitOk) exited
  | applyPolicyConnected settings =>
    obtain ⟨rules, composed, rfl⟩ := Except.map_eq_ok targeted
    obtain ⟨_, _, allowedOk, rfl⟩ := composePolicyConnected_ok parseIpAddress composed
    simp only [List.mem_append, List.mem_singleton, reduceCtorEq, or_false, or_assoc]
    rintro (base | allowed | permit)
    · exact appendSettingsRules_not_persistent settings base
    · exact allowedEndpointRules_not_persistent allowedOk allowed
    · exact not_persistent_of_connectionPermit (connectedPermits_connectionPermit _ _ _ _) permit
  | applyPolicyBlocked settings =>
    obtain ⟨rules, composed, rfl⟩ := Except.map_eq_ok targeted
    rw [composePolicyBlocked_eq] at composed
    obtain ⟨_, allowedOk, rfl⟩ := Except.map_eq_ok composed
    rw [List.mem_append]
    rintro (base | allowed)
    · exact appendSettingsRules_not_persistent settings base
    · exact allowedEndpointRules_not_persistent allowedOk allowed
  | reset =>
    cases targeted
    nofun

section Registered

variable (parseIpAddress : String → Except FwError IpAddress) (filtersOf : Rule → List Filter)

theorem Pool.filters_registered {E : Type} (pool : Pool E)
    (keyed4 : ∀ endpoint key, (pool.ipv4Filter endpoint key).key = key)
    (keyed6 : ∀ endpoint key, (pool.ipv6Filter endpoint key).key = key)
    (current : ∀ type, ∀ key ∈ pool.guids type, key ∈ MullvadGuids.currentFilters)
    (endpoints : List E) :
    ∀ filter ∈ pool.filters endpoints 0 0,
      (WfpObjectType.filter, filter.key) ∈ MullvadGuids.detailedRegistry ⟨false, false⟩ := by
  intro filter member
  refine mem_detailedRegistry ?_ _
  rcases pool.filters_key_mem keyed4 keyed6 filter member with four | six
  · exact current .ipv4 _ (by simpa using four)
  · exact current .ipv6 _ (by simpa using six)

theorem Rule.filters_registered
    (registered : ∀ rule, rule ≠ .persistentBlockAll → ∀ filter ∈ filtersOf rule,
      (WfpObjectType.filter, filter.key) ∈ MullvadGuids.detailedRegistry ⟨false, false⟩)
    (rule : Rule) (composed : rule ≠ .persistentBlockAll) :
    ∀ filter ∈ rule.filters filtersOf,
      (WfpObjectType.filter, filter.key) ∈ MullvadGuids.detailedRegistry ⟨false, false⟩ := by
  cases rule with
  | permitVpnRelay endpoints =>
    exact PermitVpnRelay.pool.filters_registered (fun _ _ => rfl) (fun _ _ => rfl)
      relayGuids_current endpoints
  | permitEndpoint endpoints =>
    exact PermitEndpoint.pool.filters_registered (fun _ _ => rfl) (fun _ _ => rfl)
      endpointGuids_current endpoints
  | _ => exact registered _ composed

theorem Refines.records_registered {context : FwContext} {installed : Installed}
    (registered : ∀ rule, rule ≠ .persistentBlockAll → ∀ filter ∈ filtersOf rule,
      (WfpObjectType.filter, filter.key) ∈ MullvadGuids.detailedRegistry ⟨false, false⟩)
    (composed : Rule.persistentBlockAll ∉ installed.ruleset)
    (refines : Refines filtersOf context installed) :
    ∀ record ∈ context.sessionController.records,
      record.identity ∈ MullvadGuids.detailedRegistry ⟨false, false⟩ := by
  rw [refines.records]
  simp only [List.mem_append, List.mem_map, Ruleset.filters, List.mem_flatMap]
  rintro record (structural | ⟨filter, ⟨rule, held, member⟩, rfl⟩)
  · simp only [structuralRecords, List.mem_cons, List.not_mem_nil, or_false] at structural
    rcases structural with rfl | rfl | rfl <;>
      simp [ObjectRecord.identity, MullvadGuids.detailedRegistry]
  · exact Rule.filters_registered filtersOf registered rule (fun same => composed (same ▸ held))
      filter member

/-- Every object a context holds over any run is listed by every view of `DetailedRegistry`, given
that the rules whose sources are absent use registered keys. -/
theorem run_records_registered
    (registered : ∀ rule, rule ≠ .persistentBlockAll → ∀ filter ∈ filtersOf rule,
      (WfpObjectType.filter, filter.key) ∈ MullvadGuids.detailedRegistry ⟨false, false⟩)
    (engine : Engine) (construction : Construction) {context : FwContext}
    (constructed : FwContext.construct parseIpAddress filtersOf engine construction = .ok context)
    (calls : List (Engine × Request)) (qualifier : IdentityQualifier) :
    ∀ record ∈ (context.run parseIpAddress filtersOf calls).1.sessionController.records,
      record.identity ∈ MullvadGuids.detailedRegistry qualifier := by
  obtain ⟨initial, target, refines⟩ := construct_refines parseIpAddress filtersOf constructed
  have composed := fun request target =>
    @Request.target_not_persistent parseIpAddress request target
  have replayed := Installed.replay_of_targets parseIpAddress _ composed
    (context.run parseIpAddress filtersOf calls).2
    (Construction.target_of_targets parseIpAddress _ nofun composed target)
  exact fun record held => detailedRegistry_of_current
    ((run_refines parseIpAddress filtersOf calls refines).records_registered filtersOf registered
      replayed record held) qualifier

theorem exampleFiltersOf_registered :
    ∀ rule, rule ≠ .persistentBlockAll → ∀ filter ∈ exampleFiltersOf rule,
      (WfpObjectType.filter, filter.key) ∈ MullvadGuids.detailedRegistry ⟨false, false⟩ := by
  intro rule composed
  cases rule <;> first | exact absurd rfl composed | decide | exact fun _ => nofun

/-- The blocked constructor and the calls of `exampleCalls`, with the example filters. -/
theorem run_records_registered_blocked :
    (∀ rule, rule ≠ .persistentBlockAll → ∀ filter ∈ exampleFiltersOf rule,
      (WfpObjectType.filter, filter.key) ∈ MullvadGuids.detailedRegistry ⟨false, false⟩) ∧
    ∃ context, FwContext.construct exampleParse exampleFiltersOf .accepting
        (.blocked ⟨true, false⟩ (some exampleEndpoints)) = .ok context ∧
      ∀ record ∈ (context.run exampleParse exampleFiltersOf exampleCalls).1.sessionController.records,
        record.identity ∈ MullvadGuids.detailedRegistry ⟨true, true⟩ :=
  ⟨exampleFiltersOf_registered, _, rfl, run_records_registered exampleParse exampleFiltersOf
    exampleFiltersOf_registered .accepting (.blocked ⟨true, false⟩ (some exampleEndpoints)) rfl _ _⟩

end Registered

end WinFw
