import WinFw.Soundness.Api

/-! # When a call goes through

Against an engine that adds every object and never throws, a call on the context returns `true`
exactly when its rules compose and every pooled rule fits its key pools, and so does a
constructor; at the interface the same holds once the module is in the state the call needs.
Against any engine, a call that does not succeed leaves the module as it was, `WinFw_Deinitialize`
apart.
-/

namespace WinFw

/-- A rule fits its key pools: no address family of a pooled rule has more endpoints than its
pool has keys. The other rules have no pool. -/
def Rule.Fits : Rule → Prop
  | .permitVpnRelay endpoints => PermitVpnRelay.pool.Fits endpoints 0 0
  | .permitEndpoint endpoints => PermitEndpoint.pool.Fits endpoints 0 0
  | _ => True

section Accepting

variable (parseIpAddress : String → Except FwError IpAddress) (filtersOf : Rule → List Filter)

theorem Rule.apply_accepting {rule : Rule} (fits : rule.Fits) (records : List ObjectRecord) :
    rule.apply filtersOf .accepting records =
      .ok (true, records ++ (rule.filters filtersOf).map .filter) := by
  cases rule with
  | permitVpnRelay endpoints =>
    rw [Rule.apply, PermitVpnRelay.apply,
      PermitVpnRelay.pool.loop_eq_installFilters .accepting endpoints 0 0 fits]
    exact installAll_accepting _ _
  | permitEndpoint endpoints =>
    rw [Rule.apply, PermitEndpoint.apply,
      PermitEndpoint.pool.loop_eq_installFilters .accepting endpoints 0 0 fits]
    exact installAll_accepting _ _
  | _ => exact installAll_accepting _ _

theorem Rule.fits_of_apply_true {engine : Engine} {rule : Rule} {records after : List ObjectRecord}
    (success : rule.apply filtersOf engine records = .ok (true, after)) : rule.Fits := by
  cases rule with
  | permitVpnRelay endpoints => exact (PermitVpnRelay.pool.loop_true engine success).1
  | permitEndpoint endpoints => exact (PermitEndpoint.pool.loop_true engine success).1
  | _ => trivial

theorem applyRulesetDirectly_accepting {ruleset : Ruleset} (fits : ∀ rule ∈ ruleset, rule.Fits)
    (records : List ObjectRecord) :
    applyRulesetDirectly filtersOf .accepting ruleset records =
      .ok (true, records ++ (Ruleset.filters filtersOf ruleset).map .filter) := by
  induction ruleset generalizing records with
  | nil => simp [applyRulesetDirectly, Ruleset.filters]
  | cons rule rest ih =>
    rw [List.forall_mem_cons] at fits
    simp [applyRulesetDirectly, Installer.andThen, Rule.apply_accepting filtersOf fits.1,
      ih fits.2, Ruleset.filters]

theorem fits_of_applyRulesetDirectly_true {engine : Engine} {ruleset : Ruleset}
    {records after : List ObjectRecord}
    (success : applyRulesetDirectly filtersOf engine ruleset records = .ok (true, after)) :
    ∀ rule ∈ ruleset, rule.Fits := by
  induction ruleset generalizing records with
  | nil => exact List.forall_mem_nil _
  | cons rule rest ih =>
    obtain ⟨added, first, next⟩ := Installer.andThen_true success
    exact List.forall_mem_cons.mpr ⟨Rule.fits_of_apply_true filtersOf first, ih next⟩

/-- Against the accepting engine, a composed policy is applied exactly when it composes and fits. -/
theorem applyComposed_accepting_true_iff (policy : Policy) (composition : Except FwError Ruleset)
    (context : FwContext) :
    (context.applyComposed filtersOf .accepting policy composition).1 = .ok true ↔
      ∃ target : Installed, composition.map (⟨policy, ·⟩) = .ok target ∧
        ∀ rule ∈ target.ruleset, rule.Fits := by
  cases composition with
  | error error => simp [FwContext.applyComposed, Except.map]
  | ok ruleset =>
    show (context.applyRuleset filtersOf .accepting ruleset).1 = .ok true ↔ _
    rw [FwContext.applyRuleset, SessionController.executeTransaction_fst_eq_ok]
    constructor
    · rintro ⟨-, records, success⟩
      exact ⟨_, rfl, fits_of_applyRulesetDirectly_true filtersOf success⟩
    · rintro ⟨_, ⟨⟩, fits⟩
      exact ⟨rfl, _, applyRulesetDirectly_accepting filtersOf fits _⟩

/-- Against the accepting engine a call on the context returns `true` exactly when its rules
compose and every pooled rule among them fits its key pools. -/
theorem call_accepting_true_iff (request : Request) (context : FwContext) :
    (context.call parseIpAddress filtersOf .accepting request).1 = .ok true ↔
      ∃ target, request.target parseIpAddress = .ok target ∧ ∀ rule ∈ target.ruleset, rule.Fits := by
  cases request with
  | reset =>
    simp [FwContext.call, FwContext.reset, SessionController.executeTransaction, Engine.accepting,
      Request.target]
  | _ => exact applyComposed_accepting_true_iff filtersOf _ _ context

/-- Against the accepting engine the plain constructor succeeds, and the blocked one exactly when
the blocked rules compose and fit their key pools. -/
theorem construct_accepting_ok_iff (construction : Construction) :
    (∃ context, FwContext.construct parseIpAddress filtersOf .accepting construction = .ok context) ↔
      ∃ target, construction.target parseIpAddress = .ok target ∧
        ∀ rule ∈ target.ruleset, rule.Fits := by
  have base : applyCommonBaseConfiguration .accepting [] = .ok (true, structuralRecords) := rfl
  have commits : Engine.accepting.transactionError = none := rfl
  cases construction with
  | plain =>
    simp [FwContext.construct, FwContext.create, applyBaseConfiguration,
      SessionController.executeTransaction, base, commits, Construction.target]
  | blocked settings allowedEndpoints =>
    simp only [FwContext.construct, FwContext.createBlocked, applyBlockedBaseConfiguration,
      SessionController.executeTransaction, base, Construction.target]
    cases composed : composePolicyBlocked parseIpAddress settings allowedEndpoints with
    | error error => simp [commits, Except.map]
    | ok ruleset =>
      have notFits {outcome} (applied : applyRulesetDirectly filtersOf .accepting ruleset
          structuralRecords = outcome) (other : ∀ records, outcome ≠ .ok (true, records)) :
          ¬∀ rule ∈ ruleset, rule.Fits :=
        fun fits => other _ (applied.symm.trans (applyRulesetDirectly_accepting filtersOf fits _))
      cases applied : applyRulesetDirectly filtersOf .accepting ruleset structuralRecords with
      | error error => simpa [commits, applied, Except.map] using notFits applied nofun
      | ok result =>
        obtain ⟨_ | _, records⟩ := result
        · simpa [commits, applied, Except.map] using notFits applied nofun
        · simpa [commits, applied, Except.map] using
            fits_of_applyRulesetDirectly_true filtersOf applied

end Accepting

/-- What a call of the interface reports when it did what it was asked: `true` from a lifecycle
function, `SUCCESS` from a policy function. -/
def ApiCall.succeeded : ApiCall → ApiResult
  | .initializePlain | .initializeBlocked _ _ | .deinitializeWith _ => .bool true
  | _ => .status .success

/-- The state of the module a call needs: uninitialized for an initialization, initialized for a
`WinFw_ApplyPolicy…` function, either for `WinFw_Deinitialize` and `WinFw_Reset`. -/
def ApiCall.Allowed : ApiCall → Option FwContext → Prop
  | .initializePlain, fwContext | .initializeBlocked _ _, fwContext => fwContext = none
  | .deinitializeWith _, _ | .reset, _ => True
  | _, fwContext => fwContext ≠ none

theorem ApiResult.map_status_eq_ok {x : Except FwError WinFwPolicyStatus}
    {status : WinFwPolicyStatus} :
    x.map ApiResult.status = .ok (.status status) ↔ x = .ok status := by
  cases x <;> simp [Except.map]

theorem ApiResult.map_bool_eq_ok {x : Except FwError Bool} {value : Bool} :
    x.map ApiResult.bool = .ok (.bool value) ↔ x = .ok value := by
  cases x <;> simp [Except.map]

section Interface

variable (parseIpAddress : String → Except FwError IpAddress) (filtersOf : Rule → List Filter)

/-- `WinFw_Initialize` succeeds against the accepting engine exactly on an uninitialized module. -/
theorem winFwInitialize_accepting (fwContext : Option FwContext) :
    (winFwInitialize .accepting fwContext).1 = .ok fwContext.isNone := by
  cases fwContext <;> rfl

theorem winFwInitializeBlocked_accepting_iff (settings : Option WinFwSettings)
    (allowedEndpoints : Option (List (Option WinFwAllowedEndpoint)))
    (fwContext : Option FwContext) :
    (winFwInitializeBlocked parseIpAddress filtersOf .accepting settings allowedEndpoints
      fwContext).1 = .ok true ↔
      fwContext = none ∧ ∃ target, (ApiCall.initializeBlocked settings allowedEndpoints).target
        parseIpAddress = .ok target ∧ ∀ rule ∈ target.ruleset, rule.Fits := by
  match fwContext, settings with
  | some _, _ => simp [winFwInitializeBlocked, caughtFalse]
  | none, none => simp [winFwInitializeBlocked, caughtFalse, ApiCall.target]
  | none, some settings =>
    refine Iff.trans ?_ ((construct_accepting_ok_iff parseIpAddress filtersOf
      (.blocked settings (makeOptionalVector allowedEndpoints))).trans (and_iff_right rfl).symm)
    simp only [winFwInitializeBlocked, FwContext.construct]
    split <;> simp [caughtFalse_eq_true, *]

/-- Against the accepting engine `WinFw_Deinitialize` always returns `true`. -/
theorem winFwDeinitialize_accepting (cleanupPolicy : WinFwCleanupPolicy)
    (fwContext : Option FwContext) :
    ( winFwDeinitialize filtersOf .accepting cleanupPolicy fwContext).1 = .ok true := by
  have blocks : caughtFalse (persistentBlockTransaction filtersOf .accepting) = .ok true := by
    rw [caughtFalse_eq_true, persistentBlockTransaction,
      SessionController.executeTransaction_fst_eq_ok]
    exact ⟨rfl, _, installAll_accepting (persistentBlockRecords filtersOf) []⟩
  unfold winFwDeinitialize
  split
  · rfl
  · split_ifs
    · exact blocks
    · rfl

theorem winFwReset_accepting (fwContext : Option FwContext) :
    (winFwReset .accepting fwContext).1 = .ok .success := by
  cases fwContext <;> rfl

theorem applyPolicyThroughContext_accepting_iff (request : Except FwError Request)
    (fwContext : Option FwContext) :
    (applyPolicyThroughContext parseIpAddress filtersOf .accepting request fwContext).1 =
        .ok .success ↔
      fwContext ≠ none ∧
        ∃ target, request.bind (Request.target parseIpAddress) = .ok target ∧
          ∀ rule ∈ target.ruleset, rule.Fits := by
  match fwContext, request with
  | none, _ => simp [applyPolicyThroughContext]
  | some _, .error error => simp [applyPolicyThroughContext, policyStatus_eq_success, Except.bind]
  | some context, .ok request =>
    simp only [applyPolicyThroughContext, policyStatus_eq_success, call_accepting_true_iff]
    simp [Except.bind]

/-- Against the accepting engine a call succeeds exactly when the module is in the state the call
needs and its arguments make rules that compose and fit their key pools. -/
theorem ApiCall.serve_accepting_iff (call : ApiCall) (fwContext : Option FwContext) :
    (call.serve parseIpAddress filtersOf .accepting fwContext).1 = .ok call.succeeded ↔
      call.Allowed fwContext ∧
        ∃ target, call.target parseIpAddress = .ok target ∧ ∀ rule ∈ target.ruleset, rule.Fits := by
  cases call with
  | initializePlain =>
    simp [ApiCall.serve, ApiCall.succeeded, ApiResult.map_bool_eq_ok, winFwInitialize_accepting,
      ApiCall.Allowed, ApiCall.target, Construction.target]
  | initializeBlocked settings allowedEndpoints =>
    simpa only [ApiCall.serve, ApiCall.succeeded, ApiCall.Allowed, ApiResult.map_bool_eq_ok] using
      winFwInitializeBlocked_accepting_iff parseIpAddress filtersOf settings allowedEndpoints
        fwContext
  | deinitializeWith cleanupPolicy =>
    simp [ApiCall.serve, ApiCall.succeeded, ApiResult.map_bool_eq_ok, winFwDeinitialize_accepting,
      ApiCall.Allowed, ApiCall.target]
  | reset =>
    simp [ApiCall.serve, ApiCall.succeeded, ApiResult.map_status_eq_ok, winFwReset_accepting,
      ApiCall.Allowed, ApiCall.target, Request.target]
  | _ =>
    simp only [ApiCall.serve, ApiCall.succeeded, ApiResult.map_status_eq_ok]
    exact applyPolicyThroughContext_accepting_iff parseIpAddress filtersOf _ fwContext

section Frame

variable (engine : Engine)

theorem applyPolicyThroughContext_unchanged (request : Except FwError Request)
    (fwContext : Option FwContext)
    (failed : (applyPolicyThroughContext parseIpAddress filtersOf engine request fwContext).1 ≠
      .ok .success) :
    (applyPolicyThroughContext parseIpAddress filtersOf engine request fwContext).2 = fwContext := by
  match fwContext, request with
  | none, _ => rfl
  | some _, .error _ => rfl
  | some context, .ok request =>
    rcases call_cases parseIpAddress filtersOf engine request context with ⟨_, _, served⟩ | ⟨_, same⟩
    · exact absurd (by simp only [applyPolicyThroughContext, served]; rfl) failed
    · simp only [applyPolicyThroughContext, same]

/-- Every call of the interface but `WinFw_Deinitialize` that does not report success leaves the
module exactly as it was. -/
theorem ApiCall.serve_unchanged (call : ApiCall)
    (kept : ∀ cleanupPolicy, call ≠ .deinitializeWith cleanupPolicy) (fwContext : Option FwContext)
    (failed : (call.serve parseIpAddress filtersOf engine fwContext).1 ≠ .ok call.succeeded) :
    (call.serve parseIpAddress filtersOf engine fwContext).2 = fwContext := by
  cases call with
  | initializePlain =>
    simp only [ApiCall.serve, ApiCall.succeeded, ne_eq, ApiResult.map_bool_eq_ok] at failed ⊢
    unfold winFwInitialize at failed ⊢
    split
    · rfl
    · split
      · next created => simp [created] at failed
      · rfl
  | initializeBlocked settings allowedEndpoints =>
    simp only [ApiCall.serve, ApiCall.succeeded, ne_eq, ApiResult.map_bool_eq_ok] at failed ⊢
    unfold winFwInitializeBlocked at failed ⊢
    split
    · rfl
    · rfl
    · split
      · next created => simp [created] at failed
      · rfl
  | deinitializeWith cleanupPolicy => exact absurd rfl (kept cleanupPolicy)
  | reset =>
    simp only [ApiCall.serve, ApiCall.succeeded, ne_eq, ApiResult.map_status_eq_ok] at failed ⊢
    cases fwContext with
    | none => rfl
    | some context =>
      exact applyPolicyThroughContext_unchanged parseIpAddress filtersOf engine (.ok .reset)
        (some context) failed
  | _ =>
    simp only [ApiCall.serve, ApiCall.succeeded, ne_eq, ApiResult.map_status_eq_ok] at failed ⊢
    exact applyPolicyThroughContext_unchanged parseIpAddress filtersOf engine _ fwContext failed

end Frame

end Interface

end WinFw
