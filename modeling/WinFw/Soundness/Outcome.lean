import WinFw.Soundness.Progress

/-! # What a successful call leaves

The module state a call leaves when it reports success is fixed by the call and by whether the
module was initialized: every context the module can hold is determined by the abstract state it
refines. So `WinFw_InitializeBlocked` leaves what `WinFw_Initialize` and then
`WinFw_ApplyPolicyBlocked` leave, `WinFw_Reset` leaves what a fresh `WinFw_Initialize` leaves, and
the host can tell from the results alone whether the module is initialized.
-/

namespace WinFw

section Outcome

variable (parseIpAddress : String → Except FwError IpAddress) (filtersOf : Rule → List Filter)
  (engine : Engine) {fwContext : Option FwContext} {installed : Option Installed}

/-- The abstract state a call leaves when it reports success, by whether the module held a context;
`WinFw_Deinitialize` and `WinFw_Reset` apart, the call's target. -/
def ApiCall.outcome (call : ApiCall) (initialized : Bool) : Option Installed :=
  match call with
  | .deinitializeWith _ => none
  | .reset => if initialized then some ⟨.none, []⟩ else none
  | call => (call.target parseIpAddress).toOption

theorem Installed.settleApi_none_true (target : Except FwError Installed) :
    Installed.settleApi none (.ok (.bool true)) target = target.toOption := by
  cases target <;> rfl

theorem ApiRefines.eq_none {installed : Option Installed} (refines : ApiRefines filtersOf none installed) :
    installed = none := by
  cases installed
  · rfl
  · exact refines.elim

theorem ApiRefines.exists_some {context : FwContext} (refines : ApiRefines filtersOf (some context) installed) :
    ∃ held, installed = some held := by
  cases installed
  · exact refines.elim
  · exact ⟨_, rfl⟩

/-- Two module states that refine the same abstract state are the same state. -/
theorem ApiRefines.unique {fwContext' : Option FwContext}
    (first : ApiRefines filtersOf fwContext installed) (second : ApiRefines filtersOf fwContext' installed) :
    fwContext = fwContext' :=
  match fwContext, fwContext', installed, first, second with
  | none, none, none, _, _ => rfl
  | some _, some _, some _, first, second => congrArg some (Refines.unique filtersOf first second)

theorem winFwInitialize_true (succeeded : (winFwInitialize engine fwContext).1 = .ok true) :
    fwContext = none := by
  cases fwContext with
  | none => rfl
  | some _ => cases succeeded

theorem winFwInitializeBlocked_true (settings : Option WinFwSettings)
    (allowedEndpoints : Option (List (Option WinFwAllowedEndpoint)))
    (succeeded : (winFwInitializeBlocked parseIpAddress filtersOf engine settings allowedEndpoints
      fwContext).1 = .ok true) :
    fwContext = none := by
  cases fwContext with
  | none => rfl
  | some _ => cases succeeded

/-- A policy function reports success only on an initialized module and for a request whose rules
compose. -/
theorem applyPolicyThroughContext_success (request : Except FwError Request)
    (succeeded : (applyPolicyThroughContext parseIpAddress filtersOf engine request fwContext).1 =
      .ok .success) :
    ∃ context target, fwContext = some context ∧
      request.bind (Request.target parseIpAddress) = .ok target := by
  match fwContext, request with
  | none, _ => cases succeeded
  | some _, .error _ => exact absurd (policyStatus_eq_success.mp succeeded) nofun
  | some context, .ok request =>
    rcases call_cases parseIpAddress filtersOf engine request context with ⟨target, targeted, _⟩ | ⟨notTrue, _⟩
    · exact ⟨context, target, rfl, targeted⟩
    · exact absurd (policyStatus_eq_success.mp succeeded) notTrue

/-- A policy call that reports success settles on its target. -/
theorem applyPolicyThroughContext_settle (request : Except FwError Request)
    (refines : ApiRefines filtersOf fwContext installed)
    (succeeded : (applyPolicyThroughContext parseIpAddress filtersOf engine request fwContext).1 =
      .ok .success) :
    Installed.settleApi installed (.ok (.status .success)) (request.bind (Request.target parseIpAddress)) =
      (request.bind (Request.target parseIpAddress)).toOption := by
  obtain ⟨context, target, rfl, targeted⟩ :=
    applyPolicyThroughContext_success parseIpAddress filtersOf engine request succeeded
  obtain ⟨held, rfl⟩ := refines.exists_some filtersOf
  rw [targeted]
  rfl

/-- A call that reports success from a module state refining `installed` leaves a module state
refining the call's outcome. -/
theorem ApiCall.serve_succeeded_refines (call : ApiCall)
    (refines : ApiRefines filtersOf fwContext installed)
    (succeeded : (call.serve parseIpAddress filtersOf engine fwContext).1 = .ok call.succeeded) :
    ApiRefines filtersOf (call.serve parseIpAddress filtersOf engine fwContext).2
      (call.outcome parseIpAddress fwContext.isSome) := by
  have served := call.serve_refines parseIpAddress filtersOf engine refines
  rw [succeeded] at served
  suffices settled : call.settle parseIpAddress installed (.ok call.succeeded) =
      call.outcome parseIpAddress fwContext.isSome by
    rwa [← settled]
  cases call with
  | initializePlain =>
    simp only [ApiCall.serve, ApiCall.succeeded, ApiResult.map_bool_eq_ok] at succeeded
    cases winFwInitialize_true engine succeeded
    cases refines.eq_none filtersOf
    exact Installed.settleApi_none_true (ApiCall.initializePlain.target parseIpAddress)
  | initializeBlocked settings allowedEndpoints =>
    simp only [ApiCall.serve, ApiCall.succeeded, ApiResult.map_bool_eq_ok] at succeeded
    cases winFwInitializeBlocked_true parseIpAddress filtersOf engine settings allowedEndpoints
      succeeded
    cases refines.eq_none filtersOf
    exact Installed.settleApi_none_true
      ((ApiCall.initializeBlocked settings allowedEndpoints).target parseIpAddress)
  | deinitializeWith => rfl
  | reset =>
    cases fwContext with
    | none =>
      cases refines.eq_none filtersOf
      rfl
    | some _ =>
      obtain ⟨held, rfl⟩ := refines.exists_some filtersOf
      rfl
  | _ =>
    simp only [ApiCall.serve, ApiCall.succeeded, ApiResult.map_status_eq_ok] at succeeded
    exact applyPolicyThroughContext_settle parseIpAddress filtersOf engine _ refines succeeded

/-- A module state the host reaches from the empty module refines the replayed abstract state. -/
theorem ApiCall.run_none_refines (calls : List (Engine × ApiCall)) :
    ApiRefines filtersOf (ApiCall.run parseIpAddress filtersOf calls none).1
      (ApiCall.replay parseIpAddress none (ApiCall.run parseIpAddress filtersOf calls none).2) :=
  ApiCall.run_refines parseIpAddress filtersOf calls (show ApiRefines filtersOf none none from trivial)

end Outcome

/-- From any two reachable module states of the same phase, against any two engines, a call that
reports success on both leaves the same context. -/
theorem winFw_serve_succeeded_eq (parseIpAddress : String → Except FwError IpAddress)
    (filtersOf : Rule → List Filter) (calls₁ calls₂ : List (Engine × ApiCall))
    {fwContext₁ fwContext₂ : Option FwContext}
    (reached₁ : (ApiCall.run parseIpAddress filtersOf calls₁ none).1 = fwContext₁)
    (reached₂ : (ApiCall.run parseIpAddress filtersOf calls₂ none).1 = fwContext₂)
    (samePhase : fwContext₁.isSome = fwContext₂.isSome) (call : ApiCall) (engine₁ engine₂ : Engine)
    (succeeded₁ : (call.serve parseIpAddress filtersOf engine₁ fwContext₁).1 = .ok call.succeeded)
    (succeeded₂ : (call.serve parseIpAddress filtersOf engine₂ fwContext₂).1 = .ok call.succeeded) :
    (call.serve parseIpAddress filtersOf engine₁ fwContext₁).2 =
      (call.serve parseIpAddress filtersOf engine₂ fwContext₂).2 := by
  have first := call.serve_succeeded_refines parseIpAddress filtersOf engine₁
    (reached₁ ▸ ApiCall.run_none_refines parseIpAddress filtersOf calls₁) succeeded₁
  have second := call.serve_succeeded_refines parseIpAddress filtersOf engine₂
    (reached₂ ▸ ApiCall.run_none_refines parseIpAddress filtersOf calls₂) succeeded₂
  rw [samePhase] at first
  exact first.unique filtersOf second

/-- The blocked policy with eight allowed endpoints and the LAN permitted. -/
def exampleBlockedCall : ApiCall :=
  .applyPolicyBlocked (some ⟨true, true⟩) (some (exampleEndpoints.map some))

/-- The blocked policy applied once after the host session of `exampleApiCalls`, once to a
module with no policy. -/
theorem winFw_serve_succeeded_eq_blocked :
    (ApiCall.run exampleParse exampleFiltersOf exampleApiCalls none).1.isSome =
        (ApiCall.run exampleParse exampleFiltersOf [(.accepting, .initializePlain)] none).1.isSome ∧
      (exampleBlockedCall.serve exampleParse exampleFiltersOf .accepting
        (ApiCall.run exampleParse exampleFiltersOf exampleApiCalls none).1).1 =
          .ok exampleBlockedCall.succeeded ∧
      (exampleBlockedCall.serve exampleParse exampleFiltersOf .accepting
        (ApiCall.run exampleParse exampleFiltersOf [(.accepting, .initializePlain)] none).1).1 =
          .ok exampleBlockedCall.succeeded ∧
      (exampleBlockedCall.serve exampleParse exampleFiltersOf .accepting
          (ApiCall.run exampleParse exampleFiltersOf exampleApiCalls none).1).2 =
        (exampleBlockedCall.serve exampleParse exampleFiltersOf .accepting
          (ApiCall.run exampleParse exampleFiltersOf [(.accepting, .initializePlain)] none).1).2 :=
  ⟨rfl, rfl, rfl, winFw_serve_succeeded_eq exampleParse exampleFiltersOf exampleApiCalls
    [(.accepting, .initializePlain)] rfl rfl rfl exampleBlockedCall .accepting .accepting rfl rfl⟩

section Paths

variable (parseIpAddress : String → Except FwError IpAddress) (filtersOf : Rule → List Filter)

theorem initializeBlocked_outcome_eq (settings : Option WinFwSettings)
    (allowedEndpoints : Option (List (Option WinFwAllowedEndpoint))) (initialized : Bool) :
    (ApiCall.initializeBlocked settings allowedEndpoints).outcome parseIpAddress false =
      (ApiCall.applyPolicyBlocked settings allowedEndpoints).outcome parseIpAddress initialized := by
  cases settings <;> rfl

/-- `WinFw_InitializeBlocked` leaves the context `WinFw_Initialize` and then
`WinFw_ApplyPolicyBlocked` leave, when both paths report success. -/
theorem initializeBlocked_eq_initialize_then_blocked (settings : Option WinFwSettings)
    (allowedEndpoints : Option (List (Option WinFwAllowedEndpoint))) (engine₁ engine₂ engine₃ : Engine)
    (blocked : ((ApiCall.initializeBlocked settings allowedEndpoints).serve parseIpAddress filtersOf
      engine₁ none).1 = .ok (.bool true))
    (initialized : (ApiCall.initializePlain.serve parseIpAddress filtersOf engine₂ none).1 =
      .ok (.bool true))
    (applied : ((ApiCall.applyPolicyBlocked settings allowedEndpoints).serve parseIpAddress filtersOf
      engine₃ (ApiCall.initializePlain.serve parseIpAddress filtersOf engine₂ none).2).1 =
        .ok (.status .success)) :
    ((ApiCall.initializeBlocked settings allowedEndpoints).serve parseIpAddress filtersOf
        engine₁ none).2 =
      ((ApiCall.applyPolicyBlocked settings allowedEndpoints).serve parseIpAddress filtersOf
        engine₃ (ApiCall.initializePlain.serve parseIpAddress filtersOf engine₂ none).2).2 := by
  have empty : ApiRefines filtersOf none none := trivial
  have once := ApiCall.serve_succeeded_refines parseIpAddress filtersOf engine₁ _ empty blocked
  have plain := ApiCall.serve_succeeded_refines parseIpAddress filtersOf engine₂ _ empty initialized
  have twice := ApiCall.serve_succeeded_refines parseIpAddress filtersOf engine₃ _ plain applied
  rw [← initializeBlocked_outcome_eq] at twice
  exact once.unique filtersOf twice

/-- Against the accepting engine, both paths to the blocked policy with the LAN permitted and
eight allowed endpoints. -/
theorem initializeBlocked_eq_initialize_then_blocked_lan :
    ((ApiCall.initializeBlocked (some ⟨false, true⟩) (some (exampleEndpoints.map some))).serve
        exampleParse exampleFiltersOf .accepting none).2 =
      ((ApiCall.applyPolicyBlocked (some ⟨false, true⟩) (some (exampleEndpoints.map some))).serve
        exampleParse exampleFiltersOf .accepting (ApiCall.initializePlain.serve exampleParse
          exampleFiltersOf .accepting none).2).2 :=
  initializeBlocked_eq_initialize_then_blocked _ _ _ _ _ _ _ rfl rfl rfl

/-- A successful `WinFw_Reset` on a reachable initialized module leaves the context a successful
`WinFw_Initialize` builds, whatever was applied before. -/
theorem reset_eq_initialize (calls : List (Engine × ApiCall)) {context : FwContext}
    (reached : (ApiCall.run parseIpAddress filtersOf calls none).1 = some context)
    (engine₁ engine₂ : Engine)
    (resetSucceeded : (ApiCall.reset.serve parseIpAddress filtersOf engine₁ (some context)).1 =
      .ok (.status .success))
    (initialized : (ApiCall.initializePlain.serve parseIpAddress filtersOf engine₂ none).1 =
      .ok (.bool true)) :
    (ApiCall.reset.serve parseIpAddress filtersOf engine₁ (some context)).2 =
      (ApiCall.initializePlain.serve parseIpAddress filtersOf engine₂ none).2 := by
  have cleared := ApiCall.serve_succeeded_refines parseIpAddress filtersOf engine₁ _
    (reached ▸ ApiCall.run_none_refines parseIpAddress filtersOf calls) resetSucceeded
  have fresh := ApiCall.serve_succeeded_refines parseIpAddress filtersOf engine₂ _
    (show ApiRefines filtersOf none none from trivial) initialized
  exact cleared.unique filtersOf fresh

/-- A reset after the host session of `exampleApiCalls`, against the accepting engine. -/
theorem reset_eq_initialize_afterConnecting :
    ∃ context, (ApiCall.run exampleParse exampleFiltersOf exampleApiCalls none).1 = some context ∧
      (ApiCall.reset.serve exampleParse exampleFiltersOf .accepting (some context)).1 =
        .ok (.status .success) ∧
      (ApiCall.reset.serve exampleParse exampleFiltersOf .accepting (some context)).2 =
        (ApiCall.initializePlain.serve exampleParse exampleFiltersOf .accepting none).2 :=
  ⟨_, rfl, rfl, reset_eq_initialize exampleParse exampleFiltersOf exampleApiCalls rfl _ _ rfl rfl⟩

end Paths

section Lifecycle

variable (parseIpAddress : String → Except FwError IpAddress) (filtersOf : Rule → List Filter)

/-- Whether the module holds a context after a call, as the host can tell from the call and what it
returned. -/
def ApiCall.phase (initialized : Bool) : ApiCall × Except FwError ApiResult → Bool
  | (.initializePlain, .ok (.bool true)) | (.initializeBlocked _ _, .ok (.bool true)) => true
  | (.deinitializeWith _, _) => false
  | _ => initialized

/-- An initialization that did not return `true` keeps the phase. -/
theorem ApiCall.phase_initialize_of_ne {initialized : Bool} {result : Except FwError ApiResult}
    (notTrue : result ≠ .ok (.bool true)) :
    ApiCall.phase initialized (.initializePlain, result) = initialized ∧
      ∀ settings allowedEndpoints,
        ApiCall.phase initialized (.initializeBlocked settings allowedEndpoints, result) =
          initialized := by
  rcases result with _ | ((_ | _) | _) <;> first | exact absurd rfl notTrue | exact ⟨rfl, fun _ _ => rfl⟩

theorem applyPolicyThroughContext_isSome (engine : Engine) (request : Except FwError Request)
    (fwContext : Option FwContext) :
    (applyPolicyThroughContext parseIpAddress filtersOf engine request fwContext).2.isSome =
      fwContext.isSome := by
  unfold applyPolicyThroughContext
  split
  · rfl
  · split <;> rfl

/-- One call moves the module between uninitialized and initialized as `ApiCall.phase` says. -/
theorem ApiCall.serve_isSome (engine : Engine) (call : ApiCall) (fwContext : Option FwContext) :
    (call.serve parseIpAddress filtersOf engine fwContext).2.isSome =
      ApiCall.phase fwContext.isSome (call, (call.serve parseIpAddress filtersOf engine fwContext).1) := by
  cases call with
  | initializePlain =>
    simp only [ApiCall.serve]
    unfold winFwInitialize
    split
    · rfl
    · split
      · rfl
      · dsimp only
        exact (ApiCall.phase_initialize_of_ne (caughtFalse_map_ne _)).1.symm
  | initializeBlocked settings allowedEndpoints =>
    simp only [ApiCall.serve]
    unfold winFwInitializeBlocked
    split
    · rfl
    · rfl
    · split
      · rfl
      · dsimp only
        exact ((ApiCall.phase_initialize_of_ne (caughtFalse_map_ne _)).2 _ _).symm
  | deinitializeWith cleanupPolicy =>
    show ( winFwDeinitialize filtersOf engine cleanupPolicy fwContext).2.isSome = false
    rw [winFwDeinitialize_empties]
    rfl
  | reset => cases fwContext <;> rfl
  | _ => exact applyPolicyThroughContext_isSome parseIpAddress filtersOf engine _ fwContext

end Lifecycle

/-- After any sequence of `WinFw_*` calls, the module holds a context exactly when the lifecycle
`ApiCall.phase` driven by the logged results says so. -/
theorem winFw_run_phase (parseIpAddress : String → Except FwError IpAddress)
    (filtersOf : Rule → List Filter) (calls : List (Engine × ApiCall)) (fwContext : Option FwContext) :
    (ApiCall.run parseIpAddress filtersOf calls fwContext).1.isSome =
      (ApiCall.run parseIpAddress filtersOf calls fwContext).2.foldl ApiCall.phase fwContext.isSome := by
  induction calls generalizing fwContext with
  | nil => rfl
  | cons call rest ih =>
    simp only [ApiCall.run, List.foldl_cons]
    rw [← ApiCall.serve_isSome]
    exact ih _

end WinFw
