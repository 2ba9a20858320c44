import WinFw.Model.Types

/-! # The session controller and its transactions

Every change to the filtering engine goes through `SessionController::executeTransaction`, which
runs an operation inside an engine transaction: the transaction commits when the operation
returns `true` and aborts when it returns `false` or throws. The controller keeps a record of the
objects it added; a checkpoint is a record count, and reverting to it drops every later record.
The engine itself is an oracle: each add request may be added, rejected or thrown on, so the
model covers every failure point of every rule. The purge that precedes the structural objects
acts on the engine outside the records and does not appear here.
-/

namespace WinFw

/-- An object the session added, as its record keeps it. -/
inductive ObjectRecord
  | provider (key : GUID)
  | sublayer (key : GUID)
  | filter (filter : Filter)
deriving DecidableEq, Repr

/-- The engine's answer to one add request: added (the call returns `true`), rejected (it
returns `false`), or failed (it throws a `WindowsException` with an error code). -/
inductive Answer
  | added
  | rejected
  | failed (errorCode : UInt32)
deriving DecidableEq, Repr

/-- The removal functors of `ObjectPurger`. -/
inductive PurgeFunctor
  /-- `GetRemoveAllFunctor`. -/
  | removeAll
  /-- `GetRemoveNonPersistentFunctor`. -/
  | removeNonPersistent
deriving DecidableEq, Repr

/-- The filtering engine as the session sees it. Its answer to a request may depend on the
records the transaction holds, which identify the request's position in the transaction; a
purge either completes or throws with an error code, and so does the transaction itself, which
throws when the engine's write lock is not acquired in time. -/
structure Engine where
  answer : List ObjectRecord → ObjectRecord → Answer
  purgeError : PurgeFunctor → Option UInt32
  transactionError : Option UInt32

/-- The engine that adds every object and purges and commits without error. -/
def Engine.accepting : Engine := ⟨fun _ _ => .added, fun _ => none, none⟩

@[simp] theorem Engine.accepting_answer (records : List ObjectRecord) (object : ObjectRecord) :
    Engine.accepting.answer records object = .added := rfl

/-- Work done through `IObjectInstaller` inside a transaction: it threads the transaction's
records and may throw. -/
abbrev Installer (α : Type) := List ObjectRecord → Except FwError (α × List ObjectRecord)

/-- The add primitive behind `addProvider`, `addSublayer` and `addFilter`. -/
def addObject (engine : Engine) (object : ObjectRecord) : Installer Bool := fun records =>
  match engine.answer records object with
  | .added => .ok (true, records ++ [object])
  | .rejected => .ok (false, records)
  | .failed errorCode => .error (.engine errorCode)

/-- Running a purge functor on the engine. The objects it removes were never in this session's
records, so they do not change. -/
def runPurge (engine : Engine) (functor : PurgeFunctor) : Except FwError Unit :=
  match engine.purgeError functor with
  | some errorCode => .error (.engine errorCode)
  | none => .ok ()

/-- Modelled from the spec: `ObjectPurger::Execute`, whose sources are absent. It runs the functor
in a transaction of its own, which returns `true` unless the transaction or the functor throws. -/
def ObjectPurger.execute (engine : Engine) (functor : PurgeFunctor) : Except FwError Bool :=
  match engine.transactionError with
  | some errorCode => .error (.engine errorCode)
  | none => (runPurge engine functor).map fun _ => true

/-- `IObjectInstaller::addProvider`. -/
def addProvider (engine : Engine) (key : GUID) : Installer Bool := addObject engine (.provider key)

/-- `IObjectInstaller::addSublayer`. -/
def addSublayer (engine : Engine) (key : GUID) : Installer Bool := addObject engine (.sublayer key)

/-- `IObjectInstaller::addFilter`. -/
def addFilter (engine : Engine) (filter : Filter) : Installer Bool := addObject engine (.filter filter)

/-- `first && next`, and the `if (!…) return false;` of the loops: run `next` only when `first`
returned `true`. -/
def Installer.andThen (first next : Installer Bool) : Installer Bool := fun records =>
  match first records with
  | .ok (true, added) => next added
  | result => result

/-- `add₁ && add₂ && …`: add the objects in order, returning `false` at the first rejected one. -/
def installAll (engine : Engine) : List ObjectRecord → Installer Bool
  | [] => fun records => .ok (true, records)
  | object :: rest => (addObject engine object).andThen (installAll engine rest)

/-- Add the filters in order, returning `false` at the first rejected one. -/
def installFilters (engine : Engine) (filters : List Filter) : Installer Bool :=
  installAll engine (filters.map .filter)

/-- Modelled from the spec: `SessionController`, whose sources are absent. It holds the records
committed so far, in order. -/
structure SessionController where
  records : List ObjectRecord
deriving DecidableEq, Repr

namespace SessionController

/-- `executeTransaction`: run `operation` on a copy of the records and keep the copy only when
the transaction commits, that is when the engine transaction goes through, the operation
returns, and `succeeded` holds of its result. -/
def executeTransaction {α : Type} (engine : Engine) (operation : Installer α)
    (succeeded : α → Bool) (controller : SessionController) :
    Except FwError α × SessionController :=
  match engine.transactionError with
  | some errorCode => (.error (.engine errorCode), controller)
  | none =>
    match operation controller.records with
    | .ok (result, records) => (.ok result, if succeeded result then ⟨records⟩ else controller)
    | .error error => (.error error, controller)

/-- `checkpoint`, outside a transaction: the number of committed records. -/
def checkpoint (controller : SessionController) : Nat := controller.records.length

end SessionController

/-- `SessionController::peekCheckpoint`, inside a transaction. -/
def peekCheckpoint (records : List ObjectRecord) : Nat := records.length

/-- `SessionController::revert`: drop every record after `checkpoint`. -/
def revert (checkpoint : Nat) (records : List ObjectRecord) : List ObjectRecord :=
  records.take checkpoint

/-- A chain returns `true` only through a first step that returned `true`. -/
theorem Installer.andThen_true {first next : Installer Bool} {records after : List ObjectRecord}
    (success : first.andThen next records = .ok (true, after)) :
    ∃ added, first records = .ok (true, added) ∧ next added = .ok (true, after) := by
  unfold Installer.andThen at success
  split at success
  · exact ⟨_, ‹_›, success⟩
  · next notTrue => exact (notTrue after success).elim

/-- An add that returns `true` appended its object. -/
theorem addObject_true {engine : Engine} {object : ObjectRecord} {records added : List ObjectRecord}
    (success : addObject engine object records = .ok (true, added)) : added = records ++ [object] := by
  unfold addObject at success
  split at success <;> cases success
  rfl

/-- A successful `installAll` appended exactly its objects, in order. -/
theorem installAll_true {engine : Engine} {objects records after : List ObjectRecord}
    (success : installAll engine objects records = .ok (true, after)) :
    after = records ++ objects := by
  induction objects generalizing records with
  | nil => simpa [installAll] using success.symm
  | cons object rest ih =>
    obtain ⟨added, first, next⟩ := Installer.andThen_true success
    simp [ih next, addObject_true first]

/-- With an engine that adds everything, `installAll` succeeds. -/
theorem installAll_accepting (objects records : List ObjectRecord) :
    installAll .accepting objects records = .ok (true, records ++ objects) := by
  induction objects generalizing records with
  | nil => simp [installAll]
  | cons object rest ih => simp [installAll, Installer.andThen, addObject, ih]

theorem installFilters_true {engine : Engine} {filters : List Filter}
    {records after : List ObjectRecord}
    (success : installFilters engine filters records = .ok (true, after)) :
    after = records ++ filters.map .filter :=
  installAll_true success

/-- A committing transaction holds the records its operation returned. -/
theorem SessionController.executeTransaction_ok {α : Type} {engine : Engine}
    {operation : Installer α} {succeeded : α → Bool} {controller after : SessionController}
    {result : α} (executed : controller.executeTransaction engine operation succeeded =
      (.ok result, after)) (committed : succeeded result = true) :
    operation controller.records = .ok (result, after.records) := by
  unfold executeTransaction at executed
  split at executed
  · cases executed
  · split at executed
    · next ran =>
      obtain ⟨same, rfl⟩ := Prod.mk.inj executed
      cases same
      simp [committed, ran]
    · cases executed

/-- A transaction returns a result exactly when the engine transaction goes through and the
operation returns it. -/
theorem SessionController.executeTransaction_fst_eq_ok {α : Type} (engine : Engine)
    (operation : Installer α) (succeeded : α → Bool) (controller : SessionController) (result : α) :
    (controller.executeTransaction engine operation succeeded).1 = .ok result ↔
      engine.transactionError = none ∧
        ∃ records, operation controller.records = .ok (result, records) := by
  unfold executeTransaction
  rcases engine.transactionError with _ | errorCode
  · rcases operation controller.records with error | ⟨value, records⟩
    · simp
    · simp [eq_comm]
  · simp

/-- A transaction either commits the operation's records, or leaves the controller as it was
and does not report success. -/
theorem SessionController.executeTransaction_cases {α : Type} (engine : Engine)
    (operation : Installer α) (succeeded : α → Bool) (controller : SessionController) :
    (∃ result records, operation controller.records = .ok (result, records) ∧
      succeeded result = true ∧
      controller.executeTransaction engine operation succeeded = (.ok result, ⟨records⟩)) ∨
    ((controller.executeTransaction engine operation succeeded).2 = controller ∧
      ∀ result, (controller.executeTransaction engine operation succeeded).1 = .ok result →
        succeeded result = false) := by
  unfold executeTransaction
  rcases engine.transactionError with _ | errorCode
  · rcases operation controller.records with error | ⟨result, records⟩
    · exact .inr ⟨rfl, fun _ ran => by cases ran⟩
    · cases committed : succeeded result
      · exact .inr ⟨by simp [committed], fun _ ran => by cases ran; exact committed⟩
      · exact .inl ⟨result, records, rfl, committed, by simp [committed]⟩
  · exact .inr ⟨rfl, fun _ ran => by cases ran⟩

end WinFw
