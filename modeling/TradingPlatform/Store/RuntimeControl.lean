import Mathlib.Algebra.Order.Ring.Int
import TradingPlatform.Lib.Table
import TradingPlatform.Domain.State

/-!
# Runtime controls

The entry switch of `infrastructure/repository.py`: one row a scope, written by an operator and by the services that hold and
release entries. A call of `set_runtime_control` reads the row in one statement and writes it in another; a call of
`compare_and_set_runtime_control` is one statement. Every call has a session of its own. Instants are left out.
-/

namespace TradingPlatform

/-- `V2RuntimeControl`. -/
structure RuntimeControl where
  scope : String
  entryEnabled : Bool := false
  reason : Option String := none
  updatedBy : Option String := none
  version : ℤ := 0
  deriving DecidableEq, Repr

/-- `get_runtime_control`: the row, or the one it adds. -/
def getRuntimeControl (scope : String) (stored : Option RuntimeControl) : RuntimeControl :=
  stored.getD { scope, entryEnabled := false, reason := "default_disabled_until_gate5", updatedBy := "system", version := 0 }

/-- `ensure_runtime_control`: a row that is there stays. -/
def ensureRuntimeControl (scope : String) (entryEnabled : Bool) (reason updatedBy : Option String)
    (stored : Option RuntimeControl) : RuntimeControl :=
  stored.getD { scope, entryEnabled, reason, updatedBy, version := 0 }

/-! ## The write after a read -/

/-- The arguments of `set_runtime_control`. -/
structure SetRuntimeControl where
  entryEnabled : Bool
  reason : Option String
  updatedBy : Option String
  expectedVersion : Option ℤ := none
  deriving DecidableEq, Repr

/-- A call of `set_runtime_control` that has read the row and not written it yet. -/
structure RuntimeControlUpdate where
  request : SetRuntimeControl
  loaded : Option RuntimeControl
  deriving DecidableEq, Repr

/-- `set_runtime_control` up to its flush. -/
def SetRuntimeControl.read (scope : String) (request : SetRuntimeControl) (stored : Option RuntimeControl) :
    Except PyError RuntimeControlUpdate :=
  let control := getRuntimeControl scope stored
  match request.expectedVersion with
  | none => .ok { request, loaded := stored }
  | some expectedVersion =>
    if control.version ≠ expectedVersion then
      .error (.valueError ("Runtime control '" ++ scope ++ "' version conflict: expected " ++ toString expectedVersion ++
        ", found " ++ toString control.version))
    else .ok { request, loaded := stored }

/-- The row as the session holds it when it is flushed. -/
def RuntimeControlUpdate.assigned (scope : String) (u : RuntimeControlUpdate) : RuntimeControl :=
  let control := getRuntimeControl scope u.loaded
  { control with
    entryEnabled := u.request.entryEnabled
    reason := u.request.reason
    updatedBy := u.request.updatedBy
    version := control.version + 1 }

/-- The flush: a row that was loaded is written by its key, in the columns that changed; one that was not is inserted. It
raises if the row has been inserted, or removed, since the read. -/
def RuntimeControlUpdate.flush (scope : String) (u : RuntimeControlUpdate) : Option RuntimeControl → Option RuntimeControl
  | none =>
    match u.loaded with
    | none => some (u.assigned scope)
    | some _ => none
  | some stored =>
    match u.loaded with
    | none => none
    | some loaded =>
      some { stored with
        entryEnabled := Table.changedColumn loaded.entryEnabled (u.assigned scope).entryEnabled stored.entryEnabled
        reason := Table.changedColumn loaded.reason (u.assigned scope).reason stored.reason
        updatedBy := Table.changedColumn loaded.updatedBy (u.assigned scope).updatedBy stored.updatedBy
        version := Table.changedColumn loaded.version (u.assigned scope).version stored.version }

/-! ## The conditional write -/

/-- The arguments of `compare_and_set_runtime_control`. -/
structure CompareAndSetRuntimeControl where
  expectedVersion : ℤ
  expectedEntryEnabled : Bool
  expectedReason : Option String
  entryEnabled : Bool
  reason : Option String
  updatedBy : Option String
  deriving DecidableEq, Repr

/-- The predicate of the update. -/
def CompareAndSetRuntimeControl.finds (request : CompareAndSetRuntimeControl) (stored : RuntimeControl) : Bool :=
  decide (stored.version = request.expectedVersion) && decide (stored.entryEnabled = request.expectedEntryEnabled) &&
    decide (stored.reason = request.expectedReason)

/-- `compare_and_set_runtime_control`: the row it leaves, if it finds the one it expects. -/
def compareAndSetRuntimeControl (request : CompareAndSetRuntimeControl) (stored : Option RuntimeControl) :
    Option RuntimeControl :=
  (stored.filter request.finds).map fun control =>
    { control with
      entryEnabled := request.entryEnabled
      reason := request.reason
      updatedBy := request.updatedBy
      version := control.version + 1 }

/-! ## Calls at once -/

/-- A call that returned successfully: the version it was called with, or read if it was called with none, and what it set. -/
structure ControlSuccess where
  expectedVersion : ℤ
  entryEnabled : Bool
  deriving DecidableEq, Repr

/-- The version a call expects. -/
def RuntimeControlUpdate.expectedVersion (scope : String) (u : RuntimeControlUpdate) : ℤ :=
  u.request.expectedVersion.getD (getRuntimeControl scope u.loaded).version

/-- The row of a scope, the calls between their read and their write, and the calls that succeeded. -/
structure ControlWorld where
  stored : Option RuntimeControl := none
  calls : ℕ → Option RuntimeControlUpdate := fun _ => none
  succeeded : List ControlSuccess := []

/-- A statement of a call. -/
inductive ControlOp where
  | get
  | ensure (entryEnabled : Bool) (reason updatedBy : Option String)
  | read (call : ℕ) (request : SetRuntimeControl)
  | flush (call : ℕ)
  | compareAndSet (request : CompareAndSetRuntimeControl)

/-- A statement runs. A call that raises is gone. -/
def ControlWorld.step (scope : String) (w : ControlWorld) : ControlOp → ControlWorld
  | .get => { w with stored := some (getRuntimeControl scope w.stored) }
  | .ensure entryEnabled reason updatedBy =>
    { w with stored := some (ensureRuntimeControl scope entryEnabled reason updatedBy w.stored) }
  | .read call request =>
    match request.read scope w.stored with
    | .error _ => w
    | .ok u => { w with calls := Function.update w.calls call (some u) }
  | .flush call =>
    match w.calls call with
    | none => w
    | some u =>
      let calls := Function.update w.calls call none
      match u.flush scope w.stored with
      | none => { w with calls }
      | some control =>
        { stored := some control
          calls
          succeeded := w.succeeded ++
            [{ expectedVersion := u.expectedVersion scope, entryEnabled := u.request.entryEnabled }] }
  | .compareAndSet request =>
    match compareAndSetRuntimeControl request w.stored with
    | none => w
    | some control =>
      { w with
        stored := some control
        succeeded := w.succeeded ++
          [{ expectedVersion := request.expectedVersion, entryEnabled := request.entryEnabled }] }

/-- The world after a run. -/
def ControlWorld.run (scope : String) (w : ControlWorld) (ops : List ControlOp) : ControlWorld :=
  ops.foldl (ControlWorld.step scope) w

end TradingPlatform
