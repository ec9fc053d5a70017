import DwSuperApps.Source.EventRouter

/-!
# Callers of the runtime

A caller reads the run of its request and hands the snapshot, with the version of
that snapshot, to `LeaseManager` or `EventRouter`: `router.route(event, current,
current.version)`. Calls that run one after another may still use a snapshot that
was read many calls ago; calls that run together interleave at every store
operation.
-/
namespace DwSuperApps.Source.Runtime

open DwSuperApps.Lib
open DwSuperApps.Lib.Programs (Prog)

inductive Request where
  | grant (lease : WorkLease)
  | renew (runId : Identifier) (leaseId newExpiresAt fencingToken now : String)
  | release (runId : Identifier) (leaseId now : String)
  | revoke (runId : Identifier) (leaseId : String)
  | expire (runId : Identifier) (leaseId now : String)
  | route (event : AgentEvent)
  deriving DecidableEq

namespace Request

/-- The run the caller reads. -/
def runId : Request → Identifier
  | .grant lease => lease.runId
  | .renew runId _ _ _ _ | .release runId _ _ | .revoke runId _ | .expire runId _ _ => runId
  | .route event => event.runId

def isRoute : Request → Bool
  | .route _ => true
  | _ => false

variable [Timestamps]

/-- The call on a snapshot and its version. -/
def perform (current : VersionedRunState) : Request → StoreProg (Option VersionedRunState)
  | .grant lease => Runtime.grant lease current.version current
  | .renew _ leaseId newExpiresAt fencingToken now =>
    Runtime.renew leaseId newExpiresAt fencingToken current.version current now
  | .release _ leaseId now => Runtime.release leaseId current.version current now
  | .revoke _ leaseId => Runtime.revoke leaseId current.version current
  | .expire _ leaseId now => Runtime.expire leaseId current.version current now
  | .route event => do
    let routed ← Runtime.route event current current.version
    return some routed

/-- Read the run, then call; there is nothing to call for an absent run. -/
def body (request : Request) : StoreProg (Option VersionedRunState) := do
  let read ← getRun request.runId
  match read with
  | none => return none
  | some current => request.perform current

end Request

/-! ## One call after another -/

/-- A call and how many calls ago its snapshot was read. -/
structure Call where
  request : Request
  age : Nat := 0
  deriving DecidableEq

/-- The store and the stores before each call so far, newest first. -/
structure System where
  store : Store
  past : List Store := []

namespace System

def snapshot (S : System) (c : Call) : Option VersionedRunState :=
  ((S.store :: S.past)[c.age]?).bind fun read => read.runs.get? c.request.runId

variable [Timestamps]

/-- What the call returns or raises and the store it leaves. -/
def result (S : System) (c : Call) : Except Raised (Option VersionedRunState) × Store :=
  match S.snapshot c with
  | none => (.ok none, S.store)
  | some current => (c.request.perform current).run S.store

def step (S : System) (c : Call) : System where
  store := (S.result c).2
  past := S.store :: S.past

end System
end DwSuperApps.Source.Runtime
