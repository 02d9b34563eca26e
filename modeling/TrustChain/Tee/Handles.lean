import TrustChain.Library.Handles
import TrustChain.Tee.Api

namespace TrustChain
namespace Tee

open Library

/-!
# Handles of the TEE Internal API

Each call that allocates, opens or creates hands out a handle if it succeeds.  A
persistent object may be opened more than once, with a handle for each time.
Freeing or closing `TEE_HANDLE_NULL` does nothing; any other handle has to be
open and of the right kind, or else the trusted application panics.
-/

inductive HandleKind
  | operation
  | transientObject
  | persistentObject
  deriving DecidableEq

/-- A function that makes calls of the API, with the handles that are open. -/
abbrev TeeTracked := Tracked HandleKind

/-- `TEE_AllocateOperation`. -/
def allocateOperation (outcome : TeeResult Unit) : TeeTracked (TeeResult Unit × Option Handle) :=
  acquire .operation outcome

/-- `TEE_AllocateTransientObject`. -/
def allocateTransientObject (outcome : TeeResult Unit) :
    TeeTracked (TeeResult Unit × Option Handle) :=
  acquire .transientObject outcome

/-- `TEE_OpenPersistentObject`. -/
def openPersistentObject (outcome : TeeResult RsaKeyPair) :
    TeeTracked (TeeResult RsaKeyPair × Option Handle) :=
  acquire .persistentObject outcome

/-- `TEE_CreatePersistentObject`. -/
def createPersistentObject (outcome : TeeResult Unit) :
    TeeTracked (TeeResult Unit × Option Handle) :=
  acquire .persistentObject outcome

/-- `TEE_FreeOperation`. -/
def freeOperation (operation : Option Handle) : TeeTracked Unit :=
  release (fun kind => decide (kind = .operation)) operation

/-- `TEE_FreeTransientObject`. -/
def freeTransientObject (object : Option Handle) : TeeTracked Unit :=
  release (fun kind => decide (kind = .transientObject)) object

/-- `TEE_CloseObject`, for objects of both kinds. -/
def closeObject (object : Option Handle) : TeeTracked Unit :=
  release (fun kind => decide (kind ≠ .operation)) object

section Specs

variable {before opened both : OpenHandles HandleKind} {handle other : Option Handle}

theorem allocateOperation_spec (outcome : TeeResult Unit) :
    Triple before (allocateOperation outcome) (Acquired .operation outcome before) :=
  acquire_spec HandleKind.operation outcome

theorem allocateTransientObject_spec (outcome : TeeResult Unit) :
    Triple before (allocateTransientObject outcome) (Acquired .transientObject outcome before) :=
  acquire_spec HandleKind.transientObject outcome

theorem openPersistentObject_spec (outcome : TeeResult RsaKeyPair) :
    Triple before (openPersistentObject outcome) (Acquired .persistentObject outcome before) :=
  acquire_spec HandleKind.persistentObject outcome

theorem createPersistentObject_spec (outcome : TeeResult Unit) :
    Triple before (createPersistentObject outcome) (Acquired .persistentObject outcome before) :=
  acquire_spec HandleKind.persistentObject outcome

theorem freeOperation_spec (holds : Holds .operation before handle opened) :
    Triple opened (freeOperation handle) fun _ after => after = before :=
  holds.closed rfl

theorem freeTransientObject_spec (holds : Holds .transientObject before handle opened) :
    Triple opened (freeTransientObject handle) fun _ after => after = before :=
  holds.closed rfl

/-- The object is freed below another one. -/
theorem freeTransientObject_below {upper : HandleKind}
    (holds : Holds .transientObject before handle opened) (above : Holds upper opened other both) :
    Triple both (freeTransientObject handle) fun _ after => Holds upper before other after :=
  holds.closed_below above rfl

theorem closeObject_spec {kind : HandleKind} (object : kind ≠ .operation)
    (holds : Holds kind before handle opened) :
    Triple opened (closeObject handle) fun _ after => after = before :=
  holds.closed (decide_eq_true object)

end Specs

end Tee
end TrustChain
