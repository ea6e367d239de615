import KalyxMao.PythonConversions

/-!
# Nonces for signed transactions

An operation keeps the nonce it was first given; a new one is the larger of what
the chain counts and the next one in the local counter of the account.
-/

namespace NonceAllocation
open PythonText PythonConversions

/-- The two dictionaries, what was stored last in front. -/
structure NonceManager where
  nextNonces : List ((String × Int) × Int)
  assignedNonces : List ((String × String) × Int)

section Model
variable (t : TextRules)

def acctKey (sender : String) (chainId : Int) : String × Int :=
  (t.lower (String.ofList (strip t sender.toList)), chainId)

def getOrAllocateNonce (m : NonceManager) (sender : String) (chainId : Int)
    (operationId idempotencyKey : String) (onChainNonceFetcher : Except PyError Int) :
    Except PyError Int × NonceManager :=
  match m.assignedNonces.lookup (operationId, idempotencyKey) with
  | some nonce => (.ok nonce, m)
  | none =>
    match onChainNonceFetcher with
    | .error exc => (.error exc, m)
    | .ok onChainNonce =>
      let currentLocal := (m.nextNonces.lookup (acctKey t sender chainId)).getD 0
      let allocated := max onChainNonce currentLocal
      (.ok allocated,
        { nextNonces := (acctKey t sender chainId, allocated + 1) :: m.nextNonces
          assignedNonces := ((operationId, idempotencyKey), allocated) :: m.assignedNonces })

end Model

section Specifications
variable {t : TextRules} {m : NonceManager} {sender operationId idempotencyKey : String}
  {chainId : Int} {fetched : Except PyError Int}

/-- A nonce that was handed out is the operation's from then on. -/
theorem getOrAllocateNonce_assigned {nonce : Int} {m' : NonceManager}
    (given : getOrAllocateNonce t m sender chainId operationId idempotencyKey fetched =
      (.ok nonce, m')) : m'.assignedNonces.lookup (operationId, idempotencyKey) = some nonce := by
  unfold getOrAllocateNonce at given
  split at given
  · rename_i assigned
    obtain ⟨same, rfl⟩ := Prod.mk.inj given
    rw [assigned, Except.ok.inj same]
  · split at given
    · cases (Prod.mk.inj given).1
    · obtain ⟨same, rfl⟩ := Prod.mk.inj given
      rw [List.lookup_cons_self, Except.ok.inj same]

/-- A refused request changes nothing. -/
theorem getOrAllocateNonce_refused {exc : PyError} {m' : NonceManager}
    (refused : getOrAllocateNonce t m sender chainId operationId idempotencyKey fetched =
      (.error exc, m')) :
    m' = m ∧ fetched = .error exc ∧
      m.assignedNonces.lookup (operationId, idempotencyKey) = none := by
  unfold getOrAllocateNonce at refused
  split at refused
  · cases (Prod.mk.inj refused).1
  · rename_i unassigned
    split at refused
    · obtain ⟨same, rfl⟩ := Prod.mk.inj refused
      exact ⟨rfl, congrArg _ (Except.error.inj same), unassigned⟩
    · cases (Prod.mk.inj refused).1

/-- Asking again gives the same nonce, whatever the chain counts by then. -/
theorem getOrAllocateNonce_again {nonce : Int} {m' : NonceManager}
    (given : getOrAllocateNonce t m sender chainId operationId idempotencyKey fetched =
      (.ok nonce, m')) (sender' : String) (chainId' : Int) (fetched' : Except PyError Int) :
    getOrAllocateNonce t m' sender' chainId' operationId idempotencyKey fetched' =
      (.ok nonce, m') := by
  unfold getOrAllocateNonce
  rw [getOrAllocateNonce_assigned given]

end Specifications

end NonceAllocation
