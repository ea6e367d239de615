import KalyxMao.Domain
import KalyxMao.PythonConversions

/-!
# The blockchain settlement provider

What the chain says comes through an RPC client that may raise. A status query
finds the transaction hash of an operation and turns the receipt into an outcome.
-/

namespace BlockchainProvider
open PythonText PythonValues PythonConversions Domain

/-- The calls of the RPC client that the provider makes to look a transaction up. -/
structure EvmRpcClient where
  getTransactionReceipt : String → Except PyError (Option (List (String × PyValue)))
  getTransactionByHash : String → Except PyError PyValue

/-- `raw_status in (1, "0x1", "1")`. -/
def receiptSucceeded : PyValue → Bool
  | .int i => i = 1
  | .bool b => b
  | .float f => f = .finite 1
  | .str s => s = "0x1" || s = "1"
  | _ => false

section Status
variable (h : Hashing) (rpc : EvmRpcClient) (opTxHashes : List (String × String))

/-- The hash under which an operation's transaction is looked up, empty if there is none. -/
def statusTxHash (operationId : String) (idempotencyKey providerReference : Option String) :
    String :=
  let recorded := orElse providerReference (orElse (opTxHashes.lookup operationId)
    (match idempotencyKey with
      | some key => if key = "" then "" else (opTxHashes.lookup key).getD ""
      | none => ""))
  if recorded = "" && startsWith operationId "0x" then operationId else recorded

def statusOfReceipt (operationId txHash : String) (receipt : List (String × PyValue)) :
    ProviderStatusResult :=
  if receiptSucceeded (get receipt "status") then
    ⟨"blockchain", operationId, outcomeSuccess, some txHash,
      [("status", .str "confirmed"), ("tx_hash", .str txHash), ("receipt", .dict receipt)], none,
      some (h.ofJson receipt)⟩
  else
    ⟨"blockchain", operationId, outcomeFailure, some txHash,
      [("status", .str "reverted"), ("tx_hash", .str txHash), ("receipt", .dict receipt)],
      some "Transaction reverted on-chain", some (h.ofJson receipt)⟩

def status (operationId : String) (idempotencyKey providerReference : Option String) :
    Except PyError ProviderStatusResult :=
  let txHash := statusTxHash opTxHashes operationId idempotencyKey providerReference
  if txHash = "" then
    .ok ⟨"blockchain", operationId, outcomeTimeout, none,
      [("error", .str "No transaction hash recorded for operation")],
      some "No transaction hash recorded for operation", none⟩
  else
    match rpc.getTransactionReceipt txHash with
    | .error exc =>
      .ok ⟨"blockchain", operationId, outcomeTimeout, some txHash,
        [("error", .str exc.message), ("tx_hash", .str txHash)],
        some s!"RPC error during status check: {exc.message}", none⟩
    | .ok (some receipt) => .ok (statusOfReceipt h operationId txHash receipt)
    | .ok none => do
      let txData ← rpc.getTransactionByHash txHash
      if truthy txData then
        return ⟨"blockchain", operationId, outcomeTimeout, some txHash,
          [("status", .str "pending_in_mempool"), ("tx_hash", .str txHash)],
          some "Transaction is pending confirmation in mempool", none⟩
      else
        return ⟨"blockchain", operationId, outcomeTimeout, some txHash,
          [("status", .str "unknown_on_chain"), ("tx_hash", .str txHash)],
          some "Transaction status unknown on-chain", none⟩

variable {h rpc opTxHashes}

theorem timeout_ne_success : outcomeTimeout ≠ outcomeSuccess := by decide

theorem failure_ne_success : outcomeFailure ≠ outcomeSuccess := by decide

/-- A confirmed transaction is reported with its receipt and nothing that names an intent. -/
theorem status_success {operationId : String} {idempotencyKey providerReference : Option String}
    {s : ProviderStatusResult}
    (answer : status h rpc opTxHashes operationId idempotencyKey providerReference = .ok s)
    (success : s.outcome = outcomeSuccess) :
    ∃ txHash receipt, txHash ≠ "" ∧ s.providerReference = some txHash ∧
      s.rawStatus = [("status", .str "confirmed"), ("tx_hash", .str txHash),
        ("receipt", .dict receipt)] := by
  rw [status] at answer
  split_ifs at answer with absent
  · obtain rfl := Except.ok.inj answer
    exact absurd success timeout_ne_success
  · split at answer
    · obtain rfl := Except.ok.inj answer
      exact absurd success timeout_ne_success
    · rename_i receipt _
      obtain rfl := Except.ok.inj answer
      rw [statusOfReceipt] at success ⊢
      split_ifs at success ⊢
      · exact ⟨_, receipt, absent, rfl, rfl⟩
      · exact absurd success failure_ne_success
    · obtain ⟨txData, _, rest⟩ := bind_ok.mp answer
      split_ifs at rest
      · obtain rfl := Except.ok.inj rest
        exact absurd success timeout_ne_success
      · obtain rfl := Except.ok.inj rest
        exact absurd success timeout_ne_success

end Status

end BlockchainProvider
