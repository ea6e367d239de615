import KalyxMao.PurchasePolicy

/-!
# Typed transaction intents

A transaction intent is validated when it is built. The settlement provider
builds one from the untyped parameters of an operation; a purchase intent has
one of its own, whose calldata is encoded from the authorised fields.
-/

namespace BlockchainIntents
open PythonText PythonValues PythonConversions Domain PurchaseVerifier
open PurchasePolicy (matchesAddress addressToBeneficiaryBytes32)

section Calldata
variable (t : TextRules)

/-- A `uint256` word in hex, as `eth_abi` encodes it. -/
def wordOf (n : Nat) : Except PyError String :=
  if n < 2 ^ 256 then .ok (hexWidth 64 n)
  else .error ⟨.otherException, s!"Value `{n}` of type <class 'int'> cannot be encoded by UnsignedIntegerEncoder: Cannot be encoded in 256 bits"⟩

def buyAndActivateSelector : String := "6ebadb6e"

/-- `encode_buy_and_activate_calldata`. -/
def encodeBuyAndActivateCalldata (usdgIn minCreditOut : Nat) (beneficiary : String) (maxFills : Nat) :
    Except PyError String := do
  let clean := t.lower (String.ofList (strip t beneficiary.toList))
  let b32 ←
    if matchesAddress clean then addressToBeneficiaryBytes32 t clean
    else if isHexText 64 clean then .ok clean
    else .error ⟨.valueError,
      s!"beneficiary must be a 0x address or 0x bytes32; got '{beneficiary}'"⟩
  let spend ← wordOf usdgIn
  let least ← wordOf minCreditOut
  let fills ← wordOf maxFills
  return "0x" ++ buyAndActivateSelector ++ spend ++ least ++ String.ofList (b32.toList.drop 2) ++ fills

end Calldata

/-- An intended on-chain transaction, as its validators leave it. -/
structure BlockchainTransactionIntent where
  tenantId : String
  organisationId : String
  missionId : Option String
  operationId : String
  chainId : Int
  network : String
  recipient : String
  amountWei : Nat
  amountCredits : Nat
  asset : String
  tokenContract : Option String
  transactionType : Int
  maxFeePerGas : Int
  maxPriorityFeePerGas : Int
  gasLimit : Nat
  dataPayload : String
  idempotencyKey : String
  policyDecisionId : String
  authorizationTokenHash : String
  gas_floor : 21000 ≤ gasLimit

section Building
variable (h : Hashing) (t : TextRules)

/-- A stripped address in lower case, or what the validator says. -/
def validateAddress (what v : String) : Except PyError String :=
  let clean := String.ofList (strip t v.toList)
  if matchesAddress clean then .ok (t.lower clean)
  else .error ⟨.validationError, s!"Invalid {what} address: '{v}'"⟩

def validateRecipient (v : String) : Except PyError String := validateAddress t "EVM recipient" v

def validateTokenContract : Option String → Except PyError (Option String)
  | none => .ok none
  | some v => (validateAddress t "token contract" v).map some

def notAString (field : String) : PyError := ⟨.validationError, s!"{field}: Input should be a valid string"⟩

def requireStr (field : String) : PyValue → Except PyError String
  | .str s => .ok s
  | _ => .error (notAString field)

def requireOptionalStr (field : String) : PyValue → Except PyError (Option String)
  | .none => .ok none
  | .str s => .ok (some s)
  | _ => .error (notAString field)

/-- `Field(ge=bound)`. -/
def requireAtLeast (field : String) (bound : Nat) (n : Int) : Except PyError Nat :=
  if (bound : Int) ≤ n then .ok n.toNat
  else .error ⟨.validationError,
    s!"{field}: Input should be greater than or equal to {bound}"⟩

/-- A `gas_limit` that meets its bound. -/
def requireGas (n : Int) : Except PyError { g : Nat // 21000 ≤ g } :=
  if enough : (21000 : Int) ≤ n then .ok ⟨n.toNat, by omega⟩
  else .error ⟨.validationError, "gas_limit: Input should be greater than or equal to 21000"⟩

theorem floor_of_gas (gas : { g : Nat // 21000 ≤ g }) : 21000 ≤ gas.1 := gas.2

/-- `OrbioPurchaseIntent.to_blockchain_intent`. -/
def toBlockchainIntent (i : OrbioPurchaseIntent) : Except PyError BlockchainTransactionIntent := do
  let data ← encodeBuyAndActivateCalldata t i.usdgIn i.minCreditOut i.beneficiary i.maxFills
  let recipient ← validateRecipient t i.exchangeContract
  let token ← validateTokenContract t (some i.paymentToken)
  let gas ← requireGas i.gasLimit
  return {
    tenantId := i.tenantId
    organisationId := i.organisationId
    missionId := i.missionId
    operationId := i.operationId
    chainId := i.chainId
    network := i.network
    recipient := recipient
    amountWei := 0
    amountCredits := i.amountCredits
    asset := "USDG"
    tokenContract := token
    transactionType := 2
    maxFeePerGas := i.maxFeePerGas
    maxPriorityFeePerGas := i.maxPriorityFeePerGas
    gasLimit := gas.1
    dataPayload := data
    idempotencyKey := i.idempotencyKey
    policyDecisionId := i.policyDecisionId
    authorizationTokenHash := i.authorizationTokenHash
    gas_floor := floor_of_gas gas }

/-- `s.replace(needle, "")`, skipping what is left of a match. -/
def removeFrom (needle : List Char) : Nat → List Char → List Char
  | _, [] => []
  | skip + 1, _ :: cs => removeFrom needle skip cs
  | 0, c :: cs =>
    if needle.isPrefixOf (c :: cs) then removeFrom needle (needle.length - 1) cs
    else c :: removeFrom needle 0 cs

def removeAll (needle : String) (s : String) : String :=
  String.ofList (removeFrom needle.toList 0 s.toList)

/-- The target without its scheme. -/
def addressOfTarget (target : String) : String :=
  removeAll "sepolia://" (removeAll "blockchain://" (removeAll "evm://" target))

structure ProviderSettings where
  defaultChainId : Int := 11155111
  networkName : String := "sepolia"

variable (settings : ProviderSettings)

/-- The recipient parameter, or the target in its place. -/
def recipientOf (params : List (String × PyValue)) (target : String) : PyValue :=
  let recipient := get params "recipient"
  if truthy recipient || target = "" then recipient else .str (addressOfTarget target)

/-- `value.encode("utf-8")`, which only strings have. -/
def encoded : PyValue → Except PyError String
  | .str s => .ok s
  | _ => .error ⟨.otherException, "object has no attribute 'encode'"⟩

/-- `BlockchainSettlementProvider._build_intent`. -/
def buildIntent (op : ConsequentialOperation) : Except PyError BlockchainTransactionIntent := do
  let params := op.parameters
  let recipient := recipientOf params op.target
  if !truthy recipient then
    .error ⟨.valueError, s!"Blockchain operation '{op.id}' missing required recipient address"⟩
  else
    let chainId ← intOf t (getD params "chain_id" (.int settings.defaultChainId))
    let amountWei ← intOf t (getD params "amount_wei" (.int 0))
    let maxFee ← intOf t (getD params "max_fee_per_gas" (.int 25000000000))
    let maxPriorityFee ← intOf t (getD params "max_priority_fee_per_gas" (.int 1500000000))
    let gasLimit ← intOf t (getD params "gas_limit" (.int 21000))
    let token ← encoded (getD params "authorization_token" (.str op.id))
    let missionId ← requireOptionalStr "mission_id" (get params "mission_id")
    let network ← requireStr "network" (getD params "network" (.str settings.networkName))
    let recipient ← requireStr "recipient" recipient
    let recipient ← validateRecipient t recipient
    let amountWei ← requireAtLeast "amount_wei" 0 amountWei
    let asset ← requireStr "asset" (getD params "asset" (.str "ETH"))
    let tokenContract ← requireOptionalStr "token_contract" (get params "token_contract")
    let tokenContract ← validateTokenContract t tokenContract
    let gasLimit ← requireGas gasLimit
    let data ← requireStr "data_payload" (getD params "data_payload" (.str "0x"))
    return {
      tenantId := op.tenantId
      organisationId := op.organisationId
      missionId := missionId
      operationId := op.id
      chainId := chainId
      network := network
      recipient := recipient
      amountWei := amountWei
      amountCredits := op.amount
      asset := asset
      tokenContract := tokenContract
      transactionType := 2
      maxFeePerGas := maxFee
      maxPriorityFeePerGas := maxPriorityFee
      gasLimit := gasLimit.1
      dataPayload := data
      idempotencyKey := op.idempotencyKey
      policyDecisionId := op.decisionId
      authorizationTokenHash := h.sha256 token
      gas_floor := gasLimit.2 }

def computeIntentHash (i : BlockchainTransactionIntent) : String :=
  h.ofJson
    [("tenant_id", .str i.tenantId), ("organisation_id", .str i.organisationId),
      ("mission_id", optionalStr i.missionId), ("operation_id", .str i.operationId),
      ("chain_id", .int i.chainId), ("network", .str i.network), ("recipient", .str i.recipient),
      ("amount_wei", .int i.amountWei), ("amount_credits", .int i.amountCredits),
      ("asset", .str i.asset), ("token_contract", optionalStr i.tokenContract),
      ("transaction_type", .int i.transactionType), ("max_fee_per_gas", .int i.maxFeePerGas),
      ("max_priority_fee_per_gas", .int i.maxPriorityFeePerGas), ("gas_limit", .int i.gasLimit),
      ("data_payload", .str i.dataPayload), ("idempotency_key", .str i.idempotencyKey),
      ("policy_decision_id", .str i.policyDecisionId),
      ("authorization_token_hash", .str i.authorizationTokenHash)]

end Building

section Specifications
variable {h : Hashing} {t : TextRules} {settings : ProviderSettings} {op : ConsequentialOperation}
  {i : BlockchainTransactionIntent}

/-- What each field of a built intent was read from. -/
structure ReadFrom (h : Hashing) (t : TextRules) (settings : ProviderSettings)
    (op : ConsequentialOperation) (i : BlockchainTransactionIntent) : Prop where
  chain : intOf t (getD op.parameters "chain_id" (.int settings.defaultChainId)) = .ok i.chainId
  recipient : ∃ s, recipientOf op.parameters op.target = .str s ∧ s ≠ "" ∧
    validateRecipient t s = .ok i.recipient
  amount : intOf t (getD op.parameters "amount_wei" (.int 0)) = .ok i.amountWei
  fee : intOf t (getD op.parameters "max_fee_per_gas" (.int 25000000000)) = .ok i.maxFeePerGas
  gas : intOf t (getD op.parameters "gas_limit" (.int 21000)) = .ok i.gasLimit
  token : ∃ v, requireOptionalStr "token_contract" (get op.parameters "token_contract") = .ok v ∧
    validateTokenContract t v = .ok i.tokenContract
  data : getD op.parameters "data_payload" (.str "0x") = .str i.dataPayload

theorem requireStr_ok {field : String} {v : PyValue} {s : String}
    (ok : requireStr field v = .ok s) : v = .str s := by
  cases v with
  | str s' => exact congrArg PyValue.str (Except.ok.inj ok)
  | _ => cases ok

theorem requireAtLeast_ok {field : String} {bound n : Nat} {z : Int}
    (ok : requireAtLeast field bound z = .ok n) : z = n := by
  rw [requireAtLeast] at ok
  split at ok
  · rw [← Except.ok.inj ok]
    omega
  · cases ok

theorem requireGas_ok {z : Int} {g : { g : Nat // 21000 ≤ g }} (ok : requireGas z = .ok g) :
    z = g.1 := by
  rw [requireGas] at ok
  split at ok
  · rw [← Except.ok.inj ok]
    simp only
    omega
  · cases ok

/-- A built intent is read from the parameters, key by key. -/
theorem buildIntent_reads (built : buildIntent h t settings op = .ok i) :
    ReadFrom h t settings op i := by
  unfold buildIntent at built
  dsimp only at built
  split at built
  · cases built
  · rename_i present
    obtain ⟨chain, chainOk, built⟩ := bind_ok.mp built
    obtain ⟨amount, amountOk, built⟩ := bind_ok.mp built
    obtain ⟨fee, feeOk, built⟩ := bind_ok.mp built
    obtain ⟨priority, -, built⟩ := bind_ok.mp built
    obtain ⟨gas, gasOk, built⟩ := bind_ok.mp built
    obtain ⟨authorization, -, built⟩ := bind_ok.mp built
    obtain ⟨mission, -, built⟩ := bind_ok.mp built
    obtain ⟨network, -, built⟩ := bind_ok.mp built
    obtain ⟨raw, rawOk, built⟩ := bind_ok.mp built
    obtain ⟨recipient, recipientOk, built⟩ := bind_ok.mp built
    obtain ⟨wei, weiOk, built⟩ := bind_ok.mp built
    obtain ⟨asset, -, built⟩ := bind_ok.mp built
    obtain ⟨token, tokenOk, built⟩ := bind_ok.mp built
    obtain ⟨token', tokenOk', built⟩ := bind_ok.mp built
    obtain ⟨limit, limitOk, built⟩ := bind_ok.mp built
    obtain ⟨data, dataOk, built⟩ := bind_ok.mp built
    rw [requireAtLeast_ok weiOk] at amountOk
    rw [requireGas_ok limitOk] at gasOk
    have value := requireStr_ok rawOk
    obtain rfl := Except.ok.inj built
    refine ⟨chainOk, ⟨raw, value, ?_, recipientOk⟩, amountOk, feeOk, gasOk, ⟨token, tokenOk, tokenOk'⟩,
      requireStr_ok dataOk⟩
    rintro rfl
    rw [value] at present
    exact present rfl

end Specifications

end BlockchainIntents
