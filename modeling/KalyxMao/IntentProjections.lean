import KalyxMao.ActivationBridge
import KalyxMao.AddressText

/-!
# The authorised transaction and the one that is built

A typed intent is projected twice: to the authorised transaction, and through
the parameters of an operation to the one the settlement provider builds. The
match check compares an operation with the purchase it is said to execute.
-/

namespace IntentProjections
open PythonText PythonValues PythonConversions Domain PurchaseVerifier BlockchainIntents AddressText
open PurchasePolicy (ApprovalRules matchesAddress)
open ActivationPolicy (OrbioCreditActivationIntent)
open PurchaseBridge (PurchaseFields newPurchaseIntent PurchasePreparation)
open ActivationBridge (ActivationFields newActivationIntent ActivationPreparation)

section Checking
variable (h : Hashing) (t : TextRules)

/-- `value.lower()`, which only strings have. -/
def lowerOf : PyValue → Except PyError String
  | .str s => .ok (t.lower s)
  | v => .error ⟨.otherException, s!"'{typeName v}' object has no attribute 'lower'"⟩

/-- `OrbioPurchaseBridge.verify_operation_matches_intent`. -/
def verifyOperationMatchesIntent (op : ConsequentialOperation) (i : OrbioPurchaseIntent) :
    Except PyError (Bool × Option String) := do
  let expectedHash := i.computePurchaseIntentHash h
  let stored := get op.parameters "purchase_intent_hash"
  if !valuesEqual stored (.str expectedHash) then
    return (false, some
      s!"Operation purchase_intent_hash mismatch: stored={strOf t stored}, expected={expectedHash}")
  else
    let expectedCalldata ← encodeBuyAndActivateCalldata t i.usdgIn i.minCreditOut i.beneficiary i.maxFills
    if !valuesEqual (get op.parameters "data_payload") (.str expectedCalldata) then
      return (false, some "Operation data_payload does not match authorized purchase calldata")
    else
      let expectedRecipient := t.lower i.exchangeContract
      let storedRecipient ← lowerOf t (getD op.parameters "recipient" (.str ""))
      if storedRecipient ≠ expectedRecipient then
        return (false, some
          s!"Operation recipient mismatch: stored={storedRecipient}, expected={expectedRecipient}")
      else return (true, none)

/-- `create_operation_from_preparation`, with the identifiers and the key a caller may give. -/
def createOperationWith (p : PurchasePreparation) (org : Organisation)
    (proposalId decisionId idempotencyKey : Option String) (providerName uuidHex : String) :
    Except PyError ConsequentialOperation := do
  let op ← PurchaseBridge.createOperationFromPreparation p org providerName uuidHex
  match idempotencyKey.filter (· ≠ p.purchaseIntent.idempotencyKey) with
  | some key => .error ⟨.valueError,
      s!"Supplied idempotency_key '{key}' does not match authorized purchase intent idempotency_key '{p.purchaseIntent.idempotencyKey}'"⟩
  | none => return { op with
      proposalId := orElse proposalId op.proposalId
      decisionId := orElse decisionId op.decisionId }

/-- What the check compares is as the intent has it. -/
structure Compared (op : ConsequentialOperation) (i : OrbioPurchaseIntent) : Prop where
  hash : get op.parameters "purchase_intent_hash" = .str (i.computePurchaseIntentHash h)
  calldata : ∃ s, encodeBuyAndActivateCalldata t i.usdgIn i.minCreditOut i.beneficiary i.maxFills = .ok s ∧
    get op.parameters "data_payload" = .str s
  recipient : ∀ s, getD op.parameters "recipient" (.str "") = .str s → t.lower s = t.lower i.exchangeContract

end Checking

section Verdicts
variable {h : Hashing} {t : TextRules} {op : ConsequentialOperation} {i : OrbioPurchaseIntent}

theorem valuesEqual_str {v : PyValue} {s : String} : valuesEqual v (.str s) = true ↔ v = .str s := by
  cases v with
  | str s' => simp [valuesEqual]
  | _ => simp [valuesEqual, numberOf]

/-- What the check answers where hash and calldata are those of the intent. -/
def recipientVerdict (t : TextRules) (op : ConsequentialOperation) (i : OrbioPurchaseIntent) :
    Except PyError (Bool × Option String) := do
  let storedRecipient ← lowerOf t (getD op.parameters "recipient" (.str ""))
  if storedRecipient ≠ t.lower i.exchangeContract then
    return (false, some
      s!"Operation recipient mismatch: stored={storedRecipient}, expected={t.lower i.exchangeContract}")
  else return (true, none)

variable {data : String}
  (encoded : encodeBuyAndActivateCalldata t i.usdgIn i.minCreditOut i.beneficiary i.maxFills = .ok data)

include encoded

variable (h op) in
theorem verify_cases :
    ((∃ why, verifyOperationMatchesIntent h t op i = .ok (false, some why)) ∧
      ¬(get op.parameters "purchase_intent_hash" = .str (i.computePurchaseIntentHash h) ∧
        get op.parameters "data_payload" = .str data)) ∨
    (verifyOperationMatchesIntent h t op i = recipientVerdict t op i ∧
      get op.parameters "purchase_intent_hash" = .str (i.computePurchaseIntentHash h) ∧
      get op.parameters "data_payload" = .str data) := by
  unfold verifyOperationMatchesIntent
  dsimp only
  split
  · rename_i differs
    refine .inl ⟨⟨_, rfl⟩, fun same => ?_⟩
    rw [valuesEqual_str.mpr same.1] at differs
    cases differs
  · rename_i hash
    rw [encoded]
    dsimp only [bind, Except.bind]
    split
    · rename_i differs
      refine .inl ⟨⟨_, rfl⟩, fun same => ?_⟩
      rw [valuesEqual_str.mpr same.2] at differs
      cases differs
    · rename_i calldata
      exact .inr ⟨rfl, valuesEqual_str.mp (by simpa using hash), valuesEqual_str.mp (by simpa using calldata)⟩

/-- An operation is refused, with a reason, exactly where something compared differs. -/
theorem refused_iff :
    (∃ why, verifyOperationMatchesIntent h t op i = .ok (false, some why)) ↔ ¬Compared h t op i := by
  rcases verify_cases h op encoded with ⟨refused, differs⟩ | ⟨same, hash, calldata⟩
  · refine iff_of_true refused fun compared => differs ⟨compared.hash, ?_⟩
    obtain ⟨data', again, stored⟩ := compared.calldata
    rwa [Except.ok.inj (encoded.symm.trans again)]
  · rw [same]
    unfold recipientVerdict
    cases stored : getD op.parameters "recipient" (.str "") with
    | str s =>
      dsimp only [lowerOf, bind, Except.bind]
      split
      · rename_i differs
        exact iff_of_true ⟨_, rfl⟩ fun compared => differs (compared.recipient s stored)
      · rename_i agrees
        refine iff_of_false (fun ⟨_, refused⟩ => by cases refused) (not_not.mpr ⟨hash, ⟨data, encoded, calldata⟩, ?_⟩)
        intro s' same'
        obtain rfl := PyValue.str.inj (stored.symm.trans same')
        exact not_not.mp agrees
    | _ =>
      refine iff_of_false (fun ⟨_, refused⟩ => by cases refused) (not_not.mpr ⟨hash, ⟨data, encoded, calldata⟩, ?_⟩)
      intro s' same'
      cases stored.symm.trans same'

end Verdicts

section Building
variable {h : Hashing} {t : TextRules} {settings : ProviderSettings} {op : ConsequentialOperation}
  {tx bc : BlockchainTransactionIntent}

/-- The parameters, with the defaults of the provider, make a transaction. -/
structure Buildable (t : TextRules) (settings : ProviderSettings) (op : ConsequentialOperation) : Prop where
  recipient : ∃ s, recipientOf op.parameters op.target = .str s ∧
    matchesAddress (String.ofList (strip t s.toList)) = true
  chain : ∃ n, intOf t (getD op.parameters "chain_id" (.int settings.defaultChainId)) = .ok n
  amount : ∃ n : ℕ, intOf t (getD op.parameters "amount_wei" (.int 0)) = .ok (n : ℤ)
  fee : ∃ n, intOf t (getD op.parameters "max_fee_per_gas" (.int 25000000000)) = .ok n
  priorityFee : ∃ n, intOf t (getD op.parameters "max_priority_fee_per_gas" (.int 1500000000)) = .ok n
  gas : ∃ n : ℕ, 21000 ≤ n ∧ intOf t (getD op.parameters "gas_limit" (.int 21000)) = .ok (n : ℤ)
  authorization : ∃ s, getD op.parameters "authorization_token" (.str op.id) = .str s
  mission : ∃ m, get op.parameters "mission_id" = optionalStr m
  network : ∃ s, getD op.parameters "network" (.str settings.networkName) = .str s
  asset : ∃ s, getD op.parameters "asset" (.str "ETH") = .str s
  token : ∃ c, get op.parameters "token_contract" = optionalStr c ∧
    ∀ s, c = some s → matchesAddress (String.ofList (strip t s.toList)) = true
  data : ∃ s, getD op.parameters "data_payload" (.str "0x") = .str s

theorem encoded_ok {v : PyValue} {s : String} (ok : BlockchainIntents.encoded v = .ok s) : v = .str s := by
  cases v with
  | str s' => exact congrArg PyValue.str (Except.ok.inj ok)
  | _ => cases ok

theorem requireOptionalStr_ok {field : String} {v : PyValue} {c : Option String} :
    requireOptionalStr field v = .ok c ↔ v = optionalStr c := by
  cases v with
  | none => cases c <;> simp [requireOptionalStr, optionalStr]
  | str s => cases c <;> simp [requireOptionalStr, optionalStr]
  | _ => cases c <;> simp [requireOptionalStr, optionalStr]

theorem validateAddress_ok (what : String) {v e : String} :
    validateAddress t what v = .ok e ↔ matchesAddress (String.ofList (strip t v.toList)) = true ∧
      t.lower (String.ofList (strip t v.toList)) = e := by
  unfold validateAddress
  dsimp only
  split
  · rename_i shaped
    exact ⟨fun ok => ⟨shaped, Except.ok.inj ok⟩, fun both => congrArg Except.ok both.2⟩
  · rename_i shapeless
    exact iff_of_false (fun ok => by cases ok) fun both => shapeless both.1

theorem validateTokenContract_ok {c c' : Option String} :
    validateTokenContract t c = .ok c' ↔
      (∀ s, c = some s → matchesAddress (String.ofList (strip t s.toList)) = true) ∧
      c' = c.map fun s => t.lower (String.ofList (strip t s.toList)) := by
  cases c with
  | none =>
    refine ⟨fun ok => ⟨fun s absent => ?_, (Except.ok.inj ok).symm⟩, fun both => congrArg Except.ok both.2.symm⟩
    cases absent
  | some s =>
    show (validateAddress t "token contract" s).map some = .ok c' ↔ _
    cases clean : validateAddress t "token contract" s with
    | ok e =>
      obtain ⟨shaped, lowered⟩ := (validateAddress_ok _).mp clean
      rw [Option.map_some, lowered]
      exact ⟨fun ok => ⟨fun s' same => Option.some.inj same ▸ shaped, (Except.ok.inj ok).symm⟩,
        fun both => congrArg Except.ok both.2.symm⟩
    | error exc =>
      refine iff_of_false (fun ok => by cases ok) fun both => ?_
      have shaped := (validateAddress_ok "token contract").mpr ⟨both.1 s rfl, rfl⟩
      cases clean.symm.trans shaped

/-- A built transaction has been made from such parameters. -/
theorem buildIntent_buildable (built : buildIntent h t settings op = .ok tx) :
    Buildable t settings op ∧
      getD op.parameters "network" (.str settings.networkName) = .str tx.network := by
  unfold buildIntent at built
  dsimp only at built
  split at built
  · cases built
  · obtain ⟨chain, chainOk, built⟩ := bind_ok.mp built
    obtain ⟨amount, amountOk, built⟩ := bind_ok.mp built
    obtain ⟨fee, feeOk, built⟩ := bind_ok.mp built
    obtain ⟨priority, priorityOk, built⟩ := bind_ok.mp built
    obtain ⟨gas, gasOk, built⟩ := bind_ok.mp built
    obtain ⟨authorization, authorizationOk, built⟩ := bind_ok.mp built
    obtain ⟨mission, missionOk, built⟩ := bind_ok.mp built
    obtain ⟨network, networkOk, built⟩ := bind_ok.mp built
    obtain ⟨raw, rawOk, built⟩ := bind_ok.mp built
    obtain ⟨recipient, recipientOk, built⟩ := bind_ok.mp built
    obtain ⟨wei, weiOk, built⟩ := bind_ok.mp built
    obtain ⟨asset, assetOk, built⟩ := bind_ok.mp built
    obtain ⟨token, tokenOk, built⟩ := bind_ok.mp built
    obtain ⟨token', tokenOk', built⟩ := bind_ok.mp built
    obtain ⟨limit, limitOk, built⟩ := bind_ok.mp built
    obtain ⟨data, dataOk, built⟩ := bind_ok.mp built
    rw [requireAtLeast_ok weiOk] at amountOk
    rw [requireGas_ok limitOk] at gasOk
    obtain rfl := Except.ok.inj built
    exact ⟨
      { recipient := ⟨raw, requireStr_ok rawOk, ((validateAddress_ok _).mp recipientOk).1⟩
        chain := ⟨chain, chainOk⟩
        amount := ⟨wei, amountOk⟩
        fee := ⟨fee, feeOk⟩
        priorityFee := ⟨priority, priorityOk⟩
        gas := ⟨limit.1, limit.2, gasOk⟩
        authorization := ⟨authorization, encoded_ok authorizationOk⟩
        mission := ⟨mission, requireOptionalStr_ok.mp missionOk⟩
        network := ⟨network, requireStr_ok networkOk⟩
        asset := ⟨asset, requireStr_ok assetOk⟩
        token := ⟨token, requireOptionalStr_ok.mp tokenOk, (validateTokenContract_ok.mp tokenOk').1⟩
        data := ⟨data, requireStr_ok dataOk⟩ }, requireStr_ok networkOk⟩

theorem buildIntent_total (able : Buildable t settings op) : ∃ tx, buildIntent h t settings op = .ok tx := by
  obtain ⟨recipient, given, shaped⟩ := able.recipient
  obtain ⟨chain, chainOk⟩ := able.chain
  obtain ⟨amount, amountOk⟩ := able.amount
  obtain ⟨fee, feeOk⟩ := able.fee
  obtain ⟨priority, priorityOk⟩ := able.priorityFee
  obtain ⟨gas, floor, gasOk⟩ := able.gas
  obtain ⟨authorization, authorizationOk⟩ := able.authorization
  obtain ⟨mission, missionOk⟩ := able.mission
  obtain ⟨network, networkOk⟩ := able.network
  obtain ⟨asset, assetOk⟩ := able.asset
  obtain ⟨token, tokenOk, tokenShaped⟩ := able.token
  obtain ⟨data, dataOk⟩ := able.data
  have present : truthy (.str recipient) = true := by
    have some_ : recipient ≠ "" := by
      rintro rfl
      have shaped : matchesAddress "" = true := shaped
      exact absurd shaped (by decide)
    exact decide_eq_true some_
  unfold buildIntent
  dsimp only
  rw [given, if_neg (by rw [present]; decide)]
  refine ⟨_, bind_ok.mpr ⟨chain, chainOk, bind_ok.mpr ⟨amount, amountOk, bind_ok.mpr ⟨fee, feeOk,
    bind_ok.mpr ⟨priority, priorityOk, bind_ok.mpr ⟨gas, gasOk, bind_ok.mpr ⟨authorization, ?_,
    bind_ok.mpr ⟨mission, requireOptionalStr_ok.mpr missionOk, bind_ok.mpr ⟨network, ?_,
    bind_ok.mpr ⟨recipient, rfl, bind_ok.mpr ⟨_, (validateAddress_ok _).mpr ⟨shaped, rfl⟩,
    bind_ok.mpr ⟨amount, ?_, bind_ok.mpr ⟨asset, ?_,
    bind_ok.mpr ⟨token, requireOptionalStr_ok.mpr tokenOk,
    bind_ok.mpr ⟨_, validateTokenContract_ok.mpr ⟨tokenShaped, rfl⟩,
    bind_ok.mpr ⟨⟨gas, floor⟩, ?_, bind_ok.mpr ⟨data, ?_, rfl⟩⟩⟩⟩⟩⟩⟩⟩⟩⟩⟩⟩⟩⟩⟩⟩⟩
  · rw [authorizationOk]
    rfl
  · rw [networkOk]
    rfl
  · simp [requireAtLeast]
  · rw [assetOk]
    rfl
  · unfold requireGas
    rw [dif_pos (by exact_mod_cast floor)]
    rfl
  · rw [dataOk]
    rfl

/-- The fields in which the built transaction is the authorised one. -/
structure SameTransaction (tx bc : BlockchainTransactionIntent) : Prop where
  chain : tx.chainId = bc.chainId
  network : tx.network = bc.network
  recipient : tx.recipient = bc.recipient
  value : tx.amountWei = bc.amountWei
  calldata : tx.dataPayload = bc.dataPayload
  gas : tx.gasLimit = bc.gasLimit
  token : tx.tokenContract = bc.tokenContract

/-- What the parameters, with the defaults of the provider, come to is as authorised. -/
structure ReadAs (t : TextRules) (settings : ProviderSettings) (op : ConsequentialOperation)
    (bc : BlockchainTransactionIntent) : Prop where
  chain : intOf t (getD op.parameters "chain_id" (.int settings.defaultChainId)) = .ok bc.chainId
  network : getD op.parameters "network" (.str settings.networkName) = .str bc.network
  recipient : ∀ s, recipientOf op.parameters op.target = .str s →
    t.lower (String.ofList (strip t s.toList)) = bc.recipient
  value : intOf t (getD op.parameters "amount_wei" (.int 0)) = .ok (bc.amountWei : ℤ)
  calldata : getD op.parameters "data_payload" (.str "0x") = .str bc.dataPayload
  gas : intOf t (getD op.parameters "gas_limit" (.int 21000)) = .ok (bc.gasLimit : ℤ)
  token : ∀ c, get op.parameters "token_contract" = optionalStr c →
    bc.tokenContract = c.map fun s => t.lower (String.ofList (strip t s.toList))

theorem optionalStr_inj {c c' : Option String} (same : optionalStr c = optionalStr c') : c = c' := by
  cases c with
  | none =>
    cases c' with
    | none => rfl
    | some s' => cases same
  | some s =>
    cases c' with
    | none => cases same
    | some s' => exact congrArg some (PyValue.str.inj same)

/-- A built transaction is the authorised one exactly where its parameters come to that. -/
theorem sameTransaction_iff (built : buildIntent h t settings op = .ok tx) :
    SameTransaction tx bc ↔ ReadAs t settings op bc := by
  have reads := buildIntent_reads built
  have network := (buildIntent_buildable built).2
  obtain ⟨raw, given, -, recipient⟩ := reads.recipient
  have recipient := ((validateAddress_ok _).mp recipient).2
  obtain ⟨c, stored, token⟩ := reads.token
  have stored := requireOptionalStr_ok.mp stored
  have token := (validateTokenContract_ok.mp token).2
  constructor
  · intro same
    constructor
    · rw [reads.chain, same.chain]
    · rw [network, same.network]
    · intro s given'
      obtain rfl := PyValue.str.inj (given.symm.trans given')
      rw [recipient, same.recipient]
    · rw [reads.amount, same.value]
    · rw [reads.data, same.calldata]
    · rw [reads.gas, same.gas]
    · intro c' stored'
      obtain rfl := optionalStr_inj (stored.symm.trans stored')
      rw [← same.token, token]
  · intro as
    constructor
    · exact Except.ok.inj (reads.chain.symm.trans as.chain)
    · exact PyValue.str.inj (network.symm.trans as.network)
    · exact recipient.symm.trans (as.recipient raw given)
    · exact_mod_cast Except.ok.inj (reads.amount.symm.trans as.value)
    · exact PyValue.str.inj (reads.data.symm.trans as.calldata)
    · exact_mod_cast Except.ok.inj (reads.gas.symm.trans as.gas)
    · rw [token, as.token c stored]

/-- Parameters that are written from an authorised transaction. -/
structure WrittenFrom (params : List (String × PyValue)) (bc : BlockchainTransactionIntent) : Prop where
  recipient : params.lookup "recipient" = some (.str bc.recipient)
  amount : params.lookup "amount_wei" = some (.int bc.amountWei)
  chain : params.lookup "chain_id" = some (.int bc.chainId)
  network : params.lookup "network" = some (.str bc.network)
  data : params.lookup "data_payload" = some (.str bc.dataPayload)
  token : params.lookup "token_contract" = some (optionalStr bc.tokenContract)
  asset : params.lookup "asset" = some (.str bc.asset)
  fee : params.lookup "max_fee_per_gas" = some (.int bc.maxFeePerGas)
  priorityFee : params.lookup "max_priority_fee_per_gas" = some (.int bc.maxPriorityFeePerGas)
  gas : params.lookup "gas_limit" = some (.int bc.gasLimit)
  mission : params.lookup "mission_id" = some (optionalStr bc.missionId)
  authorization : params.lookup "authorization_token" = some (.str bc.authorizationTokenHash)

theorem getD_written {params : List (String × PyValue)} {key : String} {v : PyValue}
    (written : params.lookup key = some v) (fallback : PyValue) : getD params key fallback = v := by
  rw [getD, written, Option.getD_some]

/-- Such parameters are built back into that transaction. -/
theorem buildIntent_written (h : Hashing) (settings : ProviderSettings) (op : ConsequentialOperation)
    (written : WrittenFrom op.parameters bc)
    (recipient : LowerAddress t bc.recipient) (token : ∀ c, bc.tokenContract = some c → LowerAddress t c) :
    ∃ tx, buildIntent h t settings op = .ok tx ∧ SameTransaction tx bc := by
  have given : recipientOf op.parameters op.target = .str bc.recipient := by
    have some_ : bc.recipient ≠ "" := by
      intro empty
      have address := recipient.address
      rw [empty] at address
      exact absurd address (by decide)
    have found : get op.parameters "recipient" = .str bc.recipient := getD_written written.recipient .none
    unfold recipientOf
    dsimp only
    rw [found, show truthy (.str bc.recipient) = true from decide_eq_true some_]
    rfl
  have able : Buildable t settings op := by
    constructor
    · exact ⟨_, given, by rw [recipient.stripped]; exact recipient.matches⟩
    · exact ⟨_, congrArg (intOf t) (getD_written written.chain _)⟩
    · exact ⟨_, congrArg (intOf t) (getD_written written.amount _)⟩
    · exact ⟨_, congrArg (intOf t) (getD_written written.fee _)⟩
    · exact ⟨_, congrArg (intOf t) (getD_written written.priorityFee _)⟩
    · exact ⟨_, bc.gas_floor, congrArg (intOf t) (getD_written written.gas _)⟩
    · exact ⟨_, getD_written written.authorization _⟩
    · exact ⟨_, getD_written written.mission _⟩
    · exact ⟨_, getD_written written.network _⟩
    · exact ⟨_, getD_written written.asset _⟩
    · refine ⟨_, getD_written written.token _, fun s same => ?_⟩
      rw [(token s same).stripped]
      exact (token s same).matches
    · exact ⟨_, getD_written written.data _⟩
  obtain ⟨tx, built⟩ := buildIntent_total (h := h) able
  refine ⟨tx, built, (sameTransaction_iff built).mpr ?_⟩
  constructor
  · exact congrArg (intOf t) (getD_written written.chain _)
  · exact getD_written written.network _
  · intro s given'
    obtain rfl := PyValue.str.inj (given.symm.trans given')
    rw [recipient.stripped, recipient.lowered]
  · exact congrArg (intOf t) (getD_written written.amount _)
  · exact getD_written written.data _
  · exact congrArg (intOf t) (getD_written written.gas _)
  · intro c stored
    obtain rfl := optionalStr_inj (stored.symm.trans (getD_written written.token .none))
    cases there : bc.tokenContract with
    | none => rfl
    | some s => rw [Option.map_some, (token s there).stripped, (token s there).lowered]

end Building

section Purchases
variable {r : ApprovalRules} {t : TextRules} {settings : ProviderSettings} {i : OrbioPurchaseIntent}
  {p : PurchasePreparation} {bc : BlockchainTransactionIntent} {op : ConsequentialOperation}

theorem contract_lower (u : UnicodeRules t) {v e : String}
    (valid : PurchaseBridge.validateContractAddress t v = .ok e) : LowerAddress t e := by
  unfold PurchaseBridge.validateContractAddress at valid
  split at valid
  · rename_i shaped
    rw [← Except.ok.inj valid]
    exact lowerAddress_of_match u shaped
  · cases valid

/-- The contracts of a purchase intent are addresses in lower case. -/
theorem newPurchaseIntent_addresses (u : UnicodeRules t) {f : PurchaseFields}
    (built : newPurchaseIntent t f = .ok i) :
    LowerAddress t i.exchangeContract ∧ LowerAddress t i.paymentToken := by
  unfold newPurchaseIntent at built
  obtain ⟨exchange, exchangeOk, built⟩ := bind_ok.mp built
  obtain ⟨payment, paymentOk, built⟩ := bind_ok.mp built
  obtain ⟨credit, -, built⟩ := bind_ok.mp built
  obtain ⟨usdgIn, -, built⟩ := bind_ok.mp built
  obtain ⟨least, -, built⟩ := bind_ok.mp built
  obtain ⟨beneficiary, -, built⟩ := bind_ok.mp built
  obtain ⟨fills, -, built⟩ := bind_ok.mp built
  obtain ⟨fee, -, built⟩ := bind_ok.mp built
  obtain ⟨priority, -, built⟩ := bind_ok.mp built
  obtain ⟨gas, -, built⟩ := bind_ok.mp built
  obtain ⟨credits, -, built⟩ := bind_ok.mp built
  split at built
  · rw [← Except.ok.inj built]
    exact ⟨contract_lower u exchangeOk, contract_lower u paymentOk⟩
  · cases built

/-- What a purchase intent authorises. -/
structure Projects (t : TextRules) (i : OrbioPurchaseIntent) (bc : BlockchainTransactionIntent) : Prop where
  chain : bc.chainId = i.chainId
  network : bc.network = i.network
  recipient : bc.recipient = i.exchangeContract
  value : bc.amountWei = 0
  calldata : encodeBuyAndActivateCalldata t i.usdgIn i.minCreditOut i.beneficiary i.maxFills = .ok bc.dataPayload
  gas : bc.gasLimit = i.gasLimit
  token : bc.tokenContract = some i.paymentToken
  mission : bc.missionId = i.missionId
  authorization : bc.authorizationTokenHash = i.authorizationTokenHash

theorem toBlockchainIntent_projects (exchange : LowerAddress t i.exchangeContract)
    (payment : LowerAddress t i.paymentToken) (projected : toBlockchainIntent t i = .ok bc) :
    Projects t i bc := by
  unfold toBlockchainIntent at projected
  obtain ⟨data, dataOk, projected⟩ := bind_ok.mp projected
  obtain ⟨recipient, recipientOk, projected⟩ := bind_ok.mp projected
  obtain ⟨token, tokenOk, projected⟩ := bind_ok.mp projected
  obtain ⟨gas, gasOk, projected⟩ := bind_ok.mp projected
  obtain rfl := Except.ok.inj ((exchange.validated _).symm.trans recipientOk)
  have token := (validateTokenContract_ok.mp tokenOk).2
  rw [Option.map_some, payment.stripped, payment.lowered] at token
  have gas := requireGas_ok gasOk
  obtain rfl := Except.ok.inj projected
  exact ⟨rfl, rfl, rfl, rfl, dataOk, by exact_mod_cast gas.symm, token, rfl, rfl⟩

/-- An allowed preparation holds the parameters of the authorised transaction. -/
theorem prepare_projects {decided : Except PyError PurchaseBridge.RecordedDecision}
    (prepared : PurchaseBridge.prepare r i decided = .ok p) (allowed : p.isAuthorized) :
    ∃ bc d, toBlockchainIntent r.text i = .ok bc ∧
      p.operationParameters = PurchaseBridge.operationParameters r i bc d := by
  unfold PurchaseBridge.prepare at prepared
  obtain ⟨decision, -, prepared⟩ := bind_ok.mp prepared
  dsimp only at prepared
  split at prepared
  · rename_i refused
    obtain rfl := Except.ok.inj prepared
    exact absurd allowed refused
  · obtain ⟨bc, projected, prepared⟩ := bind_ok.mp prepared
    obtain rfl := Except.ok.inj prepared
    exact ⟨bc, decision, projected, rfl⟩

theorem createOperationWith_parameters {org : Organisation}
    {proposalId decisionId idempotencyKey : Option String} {providerName uuidHex : String}
    (created : createOperationWith p org proposalId decisionId idempotencyKey providerName uuidHex = .ok op) :
    op.parameters = p.operationParameters := by
  unfold createOperationWith at created
  obtain ⟨made, madeOk, created⟩ := bind_ok.mp created
  split at created
  · cases created
  · obtain rfl := Except.ok.inj created
    exact (PurchaseBridge.createOperation_ok madeOk).2.1

theorem operationParameters_written {d : PurchaseBridge.RecordedDecision} (projects : Projects t i bc) :
    WrittenFrom (PurchaseBridge.operationParameters r i bc d) bc := by
  refine ⟨rfl, rfl, rfl, rfl, rfl, rfl, rfl, rfl, rfl, rfl, ?_, ?_⟩
  · rw [projects.mission]
    rfl
  · rw [projects.authorization]
    rfl

/-- The operation of an allowed purchase is built into the authorised transaction, and matches. -/
theorem purchase_agrees (u : UnicodeRules r.text) {f : PurchaseFields}
    (built : newPurchaseIntent r.text f = .ok i)
    {decided : Except PyError PurchaseBridge.RecordedDecision}
    (prepared : PurchaseBridge.prepare r i decided = .ok p) (allowed : p.isAuthorized)
    (same : op.parameters = p.operationParameters) :
    ∃ bc tx, toBlockchainIntent r.text i = .ok bc ∧ buildIntent r.toHashing r.text settings op = .ok tx ∧
      SameTransaction tx bc ∧ verifyOperationMatchesIntent r.toHashing r.text op i = .ok (true, none) := by
  obtain ⟨exchange, payment⟩ := newPurchaseIntent_addresses u built
  obtain ⟨bc, d, projected, params⟩ := prepare_projects prepared allowed
  have projects := toBlockchainIntent_projects exchange payment projected
  have written : WrittenFrom op.parameters bc := by
    rw [same, params]
    exact operationParameters_written projects
  obtain ⟨tx, sent, agrees⟩ := buildIntent_written r.toHashing settings op written
    (projects.recipient ▸ exchange) fun c there => by
      rw [projects.token] at there
      exact Option.some.inj there ▸ payment
  refine ⟨bc, tx, projected, sent, agrees, ?_⟩
  have stored : getD op.parameters "recipient" (.str "") = .str bc.recipient := getD_written written.recipient _
  rcases verify_cases r.toHashing op projects.calldata with ⟨-, differs⟩ | ⟨verdict, -, -⟩
  · refine absurd ⟨?_, getD_written written.data .none⟩ differs
    rw [same, params]
    rfl
  · rw [verdict]
    unfold recipientVerdict
    rw [stored, projects.recipient]
    dsimp only [lowerOf, bind, Except.bind]
    rw [if_neg (not_not.mpr rfl)]
    rfl

end Purchases

section Activations
variable {r : ApprovalRules} {t : TextRules} {settings : ProviderSettings} {i : OrbioCreditActivationIntent}
  {p : ActivationPreparation} {bc : BlockchainTransactionIntent} {op : ConsequentialOperation}

theorem newActivationIntent_address (u : UnicodeRules t) {f : ActivationFields}
    (built : newActivationIntent t f = .ok i) : LowerAddress t i.creditContract := by
  unfold newActivationIntent at built
  obtain ⟨contract, contractOk, built⟩ := bind_ok.mp built
  obtain ⟨amount, -, built⟩ := bind_ok.mp built
  obtain ⟨fee, -, built⟩ := bind_ok.mp built
  obtain ⟨priority, -, built⟩ := bind_ok.mp built
  obtain ⟨gas, -, built⟩ := bind_ok.mp built
  obtain ⟨credits, -, built⟩ := bind_ok.mp built
  split at built
  · rw [← Except.ok.inj built]
    unfold ActivationBridge.validateContract at contractOk
    split at contractOk
    · rename_i shaped
      rw [← Except.ok.inj contractOk]
      exact lowerAddress_of_match u shaped
    · cases contractOk
  · cases built

/-- The parameters of an activation are written from the authorised transaction. -/
theorem toOperationParameters_written (contract : LowerAddress t i.creditContract)
    (projected : ActivationBridge.toBlockchainIntent t i = .ok bc) {h : Hashing}
    {params : List (String × PyValue)} (written : ActivationBridge.toOperationParameters h i = .ok params)
    (more : List (String × PyValue)) :
    WrittenFrom (params ++ more) bc ∧ bc.recipient = i.creditContract ∧
      bc.tokenContract = some i.creditContract := by
  unfold ActivationBridge.toBlockchainIntent at projected
  obtain ⟨data, dataOk, projected⟩ := bind_ok.mp projected
  obtain ⟨recipient, recipientOk, projected⟩ := bind_ok.mp projected
  obtain ⟨token, tokenOk, projected⟩ := bind_ok.mp projected
  obtain ⟨gas, gasOk, projected⟩ := bind_ok.mp projected
  obtain rfl := Except.ok.inj ((contract.validated _).symm.trans recipientOk)
  have token := (validateTokenContract_ok.mp tokenOk).2
  rw [Option.map_some, contract.stripped, contract.lowered] at token
  have gas := requireGas_ok gasOk
  obtain rfl := Except.ok.inj projected
  unfold ActivationBridge.toOperationParameters at written
  obtain ⟨data', dataOk', written⟩ := bind_ok.mp written
  obtain rfl := Except.ok.inj (dataOk.symm.trans dataOk')
  obtain rfl := Except.ok.inj written
  refine ⟨⟨rfl, rfl, rfl, rfl, rfl, ?_, rfl, rfl, rfl, ?_, rfl, rfl⟩, rfl, token⟩
  · rw [token]
    rfl
  · show some (PyValue.int _) = some (PyValue.int _)
    rw [gas]

/-- The operation of an allowed activation is built into the authorised transaction. -/
theorem activation_agrees (u : UnicodeRules r.text) {f : ActivationFields}
    (built : newActivationIntent r.text f = .ok i) {decision : ActivationBridge.RecordedDecision}
    (prepared : ActivationBridge.prepare r i decision = .ok p) (allowed : p.isAuthorized)
    (same : op.parameters = p.operationParameters) :
    ∃ bc tx, ActivationBridge.toBlockchainIntent r.text i = .ok bc ∧
      buildIntent r.toHashing r.text settings op = .ok tx ∧ SameTransaction tx bc := by
  have contract := newActivationIntent_address u built
  unfold ActivationBridge.prepare at prepared
  dsimp only at prepared
  split at prepared
  · rename_i refused
    obtain rfl := Except.ok.inj prepared
    exact absurd allowed refused
  · obtain ⟨bc, projected, prepared⟩ := bind_ok.mp prepared
    obtain ⟨params, paramsOk, prepared⟩ := bind_ok.mp prepared
    obtain rfl := Except.ok.inj prepared
    obtain ⟨written, recipient, token⟩ := toOperationParameters_written contract projected paramsOk
      [("policy_decision", .dict decision.toAuditDict)]
    obtain ⟨tx, sent, agrees⟩ := buildIntent_written r.toHashing settings op
      (same ▸ written) (recipient ▸ contract) fun c there => by
        rw [token] at there
        exact Option.some.inj there ▸ contract
    exact ⟨bc, tx, projected, sent, agrees⟩

theorem createOperation_parameters {org : Organisation}
    {proposalId decisionId idempotencyKey : Option String} {providerName uuidHex : String}
    (created : ActivationBridge.createOperationFromPreparation p org proposalId decisionId idempotencyKey
      providerName uuidHex = .ok op) : op.parameters = p.operationParameters := by
  unfold ActivationBridge.createOperationFromPreparation at created
  split at created
  · cases created
  · split at created
    · cases created
    · rw [← Except.ok.inj created]

end Activations

section Matching
variable (r : ApprovalRules) (settings : ProviderSettings)

/-- What the check does not compare comes to what the intent authorises: chain, network, value, gas
limit and token contract, and the target where it stands for a recipient that is no text. -/
structure Untouched (t : TextRules) (op : ConsequentialOperation) (i : OrbioPurchaseIntent) : Prop where
  chain : intOf t (getD op.parameters "chain_id" (.int settings.defaultChainId)) = .ok i.chainId
  network : getD op.parameters "network" (.str settings.networkName) = .str i.network
  value : intOf t (getD op.parameters "amount_wei" (.int 0)) = .ok 0
  gas : intOf t (getD op.parameters "gas_limit" (.int 21000)) = .ok (i.gasLimit : ℤ)
  token : ∃ s, get op.parameters "token_contract" = .str s ∧
    t.lower (String.ofList (strip t s.toList)) = i.paymentToken
  target : (∀ s, getD op.parameters "recipient" (.str "") ≠ .str s) →
    ∀ s, recipientOf op.parameters op.target = .str s →
      t.lower (String.ofList (strip t s.toList)) = i.exchangeContract

/-- The operations that the two bridges make are built into the authorised transactions, the match
check accepts the one of the purchase, and it refuses the operation given where that is built into
another transaction. -/
structure Agreement (i : OrbioPurchaseIntent) (p : PurchasePreparation) (j : OrbioCreditActivationIntent)
    (q : ActivationPreparation) (op : ConsequentialOperation) : Prop where
  made : ∀ org proposalId decisionId idempotencyKey providerName uuidHex o,
    createOperationWith p org proposalId decisionId idempotencyKey providerName uuidHex = .ok o →
    ∃ bc tx, toBlockchainIntent r.text i = .ok bc ∧ buildIntent r.toHashing r.text settings o = .ok tx ∧
      SameTransaction tx bc ∧ verifyOperationMatchesIntent r.toHashing r.text o i = .ok (true, none)
  refused : ∀ bc tx, toBlockchainIntent r.text i = .ok bc →
    buildIntent r.toHashing r.text settings op = .ok tx → ¬SameTransaction tx bc →
    ∃ why, verifyOperationMatchesIntent r.toHashing r.text op i = .ok (false, some why)
  activated : ∀ org proposalId decisionId idempotencyKey providerName uuidHex o,
    ActivationBridge.createOperationFromPreparation q org proposalId decisionId idempotencyKey
      providerName uuidHex = .ok o →
    ∃ bc tx, ActivationBridge.toBlockchainIntent r.text j = .ok bc ∧
      buildIntent r.toHashing r.text settings o = .ok tx ∧ SameTransaction tx bc

variable {r settings} {i : OrbioPurchaseIntent} {bc : BlockchainTransactionIntent} {op : ConsequentialOperation}

theorem lookup_of_get {params : List (String × PyValue)} {key s : String}
    (stored : get params key = .str s) : params.lookup key = some (.str s) := by
  unfold PythonValues.get at stored
  cases found : params.lookup key with
  | none =>
    rw [found] at stored
    cases stored
  | some v =>
    rw [found] at stored
    exact congrArg some stored

/-- A recipient that passes the comparison is the one that is built in. -/
theorem recipient_compared (u : UnicodeRules r.text) (exchange : LowerAddress r.text i.exchangeContract)
    {s s' : String} (stored : getD op.parameters "recipient" (.str "") = .str s)
    (same : r.text.lower s = r.text.lower i.exchangeContract)
    (given : recipientOf op.parameters op.target = .str s') :
    r.text.lower (String.ofList (strip r.text s'.toList)) = i.exchangeContract := by
  rw [exchange.lowered] at same
  have some_ : s ≠ "" := by
    rintro rfl
    have empty : r.text.lower "" = "" := u.lower_ascii "" fun c mem => by cases mem
    have address := exchange.address
    rw [← same, empty] at address
    exact absurd address (by decide)
  have found : get op.parameters "recipient" = .str s := by
    unfold PythonValues.getD at stored
    unfold PythonValues.get
    cases there : op.parameters.lookup "recipient" with
    | none =>
      rw [there] at stored
      exact absurd (PyValue.str.inj stored).symm some_
    | some v =>
      rw [there] at stored
      exact stored
  unfold recipientOf at given
  dsimp only at given
  rw [found, show truthy (.str s) = true from decide_eq_true some_] at given
  obtain rfl := PyValue.str.inj given
  rw [exchange.recipient u same, same]

theorem readAs_iff (u : UnicodeRules r.text) (exchange : LowerAddress r.text i.exchangeContract)
    (projects : Projects r.text i bc) (able : Buildable r.text settings op)
    (compared : Compared r.toHashing r.text op i) :
    ReadAs r.text settings op bc ↔ Untouched settings r.text op i := by
  constructor
  · intro as
    obtain ⟨c, stored, -⟩ := able.token
    have token := as.token c stored
    rw [projects.token] at token
    obtain ⟨s, rfl, lowered⟩ := Option.map_eq_some_iff.mp token.symm
    refine ⟨projects.chain ▸ as.chain, projects.network ▸ as.network, ?_, projects.gas ▸ as.gas,
      ⟨s, stored, lowered⟩, fun _ s' given => ?_⟩
    · rw [as.value, projects.value]
      rfl
    · rw [as.recipient s' given, projects.recipient]
  · intro untouched
    refine ⟨projects.chain ▸ untouched.chain, projects.network ▸ untouched.network, fun s given => ?_, ?_, ?_,
      projects.gas ▸ untouched.gas, fun c stored => ?_⟩
    · rw [projects.recipient]
      by_cases text : ∃ s', getD op.parameters "recipient" (.str "") = .str s'
      · obtain ⟨s', stored⟩ := text
        exact recipient_compared u exchange stored (compared.recipient s' stored) given
      · exact untouched.target (fun s' stored => text ⟨s', stored⟩) s given
    · rw [untouched.value, projects.value]
      rfl
    · obtain ⟨data, encoded, stored⟩ := compared.calldata
      obtain rfl := Except.ok.inj (encoded.symm.trans projects.calldata)
      exact getD_written (lookup_of_get stored) _
    · obtain ⟨s, stored', lowered⟩ := untouched.token
      obtain rfl : c = some s := optionalStr_inj (stored.symm.trans stored')
      rw [projects.token, Option.map_some, lowered]

/-- For every allowed purchase and activation and every operation: the operations of the bridges are
built into the authorised transactions, the purchase's matches, and the other operation is refused
where it is built into another transaction, if and only if what is not compared has not been touched
in it, should it pass the comparisons and make a transaction. -/
theorem agreement_iff (u : UnicodeRules r.text) {f : PurchaseFields}
    (built : newPurchaseIntent r.text f = .ok i)
    {decided : Except PyError PurchaseBridge.RecordedDecision} {p : PurchasePreparation}
    (prepared : PurchaseBridge.prepare r i decided = .ok p) (allowed : p.isAuthorized)
    {g : ActivationFields} {j : OrbioCreditActivationIntent} (built' : newActivationIntent r.text g = .ok j)
    {decision : ActivationBridge.RecordedDecision} {q : ActivationPreparation}
    (prepared' : ActivationBridge.prepare r j decision = .ok q) (allowed' : q.isAuthorized)
    (op : ConsequentialOperation) :
    Agreement r settings i p j q op ↔
      (Compared r.toHashing r.text op i → Buildable r.text settings op → Untouched settings r.text op i) := by
  obtain ⟨exchange, payment⟩ := newPurchaseIntent_addresses u built
  obtain ⟨bc, d, projected, -⟩ := prepare_projects prepared allowed
  have projects := toBlockchainIntent_projects exchange payment projected
  constructor
  · intro agreement compared able
    obtain ⟨tx, sent⟩ := buildIntent_total (h := r.toHashing) able
    by_contra touched
    refine (refused_iff projects.calldata).mp (agreement.refused bc tx projected sent fun same => ?_) compared
    exact touched ((readAs_iff u exchange projects able compared).mp ((sameTransaction_iff sent).mp same))
  · intro untouched
    refine ⟨fun org _ _ _ _ _ o created => ?_, fun bc' tx projected' sent differs => ?_,
      fun org _ _ _ _ _ o created => ?_⟩
    · exact purchase_agrees u built prepared allowed (createOperationWith_parameters created)
    · obtain rfl := Except.ok.inj (projected.symm.trans projected')
      refine (refused_iff projects.calldata).mpr fun compared => differs ((sameTransaction_iff sent).mpr ?_)
      have able := (buildIntent_buildable sent).1
      exact (readAs_iff u exchange projects able compared).mpr (untouched compared able)
    · exact activation_agrees u built' prepared' allowed' (createOperation_parameters created)

end Matching

section Sample

/-- The digests of the texts the sample puts in. -/
def sampleRules : ApprovalRules where
  sha256 s :=
    if s = "a" then "ca978112ca1bbdcafac231b39a23dc4da786eff8147c4e72b9807785afee48bb"
    else if s.length = 711 then "53e2ccd3d862cdd8a7797e6d335200c340abd315fcdf1b81f491baa0c8ff692a"
    else "43bf68894876c28e378c9a0e8070710c513eeb099e250798b5adc13e7d0589ad"
  reprFloat _ := "0.0"
  hmac _ _ := ""
  add f _ := f
  text := asciiRules fun _ => "0.0"

theorem sampleRules_unicode : UnicodeRules sampleRules.text := unicodeRules_ascii _

def purchaseFields : PurchaseFields where
  tenantId := "t"
  organisationId := "o"
  operationId := "op"
  chainId := 4663
  network := "robinhood-mainnet"
  usdgIn := 2000000
  minCreditOut := 1900000
  beneficiary := "0x0000000000000000000000000000000000000001"
  idempotencyKey := "k"
  policyDecisionId := "d"
  authorizationTokenHash := "a"

def activationFields : ActivationFields where
  tenantId := "t"
  organisationId := "o"
  operationId := "op"
  amount := 1000000
  idempotencyKey := "k"
  policyDecisionId := "d"
  authorizationTokenHash := "a"

theorem sample_addresses : ∀ e ∈ [PurchasePolicy.orbioExchangeMainnet, PurchasePolicy.usdgMainnet,
    PurchasePolicy.orbioCreditMainnet, purchaseFields.beneficiary], LowerAddress sampleRules.text e := by
  have texts : ∀ e ∈ [PurchasePolicy.orbioExchangeMainnet, PurchasePolicy.usdgMainnet,
      PurchasePolicy.orbioCreditMainnet, purchaseFields.beneficiary],
      isHexText 40 e = true ∧ e.toList.map Char.toLower = e.toList := by
    decide +kernel
  exact fun e mem => lowerAddress_of_text sampleRules_unicode (texts e mem).1 (texts e mem).2

theorem validateContractAddress_lower {t : TextRules} {e : String} (e_ : LowerAddress t e) :
    PurchaseBridge.validateContractAddress t e = .ok e := by
  unfold PurchaseBridge.validateContractAddress PurchaseBridge.stripLower
  rw [e_.stripped, e_.lowered, if_pos e_.matches]

theorem exchange_lower : LowerAddress sampleRules.text PurchasePolicy.orbioExchangeMainnet :=
  sample_addresses _ (by simp)

theorem payment_lower : LowerAddress sampleRules.text PurchasePolicy.usdgMainnet :=
  sample_addresses _ (by simp)

theorem credit_lower : LowerAddress sampleRules.text PurchasePolicy.orbioCreditMainnet :=
  sample_addresses _ (by simp)

theorem beneficiary_lower : LowerAddress sampleRules.text purchaseFields.beneficiary :=
  sample_addresses _ (by simp)

def samplePurchase : OrbioPurchaseIntent where
  tenantId := "t"
  organisationId := "o"
  missionId := none
  operationId := "op"
  chainId := 4663
  network := "robinhood-mainnet"
  exchangeContract := PurchasePolicy.orbioExchangeMainnet
  paymentToken := PurchasePolicy.usdgMainnet
  creditToken := PurchasePolicy.orbioCreditMainnet
  usdgIn := 2000000
  minCreditOut := 1900000
  beneficiary := purchaseFields.beneficiary
  maxFills := 10
  maxFeePerGas := 25000000000
  maxPriorityFeePerGas := 1500000000
  gasLimit := 350000
  amountCredits := 0
  idempotencyKey := "k"
  policyDecisionId := "d"
  authorizationTokenHash := "a"
  deadline := none
  some_amount := by decide
  beneficiary_shape := .inl beneficiary_lower.address

theorem samplePurchase_built : newPurchaseIntent sampleRules.text purchaseFields = .ok samplePurchase := by
  have beneficiary : PurchaseBridge.validateBeneficiary sampleRules.text purchaseFields.beneficiary =
      .ok ⟨purchaseFields.beneficiary, .inl beneficiary_lower.address⟩ := by
    have same : PurchaseBridge.stripLower sampleRules.text purchaseFields.beneficiary =
        purchaseFields.beneficiary := by
      unfold PurchaseBridge.stripLower
      rw [beneficiary_lower.stripped, beneficiary_lower.lowered]
    unfold PurchaseBridge.validateBeneficiary
    split
    · exact congrArg Except.ok (Subtype.ext same)
    · rename_i shapeless
      rw [same] at shapeless
      exact absurd (.inl beneficiary_lower.address) shapeless
  unfold newPurchaseIntent
  rw [show purchaseFields.exchangeContract = PurchasePolicy.orbioExchangeMainnet from rfl,
    show purchaseFields.paymentToken = PurchasePolicy.usdgMainnet from rfl,
    show purchaseFields.creditToken = PurchasePolicy.orbioCreditMainnet from rfl,
    validateContractAddress_lower exchange_lower, validateContractAddress_lower payment_lower,
    validateContractAddress_lower credit_lower, beneficiary]
  rfl

def sampleActivation : OrbioCreditActivationIntent where
  tenantId := "t"
  organisationId := "o"
  missionId := none
  operationId := "op"
  chainId := 4663
  network := "robinhood-mainnet"
  creditContract := PurchasePolicy.orbioCreditMainnet
  amount := 1000000
  beneficiary := none
  maxFeePerGas := 25000000000
  maxPriorityFeePerGas := 1500000000
  gasLimit := 150000
  amountCredits := 0
  idempotencyKey := "k"
  policyDecisionId := "d"
  authorizationTokenHash := "a"
  deadline := none
  positive := ActivationPolicy.oneCredit_pos

theorem sampleActivation_built :
    newActivationIntent sampleRules.text activationFields = .ok sampleActivation := by
  unfold newActivationIntent ActivationBridge.validateContract PurchaseBridge.stripLower
  rw [show activationFields.creditContract = PurchasePolicy.orbioCreditMainnet from rfl,
    credit_lower.stripped, credit_lower.lowered, if_pos credit_lower.matches]
  rfl

def purchaseAllowed : PurchaseBridge.RecordedDecision :=
  ⟨⟨.allow, "POLICY-ORBIO-PURCHASE-01", "v", "h", [], [], false, 5000000, 25000000⟩, "d", "now"⟩

def activationAllowed : ActivationBridge.RecordedDecision :=
  ⟨⟨.allow, "POLICY-ORBIO-ACTIVATION-01", "v", "h", [], [], false, 1000000⟩, "d", "now"⟩

theorem samplePurchase_prepared : ∃ p, PurchaseBridge.prepare sampleRules samplePurchase (.ok purchaseAllowed) =
    .ok p ∧ p.isAuthorized := by
  have data : ∃ data, encodeBuyAndActivateCalldata sampleRules.text samplePurchase.usdgIn
      samplePurchase.minCreditOut samplePurchase.beneficiary samplePurchase.maxFills = .ok data := by
    unfold encodeBuyAndActivateCalldata PurchasePolicy.addressToBeneficiaryBytes32
    dsimp only
    rw [show samplePurchase.beneficiary = purchaseFields.beneficiary from rfl, beneficiary_lower.stripped,
      beneficiary_lower.lowered, if_pos beneficiary_lower.matches, beneficiary_lower.stripped,
      beneficiary_lower.lowered, if_pos beneficiary_lower.matches]
    exact ⟨_, rfl⟩
  obtain ⟨data, encoded⟩ := data
  unfold PurchaseBridge.prepare toBlockchainIntent validateRecipient
  rw [encoded, show samplePurchase.exchangeContract = PurchasePolicy.orbioExchangeMainnet from rfl,
    show samplePurchase.paymentToken = PurchasePolicy.usdgMainnet from rfl, exchange_lower.validated,
    payment_lower.token]
  exact ⟨_, rfl, rfl⟩

theorem sampleActivation_prepared : ∃ q, ActivationBridge.prepare sampleRules sampleActivation activationAllowed =
    .ok q ∧ q.isAuthorized := by
  unfold ActivationBridge.prepare ActivationBridge.toBlockchainIntent validateRecipient
  rw [show sampleActivation.creditContract = PurchasePolicy.orbioCreditMainnet from rfl,
    credit_lower.validated, credit_lower.token]
  exact ⟨_, rfl, rfl⟩

/-- The purchase's operation, with another chain in front of its parameters. -/
def mutated (p : PurchasePreparation) : ConsequentialOperation where
  id := "cop-1"
  tenantId := "t"
  organisationId := "o"
  proposalId := "prop-op"
  decisionId := "d"
  idempotencyKey := "k"
  actionType := .orbioCreditPurchase
  target := PurchaseBridge.exchangeTarget samplePurchase
  parameters := ("chain_id", .int 1) :: p.operationParameters
  amount := 0
  providerName := "blockchain"
  providerReference := none
  state := .created
  errorMessage := none

theorem mutated_agreement_iff : ∃ p q,
    PurchaseBridge.prepare sampleRules samplePurchase (.ok purchaseAllowed) = .ok p ∧
    ActivationBridge.prepare sampleRules sampleActivation activationAllowed = .ok q ∧
    (Agreement sampleRules {} samplePurchase p sampleActivation q (mutated p) ↔
      (Compared sampleRules.toHashing sampleRules.text (mutated p) samplePurchase →
        Buildable sampleRules.text {} (mutated p) → Untouched {} sampleRules.text (mutated p) samplePurchase)) := by
  obtain ⟨p, prepared, allowed⟩ := samplePurchase_prepared
  obtain ⟨q, prepared', allowed'⟩ := sampleActivation_prepared
  exact ⟨p, q, prepared, prepared', agreement_iff sampleRules_unicode samplePurchase_built prepared allowed
    sampleActivation_built prepared' allowed' (mutated p)⟩

/-- The match check takes an operation that is built into a transaction for another chain. -/
theorem mutated_chain_accepted : ∃ p q tx,
    PurchaseBridge.prepare sampleRules samplePurchase (.ok purchaseAllowed) = .ok p ∧
    ActivationBridge.prepare sampleRules sampleActivation activationAllowed = .ok q ∧
    buildIntent sampleRules.toHashing sampleRules.text {} (mutated p) = .ok tx ∧ tx.chainId = 1 ∧
    ¬Agreement sampleRules {} samplePurchase p sampleActivation q (mutated p) := by
  obtain ⟨p, prepared, allowed⟩ := samplePurchase_prepared
  obtain ⟨q, prepared', -⟩ := sampleActivation_prepared
  obtain ⟨bc, d, projected, params⟩ := prepare_projects prepared allowed
  have projects := toBlockchainIntent_projects exchange_lower payment_lower projected
  have moved : (mutated p).parameters =
      ("chain_id", .int 1) :: PurchaseBridge.operationParameters sampleRules samplePurchase bc d :=
    congrArg _ params
  have compared : Compared sampleRules.toHashing sampleRules.text (mutated p) samplePurchase := by
    refine ⟨?_, ⟨bc.dataPayload, projects.calldata, ?_⟩, fun s stored => ?_⟩
    · rw [moved]
      rfl
    · rw [moved]
      rfl
    · rw [moved] at stored
      obtain rfl := PyValue.str.inj stored
      exact congrArg _ projects.recipient
  have written : WrittenFrom (mutated p).parameters { bc with chainId := 1 } := by
    rw [moved]
    obtain ⟨recipient, amount, -, network, data, token, asset, fee, priorityFee, gas, mission, authorization⟩ :=
      operationParameters_written (r := sampleRules) (d := d) projects
    exact ⟨recipient, amount, rfl, network, data, token, asset, fee, priorityFee, gas, mission, authorization⟩
  have recipient : LowerAddress sampleRules.text bc.recipient := by
    rw [projects.recipient]
    exact exchange_lower
  obtain ⟨tx, built, same⟩ := buildIntent_written sampleRules.toHashing {} (mutated p) written
    recipient fun c there => by
      obtain rfl := Option.some.inj (projects.token.symm.trans there)
      exact payment_lower
  refine ⟨p, q, tx, prepared, prepared', built, same.chain, fun agreement => ?_⟩
  refine (refused_iff projects.calldata).mp (agreement.refused bc tx projected built fun agrees => ?_) compared
  have chain : (1 : ℤ) = 4663 := same.chain.symm.trans (agrees.chain.trans projects.chain)
  exact absurd chain (by decide)

end Sample

end IntentProjections
