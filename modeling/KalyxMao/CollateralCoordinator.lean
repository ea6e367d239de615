import KalyxMao.KeyedLists
import KalyxMao.WorkOrders

/-!
# Collateral behind an obligation

The coordinator locks collateral for an obligation, has the deliverable of a
work order verified, and releases or forfeits the collateral. The position
object moves ahead of the vault: it records the verdict, then the vault is
asked, then it records the settlement.
-/

namespace CollateralCoordinator
open PythonText PythonValues Domain KeyedLists WorkOrders

section Positions

inductive CollateralStatus where
  | proposed
  | authorized
  | locked
  | obligationActive
  | verifiedSuccess
  | verifiedFailure
  | released
  | forfeited
  deriving DecidableEq

def CollateralStatus.value : CollateralStatus → String
  | .proposed => "PROPOSED"
  | .authorized => "AUTHORIZED"
  | .locked => "LOCKED"
  | .obligationActive => "OBLIGATION_ACTIVE"
  | .verifiedSuccess => "VERIFIED_SUCCESS"
  | .verifiedFailure => "VERIFIED_FAILURE"
  | .released => "RELEASED"
  | .forfeited => "FORFEITED"

/-- `_ALLOWED_TRANSITIONS`. -/
def allowedTransitions : CollateralStatus → List CollateralStatus
  | .proposed => [.authorized]
  | .authorized => [.locked]
  | .locked => [.obligationActive]
  | .obligationActive => [.verifiedSuccess, .verifiedFailure]
  | .verifiedSuccess => [.released]
  | .verifiedFailure => [.forfeited]
  | .released => []
  | .forfeited => []

structure CreditCollateralPosition where
  tenantId : String
  organisationId : String
  positionId : String
  obligationReference : String
  pledgingOrgId : String
  beneficiaryOrgId : String
  amount : Int
  status : CollateralStatus
  onchainTxHash : Option String
  settlementTxHash : Option String
  authorizationEvidenceHash : Option String
  verificationEvidenceHash : Option String

/-- The arguments of `propose_and_lock`. -/
structure LockRequest where
  tenantId : String
  organisationId : String
  obligationReference : String
  pledgingOrgId : String
  pledgingOrgWalletAddress : String
  beneficiaryOrgId : String
  beneficiaryWalletAddress : String
  amountAtoms : Int
  policyAuthorizationEvidenceHash : String

namespace CreditCollateralPosition

def create (q : LockRequest) (positionId : String) : Except PyError CreditCollateralPosition :=
  if q.amountAtoms ≤ 0 then .error ⟨.valueError, "collateral amount must be positive"⟩
  else if q.pledgingOrgId = q.beneficiaryOrgId then
    .error ⟨.valueError, "pledging_org_id and beneficiary_org_id must differ"⟩
  else
    .ok
      { tenantId := q.tenantId
        organisationId := q.organisationId
        positionId := positionId
        obligationReference := q.obligationReference
        pledgingOrgId := q.pledgingOrgId
        beneficiaryOrgId := q.beneficiaryOrgId
        amount := q.amountAtoms
        status := .proposed
        onchainTxHash := none
        settlementTxHash := none
        authorizationEvidenceHash := none
        verificationEvidenceHash := none }

variable (p : CreditCollateralPosition)

def transition (target : CollateralStatus) (actor : String) :
    Except PyError CreditCollateralPosition :=
  if p.status = .released ∨ p.status = .forfeited then
    .error ⟨.valueError,
      s!"position {p.positionId} is terminal ({p.status.value}); rejected replayed transition to {target.value} by {actor}"⟩
  else if target ∉ allowedTransitions p.status then
    .error ⟨.valueError,
      s!"illegal transition {p.status.value} -> {target.value} for position {p.positionId}"⟩
  else .ok { p with status := target }

def authorize (evidenceHash : String) : Except PyError CreditCollateralPosition := do
  let p ← p.transition .authorized "policy_engine"
  return { p with authorizationEvidenceHash := some evidenceHash }

def lock (onchainTxHash : String) : Except PyError CreditCollateralPosition := do
  let p ← p.transition .locked "collateral_adapter"
  return { p with onchainTxHash := some onchainTxHash }

def activateObligation : Except PyError CreditCollateralPosition :=
  p.transition .obligationActive "marketplace_coordinator"

def recordVerification (success : Bool) (evidenceHash : String) :
    Except PyError CreditCollateralPosition := do
  let p ← p.transition (if success then .verifiedSuccess else .verifiedFailure) "auditor"
  return { p with verificationEvidenceHash := some evidenceHash }

def settle (settlementTxHash : String) : Except PyError CreditCollateralPosition :=
  let settled (target : CollateralStatus) : Except PyError CreditCollateralPosition := do
    let p ← p.transition target "settlement"
    return { p with settlementTxHash := some settlementTxHash }
  match p.status with
  | .verifiedSuccess => settled .released
  | .verifiedFailure => settled .forfeited
  | _ => .error ⟨.valueError,
      s!"cannot settle position {p.positionId} from status {p.status.value}; must be VERIFIED_SUCCESS or VERIFIED_FAILURE"⟩

end CreditCollateralPosition

end Positions

section Vaults

inductive VaultState where
  | locked
  | released
  | forfeited
  deriving DecidableEq

def VaultState.value : VaultState → String
  | .locked => "LOCKED"
  | .released => "RELEASED"
  | .forfeited => "FORFEITED"

structure VaultPosition where
  positionId : String
  pledger : String
  beneficiary : String
  amount : Int
  state : VaultState

abbrev Vault := List VaultPosition

variable (r : SigningRules) (v : Vault)

def simTxHash (op positionId : String) : String :=
  "sim-" ++ r.short s!"sim|{op}|{positionId}"

def vaultLock (positionId pledger beneficiary : String) (amount : Int) :
    Except PyError (String × Vault) :=
  if (lookupBy (·.positionId) v positionId).isSome then
    .error ⟨.valueError, s!"simulated position {positionId} already exists"⟩
  else if amount ≤ 0 then .error ⟨.valueError, "collateral amount must be positive"⟩
  else if beneficiary = "" then .error ⟨.valueError, "beneficiary is required"⟩
  else .ok (simTxHash r "lock" positionId, v ++ [⟨positionId, pledger, beneficiary, amount, .locked⟩])

def requireLocked (positionId : String) : Except PyError VaultPosition :=
  match lookupBy (·.positionId) v positionId with
  | none => .error ⟨.valueError, s!"simulated position {positionId} not found"⟩
  | some pos =>
    if pos.state ≠ .locked then
      .error ⟨.valueError,
        s!"simulated position {positionId} is {pos.state.value}, not LOCKED; rejected replayed or out-of-sequence settlement call"⟩
    else .ok pos

/-- `release` and `forfeit`: a locked position leaves for good. -/
def vaultSettle (op : String) (state : VaultState) (positionId : String) :
    Except PyError (String × Vault) := do
  let pos ← requireLocked v positionId
  return (simTxHash r op positionId, replaceBy (·.positionId) v { pos with state })

def vaultRelease (positionId : String) : Except PyError (String × Vault) :=
  vaultSettle r v "release" .released positionId

def vaultForfeit (positionId : String) : Except PyError (String × Vault) :=
  vaultSettle r v "forfeit" .forfeited positionId

def stateOf (positionId : String) : Option VaultState :=
  (lookupBy (·.positionId) v positionId).map (·.state)

/-- How a call of the adapter ends: with the vault's own answer, or raising, with the vault
changed or not (a transaction may be mined though waiting for it timed out). -/
inductive VaultAnswer where
  | returns
  | raises (applied : Bool) (error : PyError)

def VaultAnswer.perform (answer : VaultAnswer) (call : Except PyError (String × Vault)) :
    Except PyError String × Vault :=
  match answer, call with
  | .returns, .ok (tx, v') => (.ok tx, v')
  | .returns, .error e => (.error e, v)
  | .raises true e, .ok (_, v') => (.error e, v')
  | .raises _ e, _ => (.error e, v)

end Vaults

section Coordinator
variable (r : SigningRules) (verifier : WorkDeliverableVerifier)

/-- `propose_and_lock`: the position that is returned, and the vault. -/
def proposeAndLock (q : LockRequest) (validator : Except PyError Bool) (uuidHex : String)
    (answer : VaultAnswer) (v : Vault) : Except PyError CreditCollateralPosition × Vault :=
  if q.policyAuthorizationEvidenceHash = "" then
    (.error ⟨.permissionError, "collateral lock requires policy authorization evidence"⟩, v)
  else
    let prepared : Except PyError CreditCollateralPosition := do
      let authorized ← validator
      if !authorized then
        .error ⟨.permissionError,
          "collateral lock rejected: policy authorization could not be verified"⟩
      else
        let position ← CreditCollateralPosition.create q s!"collateral-{uuidHex}"
        position.authorize q.policyAuthorizationEvidenceHash
    match prepared with
    | .error e => (.error e, v)
    | .ok position =>
      let asked := answer.perform v (vaultLock r v position.positionId q.pledgingOrgWalletAddress
        q.beneficiaryWalletAddress q.amountAtoms)
      (do
        let tx ← asked.1
        let position ← position.lock tx
        position.activateObligation, asked.2)

/-- `settle_from_verification`: the position as it is left, the vault, and what is returned. -/
def settleFromVerification (p : CreditCollateralPosition) (w : WorkOrder) (d : WorkDeliverable)
    (receiptId : String) (answer : VaultAnswer) (v : Vault) :
    CreditCollateralPosition × Vault × Except PyError WorkDeliverableReceipt :=
  let receipt := verifier.verify r w d receiptId
  match p.recordVerification (receipt.status = .accepted) receipt.evidenceHash with
  | .error e => (p, v, .error e)
  | .ok p =>
    let asked := answer.perform v
      (if p.status = .verifiedSuccess then vaultRelease r v p.positionId
        else vaultForfeit r v p.positionId)
    match asked.1 with
    | .error e => (p, asked.2, .error e)
    | .ok tx =>
      match p.settle tx with
      | .error e => (p, asked.2, .error e)
      | .ok p => (p, asked.2, .ok receipt)

/-- A release or forfeiture in the vault, with what it was done on. -/
structure Settlement where
  index : Nat
  order : WorkOrder
  receipt : WorkDeliverableReceipt
  state : VaultState

/-- The positions handed out so far, the vault, and a record of what left it. -/
structure Desk where
  positions : List CreditCollateralPosition
  vault : Vault
  settlements : List Settlement

inductive Step where
  | propose (q : LockRequest) (validator : Except PyError Bool) (uuidHex : String)
    (answer : VaultAnswer)
  | settle (index : Nat) (w : WorkOrder) (d : WorkDeliverable) (receiptId : String)
    (answer : VaultAnswer)

/-- What the vault did to a position in between, if anything. -/
def settlementOf (before after : Vault) (positionId : String) (index : Nat) (w : WorkOrder)
    (receipt : WorkDeliverableReceipt) : List Settlement :=
  match stateOf after positionId with
  | none => []
  | some state =>
    if stateOf before positionId = some state then [] else [⟨index, w, receipt, state⟩]

def Desk.after (k : Desk) : Step → Desk
  | .propose q validator uuidHex answer =>
    let (proposed, vault) := proposeAndLock r q validator uuidHex answer k.vault
    { k with
      positions := k.positions ++ proposed.toOption.toList
      vault := vault }
  | .settle index w d receiptId answer =>
    match k.positions[index]? with
    | none => k
    | some p =>
      let (p', vault, _) := settleFromVerification r verifier p w d receiptId answer k.vault
      { positions := k.positions.set index p'
        vault := vault
        settlements := k.settlements ++ settlementOf k.vault vault p.positionId index w
          (verifier.verify r w d receiptId) }

def Desk.empty : Desk := ⟨[], [], []⟩

end Coordinator

section Property
variable (r : SigningRules) (verifier : WorkDeliverableVerifier)

/-- The work order a position backs, in the position's own tenant and organisation. -/
structure BoundTo (p : CreditCollateralPosition) (w : WorkOrder) : Prop where
  obligation : w.workOrderId = p.obligationReference
  tenant : w.tenantId = p.tenantId
  organisation : w.organisationId = p.organisationId

/-- Where the vault has to stand when no call is in progress. -/
def CollateralStatus.vaultState : CollateralStatus → VaultState
  | .released => .released
  | .forfeited => .forfeited
  | _ => .locked

def CollateralStatus.midSettlement (s : CollateralStatus) : Prop :=
  s = .verifiedSuccess ∨ s = .verifiedFailure

/-- Some call settles the position once the vault answers again. -/
def Completes (p : CreditCollateralPosition) (v : Vault) : Prop :=
  ∃ w d receiptId receipt, (settleFromVerification r verifier p w d receiptId .returns v).2.2 = .ok receipt

/-- What is asked of every state. -/
structure Faithful (k : Desk) : Prop where
  bound : ∀ e ∈ k.settlements, ∃ p, k.positions[e.index]? = some p ∧ BoundTo p e.order ∧
    e.receipt.workOrderId = p.obligationReference ∧
    (e.state = .released ∧ e.receipt.status = .accepted ∨
      e.state = .forfeited ∧ e.receipt.status = .rejected)
  agree : ∀ p ∈ k.positions, stateOf k.vault p.positionId = some p.status.vaultState
  once : ∀ index, (k.settlements.filter fun e => e.index = index).length ≤ 1
  retriable : ∀ p ∈ k.positions, p.status.midSettlement → Completes r verifier p k.vault

/-- The settlement of a position still active is given the position's own work order, and the
vault answers it. -/
def Step.Meets (k : Desk) : Step → Prop
  | .propose _ _ _ _ => True
  | .settle index w _ _ answer => ∀ p, k.positions[index]? = some p → p.status = .obligationActive →
      BoundTo p w ∧ answer = .returns

/-- Every state of a run is faithful. -/
def FaithfulRun (k : Desk) : List Step → Prop
  | [] => Faithful r verifier k
  | step :: rest => Faithful r verifier k ∧ FaithfulRun (k.after r verifier step) rest

def MeetsRun (k : Desk) : List Step → Prop
  | [] => True
  | step :: rest => step.Meets k ∧ MeetsRun (k.after r verifier step) rest

end Property

section Specifications
variable {r : SigningRules} {verifier : WorkDeliverableVerifier} {v v' : Vault}
  {p p' : CreditCollateralPosition} {w : WorkOrder} {d : WorkDeliverable} {receiptId : String}
  {answer : VaultAnswer}

/-- A call of the adapter returns the vault's own answer, or raises on a vault that did it or not. -/
theorem perform_cases {call : Except PyError (String × Vault)} {asked : Except PyError String × Vault}
    (same : answer.perform v call = asked) :
    (∃ tx, asked.1 = .ok tx ∧ call = .ok (tx, asked.2) ∧ answer = .returns) ∨
      (∃ e, asked.1 = .error e) ∧ (asked.2 = v ∨ ∃ tx, call = .ok (tx, asked.2)) := by
  subst same
  rcases answer with _ | ⟨applied, e⟩
  · rcases call with e | ⟨tx, v'⟩
    · exact .inr ⟨⟨e, rfl⟩, .inl rfl⟩
    · exact .inl ⟨tx, rfl, rfl, rfl⟩
  · right
    rcases call with e' | ⟨tx, v'⟩
    · cases applied with
      | false => exact ⟨⟨e, rfl⟩, .inl rfl⟩
      | true => exact ⟨⟨e, rfl⟩, .inl rfl⟩
    · cases applied with
      | false => exact ⟨⟨e, rfl⟩, .inl rfl⟩
      | true => exact ⟨⟨e, rfl⟩, .inr ⟨tx, rfl⟩⟩

theorem vaultSettle_ok {op tx positionId : String} {state : VaultState}
    (ok : vaultSettle r v op state positionId = .ok (tx, v')) :
    stateOf v positionId = some .locked ∧ ∃ pos, lookupBy (·.positionId) v positionId = some pos ∧
      v' = replaceBy (·.positionId) v { pos with state } := by
  obtain ⟨pos, found, same⟩ := bind_ok.mp ok
  obtain ⟨-, rfl⟩ := Prod.mk.inj (Except.ok.inj same)
  unfold requireLocked at found
  split at found
  · cases found
  · rename_i pos' stored
    split at found
    · cases found
    · rename_i locked
      obtain rfl := Except.ok.inj found
      refine ⟨?_, pos', stored, rfl⟩
      rw [stateOf, stored, Option.map_some, not_not.mp locked]

theorem vaultSettle_locked {positionId : String} (op : String) (state : VaultState)
    (locked : stateOf v positionId = some .locked) :
    ∃ tx v', vaultSettle r v op state positionId = .ok (tx, v') := by
  obtain ⟨pos, stored, here⟩ := Option.map_eq_some_iff.mp locked
  refine ⟨simTxHash r op positionId, replaceBy (·.positionId) v { pos with state }, ?_⟩
  unfold vaultSettle requireLocked
  rw [stored]
  dsimp only
  rw [if_neg (not_not.mpr here)]
  rfl

/-- A settled position changes its own state only. -/
theorem stateOf_settled {pos : VaultPosition} {positionId : String}
    (keys : (v.map (·.positionId)).Nodup)
    (stored : lookupBy (·.positionId) v positionId = some pos) (state : VaultState) (id : String) :
    stateOf (replaceBy (·.positionId) v { pos with state }) id =
      if id = positionId then some state else stateOf v id := by
  obtain ⟨mem, named⟩ := lookupBy_some stored
  unfold stateOf
  split
  · rename_i same
    subst same
    have found := lookupBy_replaceBy_self (a := { pos with state }) keys mem rfl
    rw [← named]
    exact congrArg (Option.map _) found
  · rename_i other
    rw [lookupBy_replaceBy_ne]
    rintro rfl
    exact other named

/-- The verdict moves an active position on, and no other. -/
theorem recordVerification_active {success : Bool} {evidenceHash : String}
    (active : p.status = .obligationActive) :
    p.recordVerification success evidenceHash = .ok { p with
      status := if success then .verifiedSuccess else .verifiedFailure
      verificationEvidenceHash := some evidenceHash } := by
  unfold CreditCollateralPosition.recordVerification CreditCollateralPosition.transition
  rw [active]
  cases success with
  | true => rfl
  | false => rfl

theorem recordVerification_inactive (success : Bool) (evidenceHash : String)
    (inactive : p.status ≠ .obligationActive) :
    ∃ e, p.recordVerification success evidenceHash = .error e := by
  unfold CreditCollateralPosition.recordVerification CreditCollateralPosition.transition
  cases status : p.status with
  | obligationActive => exact absurd status inactive
  | _ => cases success <;> exact ⟨_, rfl⟩

variable (r verifier v w d receiptId answer) in
theorem settle_inactive (inactive : p.status ≠ .obligationActive) :
    ∃ e, settleFromVerification r verifier p w d receiptId answer v = (p, v, .error e) := by
  obtain ⟨e, refused⟩ := recordVerification_inactive
    ((verifier.verify r w d receiptId).status = .accepted)
    (verifier.verify r w d receiptId).evidenceHash inactive
  refine ⟨e, ?_⟩
  unfold settleFromVerification
  dsimp only
  rw [refused]

/-- A transition and a verdict keep whose position it is and what it backs. -/
structure SameTerms (p p' : CreditCollateralPosition) : Prop where
  positionId : p'.positionId = p.positionId
  tenantId : p'.tenantId = p.tenantId
  organisationId : p'.organisationId = p.organisationId
  obligationReference : p'.obligationReference = p.obligationReference

/-- The position with the verdict on it, before the vault is asked. -/
def judged (r : SigningRules) (verifier : WorkDeliverableVerifier) (p : CreditCollateralPosition)
    (w : WorkOrder) (d : WorkDeliverable) (receiptId : String) : CreditCollateralPosition :=
  let receipt := verifier.verify r w d receiptId
  { p with
    status := if receipt.status = .accepted then .verifiedSuccess else .verifiedFailure
    verificationEvidenceHash := some receipt.evidenceHash }

/-- Where an accepted and a rejected deliverable send the collateral. -/
def destination (status : DeliverableStatus) : CollateralStatus × VaultState × String :=
  match status with
  | .accepted => (.released, .released, "release")
  | .rejected => (.forfeited, .forfeited, "forfeit")

theorem settle_active (active : p.status = .obligationActive) :
    settleFromVerification r verifier p w d receiptId answer v =
      let receipt := verifier.verify r w d receiptId
      let moved := answer.perform v (vaultSettle r v (destination receipt.status).2.2
        (destination receipt.status).2.1 p.positionId)
      match moved.1 with
      | .error e => (judged r verifier p w d receiptId, moved.2, .error e)
      | .ok tx => ({ judged r verifier p w d receiptId with
          status := (destination receipt.status).1
          settlementTxHash := some tx }, moved.2, .ok receipt) := by
  unfold settleFromVerification judged
  dsimp only
  rw [recordVerification_active active]
  cases verdict : (verifier.verify r w d receiptId).status with
  | accepted =>
    rfl
  | rejected =>
    rfl

theorem judged_sameTerms : SameTerms p (judged r verifier p w d receiptId) := ⟨rfl, rfl, rfl, rfl⟩

theorem judged_midSettlement : (judged r verifier p w d receiptId).status.midSettlement := by
  show (if (verifier.verify r w d receiptId).status = .accepted then CollateralStatus.verifiedSuccess
    else .verifiedFailure).midSettlement
  split
  · exact .inl rfl
  · exact .inr rfl

theorem destination_state (status : DeliverableStatus) :
    (destination status).1.vaultState = (destination status).2.1 := by
  cases status with
  | accepted => rfl
  | rejected => rfl

/-- The vault after a settlement, as far as it did anything. -/
structure VaultMoved (v v' : Vault) (positionId : String) : Prop where
  keys : v'.map (·.positionId) = v.map (·.positionId)
  others : ∀ id, id ≠ positionId → stateOf v' id = stateOf v id
  stored : ∀ id, (stateOf v id).isSome → (stateOf v' id).isSome

theorem VaultMoved.refl (positionId : String) : VaultMoved v v positionId :=
  ⟨rfl, fun _ _ => rfl, fun _ => id⟩

theorem vaultSettle_moved {op tx positionId : String} {state : VaultState}
    (keys : (v.map (·.positionId)).Nodup)
    (ok : vaultSettle r v op state positionId = .ok (tx, v')) :
    VaultMoved v v' positionId ∧ stateOf v' positionId = some state := by
  obtain ⟨locked, pos, stored, rfl⟩ := vaultSettle_ok ok
  have states := stateOf_settled keys stored state
  refine ⟨⟨map_key_replaceBy _ _, ?_, ?_⟩, ?_⟩
  · intro id other
    rw [states, if_neg other]
  · intro id here
    rw [states]
    split
    · rfl
    · exact here
  · rw [states, if_pos rfl]

variable (r verifier p w d receiptId answer) in
/-- Whatever the vault answers, the terms of the position and the rest of the vault stay. -/
theorem settle_frame (keys : (v.map (·.positionId)).Nodup) :
    SameTerms p (settleFromVerification r verifier p w d receiptId answer v).1 ∧
      VaultMoved v (settleFromVerification r verifier p w d receiptId answer v).2.1 p.positionId := by
  by_cases active : p.status = .obligationActive
  · rw [settle_active active]
    dsimp only
    generalize asked : answer.perform v _ = moved
    have effect : VaultMoved v moved.2 p.positionId := by
      rcases perform_cases asked with ⟨tx, -, ok, -⟩ | ⟨-, rfl | ⟨tx, ok⟩⟩
      · exact (vaultSettle_moved keys ok).1
      · exact .refl _
      · exact (vaultSettle_moved keys ok).1
    split
    · exact ⟨judged_sameTerms, effect⟩
    · exact ⟨⟨rfl, rfl, rfl, rfl⟩, effect⟩
  · obtain ⟨e, refused⟩ := settle_inactive r verifier v w d receiptId answer active
    rw [refused]
    exact ⟨⟨rfl, rfl, rfl, rfl⟩, .refl _⟩

variable (r verifier w d receiptId) in
/-- The vault answers on a locked position: the settlement goes through. -/
theorem settle_returns (keys : (v.map (·.positionId)).Nodup) (active : p.status = .obligationActive)
    (locked : stateOf v p.positionId = some .locked) :
    ∃ tx v', settleFromVerification r verifier p w d receiptId .returns v =
        ({ judged r verifier p w d receiptId with
          status := (destination (verifier.verify r w d receiptId).status).1
          settlementTxHash := some tx }, v', .ok (verifier.verify r w d receiptId)) ∧
      VaultMoved v v' p.positionId ∧
      stateOf v' p.positionId = some (destination (verifier.verify r w d receiptId).status).2.1 := by
  obtain ⟨tx, v', ok⟩ := vaultSettle_locked (r := r)
    (destination (verifier.verify r w d receiptId).status).2.2
    (destination (verifier.verify r w d receiptId).status).2.1 locked
  obtain ⟨moved, state⟩ := vaultSettle_moved keys ok
  refine ⟨tx, v', ?_, moved, state⟩
  rw [settle_active active]
  dsimp only
  rw [ok]
  rfl

/-- A vault call that raises leaves the position with its verdict and unsettled. -/
theorem settle_raises {applied : Bool} {error : PyError} (active : p.status = .obligationActive) :
    (settleFromVerification r verifier p w d receiptId (.raises applied error) v).1 =
      judged r verifier p w d receiptId := by
  rw [settle_active active]
  dsimp only
  generalize asked : VaultAnswer.perform v (.raises applied error) _ = moved
  rcases perform_cases asked with ⟨tx, -, -, returned⟩ | ⟨⟨e, raised⟩, -⟩
  · cases returned
  · rw [raised]

/-- From there nothing settles it: the verdict cannot be recorded a second time. -/
theorem not_completes (mid : p.status.midSettlement) : ¬Completes r verifier p v := by
  rintro ⟨w, d, receiptId, receipt, done⟩
  have inactive : p.status ≠ .obligationActive := by
    intro active
    rcases mid with same | same
    · cases active.symm.trans same
    · cases active.symm.trans same
  obtain ⟨e, refused⟩ := settle_inactive r verifier v w d receiptId .returns inactive
  rw [refused] at done
  cases done

variable (r v answer) in
/-- What a lock can do to the vault, and what is handed out when it went through. -/
theorem proposeAndLock_cases (q : LockRequest) (validator : Except PyError Bool) (uuidHex : String) :
    (∃ e, (proposeAndLock r q validator uuidHex answer v).1 = .error e ∧
        ((proposeAndLock r q validator uuidHex answer v).2 = v ∨
          ∃ pos, lookupBy (·.positionId) v pos.positionId = none ∧
            (proposeAndLock r q validator uuidHex answer v).2 = v ++ [pos])) ∨
      ∃ p pos, proposeAndLock r q validator uuidHex answer v = (.ok p, v ++ [pos]) ∧
        p.status = .obligationActive ∧ pos.positionId = p.positionId ∧ pos.state = .locked ∧
        lookupBy (·.positionId) v pos.positionId = none := by
  unfold proposeAndLock
  split
  · exact .inl ⟨_, rfl, .inl rfl⟩
  dsimp only
  generalize preparing : (do
    let authorized ← validator
    _ : Except PyError CreditCollateralPosition) = prepared
  rcases prepared with e | position
  · exact .inl ⟨e, rfl, .inl rfl⟩
  obtain ⟨authorized, -, creating⟩ := bind_ok.mp preparing
  have proposed : position.status = .authorized := by
    split at creating
    · cases creating
    · obtain ⟨created, made, authorizing⟩ := bind_ok.mp creating
      unfold CreditCollateralPosition.create at made
      split_ifs at made
      obtain rfl := Except.ok.inj made
      obtain rfl := Except.ok.inj authorizing
      rfl
  dsimp only
  generalize asked : answer.perform v _ = moved
  have fresh {tx : String} {v' : Vault} (ok : vaultLock r v position.positionId
      q.pledgingOrgWalletAddress q.beneficiaryWalletAddress q.amountAtoms = .ok (tx, v')) :
      lookupBy (·.positionId) v position.positionId = none ∧
        v' = v ++ [⟨position.positionId, q.pledgingOrgWalletAddress, q.beneficiaryWalletAddress,
          q.amountAtoms, .locked⟩] := by
    unfold vaultLock at ok
    split_ifs at ok with known
    obtain ⟨-, rfl⟩ := Prod.mk.inj (Except.ok.inj ok)
    exact ⟨Option.not_isSome_iff_eq_none.mp known, rfl⟩
  rcases perform_cases asked with ⟨tx, done, ok, -⟩ | ⟨⟨e, raised⟩, same | ⟨tx, ok⟩⟩
  · obtain ⟨new, grown⟩ := fresh ok
    refine .inr ⟨{ position with status := .obligationActive, onchainTxHash := some tx }, _,
      Prod.ext ?_ grown, rfl, rfl, rfl, new⟩
    rw [done]
    show (position.lock tx).bind _ = _
    unfold CreditCollateralPosition.lock CreditCollateralPosition.transition
    rw [proposed]
    rfl
  · exact .inl ⟨e, by rw [raised]; rfl, .inl same⟩
  · obtain ⟨new, grown⟩ := fresh ok
    exact .inl ⟨e, by rw [raised]; rfl, .inr ⟨_, new, grown⟩⟩

end Specifications

/-! ### Runs -/

section Runs
variable {r : SigningRules} {verifier : WorkDeliverableVerifier} {k : Desk} {step : Step}

def VaultKeys (k : Desk) : Prop := (k.vault.map (·.positionId)).Nodup

theorem nodup_concat {pos : VaultPosition} {v : Vault} (keys : (v.map (·.positionId)).Nodup)
    (new : lookupBy (·.positionId) v pos.positionId = none) :
    ((v ++ [pos]).map (·.positionId)).Nodup := by
  rw [List.map_append]
  refine keys.append (List.nodup_singleton _) ?_
  intro id old here
  obtain ⟨stored, mem, rfl⟩ := List.mem_map.mp old
  exact lookupBy_none.mp new stored mem (List.mem_singleton.mp here)

theorem after_keys (keys : VaultKeys k) : VaultKeys (k.after r verifier step) := by
  cases step with
  | propose q validator uuidHex answer =>
    show ((proposeAndLock r q validator uuidHex answer k.vault).2.map (·.positionId)).Nodup
    rcases proposeAndLock_cases r k.vault answer q validator uuidHex with
      ⟨e, -, same | ⟨pos, new, grown⟩⟩ | ⟨p, pos, locked, -, -, -, new⟩
    · rw [same]
      exact keys
    · rw [grown]
      exact nodup_concat keys new
    · rw [locked]
      exact nodup_concat keys new
  | settle index w d receiptId answer =>
    unfold Desk.after
    dsimp only
    split
    · exact keys
    · rename_i p here
      have moved := (settle_frame r verifier p w d receiptId answer keys).2
      show (List.map _ (settleFromVerification r verifier p w d receiptId answer k.vault).2.1).Nodup
      rw [moved.keys]
      exact keys

/-- A step between faithful states meets the condition. -/
theorem meets_of_faithful (keys : VaultKeys k) (before : Faithful r verifier k)
    (after : Faithful r verifier (k.after r verifier step)) : step.Meets k := by
  cases step with
  | propose => trivial
  | settle index w d receiptId answer =>
    intro p here active
    have inside : index < k.positions.length := (List.getElem?_eq_some_iff.mp here).1
    have after_eq : k.after r verifier (.settle index w d receiptId answer) =
        let settled := settleFromVerification r verifier p w d receiptId answer k.vault
        { positions := k.positions.set index settled.1
          vault := settled.2.1
          settlements := k.settlements ++ settlementOf k.vault settled.2.1 p.positionId index w
            (verifier.verify r w d receiptId) } := by
      unfold Desk.after
      dsimp only
      rw [here]
    rw [after_eq] at after
    rcases answer with _ | ⟨applied, e⟩
    · refine ⟨?_, rfl⟩
      have locked : stateOf k.vault p.positionId = some .locked := by
        have agree := before.agree p (List.mem_of_getElem? here)
        rw [active] at agree
        exact agree
      obtain ⟨tx, v', settled, -, state⟩ := settle_returns r verifier w d receiptId keys active locked
      rw [settled] at after
      have left : ⟨index, w, verifier.verify r w d receiptId,
          (destination (verifier.verify r w d receiptId).status).2.1⟩ ∈
            settlementOf k.vault v' p.positionId index w (verifier.verify r w d receiptId) := by
        unfold settlementOf
        rw [state, locked]
        dsimp only
        rw [if_neg]
        · exact List.mem_singleton_self _
        · cases (verifier.verify r w d receiptId).status with
          | accepted => intro same; cases same
          | rejected => intro same; cases same
      obtain ⟨q, found, bound, -⟩ := after.bound _ (List.mem_append_right _ left)
      have same : (k.positions.set index _)[index]? = some q := found
      rw [List.getElem?_set_self inside] at same
      obtain rfl := Option.some.inj same
      exact ⟨bound.obligation, bound.tenant, bound.organisation⟩
    · have stuck := after.retriable _ (List.mem_of_getElem? (List.getElem?_set_self inside))
      rw [settle_raises active] at stuck
      exact absurd (stuck judged_midSettlement) (not_completes judged_midSettlement)

/-- What holds of every state of a run that meets the condition. -/
structure Sound (k : Desk) : Prop where
  keys : VaultKeys k
  ids : (k.positions.map (·.positionId)).Nodup
  statuses : ∀ p ∈ k.positions,
    p.status = .obligationActive ∨ p.status = .released ∨ p.status = .forfeited
  bound : ∀ e ∈ k.settlements, ∃ p, k.positions[e.index]? = some p ∧ BoundTo p e.order ∧
    e.receipt.workOrderId = p.obligationReference ∧
    (e.state = .released ∧ e.receipt.status = .accepted ∨
      e.state = .forfeited ∧ e.receipt.status = .rejected)
  agree : ∀ p ∈ k.positions, stateOf k.vault p.positionId = some p.status.vaultState
  once : ∀ index, (k.settlements.filter fun e => e.index = index).length ≤ 1
  untouched : ∀ index p, k.positions[index]? = some p → p.status = .obligationActive →
    ∀ e ∈ k.settlements, e.index ≠ index

theorem Sound.faithful (sound : Sound k) : Faithful r verifier k where
  bound := sound.bound
  agree := sound.agree
  once := sound.once
  retriable := by
    intro p mem mid
    rcases sound.statuses p mem with same | same | same
    all_goals
      rw [same] at mid
      rcases mid with here | here
      · cases here
      · cases here

theorem sound_empty : Sound Desk.empty where
  keys := List.nodup_nil
  ids := List.nodup_nil
  statuses := by intro p mem; cases mem
  bound := by intro e mem; cases mem
  agree := by intro p mem; cases mem
  once := by intro index; exact Nat.zero_le 1
  untouched := by intro index p here active e mem; cases mem

/-- What an added position leaves of the vault. -/
theorem stateOf_concat {pos : VaultPosition} {v : Vault} {id : String}
    (known : (stateOf v id).isSome) (new : lookupBy (·.positionId) v pos.positionId = none) :
    stateOf (v ++ [pos]) id = stateOf v id := by
  have ne : pos.positionId ≠ id := by
    rintro rfl
    rw [stateOf, new] at known
    cases known
  unfold stateOf
  rw [lookupBy_concat_ne ne]

theorem Sound.grow (sound : Sound k) {pos : VaultPosition}
    (new : lookupBy (·.positionId) k.vault pos.positionId = none) :
    Sound { k with vault := k.vault ++ [pos] } :=
  { sound with
    keys := nodup_concat sound.keys new
    agree := by
      intro p mem
      have agree := sound.agree p mem
      show stateOf (k.vault ++ [pos]) p.positionId = _
      rw [stateOf_concat _ new, agree]
      rw [agree]
      rfl }

theorem Sound.handOut (sound : Sound k) {p : CreditCollateralPosition} {pos : VaultPosition}
    (active : p.status = .obligationActive) (named : pos.positionId = p.positionId)
    (locked : pos.state = .locked) (new : lookupBy (·.positionId) k.vault pos.positionId = none) :
    Sound { k with positions := k.positions ++ [p], vault := k.vault ++ [pos] } := by
  have grown := sound.grow new
  refine ⟨grown.keys, ?_, ?_, ?_, ?_, sound.once, ?_⟩
  · rw [List.map_append]
    refine sound.ids.append (List.nodup_singleton _) ?_
    intro id old here
    obtain ⟨q, mem, rfl⟩ := List.mem_map.mp old
    have agree := sound.agree q mem
    have same : q.positionId = p.positionId := List.mem_singleton.mp here
    rw [same, ← named, stateOf, new] at agree
    cases agree
  · intro q mem
    rcases List.mem_append.mp mem with old | last
    · exact sound.statuses q old
    · obtain rfl := List.mem_singleton.mp last
      exact .inl active
  · intro e mem
    obtain ⟨q, here, rest⟩ := sound.bound e mem
    refine ⟨q, ?_, rest⟩
    exact (List.getElem?_append_left (List.getElem?_eq_some_iff.mp here).1).trans here
  · intro q mem
    rcases List.mem_append.mp mem with old | last
    · exact grown.agree q old
    · obtain rfl := List.mem_singleton.mp last
      show stateOf (k.vault ++ [pos]) q.positionId = _
      rw [active, ← named, stateOf, lookupBy_concat_self (lookupBy_none.mp new), Option.map_some,
        locked]
      rfl
  · intro index q here still e mem
    rcases Nat.lt_or_ge index k.positions.length with inside | outside
    · rw [List.getElem?_append_left inside] at here
      exact sound.untouched index q here still e mem
    · rintro rfl
      obtain ⟨q', found, -⟩ := sound.bound e mem
      exact absurd (List.getElem?_eq_some_iff.mp found).1 (Nat.not_lt.mpr outside)

/-- A settlement of the position's own work order that the vault answers. -/
theorem Sound.settle (sound : Sound k) {index : Nat} {p p' : CreditCollateralPosition}
    {w : WorkOrder} {d : WorkDeliverable} {receiptId : String} {v' : Vault}
    (here : k.positions[index]? = some p) (active : p.status = .obligationActive)
    (bound : BoundTo p w) (same : SameTerms p p')
    (settled : p'.status = (destination (verifier.verify r w d receiptId).status).1)
    (moved : VaultMoved k.vault v' p.positionId)
    (state : stateOf v' p.positionId =
      some (destination (verifier.verify r w d receiptId).status).2.1) :
    Sound
      { positions := k.positions.set index p'
        vault := v'
        settlements := k.settlements ++ [⟨index, w, verifier.verify r w d receiptId,
          (destination (verifier.verify r w d receiptId).status).2.1⟩] } := by
  have inside : index < k.positions.length := (List.getElem?_eq_some_iff.mp here).1
  have before : k.positions[index] = p := (List.getElem?_eq_some_iff.mp here).2
  have positions : (k.positions.set index p').map (·.positionId) =
      k.positions.map (·.positionId) := by
    rw [List.map_set, same.positionId, ← before]
    refine List.ext_getElem? fun i => ?_
    rcases eq_or_ne index i with rfl | other
    · rw [List.getElem?_set_self (by rwa [List.length_map]), List.getElem?_map, here, before]
      rfl
    · rw [List.getElem?_set_ne other]
  have fresh : ∀ e ∈ k.settlements, e.index ≠ index := sound.untouched index p here active
  refine ⟨?_, ?_, ?_, ?_, ?_, ?_, ?_⟩
  · show (v'.map (·.positionId)).Nodup
    rw [moved.keys]
    exact sound.keys
  · rw [positions]
    exact sound.ids
  · intro q mem
    rcases List.mem_or_eq_of_mem_set mem with old | rfl
    · exact sound.statuses q old
    · rw [settled]
      cases (verifier.verify r w d receiptId).status with
      | accepted => exact .inr (.inl rfl)
      | rejected => exact .inr (.inr rfl)
  · intro e mem
    rcases List.mem_append.mp mem with old | last
    · obtain ⟨q, found, rest⟩ := sound.bound e old
      refine ⟨q, ?_, rest⟩
      exact (List.getElem?_set_ne (fresh e old).symm).trans found
    · obtain rfl := List.mem_singleton.mp last
      refine ⟨p', List.getElem?_set_self inside, ⟨?_, ?_, ?_⟩, ?_, ?_⟩
      · rw [same.obligationReference]
        exact bound.obligation
      · rw [same.tenantId]
        exact bound.tenant
      · rw [same.organisationId]
        exact bound.organisation
      · rw [same.obligationReference]
        exact bound.obligation
      · show (destination (verifier.verify r w d receiptId).status).2.1 = _ ∧ _ ∨ _ ∧ _
        cases (verifier.verify r w d receiptId).status with
        | accepted => exact .inl ⟨rfl, rfl⟩
        | rejected => exact .inr ⟨rfl, rfl⟩
  · intro q mem
    show stateOf v' q.positionId = _
    obtain ⟨i, found⟩ := List.mem_iff_getElem?.mp mem
    rcases eq_or_ne index i with rfl | other
    · rw [List.getElem?_set_self inside] at found
      obtain rfl := Option.some.inj found
      rw [same.positionId, state, settled, destination_state]
    · rw [List.getElem?_set_ne other] at found
      have apart : q.positionId ≠ p.positionId := by
        intro equal
        have first : (k.positions.map (·.positionId))[i]? = some q.positionId := by
          rw [List.getElem?_map, found]
          rfl
        have second : (k.positions.map (·.positionId))[index]? = some q.positionId := by
          rw [List.getElem?_map, here, equal]
          rfl
        exact other ((List.getElem?_inj (by rwa [List.length_map]) sound.ids).mp (second.trans first.symm))
      rw [moved.others _ apart]
      exact sound.agree q (List.mem_of_getElem? found)
  · intro i
    rw [List.filter_append, List.length_append]
    rcases eq_or_ne index i with rfl | other
    · have none : k.settlements.filter (fun e => e.index = index) = [] := by
        refine List.filter_eq_nil_iff.mpr fun e mem => ?_
        rw [decide_eq_true_iff]
        exact fresh e mem
      rw [none]
      exact (Nat.zero_add _).le.trans (List.length_filter_le _ _)
    · have none : [(⟨index, w, verifier.verify r w d receiptId,
          (destination (verifier.verify r w d receiptId).status).2.1⟩ : Settlement)].filter
            (fun e => e.index = i) = [] := by
        refine List.filter_eq_nil_iff.mpr fun e mem => ?_
        rw [List.mem_singleton.mp mem, decide_eq_true_iff]
        exact other
      rw [none]
      exact sound.once i
  · intro i q found still e mem
    rcases eq_or_ne index i with rfl | other
    · rw [List.getElem?_set_self inside] at found
      obtain rfl := Option.some.inj found
      rw [settled] at still
      cases verdict : (verifier.verify r w d receiptId).status with
      | accepted =>
        rw [verdict] at still
        cases still
      | rejected =>
        rw [verdict] at still
        cases still
    · rw [List.getElem?_set_ne other] at found
      rcases List.mem_append.mp mem with old | last
      · exact sound.untouched i q found still e old
      · rw [List.mem_singleton.mp last]
        exact other

/-- A step that meets the condition keeps the state sound. -/
theorem after_sound (sound : Sound k) (meets : step.Meets k) : Sound (k.after r verifier step) := by
  cases step with
  | propose q validator uuidHex answer =>
    unfold Desk.after
    rcases proposeAndLock_cases r k.vault answer q validator uuidHex with
      ⟨e, refused, same | ⟨pos, new, grown⟩⟩ | ⟨p, pos, locked, active, named, state, new⟩
    · dsimp only
      rw [refused, same]
      show Sound { k with positions := k.positions ++ [], vault := k.vault }
      rw [List.append_nil]
      exact sound
    · dsimp only
      rw [refused, grown]
      show Sound { k with positions := k.positions ++ [], vault := k.vault ++ [pos] }
      rw [List.append_nil]
      exact sound.grow new
    · dsimp only
      rw [locked]
      exact sound.handOut active named state new
  | settle index w d receiptId answer =>
    unfold Desk.after
    dsimp only
    split
    · exact sound
    rename_i p here
    by_cases active : p.status = .obligationActive
    · obtain ⟨bound, rfl⟩ := meets p here active
      have locked : stateOf k.vault p.positionId = some .locked := by
        have agree := sound.agree p (List.mem_of_getElem? here)
        rw [active] at agree
        exact agree
      obtain ⟨tx, v', settled, moved, state⟩ := settle_returns r verifier w d receiptId sound.keys active locked
      have left : settlementOf k.vault v' p.positionId index w (verifier.verify r w d receiptId) =
          [⟨index, w, verifier.verify r w d receiptId,
            (destination (verifier.verify r w d receiptId).status).2.1⟩] := by
        unfold settlementOf
        rw [state, locked]
        dsimp only
        rw [if_neg]
        cases (verifier.verify r w d receiptId).status with
        | accepted => intro same; cases same
        | rejected => intro same; cases same
      rw [settled]
      dsimp only
      rw [left]
      exact sound.settle here active bound ⟨rfl, rfl, rfl, rfl⟩ rfl moved state
    · obtain ⟨e, refused⟩ := settle_inactive r verifier k.vault w d receiptId answer active
      rw [refused]
      dsimp only
      have none : settlementOf k.vault k.vault p.positionId index w
          (verifier.verify r w d receiptId) = [] := by
        unfold settlementOf
        split
        · rfl
        · rename_i state known
          exact if_pos known
      have set_self : k.positions.set index p = k.positions := by
        rw [← (List.getElem?_eq_some_iff.mp here).2, List.set_getElem_self]
      rw [none, List.append_nil, set_self]
      exact sound

theorem faithful_of_meets {steps : List Step} (sound : Sound k) (meets : MeetsRun r verifier k steps) :
    FaithfulRun r verifier k steps := by
  induction steps generalizing k with
  | nil => exact sound.faithful
  | cons step rest ih => exact ⟨sound.faithful, ih (after_sound sound meets.1) meets.2⟩

theorem meetsRun_of_faithful {steps : List Step} (keys : VaultKeys k)
    (faithful : FaithfulRun r verifier k steps) : MeetsRun r verifier k steps := by
  induction steps generalizing k with
  | nil => trivial
  | cons step rest ih =>
    refine ⟨?_, ih (after_keys keys) faithful.2⟩
    have next : Faithful r verifier (k.after r verifier step) := by
      cases rest with
      | nil => exact faithful.2
      | cons => exact faithful.2.1
    exact meets_of_faithful keys faithful.1 next

end Runs

section Sample

def sampleRules : SigningRules where
  sha256 := id
  reprFloat := fun _ => ""
  hmac := fun key text => key ++ text
  text := ⟨fun _ => "", fun _ => true, fun c => c = ' ', fun _ => none, id⟩

/-- A deliverable of one tenant's order. -/
def sampleOrder : WorkOrder := ⟨"wo-b", "tenant-b", "org-b", "report", 10, 5, .authorized⟩

def samplePayload : PyValue := .dict [("deliverable_type", .str "report")]

def sampleDeliverable : WorkDeliverable :=
  ⟨"d-1", "wo-b", "agent-b", samplePayload, canonicalJsonHash sampleRules samplePayload, 3, []⟩

/-- Collateral of another tenant, for another order. -/
def sampleLock : LockRequest :=
  ⟨"tenant-a", "org-a", "wo-a", "org-a", "0xa", "org-c", "0xc", 100, "evidence"⟩

def sampleVerifier : WorkDeliverableVerifier := ⟨"auditor", "key"⟩

/-- The order the collateral is for. -/
def sampleOwnOrder : WorkOrder := ⟨"wo-a", "tenant-a", "org-a", "report", 10, 5, .authorized⟩

end Sample

end CollateralCoordinator
