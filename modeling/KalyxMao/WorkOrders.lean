import KalyxMao.Domain
import KalyxMao.PythonConversions
import KalyxMao.TokenBinding

/-!
# Work orders and the verification of deliverables

A deliverable is compared with its work order by an independent verifier, which
signs what it found. A receipt counts only with a signature under the key of
whoever reads it.
-/

namespace WorkOrders
open PythonText PythonValues PythonConversions Domain
open TokenBinding (compareDigest compareDigest_true)

inductive WorkOrderStatus where
  | proposed
  | authorized
  | inProgress
  | delivered
  | verified
  | settled
  | rejected
  | expired
  deriving DecidableEq

inductive DeliverableStatus where
  | accepted
  | rejected
  deriving DecidableEq

def DeliverableStatus.value : DeliverableStatus → String
  | .accepted => "ACCEPTED"
  | .rejected => "REJECTED"

structure WorkOrder where
  workOrderId : String
  tenantId : String
  organisationId : String
  deliverableType : String
  requiredOrbioCredits : Int
  bountyAmount : Int
  status : WorkOrderStatus

/-- `transition_to`, which checks nothing. -/
def WorkOrder.transitionTo (w : WorkOrder) (status : WorkOrderStatus) : WorkOrder := { w with status }

structure WorkDeliverable where
  deliverableId : String
  workOrderId : String
  producerAgentId : String
  contentPayload : PyValue
  contentHash : String
  orbioCreditsConsumed : Int
  executionTelemetry : List (String × PyValue)

structure WorkDeliverableReceipt where
  receiptId : String
  workOrderId : String
  deliverableId : String
  contentHash : String
  evidenceHash : String
  verifierIdentity : String
  status : DeliverableStatus
  verificationNotes : String
  hmacSignature : Option String

/-- The digests receipts are made of. -/
structure SigningRules extends Hashing where
  hmac : String → String → String
  text : TextRules

variable (r : SigningRules)

def canonicalJsonHash (data : PyValue) : String := r.sha256 (canonicalJson r.reprFloat data)

def WorkDeliverable.computeEvidenceHash (d : WorkDeliverable) : String :=
  canonicalJsonHash r (.dict
    [("deliverable_id", .str d.deliverableId), ("work_order_id", .str d.workOrderId),
      ("producer_agent_id", .str d.producerAgentId),
      ("orbio_credits_consumed", .int d.orbioCreditsConsumed),
      ("telemetry", .dict d.executionTelemetry)])

def WorkDeliverableReceipt.isVerified (c : WorkDeliverableReceipt) : Bool := c.status = .accepted

/-- What the signature covers. -/
def WorkDeliverableReceipt.payload (c : WorkDeliverableReceipt) : String :=
  s!"{c.workOrderId}:{c.deliverableId}:{c.contentHash}:{c.evidenceHash}:{c.status.value}:{c.verifierIdentity}"

def WorkDeliverableReceipt.signed (c : WorkDeliverableReceipt) (secretKey : String) :
    WorkDeliverableReceipt :=
  { c with hmacSignature := some (r.hmac secretKey c.payload) }

def WorkDeliverableReceipt.verifyHmac (c : WorkDeliverableReceipt) (secretKey : String) :
    Except PyError Bool :=
  match c.hmacSignature with
  | none => .ok false
  | some signature =>
    if signature = "" then .ok false else compareDigest signature (r.hmac secretKey c.payload)

structure WorkDeliverableVerifier where
  verifierIdentity : String
  secretKey : String

/-- What speaks against a deliverable, in the order it is looked at. -/
def objection (w : WorkOrder) (d : WorkDeliverable) : Option String :=
  let expected := canonicalJsonHash r d.contentPayload
  if d.workOrderId ≠ w.workOrderId then
    some s!"Work order ID mismatch: {d.workOrderId} != {w.workOrderId}"
  else if d.contentHash ≠ expected then
    some s!"Content hash corruption: expected {expected} but deliverable claims {d.contentHash}"
  else if d.orbioCreditsConsumed ≤ 0 then
    some "Deliverable reports zero or negative compute credits consumed"
  else if d.orbioCreditsConsumed > w.requiredOrbioCredits then
    some s!"Excessive compute consumed: {d.orbioCreditsConsumed} > {w.requiredOrbioCredits}"
  else
    match d.contentPayload with
    | .dict [] => some "Deliverable payload is empty or invalid format"
    | .dict payload =>
      let found := get payload "deliverable_type"
      let same : Bool := match found with
        | .str s => decide (s = w.deliverableType)
        | _ => false
      if same then none
      else some s!"Deliverable type mismatch in payload: expected {w.deliverableType}, got {strOf r.text found}"
    | _ => some "Deliverable payload is empty or invalid format"

/-- `WorkDeliverableVerifier.verify`. -/
def WorkDeliverableVerifier.verify (v : WorkDeliverableVerifier) (w : WorkOrder)
    (d : WorkDeliverable) (receiptId : String) : WorkDeliverableReceipt :=
  let found := objection r w d
  let unsigned : WorkDeliverableReceipt :=
    { receiptId := receiptId
      workOrderId := w.workOrderId
      deliverableId := d.deliverableId
      contentHash := d.contentHash
      evidenceHash := d.computeEvidenceHash r
      verifierIdentity := v.verifierIdentity
      status := if found.isNone then .accepted else .rejected
      verificationNotes := found.getD
        "Deliverable verified: content hash matches, schema valid, resource bounds respected"
      hmacSignature := none }
  unsigned.signed r v.secretKey

section Specifications
variable {r : SigningRules} {v : WorkDeliverableVerifier} {w : WorkOrder} {d : WorkDeliverable}
  {receiptId : String}

@[simp] theorem verify_workOrderId : (v.verify r w d receiptId).workOrderId = w.workOrderId := rfl

@[simp] theorem verify_receiptId : (v.verify r w d receiptId).receiptId = receiptId := rfl

theorem verify_accepted : (v.verify r w d receiptId).status = .accepted ↔ objection r w d = none := by
  show (if (objection r w d).isNone then DeliverableStatus.accepted else .rejected) = .accepted ↔ _
  cases objection r w d with
  | none => simp
  | some note => simp

end Specifications

end WorkOrders
