import KalyxMao.TextColumns
import KalyxMao.UpsertTables
import KalyxMao.WorkOrders

/-!
# Work orders, deliverables and receipts in the database

Each save inserts a whole row. Where the key is there already, the update sets the
title, text, status and metadata of an order, the payload, its hash and the
telemetry of a deliverable, and the verdict, notes and signature of a receipt; the
other columns keep what the first save wrote. Payloads are stored as JSON, whose
keys are strings.
-/

namespace WorkOrderRepository
open PythonDates PayloadText TextColumns UpsertTables StepRuns
open PythonText (PyError)
open PythonValues (PyFloat)
open WorkOrders (SigningRules WorkOrderStatus DeliverableStatus WorkDeliverableVerifier)

/-- What a payload can hold: an object that the encoder does not know is refused by every
function here that meets it. -/
abbrev Payload := Value Empty

/-- The digests, Python's reading of floats, and how it prints a payload. -/
structure Rules extends SigningRules where
  parseFloat : String → Option PyFloat
  strOf : Payload → String

section Records

inductive CurrencyAsset where
  | orgCredit
  | usdg
  | orbioCredit
  deriving DecidableEq

def CurrencyAsset.value : CurrencyAsset → String
  | .orgCredit => "ORG_CREDIT"
  | .usdg => "USDG"
  | .orbioCredit => "ORBIO_CREDIT"

def statusValue : WorkOrderStatus → String
  | .proposed => "PROPOSED"
  | .authorized => "AUTHORIZED"
  | .inProgress => "IN_PROGRESS"
  | .delivered => "DELIVERED"
  | .verified => "VERIFIED"
  | .settled => "SETTLED"
  | .rejected => "REJECTED"
  | .expired => "EXPIRED"

/-- An enumeration called with a text: the member that has it. -/
def byValue {α : Type} (members : List α) (value : α → String) (s : String) : Option α :=
  members.find? fun a => value a = s

def CurrencyAsset.ofValue (s : String) : Option CurrencyAsset :=
  byValue [.orgCredit, .usdg, .orbioCredit] CurrencyAsset.value s

def statusOfValue (s : String) : Option WorkOrderStatus :=
  byValue [.proposed, .authorized, .inProgress, .delivered, .verified, .settled, .rejected, .expired]
    statusValue s

def verdictOfValue (s : String) : Option DeliverableStatus :=
  byValue [.accepted, .rejected] DeliverableStatus.value s

@[simp] theorem ofValue_value (a : CurrencyAsset) : CurrencyAsset.ofValue a.value = some a := by
  cases a with
  | orgCredit => decide
  | usdg => decide
  | orbioCredit => decide

@[simp] theorem statusOfValue_value (s : WorkOrderStatus) : statusOfValue (statusValue s) = some s := by
  cases s with
  | proposed => decide
  | authorized => decide
  | inProgress => decide
  | delivered => decide
  | verified => decide
  | settled => decide
  | rejected => decide
  | expired => decide

@[simp] theorem verdictOfValue_value (s : DeliverableStatus) : verdictOfValue s.value = some s := by
  cases s with
  | accepted => decide
  | rejected => decide

structure WorkOrder extends WorkOrders.WorkOrder where
  clientId : String
  title : String
  description : String
  bountyAsset : CurrencyAsset
  deadlineSeconds : Int
  createdAt : DateTime
  metadata : Payload

structure WorkDeliverable where
  deliverableId : String
  workOrderId : String
  producerAgentId : String
  contentPayload : Payload
  contentHash : String
  orbioCreditsConsumed : Int
  executionTelemetry : Payload
  createdAt : DateTime

structure WorkDeliverableReceipt extends WorkOrders.WorkDeliverableReceipt where
  verifiedAt : DateTime

end Records

section Verification
variable (r : Rules)

/-- `canonical_json_hash`; keys that do not compare raise. -/
def canonicalJsonHash (data : Payload) : Option String :=
  (canonicalJson r.reprFloat Empty.elim data).map r.sha256

def WorkDeliverable.computeEvidenceHash (d : WorkDeliverable) : Option String :=
  canonicalJsonHash r (.dict
    [(.str "deliverable_id", .str d.deliverableId), (.str "work_order_id", .str d.workOrderId),
      (.str "producer_agent_id", .str d.producerAgentId),
      (.str "orbio_credits_consumed", .int d.orbioCreditsConsumed),
      (.str "telemetry", d.executionTelemetry)])

/-- `payload.get(key)`. -/
def get (payload : List (PyKey × Payload)) (key : String) : Payload :=
  ((payload.find? fun item => item.1 = .str key).map Prod.snd).getD .none

/-- What speaks against a deliverable, in the order it is looked at. -/
def objection (w : WorkOrder) (d : WorkDeliverable) : Option (Option String) :=
  if d.workOrderId ≠ w.workOrderId then
    some (some s!"Work order ID mismatch: {d.workOrderId} != {w.workOrderId}")
  else do
    let expected ← canonicalJsonHash r d.contentPayload
    if d.contentHash ≠ expected then
      some (some s!"Content hash corruption: expected {expected} but deliverable claims {d.contentHash}")
    else if d.orbioCreditsConsumed ≤ 0 then
      some (some "Deliverable reports zero or negative compute credits consumed")
    else if d.orbioCreditsConsumed > w.requiredOrbioCredits then
      some (some s!"Excessive compute consumed: {d.orbioCreditsConsumed} > {w.requiredOrbioCredits}")
    else
      match d.contentPayload with
      | .dict [] => some (some "Deliverable payload is empty or invalid format")
      | .dict payload =>
        let found := get payload "deliverable_type"
        let same : Bool := match found with
          | .str s => decide (s = w.deliverableType)
          | _ => false
        some (if same then none
          else some s!"Deliverable type mismatch in payload: expected {w.deliverableType}, got {r.strOf found}")
      | _ => some (some "Deliverable payload is empty or invalid format")

/-- `WorkDeliverableVerifier.verify`, at a reading of the clock; hashing may raise. -/
def verify (v : WorkDeliverableVerifier) (w : WorkOrder) (d : WorkDeliverable) (receiptId : String)
    (now : DateTime) : Option WorkDeliverableReceipt := do
  let evidenceHash ← d.computeEvidenceHash r
  let found ← objection r w d
  let unsigned : WorkOrders.WorkDeliverableReceipt :=
    { receiptId := receiptId
      workOrderId := w.workOrderId
      deliverableId := d.deliverableId
      contentHash := d.contentHash
      evidenceHash := evidenceHash
      verifierIdentity := v.verifierIdentity
      status := if found.isNone then .accepted else .rejected
      verificationNotes := found.getD
        "Deliverable verified: content hash matches, schema valid, resource bounds respected"
      hmacSignature := none }
  some ⟨unsigned.signed r.toSigningRules v.secretKey, now⟩

end Verification

section Rows

structure Key where
  tenantId : String
  organisationId : String
  id : String
  deriving DecidableEq

structure WorkOrderRow where
  key : Key
  clientId : String
  title : String
  description : String
  deliverableType : String
  requiredOrbioCredits : Int
  bountyAmount : Int
  bountyAsset : String
  deadlineSeconds : Int
  status : String
  createdAt : String
  metadataJson : String

structure DeliverableRow where
  key : Key
  workOrderId : String
  producerAgentId : String
  contentPayloadJson : String
  contentHash : String
  orbioCreditsConsumed : Int
  executionTelemetryJson : String
  createdAt : String

structure ReceiptRow where
  key : Key
  workOrderId : String
  deliverableId : String
  contentHash : String
  evidenceHash : String
  verifierIdentity : String
  status : String
  verificationNotes : String
  verifiedAt : String
  hmacSignature : Option String

/-- A record with the scope that it is saved for. -/
structure Filed (α : Type) where
  tenantId : String
  organisationId : String
  record : α

/-- The driver takes integers of 64 bits. -/
def binds (i : Int) : Bool := -9223372036854775808 ≤ i ∧ i ≤ 9223372036854775807

def truthy : Payload → Bool
  | .none => false
  | .bool b => b
  | .int i => i ≠ 0
  | .float f => f ≠ .finite 0
  | .str s => s ≠ ""
  | .other o => o.elim
  | .list xs => !xs.isEmpty
  | .dict items => !items.isEmpty

/-- `data or {}`. -/
def orEmpty (data : Payload) : Payload := if truthy data then data else .dict []

variable (r : Rules)

/-- `json.loads(text) if text else {}`. -/
def loadsOrEmpty (text : String) : Option Payload :=
  if text = "" then some (.dict []) else loads r.parseFloat text

def WorkOrder.key (w : WorkOrder) : Key := ⟨w.tenantId, w.organisationId, w.workOrderId⟩

def WorkOrder.row (w : WorkOrder) : Option WorkOrderRow := do
  let metadata ← dumps r.reprFloat (orEmpty w.metadata)
  if binds w.requiredOrbioCredits && binds w.bountyAmount && binds w.deadlineSeconds then
    some
      { key := w.key
        clientId := w.clientId
        title := w.title
        description := w.description
        deliverableType := w.deliverableType
        requiredOrbioCredits := w.requiredOrbioCredits
        bountyAmount := w.bountyAmount
        bountyAsset := w.bountyAsset.value
        deadlineSeconds := w.deadlineSeconds
        status := statusValue w.status
        createdAt := w.createdAt.isoformat
        metadataJson := metadata }
  else none

/-- `ON CONFLICT … DO UPDATE SET` of `save_work_order`. -/
def updateWorkOrder (stored excluded : WorkOrderRow) : WorkOrderRow :=
  { stored with
    title := excluded.title
    description := excluded.description
    status := excluded.status
    metadataJson := excluded.metadataJson }

/-- `_row_to_work_order`. -/
def rowToWorkOrder (row : WorkOrderRow) : Option WorkOrder := do
  let createdAt ← fromIsoformat row.createdAt
  let metadata ← loadsOrEmpty r row.metadataJson
  let bountyAsset ← CurrencyAsset.ofValue row.bountyAsset
  let status ← statusOfValue row.status
  some
    { workOrderId := row.key.id
      tenantId := row.key.tenantId
      organisationId := row.key.organisationId
      clientId := row.clientId
      title := row.title
      description := row.description
      deliverableType := row.deliverableType
      requiredOrbioCredits := row.requiredOrbioCredits
      bountyAmount := row.bountyAmount
      bountyAsset := bountyAsset
      deadlineSeconds := row.deadlineSeconds
      status := status
      createdAt := createdAt
      metadata := metadata }

def deliverableKey (f : Filed WorkDeliverable) : Key :=
  ⟨f.tenantId, f.organisationId, f.record.deliverableId⟩

def deliverableRow (f : Filed WorkDeliverable) : Option DeliverableRow := do
  let payload ← dumps r.reprFloat f.record.contentPayload
  let telemetry ← dumps r.reprFloat (orEmpty f.record.executionTelemetry)
  if binds f.record.orbioCreditsConsumed then
    some
      { key := deliverableKey f
        workOrderId := f.record.workOrderId
        producerAgentId := f.record.producerAgentId
        contentPayloadJson := payload
        contentHash := f.record.contentHash
        orbioCreditsConsumed := f.record.orbioCreditsConsumed
        executionTelemetryJson := telemetry
        createdAt := f.record.createdAt.isoformat }
  else none

def updateDeliverable (stored excluded : DeliverableRow) : DeliverableRow :=
  { stored with
    contentPayloadJson := excluded.contentPayloadJson
    contentHash := excluded.contentHash
    executionTelemetryJson := excluded.executionTelemetryJson }

def rowToDeliverable (row : DeliverableRow) : Option WorkDeliverable := do
  let createdAt ← fromIsoformat row.createdAt
  let contentPayload ← loads r.parseFloat row.contentPayloadJson
  let executionTelemetry ← loadsOrEmpty r row.executionTelemetryJson
  some
    { deliverableId := row.key.id
      workOrderId := row.workOrderId
      producerAgentId := row.producerAgentId
      contentPayload := contentPayload
      contentHash := row.contentHash
      orbioCreditsConsumed := row.orbioCreditsConsumed
      executionTelemetry := executionTelemetry
      createdAt := createdAt }

def receiptKey (f : Filed WorkDeliverableReceipt) : Key :=
  ⟨f.tenantId, f.organisationId, f.record.receiptId⟩

def receiptRow (f : Filed WorkDeliverableReceipt) : ReceiptRow where
  key := receiptKey f
  workOrderId := f.record.workOrderId
  deliverableId := f.record.deliverableId
  contentHash := f.record.contentHash
  evidenceHash := f.record.evidenceHash
  verifierIdentity := f.record.verifierIdentity
  status := f.record.status.value
  verificationNotes := f.record.verificationNotes
  verifiedAt := f.record.verifiedAt.isoformat
  hmacSignature := f.record.hmacSignature

def updateReceipt (stored excluded : ReceiptRow) : ReceiptRow :=
  { stored with
    status := excluded.status
    verificationNotes := excluded.verificationNotes
    hmacSignature := excluded.hmacSignature }

def rowToReceipt (row : ReceiptRow) : Option WorkDeliverableReceipt := do
  let verifiedAt ← fromIsoformat row.verifiedAt
  let status ← verdictOfValue row.status
  some
    { receiptId := row.key.id
      workOrderId := row.workOrderId
      deliverableId := row.deliverableId
      contentHash := row.contentHash
      evidenceHash := row.evidenceHash
      verifierIdentity := row.verifierIdentity
      status := status
      verificationNotes := if row.verificationNotes = "" then "" else row.verificationNotes
      hmacSignature := row.hmacSignature
      verifiedAt := verifiedAt }

end Rows

end WorkOrderRepository
