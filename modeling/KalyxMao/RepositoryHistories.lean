import KalyxMao.EventStores
import KalyxMao.WorkOrderRepository

/-!
# What the repository gives back

A payload comes back as it was if its keys are strings at every depth, and a record
that is saved again does so if it agrees with the one before in the columns that a
conflict leaves. The two together are exactly what it takes: a receipt that is signed
anew for another content keeps its old hashes and loses its signature, and a payload
with other keys is another payload.
-/

namespace RepositoryHistories
open PayloadText TextColumns UpsertTables StepRuns WorkOrderRepository
open PythonDates (DateTime)
open PythonText (PyError)
open PythonValues (PyFloat)
open WorkOrders (WorkDeliverableVerifier)

section Columns
variable {r : Rules} {data : Payload} {text : String}

/-- A dictionary or another value that counts as true, with strings for keys. -/
def Keeps (data : Payload) : Prop := orEmpty data = data ∧ Textual data

theorem textual_empty : Textual (.dict [] : Payload) := ⟨List.Pairwise.nil, trivial⟩

theorem dumps_ne_empty (laws : FloatColumns r.reprFloat r.parseFloat)
    (wrote : dumps r.reprFloat data = some text) : text ≠ "" := by
  obtain ⟨w, -, rfl⟩ := Option.map_eq_some_iff.mp wrote
  intro empty
  have blank : spaced r.reprFloat w = [] := by
    rw [← String.toList_ofList (l := spaced r.reprFloat w), empty]
    rfl
  have compacted := compact_spaced laws [] w
  rw [blank, List.append_nil, compact, List.append_nil] at compacted
  have filled := ColumnReading.chars_pos laws.toFloatText w
  rw [← compacted] at filled
  exact absurd filled (Nat.lt_irrefl 0)

/-- A column that is written as `data or {}` gives `data` back exactly if it keeps it. -/
theorem loadsOrEmpty_iff (laws : FloatColumns r.reprFloat r.parseFloat)
    (wrote : dumps r.reprFloat (orEmpty data) = some text) :
    loadsOrEmpty r text = some data ↔ Keeps data := by
  rw [loadsOrEmpty, if_neg (dumps_ne_empty laws wrote)]
  have same := loads_dumps_iff laws wrote
  constructor
  · intro read
    refine ⟨?_, loads_textual read⟩
    by_cases true_ : truthy data = true
    · exact if_pos true_
    · have empty : orEmpty data = .dict [] := if_neg true_
      rw [empty] at same ⊢
      exact Option.some.inj ((same.mpr textual_empty).symm.trans read)
  · rintro ⟨kept, textual⟩
    rw [kept] at same
    exact same.mpr textual

end Columns

section Layouts
variable (r : Rules) (tenants organisations : List String)

/-- The foreign keys of a new row. -/
def admits (k : Key) : Bool := k.tenantId ∈ tenants && k.organisationId ∈ organisations

/-- What an update makes of a stored order. -/
def keepWorkOrder (stored w : WorkOrder) : WorkOrder :=
  { stored with title := w.title, description := w.description, status := w.status, metadata := w.metadata }

def keepDeliverable (stored d : WorkDeliverable) : WorkDeliverable :=
  { stored with
    contentPayload := d.contentPayload
    contentHash := d.contentHash
    executionTelemetry := d.executionTelemetry }

def keepReceipt (stored c : WorkDeliverableReceipt) : WorkDeliverableReceipt :=
  { stored with
    status := c.status
    verificationNotes := c.verificationNotes
    hmacSignature := c.hmacSignature }

variable {r}

theorem workOrder_row {w : WorkOrder} {row : WorkOrderRow} (wrote : w.row r = some row) :
    ∃ metadata, dumps r.reprFloat (orEmpty w.metadata) = some metadata ∧
      row = ⟨w.key, w.clientId, w.title, w.description, w.deliverableType, w.requiredOrbioCredits,
        w.bountyAmount, w.bountyAsset.value, w.deadlineSeconds, statusValue w.status,
        w.createdAt.isoformat, metadata⟩ := by
  obtain ⟨metadata, text, wrote⟩ := Option.bind_eq_some_iff.mp wrote
  split_ifs at wrote
  exact ⟨metadata, text, (Option.some.inj wrote).symm⟩

theorem deliverable_row {f : Filed WorkDeliverable} {row : DeliverableRow}
    (wrote : deliverableRow r f = some row) :
    ∃ payload telemetry, dumps r.reprFloat f.record.contentPayload = some payload ∧
      dumps r.reprFloat (orEmpty f.record.executionTelemetry) = some telemetry ∧
      row = ⟨deliverableKey f, f.record.workOrderId, f.record.producerAgentId, payload,
        f.record.contentHash, f.record.orbioCreditsConsumed, telemetry,
        f.record.createdAt.isoformat⟩ := by
  obtain ⟨payload, text, wrote⟩ := Option.bind_eq_some_iff.mp wrote
  obtain ⟨telemetry, other, wrote⟩ := Option.bind_eq_some_iff.mp wrote
  split_ifs at wrote
  exact ⟨payload, telemetry, text, other, (Option.some.inj wrote).symm⟩

theorem rowToWorkOrder_written {w : WorkOrder} {row : WorkOrderRow} (wrote : w.row r = some row) :
    rowToWorkOrder r row =
      (loadsOrEmpty r row.metadataJson).map fun metadata => { w with metadata } := by
  obtain ⟨metadata, -, rfl⟩ := workOrder_row wrote
  rw [rowToWorkOrder]
  simp only [Option.bind_eq_bind, fromIsoformat_isoformat, Option.bind_some, ofValue_value,
    statusOfValue_value, WorkOrder.key]
  cases loadsOrEmpty r metadata with
  | none => rfl
  | some data => rfl

theorem rowToDeliverable_written {f : Filed WorkDeliverable} {row : DeliverableRow}
    (wrote : deliverableRow r f = some row) :
    rowToDeliverable r row = (loads r.parseFloat row.contentPayloadJson).bind fun contentPayload =>
      (loadsOrEmpty r row.executionTelemetryJson).map fun executionTelemetry =>
        { f.record with contentPayload, executionTelemetry } := by
  obtain ⟨payload, telemetry, -, -, rfl⟩ := deliverable_row wrote
  rw [rowToDeliverable]
  simp only [Option.bind_eq_bind, fromIsoformat_isoformat, Option.bind_some, deliverableKey]
  cases loads r.parseFloat payload with
  | none => rfl
  | some data =>
    dsimp only [Option.bind_some]
    cases loadsOrEmpty r telemetry with
    | none => rfl
    | some data => rfl

theorem orElse_empty (s : String) : (if s = "" then "" else s) = s := by
  split_ifs with empty
  · exact empty.symm
  · rfl

theorem rowToReceipt_written (f : Filed WorkDeliverableReceipt) :
    rowToReceipt (receiptRow f) = some f.record := by
  rw [rowToReceipt, receiptRow]
  simp only [Option.bind_eq_bind, fromIsoformat_isoformat, Option.bind_some, verdictOfValue_value,
    receiptKey, orElse_empty]

/-- An update leaves the columns that reading the stored row found, and takes the others. -/
theorem rowToWorkOrder_update {b w : WorkOrder} {stored row : WorkOrderRow}
    (read : rowToWorkOrder r stored = some b) (wrote : w.row r = some row) :
    rowToWorkOrder r (updateWorkOrder stored row) = (rowToWorkOrder r row).map (keepWorkOrder b) := by
  rw [rowToWorkOrder_written wrote]
  obtain ⟨metadata, -, rfl⟩ := workOrder_row wrote
  obtain ⟨createdAt, time, read⟩ := Option.bind_eq_some_iff.mp read
  obtain ⟨_, -, read⟩ := Option.bind_eq_some_iff.mp read
  obtain ⟨bountyAsset, asset, read⟩ := Option.bind_eq_some_iff.mp read
  obtain ⟨_, -, read⟩ := Option.bind_eq_some_iff.mp read
  obtain rfl := Option.some.inj read
  rw [rowToWorkOrder, updateWorkOrder]
  simp only [Option.bind_eq_bind, time, Option.bind_some, asset, statusOfValue_value]
  cases loadsOrEmpty r metadata with
  | none => rfl
  | some data => rfl

theorem rowToDeliverable_update {b : WorkDeliverable} {f : Filed WorkDeliverable}
    {stored row : DeliverableRow} (read : rowToDeliverable r stored = some b)
    (wrote : deliverableRow r f = some row) :
    rowToDeliverable r (updateDeliverable stored row) =
      (rowToDeliverable r row).map (keepDeliverable b) := by
  rw [rowToDeliverable_written wrote]
  obtain ⟨payload, telemetry, -, -, rfl⟩ := deliverable_row wrote
  obtain ⟨createdAt, time, read⟩ := Option.bind_eq_some_iff.mp read
  obtain ⟨_, -, read⟩ := Option.bind_eq_some_iff.mp read
  obtain ⟨_, -, read⟩ := Option.bind_eq_some_iff.mp read
  obtain rfl := Option.some.inj read
  rw [rowToDeliverable, updateDeliverable]
  simp only [Option.bind_eq_bind, time, Option.bind_some]
  cases loads r.parseFloat payload with
  | none => rfl
  | some data =>
    dsimp only [Option.bind_some]
    cases loadsOrEmpty r telemetry with
    | none => rfl
    | some data => rfl

theorem rowToReceipt_update {b : WorkDeliverableReceipt} {f : Filed WorkDeliverableReceipt}
    {stored : ReceiptRow} (read : rowToReceipt stored = some b) :
    rowToReceipt (updateReceipt stored (receiptRow f)) =
      (rowToReceipt (receiptRow f)).map (keepReceipt b) := by
  rw [rowToReceipt_written]
  obtain ⟨verifiedAt, time, read⟩ := Option.bind_eq_some_iff.mp read
  obtain ⟨_, -, read⟩ := Option.bind_eq_some_iff.mp read
  obtain rfl := Option.some.inj read
  rw [rowToReceipt, updateReceipt, receiptRow]
  simp only [Option.bind_eq_bind, time, Option.bind_some, verdictOfValue_value, orElse_empty,
    Option.map_some]
  rfl

variable (r)

/-- `save_work_order` and `get_work_order`. -/
def workOrders : Layout WorkOrder WorkOrder WorkOrderRow Key where
  key := WorkOrder.key
  record := id
  write := WorkOrder.row r
  admits row := admits tenants organisations row.key
  update := updateWorkOrder
  rowKey := WorkOrderRow.key
  read := rowToWorkOrder r
  keep := keepWorkOrder
  write_key wrote := by
    obtain ⟨metadata, -, rfl⟩ := workOrder_row wrote
    rfl
  update_key _ _ := rfl
  read_update := rowToWorkOrder_update

/-- `save_deliverable` and `get_deliverable`. -/
def deliverables : Layout (Filed WorkDeliverable) WorkDeliverable DeliverableRow Key where
  key := deliverableKey
  record := Filed.record
  write := deliverableRow r
  admits row := admits tenants organisations row.key
  update := updateDeliverable
  rowKey := DeliverableRow.key
  read := rowToDeliverable r
  keep := keepDeliverable
  write_key wrote := by
    obtain ⟨payload, telemetry, -, -, rfl⟩ := deliverable_row wrote
    rfl
  update_key _ _ := rfl
  read_update := rowToDeliverable_update

/-- `save_receipt` and `get_receipt`. -/
def receipts : Layout (Filed WorkDeliverableReceipt) WorkDeliverableReceipt ReceiptRow Key where
  key := receiptKey
  record := Filed.record
  write f := some (receiptRow f)
  admits row := admits tenants organisations row.key
  update := updateReceipt
  rowKey := ReceiptRow.key
  read := rowToReceipt
  keep := keepReceipt
  write_key wrote := by
    obtain rfl := Option.some.inj wrote
    rfl
  update_key _ _ := rfl
  read_update read wrote := by
    obtain rfl := Option.some.inj wrote
    exact rowToReceipt_update read

end Layouts

section Histories

/-- The three tables, each with what was last saved in it. -/
structure Repository where
  workOrders : Store WorkOrder WorkOrderRow Key
  deliverables : Store WorkDeliverable DeliverableRow Key
  receipts : Store WorkDeliverableReceipt ReceiptRow Key

def Repository.empty : Repository := ⟨.empty, .empty, .empty⟩

inductive Save where
  | workOrder (w : WorkOrder)
  | deliverable (d : Filed WorkDeliverable)
  | receipt (c : Filed WorkDeliverableReceipt)

variable (r : Rules) (tenants organisations : List String)

def step (s : Repository) : Save → Repository
  | .workOrder w => { s with workOrders := (workOrders r tenants organisations).step s.workOrders w }
  | .deliverable d =>
    { s with deliverables := (deliverables r tenants organisations).step s.deliverables d }
  | .receipt c => { s with receipts := (receipts tenants organisations).step s.receipts c }

def getWorkOrder (s : Repository) (k : Key) : Option (Option WorkOrder) :=
  (workOrders r tenants organisations).get s.workOrders.rows k

def getDeliverable (s : Repository) (k : Key) : Option (Option WorkDeliverable) :=
  (deliverables r tenants organisations).get s.deliverables.rows k

def getReceipt (s : Repository) (k : Key) : Option (Option WorkDeliverableReceipt) :=
  (receipts tenants organisations).get s.receipts.rows k

/-- Every getter returns the record last saved under the key, a deliverable that a verifier accepts
is accepted as it comes back, with the same hashes, and a receipt keeps its valid signature. -/
structure RoundTrips (s : Repository) : Prop where
  workOrders : ∀ k, getWorkOrder r tenants organisations s k = (s.workOrders.saved k).map some
  deliverables : ∀ k, getDeliverable r tenants organisations s k = (s.deliverables.saved k).map some
  receipts : ∀ k, getReceipt tenants organisations s k = (s.receipts.saved k).map some
  accepted : ∀ k d v w receiptId now c, s.deliverables.saved k = some d →
    verify r v w d receiptId now = some c → c.status = .accepted →
    ∃ d' c', getDeliverable r tenants organisations s k = some (some d') ∧
      verify r v w d' receiptId now = some c' ∧ c'.status = .accepted ∧
      c'.contentHash = c.contentHash ∧ c'.evidenceHash = c.evidenceHash
  verified : ∀ k c key, s.receipts.saved k = some c → c.verifyHmac r.toSigningRules key = .ok true →
    ∃ c', getReceipt tenants organisations s k = some (some c') ∧
      c'.verifyHmac r.toSigningRules key = .ok true

/-- Two orders agree in what an update leaves. -/
structure SameTerms (b w : WorkOrder) : Prop where
  clientId : b.clientId = w.clientId
  deliverableType : b.deliverableType = w.deliverableType
  requiredOrbioCredits : b.requiredOrbioCredits = w.requiredOrbioCredits
  bountyAmount : b.bountyAmount = w.bountyAmount
  bountyAsset : b.bountyAsset = w.bountyAsset
  deadlineSeconds : b.deadlineSeconds = w.deadlineSeconds
  createdAt : b.createdAt = w.createdAt

structure SameWork (b d : WorkDeliverable) : Prop where
  workOrderId : b.workOrderId = d.workOrderId
  producerAgentId : b.producerAgentId = d.producerAgentId
  orbioCreditsConsumed : b.orbioCreditsConsumed = d.orbioCreditsConsumed
  createdAt : b.createdAt = d.createdAt

structure SameSubject (b c : WorkDeliverableReceipt) : Prop where
  workOrderId : b.workOrderId = c.workOrderId
  deliverableId : b.deliverableId = c.deliverableId
  contentHash : b.contentHash = c.contentHash
  evidenceHash : b.evidenceHash = c.evidenceHash
  verifierIdentity : b.verifierIdentity = c.verifierIdentity
  verifiedAt : b.verifiedAt = c.verifiedAt

/-- What is saved, if it is not refused, has strings for keys, and agrees with the record last saved
under its key in the columns that an update leaves. -/
def Stable (s : Repository) : Save → Prop
  | .workOrder w => ((workOrders r tenants organisations).save s.workOrders.rows w).isSome = true →
      Keeps w.metadata ∧ ∀ b ∈ s.workOrders.saved w.key, SameTerms b w
  | .deliverable f =>
    ((deliverables r tenants organisations).save s.deliverables.rows f).isSome = true →
      Textual f.record.contentPayload ∧ Keeps f.record.executionTelemetry ∧
        ∀ b ∈ s.deliverables.saved (deliverableKey f), SameWork b f.record
  | .receipt f => ((receipts tenants organisations).save s.receipts.rows f).isSome = true →
      ∀ b ∈ s.receipts.saved (receiptKey f), SameSubject b f.record

variable {r} {tenants organisations} {s : Repository}

theorem settle_workOrder {before : Option WorkOrder} {w : WorkOrder} {metadata : Payload}
    (keys : ∀ b ∈ before, b.key = w.key) :
    (workOrders r tenants organisations).settle before { w with metadata } = w ↔
      metadata = w.metadata ∧ ∀ b ∈ before, SameTerms b w := by
  cases before with
  | none =>
    constructor
    · intro same
      exact ⟨congrArg WorkOrder.metadata same, fun b member => by cases member⟩
    · rintro ⟨rfl, -⟩
      rfl
  | some b =>
    obtain ⟨tenantId, organisationId, workOrderId⟩ := Key.mk.inj (keys b rfl)
    constructor
    · intro same
      have kept : keepWorkOrder b { w with metadata } = w := same
      refine ⟨congrArg WorkOrder.metadata kept, ?_⟩
      rintro _ ⟨⟩
      rw [← kept]
      exact ⟨rfl, rfl, rfl, rfl, rfl, rfl, rfl⟩
    · rintro ⟨rfl, agree⟩
      obtain ⟨client, type, credits, amount, asset, deadline, created⟩ := agree b rfl
      show keepWorkOrder b w = w
      rw [keepWorkOrder, client, type, credits, amount, asset, deadline, created, tenantId,
        organisationId, workOrderId]

theorem settle_deliverable {before : Option WorkDeliverable} {d : WorkDeliverable}
    {contentPayload executionTelemetry : Payload}
    (keys : ∀ b ∈ before, b.deliverableId = d.deliverableId) :
    (deliverables r tenants organisations).settle before
        { d with contentPayload, executionTelemetry } = d ↔
      contentPayload = d.contentPayload ∧ executionTelemetry = d.executionTelemetry ∧
        ∀ b ∈ before, SameWork b d := by
  cases before with
  | none =>
    constructor
    · intro same
      exact ⟨congrArg WorkDeliverable.contentPayload same,
        congrArg WorkDeliverable.executionTelemetry same, fun b member => by cases member⟩
    · rintro ⟨rfl, rfl, -⟩
      rfl
  | some b =>
    have id := keys b rfl
    constructor
    · intro same
      have kept : keepDeliverable b { d with contentPayload, executionTelemetry } = d := same
      refine ⟨congrArg WorkDeliverable.contentPayload kept,
        congrArg WorkDeliverable.executionTelemetry kept, ?_⟩
      rintro _ ⟨⟩
      rw [← kept]
      exact ⟨rfl, rfl, rfl, rfl⟩
    · rintro ⟨rfl, rfl, agree⟩
      obtain ⟨order, producer, credits, created⟩ := agree b rfl
      show keepDeliverable b d = d
      rw [keepDeliverable, order, producer, credits, created, id]

theorem settle_receipt {before : Option WorkDeliverableReceipt} {c : WorkDeliverableReceipt}
    (keys : ∀ b ∈ before, b.receiptId = c.receiptId) :
    (receipts tenants organisations).settle before c = c ↔ ∀ b ∈ before, SameSubject b c := by
  cases before with
  | none => exact iff_of_true rfl fun b member => by cases member
  | some b =>
    have id := keys b rfl
    constructor
    · intro same
      have kept : keepReceipt b c = c := same
      rintro _ ⟨⟩
      rw [← kept]
      exact ⟨rfl, rfl, rfl, rfl, rfl, rfl⟩
    · intro agree
      obtain ⟨order, deliverable, content, evidence, verifier, time⟩ := agree b rfl
      show keepReceipt b c = c
      rw [keepReceipt, order, deliverable, content, evidence, verifier, time, id]

theorem workOrder_read {row : WorkOrderRow} {b : WorkOrder} (read : rowToWorkOrder r row = some b) :
    b.key = row.key := by
  obtain ⟨_, -, read⟩ := Option.bind_eq_some_iff.mp read
  obtain ⟨_, -, read⟩ := Option.bind_eq_some_iff.mp read
  obtain ⟨_, -, read⟩ := Option.bind_eq_some_iff.mp read
  obtain ⟨_, -, read⟩ := Option.bind_eq_some_iff.mp read
  obtain rfl := Option.some.inj read
  rfl

theorem deliverable_read {row : DeliverableRow} {b : WorkDeliverable}
    (read : rowToDeliverable r row = some b) : b.deliverableId = row.key.id := by
  obtain ⟨_, -, read⟩ := Option.bind_eq_some_iff.mp read
  obtain ⟨_, -, read⟩ := Option.bind_eq_some_iff.mp read
  obtain ⟨_, -, read⟩ := Option.bind_eq_some_iff.mp read
  obtain rfl := Option.some.inj read
  rfl

theorem receipt_read {row : ReceiptRow} {b : WorkDeliverableReceipt}
    (read : rowToReceipt row = some b) : b.receiptId = row.key.id := by
  obtain ⟨_, -, read⟩ := Option.bind_eq_some_iff.mp read
  obtain ⟨_, -, read⟩ := Option.bind_eq_some_iff.mp read
  obtain rfl := Option.some.inj read
  rfl

/-- Every table is read as it was last saved. -/
structure Faithful (r : Rules) (tenants organisations : List String) (s : Repository) : Prop where
  workOrders : (workOrders r tenants organisations).Faithful s.workOrders
  deliverables : (deliverables r tenants organisations).Faithful s.deliverables
  receipts : (receipts tenants organisations).Faithful s.receipts

/-- What comes back as it was is verified as it was. -/
theorem roundTrips_iff_faithful :
    RoundTrips r tenants organisations s ↔ Faithful r tenants organisations s := by
  constructor
  · intro trips
    exact ⟨trips.workOrders, trips.deliverables, trips.receipts⟩
  · intro faithful
    refine ⟨faithful.workOrders, faithful.deliverables, faithful.receipts, ?_, ?_⟩
    · intro k d v w receiptId now c last verified accepted
      have back := faithful.deliverables k
      rw [last] at back
      exact ⟨d, c, back, verified, accepted, rfl, rfl⟩
    · intro k c key last verified
      have back := faithful.receipts k
      rw [last] at back
      exact ⟨c, back, verified⟩

theorem workOrder_sound_iff (laws : FloatColumns r.reprFloat r.parseFloat)
    (faithful : Faithful r tenants organisations s) (w : WorkOrder) :
    (workOrders r tenants organisations).Sound s.workOrders w ↔
      Stable r tenants organisations s (.workOrder w) := by
  refine Layout.sound_iff_of_row fun row wrote => ?_
  have keys : ∀ b ∈ s.workOrders.saved w.key, b.key = w.key := by
    intro b last
    obtain ⟨stored, own, read⟩ := faithful.workOrders.row last
    exact (workOrder_read read).trans own
  obtain ⟨metadata, text, rfl⟩ := workOrder_row wrote
  have column := loadsOrEmpty_iff laws text
  show (Option.map _ (rowToWorkOrder r _)) = some w ↔ _
  rw [rowToWorkOrder_written wrote, Option.map_map, Option.map_eq_some_iff]
  constructor
  · rintro ⟨data, read, settled⟩
    obtain ⟨rfl, agree⟩ := (settle_workOrder keys).mp settled
    exact ⟨column.mp read, agree⟩
  · rintro ⟨kept, agree⟩
    exact ⟨w.metadata, column.mpr kept, (settle_workOrder keys).mpr ⟨rfl, agree⟩⟩

theorem deliverable_sound_iff (laws : FloatColumns r.reprFloat r.parseFloat)
    (faithful : Faithful r tenants organisations s) (f : Filed WorkDeliverable) :
    (deliverables r tenants organisations).Sound s.deliverables f ↔
      Stable r tenants organisations s (.deliverable f) := by
  refine Layout.sound_iff_of_row fun row wrote => ?_
  have keys : ∀ b ∈ s.deliverables.saved (deliverableKey f),
      b.deliverableId = f.record.deliverableId := by
    intro b last
    obtain ⟨stored, own, read⟩ := faithful.deliverables.row last
    exact (deliverable_read read).trans (congrArg Key.id own)
  obtain ⟨payload, telemetry, text, other, rfl⟩ := deliverable_row wrote
  have content := loads_dumps_iff laws text
  have column := loadsOrEmpty_iff laws other
  show (Option.map _ (rowToDeliverable r _)) = some f.record ↔ _
  rw [rowToDeliverable_written wrote, Option.map_eq_some_iff]
  constructor
  · rintro ⟨d, read, settled⟩
    obtain ⟨data, first, read⟩ := Option.bind_eq_some_iff.mp read
    obtain ⟨more, second, rfl⟩ := Option.map_eq_some_iff.mp read
    obtain ⟨rfl, rfl, agree⟩ := (settle_deliverable keys).mp settled
    exact ⟨content.mp first, column.mp second, agree⟩
  · rintro ⟨textual, kept, agree⟩
    refine ⟨f.record, ?_, (settle_deliverable keys).mpr ⟨rfl, rfl, agree⟩⟩
    dsimp only
    rw [content.mpr textual, column.mpr kept]
    rfl

theorem receipt_sound_iff (faithful : Faithful r tenants organisations s)
    (f : Filed WorkDeliverableReceipt) :
    (receipts tenants organisations).Sound s.receipts f ↔
      Stable r tenants organisations s (.receipt f) := by
  refine Layout.sound_iff_of_row fun row wrote => ?_
  have keys : ∀ b ∈ s.receipts.saved (receiptKey f), b.receiptId = f.record.receiptId := by
    intro b last
    obtain ⟨stored, own, read⟩ := faithful.receipts.row last
    exact (receipt_read read).trans (congrArg Key.id own)
  obtain rfl := Option.some.inj wrote
  show (Option.map _ (rowToReceipt _)) = some f.record ↔ _
  rw [rowToReceipt_written, Option.map_some, Option.some_inj]
  exact settle_receipt keys

/-- A save round-trips exactly if it is stable. -/
theorem roundTrips_step_iff (laws : FloatColumns r.reprFloat r.parseFloat) (save : Save)
    (faithful : Faithful r tenants organisations s) :
    RoundTrips r tenants organisations (step r tenants organisations s save) ↔
      Stable r tenants organisations s save := by
  rw [roundTrips_iff_faithful]
  cases save with
  | workOrder w =>
    rw [← workOrder_sound_iff laws faithful, ← Layout.faithful_step_iff faithful.workOrders]
    exact ⟨fun after => after.workOrders,
      fun after => ⟨after, faithful.deliverables, faithful.receipts⟩⟩
  | deliverable f =>
    rw [← deliverable_sound_iff laws faithful, ← Layout.faithful_step_iff faithful.deliverables]
    exact ⟨fun after => after.deliverables,
      fun after => ⟨faithful.workOrders, after, faithful.receipts⟩⟩
  | receipt f =>
    rw [← receipt_sound_iff faithful, ← Layout.faithful_step_iff faithful.receipts]
    exact ⟨fun after => after.receipts,
      fun after => ⟨faithful.workOrders, faithful.deliverables, after⟩⟩

theorem faithful_empty : Faithful r tenants organisations .empty :=
  ⟨Layout.faithful_empty, Layout.faithful_empty, Layout.faithful_empty⟩

end Histories

section Samples

/-- Digests that are their texts, with Python's integral floats. -/
def sampleRules : Rules where
  sha256 := id
  reprFloat := TokenBinding.printFloat
  hmac := fun key text => key ++ text
  text := PythonConversions.asciiRules TokenBinding.printFloat
  parseFloat := EventStores.readFloat
  strOf := fun _ => ""

theorem sample_columns : FloatColumns sampleRules.reprFloat sampleRules.parseFloat where
  toFloatReading := EventStores.sample_reading
  solid f := by
    cases f with
    | finite q =>
      show ∀ c ∈ (TokenBinding.printFloat (.finite q)).toList, isBlank c = false
      rw [TokenBinding.finite_toList]
      intro c member
      rcases List.mem_append.mp member with num | rest
      · exact (solid_int q.num c num).1
      · rcases List.mem_cons.mp rest with rfl | den
        · decide
        · exact (solid_int (Int.ofNat _) c den).1
    | inf negative => cases negative <;> decide
    | nan => decide

theorem sampleClock_valid : PythonDates.Clock.Valid ⟨2026, 9, 17, 11, 30, 0, 0⟩ := by decide

def sampleTime : DateTime := ⟨_, some 0, sampleClock_valid, PythonDates.utc_bounded⟩

def sampleOrder : WorkOrder :=
  { workOrderId := "wo-1", tenantId := "t1", organisationId := "org1", clientId := "client"
    title := "Report", description := "", deliverableType := "report", requiredOrbioCredits := 10
    bountyAmount := 250, bountyAsset := .usdg, deadlineSeconds := 3600, status := .proposed
    createdAt := sampleTime, metadata := .dict [(.str "tier", .int 1)] }

def sampleDeliverable (extra : List (PyKey × Payload)) : Filed WorkDeliverable :=
  let payload : Payload := .dict ((.str "deliverable_type", .str "report") :: extra)
  ⟨"t1", "org1",
    { deliverableId := "d-1", workOrderId := "wo-1", producerAgentId := "agent"
      contentPayload := payload
      contentHash := (canonicalJsonHash sampleRules payload).getD ""
      orbioCreditsConsumed := 3, executionTelemetry := .dict [], createdAt := sampleTime }⟩

/-- A receipt as the verifier signs it for a content. -/
def sampleReceipt (contentHash : String) : Filed WorkDeliverableReceipt :=
  let unsigned : WorkOrders.WorkDeliverableReceipt :=
    ⟨"r-1", "wo-1", "d-1", contentHash, "e", "auditor", .accepted, "", none⟩
  ⟨"t1", "org1", ⟨unsigned.signed sampleRules.toSigningRules "key", sampleTime⟩⟩

/-- The order once work on it has begun. -/
def begun : WorkOrder := { sampleOrder with status := .inProgress }

/-- An order is saved, and again once it has begun; its deliverable and its receipt are saved. -/
def ordinary : List Save :=
  [.workOrder sampleOrder, .workOrder begun,
    .deliverable (sampleDeliverable [(.str "rows", .list [.int 1, .float (.finite 2)])]),
    .receipt (sampleReceipt "c1")]

def reissued : List Save := [.receipt (sampleReceipt "c1"), .receipt (sampleReceipt "c2")]

/-- A report with a count under each of the keys 2 and 10. -/
def counts : Filed WorkDeliverable :=
  sampleDeliverable [(.str "counts", .dict [(.int 2, .str "two"), (.int 10, .str "ten")])]

end Samples

end RepositoryHistories
