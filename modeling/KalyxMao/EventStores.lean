import KalyxMao.EventChain
import KalyxMao.PayloadText
import KalyxMao.TokenBinding

/-!
# The event log in memory and in SQLite

Both stores append an event that is hashed with its predecessor's hash. The one
in memory keeps the event, the one in SQLite a row of texts that it reads back
before it verifies. For the same events and clock readings the rows are the
events, text for text. What is read back verifies where the payloads sort by
their keys as they sort by the texts of their keys.
-/

namespace EventStores
open PythonText PythonDates EventChain PayloadText ColumnReading
open PythonValues (PyFloat PyValue)

/-- The hash function, Python's texts and floats, and what the driver takes as a parameter. -/
structure Rules (Other : Type) where
  sha256 : String → String
  reprFloat : PyFloat → String
  parseFloat : String → Option PyFloat
  str : Other → String
  truthy : Other → Bool
  binds : Value Other → Bool

/-- The arguments of `append_event` and what `utcnow` reads meanwhile. -/
structure Call (Other : Type) where
  actorId : String
  eventType : String
  entityId : String
  payload : List (PyKey × Value Other)
  tenantId : Option String
  organisationId : Option String
  now : DateTime
  naive : now.offset = none

variable {Other : Type} (r : Rules Other)

section Payloads

def payloadJson (items : List (PyKey × Value Other)) : Option String :=
  canonicalJson r.reprFloat r.str (.dict items)

/-- The payload of an `AuditEvent`: string keys, and hashed before. -/
structure Payload (r : Rules Other) where
  items : List (PyKey × Value Other)
  strings : (items.map Prod.fst).all PyKey.isStr = true
  text : String
  wrote : payloadJson r items = some text

def Payload.ofValue (v : Value Other) : Option (Payload r) :=
  match v with
  | .dict items =>
    if fits : (items.map Prod.fst).all PyKey.isStr = true ∧ (payloadJson r items).isSome then
      some ⟨items, fits.1, (payloadJson r items).get fits.2, (Option.some_get fits.2).symm⟩
    else none
  | _ => none

/-- `payload.get(key)`. -/
def get (payload : List (PyKey × Value Other)) (key : String) : Value Other :=
  ((payload.find? fun item => item.1 = .str key).map Prod.snd).getD .none

def truthy : Value Other → Bool
  | .none => false
  | .bool b => b
  | .int i => i ≠ 0
  | .float f => f ≠ .finite 0
  | .str s => s ≠ ""
  | .other o => r.truthy o
  | .list xs => !xs.isEmpty
  | .dict items => !items.isEmpty

/-- `a or b`. -/
def orElse (a b : Value Other) : Value Other := if truthy r a then a else b

def ofOption : Option String → Value Other
  | some s => .str s
  | none => .none

def effectiveTenant (c : Call Other) : Value Other :=
  orElse r (orElse r (ofOption c.tenantId) (get c.payload "tenant_id")) (.str "tenant-demo")

def effectiveOrg (c : Call Other) : Value Other :=
  let given := orElse r (orElse r (ofOption c.organisationId) (get c.payload "org_id"))
    (get c.payload "organisation_id")
  if !truthy r given && startsWith c.entityId "mao-" then .str c.entityId else given

end Payloads

section Memory

/-- `AppendOnlyEventStore.append_event`: the event, unless hashing or the model raises. -/
def memoryAppend (events : List (AuditEvent (Payload r))) (c : Call Other) :
    Option (AuditEvent (Payload r)) := do
  let sequenceId := events.length + 1
  let timestampIso := c.now.isoformat
  let previousEventHash := (events.getLast?.map AuditEvent.eventHash).getD genesisPreviousHash
  let payloadHash ← (payloadJson r c.payload).map r.sha256
  let eventHash := r.sha256 (serialized sequenceId timestampIso c.actorId c.eventType c.entityId
    payloadHash previousEventHash)
  let payload ← Payload.ofValue r (.dict c.payload)
  some ⟨sequenceId, Nat.le_add_left 1 _, c.now, c.actorId, c.eventType, c.entityId, payload,
    payloadHash, previousEventHash, eventHash⟩

/-- An event is stored last, so that a call that raises stores nothing. -/
def memoryStep (events : List (AuditEvent (Payload r))) (c : Call Other) :
    List (AuditEvent (Payload r)) := events ++ (memoryAppend r events c).toList

def memoryRun (calls : List (Call Other)) : List (AuditEvent (Payload r)) :=
  calls.foldl (memoryStep r) []

def memoryVerify (events : List (AuditEvent (Payload r))) : Bool × Option String :=
  verifyIntegrity r.sha256 Payload.text DateTime.isoformat events

end Memory

section Sqlite

/-- A row of `audit_events`, less the two columns that verification does not read. -/
structure Row where
  sequenceId : Nat
  timestamp : String
  actorId : String
  eventType : String
  entityId : String
  payload : String
  payloadHash : String
  previousEventHash : String
  eventHash : String

/-- `SqliteEventStore.append_event`. The row is committed before the event is built, and so it
stays where that raises. Rows stand in the order of their numbers. -/
def sqliteAppend (rows : List Row) (c : Call Other) : List Row × Option (AuditEvent (Payload r)) :=
  let last := rows.getLast?
  let sequenceId := (last.map Row.sequenceId).getD 0 + 1
  let previousEventHash := (last.map Row.eventHash).getD genesisPreviousHash
  let timestampIso := canonicalTimestampIso c.now
  match payloadJson r c.payload with
  | none => (rows, none)
  | some text =>
    let payloadHash := r.sha256 text
    let eventHash := r.sha256 (serialized sequenceId timestampIso c.actorId c.eventType c.entityId
      payloadHash previousEventHash)
    if r.binds (effectiveTenant r c) && r.binds (effectiveOrg r c) then
      (rows ++ [⟨sequenceId, timestampIso, c.actorId, c.eventType, c.entityId, text, payloadHash,
          previousEventHash, eventHash⟩],
        (Payload.ofValue r (.dict c.payload)).map fun payload =>
          ⟨sequenceId, Nat.le_add_left 1 _, c.now, c.actorId, c.eventType, c.entityId, payload,
            payloadHash, previousEventHash, eventHash⟩)
    else (rows, none)

def sqliteRun (calls : List (Call Other)) : List Row :=
  calls.foldl (fun rows c => (sqliteAppend r rows c).1) []

def readRow (row : Row) : Option (AuditEvent (Payload r)) := do
  let timestamp ← fromIsoformat row.timestamp
  let w ← loads r.parseFloat row.payload
  let payload ← Payload.ofValue r (ofJson w)
  if positive : 1 ≤ row.sequenceId then
    some ⟨row.sequenceId, positive, timestamp, row.actorId, row.eventType, row.entityId, payload,
      row.payloadHash, row.previousEventHash, row.eventHash⟩
  else none

/-- `SqliteEventStore.get_events` without filters. -/
def getEvents (rows : List Row) : Option (List (AuditEvent (Payload r))) := rows.mapM (readRow r)

def sqliteVerify (rows : List Row) : Option (Bool × Option String) :=
  (getEvents r rows).map (verifyIntegrity r.sha256 Payload.text canonicalTimestampIso)

end Sqlite

/-- Both stores return an event for the call. -/
structure Taken (c : Call Other) : Prop where
  writes : (payloadJson r c.payload).isSome = true
  strings : (c.payload.map Prod.fst).all PyKey.isStr = true
  tenant : r.binds (effectiveTenant r c) = true
  organisation : r.binds (effectiveOrg r c) = true

section Steps
variable {r}

theorem ofValue_some {items : List (PyKey × Value Other)} {text : String}
    (strings : (items.map Prod.fst).all PyKey.isStr = true) (wrote : payloadJson r items = some text) :
    Payload.ofValue r (.dict items) = some ⟨items, strings, text, wrote⟩ := by
  have fits : (items.map Prod.fst).all PyKey.isStr = true ∧ (payloadJson r items).isSome :=
    ⟨strings, by rw [wrote]; rfl⟩
  show (if fits : _ then _ else _) = _
  rw [dif_pos fits]
  simp only [wrote, Option.get_some]

/-- The texts a row keeps of an event. -/
def rowOf (e : AuditEvent (Payload r)) : Row :=
  ⟨e.sequenceId, e.timestamp.isoformat, e.actorId, e.eventType, e.entityId, e.payload.text,
    e.payloadHash, e.previousEventHash, e.eventHash⟩

theorem head_eq (events : List (AuditEvent (Payload r))) :
    (events.getLast?.map AuditEvent.eventHash).getD genesisPreviousHash =
      headHash genesisPreviousHash events := by
  by_cases empty : events = []
  · rw [empty]
    rfl
  · rw [headHash_of_ne_nil empty genesisPreviousHash]
    rfl

/-- The event after `n` others with the given head. -/
def newEvent (c : Call Other) (payload : Payload r) (n : Nat) (previous : String) :
    AuditEvent (Payload r) :=
  ⟨n + 1, Nat.le_add_left 1 n, c.now, c.actorId, c.eventType, c.entityId, payload,
    r.sha256 payload.text, previous,
    r.sha256 (serialized (n + 1) c.now.isoformat c.actorId c.eventType c.entityId
      (r.sha256 payload.text) previous)⟩

theorem newEvent_linked (c : Call Other) (payload : Payload r) (n : Nat) (previous : String) :
    Linked r.sha256 Payload.text DateTime.isoformat n previous (newEvent c payload n previous) :=
  ⟨rfl, rfl, rfl, rfl⟩

theorem Taken.payload {c : Call Other} (taken : Taken r c) : ∃ p : Payload r, p.items = c.payload := by
  obtain ⟨text, wrote⟩ := Option.isSome_iff_exists.mp taken.writes
  exact ⟨⟨c.payload, taken.strings, text, wrote⟩, rfl⟩

variable {c : Call Other} {payload : Payload r}

theorem memoryAppend_taken (same : payload.items = c.payload) (events : List (AuditEvent (Payload r))) :
    memoryAppend r events c =
      some (newEvent c payload events.length (headHash genesisPreviousHash events)) := by
  obtain ⟨items, strings, text, wrote⟩ := payload
  obtain rfl : items = c.payload := same
  rw [memoryAppend, head_eq, wrote, ofValue_some strings wrote]
  rfl

/-- Rows that stand for a log the memory store holds. -/
structure Mirrors (rows : List Row) (events : List (AuditEvent (Payload r))) : Prop where
  rows : rows = events.map rowOf
  last : (events.getLast?.map AuditEvent.sequenceId).getD 0 = events.length

theorem sqliteAppend_taken (taken : Taken r c) (same : payload.items = c.payload) {rows : List Row}
    {events : List (AuditEvent (Payload r))} (mirrors : Mirrors rows events) :
    sqliteAppend r rows c =
      (rows ++ [rowOf (newEvent c payload events.length (headHash genesisPreviousHash events))],
        some (newEvent c payload events.length (headHash genesisPreviousHash events))) := by
  obtain ⟨rfl, last⟩ := mirrors
  obtain ⟨items, strings, text, wrote⟩ := payload
  obtain rfl : items = c.payload := same
  have lastRow : (events.map rowOf).getLast? = events.getLast?.map rowOf := List.getLast?_map
  have number : (((events.map rowOf).getLast?).map Row.sequenceId).getD 0 = events.length := by
    rw [lastRow, Option.map_map]
    exact last
  have head : (((events.map rowOf).getLast?).map Row.eventHash).getD genesisPreviousHash =
      headHash genesisPreviousHash events := by
    rw [lastRow, Option.map_map]
    exact head_eq events
  have stamp : canonicalTimestampIso c.now = c.now.isoformat := by
    rw [canonicalTimestampIso, c.naive]
    rfl
  unfold sqliteAppend
  dsimp only
  simp only [number, head, stamp, wrote, taken.tenant, taken.organisation, Bool.and_self, if_true,
    ofValue_some strings wrote]
  rfl

/-- Whatever the stores hold, a call is taken if and only if both return an event for it. -/
theorem taken_iff (c : Call Other) (events : List (AuditEvent (Payload r))) (rows : List Row) :
    Taken r c ↔ (memoryAppend r events c).isSome = true ∧ (sqliteAppend r rows c).2.isSome = true := by
  constructor
  · intro taken
    obtain ⟨payload, same⟩ := taken.payload
    obtain ⟨text, wrote⟩ := Option.isSome_iff_exists.mp taken.writes
    rw [memoryAppend_taken same]
    refine ⟨rfl, ?_⟩
    unfold sqliteAppend
    simp only [wrote, taken.tenant, taken.organisation, Bool.and_self, if_true,
      ofValue_some taken.strings wrote, Option.map_some, Option.isSome_some]
  · rintro ⟨-, sqlite⟩
    unfold sqliteAppend at sqlite
    dsimp only at sqlite
    split at sqlite
    · cases sqlite
    · rename_i text wrote
      split_ifs at sqlite with bound
      · rw [Option.isSome_map] at sqlite
        obtain ⟨payload, made⟩ := Option.isSome_iff_exists.mp sqlite
        obtain ⟨tenant, organisation⟩ := (Bool.and_eq_true ..).mp bound
        refine ⟨by rw [wrote]; rfl, ?_, tenant, organisation⟩
        unfold Payload.ofValue at made
        dsimp only at made
        split_ifs at made with fits
        exact fits.1
      · cases sqlite

end Steps

section Runs
variable {r}

/-- What the two stores hold after calls that both took. -/
structure Logged (calls : List (Call Other)) (rows : List Row) (events : List (AuditEvent (Payload r))) :
    Prop where
  mirrors : Mirrors rows events
  chained : (verifyFrom r.sha256 Payload.text DateTime.isoformat 0 genesisPreviousHash events).1 = true
  naive : ∀ e ∈ events, e.timestamp.offset = none
  payloads : ∀ e ∈ events, ∃ c ∈ calls, e.payload.items = c.payload

theorem Logged.step {calls : List (Call Other)} {rows : List Row} {events : List (AuditEvent (Payload r))}
    (logged : Logged calls rows events) {c : Call Other} (taken : Taken r c) :
    Logged (calls ++ [c]) (sqliteAppend r rows c).1 (memoryStep r events c) := by
  obtain ⟨payload, same⟩ := taken.payload
  have link := newEvent_linked c payload events.length (headHash genesisPreviousHash events)
  rw [sqliteAppend_taken taken same logged.mirrors, memoryStep, memoryAppend_taken same]
  constructor
  · constructor
    · rw [logged.mirrors.rows, List.map_append]
      rfl
    · rw [Option.toList_some, List.getLast?_concat, List.length_append]
      rfl
  · refine (verifyFrom_concat ..).mpr ⟨logged.chained, ?_⟩
    rw [Nat.zero_add]
    exact link
  · exact List.forall_mem_append.mpr ⟨logged.naive, List.forall_mem_singleton.mpr c.naive⟩
  · refine List.forall_mem_append.mpr ⟨fun e member => ?_, List.forall_mem_singleton.mpr ?_⟩
    · obtain ⟨earlier, made, items⟩ := logged.payloads e member
      exact ⟨earlier, List.mem_append_left _ made, items⟩
    · exact ⟨c, List.mem_append_right _ List.mem_cons_self, same⟩

theorem logged_run {calls : List (Call Other)} (taken : ∀ c ∈ calls, Taken r c) :
    Logged calls (sqliteRun r calls) (memoryRun r calls) := by
  induction calls using List.reverseRecOn with
  | nil => exact ⟨⟨rfl, rfl⟩, rfl, by simp [memoryRun], by simp [memoryRun]⟩
  | append_singleton calls c ih =>
    obtain ⟨earlier, last⟩ := List.forall_mem_append.mp taken
    rw [sqliteRun, memoryRun, List.foldl_concat, List.foldl_concat]
    exact (ih earlier).step (last c List.mem_cons_self)

end Runs

section Rereading
variable {r}

/-- An event as it is read back: its payload is another with the same text. -/
structure Reread (e e' : AuditEvent (Payload r)) : Prop where
  sequence : e'.sequenceId = e.sequenceId
  timestamp : e'.timestamp = e.timestamp
  actor : e'.actorId = e.actorId
  eventType : e'.eventType = e.eventType
  entity : e'.entityId = e.entityId
  payload : e'.payload.text = e.payload.text
  payloadHash : e'.payloadHash = e.payloadHash
  previous : e'.previousEventHash = e.previousEventHash
  eventHash : e'.eventHash = e.eventHash

theorem readRow_rowOf (laws : FloatReading r.reprFloat r.parseFloat) {e : AuditEvent (Payload r)}
    (naive : e.timestamp.offset = none) (ordered : Ordered r.reprFloat (.dict e.payload.items)) :
    ∃ e', readRow r (rowOf e) = some e' ∧ Reread e e' := by
  obtain ⟨w, write, read, again⟩ := canonicalJson_reread laws ordered e.payload.wrote
  obtain ⟨texts, rfl⟩ := written_dict write
  have payload := ofValue_some (ofJsonItems_strings texts) again
  have read' : loads r.parseFloat (rowOf e).payload = some (.dict texts) := read
  have timestamp : fromIsoformat (rowOf e).timestamp = some e.timestamp :=
    fromIsoformat_isoformat naive
  refine ⟨⟨e.sequenceId, e.positive, e.timestamp, e.actorId, e.eventType, e.entityId,
    ⟨_, ofJsonItems_strings texts, e.payload.text, again⟩, e.payloadHash, e.previousEventHash,
    e.eventHash⟩, ?_, ⟨rfl, rfl, rfl, rfl, rfl, rfl, rfl, rfl, rfl⟩⟩
  rw [readRow, timestamp, read']
  show (Payload.ofValue r (.dict (ofJsonItems texts)) >>= _) = _
  rw [payload]
  exact dif_pos e.positive

theorem getEvents_rowOf (laws : FloatReading r.reprFloat r.parseFloat)
    {events : List (AuditEvent (Payload r))} (naive : ∀ e ∈ events, e.timestamp.offset = none)
    (ordered : ∀ e ∈ events, Ordered r.reprFloat (.dict e.payload.items)) :
    ∃ events', getEvents r (events.map rowOf) = some events' ∧ List.Forall₂ Reread events events' := by
  induction events with
  | nil => exact ⟨[], rfl, .nil⟩
  | cons e events ih =>
    obtain ⟨naiveFirst, naive⟩ := List.forall_mem_cons.mp naive
    obtain ⟨orderedFirst, ordered⟩ := List.forall_mem_cons.mp ordered
    obtain ⟨e', first, same⟩ := readRow_rowOf laws naiveFirst orderedFirst
    obtain ⟨events', rest, sames⟩ := ih naive ordered
    refine ⟨e' :: events', ?_, .cons same sames⟩
    rw [getEvents] at rest ⊢
    rw [List.map_cons, List.mapM_cons, first]
    show ((events.map rowOf).mapM (readRow r) >>= _) = _
    rw [rest]
    rfl

/-- What is read back verifies as the stored events do, the stamps of naive times being equal. -/
theorem verifyFrom_reread {idx : Nat} {previous : String} {events events' : List (AuditEvent (Payload r))}
    (reread : List.Forall₂ Reread events events') (naive : ∀ e ∈ events, e.timestamp.offset = none)
    (chained : (verifyFrom r.sha256 Payload.text DateTime.isoformat idx previous events).1 = true) :
    (verifyFrom r.sha256 Payload.text canonicalTimestampIso idx previous events').1 = true := by
  induction reread generalizing idx previous with
  | nil => rfl
  | @cons e e' events events' same _ ih =>
    obtain ⟨naiveFirst, naive⟩ := List.forall_mem_cons.mp naive
    obtain ⟨link, rest⟩ := (verifyFrom_cons ..).mp chained
    have stamp : canonicalTimestampIso e.timestamp = e.timestamp.isoformat := by
      rw [canonicalTimestampIso, naiveFirst]
      rfl
    refine (verifyFrom_cons ..).mpr ⟨⟨same.sequence.trans link.sequence,
      same.previous.trans link.previous, ?_, ?_⟩, ?_⟩
    · rw [same.payloadHash, link.payload, computePayloadHash, computePayloadHash, same.payload]
    · rw [same.eventHash, link.event]
      unfold preimage
      rw [same.sequence, same.timestamp, stamp, same.actor, same.eventType, same.entity,
        same.payloadHash, same.previous]
    · rw [same.eventHash]
      exact ih naive rest

end Rereading

section Claim
variable {r}

/-- An event's number and its three hashes. -/
structure Link where
  sequenceId : Nat
  payloadHash : String
  previousEventHash : String
  eventHash : String
  deriving DecidableEq

def eventLink (e : AuditEvent (Payload r)) : Link :=
  ⟨e.sequenceId, e.payloadHash, e.previousEventHash, e.eventHash⟩

def rowLink (row : Row) : Link :=
  ⟨row.sequenceId, row.payloadHash, row.previousEventHash, row.eventHash⟩

/-- After any calls that both stores take, the log in memory verifies and the rows are the same
chain. The rows verify as well if in no payload two keys sort otherwise than their texts. -/
theorem stores_verify (laws : FloatReading r.reprFloat r.parseFloat) (calls : List (Call Other))
    (taken : ∀ c ∈ calls, Taken r c) :
    memoryVerify r (memoryRun r calls) = (true, none) ∧
      (sqliteRun r calls).map rowLink = (memoryRun r calls).map eventLink ∧
      ((∀ c ∈ calls, Ordered r.reprFloat (.dict c.payload)) →
        sqliteVerify r (sqliteRun r calls) = some (true, none)) := by
  obtain ⟨⟨rows, -⟩, chained, naive, payloads⟩ := logged_run taken
  refine ⟨verifyFrom_true _ _ _ chained, ?_, fun ordered => ?_⟩
  · rw [rows, List.map_map]
    rfl
  · have orders : ∀ e ∈ memoryRun r calls, Ordered r.reprFloat (.dict e.payload.items) := by
      intro e member
      obtain ⟨c, made, items⟩ := payloads e member
      rw [items]
      exact ordered c made
    obtain ⟨events', read, reread⟩ := getEvents_rowOf laws naive orders
    rw [sqliteVerify, rows, read, Option.map_some]
    exact congrArg some (verifyFrom_true _ _ _ (verifyFrom_reread reread naive chained))

end Claim

section Samples
open TokenBinding (printFloat printFloat_laws finite_toList finite_ne dot_notInt)

/-- Reads an integral float, and a ratio as it is printed beside them. -/
def readFloat (s : String) : Option PyFloat :=
  if s = "NaN" then some .nan
  else if s = "Infinity" then some (.inf false)
  else if s = "-Infinity" then some (.inf true)
  else do
    let num ← readInt (String.ofList (s.toList.takeWhile (· ≠ '.')))
    let den ← readInt (String.ofList (s.toList.dropWhile (· ≠ '.')).tail)
    some (.finite (num / (if den = 0 then 1 else den : Int)))

theorem readFloat_printFloat (f : PyFloat) : readFloat (printFloat f) = some f := by
  cases f with
  | finite q =>
    have plain : ∀ c ∈ (toString q.num).toList, decide (c ≠ '.') = true := by
      intro c member
      refine decide_eq_true ?_
      rintro rfl
      exact dot_notInt q.num member
    have stop : ∀ rest, ('.' :: rest).takeWhile (· ≠ '.') = [] := fun _ => rfl
    have left : ∀ rest : List Char, (('.' :: rest).dropWhile (· ≠ '.')).tail = rest := fun _ => rfl
    have den : readInt (if q.den = 1 then 0 else q.den).repr =
        some ((if q.den = 1 then 0 else q.den : Nat) : Int) :=
      readInt_toString (Int.ofNat (if q.den = 1 then 0 else q.den))
    rw [readFloat, if_neg (finite_ne (by decide)), if_neg (finite_ne (by decide)),
      if_neg (finite_ne (by decide)), finite_toList, List.takeWhile_append_of_pos plain,
      List.dropWhile_append_of_pos plain, stop, left, List.append_nil, String.ofList_toList,
      String.ofList_toList, readInt_toString, den]
    show some (PyFloat.finite _) = _
    congr 2
    by_cases one : q.den = 1
    · rw [if_pos one]
      show (q.num : ℚ) / ((1 : Int) : ℚ) = q
      rw [Int.cast_one, div_one]
      exact (Rat.den_eq_one_iff q).mp one
    · rw [if_neg one, if_neg (Int.natCast_ne_zero.mpr q.den_nz)]
      exact Rat.num_div_den q
  | inf negative => cases negative <;> decide +kernel
  | nan => decide +kernel

theorem sample_reading : FloatReading printFloat readFloat := ⟨printFloat_laws, readFloat_printFloat⟩

def countsHash : String := "722191f6e9f18c58f3adbc47f080c4da30901fc9c6f6886e4ee4294390c5c2ee"

def rereadHash : String := "3ed4f3ac719219d24ef6af6d266e6939f56de3f69a23fdca0159ea9f1c805518"

def countsText : String :=
  "1|2024-01-01T00:00:00|a|t|e|722191f6e9f18c58f3adbc47f080c4da30901fc9c6f6886e4ee4294390c5c2ee|0000000000000000000000000000000000000000000000000000000000000000"

/-- SHA-256 on the texts of the counts, objects that are known by their `str`, and a driver that
takes no compound values. -/
def sampleRules : Rules String where
  sha256 s :=
    if s = "\x7b\"counts\":\x7b\"2\":\"two\",\"10\":\"ten\"\x7d\x7d" then countsHash
    else if s = "\x7b\"counts\":\x7b\"10\":\"ten\",\"2\":\"two\"\x7d\x7d" then rereadHash
    else if s = countsText then "d8835a2cb7f59667cd20df28f8b85a07817e8716b8d505f60919e71b457eccbf"
    else genesisPreviousHash
  reprFloat := printFloat
  parseFloat := readFloat
  str := id
  truthy _ := true
  binds v := match v with
    | .other _ => false
    | .list _ => false
    | .dict _ => false
    | _ => true

def sampleCall (payload : List (PyKey × Value String)) : Call String :=
  ⟨"a", "t", "e", payload, none, none, newYear, rfl⟩

/-- Integer keys that sort as their texts do, a float, and an object written as its `str`. -/
def orderedCall : Call String := sampleCall
  [(.str "totals", .dict [(.int 2, .list [.none]), (.int 1, .float (.finite 1))]),
    (.str "amount", .other "0.10")]

def countsCall : Call String := sampleCall
  [(.str "counts", .dict [(.int 2, .str "two"), (.int 10, .str "ten")])]

theorem ordered_calls_verify :
    memoryVerify sampleRules (memoryRun sampleRules [orderedCall, orderedCall]) = (true, none) ∧
      (sqliteRun sampleRules [orderedCall, orderedCall]).map rowLink =
        (memoryRun sampleRules [orderedCall, orderedCall]).map eventLink ∧
      sqliteVerify sampleRules (sqliteRun sampleRules [orderedCall, orderedCall]) = some (true, none) := by
  have taken : ∀ c ∈ [orderedCall, orderedCall], Taken sampleRules c := by
    have one : Taken sampleRules orderedCall :=
      ⟨by decide +kernel, by decide +kernel, by decide +kernel, by decide +kernel⟩
    simp [one]
  have ordered : ∀ c ∈ [orderedCall, orderedCall], Ordered sampleRules.reprFloat (.dict c.payload) := by
    have one : Ordered sampleRules.reprFloat (.dict orderedCall.payload) :=
      ⟨by decide +kernel, ⟨by decide +kernel, ⟨trivial, trivial⟩, trivial, trivial⟩, trivial, trivial⟩
    simp [one]
  obtain ⟨memory, same, sqlite⟩ := stores_verify sample_reading [orderedCall, orderedCall] taken
  exact ⟨memory, same, sqlite ordered⟩

/-- The keys 2 and 10 sort by number and, once they are texts, the other way. -/
theorem counts_corrupted :
    Taken sampleRules countsCall ∧
      memoryVerify sampleRules (memoryRun sampleRules [countsCall]) = (true, none) ∧
      sqliteVerify sampleRules (sqliteRun sampleRules [countsCall]) =
        some (false, some "Payload hash corrupted at sequence 1") := by
  refine ⟨⟨by decide +kernel, by decide +kernel, by decide +kernel, by decide +kernel⟩, ?_, ?_⟩
  · decide +kernel
  · decide +kernel

end Samples

end EventStores
