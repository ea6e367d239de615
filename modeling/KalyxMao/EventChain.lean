import Mathlib.Data.Set.Function
import Mathlib.Data.List.Forall2
import KalyxMao.PythonDates
import KalyxMao.PythonValues

/-!
# What the head of an event log commits to

Each event is hashed with its payload's hash and its predecessor's hash. The
hashed text joins the fields with bars, and three of them are free text. The
chain therefore fixes the three together, and each of them exactly when none
holds a bar. The SQLite store also drops the UTC offset before it hashes.
-/

namespace EventChain
open PythonText PythonDates PythonValues

structure AuditEvent (P : Type) where
  sequenceId : Nat
  positive : 1 ≤ sequenceId
  timestamp : DateTime
  actorId : String
  eventType : String
  entityId : String
  payload : P
  payloadHash : String
  previousEventHash : String
  eventHash : String

/-- `canonical_timestamp_iso`. -/
def canonicalTimestampIso (value : DateTime) : String :=
  if value.offset.isSome then value.naive.isoformat else value.isoformat

def genesisPreviousHash : String := String.ofList (List.replicate 64 '0')

def serialized (sequenceId : Nat) (timestampIso actorId eventType entityId payloadHash
    previousEventHash : String) : String :=
  s!"{sequenceId}|{timestampIso}|{actorId}|{eventType}|{entityId}|{payloadHash}|{previousEventHash}"

section Verification
variable {P : Type} (sha : String → String) (canonicalJson : P → String) (stamp : DateTime → String)

/-- The text `compute_event_hash` hashes for an event. -/
def preimage (e : AuditEvent P) : String :=
  serialized e.sequenceId (stamp e.timestamp) e.actorId e.eventType e.entityId e.payloadHash
    e.previousEventHash

def computePayloadHash (payload : P) : String := sha (canonicalJson payload)

/-- The loop of `verify_integrity` from an index on. The stores differ in the stamp. -/
def verifyFrom (idx : Nat) (expectedPrevHash : String) :
    List (AuditEvent P) → Bool × Option String
  | [] => (true, none)
  | e :: rest =>
    if e.sequenceId ≠ idx + 1 then
      (false, some s!"Sequence mismatch at index {idx}: expected {idx + 1}, got {e.sequenceId}")
    else if e.previousEventHash ≠ expectedPrevHash then
      (false, some
        s!"Hash chain broken at sequence {e.sequenceId}: previous_event_hash does not match")
    else if e.payloadHash ≠ computePayloadHash sha canonicalJson e.payload then
      (false, some s!"Payload hash corrupted at sequence {e.sequenceId}")
    else if e.eventHash ≠ sha (preimage stamp e) then
      (false, some s!"Event hash mismatch at sequence {e.sequenceId}")
    else verifyFrom (idx + 1) e.eventHash rest

def verifyIntegrity (events : List (AuditEvent P)) : Bool × Option String :=
  verifyFrom sha canonicalJson stamp 0 genesisPreviousHash events

def Accepted (events : List (AuditEvent P)) : Prop :=
  (verifyIntegrity sha canonicalJson stamp events).1 = true

/-- An event at its place: its own number, its predecessor's hash, its own hashes. -/
structure Linked (idx : Nat) (previous : String) (e : AuditEvent P) : Prop where
  sequence : e.sequenceId = idx + 1
  previous : e.previousEventHash = previous
  payload : e.payloadHash = computePayloadHash sha canonicalJson e.payload
  event : e.eventHash = sha (preimage stamp e)

theorem verifyFrom_cons (idx : Nat) (previous : String) (e : AuditEvent P)
    (rest : List (AuditEvent P)) :
    (verifyFrom sha canonicalJson stamp idx previous (e :: rest)).1 = true ↔
      Linked sha canonicalJson stamp idx previous e ∧
        (verifyFrom sha canonicalJson stamp (idx + 1) e.eventHash rest).1 = true := by
  rw [verifyFrom]
  split_ifs with sequence prev payload event
  · exact iff_of_false id fun both => sequence both.1.sequence
  · exact iff_of_false id fun both => prev both.1.previous
  · exact iff_of_false id fun both => payload both.1.payload
  · exact iff_of_false id fun both => event both.1.event
  · constructor
    · intro rest
      exact ⟨⟨not_not.mp sequence, not_not.mp prev, not_not.mp payload, not_not.mp event⟩, rest⟩
    · exact And.right

/-- The last event hash of a chain, or what stands before its first event. -/
def headHash (previous : String) (events : List (AuditEvent P)) : String :=
  events.foldl (fun _ e => e.eventHash) previous

/-- A log grows by an event that is linked to its head. -/
theorem verifyFrom_concat (idx : Nat) (previous : String) (events : List (AuditEvent P))
    (e : AuditEvent P) :
    (verifyFrom sha canonicalJson stamp idx previous (events ++ [e])).1 = true ↔
      (verifyFrom sha canonicalJson stamp idx previous events).1 = true ∧
        Linked sha canonicalJson stamp (idx + events.length) (headHash previous events) e := by
  induction events generalizing idx previous with
  | nil =>
    rw [List.nil_append, verifyFrom_cons]
    exact ⟨fun both => ⟨rfl, both.1⟩, fun both => ⟨both.2, rfl⟩⟩
  | cons first events ih =>
    rw [List.cons_append, verifyFrom_cons, verifyFrom_cons, ih, and_assoc, List.length_cons,
      Nat.add_right_comm, Nat.add_assoc]
    rfl

/-- Verification names no defect where it finds none. -/
theorem verifyFrom_true {idx : Nat} {previous : String} {events : List (AuditEvent P)}
    (accepted : (verifyFrom sha canonicalJson stamp idx previous events).1 = true) :
    verifyFrom sha canonicalJson stamp idx previous events = (true, none) := by
  induction events generalizing idx previous with
  | nil => rfl
  | cons e rest ih =>
    obtain ⟨link, tail⟩ := (verifyFrom_cons ..).mp accepted
    rw [verifyFrom, if_neg (not_not.mpr link.sequence), if_neg (not_not.mpr link.previous),
      if_neg (not_not.mpr link.payload), if_neg (not_not.mpr link.event)]
    exact ih tail

/-- The strings a log has hashed. -/
def hashed (events : List (AuditEvent P)) : Set String :=
  {s | ∃ e ∈ events, s = canonicalJson e.payload ∨ s = preimage stamp e}

end Verification

section Joining

/-- The three free fields as they stand between the others. -/
def joined {P : Type} (e : AuditEvent P) : List Char :=
  e.actorId.toList ++ '|' :: (e.eventType.toList ++ '|' :: e.entityId.toList)

/-- None of the free fields holds the separator. -/
def Plain {P : Type} (e : AuditEvent P) : Prop :=
  '|' ∉ e.actorId.toList ∧ '|' ∉ e.eventType.toList ∧ '|' ∉ e.entityId.toList

variable {P : Type} {stamp : DateTime → String} {e e' : AuditEvent P}

theorem preimage_toList (stamp : DateTime → String) (e : AuditEvent P) :
    (preimage stamp e).toList = (toString e.sequenceId).toList ++ '|' :: ((stamp e.timestamp).toList ++
      '|' :: ((joined e ++ '|' :: e.payloadHash.toList) ++ '|' :: e.previousEventHash.toList)) := by
  show (toString e.sequenceId ++ "|" ++ stamp e.timestamp ++ "|" ++ e.actorId ++ "|" ++ e.eventType ++
    "|" ++ e.entityId ++ "|" ++ e.payloadHash ++ "|" ++ e.previousEventHash).toList = _
  simp [joined]

/-- What the hashed text of an event determines, whatever the free fields hold. -/
theorem preimage_inj (stamps : ∀ d, '|' ∉ (stamp d).toList)
    (payload : '|' ∉ e.payloadHash.toList) (payload' : '|' ∉ e'.payloadHash.toList)
    (previous : '|' ∉ e.previousEventHash.toList) (previous' : '|' ∉ e'.previousEventHash.toList)
    (sequence : e.sequenceId = e'.sequenceId) (same : preimage stamp e = preimage stamp e') :
    stamp e.timestamp = stamp e'.timestamp ∧ joined e = joined e' ∧
      e.payloadHash = e'.payloadHash ∧ e.previousEventHash = e'.previousEventHash := by
  have texts := congrArg String.toList same
  rw [preimage_toList, preimage_toList, sequence] at texts
  have tails := (List.cons.inj (List.append_cancel_left texts)).2
  obtain ⟨times, tails⟩ := append_cons_inj_first (stamps _) (stamps _) tails
  obtain ⟨fields, prevs⟩ := append_cons_inj_last previous previous' tails
  obtain ⟨fields, payloads⟩ := append_cons_inj_last payload payload' fields
  exact ⟨String.toList_inj.mp times, fields, String.toList_inj.mp payloads,
    String.toList_inj.mp prevs⟩

theorem joined_count (e : AuditEvent P) :
    (joined e).count '|' = e.actorId.toList.count '|' + e.eventType.toList.count '|' +
      e.entityId.toList.count '|' + 2 := by
  rw [joined, List.count_append, List.count_cons_self, List.count_append, List.count_cons_self]
  omega

/-- Plain fields can be read back, also against fields that are not known to be plain. -/
theorem joined_inj (plain : Plain e) (same : joined e = joined e') :
    e.actorId = e'.actorId ∧ e.eventType = e'.eventType ∧ e.entityId = e'.entityId := by
  obtain ⟨actor, type_, entity⟩ := plain
  have counts := congrArg (List.count '|') same
  rw [joined_count, joined_count, List.count_eq_zero.mpr actor, List.count_eq_zero.mpr type_,
    List.count_eq_zero.mpr entity] at counts
  have actor' : '|' ∉ e'.actorId.toList := List.count_eq_zero.mp (by omega)
  have type' : '|' ∉ e'.eventType.toList := List.count_eq_zero.mp (by omega)
  obtain ⟨actors, tails⟩ := append_cons_inj_first actor actor' same
  obtain ⟨types, entities⟩ := append_cons_inj_first type_ type' tails
  exact ⟨String.toList_inj.mp actors, String.toList_inj.mp types, String.toList_inj.mp entities⟩

/-- A field with a separator can give its rest to the next field. -/
theorem resplit (e : AuditEvent P) (mixed : ¬Plain e) :
    ∃ actor type_ entity : String,
      joined { e with actorId := actor, eventType := type_, entityId := entity } = joined e ∧
        ¬(e.actorId = actor ∧ e.eventType = type_ ∧ e.entityId = entity) := by
  rw [Plain, not_and_or, not_and_or, not_not, not_not, not_not] at mixed
  rcases mixed with actor | type_ | entity
  · obtain ⟨a, b, split⟩ := List.append_of_mem actor
    refine ⟨String.ofList a, String.ofList b ++ "|" ++ e.eventType, e.entityId, ?_,
      fun same => ofList_ne_of_split split same.1⟩
    simp [joined, split]
  · obtain ⟨a, b, split⟩ := List.append_of_mem type_
    refine ⟨e.actorId, String.ofList a, String.ofList b ++ "|" ++ e.entityId, ?_,
      fun same => ofList_ne_of_split split same.2.1⟩
    simp [joined, split]
  · obtain ⟨a, b, split⟩ := List.append_of_mem entity
    refine ⟨e.actorId, e.eventType ++ "|" ++ String.ofList a, String.ofList b, ?_, fun same => ?_⟩
    · simp [joined, split]
    · have lengths := congrArg String.length same.2.1
      simp only [String.length_append] at lengths
      have : ("|" : String).length = 1 := by decide
      omega

end Joining

section Chain
variable {P : Type} {sha : String → String} {canonicalJson : P → String} {stamp : DateTime → String}

theorem bar_not_genesis : '|' ∉ genesisPreviousHash.toList := by decide

theorem bar_not_iso (d : DateTime) : '|' ∉ d.isoformat.toList := by
  intro bar
  rcases isoformat_chars d '|' bar with digit | mark
  · exact absurd digit (by decide)
  · exact absurd mark (by decide)

theorem canonicalTimestampIso_eq (d : DateTime) : canonicalTimestampIso d = d.naive.isoformat := by
  rw [canonicalTimestampIso]
  split_ifs with aware
  · rfl
  · congr 1
    exact DateTime.ext_fields rfl (Option.not_isSome_iff_eq_none.mp aware)

/-- What two events at one place of two chains share. -/
structure Same (canonicalJson : P → String) (stamp : DateTime → String) (e e' : AuditEvent P) :
    Prop where
  sequence : e.sequenceId = e'.sequenceId
  timestamp : stamp e.timestamp = stamp e'.timestamp
  fields : joined e = joined e'
  payload : canonicalJson e.payload = canonicalJson e'.payload
  previous : e.previousEventHash = e'.previousEventHash

theorem headHash_of_ne_nil {events : List (AuditEvent P)} (filled : events ≠ []) (previous : String) :
    events.getLast?.map AuditEvent.eventHash = some (headHash previous events) := by
  induction events generalizing previous with
  | nil => exact absurd rfl filled
  | cons e rest ih =>
    cases rest with
    | nil => rfl
    | cons e' rest' =>
      rw [List.getLast?_cons_cons]
      exact ih (List.cons_ne_nil e' rest') e.eventHash

/-- Two chains of one length and one head agree event by event. The induction goes from
the first event, and the hypothesis for the rest gives the equal hash of this one. -/
theorem chain_commits (digest : ∀ s, ∀ c ∈ (sha s).toList, IsHexDigit c)
    (stamps : ∀ d, '|' ∉ (stamp d).toList) {idx : Nat} {p p' : String} (hp : '|' ∉ p.toList)
    (hp' : '|' ∉ p'.toList) {L L' : List (AuditEvent P)} (lengths : L.length = L'.length)
    (accepted : (verifyFrom sha canonicalJson stamp idx p L).1 = true)
    (accepted' : (verifyFrom sha canonicalJson stamp idx p' L').1 = true)
    (injective : Set.InjOn sha (hashed canonicalJson stamp L ∪ hashed canonicalJson stamp L'))
    (heads : headHash p L = headHash p' L') :
    List.Forall₂ (Same canonicalJson stamp) L L' ∧ p = p' := by
  have bar (s : String) : '|' ∉ (sha s).toList := fun found => absurd (digest s _ found) (by decide)
  induction L generalizing idx p p' L' with
  | nil =>
    obtain rfl := List.length_eq_zero_iff.mp lengths.symm
    exact ⟨.nil, heads⟩
  | cons e rest ih =>
    cases L' with
    | nil => cases lengths
    | cons e' rest' =>
      obtain ⟨link, accepted⟩ := (verifyFrom_cons ..).mp accepted
      obtain ⟨link', accepted'⟩ := (verifyFrom_cons ..).mp accepted'
      have inTail (L : List (AuditEvent P)) (e : AuditEvent P) :
          hashed canonicalJson stamp L ⊆ hashed canonicalJson stamp (e :: L) := by
        rintro s ⟨f, hf, which⟩
        exact ⟨f, List.mem_cons_of_mem e hf, which⟩
      obtain ⟨rests, hashes⟩ := ih (by rw [link.event]; exact bar _) (by rw [link'.event]; exact bar _)
        (Nat.succ.inj lengths) accepted accepted'
        (injective.mono (Set.union_subset_union (inTail rest e) (inTail rest' e'))) heads
      have texts : preimage stamp e = preimage stamp e' := by
        refine injective (.inl ⟨e, List.mem_cons_self, .inr rfl⟩)
          (.inr ⟨e', List.mem_cons_self, .inr rfl⟩) ?_
        rw [← link.event, ← link'.event, hashes]
      obtain ⟨times, fields, payloads, previous⟩ := preimage_inj stamps
        (by rw [link.payload]; exact bar _) (by rw [link'.payload]; exact bar _)
        (by rw [link.previous]; exact hp) (by rw [link'.previous]; exact hp')
        (link.sequence.trans link'.sequence.symm) texts
      have canonical : canonicalJson e.payload = canonicalJson e'.payload := by
        refine injective (.inl ⟨e, List.mem_cons_self, .inl rfl⟩)
          (.inr ⟨e', List.mem_cons_self, .inl rfl⟩) ?_
        exact link.payload.symm.trans (payloads.trans link'.payload)
      refine ⟨.cons ⟨link.sequence.trans link'.sequence.symm, times, fields, canonical, previous⟩ rests,
        ?_⟩
      rw [← link.previous, ← link'.previous, previous]

/-- A change of an event that none of the checks can see. -/
structure Unseen (canonicalJson : P → String) (stamp : DateTime → String) (e e' : AuditEvent P) :
    Prop where
  sequence : e'.sequenceId = e.sequenceId
  previous : e'.previousEventHash = e.previousEventHash
  payloadHash : e'.payloadHash = e.payloadHash
  eventHash : e'.eventHash = e.eventHash
  payload : canonicalJson e'.payload = canonicalJson e.payload
  text : preimage stamp e' = preimage stamp e

theorem verifyFrom_map {f : AuditEvent P → AuditEvent P}
    (unseen : ∀ e, Unseen canonicalJson stamp e (f e)) (idx : Nat) (p : String)
    (L : List (AuditEvent P)) :
    (verifyFrom sha canonicalJson stamp idx p (L.map f)).1 = true ↔
      (verifyFrom sha canonicalJson stamp idx p L).1 = true := by
  induction L generalizing idx p with
  | nil => exact Iff.rfl
  | cons e rest ih =>
    obtain ⟨sequence, previous, payloadHash, eventHash, payload, text⟩ := unseen e
    rw [List.map_cons, verifyFrom_cons, verifyFrom_cons, eventHash, ih]
    refine and_congr_left fun _ => ⟨fun link => ?_, fun link => ?_⟩
    · obtain ⟨s, p, h, v⟩ := link
      rw [computePayloadHash, payload, payloadHash] at h
      exact ⟨sequence.symm.trans s, previous.symm.trans p, h, by rw [← eventHash, v, text]⟩
    · obtain ⟨s, p, h, v⟩ := link
      refine ⟨sequence.trans s, previous.trans p, ?_, by rw [eventHash, v, text]⟩
      rw [computePayloadHash, payload, payloadHash]
      exact h

theorem hashed_map {f : AuditEvent P → AuditEvent P}
    (unseen : ∀ e, Unseen canonicalJson stamp e (f e)) (L : List (AuditEvent P)) :
    hashed canonicalJson stamp (L.map f) = hashed canonicalJson stamp L := by
  ext s
  constructor
  · rintro ⟨_, member, which⟩
    obtain ⟨e, he, rfl⟩ := List.mem_map.mp member
    rw [(unseen e).payload, (unseen e).text] at which
    exact ⟨e, he, which⟩
  · rintro ⟨e, he, which⟩
    rw [← (unseen e).payload, ← (unseen e).text] at which
    exact ⟨f e, List.mem_map_of_mem he, which⟩

/-- Two events agree on every field, timestamps as `sameTime` compares them. -/
structure Agree (canonicalJson : P → String) (sameTime : DateTime → DateTime → Prop)
    (e e' : AuditEvent P) : Prop where
  sequence : e.sequenceId = e'.sequenceId
  timestamp : sameTime e.timestamp e'.timestamp
  actor : e.actorId = e'.actorId
  eventType : e.eventType = e'.eventType
  entity : e.entityId = e'.entityId
  previous : e.previousEventHash = e'.previousEventHash
  payload : canonicalJson e.payload = canonicalJson e'.payload

/-- No other accepted log of this length ends in the same hash. -/
def Committed (sha : String → String) (canonicalJson : P → String) (stamp : DateTime → String)
    (sameTime : DateTime → DateTime → Prop) (L : List (AuditEvent P)) : Prop :=
  ∀ L' : List (AuditEvent P), Accepted sha canonicalJson stamp L' → L.length = L'.length →
    L.getLast?.map AuditEvent.eventHash = L'.getLast?.map AuditEvent.eventHash →
    Set.InjOn sha (hashed canonicalJson stamp L ∪ hashed canonicalJson stamp L') →
    List.Forall₂ (Agree canonicalJson sameTime) L L'

/-- The log with each event changed unseen is another log the head commits to. -/
theorem Committed.map_unseen {sameTime : DateTime → DateTime → Prop} {L : List (AuditEvent P)}
    (committed : Committed sha canonicalJson stamp sameTime L)
    (accepted : Accepted sha canonicalJson stamp L)
    (injective : Set.InjOn sha (hashed canonicalJson stamp L)) {f : AuditEvent P → AuditEvent P}
    (unseen : ∀ e, Unseen canonicalJson stamp e (f e)) :
    ∀ e ∈ L, Agree canonicalJson sameTime e (f e) := by
  have lasts : L.getLast?.map AuditEvent.eventHash =
      (L.map f).getLast?.map AuditEvent.eventHash := by
    rw [List.getLast?_map, Option.map_map]
    exact congrArg (Option.map · _) (funext fun e => (unseen e).eventHash.symm)
  have agree := committed (L.map f) ((verifyFrom_map unseen 0 _ L).mpr accepted)
    (List.length_map f).symm lasts (by rwa [hashed_map unseen, Set.union_self])
  rw [List.forall₂_map_right_iff, List.forall₂_same] at agree
  exact agree

theorem committed_plain (digest : ∀ s, ∀ c ∈ (sha s).toList, IsHexDigit c)
    (stamps : ∀ d, '|' ∉ (stamp d).toList) {sameTime : DateTime → DateTime → Prop}
    (times : ∀ d d', stamp d = stamp d' → sameTime d d') {L : List (AuditEvent P)}
    (accepted : Accepted sha canonicalJson stamp L) (plain : ∀ e ∈ L, Plain e) :
    Committed sha canonicalJson stamp sameTime L := by
  intro L' accepted' lengths lasts injective
  have heads : headHash genesisPreviousHash L = headHash genesisPreviousHash L' := by
    by_cases empty : L = []
    · rw [empty] at lengths ⊢
      rw [List.length_eq_zero_iff.mp lengths.symm]
    · have filled' : L' ≠ [] := by
        rintro rfl
        exact empty (List.length_eq_zero_iff.mp lengths)
      rw [headHash_of_ne_nil empty genesisPreviousHash,
        headHash_of_ne_nil filled' genesisPreviousHash] at lasts
      exact Option.some.inj lasts
  obtain ⟨same, _⟩ := chain_commits digest stamps bar_not_genesis bar_not_genesis lengths accepted
    accepted' injective heads
  refine List.Forall₂.imp (fun e e' both => ?_) ((List.forall₂_and_left _ _).mpr ⟨plain, same⟩)
  obtain ⟨plain, same⟩ := both
  obtain ⟨actor, type_, entity⟩ := joined_inj plain same.fields
  exact ⟨same.sequence, times _ _ same.timestamp, actor, type_, entity, same.previous, same.payload⟩

theorem plain_of_committed {sameTime : DateTime → DateTime → Prop} {L : List (AuditEvent P)}
    (accepted : Accepted sha canonicalJson stamp L)
    (injective : Set.InjOn sha (hashed canonicalJson stamp L))
    (committed : Committed sha canonicalJson stamp sameTime L) : ∀ e ∈ L, Plain e := by
  have exists_ (e : AuditEvent P) : ∃ e', Unseen canonicalJson stamp e e' ∧
      (¬Plain e → ¬Agree canonicalJson sameTime e e') := by
    by_cases plain : Plain e
    · exact ⟨e, ⟨rfl, rfl, rfl, rfl, rfl, rfl⟩, fun mixed => absurd plain mixed⟩
    · obtain ⟨actor, type_, entity, fields, differ⟩ := resplit e plain
      refine ⟨{ e with actorId := actor, eventType := type_, entityId := entity },
        ⟨rfl, rfl, rfl, rfl, rfl, ?_⟩, fun _ agree => differ ⟨agree.actor, agree.eventType,
          agree.entity⟩⟩
      apply String.toList_inj.mp
      rw [preimage_toList, preimage_toList, fields]
  choose f unseen differ using exists_
  intro e he
  by_contra mixed
  exact differ e mixed (committed.map_unseen accepted injective unseen e he)

/-- An offset added to a naive time, or taken from an aware one. -/
def moveOffset (d : DateTime) : DateTime :=
  match d.offset with
  | none => ⟨d.clock, some 0, d.valid, utc_bounded⟩
  | some _ => d.naive

theorem moveOffset_ne (d : DateTime) : d ≠ moveOffset d := by
  intro same
  have offsets := congrArg DateTime.offset same
  rw [moveOffset] at offsets
  split at offsets
  · rename_i naive
    rw [naive] at offsets
    cases offsets
  · rename_i aware
    rw [aware] at offsets
    cases offsets

theorem moveOffset_naive (d : DateTime) : (moveOffset d).naive = d.naive := by
  rw [moveOffset]
  split
  · rfl
  · rfl

theorem unseen_offset (e : AuditEvent P) :
    Unseen canonicalJson canonicalTimestampIso e
      { e with timestamp := moveOffset e.timestamp } := by
  refine ⟨rfl, rfl, rfl, rfl, rfl, ?_⟩
  rw [preimage, preimage, canonicalTimestampIso_eq, canonicalTimestampIso_eq, moveOffset_naive]

/-- In memory the head commits to the events exactly when no free field holds a bar. The
SQLite store commits as much up to UTC offsets, and to the offsets of no event. -/
theorem event_log_binding (digest : ∀ s, ∀ c ∈ (sha s).toList, IsHexDigit c)
    (L : List (AuditEvent P)) :
    (Accepted sha canonicalJson DateTime.isoformat L →
      Set.InjOn sha (hashed canonicalJson DateTime.isoformat L) →
      (Committed sha canonicalJson DateTime.isoformat Eq L ↔ ∀ e ∈ L, Plain e)) ∧
    (Accepted sha canonicalJson canonicalTimestampIso L →
      Set.InjOn sha (hashed canonicalJson canonicalTimestampIso L) →
      (Committed sha canonicalJson canonicalTimestampIso (fun d d' => d.naive = d'.naive) L ↔
        ∀ e ∈ L, Plain e) ∧
      (Committed sha canonicalJson canonicalTimestampIso Eq L ↔ L = [])) := by
  have dropped (d : DateTime) : '|' ∉ (canonicalTimestampIso d).toList := by
    rw [canonicalTimestampIso_eq]
    exact bar_not_iso d.naive
  refine ⟨fun accepted injective => ⟨plain_of_committed accepted injective, fun plain => ?_⟩,
    fun accepted injective => ⟨⟨plain_of_committed accepted injective, fun plain => ?_⟩, ?_, ?_⟩⟩
  · exact committed_plain digest bar_not_iso (fun _ _ => isoformat_inj) accepted plain
  · refine committed_plain digest dropped (fun d d' same => ?_) accepted plain
    rw [canonicalTimestampIso_eq, canonicalTimestampIso_eq] at same
    exact isoformat_inj same
  · intro committed
    by_contra filled
    obtain ⟨e, he⟩ := List.exists_mem_of_ne_nil L filled
    exact moveOffset_ne e.timestamp
      (committed.map_unseen accepted injective unseen_offset e he).timestamp
  · rintro rfl L' _ lengths _ _
    rw [List.length_eq_zero_iff.mp lengths.symm]
    exact .nil

end Chain

section Barred

def emptyHash : String := "44136fa355b3678a1146ad16f7e8649e94fb4fc21fe77e8310c060f61caaff8a"

def barredText : String :=
  "1|2024-01-01T00:00:00|a|b|t|e|44136fa355b3678a1146ad16f7e8649e94fb4fc21fe77e8310c060f61caaff8a|0000000000000000000000000000000000000000000000000000000000000000"

def barredHash : String := "0d5e6ba2f2b36b0100f31efc954aa88f4cfe80b2c19e31fbb582ba9d097a4e6f"

def plainText : String :=
  "1|2024-01-01T00:00:00|a|t|e|44136fa355b3678a1146ad16f7e8649e94fb4fc21fe77e8310c060f61caaff8a|0000000000000000000000000000000000000000000000000000000000000000"

def plainHash : String := "811ee0e60fddfa5212671b635c740f69e7262d72a169d48539eff092f3741798"

/-- SHA-256 on the texts above. -/
def sha256 (s : String) : String :=
  if s = "\x7b\x7d" then emptyHash
  else if s = barredText then barredHash
  else if s = plainText then plainHash
  else genesisPreviousHash

theorem sha256_digest : ∀ s, ∀ c ∈ (sha256 s).toList, IsHexDigit c := by
  intro s
  rw [sha256]
  split_ifs
  · decide +kernel
  · decide +kernel
  · decide +kernel
  · decide +kernel

theorem newYear_valid : Clock.Valid ⟨2024, 1, 1, 0, 0, 0, 0⟩ := by decide

def newYear : DateTime := ⟨⟨2024, 1, 1, 0, 0, 0, 0⟩, none, newYear_valid, naive_bounded⟩

/-- An event without payload, alone in its log. -/
def oneEvent (actor type_ eventHash : String) : AuditEvent PyValue :=
  ⟨1, le_refl 1, newYear, actor, type_, "e", .dict [], emptyHash, genesisPreviousHash, eventHash⟩

def canonical : PyValue → String := canonicalJson fun _ => ""

theorem canonical_empty : canonical (.dict []) = "\x7b\x7d" := by
  simp [canonical, canonicalJson, canonicalItems]
  decide

theorem accepted_oneEvent {actor type_ eventHash text : String}
    (shape : preimage DateTime.isoformat (oneEvent actor type_ eventHash) = text)
    (hash : sha256 text = eventHash) :
    Accepted sha256 canonical DateTime.isoformat [oneEvent actor type_ eventHash] := by
  refine (verifyFrom_cons ..).mpr ⟨⟨rfl, rfl, ?_, by rw [shape]; exact hash.symm⟩, rfl⟩
  rw [computePayloadHash]
  show emptyHash = sha256 (canonical (.dict []))
  rw [canonical_empty]
  rfl

theorem injective_oneEvent {actor type_ eventHash text : String}
    (shape : preimage DateTime.isoformat (oneEvent actor type_ eventHash) = text)
    (apart : sha256 text ≠ emptyHash) :
    Set.InjOn sha256 (hashed canonical DateTime.isoformat [oneEvent actor type_ eventHash]) := by
  have two : ∀ s ∈ hashed canonical DateTime.isoformat [oneEvent actor type_ eventHash],
      s = "\x7b\x7d" ∨ s = text := by
    rintro s ⟨e, he, which⟩
    rw [List.mem_singleton.mp he, shape] at which
    exact which.imp_left fun same => same.trans canonical_empty
  intro s hs s' hs' same
  rcases two s hs with rfl | rfl
  · rcases two s' hs' with rfl | rfl
    · rfl
    · exact absurd same.symm apart
  · rcases two s' hs' with rfl | rfl
    · exact absurd same apart
    · rfl

theorem plain_log_committed :
    Committed sha256 canonical DateTime.isoformat Eq [oneEvent "a" "t" plainHash] := by
  have shape : preimage DateTime.isoformat (oneEvent "a" "t" plainHash) = plainText := by decide +kernel
  refine ((event_log_binding sha256_digest [oneEvent "a" "t" plainHash]).1
    (accepted_oneEvent shape (by decide +kernel)) (injective_oneEvent shape (by decide +kernel))).mpr fun e he => ?_
  rw [List.mem_singleton.mp he]
  exact ⟨by decide, by decide, by decide⟩

/-- One head for two logs that part the bar in the actor's name differently. -/
theorem barred_actor_resplits :
    Accepted sha256 canonical DateTime.isoformat [oneEvent "a|b" "t" barredHash] ∧
    Accepted sha256 canonical DateTime.isoformat [oneEvent "a" "b|t" barredHash] ∧
    Set.InjOn sha256 (hashed canonical DateTime.isoformat [oneEvent "a|b" "t" barredHash] ∪
      hashed canonical DateTime.isoformat [oneEvent "a" "b|t" barredHash]) ∧
    ¬List.Forall₂ (Agree canonical Eq) [oneEvent "a|b" "t" barredHash]
      [oneEvent "a" "b|t" barredHash] := by
  have shape : preimage DateTime.isoformat (oneEvent "a|b" "t" barredHash) = barredText := by decide +kernel
  have shape' : preimage DateTime.isoformat (oneEvent "a" "b|t" barredHash) = barredText := by decide +kernel
  have together : hashed canonical DateTime.isoformat [oneEvent "a" "b|t" barredHash] =
      hashed canonical DateTime.isoformat [oneEvent "a|b" "t" barredHash] := by
    ext s
    simp only [hashed, List.mem_singleton, exists_eq_left, Set.mem_ofPred_eq, shape, shape']
    exact Iff.rfl
  refine ⟨accepted_oneEvent shape (by decide +kernel), accepted_oneEvent shape' (by decide +kernel), ?_, ?_⟩
  · rw [together, Set.union_self]
    exact injective_oneEvent shape (by decide +kernel)
  · rintro (_ | ⟨agree, _⟩)
    exact absurd agree.actor (by decide)

end Barred

end EventChain
