import KalyxMao.DelimitedText
import KalyxMao.SurplusRuns
import Mathlib.Data.List.Infix
import Mathlib.Logic.Encodable.Basic
import Mathlib.Logic.Equiv.List

/-!
# What the signature of a receipt binds

A receipt is signed over its fields, joined by colons. A field with a colon in it
can be cut elsewhere, so that the signature fits another receipt; without one,
the verifier's signature fits what the verifier signed and nothing else.
-/

namespace ReceiptBinding
open PythonText PythonValues WorkOrders SurplusAccounting DelimitedText
open TokenBinding (splitText isAscii isAscii_hex compareDigest compareDigest_true)

section Property

/-- Two receipts agree in everything that is signed. -/
structure SameTerms (c t : WorkDeliverableReceipt) : Prop where
  workOrderId : c.workOrderId = t.workOrderId
  deliverableId : c.deliverableId = t.deliverableId
  contentHash : c.contentHash = t.contentHash
  evidenceHash : c.evidenceHash = t.evidenceHash
  status : c.status = t.status
  verifierIdentity : c.verifierIdentity = t.verifierIdentity

/-- A verifier accepted the deliverable of the order, and the receipt says so. -/
structure Vouched (r : SurplusRules) (v : WorkDeliverableVerifier) (order : WorkOrder)
    (d : WorkDeliverable) (w : WorkOrder) (c : WorkDeliverableReceipt) : Prop where
  unobjected : objection r.toSigningRules order d = none
  workOrderId : w.workOrderId = order.workOrderId
  deliverableId : c.deliverableId = d.deliverableId
  contentHash : c.contentHash = canonicalJsonHash r.toSigningRules d.contentPayload
  evidenceHash : c.evidenceHash = d.computeEvidenceHash r.toSigningRules
  verifierIdentity : c.verifierIdentity = v.verifierIdentity

/-- The receipt carries the signature that was made for another one. -/
def Carries (r : SurplusRules) (key : String) (c t : WorkDeliverableReceipt) : Prop :=
  c.hmacSignature = (t.signed r.toSigningRules key).hmacSignature

/-- The signature of a receipt passes for its own terms only; and where a reconciler takes a
receipt with the signature that a verifier made, the verifier accepted exactly what is settled. -/
structure Binding (r : SurplusRules) (key : String) (t : WorkDeliverableReceipt) : Prop where
  signature : ∀ c, Carries r key c t → c.verifyHmac r.toSigningRules key = .ok true → SameTerms c t
  settlement : ∀ v order d receiptId k events w c gross expense reserveRatio stored ratio,
    v.verify r.toSigningRules order d receiptId = t.signed r.toSigningRules key →
    k.receiptSecretKey = key → Carries r key c t →
    checkSettlement r k events w c gross expense reserveRatio stored = .ok ratio →
    Vouched r v order d w c

/-- No identifier or hash holds a colon, and no status stands between colons of the verifier's
identity or before its first. -/
structure Plain (t : WorkDeliverableReceipt) : Prop where
  workOrderId : ':' ∉ t.workOrderId.toList
  deliverableId : ':' ∉ t.deliverableId.toList
  contentHash : ':' ∉ t.contentHash.toList
  evidenceHash : ':' ∉ t.evidenceHash.toList
  verifierIdentity : ∀ s : DeliverableStatus,
    s.value.toList ∉ (t.verifierIdentity.toList.splitOn ':').dropLast

end Property

section Payloads
variable {c t : WorkDeliverableReceipt}

/-- The pieces of everything that stands before the status. -/
def front (c : WorkDeliverableReceipt) : List (List Char) :=
  c.workOrderId.toList.splitOn ':' ++ (c.deliverableId.toList.splitOn ':' ++
    (c.contentHash.toList.splitOn ':' ++ c.evidenceHash.toList.splitOn ':'))

theorem colon_value (s : DeliverableStatus) : ':' ∉ s.value.toList := by
  cases s with
  | accepted => decide
  | rejected => decide

theorem value_inj {s s' : DeliverableStatus} (same : s.value = s'.value) : s = s' := by
  cases s with
  | accepted =>
    cases s' with
    | accepted => rfl
    | rejected => exact absurd same (by decide)
  | rejected =>
    cases s' with
    | accepted => exact absurd same (by decide)
    | rejected => rfl

theorem payload_pieces (c : WorkDeliverableReceipt) : c.payload.toList.splitOn ':' =
    front c ++ c.status.value.toList :: c.verifierIdentity.toList.splitOn ':' := by
  have shape : c.payload.toList = c.workOrderId.toList ++ ':' :: (c.deliverableId.toList ++ ':' ::
      (c.contentHash.toList ++ ':' :: (c.evidenceHash.toList ++ ':' ::
        (c.status.value.toList ++ ':' :: c.verifierIdentity.toList)))) := by
    show (c.workOrderId ++ ":" ++ c.deliverableId ++ ":" ++ c.contentHash ++ ":" ++ c.evidenceHash ++
      ":" ++ c.status.value ++ ":" ++ c.verifierIdentity).toList = _
    simp
  rw [shape, List.splitOn_append_cons_self, List.splitOn_append_cons_self,
    List.splitOn_append_cons_self, List.splitOn_append_cons_self,
    List.splitOn_append_cons_self_of_not_mem (colon_value c.status), front]
  simp

/-- Two payloads are the same text exactly when they have the same pieces. -/
theorem payload_eq_iff : c.payload = t.payload ↔
    front c ++ c.status.value.toList :: c.verifierIdentity.toList.splitOn ':' =
      front t ++ t.status.value.toList :: t.verifierIdentity.toList.splitOn ':' := by
  rw [← payload_pieces, ← payload_pieces]
  constructor
  · intro same
    rw [same]
  · intro same
    exact String.toList_inj.mp (splitOn_inj same)

theorem front_plain (plain : Plain t) : front t =
    [t.workOrderId.toList, t.deliverableId.toList, t.contentHash.toList, t.evidenceHash.toList] := by
  rw [front, List.splitOn_eq_singleton plain.workOrderId, List.splitOn_eq_singleton plain.deliverableId,
    List.splitOn_eq_singleton plain.contentHash, List.splitOn_eq_singleton plain.evidenceHash]
  rfl

/-- Four pieces before the status are the four fields. -/
theorem front_of_length (four : (front c).length = 4) : front c =
    [c.workOrderId.toList, c.deliverableId.toList, c.contentHash.toList, c.evidenceHash.toList] := by
  have h1 := splitOn_length_pos ':' c.workOrderId.toList
  have h2 := splitOn_length_pos ':' c.deliverableId.toList
  have h3 := splitOn_length_pos ':' c.contentHash.toList
  have h4 := splitOn_length_pos ':' c.evidenceHash.toList
  rw [front, List.length_append, List.length_append, List.length_append] at four
  rw [front, List.splitOn_eq_singleton (splitOn_length_eq_one (a := ':') (by omega)),
    List.splitOn_eq_singleton (splitOn_length_eq_one (a := ':') (by omega)),
    List.splitOn_eq_singleton (splitOn_length_eq_one (a := ':') (by omega)),
    List.splitOn_eq_singleton (splitOn_length_eq_one (a := ':') (by omega))]
  rfl

theorem four_le_front (c : WorkDeliverableReceipt) : 4 ≤ (front c).length := by
  have h1 := splitOn_length_pos ':' c.workOrderId.toList
  have h2 := splitOn_length_pos ':' c.deliverableId.toList
  have h3 := splitOn_length_pos ':' c.contentHash.toList
  have h4 := splitOn_length_pos ':' c.evidenceHash.toList
  rw [front, List.length_append, List.length_append, List.length_append]
  omega

/-- The same pieces in front of the status and behind it are the same fields. -/
theorem sameTerms_of_pieces (plain : Plain t) (first : front c = front t)
    (rest : c.status.value.toList :: c.verifierIdentity.toList.splitOn ':' =
      t.status.value.toList :: t.verifierIdentity.toList.splitOn ':') : SameTerms c t := by
  have whole := front_plain plain
  have four : (front c).length = 4 := by
    rw [first, whole]
    rfl
  rw [front_of_length four, whole] at first
  simp only [List.cons.injEq, and_true] at first
  obtain ⟨order, deliverable, content, evidence⟩ := first
  obtain ⟨status, identity⟩ := List.cons.inj rest
  exact ⟨String.toList_inj.mp order, String.toList_inj.mp deliverable, String.toList_inj.mp content,
    String.toList_inj.mp evidence, value_inj (String.toList_inj.mp status),
    String.toList_inj.mp (splitOn_inj identity)⟩

/-- A payload without stray colons and statuses belongs to one receipt only. -/
theorem sameTerms_of_payload (plain : Plain t) (same : c.payload = t.payload) : SameTerms c t := by
  have pieces := payload_eq_iff.mp same
  have four := four_le_front c
  have whole := congrArg List.length (front_plain plain)
  rcases List.append_eq_append_iff.mp pieces with ⟨m, cut, rest⟩ | ⟨m, cut, rest⟩
  · have lengths := congrArg List.length cut
    rw [List.length_append, whole] at lengths
    have none_ : m = [] := List.eq_nil_of_length_eq_zero (by simp at lengths; omega)
    subst none_
    rw [List.append_nil] at cut
    exact sameTerms_of_pieces plain cut.symm rest
  · cases m with
    | nil =>
      rw [List.append_nil] at cut
      exact sameTerms_of_pieces plain cut rest.symm
    | cons first m =>
      -- the status of the one receipt stands inside the verifier's identity of the other
      have inside : t.verifierIdentity.toList.splitOn ':' =
          m ++ c.status.value.toList :: c.verifierIdentity.toList.splitOn ':' := (List.cons.inj rest).2
      have some_ := List.splitOn_ne_nil ':' c.verifierIdentity.toList
      have stray : c.status.value.toList ∈ (t.verifierIdentity.toList.splitOn ':').dropLast := by
        rw [inside, List.dropLast_append_of_ne_nil (List.cons_ne_nil _ _),
          List.dropLast_cons_of_ne_nil some_]
        exact List.mem_append_right _ List.mem_cons_self
      exact absurd stray (plain.verifierIdentity c.status)

/-- A colon in one of two neighbouring fields lets the text between them be cut elsewhere. -/
theorem recut {s : String} (mem : ':' ∈ s.toList) : ∃ a b : String, s = a ++ ":" ++ b ∧ a ≠ s ∧ b ≠ s := by
  obtain ⟨a, b, cut⟩ := List.append_of_mem mem
  refine ⟨String.ofList a, String.ofList b, ?_, ?_, ?_⟩
  · apply String.toList_inj.mp
    rw [cut]
    simp
  · intro same
    have lengths := congrArg (fun s => s.toList.length) same
    simp [cut] at lengths
  · intro same
    have lengths := congrArg (fun s => s.toList.length) same
    simp [cut] at lengths
    omega

/-- A status between the colons of the verifier's identity can be taken for the receipt's own. -/
theorem recut_identity {s : DeliverableStatus}
    (mem : s.value.toList ∈ (t.verifierIdentity.toList.splitOn ':').dropLast) :
    ∃ c : WorkDeliverableReceipt, c.payload = t.payload ∧ c.verifierIdentity ≠ t.verifierIdentity := by
  obtain ⟨xs, zs, before⟩ := List.append_of_mem mem
  obtain ⟨ys, some_, pieces⟩ : ∃ ys, ys ≠ [] ∧
      t.verifierIdentity.toList.splitOn ':' = xs ++ s.value.toList :: ys := by
    refine ⟨zs ++ [(t.verifierIdentity.toList.splitOn ':').getLast
      (List.splitOn_ne_nil ':' t.verifierIdentity.toList)], by simp, ?_⟩
    conv_lhs => rw [← List.dropLast_concat_getLast (List.splitOn_ne_nil ':' t.verifierIdentity.toList), before]
    rw [List.append_assoc, List.cons_append]
  have clean : ∀ piece ∈ xs ++ s.value.toList :: ys, ':' ∉ piece := by
    rw [← pieces]
    exact fun piece mem => not_mem_of_mem_splitOn mem
  have evidence : ∀ piece ∈ t.evidenceHash.toList.splitOn ':' ++ t.status.value.toList :: xs,
      ':' ∉ piece := by
    intro piece mem
    rcases List.mem_append.mp mem with own | status | ⟨_, before⟩
    · exact not_mem_of_mem_splitOn own
    · exact colon_value t.status
    · exact clean piece (List.mem_append_left _ before)
  have identity : ([':'].intercalate ys).splitOn ':' = ys :=
    List.splitOn_intercalate ':' (fun piece mem => clean piece
      (List.mem_append_right _ (List.mem_cons_of_mem _ mem))) some_
  refine ⟨{ t with
    evidenceHash := String.ofList
      ([':'].intercalate (t.evidenceHash.toList.splitOn ':' ++ t.status.value.toList :: xs))
    status := s
    verifierIdentity := String.ofList ([':'].intercalate ys) }, ?_, ?_⟩
  · rw [payload_eq_iff]
    simp only [front, String.toList_ofList]
    rw [identity, pieces, List.splitOn_intercalate ':' evidence (by simp)]
    simp
  · intro same
    have lists : ys = xs ++ s.value.toList :: ys := by
      rw [← pieces, ← same, String.toList_ofList, identity]
    have lengths := congrArg List.length lists
    rw [List.length_append, List.length_cons] at lengths
    omega

theorem payload_eq (c : WorkDeliverableReceipt) : c.payload = c.workOrderId ++ (":" ++
    (c.deliverableId ++ (":" ++ (c.contentHash ++ (":" ++ (c.evidenceHash ++ (":" ++
      (c.status.value ++ (":" ++ c.verifierIdentity))))))))) := by
  show c.workOrderId ++ ":" ++ c.deliverableId ++ ":" ++ c.contentHash ++ ":" ++ c.evidenceHash ++
    ":" ++ c.status.value ++ ":" ++ c.verifierIdentity = _
  simp only [String.append_assoc]

/-- Every other receipt has another payload only if nothing can be cut elsewhere. -/
theorem plain_of_payload (unique : ∀ c : WorkDeliverableReceipt, c.payload = t.payload → SameTerms c t) :
    Plain t := by
  refine ⟨?_, ?_, ?_, ?_, ?_⟩
  · intro colon
    obtain ⟨a, b, cut, shorter, -⟩ := recut colon
    have same := unique { t with workOrderId := a, deliverableId := b ++ ":" ++ t.deliverableId } (by
      rw [payload_eq, payload_eq, cut]
      simp only [String.append_assoc])
    exact shorter same.workOrderId
  · intro colon
    obtain ⟨a, b, cut, -, shorter⟩ := recut colon
    have same := unique { t with workOrderId := t.workOrderId ++ ":" ++ a, deliverableId := b } (by
      rw [payload_eq, payload_eq, cut]
      simp only [String.append_assoc])
    exact shorter same.deliverableId
  · intro colon
    obtain ⟨a, b, cut, -, shorter⟩ := recut colon
    have same := unique { t with deliverableId := t.deliverableId ++ ":" ++ a, contentHash := b } (by
      rw [payload_eq, payload_eq, cut]
      simp only [String.append_assoc])
    exact shorter same.contentHash
  · intro colon
    obtain ⟨a, b, cut, -, shorter⟩ := recut colon
    have same := unique { t with contentHash := t.contentHash ++ ":" ++ a, evidenceHash := b } (by
      rw [payload_eq, payload_eq, cut]
      simp only [String.append_assoc])
    exact shorter same.evidenceHash
  · intro s mem
    obtain ⟨c, same, other⟩ := recut_identity mem
    exact other (unique c same).verifierIdentity

end Payloads

section Signatures

/-- An accepted deliverable has the hash of its payload. -/
theorem objection_content {r : SigningRules} {w : WorkOrder} {d : WorkDeliverable}
    (unobjected : objection r w d = none) : d.contentHash = canonicalJsonHash r d.contentPayload := by
  unfold objection at unobjected
  dsimp only at unobjected
  split at unobjected
  · cases unobjected
  · split at unobjected
    · cases unobjected
    · rename_i same
      exact not_not.mp same

variable {r : SurplusRules} {key : String} {c t : WorkDeliverableReceipt}

/-- Signatures are written in hexadecimal digits, and there is something of them. -/
structure HexMac (r : SurplusRules) : Prop where
  digits : ∀ k s, ∀ x ∈ (r.hmac k s).toList, IsHexDigit x
  some_ : ∀ k s, r.hmac k s ≠ ""

theorem HexMac.ascii (mac : HexMac r) (data : String) : isAscii (r.hmac key data) = true :=
  isAscii_hex (mac.digits key data)

/-- A receipt with the signature of another passes exactly if it has the other's payload. -/
theorem verifyHmac_carried (mac : HexMac r) (injective : Function.Injective (r.hmac key))
    (carries : Carries r key c t) :
    c.verifyHmac r.toSigningRules key = .ok true ↔ c.payload = t.payload := by
  have signature : c.hmacSignature = some (r.hmac key t.payload) := carries
  rw [WorkDeliverableReceipt.verifyHmac, signature]
  dsimp only
  rw [if_neg (mac.some_ key t.payload), compareDigest, mac.ascii, mac.ascii]
  constructor
  · intro passed
    exact (injective (by simpa using passed)).symm
  · intro same
    rw [same]
    simp

/-- What the reconciler has seen of a receipt that it settles. -/
theorem checkSettlement_signed {k : SurplusReconciler} {events : List RevenueEvent} {w : WorkOrder}
    {gross expense : Int} {reserveRatio : Option PyFloat} {stored : Except PyError Bool} {ratio : PyFloat}
    (passed : checkSettlement r k events w c gross expense reserveRatio stored = .ok ratio) :
    c.status = .accepted ∧ c.verifyHmac r.toSigningRules k.receiptSecretKey = .ok true ∧
      c.workOrderId = w.workOrderId := by
  unfold checkSettlement at passed
  simp only [bind, Except.bind, pure, Except.pure, throw, throwThe, MonadExceptOf.throw,
    SurplusRuns.guard_ok] at passed
  obtain ⟨verified, passed⟩ := passed
  split at passed
  · cases passed
  · rename_i answer signed
    simp only [SurplusRuns.guard_ok] at passed
    obtain ⟨valid, order, -⟩ := passed
    refine ⟨?_, ?_, not_not.mp order⟩
    · simpa [WorkDeliverableReceipt.isVerified] using verified
    · rw [signed]
      simpa using valid

theorem binding_of_plain (mac : HexMac r) (injective : Function.Injective (r.hmac key)) (plain : Plain t) :
    Binding r key t := by
  constructor
  · intro c carries passed
    exact sameTerms_of_payload plain ((verifyHmac_carried mac injective carries).mp passed)
  · intro v order d receiptId k events w c gross expense reserveRatio stored ratio signed same carries passed
    obtain ⟨accepted, valid, settles⟩ := checkSettlement_signed passed
    rw [same] at valid
    have terms := sameTerms_of_payload plain ((verifyHmac_carried mac injective carries).mp valid)
    -- the verifier's receipt has the terms that were signed
    have status : (v.verify r.toSigningRules order d receiptId).status = .accepted := by
      rw [signed]
      exact terms.status.symm.trans accepted
    have unobjected := verify_accepted.mp status
    have content : d.contentHash = canonicalJsonHash r.toSigningRules d.contentPayload :=
      objection_content unobjected
    refine ⟨unobjected, ?_, ?_, ?_, ?_, ?_⟩
    · exact settles.symm.trans (terms.workOrderId.trans (congrArg (·.workOrderId) signed).symm)
    · exact terms.deliverableId.trans (congrArg (·.deliverableId) signed).symm
    · exact (terms.contentHash.trans (congrArg (·.contentHash) signed).symm).trans content
    · exact terms.evidenceHash.trans (congrArg (·.evidenceHash) signed).symm
    · exact terms.verifierIdentity.trans (congrArg (·.verifierIdentity) signed).symm

/-- For every receipt: its signature passes for its own terms only, and a settlement with it is of
exactly what the verifier accepted, if and only if none of its identifiers and hashes has a colon
and no status stands in front of a colon of the verifier's identity. -/
theorem binding_iff (mac : HexMac r) (injective : Function.Injective (r.hmac key)) :
    Binding r key t ↔ Plain t := by
  constructor
  · intro binding
    apply plain_of_payload
    intro c same
    have carries : Carries r key { c with hmacSignature := some (r.hmac key t.payload) } t := rfl
    have terms := binding.signature _ carries ((verifyHmac_carried mac injective carries).mpr same)
    exact ⟨terms.workOrderId, terms.deliverableId, terms.contentHash, terms.evidenceHash,
      terms.status, terms.verifierIdentity⟩
  · exact binding_of_plain mac injective

end Signatures

section Samples

/-- A code of the message, written in digits. -/
def messageCode (message : String) : String :=
  toString (Encodable.encode (message.toList.map Char.toNat))

def sampleRules : SurplusRules :=
  SurplusRuns.exactRules ⟨⟨fun _ => "00", fun _ => "0.0"⟩, fun _ => messageCode,
    PythonConversions.asciiRules fun _ => "0.0"⟩

theorem messageCode_injective : Function.Injective messageCode := by
  intro a b same
  have codes : Encodable.encode (a.toList.map Char.toNat) = Encodable.encode (b.toList.map Char.toNat) := by
    have digits := congrArg (fun s => Nat.ofDigitChars 10 s.toList 0) same
    simpa [messageCode, Nat.toList_repr, Nat.ofDigitChars_ten_toDigits] using digits
  have numbers := Encodable.encode_injective codes
  exact String.toList_inj.mp (List.map_injective_iff.mpr (fun c d => Char.toNat_inj.mp) numbers)

theorem sample_mac : HexMac sampleRules := by
  constructor
  · intro k s x mem
    have digit : x.isDigit = true := by
      have mem : x ∈ (Nat.repr (Encodable.encode (s.toList.map Char.toNat))).toList := mem
      rw [Nat.toList_repr] at mem
      exact Nat.isDigit_of_mem_toDigits (by decide) (by decide) mem
    obtain ⟨low, high⟩ := Char.isDigit_iff_toNat.mp digit
    have code : ∀ n, 48 ≤ n → n ≤ 57 → IsHexDigit (Char.ofNat n) := by decide
    have same := code x.toNat low high
    rwa [Char.ofNat_toNat] at same
  · intro k s empty
    have lists : Nat.toDigits 10 (Encodable.encode (s.toList.map Char.toNat)) = [] := by
      rw [← Nat.toList_repr]
      exact congrArg String.toList empty
    exact Nat.toDigits_ne_nil lists

def receiptFor (workOrderId deliverableId : String) : WorkDeliverableReceipt where
  receiptId := "rcpt-1"
  workOrderId := workOrderId
  deliverableId := deliverableId
  contentHash := "c0ffee"
  evidenceHash := "e0"
  verifierIdentity := "DeterministicClientVerifier"
  status := .accepted
  verificationNotes := ""
  hmacSignature := none

theorem sample_plain : Plain (receiptFor "wo-1" "deliv-1") := by
  refine ⟨by decide, by decide, by decide, by decide, ?_⟩
  intro s
  have whole : (receiptFor "wo-1" "deliv-1").verifierIdentity.toList.splitOn ':' =
      ["DeterministicClientVerifier".toList] := by decide +kernel
  rw [whole]
  exact List.not_mem_nil

theorem sample_binding : Binding sampleRules "key" (receiptFor "wo-1" "deliv-1") :=
  (binding_iff sample_mac messageCode_injective).mpr sample_plain

/-- The signature for order `wo:1` and deliverable `deliv-1` passes for order `wo`. -/
theorem recut_receipt_passes : ¬Binding sampleRules "key" (receiptFor "wo:1" "deliv-1") := by
  intro binding
  have same : (receiptFor "wo" "1:deliv-1").payload = (receiptFor "wo:1" "deliv-1").payload := by
    decide +kernel
  have carries : Carries sampleRules "key" { receiptFor "wo" "1:deliv-1" with
      hmacSignature := some (sampleRules.hmac "key" (receiptFor "wo:1" "deliv-1").payload) }
      (receiptFor "wo:1" "deliv-1") := rfl
  have terms := binding.signature _ carries
    ((verifyHmac_carried sample_mac messageCode_injective carries).mpr same)
  have orders : "wo" = "wo:1" := terms.workOrderId
  exact absurd orders (by decide)

end Samples

end ReceiptBinding
