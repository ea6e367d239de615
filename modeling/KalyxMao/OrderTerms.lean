import KalyxMao.Marketplace
import Mathlib.Data.Set.Function

/-!
# What is compared when an order or an escrow is created again

An order that is there is answered again if the hash of its specification is the
same; an escrow, if its order and its amount are. What else was agreed is in
neither comparison.
-/

namespace OrderTerms
open PythonText PythonValues Domain KeyedLists Marketplace

section Text

mutual

/-- `json.dumps(data, sort_keys=True)`, with a blank after each comma and colon. -/
def spacedJson (reprFloat : PyFloat → String) : PyValue → String
  | .none => "null"
  | .bool b => if b then "true" else "false"
  | .int i => toString i
  | .float f => reprFloat f
  | .str s => quoteJson s
  | .list xs => String.ofList ['['] ++ ", ".intercalate (spacedList reprFloat xs) ++ String.ofList [']']
  | .dict items => String.ofList [Char.ofNat 123] ++
      ", ".intercalate (((spacedItems reprFloat items).mergeSort fun a b => a.1 ≤ b.1).map Prod.snd) ++
        String.ofList [Char.ofNat 125]

def spacedList (reprFloat : PyFloat → String) : List PyValue → List String
  | [] => []
  | x :: xs => spacedJson reprFloat x :: spacedList reprFloat xs

def spacedItems (reprFloat : PyFloat → String) : List (String × PyValue) → List (String × String)
  | [] => []
  | (key, x) :: items =>
    (key, quoteJson key ++ ": " ++ spacedJson reprFloat x) :: spacedItems reprFloat items

end

example : spacedJson (fun _ => "") (.dict [("title", .str "Audit"), ("description", .list [.int 2, .none])]) =
    "\x7b\"description\": [2, null], \"title\": \"Audit\"\x7d" := by
  simp [spacedJson, spacedItems, spacedList, List.mergeSort]
  decide

end Text

section Model
variable (h : Hashing)

/-- The arguments of `MarketplaceOrder.create`. -/
structure OrderRequest where
  tenantId : String
  organisationId : String
  orderId : String
  title : String
  description : String
  requiredCapability : String
  bountyAmount : Int
  bountyAsset : String
  slaTimeoutSeconds : Int
  specificationPayload : Option (List (String × PyValue))

/-- `specification_payload or {"title": title, "description": description}`. -/
def OrderRequest.specification (q : OrderRequest) : List (String × PyValue) :=
  match q.specificationPayload with
  | some (item :: items) => item :: items
  | _ => [("title", .str q.title), ("description", .str q.description)]

def OrderRequest.specificationText (q : OrderRequest) : String :=
  spacedJson h.reprFloat (.dict q.specification)

/-- `MarketplaceOrder.create`. -/
def OrderRequest.create (q : OrderRequest) (createdAt : String) : Except PyError MarketplaceOrder :=
  if q.bountyAmount ≤ 0 then .error ⟨.valueError, "bounty_amount must be positive"⟩
  else .ok
    { tenantId := q.tenantId
      organisationId := q.organisationId
      orderId := q.orderId
      title := q.title
      description := q.description
      specificationHash := h.sha256 (q.specificationText h)
      requiredCapability := q.requiredCapability
      bountyAmount := q.bountyAmount
      bountyAsset := q.bountyAsset
      slaTimeoutSeconds := q.slaTimeoutSeconds
      createdAt := createdAt }

end Model

section Property
variable (h : Hashing)

/-- The terms of an order beside its specification. -/
structure SameOffer (q q' : OrderRequest) : Prop where
  title : q.title = q'.title
  description : q.description = q'.description
  capability : q.requiredCapability = q'.requiredCapability
  amount : q.bountyAmount = q'.bountyAmount
  asset : q.bountyAsset = q'.bountyAsset
  sla : q.slaTimeoutSeconds = q'.slaTimeoutSeconds

/-- All terms of an order; its specification is the text that is hashed. -/
structure SameOrder (q q' : OrderRequest) : Prop extends SameOffer q q' where
  specification : q.specificationText h = q'.specificationText h

/-- The order and the amount of an escrow. -/
structure SameBounty (e e' : EscrowAgreement) : Prop where
  order : e.orderId = e'.orderId
  amount : e.bountyAmount = e'.bountyAmount

/-- The parties of an escrow and the asset it is paid in. -/
structure SameParties (e e' : EscrowAgreement) : Prop where
  clientTenant : e.clientTenantId = e'.clientTenantId
  clientOrg : e.clientOrgId = e'.clientOrgId
  providerTenant : e.providerTenantId = e'.providerTenantId
  providerOrg : e.providerOrgId = e'.providerOrgId
  asset : e.bountyAsset = e'.bountyAsset

/-- What is stored is answered for the same terms only; other terms are a conflict, which changes
nothing. -/
structure Strict {α : Type} (b : Board) (stored : α) (outcome : Except PyError α × Board)
    (same : Prop) : Prop where
  answered : outcome.1 = .ok stored → same
  refused : ¬same → ∃ message, outcome = (.error (conflict message), b)

end Property

section Comparisons
variable {h : Hashing} {b : Board}

theorem createOrder_stored {row o : MarketplaceOrder} (stored : getOrder b o.key = some row) :
    (row.specificationHash = o.specificationHash ∧ createOrder b o = (.ok row, b)) ∨
      (row.specificationHash ≠ o.specificationHash ∧
        ∃ message, createOrder b o = (.error (conflict message), b)) := by
  unfold createOrder
  rw [stored]
  dsimp only
  split
  · rename_i same
    exact .inl ⟨same, rfl⟩
  · rename_i differ
    exact .inr ⟨differ, _, rfl⟩

theorem saveEscrow_stored {row e : EscrowAgreement}
    (stored : lookupBy EscrowAgreement.key b.escrows e.key = some row) :
    (SameBounty row e ∧ saveEscrow b e = (.ok row, b)) ∨
      (¬SameBounty row e ∧ ∃ message, saveEscrow b e = (.error (conflict message), b)) := by
  unfold saveEscrow
  rw [stored]
  dsimp only
  split
  · rename_i same
    exact .inl ⟨⟨same.1, same.2⟩, rfl⟩
  · rename_i differ
    refine .inr ⟨?_, _, rfl⟩
    intro same
    exact differ ⟨same.order, same.amount⟩

/-- An operation that compares part of the terms is strict if and only if that part decides. -/
theorem strict_iff {α : Type} {stored : α} {outcome : Except PyError α × Board} {part same : Prop}
    (cases : (part ∧ outcome = (.ok stored, b)) ∨
      (¬part ∧ ∃ message, outcome = (.error (conflict message), b))) :
    Strict b stored outcome same ↔ (part → same) := by
  constructor
  · intro strict is_
    rcases cases with ⟨-, answer⟩ | ⟨not, -⟩
    · exact strict.answered (congrArg Prod.fst answer)
    · exact absurd is_ not
  · intro decides
    rcases cases with ⟨is_, answer⟩ | ⟨not, refusal⟩
    · exact ⟨fun _ => decides is_, fun differ => absurd (decides is_) differ⟩
    · refine ⟨?_, fun _ => refusal⟩
      intro answered
      obtain ⟨message, refused⟩ := refusal
      rw [refused] at answered
      cases answered

/-- With a hash that tells the two specifications apart, an order is compared by its
specification. -/
theorem compared {first second : OrderRequest}
    (injective : Set.InjOn h.sha256 {first.specificationText h, second.specificationText h}) :
    h.sha256 (first.specificationText h) = h.sha256 (second.specificationText h) ↔
      first.specificationText h = second.specificationText h := by
  constructor
  · intro same
    exact injective (by simp) (by simp) same
  · intro same
    rw [same]

end Comparisons

/-- For every pair of orders under one key and every pair of escrows under one key, whatever
happened to the stored record since: the second is answered with the stored record for the same
terms only, and is a conflict otherwise, if and only if orders with one specification agree in all
other terms, and escrows of one order and amount in the parties and the asset. -/
theorem recreation_strict_iff (h : Hashing) (b : Board) :
    (∀ (first second : OrderRequest) (firstAt secondAt : String) (o₁ o₂ row : MarketplaceOrder),
      first.create h firstAt = .ok o₁ → second.create h secondAt = .ok o₂ → o₁.key = o₂.key →
      getOrder b o₁.key = some row → row.specificationHash = o₁.specificationHash →
      Set.InjOn h.sha256 {first.specificationText h, second.specificationText h} →
      (Strict b row (createOrder b o₂) (SameOrder h first second) ↔
        (first.specificationText h = second.specificationText h → SameOffer first second))) ∧
    ∀ row e : EscrowAgreement, lookupBy EscrowAgreement.key b.escrows e.key = some row →
      (Strict b row (saveEscrow b e) (SameBounty row e ∧ SameParties row e) ↔
        (SameBounty row e → SameParties row e)) := by
  constructor
  · intro first second firstAt secondAt o₁ o₂ row made₁ made₂ key stored hash injective
    have hash₁ : o₁.specificationHash = h.sha256 (first.specificationText h) := by
      unfold OrderRequest.create at made₁
      split at made₁
      · cases made₁
      · rw [← Except.ok.inj made₁]
    have hash₂ : o₂.specificationHash = h.sha256 (second.specificationText h) := by
      unfold OrderRequest.create at made₂
      split at made₂
      · cases made₂
      · rw [← Except.ok.inj made₂]
    rw [key] at stored
    have cases := createOrder_stored stored
    rw [hash, hash₁, hash₂, ne_eq, compared injective] at cases
    rw [strict_iff cases]
    constructor
    · intro decides text
      exact (decides text).toSameOffer
    · intro offers text
      exact ⟨offers text, text⟩
  · intro row e stored
    rw [strict_iff (saveEscrow_stored stored)]
    constructor
    · intro decides bounty
      exact (decides bounty).2
    · intro parties bounty
      exact ⟨bounty, parties bounty⟩

section Samples

def audit : OrderRequest where
  tenantId := "t1"
  organisationId := "org1"
  orderId := "order-1"
  title := "Audit"
  description := "Check"
  requiredCapability := "SECURITY_AUDIT"
  bountyAmount := 200
  bountyAsset := "USDG"
  slaTimeoutSeconds := 3600
  specificationPayload := none

def survey : OrderRequest := { audit with title := "Survey", bountyAmount := 9999 }

/-- The same title and description for another bounty. -/
def raised : OrderRequest := { audit with bountyAmount := 9999 }

def auditHash : String := "624ee1996c2b3f1cdd77aacfb128c5d73c8c9f60a944c0a62a9471697a84c7dd"
def surveyHash : String := "4f8005f7173196757a6eec90d806351ab424413b213e132103f407c5fd299370"

/-- What SHA-256 gives for the two specifications. -/
def sampleHashing : Hashing where
  sha256 s := if s = spacedJson (fun _ => "") (.dict audit.specification) then auditHash else surveyHash
  reprFloat _ := ""

def order (q : OrderRequest) (hash : String) : MarketplaceOrder where
  tenantId := q.tenantId
  organisationId := q.organisationId
  orderId := q.orderId
  title := q.title
  description := q.description
  specificationHash := hash
  requiredCapability := q.requiredCapability
  bountyAmount := q.bountyAmount
  bountyAsset := q.bountyAsset
  slaTimeoutSeconds := q.slaTimeoutSeconds
  createdAt := "2026-01-01T00:00:00+00:00"

def held : EscrowAgreement where
  tenantId := "t1"
  organisationId := "org1"
  escrowId := "esc-1"
  orderId := "order-1"
  clientTenantId := "t1"
  clientOrgId := "org1"
  bountyAmount := 200
  createdAt := "2026-01-01T00:00:00+00:00"

def board : Board where
  orders := [order audit auditHash]
  escrows := [held]
  capabilities := ⟨["t1"], ["org1"], []⟩
  events := []
  ledgers _ := ⟨[]⟩
  reconciled _ := []

theorem audit_hash : sampleHashing.sha256 (audit.specificationText sampleHashing) = auditHash := if_pos rfl

theorem audit_created (q : OrderRequest) (paid : 0 < q.bountyAmount) :
    q.create sampleHashing "2026-01-01T00:00:00+00:00" =
      .ok (order q (sampleHashing.sha256 (q.specificationText sampleHashing))) :=
  if_neg (Int.not_le.mpr paid)

theorem audit_stored (hash : String) :
    getOrder board (order audit hash).key = some (order audit auditHash) := rfl

theorem survey_key (hash hash' : String) : (order audit hash).key = (order survey hash').key := rfl

theorem specifications_injective (q : OrderRequest) : Set.InjOn sampleHashing.sha256
    {audit.specificationText sampleHashing, q.specificationText sampleHashing} := by
  by_cases texts : q.specificationText sampleHashing = audit.specificationText sampleHashing
  · rw [texts, Set.pair_eq_singleton]
    exact Set.injOn_singleton _ _
  · have other : sampleHashing.sha256 (q.specificationText sampleHashing) = surveyHash := if_neg texts
    have apart : auditHash ≠ surveyHash := by decide
    rintro s (rfl | rfl) s' (rfl | rfl) same
    · rfl
    · rw [audit_hash, other] at same
      exact absurd same apart
    · rw [audit_hash, other] at same
      exact absurd same.symm apart
    · rfl

theorem specifications_differ :
    audit.specificationText sampleHashing ≠ survey.specificationText sampleHashing := by
  intro same
  -- one title is longer than the other
  have lengths := congrArg String.length same
  simp [OrderRequest.specificationText, OrderRequest.specification, audit, survey, spacedJson,
    spacedItems, List.mergeSort, String.length_append] at lengths
  exact absurd lengths (by decide)

/-- An order of another title is a conflict, and an escrow saved again is answered. -/
theorem sample_strict :
    (∃ o, survey.create sampleHashing "2026-01-01T00:00:00+00:00" = .ok o ∧
      Strict board (order audit auditHash) (createOrder board o) (SameOrder sampleHashing audit survey)) ∧
    Strict board held (saveEscrow board held) (SameBounty held held ∧ SameParties held held) := by
  have both := recreation_strict_iff sampleHashing board
  constructor
  · refine ⟨_, audit_created survey (by decide), ?_⟩
    refine (both.1 audit survey _ _ _ _ (order audit auditHash) (audit_created audit (by decide))
      (audit_created survey (by decide)) (survey_key _ _) (audit_stored _) audit_hash.symm
      (specifications_injective survey)).mpr ?_
    intro texts
    exact absurd texts specifications_differ
  · refine (both.2 held held rfl).mpr ?_
    intro _
    exact ⟨rfl, rfl, rfl, rfl, rfl⟩

/-- The first bounty is answered for an order with another, and an escrow for one with another
provider and asset. -/
theorem other_terms_answered :
    (∃ o, raised.create sampleHashing "2026-01-01T00:00:00+00:00" = .ok o ∧
      createOrder board o = (.ok (order audit auditHash), board) ∧
      ¬Strict board (order audit auditHash) (createOrder board o) (SameOrder sampleHashing audit raised)) ∧
    ∃ e : EscrowAgreement, e.key = held.key ∧ saveEscrow board e = (.ok held, board) ∧
      ¬Strict board held (saveEscrow board e) (SameBounty held e ∧ SameParties held e) := by
  constructor
  · have answer : createOrder board (order raised auditHash) = (.ok (order audit auditHash), board) := rfl
    have hash : sampleHashing.sha256 (raised.specificationText sampleHashing) = auditHash := if_pos rfl
    have created := audit_created raised (by decide)
    rw [hash] at created
    refine ⟨_, created, answer, ?_⟩
    intro strict
    exact absurd (strict.answered (congrArg Prod.fst answer)).amount (by decide)
  · have answer : saveEscrow board { held with bountyAsset := "ETH", providerTenantId := some "t2" } =
        (.ok held, board) := rfl
    refine ⟨{ held with bountyAsset := "ETH", providerTenantId := some "t2" }, rfl, answer, ?_⟩
    intro strict
    exact absurd (strict.answered (congrArg Prod.fst answer)).2.asset (by decide)

end Samples

end OrderTerms
