import KalyxMao.ActivationPolicy

/-!
# Approvals over whole histories

A history is a sequence of issued and revoked approvals. Both policies keep
track of their histories in one kind of registry, so what a revocation leaves
behind is decided there.
-/

namespace ApprovalHistories
open PythonText PythonValues Domain ApprovalRegistry PurchasePolicy
open ActivationPolicy (OrbioCreditActivationPolicy OrbioCreditActivationIntent
  HumanActivationApproval)
open PurchaseVerifier (OrbioPurchaseIntent)

abbrev PurchaseCall := Call String PurchasePolicy.IssueRequest
abbrev ActivationCall := Call String ActivationPolicy.IssueRequest

/-- `uuid4` never draws one identifier twice, and writes it with hyphens. -/
structure FreshUuids (uuids : List String) : Prop where
  distinct : uuids.Nodup
  shape : ∀ u ∈ uuids, '-' ∈ u.toList ∧ ':' ∉ u.toList

def HexDigests (h : Hashing) : Prop := ∀ s, ∀ c ∈ (h.sha256 s).toList, IsHexDigit c

theorem hex_ne {u : String} (shape : '-' ∈ u.toList) {s : String}
    (hex : ∀ c ∈ s.toList, IsHexDigit c) : u ≠ s := by
  rintro rfl
  exact absurd (hex '-' shape) (by decide)

theorem hex_colon {s : String} (hex : ∀ c ∈ s.toList, IsHexDigit c) : ':' ∉ s.toList :=
  fun present => absurd (hex ':' present) (by decide)

/-- How a policy turns a request into an approval, and the keys it is filed under. -/
structure Issuing (Q A : Type) where
  uuid : Q → String
  approvalFor : Q → A
  idOf : A → String
  hashOf : A → String
  id_eq : ∀ q, idOf (approvalFor q) = uuid q
  hex : ∀ q, ∀ c ∈ (hashOf (approvalFor q)).toList, IsHexDigit c

/-- The condition on a history: a revocation by intent hash finds no approval
outstanding but the latest. -/
def SettledRevocations {Q A : Type} (hashOf : A → String)
    (state : List (Call String Q) → Registry String A) (calls : List (Call String Q)) : Prop :=
  ∀ before key after, calls = before ++ .revoke key :: after → Settled hashOf (state before) key

namespace Issuing
variable {Q A : Type} (I : Issuing Q A) {calls : List (Call String Q)}

/-- The history as the registry sees it. -/
def filed (calls : List (Call String Q)) : List (Call String A) := calls.map (Call.map I.approvalFor)

def state (calls : List (Call String Q)) : Registry String A :=
  run I.idOf I.hashOf (.empty String A) (I.filed calls)

theorem grants_filed : grants (I.filed calls) = (grants calls).map I.approvalFor :=
  grants_map I.approvalFor calls

theorem fresh (uuids : FreshUuids ((grants calls).map I.uuid)) :
    Fresh I.idOf I.hashOf (grants (I.filed calls)) := by
  have ids : (I.idOf ∘ I.approvalFor) = I.uuid := funext I.id_eq
  rw [I.grants_filed]
  constructor
  · rw [List.map_map, ids]
    exact uuids.distinct
  · intro a ha b hb
    obtain ⟨q, hq, rfl⟩ := List.mem_map.mp ha
    obtain ⟨q', -, rfl⟩ := List.mem_map.mp hb
    rw [I.id_eq]
    exact hex_ne (uuids.shape _ (List.mem_map_of_mem hq)).1 (I.hex q')

theorem stateBoth_eq (uuids : FreshUuids ((grants calls).map I.uuid)) :
    runBoth I.idOf I.hashOf (.empty String A) (I.filed calls) = I.state calls :=
  runBoth_eq (I.fresh uuids)

theorem uuids_initial {before after : List (Call String Q)}
    (uuids : FreshUuids ((grants (before ++ after)).map I.uuid)) :
    FreshUuids ((grants before).map I.uuid) := by
  rw [grants_append, List.map_append] at uuids
  exact ⟨(List.nodup_append.mp uuids.distinct).1,
    fun u hu => uuids.shape u (List.mem_append_left _ hu)⟩

/-- What a revocation names is among the withdrawn identifiers ever after. -/
theorem withdrawn {before after : List (Call String Q)} {key : String} {q : Q}
    (uuids : FreshUuids ((grants (before ++ .revoke key :: after)).map I.uuid))
    (hq : q ∈ grants before)
    (named : key = I.uuid q ∨
      key = I.hashOf (I.approvalFor q) ∧ Settled I.hashOf (I.state before) key) :
    I.uuid q ∈ (I.state (before ++ .revoke key :: after)).revoked := by
  have fresh := I.fresh uuids
  rw [state]
  rw [Issuing.filed, List.map_append, List.map_cons] at fresh ⊢
  rw [← I.id_eq] at named ⊢
  refine revoked_stays fresh ?_ named
  rw [grants_map]
  exact List.mem_map_of_mem hq

/-- Whatever the registry finds under a hash was issued for the hash. -/
theorem current_issued (uuids : FreshUuids ((grants calls).map I.uuid)) {key : String} {a : A}
    (found : (I.state calls).current.lookup key = some a) : ∃ q ∈ grants calls, I.approvalFor q = a := by
  have tracked := ((tracks_run (I.fresh uuids)).current key a found).2
  rw [I.grants_filed] at tracked
  exact List.mem_map.mp tracked

/-- Whatever the registry finds under an identifier was issued with it. -/
theorem registered_issued (uuids : FreshUuids ((grants calls).map I.uuid)) {id : String} {a : A}
    (found : (I.state calls).issued.lookup id = some a) :
    I.idOf a = id ∧ ∃ q ∈ grants calls, I.approvalFor q = a := by
  obtain ⟨same, tracked⟩ := (tracks_run (I.fresh uuids)).issued id a found
  rw [I.grants_filed] at tracked
  exact ⟨same, List.mem_map.mp tracked⟩

theorem never_revoked (uuids : FreshUuids ((grants calls).map I.uuid)) {q : Q}
    (hq : q ∈ grants calls) (held : I.uuid q ∉ (I.state calls).revoked) :
    .revoke (I.uuid q) ∉ calls := by
  have apart : ∀ a ∈ grants (I.filed calls), I.uuid q ≠ I.hashOf a := by
    rw [← I.id_eq]
    refine (I.fresh uuids).apart _ ?_
    rw [I.grants_filed]
    exact List.mem_map_of_mem hq
  intro asked
  exact held_not_revoked (I.fresh uuids) apart held (revoke_mem_map.mpr asked)

end Issuing

section Purchase
variable {r : ApprovalRules} {p : OrbioPurchasePolicy} {calls : List PurchaseCall}

def purchaseStep (r : ApprovalRules) (p : OrbioPurchasePolicy) (s : OrbioPurchasePolicy.Approvals) :
    PurchaseCall → OrbioPurchasePolicy.Approvals
  | .issue q => p.issueHumanApproval r s q
  | .revoke key => OrbioPurchasePolicy.revokeHumanApproval s key

def purchaseRun (r : ApprovalRules) (p : OrbioPurchasePolicy) (calls : List PurchaseCall) :
    OrbioPurchasePolicy.Approvals :=
  calls.foldl (purchaseStep r p) (.empty String HumanPurchaseApproval)

def purchaseIssuing (r : ApprovalRules) (p : OrbioPurchasePolicy) (hex : HexDigests r.toHashing) :
    Issuing PurchasePolicy.IssueRequest HumanPurchaseApproval where
  uuid := (·.uuid)
  approvalFor := p.approvalFor r
  idOf := (·.approvalId)
  hashOf := (·.intentHash)
  id_eq _ := rfl
  hex _ := hex _

/-- After a revocation no approval it names allows an intent again. -/
def PurchaseRevocationsFinal (r : ApprovalRules) (p : OrbioPurchasePolicy)
    (calls : List PurchaseCall) : Prop :=
  ∀ before key after, calls = before ++ .revoke key :: after →
    ∀ q ∈ grants before, key = q.uuid ∨ key = q.intent.computePurchaseIntentHash r.toHashing →
    ∀ i supplied now a, p.needsHuman i →
      OrbioPurchasePolicy.approvalUsed r (purchaseRun r p calls) i supplied = some a →
      a.approvalId = q.uuid → ¬Allowed (p.evaluate r (purchaseRun r p calls) i supplied now)

theorem purchaseRun_eq (hex : HexDigests r.toHashing)
    (uuids : FreshUuids ((grants calls).map (·.uuid))) :
    purchaseRun r p calls = (purchaseIssuing r p hex).state calls := by
  rw [← (purchaseIssuing r p hex).stateBoth_eq uuids, runBoth, Issuing.filed, List.foldl_map]
  refine congrArg (fun step => calls.foldl step _) ?_
  funext s c
  cases c with
  | issue q => rfl
  | revoke key => rfl

theorem purchase_revocations_final (hex : HexDigests r.toHashing)
    (uuids : FreshUuids ((grants calls).map (·.uuid)))
    (settled : SettledRevocations (·.intentHash) (purchaseRun r p) calls) :
    PurchaseRevocationsFinal r p calls := by
  rintro before key after rfl q hq named i supplied now a human used same allowed
  have gone : q.uuid ∈ (purchaseRun r p (before ++ .revoke key :: after)).revoked := by
    rw [purchaseRun_eq hex uuids]
    refine (purchaseIssuing r p hex).withdrawn uuids hq (named.imp id fun hash => ⟨hash, ?_⟩)
    rw [← purchaseRun_eq hex ((purchaseIssuing r p hex).uuids_initial uuids)]
    exact settled before key after rfl
  obtain ⟨b, used', accepts⟩ := (evaluate_allowed allowed).2 human
  rw [used] at used'
  rw [← same, Option.some.inj used'] at gone
  exact accepts.unrevoked gone

end Purchase

section Activation
variable {r : ApprovalRules} {p : OrbioCreditActivationPolicy} {calls : List ActivationCall}

def activationStep (r : ApprovalRules) (p : OrbioCreditActivationPolicy)
    (s : OrbioCreditActivationPolicy.Approvals) : ActivationCall → OrbioCreditActivationPolicy.Approvals
  | .issue q => p.issueHumanApproval r s q
  | .revoke key => OrbioCreditActivationPolicy.revokeHumanApproval s key

def activationRun (r : ApprovalRules) (p : OrbioCreditActivationPolicy)
    (calls : List ActivationCall) : OrbioCreditActivationPolicy.Approvals :=
  calls.foldl (activationStep r p) (.empty String HumanActivationApproval)

def activationIssuing (r : ApprovalRules) (p : OrbioCreditActivationPolicy)
    (hex : HexDigests r.toHashing) :
    Issuing ActivationPolicy.IssueRequest HumanActivationApproval where
  uuid := (·.uuid)
  approvalFor := p.approvalFor r
  idOf := (·.approvalId)
  hashOf := (·.intentHash)
  id_eq _ := rfl
  hex _ := hex _

/-- After a revocation no approval it names allows an activation again. -/
def ActivationRevocationsFinal (r : ApprovalRules) (p : OrbioCreditActivationPolicy)
    (calls : List ActivationCall) : Prop :=
  ∀ before key after, calls = before ++ .revoke key :: after →
    ∀ q ∈ grants before, key = q.uuid ∨ key = q.intent.computeActivationIntentHash r.toHashing →
    ∀ i supplied mode now a,
      p.requireHumanApproval = true →
      OrbioCreditActivationPolicy.approvalUsed r (activationRun r p calls) i supplied = some a →
      a.approvalId = q.uuid →
      (p.evaluate r (activationRun r p calls) i supplied mode now).result ≠ .allow

theorem activationRun_eq (hex : HexDigests r.toHashing) (calls : List ActivationCall) :
    activationRun r p calls = (activationIssuing r p hex).state calls := by
  rw [Issuing.state, run, Issuing.filed, List.foldl_map]
  refine congrArg (fun step => calls.foldl step _) ?_
  funext s c
  cases c with
  | issue q => rfl
  | revoke key => rfl

theorem activation_revocations_final (hex : HexDigests r.toHashing)
    (uuids : FreshUuids ((grants calls).map (·.uuid)))
    (settled : SettledRevocations (·.intentHash) (activationRun r p) calls) :
    ActivationRevocationsFinal r p calls := by
  rintro before key after rfl q hq named i supplied mode now a gate used same allowed
  have gone : q.uuid ∈ (activationRun r p (before ++ .revoke key :: after)).revoked := by
    rw [activationRun_eq hex]
    refine (activationIssuing r p hex).withdrawn uuids hq (named.imp id fun hash => ⟨hash, ?_⟩)
    rw [← activationRun_eq hex]
    exact settled before key after rfl
  obtain ⟨-, b, used', unrevoked, -⟩ := (ActivationPolicy.evaluate_allow gate).mp allowed
  rw [used] at used'
  rw [← same, Option.some.inj used'] at gone
  exact unrevoked gone

end Activation

section Samples

def sampleDigest : String := "5709fe5b7c0ecc3dfeb18562e09cb715dfb1805a57cd4cd595a7518a04024d41"

def sampleToken : String := "a36c1093dccee53241128bbd2db7609571072fa06768633c97cb3c27a5ecf5bb"

def laterToken : String := "04f08a7ea7dd8dd80e656a702dc15a21757c0d0947834e841f59f98914979053"

def activationDigest : String := "43bf68894876c28e378c9a0e8070710c513eeb099e250798b5adc13e7d0589ad"

def activationToken : String := "085af9aa09fcd34825e494926b7e1c01d96cb40259fe626451c3271fe9910d29"

/-- The digest of one intent, and the tokens of the two approvals given for it. -/
def sampleRules (digest token later : String) : ApprovalRules where
  sha256 _ := digest
  reprFloat := TokenBinding.printFloat
  hmac _ payload := if payload.toList.head? = some '1' then token else later
  add
    | .finite a, .finite b => .finite (a + b)
    | _, _ => .nan
  text := PythonConversions.asciiRules TokenBinding.printFloat

def purchaseRules : ApprovalRules := sampleRules sampleDigest sampleToken laterToken

def activationRules : ApprovalRules := sampleRules activationDigest activationToken activationToken

def samplePolicy : OrbioPurchasePolicy where
  deployments := [deploymentRobinhoodTestnet]
  allowedChainIds := [46630]
  allowedNetworks := ["robinhood-testnet"]
  allowedExchangeContracts := [orbioExchangeMainnet]
  allowedPaymentTokens := [usdgMainnet]
  allowedCreditTokens := [orbioCreditMainnet]
  allowedBeneficiaries := []
  requireBeneficiaryAllowlist := false
  autonomousUsdgCeiling := 5000000
  absoluteUsdgCeiling := 25000000
  maxFills := 20
  maxFeePerGas := 100000000000
  maxPriorityFeePerGas := 10000000000
  maxGasLimit := 500000
  humanApprovalTtlSeconds := .finite 3600
  secret := "s"
  ceilings := by decide

def sampleIntent : OrbioPurchaseIntent where
  tenantId := "t"
  organisationId := "o"
  missionId := none
  operationId := "op"
  chainId := 46630
  network := "robinhood-testnet"
  exchangeContract := orbioExchangeMainnet
  paymentToken := usdgMainnet
  creditToken := orbioCreditMainnet
  usdgIn := 10000000
  minCreditOut := 9000000
  beneficiary := "0x0000000000000000000000000000000000000000000000000000000000000001"
  maxFills := 10
  maxFeePerGas := 25000000000
  maxPriorityFeePerGas := 1500000000
  gasLimit := 350000
  amountCredits := 0
  idempotencyKey := "k"
  policyDecisionId := "d"
  authorizationTokenHash := "a"
  deadline := none
  some_amount := by decide
  beneficiary_shape := by right; decide +kernel

def sampleRequest (uuid : String) : PurchasePolicy.IssueRequest :=
  ⟨sampleIntent, "OPERATOR", none, none, .finite 0, uuid⟩

def firstUuid : String := "11111111-1111-4111-8111-111111111111"

def secondUuid : String := "22222222-2222-4222-8222-222222222222"

def activationPolicy : OrbioCreditActivationPolicy where
  maxActivationAmount := 1000000
  allowedChainId := 4663
  allowedNetwork := "robinhood-mainnet"
  allowedCreditContract := orbioCreditMainnet
  maxFeePerGas := 100000000000
  maxPriorityFeePerGas := 10000000000
  maxGasLimit := 500000
  requireHumanApproval := true
  humanApprovalTtlSeconds := .finite 3600
  forbidTestnet := true
  forbidSimulation := true
  secret := "s"
  ceiling := by decide

def activationIntent : OrbioCreditActivationIntent where
  tenantId := "t"
  organisationId := "o"
  missionId := none
  operationId := "op"
  chainId := 4663
  network := "robinhood-mainnet"
  creditContract := orbioCreditMainnet
  amount := 1000000
  beneficiary := none
  maxFeePerGas := 25000000000
  maxPriorityFeePerGas := 1500000000
  gasLimit := 150000
  amountCredits := 0
  idempotencyKey := "k"
  policyDecisionId := "d"
  authorizationTokenHash := "a"
  deadline := none
  positive := ActivationPolicy.oneCredit_pos

def activationRequest (uuid : String) : ActivationPolicy.IssueRequest :=
  ⟨activationIntent, "OPERATOR", none, none, .finite 0, uuid⟩

theorem purchase_hex : HexDigests purchaseRules.toHashing := fun _ =>
  show ∀ c ∈ sampleDigest.toList, IsHexDigit c by decide +kernel

theorem activation_hex : HexDigests activationRules.toHashing := fun _ =>
  show ∀ c ∈ activationDigest.toList, IsHexDigit c by decide +kernel

theorem printFloat_colon (f : PyFloat) : ':' ∉ (TokenBinding.printFloat f).toList := by
  have int_colon (i : Int) : ':' ∉ (toString i).toList := fun colon =>
    absurd (CanonicalText.int_shape i ':' colon) (by decide)
  cases f with
  | finite q =>
    rw [TokenBinding.finite_toList, List.mem_append, List.mem_cons]
    rintro (num | dot | den)
    · exact int_colon _ num
    · exact absurd dot (by decide)
    · exact int_colon (Int.ofNat _) den
  | inf negative => cases negative <;> decide
  | nan => decide

theorem fresh_first : FreshUuids [firstUuid] := by
  constructor
  · simp
  · intro u hu
    rw [List.mem_singleton.mp hu]
    decide +kernel

theorem sample_fresh : FreshUuids
    ((grants ([.issue (sampleRequest firstUuid)] : List PurchaseCall)).map (·.uuid)) :=
  fresh_first

theorem activation_fresh : FreshUuids
    ((grants ([.issue (activationRequest firstUuid)] : List ActivationCall)).map (·.uuid)) :=
  fresh_first

theorem sampleIntent_hash :
    sampleIntent.computePurchaseIntentHash purchaseRules.toHashing = sampleDigest := by
  rw [OrbioPurchaseIntent.computePurchaseIntentHash, Hashing.ofJson]
  rfl

/-- With one approval ever issued every revocation is settled. -/
theorem settled_once {A : Type} {idOf hashOf : A → String} (a : A) :
    Settled hashOf ((Registry.empty String A).issue idOf hashOf a) (hashOf a) := by
  intro k b found _
  by_cases same : k = idOf a
  · rw [same, Registry.issue, AList.lookup_insert] at found
    rw [← Option.some.inj found]
    exact AList.lookup_insert _
  · rw [Registry.issue, AList.lookup_insert_ne same] at found
    cases found

theorem split_once {Q : Type} {q : Q} {key key' : String} {before after : List (Call String Q)}
    (split : [.issue q, .revoke key] = before ++ .revoke key' :: after) :
    before = [.issue q] ∧ key = key' := by
  rcases before with _ | ⟨c, _ | ⟨c', before⟩⟩
  · cases split
  · rw [List.singleton_append, List.cons.injEq, List.cons.injEq, Call.revoke.injEq] at split
    exact ⟨congrArg (fun c => [c]) split.1.symm, split.2.1⟩
  · have lengths := congrArg List.length split
    simp at lengths

theorem sample_hmac {digest token later secret payload : String}
    (first : payload.toList.head? = some '1') :
    (sampleRules digest token later).hmac secret payload = token :=
  if_pos first

theorem sampleToken_signed : samplePolicy.computeIssuanceToken purchaseRules
    (samplePolicy.approvalFor purchaseRules (sampleRequest firstUuid)) = sampleToken := by
  rw [OrbioPurchasePolicy.computeIssuanceToken]
  refine sample_hmac ?_
  rw [payload_toList]
  rfl

/-- The first approval allows the sample intent wherever it is still held. -/
theorem sample_allowed {s : OrbioPurchasePolicy.Approvals} (unrevoked : firstUuid ∉ s.revoked)
    (registered : (s.issued.lookup firstUuid).isSome) :
    Allowed (samplePolicy.evaluate purchaseRules s sampleIntent
      (some (samplePolicy.approvalFor purchaseRules (sampleRequest firstUuid))) (.finite 0)) := by
  have deployment : samplePolicy.deploymentDenial purchaseRules sampleIntent = none :=
    deploymentDenial_none.mpr ⟨_, List.mem_singleton_self _, rfl⟩
  refine evaluate_allows deployment rfl (by decide +kernel) (by decide) rfl ?_
  refine approvalDenial_accepts ⟨unrevoked, rfl, registered, ?_⟩ ?_ ?_
  · exact isValidFor_none.mpr ⟨by decide +kernel, rfl, rfl, rfl⟩
  · rw [sampleToken_signed]
    decide +kernel
  · rw [sampleToken_signed]
    decide +kernel

end Samples

section Claims
variable {r r' : ApprovalRules} {p : OrbioPurchasePolicy} {p' : OrbioCreditActivationPolicy}
  {calls : List PurchaseCall} {calls' : List ActivationCall}

/-- In a history whose revocations by hash find at most the latest approval outstanding,
what is revoked stays revoked, under both policies. -/
theorem revocations_final (hex : HexDigests r.toHashing) (hex' : HexDigests r'.toHashing)
    (uuids : FreshUuids ((grants calls).map (·.uuid)))
    (uuids' : FreshUuids ((grants calls').map (·.uuid)))
    (settled : SettledRevocations (·.intentHash) (purchaseRun r p) calls)
    (settled' : SettledRevocations (·.intentHash) (activationRun r' p') calls') :
    PurchaseRevocationsFinal r p calls ∧ ActivationRevocationsFinal r' p' calls' :=
  ⟨purchase_revocations_final hex uuids settled, activation_revocations_final hex' uuids' settled'⟩

theorem revoked_hash_final :
    PurchaseRevocationsFinal purchaseRules samplePolicy
        [.issue (sampleRequest firstUuid), .revoke sampleDigest] ∧
      ActivationRevocationsFinal activationRules activationPolicy
        [.issue (activationRequest firstUuid), .revoke activationDigest] := by
  refine revocations_final purchase_hex activation_hex fresh_first fresh_first ?_ ?_
  · intro before key after split
    obtain ⟨rfl, rfl⟩ := split_once split
    exact settled_once _
  · intro before key after split
    obtain ⟨rfl, rfl⟩ := split_once split
    exact settled_once _

/-- Of two approvals for one intent, the older is still good after the hash is revoked. -/
theorem older_approval_survives :
    ¬PurchaseRevocationsFinal purchaseRules samplePolicy
      [.issue (sampleRequest firstUuid), .issue (sampleRequest secondUuid), .revoke sampleDigest] := by
  intro final
  have refused := final [.issue (sampleRequest firstUuid), .issue (sampleRequest secondUuid)]
    sampleDigest [] rfl (sampleRequest firstUuid) List.mem_cons_self (.inr sampleIntent_hash.symm)
    sampleIntent (some (samplePolicy.approvalFor purchaseRules (sampleRequest firstUuid)))
    (.finite 0) (samplePolicy.approvalFor purchaseRules (sampleRequest firstUuid)) (by decide) rfl rfl
  refine refused (sample_allowed ?_ ?_)
  · decide +kernel
  · decide +kernel

/-- The parts of a signed text that no field can shift. -/
theorem payload_parts {a b : HumanPurchaseApproval}
    (colon : ∀ f, ':' ∉ (floatText r f).toList) (injective : ∀ f g, floatText r f = floatText r g → f = g)
    (ids : ':' ∉ a.approvalId.toList ∧ ':' ∉ b.approvalId.toList)
    (hashes : ':' ∉ a.intentHash.toList ∧ ':' ∉ b.intentHash.toList)
    (same : a.payload r = b.payload r) :
    a.approvalId = b.approvalId ∧ a.intentHash = b.intentHash ∧ a.expiresAt = b.expiresAt := by
  have texts := congrArg String.toList same
  rw [payload_toList, payload_toList] at texts
  obtain ⟨id, texts⟩ := append_cons_inj_first ids.1 ids.2 texts
  obtain ⟨hash, texts⟩ := append_cons_inj_first hashes.1 hashes.2 texts
  obtain ⟨-, expires⟩ := append_cons_inj_last (colon _) (colon _) texts
  exact ⟨String.toList_inj.mp id, String.toList_inj.mp hash,
    injective _ _ (String.toList_inj.mp expires)⟩

/-- An approval of the history that covers the intent now. -/
structure Covers (r : ApprovalRules) (p : OrbioPurchasePolicy) (calls : List PurchaseCall)
    (i : OrbioPurchaseIntent) (now : PyFloat) (q : PurchasePolicy.IssueRequest) : Prop where
  issued : q ∈ grants calls
  intent : (p.approvalFor r q).intentHash = i.computePurchaseIntentHash r.toHashing
  unexpired : (p.approvalFor r q).expiresAt.lt now = false
  unrevoked : .revoke q.uuid ∉ calls

theorem approval_covers (hex : HexDigests r.toHashing)
    (colon : ∀ f, ':' ∉ (floatText r f).toList) (injective : ∀ f g, floatText r f = floatText r g → f = g)
    (uuids : FreshUuids ((grants calls).map (·.uuid))) {i : OrbioPurchaseIntent} {now : PyFloat}
    {a : HumanPurchaseApproval} (accepts : p.Accepts r (purchaseRun r p calls) i a now)
    (signed : ∃ q ∈ grants calls, (p.approvalFor r q).payload r = a.payload r) :
    ∃ q, Covers r p calls i now q ∧ a.approvalId = q.uuid := by
  obtain ⟨unrevoked, -, registered, valid⟩ := accepts
  obtain ⟨unexpired, hash, -⟩ := isValidFor_none.mp valid
  rw [purchaseRun_eq hex uuids] at unrevoked registered
  obtain ⟨b, found⟩ := Option.isSome_iff_exists.mp registered
  obtain ⟨id, q', hq', rfl⟩ := (purchaseIssuing r p hex).registered_issued uuids found
  obtain ⟨q, hq, same⟩ := signed
  have idText (q : PurchasePolicy.IssueRequest) (hq : q ∈ grants calls) :
      ':' ∉ (p.approvalFor r q).approvalId.toList :=
    (uuids.shape _ (List.mem_map_of_mem hq)).2
  have hashText : ':' ∉ a.intentHash.toList := by
    rw [hash]
    exact hex_colon (hex _)
  obtain ⟨sameId, sameHash, sameExpiry⟩ := payload_parts colon injective
    ⟨idText q hq, id ▸ idText q' hq'⟩ ⟨hex_colon (hex _), hashText⟩ same
  refine ⟨q, ⟨hq, sameHash.trans hash, sameExpiry ▸ unexpired, ?_⟩, sameId.symm⟩
  refine (purchaseIssuing r p hex).never_revoked uuids hq ?_
  rwa [← sameId] at unrevoked

/-- Every way to an allowed intent meets the bounds, and above the autonomous ceiling an
approval of this policy covers it. No text verifies that the policy did not sign. -/
theorem allowed_sound (hex : HexDigests r.toHashing) (colon : ∀ f, ':' ∉ (floatText r f).toList)
    (injective : ∀ f g, floatText r f = floatText r g → f = g)
    (uuids : FreshUuids ((grants calls).map (·.uuid))) {i : OrbioPurchaseIntent}
    {supplied : Option HumanPurchaseApproval} {now : PyFloat}
    (unforgeable : ∀ a, supplied = some a → a.issuanceToken = some (r.hmac p.secret (a.payload r)) →
      ∃ q ∈ grants calls, (p.approvalFor r q).payload r = a.payload r)
    (allowed : Allowed (p.evaluate r (purchaseRun r p calls) i supplied now)) :
    p.Permits r i now ∧ (p.needsHuman i → ∃ a q,
      OrbioPurchasePolicy.approvalUsed r (purchaseRun r p calls) i supplied = some a ∧
      a.approvalId = q.uuid ∧ Covers r p calls i now q) := by
  obtain ⟨permits, opened⟩ := evaluate_allowed allowed
  refine ⟨permits, fun human => ?_⟩
  obtain ⟨a, used, accepts⟩ := opened human
  have signed : ∃ q ∈ grants calls, (p.approvalFor r q).payload r = a.payload r := by
    cases supplied with
    | some b =>
      have same : b = a := Option.some.inj used
      exact unforgeable a (congrArg some same) accepts.signed
    | none =>
      have latest : (purchaseRun r p calls).current.lookup _ = some a := used
      rw [purchaseRun_eq hex uuids] at latest
      obtain ⟨q, hq, same⟩ := (purchaseIssuing r p hex).current_issued uuids latest
      exact ⟨q, hq, congrArg (HumanPurchaseApproval.payload r) same⟩
  obtain ⟨q, covers, id⟩ := approval_covers hex colon injective uuids accepts signed
  exact ⟨a, q, used, id, covers⟩

theorem sample_allowed_sound :
    samplePolicy.Permits purchaseRules sampleIntent (.finite 0) ∧
      (samplePolicy.needsHuman sampleIntent → ∃ a q,
        OrbioPurchasePolicy.approvalUsed purchaseRules
          (purchaseRun purchaseRules samplePolicy [.issue (sampleRequest firstUuid)]) sampleIntent
          (some (samplePolicy.approvalFor purchaseRules (sampleRequest firstUuid))) = some a ∧
        a.approvalId = q.uuid ∧
        Covers purchaseRules samplePolicy [.issue (sampleRequest firstUuid)] sampleIntent (.finite 0) q) := by
  refine allowed_sound purchase_hex printFloat_colon TokenBinding.printFloat_inj sample_fresh
    (fun a given _ => ?_) (sample_allowed ?_ ?_)
  · exact ⟨_, List.mem_singleton_self _, congrArg _ (Option.some.inj given)⟩
  · exact List.not_mem_nil
  · decide +kernel

/-- An activation is allowed only by an approval of this policy, for this intent,
unexpired and not revoked. -/
def ActivationApproved (r : ApprovalRules) (p : OrbioCreditActivationPolicy)
    (calls : List ActivationCall) (i : OrbioCreditActivationIntent)
    (supplied : Option HumanActivationApproval) (mode : Option String) (now : PyFloat) : Prop :=
  (p.evaluate r (activationRun r p calls) i supplied mode now).result = .allow →
    ∃ a, OrbioCreditActivationPolicy.approvalUsed r (activationRun r p calls) i supplied = some a ∧
      (∃ q ∈ grants calls, p.approvalFor r q = a) ∧
      a.intentHash = i.computeActivationIntentHash r.toHashing ∧ a.expiresAt.lt now = false ∧
      .revoke a.approvalId ∉ calls

/-- The condition: the approval supplied is none, or one this policy issued, or refused by
a check the policy has. -/
def NotFabricated (r : ApprovalRules) (p : OrbioCreditActivationPolicy) (calls : List ActivationCall)
    (i : OrbioCreditActivationIntent) (supplied : Option HumanActivationApproval)
    (mode : Option String) (now : PyFloat) : Prop :=
  (p.boundsDenial r i mode now).isSome ∨
    ∀ a, supplied = some a → (∃ q ∈ grants calls, p.approvalFor r q = a) ∨
      a.approvalId ∈ (activationRun r p calls).revoked ∨ (a.isValidFor r i now).isSome

theorem activation_approved_iff (hex : HexDigests r.toHashing) (gate : p'.requireHumanApproval = true)
    (uuids : FreshUuids ((grants calls').map (·.uuid))) (i : OrbioCreditActivationIntent)
    (supplied : Option HumanActivationApproval) (mode : Option String) (now : PyFloat) :
    ActivationApproved r p' calls' i supplied mode now ↔
      NotFabricated r p' calls' i supplied mode now := by
  constructor
  · intro approved
    by_contra fabricated
    obtain ⟨bounds, supply⟩ := not_or.mp fabricated
    push Not at supply
    obtain ⟨a, given, strange, unrevoked, valid⟩ := supply
    have used : OrbioCreditActivationPolicy.approvalUsed r (activationRun r p' calls') i supplied = some a := by
      rw [given]
      rfl
    have allowed := (ActivationPolicy.evaluate_allow gate).mpr
      ⟨Option.not_isSome_iff_eq_none.mp bounds, a, used, unrevoked,
        Option.not_isSome_iff_eq_none.mp valid⟩
    obtain ⟨b, used', ⟨q, hq, same⟩, -⟩ := approved allowed
    rw [used] at used'
    exact strange q hq (same.trans (Option.some.inj used').symm)
  · intro condition allowed
    obtain ⟨bounds, a, used, unrevoked, valid⟩ := (ActivationPolicy.evaluate_allow gate).mp allowed
    obtain ⟨unexpired, hash, -⟩ := ActivationPolicy.isValidFor_none.mp valid
    have issued : ∃ q ∈ grants calls', p'.approvalFor r q = a := by
      cases supplied with
      | some b =>
        have same : b = a := Option.some.inj used
        rcases condition with denied | condition
        · rw [bounds] at denied
          cases denied
        · rcases condition a (congrArg some same) with issued | revoked | refused
          · exact issued
          · exact absurd revoked unrevoked
          · rw [valid] at refused
            cases refused
      | none =>
        have latest : (activationRun r p' calls').current.lookup _ = some a := used
        rw [activationRun_eq hex] at latest
        exact (activationIssuing r p' hex).current_issued uuids latest
    obtain ⟨q, hq, rfl⟩ := issued
    rw [activationRun_eq hex] at unrevoked
    exact ⟨_, used, ⟨q, hq, rfl⟩, hash, unexpired,
      (activationIssuing r p' hex).never_revoked uuids hq unrevoked⟩

theorem stored_approval_approved :
    ActivationApproved activationRules activationPolicy [.issue (activationRequest firstUuid)]
        activationIntent none none (.finite 0) ↔
      NotFabricated activationRules activationPolicy [.issue (activationRequest firstUuid)]
        activationIntent none none (.finite 0) :=
  activation_approved_iff activation_hex rfl activation_fresh activationIntent none none (.finite 0)

/-- What a caller can write down without asking the policy. -/
def fabricatedApproval : HumanActivationApproval :=
  { activationPolicy.approvalFor activationRules (activationRequest firstUuid) with
    issuanceToken := none }

theorem fabricated_approval_accepted :
    ¬ActivationApproved activationRules activationPolicy [] activationIntent
      (some fabricatedApproval) none (.finite 0) := by
  intro approved
  obtain ⟨a, -, ⟨q, hq, -⟩, -⟩ := approved (by
    refine (ActivationPolicy.evaluate_allow rfl).mpr ⟨?_, fabricatedApproval, rfl, ?_, ?_⟩
    · decide +kernel
    · exact List.not_mem_nil
    · exact ActivationPolicy.isValidFor_none.mpr ⟨by decide +kernel, rfl, rfl, rfl, rfl, rfl, rfl⟩)
  cases hq

end Claims

end ApprovalHistories
