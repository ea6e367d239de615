import KalyxMao.BlockchainExecution
import KalyxMao.ExactlyOnce

/-!
# The execution manager over the blockchain provider

The manager's programs run against the repository, the ledger and the provider
with its memory. What the RPC client does is an input. Two observations are kept
beside the stores: the record the repository took last, and the transaction that
was handed to the network last.
-/

namespace Dispatch
open PythonText PythonValues PythonConversions Domain EffectPrograms EffectPrograms.Prog Consequential KeyedLists
open BlockchainProvider BlockchainIntents BlockchainExecution SqlLedgers

section Model

structure Deployed where
  world : World
  memory : Memory
  saved : Option ConsequentialOperation
  sent : Option Signed

structure Input where
  env : Env
  rpc : BroadcastClient
  now : String

variable (p : Setup)

def respond : Handler Cmd Resp Deployed Input
  | .execute op, d, i =>
    let run := execute p i.rpc i.now op d.memory
    (run.answer, { d with
      world := { d.world with executed := d.world.executed ++ [op.id] }
      memory := run.memory
      sent := run.sent.or d.sent })
  | .status operationId idempotencyKey providerReference, d, i =>
    (status p.hashing i.rpc.toEvmRpcClient d.memory.opTxHashes operationId (some idempotencyKey)
      providerReference.join, d)
  | .save op, d, _ =>
    match saveOperation d.world.operations op with
    | .error err => (.error err, d)
    | .ok ops => (.ok (), { d with world := { d.world with operations := ops }, saved := some op })
  | c, d, i =>
    let answer := Consequential.respond c d.world i.env
    (answer.1, { d with world := answer.2 })

/-- `submit_operation` on a world and a memory, with nothing observed before. -/
def submission (i : Input) (w : World) (m : Memory) (op : ConsequentialOperation)
    (proposal : ActionProposal) (decision : PolicyDecision) : Except PyError ExecutionReceipt × Deployed :=
  exec (respond p) i (submitOperation p.hashing op proposal decision) ⟨w, m, none, none⟩

end Model

section Runs
variable {p : Setup} {i : Input} {w : World} {m : Memory} {d : Deployed} {op op' : ConsequentialOperation}
  {proposal : ActionProposal} {decision : PolicyDecision}

/-- The submission gets past its own checks: the state, and the save before the dispatch. -/
def Begun (w : World) (op : ConsequentialOperation) : Prop :=
  op.state = .escrowed ∧ ∃ ops, saveOperation w.operations { op with state := .submitted } = .ok ops

theorem exec_transitionAndSave {α : Type} {s : OperationState} {msg ref : Option String}
    {ops : List ConsequentialOperation} (moved : op.transitionTo s msg ref = .ok op')
    (taken : saveOperation d.world.operations op' = .ok ops)
    (rest : ConsequentialOperation → Action α) :
    exec (respond p) i (transitionAndSave op s msg ref >>= rest) d =
      exec (respond p) i (rest op')
        { d with world := { d.world with operations := ops }, saved := some op' } := by
  have answer : respond p (.save op') d i =
      (.ok (), { d with world := { d.world with operations := ops }, saved := some op' }) := by
    simp only [respond, taken]
  unfold transitionAndSave save
  rw [moved]
  simp only [ofExcept_ok, ret_bind, perform_bind, call_bind, exec]
  rw [answer]
  rfl

/-- A record is taken again under its identifier and key, and then found. -/
theorem saveOperation_again {ops ops' : List ConsequentialOperation} (op' : ConsequentialOperation)
    (taken : saveOperation ops op = .ok ops') (id : op'.id = op.id)
    (key : op'.idempotencyKey = op.idempotencyKey) :
    ∃ ops'', saveOperation ops' op' = .ok ops'' ∧ find ops'' op'.id = some op' := by
  have present : find ops' op'.id = some op := by
    unfold saveOperation at taken
    rw [id]
    split at taken
    · rename_i old found
      split at taken
      · cases taken
      · obtain rfl := Except.ok.inj taken
        exact lookupBy_replaceBy_some found
    · rename_i new
      split at taken
      · cases taken
      · obtain rfl := Except.ok.inj taken
        exact lookupBy_concat_self (lookupBy_none.mp new)
  have free : ops'.any (fun o => o.id ≠ op'.id ∧ o.idempotencyKey = op'.idempotencyKey) = false := by
    rw [id, key, List.any_eq_false]
    intro o mem clash
    obtain ⟨other, same⟩ := of_decide_eq_true clash
    unfold saveOperation at taken
    split at taken
    · split at taken
      · cases taken
      · rename_i unique
        obtain rfl := Except.ok.inj taken
        rcases mem_replaceBy mem with rfl | ⟨before, -⟩
        · exact other rfl
        · exact unique (List.any_eq_true.mpr ⟨o, before, decide_eq_true ⟨other, same⟩⟩)
    · split at taken
      · cases taken
      · rename_i unique
        obtain rfl := Except.ok.inj taken
        rcases List.mem_append.mp mem with before | last
        · exact unique (List.any_eq_true.mpr ⟨o, before, decide_eq_true same⟩)
        · exact other (congrArg _ (List.mem_singleton.mp last))
  refine ⟨replaceBy ConsequentialOperation.id ops' op', ?_, lookupBy_replaceBy_some present⟩
  unfold saveOperation
  rw [present]
  dsimp only
  rw [free, if_neg Bool.false_ne_true]

/-- The commands that leave no record `UNKNOWN` and dispatch nothing. -/
def Settling : Cmd → Prop
  | .save op => op.state ≠ .unknown
  | .execute _ => False
  | _ => True

theorem transitionAndSave_settling {s : OperationState} {msg ref : Option String}
    (known : s ≠ .unknown) : Issues Settling (transitionAndSave op s msg ref) := by
  unfold transitionAndSave
  cases moved : op.transitionTo s msg ref with
  | error err => trivial
  | ok op' =>
    have state := (ConsequentialOperation.transitionTo_ok moved).2.1
    rw [ofExcept_ok, ret_bind]
    refine Issues.bind ⟨?_, fun _ => Issues.ofExcept _⟩ fun _ => trivial
    exact fun same => known (state.symm.trans same)

theorem payOut_settling (target memo txId : String) : Issues Settling (payOut op target memo txId) := by
  unfold payOut
  split
  · refine Issues.bind (Issues.perform trivial) fun moved => ?_
    exact Issues.bind (Issues.ofExcept _) fun _ => Issues.bind (Issues.perform trivial) fun _ => trivial
  · trivial

/-- A settled outcome leaves no record `UNKNOWN`. -/
theorem concludeSubmission_settling (h : Hashing) (op : ConsequentialOperation)
    (proposal : ActionProposal) (decision : PolicyDecision) {result : ProviderExecutionResult}
    (settled : result.outcome = outcomeSuccess ∨ result.outcome = outcomeFailure) :
    Issues Settling (concludeSubmission h op proposal decision result) := by
  unfold concludeSubmission
  dsimp only
  split
  · refine Issues.bind (payOut_settling _ _ _) fun _ => ?_
    refine Issues.bind (transitionAndSave_settling (by decide)) fun _ => ?_
    exact Issues.bind (Issues.perform trivial) fun _ => trivial
  · rename_i unsuccessful
    rw [if_pos (settled.resolve_left unsuccessful)]
    refine Issues.bind (payOut_settling _ _ _) fun _ => ?_
    exact Issues.bind (transitionAndSave_settling (by decide)) fun _ => trivial

/-- What such commands keep. -/
def Known (sent : Option Signed) (d : Deployed) : Prop :=
  (∀ o, d.saved = some o → o.state ≠ .unknown) ∧ d.sent = sent

theorem respond_known {sent : Option Signed} (c : Cmd) (d : Deployed) (settling : Settling c)
    (known : Known sent d) : Known sent (respond p c d i).2 := by
  cases c with
  | save op =>
    simp only [respond]
    split
    · exact known
    · refine ⟨fun o same => ?_, known.2⟩
      obtain rfl := Option.some.inj same
      exact settling
  | execute op => exact absurd settling id
  | _ => exact known

theorem submission_refused (p : Setup) (i : Input) (m : Memory) (proposal : ActionProposal)
    (decision : PolicyDecision) (refused : ¬Begun w op) :
    ∃ e, submission p i w m op proposal decision = (.error e, ⟨w, m, none, none⟩) := by
  unfold submission submitOperation
  by_cases escrowed : op.state = .escrowed
  · rw [if_neg (not_not.mpr escrowed)]
    have moved : op.transitionTo .submitted none none = .ok { op with state := .submitted } := by
      unfold ConsequentialOperation.transitionTo
      rw [escrowed, if_pos (by decide)]
      rfl
    cases taken : saveOperation w.operations { op with state := .submitted } with
    | ok ops => exact absurd ⟨escrowed, ops, taken⟩ refused
    | error err =>
      refine ⟨err, ?_⟩
      unfold transitionAndSave save
      rw [moved]
      simp only [ofExcept_ok, ret_bind, perform_bind, call_bind, exec, respond, taken, ofExcept_error,
        raise_bind]
  · rw [if_pos escrowed]
    exact ⟨_, rfl⟩

/-- What a submission that began has come to, by the execution of its operation. -/
structure Concluded (p : Setup) (i : Input) (w : World) (m : Memory) (op : ConsequentialOperation)
    (d : Deployed) : Prop where
  sent : d.sent = (execute p i.rpc i.now op m).sent
  raised : ∀ exc, (execute p i.rpc i.now op m).answer = .error exc → ∃ o, d.saved = some o ∧
    o.state = .unknown ∧ o.providerReference = op.providerReference ∧
    find d.world.operations o.id = some o ∧ d.world.ledger = w.ledger
  settled : ∀ r, (execute p i.rpc i.now op m).answer = .ok r →
    r.outcome = outcomeSuccess ∨ r.outcome = outcomeFailure →
    ∀ o, d.saved = some o → o.state ≠ .unknown
  ambiguous : ∀ r, (execute p i.rpc i.now op m).answer = .ok r →
    ¬(r.outcome = outcomeSuccess ∨ r.outcome = outcomeFailure) → ∃ o, d.saved = some o ∧
    o.state = .unknown ∧ o.providerReference = (r.providerReference <|> op.providerReference) ∧
    find d.world.operations o.id = some o ∧ d.world.ledger = w.ledger

theorem submission_concluded (p : Setup) (i : Input) (m : Memory) (proposal : ActionProposal)
    (decision : PolicyDecision) (begun : Begun w op) :
    Concluded p i w m op (submission p i w m op proposal decision).2 := by
  obtain ⟨escrowed, ops, taken⟩ := begun
  have moved : op.transitionTo .submitted none none = .ok { op with state := .submitted } := by
    unfold ConsequentialOperation.transitionTo
    rw [escrowed, if_pos (by decide)]
    rfl
  have toUnknown (msg ref : Option String) :
      ConsequentialOperation.transitionTo { op with state := .submitted } .unknown msg ref =
        .ok { op with
          state := .unknown
          errorMessage := msg <|> op.errorMessage
          providerReference := ref <|> op.providerReference } := by
    unfold ConsequentialOperation.transitionTo
    rw [if_pos (show OperationState.unknown ∈ validTransitions .submitted by decide)]
  unfold submission submitOperation
  rw [if_neg (not_not.mpr escrowed), exec_transitionAndSave moved taken]
  rw [perform_bind, exec]
  have same : execute p i.rpc i.now { op with state := .submitted } m = execute p i.rpc i.now op m := rfl
  simp only [respond, same, Option.or_none]
  -- the dispatch has been made, and its answer decides
  cases answer : (execute p i.rpc i.now op m).answer with
  | error exc =>
    obtain ⟨ops', again, found⟩ := saveOperation_again { op with
      state := .unknown
      errorMessage := some s!"Transport exception during dispatch: {exc.message}" <|> op.errorMessage
      providerReference := none <|> op.providerReference } taken rfl rfl
    dsimp only
    rw [exec_transitionAndSave (toUnknown _ _) again]
    refine ⟨rfl, fun _ _ => ⟨_, rfl, rfl, rfl, found, rfl⟩, fun r said => ?_, fun r said => ?_⟩
    · rw [answer] at said
      cases said
    · rw [answer] at said
      cases said
  | ok result =>
    dsimp only
    by_cases settled : result.outcome = outcomeSuccess ∨ result.outcome = outcomeFailure
    · have submitted (o : ConsequentialOperation)
          (latest : some { op with state := .submitted } = some o) : o.state ≠ .unknown := by
        rw [← Option.some.inj latest]
        exact fun unknown => OperationState.noConfusion unknown
      have known := Issues.exec (h := respond p) (i := i)
        (w := { world := { w with operations := ops, executed := w.executed ++ [op.id] }
                memory := (execute p i.rpc i.now op m).memory
                saved := some { op with state := .submitted }
                sent := (execute p i.rpc i.now op m).sent })
        (Known (execute p i.rpc i.now op m).sent)
        (concludeSubmission_settling p.hashing { op with state := .submitted } proposal decision settled)
        respond_known ⟨submitted, rfl⟩
      refine ⟨known.2, fun exc said => ?_, fun r said outcome => known.1, fun r said outcome => ?_⟩
      · rw [answer] at said
        cases said
      · rw [answer] at said
        obtain rfl := Except.ok.inj said
        exact absurd settled outcome
    · obtain ⟨unsuccessful, unfailed⟩ := not_or.mp settled
      unfold concludeSubmission
      dsimp only
      rw [if_neg unsuccessful, if_neg unfailed]
      obtain ⟨ops', again, found⟩ := saveOperation_again { op with
        state := .unknown
        errorMessage := some (orElse result.errorMessage "Provider returned timeout/unknown outcome") <|>
          op.errorMessage
        providerReference := result.providerReference <|> op.providerReference } taken rfl rfl
      rw [exec_transitionAndSave (toUnknown _ _) again]
      refine ⟨rfl, fun exc said => ?_, fun r said outcome => ?_, fun r said _ => ?_⟩
      · rw [answer] at said
        cases said
      · rw [answer] at said
        obtain rfl := Except.ok.inj said
        exact absurd outcome settled
      · rw [answer] at said
        obtain rfl := Except.ok.inj said
        exact ⟨_, rfl, rfl, rfl, found, rfl⟩

end Runs

section Reports
variable {p : Setup} {i : Input} {w : World} {m : Memory} {op : ConsequentialOperation}
  {proposal : ActionProposal} {decision : PolicyDecision}

/-- An operation that is left `UNKNOWN` after its transaction was handed to the network carries the
transaction's hash in the stored record. -/
def Carries (d : Deployed) : Prop :=
  ∀ o s, d.saved = some o → o.state = .unknown → d.sent = some s →
    o.providerReference = some s.txHash ∧ find d.world.operations o.id = some o

/-- Where the transaction's hash is kept: the network answers with it or with nothing, if no receipt
is found, and what cannot be written into evidence is the receipt of an operation that had it. -/
structure Kept (p : Setup) (rpc : BroadcastClient) (op : ConsequentialOperation) (s : Signed) : Prop where
  pending : ∀ sent, rpc.sendRawTransaction s.raw = .ok sent →
    (∀ receipt, rpc.getTransactionReceipt (reference sent s) ≠ .ok (some receipt)) →
    reference sent s = s.txHash
  garbled : ∀ sent receipt, Found rpc s sent receipt →
    receiptSucceeded (get receipt "status") = true → ¬Readable p (reference sent s) receipt →
    op.providerReference = some s.txHash

theorem carries_unknown {d : Deployed} {o : ConsequentialOperation} {s : Signed}
    (saved : d.saved = some o) (unknown : o.state = .unknown) (sent : d.sent = some s)
    (stored : find d.world.operations o.id = some o) :
    Carries d ↔ o.providerReference = some s.txHash := by
  constructor
  · intro carries
    exact (carries o s saved unknown sent).1
  · intro reference o' s' saved' _ sent'
    obtain rfl := Option.some.inj (saved.symm.trans saved')
    obtain rfl := Option.some.inj (sent.symm.trans sent')
    exact ⟨reference, stored⟩

theorem carries_known {d : Deployed} (known : ∀ o, d.saved = some o → o.state ≠ .unknown) : Carries d :=
  fun o _ saved unknown => absurd unknown (known o saved)

theorem carries_unsent {d : Deployed} (unsent : d.sent = none) : Carries d := by
  intro o s _ _ sent
  rw [unsent] at sent
  cases sent

/-- A transaction that was handed over is kept exactly if its hash is what the record then holds. -/
theorem carries_announced {d : Deployed} {s : Signed} (concluded : Concluded p i w m op d)
    (sent : (execute p i.rpc i.now op m).sent = some s)
    (announced : Announced p i.rpc s (execute p i.rpc i.now op m).answer) :
    Carries d ↔ Kept p i.rpc op s := by
  obtain ⟨sent_, raised, settled, ambiguous⟩ := concluded
  rw [sent] at sent_
  generalize (execute p i.rpc i.now op m).answer = answer at announced raised settled ambiguous
  cases announced with
  | lost exc r lost outcome referred =>
    obtain ⟨o, saved, unknown, reference, stored, -⟩ := ambiguous r rfl (by rw [outcome]; decide)
    rw [carries_unknown saved unknown sent_ stored, reference, referred]
    refine iff_of_true rfl ⟨fun sent taken => ?_, fun sent receipt found => ?_⟩
    · rw [lost] at taken
      cases taken
    · have taken := found.taken
      rw [lost] at taken
      cases taken
  | pending sent r taken absent outcome referred =>
    obtain ⟨o, saved, unknown, reference, stored, -⟩ := ambiguous r rfl (by rw [outcome]; decide)
    rw [carries_unknown saved unknown sent_ stored, reference, referred]
    constructor
    · intro same
      refine ⟨fun sent' taken' _ => ?_, fun sent' receipt found => ?_⟩
      · obtain rfl := Except.ok.inj (taken.symm.trans taken')
        exact Option.some.inj same
      · obtain rfl := Except.ok.inj (taken.symm.trans found.taken)
        exact absurd found.found (absent receipt)
    · intro kept
      exact congrArg some (kept.pending sent taken absent)
  | confirmed sent receipt r found succeeded readable outcome referred =>
    refine iff_of_true (carries_known (settled r rfl (.inl outcome))) ⟨fun sent' taken absent => ?_, ?_⟩
    · obtain rfl := Except.ok.inj (found.taken.symm.trans taken)
      exact absurd found.found (absent receipt)
    · intro sent' receipt' found' _ garbled
      obtain ⟨rfl, rfl⟩ := found.unique found'
      exact absurd readable garbled
  | unreadable sent receipt exc found succeeded garbled =>
    obtain ⟨o, saved, unknown, reference, stored, -⟩ := raised exc rfl
    rw [carries_unknown saved unknown sent_ stored, reference]
    constructor
    · intro same
      refine ⟨fun sent' taken absent => ?_, fun _ _ _ _ _ => same⟩
      obtain rfl := Except.ok.inj (found.taken.symm.trans taken)
      exact absurd found.found (absent receipt)
    · intro kept
      exact kept.garbled sent receipt found succeeded garbled
  | reverted sent receipt r found unsuccessful outcome referred =>
    refine iff_of_true (carries_known (settled r rfl (.inr outcome))) ⟨fun sent' taken absent => ?_, ?_⟩
    · obtain rfl := Except.ok.inj (found.taken.symm.trans taken)
      exact absurd found.found (absent receipt)
    · intro sent' receipt' found' succeeded
      obtain ⟨rfl, rfl⟩ := found.unique found'
      exact absurd succeeded unsuccessful

theorem submission_carries_iff :
    Carries (submission p i w m op proposal decision).2 ↔
      (Begun w op → ∀ s, (signTransaction p i.rpc op m).1 = .ok s → Kept p i.rpc op s) := by
  by_cases begun : Begun w op
  · rw [forall_prop_of_true begun]
    have concluded := submission_concluded p i m proposal decision begun
    obtain ⟨exc, refused, unsent, -⟩ | ⟨s, signed, sent, announced⟩ :=
      execute_cases p i.rpc i.now op m
    · rw [refused]
      refine iff_of_true (carries_unsent (concluded.sent.trans unsent)) fun _ some_ => ?_
      cases some_
    · rw [signed, carries_announced concluded sent announced]
      constructor
      · rintro kept _ ⟨rfl⟩
        exact kept
      · intro kept
        exact kept s rfl
  · obtain ⟨e, unchanged⟩ := submission_refused p i m proposal decision begun
    rw [unchanged]
    exact iff_of_true (carries_unsent rfl) fun now => absurd now begun

/-- A status query with the answers of the client to it. -/
structure Query where
  client : EvmRpcClient
  opTxHashes : List (String × String)
  operationId : String
  idempotencyKey : Option String
  providerReference : Option String

/-- What execution and status are to report, and what a submission is to store. -/
structure Reported (p : Setup) (i : Input) (w : World) (m : Memory) (op : ConsequentialOperation)
    (proposal : ActionProposal) (decision : PolicyDecision) (q : Query) : Prop where
  execution : ∀ r, (execute p i.rpc i.now op m).answer = .ok r →
    Supported i.rpc.toEvmRpcClient r.outcome r.providerReference
  status : ∀ r, BlockchainProvider.status p.hashing q.client q.opTxHashes q.operationId q.idempotencyKey
    q.providerReference = .ok r → Supported q.client r.outcome r.providerReference
  record : Carries (submission p i w m op proposal decision).2

/-- Receipts that are found have a definite status, and hashes are kept. -/
structure Plain (p : Setup) (i : Input) (w : World) (m : Memory) (op : ConsequentialOperation)
    (q : Query) : Prop where
  execution : ∀ s sent receipt, (signTransaction p i.rpc op m).1 = .ok s →
    Found i.rpc s sent receipt → Definite (get receipt "status")
  status : ∀ receipt,
    statusTxHash q.opTxHashes q.operationId q.idempotencyKey q.providerReference ≠ "" →
    q.client.getTransactionReceipt
      (statusTxHash q.opTxHashes q.operationId q.idempotencyKey q.providerReference) =
        .ok (some receipt) → Definite (get receipt "status")
  record : Begun w op → ∀ s, (signTransaction p i.rpc op m).1 = .ok s → Kept p i.rpc op s

/-- For every operation and all answers of the RPC client: `SUCCESS` is only reported for a receipt
with status one and `FAILURE` only for one with status zero, and an operation left `UNKNOWN` after
its transaction was sent carries the transaction's hash, if and only if each receipt that is found
has a definite status, the network answers with the hash that was signed or with nothing, and a
confirmed receipt can be written into evidence. -/
theorem outcomes_reported_iff (p : Setup) (i : Input) (w : World) (m : Memory)
    (op : ConsequentialOperation) (proposal : ActionProposal) (decision : PolicyDecision) (q : Query) :
    Reported p i w m op proposal decision q ↔ Plain p i w m op q := by
  constructor
  · intro reported
    exact ⟨execute_supported_iff.mp reported.execution, status_supported_iff.mp reported.status,
      submission_carries_iff.mp reported.record⟩
  · intro plain
    exact ⟨execute_supported_iff.mpr plain.execution, status_supported_iff.mpr plain.status,
      submission_carries_iff.mpr plain.record⟩

end Reports

section Early
variable {p : Setup} {i : Input} {w : World} {m : Memory} {op : ConsequentialOperation}
  {proposal : ActionProposal} {decision : PolicyDecision}

/-- The intent can be built, a nonce is allocated, and the signer signs. -/
def Signable (p : Setup) (rpc : BroadcastClient) (op : ConsequentialOperation) (m : Memory) : Prop :=
  ∃ intent, buildIntent p.hashing p.text p.settings op = .ok intent ∧
    ∃ nonce, (NonceAllocation.getOrAllocateNonce p.text m.nonceManager p.signer.address intent.chainId
      op.id op.idempotencyKey (rpc.getTransactionCount p.signer.address "pending")).1 = .ok nonce ∧
    ∃ signed, p.signer.signTransaction intent nonce = .ok signed

theorem signTransaction_ok_iff {rpc : BroadcastClient} :
    (∃ s, (signTransaction p rpc op m).1 = .ok s) ↔ Signable p rpc op m := by
  unfold signTransaction Signable
  cases built : buildIntent p.hashing p.text p.settings op with
  | error exc => simp
  | ok intent =>
    simp only [Except.ok.injEq, exists_eq_left']
    cases given : NonceAllocation.getOrAllocateNonce p.text m.nonceManager p.signer.address
        intent.chainId op.id op.idempotencyKey (rpc.getTransactionCount p.signer.address "pending") with
    | mk allocated nonces =>
      cases allocated with
      | error exc => simp
      | ok nonce =>
        cases signed : p.signer.signTransaction intent nonce with
        | error exc => simp [signed]
        | ok out => exact iff_of_true ⟨_, by dsimp only; rw [signed]⟩ ⟨nonce, rfl, out, signed⟩

/-- The escrow of an operation is back in the treasury. -/
def Returned (w after : World) (op : ConsequentialOperation) : Prop :=
  after.ledger.getBalance Ledger.treasury = w.ledger.getBalance Ledger.treasury + op.amount ∧
    after.ledger.getBalance Ledger.escrow = w.ledger.getBalance Ledger.escrow - op.amount

/-- Only what may have reached the network is left `UNKNOWN`; what raised before it could is `FAILED`,
with its escrow returned. -/
structure Located (p : Setup) (i : Input) (w : World) (m : Memory) (op : ConsequentialOperation)
    (d : Deployed) : Prop where
  unknown : ∀ o, d.saved = some o → o.state = .unknown → d.sent.isSome
  early : Begun w op → ∀ exc, (execute p i.rpc i.now op m).answer = .error exc →
    (execute p i.rpc i.now op m).sent = none →
    ∃ o, d.saved = some o ∧ o.state = .failed ∧ Returned w d.world op

/-- For every operation, parameter map and behaviour of the collaborators: only an operation whose
transaction was handed to the network is left `UNKNOWN`, and an earlier error ends in `FAILED` with
the escrow returned, if and only if there is no earlier error in a submission that began. -/
theorem errors_located_iff (p : Setup) (i : Input) (w : World) (m : Memory)
    (op : ConsequentialOperation) (proposal : ActionProposal) (decision : PolicyDecision) :
    Located p i w m op (submission p i w m op proposal decision).2 ↔
      (Begun w op → Signable p i.rpc op m) := by
  rw [← signTransaction_ok_iff]
  constructor
  · intro located begun
    have concluded := submission_concluded p i m proposal decision begun
    obtain ⟨exc, -, unsent, answer⟩ | ⟨s, signed, -, -⟩ := execute_cases p i.rpc i.now op m
    · obtain ⟨o, saved, unknown, -⟩ := concluded.raised exc answer
      have reached := located.unknown o saved unknown
      rw [concluded.sent, unsent] at reached
      cases reached
    · exact ⟨s, signed⟩
  · intro signable
    by_cases begun : Begun w op
    · have concluded := submission_concluded p i m proposal decision begun
      obtain ⟨s, signed⟩ := signable begun
      obtain ⟨exc, refused, -, -⟩ | ⟨s', -, sent, -⟩ := execute_cases p i.rpc i.now op m
      · rw [refused] at signed
        cases signed
      · refine ⟨fun o _ _ => ?_, fun _ exc _ unsent => ?_⟩
        · rw [concluded.sent, sent]
          rfl
        · rw [sent] at unsent
          cases unsent
    · obtain ⟨e, unchanged⟩ := submission_refused p i m proposal decision begun
      rw [unchanged]
      refine ⟨fun o none_ => ?_, fun now => absurd now begun⟩
      cases none_

end Early

section Sample

def signedHash : String := "0x" ++ String.ofList (List.replicate 64 'a')

def setup : Setup where
  hashing := ⟨id, fun _ => "0.0"⟩
  text := asciiRules fun _ => "0.0"
  floats := ⟨fun i => .ok (.finite i), fun _ _ => .nan⟩
  settings := {}
  signer := ⟨"0x1111111111111111111111111111111111111111", fun _ _ => .ok ([2], signedHash)⟩

/-- A receipt that does not say how the transaction ended. -/
def bareReceipt : List (String × PyValue) :=
  [("transactionHash", .str signedHash), ("blockNumber", .str "0x10")]

def bareClient : BroadcastClient where
  getTransactionReceipt _ := .ok (some bareReceipt)
  getTransactionByHash _ := .ok .none
  className := "HttpEvmRpcClient"
  getTransactionCount _ _ := .ok 0
  sendRawTransaction _ := .ok signedHash

def payment (target : String) : ConsequentialOperation where
  id := "cop-1"
  tenantId := "tenant-1"
  organisationId := "org-1"
  proposalId := "p1"
  decisionId := "dec-1"
  idempotencyKey := "org-1:p1"
  actionType := .blockchainTransaction
  target := target
  parameters := []
  amount := 5
  providerName := "blockchain"
  providerReference := none
  state := .escrowed
  errorMessage := none

def paid : ConsequentialOperation := payment "evm://0x2222222222222222222222222222222222222222"

def unaddressed : ConsequentialOperation := payment ""

def storedWorld (op : ConsequentialOperation) : World where
  ledger := LedgerEquivalence.sqliteOf [⟨"m1", 0, "mint-0", Ledger.systemMint, Ledger.treasury, 100,
      "Initial capital", LedgerEquivalence.capital_pos⟩,
    ⟨"l1", 0, lockTx setup.hashing op, Ledger.treasury, Ledger.escrow, 5, lockMemo op.id, by decide⟩]
  operations := [op]
  consumed := []
  executed := []

def input : Input := ⟨ExactlyOnce.env ExactlyOnce.firstUuid "l1" "SUCCESS", bareClient, "2024-01-01T00:00:00"⟩

def noMemory : Memory := ⟨⟨[], []⟩, []⟩

def bareQuery : Query := ⟨bareClient.toEvmRpcClient, [], "cop-1", none, some signedHash⟩

/-- A receipt without a status is reported as a definite failure. -/
theorem missing_status_reported_failed :
    (execute setup bareClient input.now paid noMemory).answer.toOption.map (·.outcome) =
      some outcomeFailure ∧
    (bareReceipt.lookup "status").isNone ∧
    ¬Reported setup input (storedWorld paid) noMemory paid (ExactlyOnce.proposal "p1")
      (ExactlyOnce.decision "tok-1") bareQuery := by
  have failed : (execute setup bareClient input.now paid noMemory).answer.toOption.map (·.outcome) =
      some outcomeFailure := by decide +kernel
  refine ⟨failed, by decide, fun reported => ?_⟩
  obtain ⟨r, answer, outcome⟩ := Option.map_eq_some_iff.mp failed
  have said : (execute setup bareClient input.now paid noMemory).answer = .ok r := by
    cases given : (execute setup bareClient input.now paid noMemory).answer with
    | error exc => rw [given] at answer; cases answer
    | ok r' => rw [given] at answer; exact congrArg _ (Option.some.inj answer)
  obtain ⟨_, receipt, -, found, zero⟩ := (reported.execution r said).failure outcome
  obtain rfl : bareReceipt = receipt := Option.some.inj (Except.ok.inj found)
  exact absurd zero (by decide)

/-- An operation without a recipient is left `UNKNOWN`, its escrow locked, and nothing was sent. -/
theorem unaddressed_left_unknown :
    ((submission setup input (storedWorld unaddressed) noMemory unaddressed
      (ExactlyOnce.proposal "p1") (ExactlyOnce.decision "tok-1")).2.saved.map (·.state)) = some .unknown ∧
    (execute setup bareClient input.now unaddressed noMemory).sent.isNone ∧
    ¬Located setup input (storedWorld unaddressed) noMemory unaddressed
      (submission setup input (storedWorld unaddressed) noMemory unaddressed
        (ExactlyOnce.proposal "p1") (ExactlyOnce.decision "tok-1")).2 := by
  have left : ((submission setup input (storedWorld unaddressed) noMemory unaddressed
      (ExactlyOnce.proposal "p1") (ExactlyOnce.decision "tok-1")).2.saved.map (·.state)) = some .unknown := by
    decide +kernel
  have unsent : (submission setup input (storedWorld unaddressed) noMemory unaddressed
      (ExactlyOnce.proposal "p1") (ExactlyOnce.decision "tok-1")).2.sent.isSome = false := by
    decide +kernel
  refine ⟨left, by decide +kernel, fun located => ?_⟩
  obtain ⟨o, saved, unknown⟩ := Option.map_eq_some_iff.mp left
  have sent := located.unknown o saved unknown
  rw [unsent] at sent
  cases sent

end Sample

end Dispatch
