import KalyxMao.NonceAllocation

/-!
# Histories of nonce requests

A counter of an account is always above every nonce that was handed out for it,
whatever the chain counts and however often a fetch fails. An operation is told
by its id and its idempotency key, an account by the sender and the chain.
-/

namespace NonceHistories
open PythonText PythonConversions NonceAllocation

section Model

structure Call where
  sender : String
  chainId : Int
  operationId : String
  idempotencyKey : String
  onChainNonceFetcher : Except PyError Int

def Call.operation (c : Call) : String × String := (c.operationId, c.idempotencyKey)

def NonceManager.init : NonceManager := ⟨[], []⟩

/-- What a call was answered. -/
abbrev Answer := Call × Except PyError Int

variable (t : TextRules)

/-- The same sender in any letter case is the same account. -/
def Call.account (c : Call) : String × Int := acctKey t c.sender c.chainId

def request (m : NonceManager) (c : Call) : Except PyError Int × NonceManager :=
  getOrAllocateNonce t m c.sender c.chainId c.operationId c.idempotencyKey c.onChainNonceFetcher

/-- The calls one after the other, each with its answer. -/
def answers (m : NonceManager) : List Call → List Answer
  | [] => []
  | c :: calls => (c, (request t m c).1) :: answers (request t m c).2 calls

end Model

section Property
variable (t : TextRules)

/-- An operation is always used with the same account. -/
def Consistent (calls : List Call) : Prop :=
  ∀ c ∈ calls, ∀ c' ∈ calls, c.operation = c'.operation → c.account t = c'.account t

/-- No earlier call of the operation was given a nonce. -/
def Unassigned (past : List Answer) (c : Call) : Prop :=
  ∀ p ∈ past, p.1.operation = c.operation → ∀ nonce, p.2 ≠ .ok nonce

/-- A new nonce is no less than what the chain counts, and above all that the account was given. -/
structure Sequential (past : List Answer) (c : Call) (nonce : Int) : Prop where
  fetched : ∃ onChain, c.onChainNonceFetcher = .ok onChain ∧ onChain ≤ nonce
  above : ∀ p ∈ past, p.1.account t = c.account t → ∀ earlier, p.2 = .ok earlier → earlier < nonce

structure Orderly (history : List Answer) : Prop where
  distinct : ∀ p ∈ history, ∀ q ∈ history, p.1.account t = q.1.account t →
    p.1.operation ≠ q.1.operation → ∀ nonce, p.2 = .ok nonce → q.2 ≠ .ok nonce
  retried : ∀ past p future, history = past ++ p :: future → ∀ q ∈ future,
    q.1.operation = p.1.operation → ∀ nonce, p.2 = .ok nonce → q.2 = .ok nonce
  sequential : ∀ past p future, history = past ++ p :: future → Unassigned past p.1 →
    ∀ nonce, p.2 = .ok nonce → Sequential t past p.1 nonce

end Property

section Steps
variable {t : TextRules} {m : NonceManager} {past : List Answer} {c : Call}

/-- The dictionaries hold what was answered: the nonce of each operation, and for each account a
counter above its nonces. -/
structure Records (t : TextRules) (past : List Answer) (m : NonceManager) : Prop where
  given : ∀ p ∈ past, ∀ nonce, p.2 = .ok nonce → m.assignedNonces.lookup p.1.operation = some nonce
  answered : ∀ operation nonce, m.assignedNonces.lookup operation = some nonce →
    ∃ p ∈ past, p.1.operation = operation ∧ p.2 = .ok nonce
  below : ∀ p ∈ past, ∀ nonce, p.2 = .ok nonce →
    ∃ next, m.nextNonces.lookup (p.1.account t) = some next ∧ nonce < next

theorem records_init (t : TextRules) : Records t [] NonceManager.init := by
  constructor
  · intro p mem
    cases mem
  · intro operation nonce assigned
    cases assigned
  · intro p mem
    cases mem

/-- A request is answered from memory, fails with the fetcher, or takes a nonce that is new. -/
theorem request_cases (t : TextRules) (m : NonceManager) (c : Call) :
    (∃ nonce, m.assignedNonces.lookup c.operation = some nonce ∧ request t m c = (.ok nonce, m)) ∨
    (∃ exc, m.assignedNonces.lookup c.operation = none ∧ request t m c = (.error exc, m)) ∨
    ∃ onChain nonce, m.assignedNonces.lookup c.operation = none ∧
      c.onChainNonceFetcher = .ok onChain ∧
      nonce = max onChain ((m.nextNonces.lookup (c.account t)).getD 0) ∧
      request t m c = (.ok nonce,
        ⟨(c.account t, nonce + 1) :: m.nextNonces, (c.operation, nonce) :: m.assignedNonces⟩) := by
  unfold request getOrAllocateNonce
  cases assigned : m.assignedNonces.lookup (c.operationId, c.idempotencyKey) with
  | some nonce => exact .inl ⟨nonce, assigned, rfl⟩
  | none =>
    right
    cases fetched : c.onChainNonceFetcher with
    | error exc => exact .inl ⟨exc, assigned, rfl⟩
    | ok onChain => exact .inr ⟨onChain, _, assigned, rfl, rfl, rfl⟩

theorem Records.unassigned (records : Records t past m)
    (none_ : m.assignedNonces.lookup c.operation = none) : Unassigned past c := by
  intro p mem same nonce ok
  have assigned := records.given p mem nonce ok
  rw [same, none_] at assigned
  cases assigned

theorem Records.above (records : Records t past m) {nonce onChain : Int}
    (new : nonce = max onChain ((m.nextNonces.lookup (c.account t)).getD 0)) :
    ∀ p ∈ past, p.1.account t = c.account t → ∀ earlier, p.2 = .ok earlier → earlier < nonce := by
  intro p mem same earlier ok
  obtain ⟨next, counter, lower⟩ := records.below p mem earlier ok
  rw [same] at counter
  rw [new, counter, Option.getD_some]
  omega

/-- An answer that leaves the dictionaries is recorded if they held it already. -/
theorem Records.append (records : Records t past m) {answer : Except PyError Int}
    (held : ∀ nonce, answer = .ok nonce → m.assignedNonces.lookup c.operation = some nonce ∧
      ∃ next, m.nextNonces.lookup (c.account t) = some next ∧ nonce < next) :
    Records t (past ++ [(c, answer)]) m := by
  constructor
  · intro p mem nonce given
    rcases List.mem_append.mp mem with old | new
    · exact records.given p old nonce given
    · obtain rfl := List.mem_singleton.mp new
      exact (held nonce given).1
  · intro operation nonce found
    obtain ⟨p, old, facts⟩ := records.answered _ _ found
    exact ⟨p, List.mem_append_left _ old, facts⟩
  · intro p mem nonce given
    rcases List.mem_append.mp mem with old | new
    · exact records.below p old nonce given
    · obtain rfl := List.mem_singleton.mp new
      exact (held nonce given).2

/-- What a call does to the dictionaries keeps them the record of the answers. -/
theorem records_step (records : Records t past m) (consistent : Consistent t (past.map Prod.fst ++ [c])) :
    Records t (past ++ [(c, (request t m c).1)]) (request t m c).2 := by
  rcases request_cases t m c with ⟨nonce, assigned, answer⟩ | ⟨exc, -, answer⟩ |
    ⟨onChain, nonce, none_, -, new, answer⟩
  · rw [answer]
    obtain ⟨first, there, same, ok⟩ := records.answered _ _ assigned
    have account : first.1.account t = c.account t :=
      consistent _ (List.mem_append_left _ (List.mem_map_of_mem there)) _ (by simp) same
    refine records.append fun n given => ?_
    rw [← Except.ok.inj given, ← account]
    exact ⟨assigned, records.below first there nonce ok⟩
  · rw [answer]
    refine records.append fun n given => ?_
    cases given
  · rw [answer]
    refine ⟨?_, ?_, ?_⟩
    · intro p mem n given
      rw [List.lookup_cons]
      rcases List.mem_append.mp mem with old | last
      · have ne : p.1.operation ≠ c.operation :=
          fun same => records.unassigned none_ p old same n given
        rw [beq_eq_false_iff_ne.mpr ne]
        exact records.given p old n given
      · obtain rfl := List.mem_singleton.mp last
        rw [beq_self_eq_true, ← Except.ok.inj given]
    · intro operation n found
      rw [List.lookup_cons] at found
      split at found
      · rename_i same
        refine ⟨(c, .ok nonce), by simp, (beq_iff_eq.mp same).symm, ?_⟩
        rw [Option.some.inj found]
      · obtain ⟨p, old, facts⟩ := records.answered _ _ found
        exact ⟨p, List.mem_append_left _ old, facts⟩
    · intro p mem n given
      rw [List.lookup_cons]
      by_cases same : p.1.account t = c.account t
      · rw [same, beq_self_eq_true]
        refine ⟨nonce + 1, rfl, ?_⟩
        rcases List.mem_append.mp mem with old | last
        · have lower := records.above new p old same n given
          omega
        · obtain rfl := List.mem_singleton.mp last
          rw [← Except.ok.inj given]
          omega
      · rw [beq_eq_false_iff_ne.mpr same]
        rcases List.mem_append.mp mem with old | last
        · exact records.below p old n given
        · obtain rfl := List.mem_singleton.mp last
          exact absurd rfl same

theorem distinct_step (records : Records t past m) (orderly : Orderly t past)
    (consistent : Consistent t (past.map Prod.fst ++ [c])) {p : Answer} (mem : p ∈ past)
    (same : p.1.account t = c.account t) (differ : p.1.operation ≠ c.operation) {nonce : Int}
    (given : p.2 = .ok nonce) : (request t m c).1 ≠ .ok nonce := by
  intro again
  rcases request_cases t m c with ⟨n, assigned, answer⟩ | ⟨exc, -, answer⟩ |
    ⟨onChain, n, -, -, new, answer⟩
  · rw [answer] at again
    obtain rfl := Except.ok.inj again
    obtain ⟨first, there, operation, ok⟩ := records.answered _ _ assigned
    have account : first.1.account t = c.account t :=
      consistent _ (List.mem_append_left _ (List.mem_map_of_mem there)) _ (by simp) operation
    exact orderly.distinct p mem first there (same.trans account.symm) (operation ▸ differ) n given ok
  · rw [answer] at again
    cases again
  · rw [answer] at again
    obtain rfl := Except.ok.inj again
    exact absurd (records.above new p mem same n given) (Int.lt_irrefl n)

theorem retried_step (records : Records t past m) {p : Answer} (mem : p ∈ past)
    (same : c.operation = p.1.operation) {nonce : Int} (given : p.2 = .ok nonce) :
    (request t m c).1 = .ok nonce := by
  have assigned := records.given p mem nonce given
  rw [← same] at assigned
  rcases request_cases t m c with ⟨n, assigned', answer⟩ | ⟨exc, none_, -⟩ | ⟨_, _, none_, -⟩
  · rw [assigned] at assigned'
    rw [answer, Option.some.inj assigned']
  · rw [assigned] at none_
    cases none_
  · rw [assigned] at none_
    cases none_

theorem sequential_step (records : Records t past m) (unassigned : Unassigned past c) {nonce : Int}
    (given : (request t m c).1 = .ok nonce) : Sequential t past c nonce := by
  rcases request_cases t m c with ⟨n, assigned, -⟩ | ⟨exc, -, answer⟩ |
    ⟨onChain, n, -, fetched, new, answer⟩
  · obtain ⟨first, there, operation, ok⟩ := records.answered _ _ assigned
    exact absurd ok (unassigned first there operation n)
  · rw [answer] at given
    cases given
  · rw [answer] at given
    obtain rfl := Except.ok.inj given
    exact ⟨⟨onChain, fetched, by omega⟩, records.above new⟩

/-- A history that ends with one more answer is taken apart before that answer or at it. -/
theorem concat_split {α : Type} {past past' future : List α} {x p : α}
    (split : past ++ [x] = past' ++ p :: future) :
    (future = [] ∧ past = past' ∧ x = p) ∨ ∃ future', future = future' ++ [x] ∧ past = past' ++ p :: future' := by
  rcases List.eq_nil_or_concat future with rfl | ⟨future', y, rfl⟩
  · obtain ⟨same, last⟩ := List.append_inj' split rfl
    exact .inl ⟨rfl, same, List.cons.inj last |>.1⟩
  · have shape : past ++ [x] = (past' ++ p :: future') ++ [y] := by
      rw [split, List.concat_eq_append, List.append_assoc, List.cons_append]
    obtain ⟨same, last⟩ := List.append_inj' shape rfl
    rw [List.cons.inj last |>.1]
    exact .inr ⟨future', List.concat_eq_append, same⟩

theorem orderly_step (records : Records t past m) (orderly : Orderly t past)
    (consistent : Consistent t (past.map Prod.fst ++ [c])) :
    Orderly t (past ++ [(c, (request t m c).1)]) := by
  refine ⟨?_, ?_, ?_⟩
  · intro p hp q hq same differ nonce given again
    rcases List.mem_append.mp hp with oldP | newP
    · rcases List.mem_append.mp hq with oldQ | newQ
      · exact orderly.distinct p oldP q oldQ same differ nonce given again
      · obtain rfl := List.mem_singleton.mp newQ
        exact distinct_step records orderly consistent oldP same differ given again
    · obtain rfl := List.mem_singleton.mp newP
      rcases List.mem_append.mp hq with oldQ | newQ
      · exact distinct_step records orderly consistent oldQ same.symm differ.symm again given
      · obtain rfl := List.mem_singleton.mp newQ
        exact differ rfl
  · intro past' p future split q hq same nonce given
    rcases concat_split split with ⟨rfl, -, -⟩ | ⟨future', rfl, rfl⟩
    · cases hq
    · rcases List.mem_append.mp hq with old | last
      · exact orderly.retried past' p future' rfl q old same nonce given
      · obtain rfl := List.mem_singleton.mp last
        exact retried_step records (by simp) same given
  · intro past' p future split unassigned nonce given
    rcases concat_split split with ⟨-, rfl, rfl⟩ | ⟨future', -, rfl⟩
    · exact sequential_step records unassigned given
    · exact orderly.sequential past' p future' rfl unassigned nonce given

end Steps

section Runs
variable {t : TextRules}

theorem orderly_run (calls : List Call) {m : NonceManager} {past : List Answer}
    (records : Records t past m) (orderly : Orderly t past)
    (consistent : Consistent t (past.map Prod.fst ++ calls)) :
    Orderly t (past ++ answers t m calls) := by
  induction calls generalizing m past with
  | nil =>
    rw [answers, List.append_nil]
    exact orderly
  | cons c calls ih =>
    have now : Consistent t (past.map Prod.fst ++ [c]) := by
      have sub : past.map Prod.fst ++ [c] ⊆ past.map Prod.fst ++ c :: calls := by simp
      intro a ha b hb
      exact consistent a (sub ha) b (sub hb)
    have next := ih (records_step records now) (orderly_step records orderly now) (by simpa using consistent)
    rw [List.append_assoc] at next
    exact next

/-- In every sequence of requests by operations that each keep to one account, with whatever the
fetchers answer: two operations of an account have different nonces, an operation keeps the nonce
it was given, and a new nonce is no less than what the chain counts and above all earlier ones of
the account. -/
theorem nonces_orderly (t : TextRules) (calls : List Call) (consistent : Consistent t calls) :
    Orderly t (answers t NonceManager.init calls) := by
  have start : Orderly t [] := by
    refine ⟨?_, ?_, ?_⟩
    · intro p mem
      cases mem
    · intro past p future split
      exact absurd split (by simp)
    · intro past p future split
      exact absurd split (by simp)
  exact orderly_run calls (records_init t) start consistent

end Runs

section Samples

def textRules : TextRules := asciiRules fun _ => "0.0"

/-- Two operations of one account in different letter case, a retry of the first, and a fetch that
fails. -/
def sampleCalls : List Call := [
  ⟨"0xAb", 1, "op-1", "key-1", .ok 7⟩,
  ⟨"0xaB", 1, "op-2", "key-2", .ok 3⟩,
  ⟨"0xAB", 1, "op-1", "key-1", .ok 9⟩,
  ⟨"0xab", 1, "op-3", "key-3", .error ⟨.runtimeError, "timeout"⟩⟩]

theorem sample_orderly : Orderly textRules (answers textRules NonceManager.init sampleCalls) := by
  have account : ∀ c ∈ sampleCalls, c.account textRules = ("0xab", 1) := by decide +kernel
  refine nonces_orderly textRules sampleCalls ?_
  intro c mem c' mem' _
  rw [account c mem, account c' mem']

end Samples

end NonceHistories
