import Mathlib.Algebra.BigOperators.Group.Finset.Basic
import Mathlib.Algebra.GroupWithZero.Nat
import Mathlib.Algebra.Order.BigOperators.Group.Finset
import Mathlib.Logic.Function.Basic

/-!
# The collateral vault contract

The vault holds tokens of many positions at once. A position is locked by its
pledger and settled once by the owner, back to the pledger or on to the
beneficiary named when it was locked. A call that reverts changes nothing.

Addresses and position ids are arbitrary; the token is any contract with exact
balances that calls nobody back. Amounts are natural numbers: a supply below
`2 ^ 256` lets no addition wrap.
-/

namespace CollateralVault

section Tokens
variable {Address T : Type} [DecidableEq Address]

/-- The calls the vault makes; `none` is a revert. -/
structure Token (Address T : Type) where
  balanceOf : T → Address → Nat
  transfer : T → (sender target : Address) → Nat → Option (Bool × T)
  transferFrom : T → (spender source target : Address) → Nat → Option (Bool × T)

/-- Balances after an amount has moved. -/
def moved (balances : Address → Nat) (source target : Address) (amount : Nat) : Address → Nat :=
  let debited := Function.update balances source (balances source - amount)
  Function.update debited target (debited target + amount)

/-- Exact ERC-20 balances: what succeeds was covered and moved exactly the amount. -/
structure Token.Exact (token : Token Address T) : Prop where
  transfer {t t' : T} {sender target : Address} {amount : Nat}
    (ok : token.transfer t sender target amount = some (true, t')) :
    amount ≤ token.balanceOf t sender ∧
      token.balanceOf t' = moved (token.balanceOf t) sender target amount
  transferFrom {t t' : T} {spender source target : Address} {amount : Nat}
    (ok : token.transferFrom t spender source target amount = some (true, t')) :
    amount ≤ token.balanceOf t source ∧
      token.balanceOf t' = moved (token.balanceOf t) source target amount

theorem moved_self (balances : Address → Nat) {source target : Address} {amount : Nat}
    (other : source ≠ target) : moved balances source target amount target = balances target + amount := by
  simp [moved, Function.update_of_ne other.symm]

theorem le_moved (balances : Address → Nat) {source target : Address} {amount : Nat}
    (covered : amount ≤ balances source) :
    balances source ≤ moved balances source target amount source + amount := by
  by_cases same : target = source
  · subst same
    simp [moved]
    omega
  · simp [moved, Function.update_of_ne (Ne.symm same)]
    omega

end Tokens

section Contract
variable {Address Id T : Type} [DecidableEq Address] [DecidableEq Id]

inductive PositionState where
  | none
  | locked
  | released
  | forfeited
  deriving DecidableEq

structure Position (Address : Type) where
  pledger : Address
  beneficiary : Address
  amount : Nat
  state : PositionState
  deriving DecidableEq

inductive Event (Address Id : Type) where
  | locked (positionId : Id) (pledger beneficiary : Address) (amount : Nat)
  | released (positionId : Id) (pledger : Address) (amount : Nat)
  | forfeited (positionId : Id) (pledger beneficiary : Address) (amount : Nat)
  | ownerChanged (previousOwner newOwner : Address)
  deriving DecidableEq

inductive Revert where
  | notOwner
  | zeroAddress
  | zeroAmount
  | positionAlreadyExists
  | positionNotFound
  | positionNotLocked
  | token
  | require (message : String)
  deriving DecidableEq

/-- The contract's address, the zero address and the code of the credit token. -/
structure Deployment (Address T : Type) where
  zero : Address
  this : Address
  creditToken : Token Address T

/-- The storage of the vault and of the token, and the events emitted so far. -/
structure Vault (Address Id T : Type) where
  token : T
  owner : Address
  positions : Id → Position Address
  events : List (Event Address Id)

variable (d : Deployment Address T)

/-- The constructor. An unwritten position is all zeros. -/
def new (creditTokenAddress initialOwner : Address) (token : T) :
    Except Revert (Vault Address Id T) :=
  if creditTokenAddress = d.zero ∨ initialOwner = d.zero then .error .zeroAddress
  else .ok ⟨token, initialOwner, fun _ => ⟨d.zero, d.zero, 0, .none⟩, []⟩

variable (s : Vault Address Id T) (sender : Address)

def Vault.emit (e : Event Address Id) : Vault Address Id T := { s with events := s.events ++ [e] }

def Vault.set (positionId : Id) (p : Position Address) : Vault Address Id T :=
  { s with positions := Function.update s.positions positionId p }

omit [DecidableEq Address] [DecidableEq Id] in
@[simp] theorem emit_positions (e : Event Address Id) : (s.emit e).positions = s.positions := rfl

omit [DecidableEq Address] [DecidableEq Id] in
@[simp] theorem emit_token (e : Event Address Id) : (s.emit e).token = s.token := rfl

omit [DecidableEq Address] in
@[simp] theorem set_positions (positionId : Id) (p : Position Address) :
    (s.set positionId p).positions = Function.update s.positions positionId p := rfl

def transferOwnership (newOwner : Address) : Except Revert (Vault Address Id T) :=
  if sender ≠ s.owner then .error .notOwner
  else if newOwner = d.zero then .error .zeroAddress
  else .ok { s.emit (.ownerChanged s.owner newOwner) with owner := newOwner }

/-- The tokens move before the position is written. -/
def lock (positionId : Id) (amount : Nat) (beneficiary : Address) :
    Except Revert (Vault Address Id T) :=
  if amount = 0 then .error .zeroAmount
  else if beneficiary = d.zero then .error .zeroAddress
  else if (s.positions positionId).state ≠ .none then .error .positionAlreadyExists
  else
    match d.creditToken.transferFrom s.token d.this sender d.this amount with
    | none => .error .token
    | some (false, _) => .error (.require "CollateralVault: transferFrom failed")
    | some (true, token) =>
      .ok (({ s with token }.set positionId ⟨sender, beneficiary, amount, .locked⟩).emit
        (.locked positionId sender beneficiary amount))

/-- `release` and `forfeit`: mark the position, pay out, and announce it. -/
def settle (positionId : Id) (state : PositionState) (target : Address) (failure : String)
    (announce : Event Address Id) : Except Revert (Vault Address Id T) :=
  let pos := s.positions positionId
  if sender ≠ s.owner then .error .notOwner
  else if pos.state = .none then .error .positionNotFound
  else if pos.state ≠ .locked then .error .positionNotLocked
  else
    let marked := s.set positionId { pos with state }
    match d.creditToken.transfer marked.token d.this target pos.amount with
    | none => .error .token
    | some (false, _) => .error (.require failure)
    | some (true, token) => .ok ({ marked with token }.emit announce)

def release (positionId : Id) : Except Revert (Vault Address Id T) :=
  let pos := s.positions positionId
  settle d s sender positionId .released pos.pledger "CollateralVault: release transfer failed"
    (.released positionId pos.pledger pos.amount)

def forfeit (positionId : Id) : Except Revert (Vault Address Id T) :=
  let pos := s.positions positionId
  settle d s sender positionId .forfeited pos.beneficiary "CollateralVault: forfeit transfer failed"
    (.forfeited positionId pos.pledger pos.beneficiary pos.amount)

inductive Call (Address Id : Type) where
  | lock (positionId : Id) (amount : Nat) (beneficiary : Address)
  | release (positionId : Id)
  | forfeit (positionId : Id)
  | transferOwnership (newOwner : Address)

def execute : Call Address Id → Except Revert (Vault Address Id T)
  | .lock positionId amount beneficiary => lock d s sender positionId amount beneficiary
  | .release positionId => release d s sender positionId
  | .forfeit positionId => forfeit d s sender positionId
  | .transferOwnership newOwner => transferOwnership d s sender newOwner

/-- A transaction, or whatever others do with the token in between. -/
inductive Step (Address Id T : Type) where
  | call (sender : Address) (c : Call Address Id)
  | elsewhere (token : T)

def Vault.after : Step Address Id T → Vault Address Id T
  | .call sender c => (execute d s sender c).toOption.getD s
  | .elsewhere token => { s with token }

def run (steps : List (Step Address Id T)) : Vault Address Id T := steps.foldl (Vault.after d) s

/-- The vault calls itself never, and nobody else can spend what it holds. -/
def Step.Legal : Step Address Id T → Prop
  | .call sender _ => sender ≠ d.this
  | .elsewhere token => d.creditToken.balanceOf s.token d.this ≤ d.creditToken.balanceOf token d.this

instance : ∀ step : Step Address Id T, Decidable (step.Legal d s)
  | .call _ _ => inferInstanceAs (Decidable (_ ≠ _))
  | .elsewhere _ => inferInstanceAs (Decidable (_ ≤ _))

def LegalRun (s : Vault Address Id T) : List (Step Address Id T) → Prop
  | [] => True
  | step :: rest => step.Legal d s ∧ LegalRun (s.after d step) rest

end Contract

section Custody
variable {Address Id T : Type} [DecidableEq Address] [DecidableEq Id]
  {d : Deployment Address T} {s s' : Vault Address Id T} {sender : Address}

def Event.about (positionId : Id) : Event Address Id → Bool
  | .locked id _ _ _ => id = positionId
  | .released id _ _ => id = positionId
  | .forfeited id _ _ _ => id = positionId
  | .ownerChanged _ _ => false

/-- The events of one position, in order. -/
def Vault.history (s : Vault Address Id T) (positionId : Id) : List (Event Address Id) :=
  s.events.filter (·.about positionId)

/-- Everything that ever happens to a position: it is locked, and settled once. -/
def Position.life (positionId : Id) (p : Position Address) : List (Event Address Id) :=
  let locked := Event.locked positionId p.pledger p.beneficiary p.amount
  match p.state with
  | .none => []
  | .locked => [locked]
  | .released => [locked, .released positionId p.pledger p.amount]
  | .forfeited => [locked, .forfeited positionId p.pledger p.beneficiary p.amount]

def Vault.balance (d : Deployment Address T) (s : Vault Address Id T) : Address → Nat :=
  d.creditToken.balanceOf s.token

/-- Whichever locked positions are taken together, the vault holds their tokens. -/
def Solvent (d : Deployment Address T) (s : Vault Address Id T) : Prop :=
  ∀ ids : Finset Id, (∀ id ∈ ids, (s.positions id).state = .locked) →
    ∑ id ∈ ids, (s.positions id).amount ≤ s.balance d d.this

/-- What a successful call moves: into the vault on a lock, out of it on a settlement. -/
def Moves (d : Deployment Address T) (s : Vault Address Id T) (sender : Address)
    (s' : Vault Address Id T) : Call Address Id → Prop
  | .lock id amount beneficiary =>
    s'.balance d = moved (s.balance d) sender d.this amount ∧
      s'.positions id = ⟨sender, beneficiary, amount, .locked⟩
  | .release id => (s.positions id).state = .locked ∧
    s'.balance d = moved (s.balance d) d.this (s.positions id).pledger (s.positions id).amount
  | .forfeit id => (s.positions id).state = .locked ∧
    s'.balance d = moved (s.balance d) d.this (s.positions id).beneficiary (s.positions id).amount
  | .transferOwnership _ => s'.balance d = s.balance d

structure Kept (d : Deployment Address T) (s : Vault Address Id T) : Prop where
  solvent : Solvent d s
  history : ∀ id, s.history id = (s.positions id).life id

/-- A position once written keeps its parties and its amount. -/
structure SameTerms (p p' : Position Address) : Prop where
  pledger : p'.pledger = p.pledger
  beneficiary : p'.beneficiary = p.beneficiary
  amount : p'.amount = p.amount
  written : p'.state ≠ .none

omit [DecidableEq Address] in
theorem SameTerms.refl {p : Position Address} (written : p.state ≠ .none) : SameTerms p p :=
  ⟨rfl, rfl, rfl, written⟩

omit [DecidableEq Address] in
theorem SameTerms.trans {p q r : Position Address} (first : SameTerms p q) (second : SameTerms q r) :
    SameTerms p r :=
  ⟨second.pledger.trans first.pledger, second.beneficiary.trans first.beneficiary,
    second.amount.trans first.amount, second.written⟩

/-- A successful lock: the position was unwritten, and the tokens came in. -/
theorem lock_ok {positionId : Id} {amount : Nat} {beneficiary : Address}
    (ok : lock d s sender positionId amount beneficiary = .ok s') :
    (s.positions positionId).state = .none ∧
      ∃ token, d.creditToken.transferFrom s.token d.this sender d.this amount = some (true, token) ∧
        s' = ({ s with token }.set positionId ⟨sender, beneficiary, amount, .locked⟩).emit
          (.locked positionId sender beneficiary amount) := by
  unfold lock at ok
  split at ok
  · cases ok
  · split at ok
    · cases ok
    · split at ok
      · cases ok
      · rename_i unwritten
        split at ok
        · cases ok
        · cases ok
        · rename_i token moved
          exact ⟨not_not.mp unwritten, token, moved, (Except.ok.inj ok).symm⟩

/-- A successful settlement: the position was locked, and its amount went to the target. -/
theorem settle_ok {positionId : Id} {state : PositionState} {target : Address} {failure : String}
    {announce : Event Address Id}
    (ok : settle d s sender positionId state target failure announce = .ok s') :
    sender = s.owner ∧ (s.positions positionId).state = .locked ∧
      ∃ token, d.creditToken.transfer s.token d.this target (s.positions positionId).amount =
          some (true, token) ∧
        s' = ({ s with token }.set positionId { s.positions positionId with state }).emit announce := by
  unfold settle at ok
  dsimp only at ok
  split at ok
  · cases ok
  · rename_i owner
    split at ok
    · cases ok
    · split at ok
      · cases ok
      · rename_i locked
        split at ok
        · cases ok
        · cases ok
        · rename_i token paid
          exact ⟨not_not.mp owner, not_not.mp locked, token, paid, (Except.ok.inj ok).symm⟩

omit [DecidableEq Address] in
theorem history_emit (e : Event Address Id) (id : Id) :
    (s.emit e).history id = s.history id ++ if e.about id then [e] else [] := by
  unfold Vault.history Vault.emit
  rw [List.filter_append]
  split
  · rename_i here
    rw [List.filter_cons_of_pos here, List.filter_nil]
  · rename_i elsewhere
    rw [List.filter_cons_of_neg elsewhere, List.filter_nil]

/-- One more locked position is covered by what came in for it. -/
theorem lock_keeps (exact : d.creditToken.Exact) (kept : Kept d s) (other : sender ≠ d.this)
    {positionId : Id} {amount : Nat} {beneficiary : Address}
    (ok : lock d s sender positionId amount beneficiary = .ok s') : Kept d s' := by
  obtain ⟨unwritten, token, transferred, rfl⟩ := lock_ok ok
  obtain ⟨-, balances⟩ := exact.transferFrom transferred
  constructor
  · intro ids locked
    have received : d.creditToken.balanceOf token d.this = s.balance d d.this + amount := by
      rw [balances]
      exact moved_self _ other
    show ∑ id ∈ ids, (Function.update s.positions positionId _ id).amount ≤
      d.creditToken.balanceOf token d.this
    rw [received]
    have rest := kept.solvent (ids.erase positionId) (by
      intro id mem
      have still := locked id (Finset.mem_of_mem_erase mem)
      rwa [emit_positions, set_positions, Function.update_of_ne (Finset.ne_of_mem_erase mem)] at still)
    have unchanged : ∑ id ∈ ids.erase positionId,
        (Function.update s.positions positionId ⟨sender, beneficiary, amount, .locked⟩ id).amount =
          ∑ id ∈ ids.erase positionId, (s.positions id).amount := by
      apply Finset.sum_congr rfl
      intro id mem
      rw [Function.update_of_ne (Finset.ne_of_mem_erase mem)]
    by_cases mem : positionId ∈ ids
    · rw [← Finset.sum_erase_add ids _ mem, unchanged, Function.update_self]
      exact Nat.add_le_add_right rest amount
    · rw [Finset.erase_eq_of_notMem mem] at unchanged rest
      rw [unchanged]
      exact rest.trans (Nat.le_add_right _ amount)
  · intro id
    rw [history_emit]
    show s.history id ++ _ = (Function.update s.positions positionId _ id).life id
    rw [kept.history id]
    by_cases same : positionId = id
    · subst same
      rw [Function.update_self]
      simp [Position.life, unwritten, Event.about]
    · rw [Function.update_of_ne (Ne.symm same)]
      simp [Event.about, same]

/-- Settling takes the position out of the sum together with its tokens. -/
theorem settle_keeps (exact : d.creditToken.Exact) (kept : Kept d s) {positionId : Id}
    {state : PositionState} {target : Address} {failure : String} {announce : Event Address Id}
    (ok : settle d s sender positionId state target failure announce = .ok s')
    (settled : state ≠ .locked) (here : ∀ id, announce.about id = decide (positionId = id))
    (life : (s.positions positionId).life positionId ++ [announce] =
      ({ s.positions positionId with state } : Position Address).life positionId) : Kept d s' := by
  obtain ⟨-, locked, token, transferred, rfl⟩ := settle_ok ok
  obtain ⟨covered, balances⟩ := exact.transfer transferred
  constructor
  · intro ids stillLocked
    have absent : positionId ∉ ids := by
      intro mem
      have still := stillLocked positionId mem
      rw [emit_positions, set_positions, Function.update_self] at still
      exact settled still
    have before := kept.solvent (insert positionId ids) (by
      intro id mem
      rcases Finset.mem_insert.mp mem with rfl | mem
      · exact locked
      · have still := stillLocked id mem
        rwa [emit_positions, set_positions,
          Function.update_of_ne (ne_of_mem_of_not_mem mem absent)] at still)
    rw [Finset.sum_insert absent] at before
    have paid : s.balance d d.this ≤
        d.creditToken.balanceOf token d.this + (s.positions positionId).amount := by
      rw [balances]
      exact le_moved _ covered
    have unchanged : ∑ id ∈ ids, (Function.update s.positions positionId
        { s.positions positionId with state } id).amount = ∑ id ∈ ids, (s.positions id).amount := by
      apply Finset.sum_congr rfl
      intro id mem
      rw [Function.update_of_ne (ne_of_mem_of_not_mem mem absent)]
    show ∑ id ∈ ids, (Function.update s.positions positionId _ id).amount ≤
      d.creditToken.balanceOf token d.this
    rw [unchanged]
    omega
  · intro id
    rw [history_emit, here]
    show s.history id ++ _ = (Function.update s.positions positionId _ id).life id
    rw [kept.history id]
    by_cases same : positionId = id
    · subst same
      rw [Function.update_self, ← life]
      simp
    · rw [Function.update_of_ne (Ne.symm same)]
      simp [same]

theorem execute_keeps (exact : d.creditToken.Exact) (kept : Kept d s) (other : sender ≠ d.this)
    {c : Call Address Id} (ok : execute d s sender c = .ok s') : Kept d s' := by
  cases c with
  | lock positionId amount beneficiary => exact lock_keeps exact kept other ok
  | release positionId =>
    have locked := (settle_ok ok).2.1
    apply settle_keeps exact kept ok nofun (fun id => rfl)
    simp [Position.life, locked]
  | forfeit positionId =>
    have locked := (settle_ok ok).2.1
    apply settle_keeps exact kept ok nofun (fun id => rfl)
    simp [Position.life, locked]
  | transferOwnership newOwner =>
    have ok : transferOwnership d s sender newOwner = .ok s' := ok
    unfold transferOwnership at ok
    split at ok
    · cases ok
    · split at ok
      · cases ok
      · obtain rfl := Except.ok.inj ok
        refine ⟨kept.solvent, fun id => ?_⟩
        exact (history_emit _ id).trans ((List.append_nil _).trans (kept.history id))

/-- Every successful call moves exactly what its position says. -/
theorem execute_moves (exact : d.creditToken.Exact) {c : Call Address Id}
    (ok : execute d s sender c = .ok s') : Moves d s sender s' c := by
  cases c with
  | lock positionId amount beneficiary =>
    obtain ⟨-, token, transferred, rfl⟩ := lock_ok ok
    exact ⟨(exact.transferFrom transferred).2, Function.update_self ..⟩
  | release positionId =>
    obtain ⟨-, locked, token, transferred, rfl⟩ := settle_ok ok
    exact ⟨locked, (exact.transfer transferred).2⟩
  | forfeit positionId =>
    obtain ⟨-, locked, token, transferred, rfl⟩ := settle_ok ok
    exact ⟨locked, (exact.transfer transferred).2⟩
  | transferOwnership newOwner =>
    have ok : transferOwnership d s sender newOwner = .ok s' := ok
    unfold transferOwnership at ok
    split at ok
    · cases ok
    · split at ok
      · cases ok
      · rw [← Except.ok.inj ok]
        rfl

/-- No call rewrites the parties or the amount of a position that was written. -/
theorem execute_sameTerms {c : Call Address Id} (ok : execute d s sender c = .ok s') {id : Id}
    (written : (s.positions id).state ≠ .none) : SameTerms (s.positions id) (s'.positions id) := by
  have settled {positionId : Id} {state : PositionState} {target : Address} {failure : String}
      {announce : Event Address Id}
      (ok : settle d s sender positionId state target failure announce = .ok s')
      (known : state ≠ .none) :
      SameTerms (s.positions id) (s'.positions id) := by
    obtain ⟨-, -, token, -, rfl⟩ := settle_ok ok
    rw [emit_positions, set_positions]
    by_cases same : id = positionId
    · subst same
      rw [Function.update_self]
      exact ⟨rfl, rfl, rfl, known⟩
    · rw [Function.update_of_ne same]
      exact .refl written
  cases c with
  | lock positionId amount beneficiary =>
    obtain ⟨unwritten, token, -, rfl⟩ := lock_ok ok
    rw [emit_positions, set_positions, Function.update_of_ne]
    · exact .refl written
    · rintro rfl
      exact written unwritten
  | release positionId => exact settled ok nofun
  | forfeit positionId => exact settled ok nofun
  | transferOwnership newOwner =>
    have ok : transferOwnership d s sender newOwner = .ok s' := ok
    unfold transferOwnership at ok
    split at ok
    · cases ok
    · split at ok
      · cases ok
      · rw [← Except.ok.inj ok]
        exact .refl written

theorem after_keeps (exact : d.creditToken.Exact) (kept : Kept d s) {step : Step Address Id T}
    (legal : step.Legal d s) : Kept d (s.after d step) := by
  cases step with
  | call sender c =>
    cases outcome : execute d s sender c with
    | error e =>
      rw [Vault.after, outcome]
      exact kept
    | ok s' =>
      rw [Vault.after, outcome]
      exact execute_keeps exact kept legal outcome
  | elsewhere token =>
    refine ⟨fun ids locked => (kept.solvent ids locked).trans legal, kept.history⟩

theorem after_sameTerms {step : Step Address Id T} {id : Id}
    (written : (s.positions id).state ≠ .none) :
    SameTerms (s.positions id) ((s.after d step).positions id) := by
  cases step with
  | call sender c =>
    cases outcome : execute d s sender c with
    | error e =>
      rw [Vault.after, outcome]
      exact .refl written
    | ok s' =>
      rw [Vault.after, outcome]
      exact execute_sameTerms outcome written
  | elsewhere token => exact .refl written

theorem run_keeps (exact : d.creditToken.Exact) {steps : List (Step Address Id T)} (kept : Kept d s)
    (legal : LegalRun d s steps) : Kept d (run d s steps) := by
  induction steps generalizing s with
  | nil => exact kept
  | cons step rest ih => exact ih (after_keeps exact kept legal.1) legal.2

theorem run_sameTerms {steps : List (Step Address Id T)} {id : Id}
    (written : (s.positions id).state ≠ .none) :
    SameTerms (s.positions id) ((run d s steps).positions id) := by
  induction steps generalizing s with
  | nil => exact .refl written
  | cons step rest ih =>
    have stepped : SameTerms (s.positions id) ((s.after d step).positions id) :=
      after_sameTerms written
    exact stepped.trans (ih stepped.written)

theorem new_keeps {creditTokenAddress initialOwner : Address} {token : T}
    (created : new d creditTokenAddress initialOwner token = .ok s) : Kept d s := by
  unfold new at created
  split at created
  · cases created
  · obtain rfl := Except.ok.inj created
    constructor
    · intro ids locked
      rw [Finset.sum_eq_zero fun id mem => nomatch locked id mem]
      exact Nat.zero_le _
    · exact fun id => rfl

/-- In every state a deployed vault reaches: it covers its locked positions; each position has
lived through nothing but one lock and at most one settlement; any call that succeeds moves
exactly the amount of its position, to the party bound when it was locked; and whatever
follows, a position keeps its parties and its amount. -/
theorem vault_custody {creditTokenAddress initialOwner : Address} {token : T}
    {opened : Vault Address Id T} (exact : d.creditToken.Exact)
    (created : new d creditTokenAddress initialOwner token = .ok opened)
    {steps : List (Step Address Id T)} (legal : LegalRun d opened steps) :
    let s := run d opened steps
    Solvent d s ∧ (∀ id, s.history id = (s.positions id).life id) ∧
      (∀ sender c s', execute d s sender c = .ok s' → Moves d s sender s' c) ∧
      ∀ later id, (s.positions id).state ≠ .none →
        SameTerms (s.positions id) ((run d s later).positions id) := by
  have kept := run_keeps exact (new_keeps created) legal
  refine ⟨kept.solvent, kept.history, ?_, ?_⟩
  · intro sender c s' ok
    exact execute_moves exact ok
  · intro later id written
    exact run_sameTerms written

end Custody

section MockCredit
variable {Address : Type} [DecidableEq Address]

/-- The token the vault is rehearsed with. -/
structure MockCredit (Address : Type) where
  totalSupply : Nat
  balanceOf : Address → Nat
  allowance : Address → Address → Nat

namespace MockCredit

def mint (m : MockCredit Address) (target : Address) (amount : Nat) : Option (MockCredit Address) :=
  if m.totalSupply + amount < 2 ^ 256 ∧ m.balanceOf target + amount < 2 ^ 256 then
    some { m with
      totalSupply := m.totalSupply + amount
      balanceOf := Function.update m.balanceOf target (m.balanceOf target + amount) }
  else none

def approve (m : MockCredit Address) (sender spender : Address) (amount : Nat) : MockCredit Address :=
  { m with
    allowance := Function.update m.allowance sender (Function.update (m.allowance sender) spender amount) }

/-- `_transfer`; the addition is checked. -/
def move (zero : Address) (m : MockCredit Address) (source target : Address) (amount : Nat) :
    Option (MockCredit Address) :=
  let debited := Function.update m.balanceOf source (m.balanceOf source - amount)
  if target = zero then none
  else if m.balanceOf source < amount then none
  else if 2 ^ 256 ≤ debited target + amount then none
  else some { m with balanceOf := Function.update debited target (debited target + amount) }

def transfer (zero : Address) (m : MockCredit Address) (sender target : Address) (amount : Nat) :
    Option (Bool × MockCredit Address) :=
  (m.move zero sender target amount).map (true, ·)

/-- An allowance of the largest amount is not used up. -/
def transferFrom (zero : Address) (m : MockCredit Address) (spender source target : Address)
    (amount : Nat) : Option (Bool × MockCredit Address) :=
  let allowed := m.allowance source spender
  if allowed < amount then none
  else
    let m := if allowed = 2 ^ 256 - 1 then m else m.approve source spender (allowed - amount)
    (m.move zero source target amount).map (true, ·)

def token (zero : Address) : Token Address (MockCredit Address) where
  balanceOf := balanceOf
  transfer := transfer zero
  transferFrom := transferFrom zero

theorem move_ok {zero source target : Address} {amount : Nat} {m m' : MockCredit Address}
    (ok : m.move zero source target amount = some m') :
    amount ≤ m.balanceOf source ∧ m'.balanceOf = moved m.balanceOf source target amount := by
  unfold move at ok
  dsimp only at ok
  split at ok
  · cases ok
  · split at ok
    · cases ok
    · rename_i covered
      split at ok
      · cases ok
      · rw [← Option.some.inj ok]
        exact ⟨Nat.le_of_not_lt covered, rfl⟩

theorem token_exact (zero : Address) : (token zero).Exact where
  transfer ok := by
    obtain ⟨m', moved, same⟩ := Option.map_eq_some_iff.mp ok
    obtain ⟨-, rfl⟩ := Prod.mk.inj same
    exact move_ok moved
  transferFrom {t t' spender source target amount} ok := by
    have ok : transferFrom zero t spender source target amount = some (true, t') := ok
    unfold transferFrom at ok
    dsimp only at ok
    split at ok
    · cases ok
    · obtain ⟨m', moved, same⟩ := Option.map_eq_some_iff.mp ok
      obtain ⟨-, rfl⟩ := Prod.mk.inj same
      have effect := move_ok moved
      split at effect
      · exact effect
      · exact effect

end MockCredit

/-- The samples have five addresses. -/
scoped instance fiveAddresses : NeZero 5 := ⟨by decide⟩

/-- A pledger with 1000, of which the vault may take everything. -/
def sampleToken : MockCredit (Fin 5) :=
  ((⟨0, fun _ => 0, fun _ _ => 0⟩ : MockCredit (Fin 5)).mint 2 1000).getD ⟨0, fun _ => 0, fun _ _ => 0⟩
    |>.approve 2 4 1000

def sampleDeployment : Deployment (Fin 5) (MockCredit (Fin 5)) := ⟨0, 4, MockCredit.token 0⟩

def sampleVault : Vault (Fin 5) Nat (MockCredit (Fin 5)) :=
  ⟨sampleToken, 1, fun _ => ⟨0, 0, 0, .none⟩, []⟩

/-- Two positions, one of them released. -/
def sampleSteps : List (Step (Fin 5) Nat (MockCredit (Fin 5))) :=
  [.call 2 (.lock 7 300 3), .call 2 (.lock 8 200 3), .call 1 (.release 7), .call 1 (.release 7)]

theorem sample_custody : let s := run sampleDeployment sampleVault sampleSteps
    Solvent sampleDeployment s ∧ s.balance sampleDeployment 4 = 200 ∧
      s.history 7 = [.locked 7 2 3 300, .released 7 2 300] := by
  have created : new sampleDeployment 3 1 sampleToken = .ok sampleVault := rfl
  have legal : LegalRun sampleDeployment sampleVault sampleSteps :=
    ⟨by decide, by decide, by decide, by decide, trivial⟩
  obtain ⟨solvent, history, -⟩ := vault_custody (MockCredit.token_exact 0) created legal
  exact ⟨solvent, by decide, (history 7).trans (by decide)⟩

end MockCredit

end CollateralVault
