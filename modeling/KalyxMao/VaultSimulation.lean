import KalyxMao.CollateralCoordinator
import KalyxMao.CollateralVault

/-!
# The simulated vault beside the contract

The adapter sends the same calls either to a dictionary of positions or, through
the chain client, to the deployed contract. Both answer a call with acceptance,
refusal or a report. The two lists of answers are the same exactly when no lock
that the dictionary takes is one the contract cannot take, and reports are asked
for positions that were locked under checksummed addresses.
-/

namespace VaultSimulation
open KeyedLists CollateralCoordinator

inductive VaultCall where
  | lock (positionId pledger beneficiary : String) (amount : Int)
  | release (positionId : String)
  | forfeit (positionId : String)
  | getPosition (positionId : String)

/-- What `get_position` returns. -/
structure Report where
  pledger : Option String
  beneficiary : Option String
  amount : Int
  state : String
  deriving DecidableEq

inductive Answer where
  | accepted
  | refused
  | report (r : Report)
  deriving DecidableEq

section Simulated
variable (r : WorkOrders.SigningRules) (v : Vault)

def reportOf : Option VaultPosition → Report
  | none => ⟨none, none, 0, "NONE"⟩
  | some p => ⟨some p.pledger, some p.beneficiary, p.amount, p.state.value⟩

def answered : Except PythonText.PyError (String × Vault) → Answer × Vault
  | .ok (_, v') => (.accepted, v')
  | .error _ => (.refused, v)

/-- One call on `_SimulatedVaultState`. -/
def simulated : VaultCall → Answer × Vault
  | .lock positionId pledger beneficiary amount =>
    answered v (vaultLock r v positionId pledger beneficiary amount)
  | .release positionId => answered v (vaultRelease r v positionId)
  | .forfeit positionId => answered v (vaultForfeit r v positionId)
  | .getPosition positionId => (.report (reportOf (lookupBy (·.positionId) v positionId)), v)

def simulate (v : Vault) : List VaultCall → List Answer
  | [] => []
  | call :: rest => (simulated r v call).1 :: simulate (simulated r v call).2 rest

end Simulated

section Deployed
variable {Address Id T : Type} [DecidableEq Address] [DecidableEq Id]

/-- The deployed vault, and what the client makes of the texts of a call. -/
structure Chain (Address Id T : Type) where
  deployment : CollateralVault.Deployment Address T
  toChecksumAddress : String → Option Address
  spell : Address → String
  positionIdToBytes32 : String → Id

/-- Checksummed texts are read back, an empty text is none, and ids do not collide. -/
structure Chain.Sound (c : Chain Address Id T) : Prop where
  spelled (a : Address) : c.toChecksumAddress (c.spell a) = some a
  blank : c.toChecksumAddress "" = none
  injective : Function.Injective c.positionIdToBytes32

variable (c : Chain Address Id T) (s : CollateralVault.Vault Address Id T)

/-- `_POSITION_STATE_NAMES`. -/
def stateName : CollateralVault.PositionState → String
  | .none => "NONE"
  | .locked => "LOCKED"
  | .released => "RELEASED"
  | .forfeited => "FORFEITED"

def mined : Except CollateralVault.Revert (CollateralVault.Vault Address Id T) →
    Answer × CollateralVault.Vault Address Id T
  | .ok s' => (.accepted, s')
  | .error _ => (.refused, s)

/-- One call through `CollateralVaultClient`: the pledger signs a lock, the owner a
settlement. An amount that is no `uint256` cannot be sent. -/
def onChain : VaultCall → Answer × CollateralVault.Vault Address Id T
  | .lock positionId pledger beneficiary amount =>
    match c.toChecksumAddress pledger, c.toChecksumAddress beneficiary with
    | some sender, some target =>
      if 0 ≤ amount ∧ amount < 2 ^ 256 then
        mined s (CollateralVault.lock c.deployment s sender (c.positionIdToBytes32 positionId)
          amount.toNat target)
      else (.refused, s)
    | _, _ => (.refused, s)
  | .release positionId =>
    mined s (CollateralVault.release c.deployment s s.owner (c.positionIdToBytes32 positionId))
  | .forfeit positionId =>
    mined s (CollateralVault.forfeit c.deployment s s.owner (c.positionIdToBytes32 positionId))
  | .getPosition positionId =>
    let pos := s.positions (c.positionIdToBytes32 positionId)
    (.report ⟨some (c.spell pos.pledger), some (c.spell pos.beneficiary), pos.amount,
      stateName pos.state⟩, s)

/-- A call, and the state the token has come to when it is made. -/
structure Turn (T : Type) where
  token : T
  call : VaultCall

def Turn.ready (t : Turn T) : CollateralVault.Vault Address Id T := { s with token := t.token }

def deployed (s : CollateralVault.Vault Address Id T) : List (Turn T) → List Answer
  | [] => []
  | t :: rest => (onChain c (t.ready s) t.call).1 :: deployed (onChain c (t.ready s) t.call).2 rest

/-- The token does its part: a pledger of a position that is not written yet holds and has
approved the amount, and what the vault holds it can pay out. -/
def Honoured (s : CollateralVault.Vault Address Id T) : VaultCall → Prop
  | .lock positionId pledger _ amount => ∀ sender, c.toChecksumAddress pledger = some sender →
    0 < amount → amount < 2 ^ 256 →
    (s.positions (c.positionIdToBytes32 positionId)).state = .none →
    sender ≠ c.deployment.zero ∧ sender ≠ c.deployment.this ∧
      ∃ token, c.deployment.creditToken.transferFrom s.token c.deployment.this sender
        c.deployment.this amount.toNat = some (true, token)
  | .release positionId | .forfeit positionId =>
    let amount := (s.positions (c.positionIdToBytes32 positionId)).amount
    ∀ target, target ≠ c.deployment.zero →
      amount ≤ c.deployment.creditToken.balanceOf s.token c.deployment.this →
      ∃ token, c.deployment.creditToken.transfer s.token c.deployment.this target amount =
        some (true, token)
  | .getPosition _ => True

/-- Between calls nobody spends what the vault holds, and the token honours every call. -/
def HonouredRun (s : CollateralVault.Vault Address Id T) : List (Turn T) → Prop
  | [] => True
  | t :: rest =>
    c.deployment.creditToken.balanceOf s.token c.deployment.this ≤
        c.deployment.creditToken.balanceOf t.token c.deployment.this ∧
      Honoured c (t.ready s) t.call ∧ HonouredRun (onChain c (t.ready s) t.call).2 rest

end Deployed

section Faithfulness
variable {Address Id T : Type} (c : Chain Address Id T) (v : Vault)

/-- The text is the checksummed form of an address. -/
def Chain.Checksummed (text : String) : Prop :=
  ∃ a, c.toChecksumAddress text = some a ∧ c.spell a = text

/-- A lock that the simulation takes could be sent and names a beneficiary; a report is asked
of a position that was locked under checksummed addresses. -/
def Faithful : VaultCall → Prop
  | .lock positionId pledger beneficiary amount =>
    lookupBy (·.positionId) v positionId = none → 0 < amount → beneficiary ≠ "" →
      amount < 2 ^ 256 ∧ (∃ a, c.toChecksumAddress pledger = some a) ∧
        ∃ b, c.toChecksumAddress beneficiary = some b ∧ b ≠ c.deployment.zero
  | .release _ | .forfeit _ => True
  | .getPosition positionId => ∃ p, lookupBy (·.positionId) v positionId = some p ∧
      c.Checksummed p.pledger ∧ c.Checksummed p.beneficiary

def FaithfulRun (r : WorkOrders.SigningRules) (v : Vault) : List VaultCall → Prop
  | [] => True
  | call :: rest => Faithful c v call ∧ FaithfulRun r (simulated r v call).2 rest

end Faithfulness

section Simulation
variable {Address Id T : Type} [DecidableEq Address] [DecidableEq Id] {c : Chain Address Id T}
  {r : WorkOrders.SigningRules} {v : Vault} {s : CollateralVault.Vault Address Id T}
  {positionId : String}

/-- A written position on both sides. -/
structure Matches (c : Chain Address Id T) (p : VaultPosition)
    (q : CollateralVault.Position Address) : Prop where
  pledger : c.toChecksumAddress p.pledger = some q.pledger
  pledger_ne : q.pledger ≠ c.deployment.zero
  beneficiary : c.toChecksumAddress p.beneficiary = some q.beneficiary
  beneficiary_ne : q.beneficiary ≠ c.deployment.zero
  amount : p.amount = q.amount
  state : stateName q.state = p.state.value

structure Simulates (c : Chain Address Id T) (v : Vault) (s : CollateralVault.Vault Address Id T) :
    Prop where
  keys : (v.map (·.positionId)).Nodup
  kept : CollateralVault.Kept c.deployment s
  unwritten (positionId : String) : lookupBy (·.positionId) v positionId = none →
    (s.positions (c.positionIdToBytes32 positionId)).state = .none
  written (positionId : String) (p : VaultPosition) :
    lookupBy (·.positionId) v positionId = some p →
    Matches c p (s.positions (c.positionIdToBytes32 positionId))

theorem stateName_eq (q : CollateralVault.PositionState) (p : VaultState) :
    stateName q = p.value → (q = .locked ↔ p = .locked) ∧ q ≠ .none := by
  cases q <;> cases p <;> decide

omit [DecidableEq Address] in
/-- What others do to the token between two calls leaves the two sides together. -/
theorem Simulates.ready {t : Turn T} (sim : Simulates c v s)
    (untouched : c.deployment.creditToken.balanceOf s.token c.deployment.this ≤
      c.deployment.creditToken.balanceOf t.token c.deployment.this) :
    Simulates c v (t.ready s) where
  keys := sim.keys
  kept := ⟨fun ids locked => (sim.kept.solvent ids locked).trans untouched, sim.kept.history⟩
  unwritten := sim.unwritten
  written := sim.written

section Locking
variable {pledger beneficiary : String} {amount : Int}

/-- The simulation refuses a lock for one of three reasons. -/
theorem vaultLock_refused (refusal : (∃ p, lookupBy (·.positionId) v positionId = some p) ∨
    amount ≤ 0 ∨ beneficiary = "") :
    simulated r v (.lock positionId pledger beneficiary amount) = (.refused, v) := by
  rw [simulated, vaultLock]
  split
  · rfl
  · rename_i new
    split
    · rfl
    · rename_i positive
      split
      · rfl
      · rename_i named
        rcases refusal with ⟨p, stored⟩ | nothing | blank
        · rw [stored] at new
          exact absurd rfl new
        · exact absurd nothing positive
        · exact absurd blank named

theorem vaultLock_accepted (new : lookupBy (·.positionId) v positionId = none) (positive : 0 < amount)
    (named : beneficiary ≠ "") :
    simulated r v (.lock positionId pledger beneficiary amount) =
      (.accepted, v ++ [⟨positionId, pledger, beneficiary, amount, .locked⟩]) := by
  rw [simulated, vaultLock]
  rw [new, if_neg (by simp), if_neg (not_le.mpr positive), if_neg named]
  rfl

/-- A lock on chain that is sent and names two addresses. -/
theorem onChain_lock {sender target : Address} (read : c.toChecksumAddress pledger = some sender)
    (known : c.toChecksumAddress beneficiary = some target) (fits : 0 ≤ amount ∧ amount < 2 ^ 256) :
    onChain c s (.lock positionId pledger beneficiary amount) =
      mined s (CollateralVault.lock c.deployment s sender (c.positionIdToBytes32 positionId)
        amount.toNat target) := by
  simp only [onChain, read, known]
  rw [if_pos fits]

/-- The contract refuses a lock that was not sent, moves nothing, names nobody, or is not new. -/
theorem onChain_lock_refused (refusal : ¬(∃ a, c.toChecksumAddress pledger = some a) ∨
    (∀ b, c.toChecksumAddress beneficiary = some b → b = c.deployment.zero) ∨
    amount ≤ 0 ∨ 2 ^ 256 ≤ amount ∨
    (s.positions (c.positionIdToBytes32 positionId)).state ≠ .none) :
    onChain c s (.lock positionId pledger beneficiary amount) = (.refused, s) := by
  cases read : c.toChecksumAddress pledger with
  | none => simp only [onChain, read]
  | some sender =>
    cases known : c.toChecksumAddress beneficiary with
    | none => simp only [onChain, read, known]
    | some target =>
      by_cases fits : 0 ≤ amount ∧ amount < 2 ^ 256
      · rw [onChain_lock read known fits, CollateralVault.lock]
        by_cases nothing : amount.toNat = 0
        · rw [if_pos nothing]
          rfl
        · rw [if_neg nothing]
          by_cases nobody : target = c.deployment.zero
          · rw [if_pos nobody]
            rfl
          · rw [if_neg nobody, if_pos]
            · rfl
            · rcases refusal with unread | unnamed | empty | large | present
              · exact absurd ⟨sender, read⟩ unread
              · exact absurd (unnamed target known) nobody
              · omega
              · omega
              · exact present
      · simp only [onChain, read, known]
        rw [if_neg fits]

/-- The lock both sides take. -/
theorem onChain_lock_accepted {sender target : Address} {token : T}
    (read : c.toChecksumAddress pledger = some sender)
    (known : c.toChecksumAddress beneficiary = some target) (somebody : target ≠ c.deployment.zero)
    (positive : 0 < amount) (fits : amount < 2 ^ 256)
    (new : (s.positions (c.positionIdToBytes32 positionId)).state = .none)
    (paid : c.deployment.creditToken.transferFrom s.token c.deployment.this sender c.deployment.this
      amount.toNat = some (true, token)) :
    ∃ s', CollateralVault.lock c.deployment s sender (c.positionIdToBytes32 positionId)
        amount.toNat target = .ok s' ∧
      onChain c s (.lock positionId pledger beneficiary amount) = (.accepted, s') ∧
      s'.positions = Function.update s.positions (c.positionIdToBytes32 positionId)
        ⟨sender, target, amount.toNat, .locked⟩ := by
  have done : ∃ s', CollateralVault.lock c.deployment s sender (c.positionIdToBytes32 positionId)
      amount.toNat target = .ok s' ∧
      s'.positions = Function.update s.positions (c.positionIdToBytes32 positionId)
        ⟨sender, target, amount.toNat, .locked⟩ := by
    unfold CollateralVault.lock
    rw [if_neg (by omega), if_neg somebody, if_neg (not_not.mpr new), paid]
    exact ⟨_, rfl, rfl⟩
  obtain ⟨s', done, positions⟩ := done
  refine ⟨s', done, ?_, positions⟩
  rw [onChain_lock read known ⟨positive.le, fits⟩, done]
  rfl

/-- One more position on both sides. -/
theorem Simulates.locked (sim : Simulates c v s) (sound : c.Sound)
    (exact : c.deployment.creditToken.Exact) {sender target : Address}
    {s' : CollateralVault.Vault Address Id T}
    (new : lookupBy (·.positionId) v positionId = none)
    (read : c.toChecksumAddress pledger = some sender)
    (known : c.toChecksumAddress beneficiary = some target) (somebody : target ≠ c.deployment.zero)
    (positive : 0 < amount) (account : sender ≠ c.deployment.zero) (other : sender ≠ c.deployment.this)
    (done : CollateralVault.lock c.deployment s sender (c.positionIdToBytes32 positionId)
      amount.toNat target = .ok s')
    (positions : s'.positions = Function.update s.positions (c.positionIdToBytes32 positionId)
      ⟨sender, target, amount.toNat, .locked⟩) :
    Simulates c (v ++ [⟨positionId, pledger, beneficiary, amount, .locked⟩]) s' := by
  have absent := lookupBy_none.mp new
  have here : lookupBy (·.positionId) (v ++ [⟨positionId, pledger, beneficiary, amount, .locked⟩])
      positionId = some ⟨positionId, pledger, beneficiary, amount, .locked⟩ :=
    lookupBy_concat_self absent
  constructor
  · rw [List.map_append, List.nodup_append]
    refine ⟨sim.keys, List.nodup_singleton _, ?_⟩
    rintro _ mem _ last rfl
    obtain ⟨p, stored, same⟩ := List.mem_map.mp mem
    exact absent p stored (same.trans (List.mem_singleton.mp last))
  · exact CollateralVault.lock_keeps exact sim.kept other done
  · intro id none
    by_cases same : id = positionId
    · subst same
      rw [here] at none
      cases none
    · rw [lookupBy_concat_ne (Ne.symm same)] at none
      rw [positions, Function.update_of_ne (sound.injective.ne same)]
      exact sim.unwritten id none
  · intro id p stored
    by_cases same : id = positionId
    · subst same
      rw [here] at stored
      obtain rfl := Option.some.inj stored
      rw [positions, Function.update_self]
      exact ⟨read, account, known, somebody, (Int.toNat_of_nonneg positive.le).symm, rfl⟩
    · rw [lookupBy_concat_ne (Ne.symm same)] at stored
      rw [positions, Function.update_of_ne (sound.injective.ne same)]
      exact sim.written id p stored

end Locking

section Settling
variable {op failure : String} {state : VaultState} {state' : CollateralVault.PositionState}
  {target : Address} {announce : CollateralVault.Event Address Id}

theorem vaultSettle_refused (refusal : ∀ p, lookupBy (·.positionId) v positionId = some p →
    p.state ≠ .locked) :
    answered v (vaultSettle r v op state positionId) = (.refused, v) := by
  unfold vaultSettle requireLocked
  cases stored : lookupBy (·.positionId) v positionId with
  | none => rfl
  | some p =>
    dsimp only
    rw [if_pos (refusal p stored)]
    rfl

theorem vaultSettle_accepted {p : VaultPosition}
    (stored : lookupBy (·.positionId) v positionId = some p) (locked : p.state = .locked) :
    answered v (vaultSettle r v op state positionId) =
      (.accepted, replaceBy (·.positionId) v { p with state }) := by
  unfold vaultSettle requireLocked
  rw [stored]
  dsimp only
  rw [if_neg (not_not.mpr locked)]
  rfl

theorem settle_refused {id : Id} (refusal : (s.positions id).state ≠ .locked) :
    mined s (CollateralVault.settle c.deployment s s.owner id state' target failure announce) =
      (.refused, s) := by
  unfold CollateralVault.settle
  rw [if_neg (not_not.mpr rfl)]
  by_cases unwritten : (s.positions id).state = .none
  · simp only [unwritten, if_true]
    rfl
  · simp only [unwritten, refusal, if_false, if_true, ne_eq, not_false_eq_true]
    rfl

/-- The owner settles a locked position that the token can pay. -/
theorem settle_accepted {id : Id} (locked : (s.positions id).state = .locked)
    (kept : CollateralVault.Kept c.deployment s)
    (pays : (s.positions id).amount ≤ c.deployment.creditToken.balanceOf s.token c.deployment.this →
      ∃ token, c.deployment.creditToken.transfer s.token c.deployment.this target
        (s.positions id).amount = some (true, token)) :
    ∃ s', CollateralVault.settle c.deployment s s.owner id state' target failure announce = .ok s' ∧
      s'.positions = Function.update s.positions id { s.positions id with state := state' } := by
  have covered := kept.solvent {id} (by
    intro other mem
    rwa [Finset.mem_singleton.mp mem])
  rw [Finset.sum_singleton] at covered
  obtain ⟨token, paid⟩ := pays covered
  have written : (s.positions id).state ≠ .none := by
    rw [locked]
    nofun
  unfold CollateralVault.settle
  rw [if_neg (not_not.mpr rfl)]
  dsimp only
  rw [if_neg written, if_neg (not_not.mpr locked)]
  have paid' : c.deployment.creditToken.transfer
      (s.set id { s.positions id with state := state' }).token c.deployment.this target
      (s.positions id).amount = some (true, token) := paid
  rw [paid']
  exact ⟨_, rfl, rfl⟩

omit [DecidableEq Address] in
/-- The same position changes its state on both sides. -/
theorem Simulates.settled (sim : Simulates c v s) (sound : c.Sound) {p : VaultPosition}
    {s' : CollateralVault.Vault Address Id T}
    (stored : lookupBy (·.positionId) v positionId = some p)
    (same : stateName state' = state.value) (kept : CollateralVault.Kept c.deployment s')
    (positions : s'.positions = Function.update s.positions (c.positionIdToBytes32 positionId)
      { s.positions (c.positionIdToBytes32 positionId) with state := state' }) :
    Simulates c (replaceBy (·.positionId) v { p with state }) s' := by
  obtain ⟨mem, rfl⟩ := lookupBy_some stored
  have changed : lookupBy (·.positionId) (replaceBy (·.positionId) v { p with state }) p.positionId =
      some { p with state } :=
    lookupBy_replaceBy_self sim.keys mem rfl
  have others (id : String) (other : id ≠ p.positionId) :
      lookupBy (·.positionId) (replaceBy (·.positionId) v { p with state }) id =
        lookupBy (·.positionId) v id :=
    lookupBy_replaceBy_ne (Ne.symm other)
  refine ⟨?_, kept, ?_, ?_⟩
  · rw [map_key_replaceBy]
    exact sim.keys
  · intro id none
    by_cases here : id = p.positionId
    · rw [here, changed] at none
      cases none
    · rw [others id here] at none
      rw [positions, Function.update_of_ne (sound.injective.ne here)]
      exact sim.unwritten id none
  · intro id q found
    by_cases here : id = p.positionId
    · rw [here, changed] at found
      obtain rfl := Option.some.inj found
      rw [here, positions, Function.update_self]
      have before := sim.written p.positionId p stored
      exact ⟨before.pledger, before.pledger_ne, before.beneficiary, before.beneficiary_ne,
        before.amount, same⟩
    · rw [others id here] at found
      rw [positions, Function.update_of_ne (sound.injective.ne here)]
      exact sim.written id q found

/-- A settlement called on both sides: refused on both, or done on both. -/
theorem settling_simulates (sim : Simulates c v s) (sound : c.Sound)
    (exact : c.deployment.creditToken.Exact) {call : VaultCall}
    (simulation : simulated r v call = answered v (vaultSettle r v op state positionId))
    (contract : onChain c s call = mined s (CollateralVault.settle c.deployment s s.owner
      (c.positionIdToBytes32 positionId) state' target failure announce))
    (same : stateName state' = state.value) (settled : state' ≠ .locked)
    (about : ∀ id, announce.about id = decide (c.positionIdToBytes32 positionId = id))
    (ends : let q := s.positions (c.positionIdToBytes32 positionId)
      q.state = .locked →
      q.life (c.positionIdToBytes32 positionId) ++ [announce] =
        ({ q with state := state' } : CollateralVault.Position Address).life
          (c.positionIdToBytes32 positionId))
    (pays : let amount := (s.positions (c.positionIdToBytes32 positionId)).amount
      ∀ p, lookupBy (·.positionId) v positionId = some p →
      amount ≤ c.deployment.creditToken.balanceOf s.token c.deployment.this →
      ∃ token, c.deployment.creditToken.transfer s.token c.deployment.this target amount =
        some (true, token)) :
    (simulated r v call).1 = (onChain c s call).1 ∧
      Simulates c (simulated r v call).2 (onChain c s call).2 := by
  rw [simulation, contract]
  by_cases locked : ∃ p, lookupBy (·.positionId) v positionId = some p ∧ p.state = .locked
  · obtain ⟨p, stored, locked⟩ := locked
    have here := (stateName_eq _ _ (sim.written positionId p stored).state).1.mpr locked
    obtain ⟨s', done, positions⟩ := settle_accepted here sim.kept (pays p stored)
    rw [vaultSettle_accepted stored locked, done]
    refine ⟨rfl, sim.settled sound stored same ?_ positions⟩
    exact CollateralVault.settle_keeps exact sim.kept done settled about (ends here)
  · have open_ (p) (stored : lookupBy (·.positionId) v positionId = some p) : p.state ≠ .locked :=
      fun here => locked ⟨p, stored, here⟩
    rw [vaultSettle_refused open_, settle_refused]
    · exact ⟨rfl, sim⟩
    · intro here
      cases stored : lookupBy (·.positionId) v positionId with
      | none =>
        rw [sim.unwritten positionId stored] at here
        cases here
      | some p =>
        exact open_ p stored ((stateName_eq _ _ (sim.written positionId p stored).state).1.mp here)

end Settling

/-- One call made on both sides. A faithful one gets the same answer and keeps them together;
any other one gets different answers. -/
theorem turn_simulates (sim : Simulates c v s) (sound : c.Sound)
    (exact : c.deployment.creditToken.Exact) {call : VaultCall} (honoured : Honoured c s call) :
    (Faithful c v call → (simulated r v call).1 = (onChain c s call).1 ∧
      Simulates c (simulated r v call).2 (onChain c s call).2) ∧
    ((simulated r v call).1 = (onChain c s call).1 → Faithful c v call) := by
  have refusedTwice {call : VaultCall} (simulation : simulated r v call = (.refused, v))
      (contract : onChain c s call = (.refused, s)) :
      (simulated r v call).1 = (onChain c s call).1 ∧
        Simulates c (simulated r v call).2 (onChain c s call).2 := by
    rw [simulation, contract]
    exact ⟨rfl, sim⟩
  cases call with
  | lock positionId pledger beneficiary amount =>
    cases found : lookupBy (·.positionId) v positionId with
    | some p =>
      refine ⟨fun _ => ?_, fun _ => ?_⟩
      · apply refusedTwice
        · exact vaultLock_refused (.inl ⟨p, found⟩)
        · have written := (stateName_eq _ _ (sim.written positionId p found).state).2
          exact onChain_lock_refused (.inr (.inr (.inr (.inr written))))
      · intro new
        rw [found] at new
        cases new
    | none =>
      by_cases positive : 0 < amount
      · by_cases named : beneficiary = ""
        · refine ⟨fun _ => ?_, fun _ _ _ some_ => absurd named some_⟩
          apply refusedTwice
          · exact vaultLock_refused (.inr (.inr named))
          · refine onChain_lock_refused (.inr (.inl fun b known => ?_))
            rw [named, sound.blank] at known
            cases known
        · have taken := @vaultLock_accepted r v positionId pledger beneficiary amount found positive named
          have new := sim.unwritten positionId found
          constructor
          · intro faithful
            obtain ⟨fits, ⟨sender, read⟩, target, known, somebody⟩ := faithful found positive named
            obtain ⟨account, other, token, paid⟩ := honoured sender read positive fits new
            obtain ⟨s', done, accepted, positions⟩ :=
              onChain_lock_accepted read known somebody positive fits new paid
            rw [taken, accepted]
            exact ⟨rfl, sim.locked sound exact found read known somebody positive account other done
              positions⟩
          · intro same _ _ _
            by_contra unfaithful
            rw [taken, onChain_lock_refused] at same
            · cases same
            · by_cases fits : amount < 2 ^ 256
              · by_cases read : ∃ a, c.toChecksumAddress pledger = some a
                · refine .inr (.inl fun b known => ?_)
                  by_contra somebody
                  exact unfaithful ⟨fits, read, b, known, somebody⟩
                · exact .inl read
              · exact .inr (.inr (.inr (.inl (not_lt.mp fits))))
      · refine ⟨fun _ => ?_, fun _ _ some_ => absurd some_ positive⟩
        apply refusedTwice
        · exact vaultLock_refused (.inr (.inl (not_lt.mp positive)))
        · exact onChain_lock_refused (.inr (.inr (.inl (not_lt.mp positive))))
  | release positionId =>
    refine ⟨fun _ => ?_, fun _ => trivial⟩
    refine settling_simulates sim sound exact rfl rfl rfl (by rintro ⟨⟩) (fun id => rfl) ?_ ?_
    · intro q locked
      simp only [CollateralVault.Position.life, locked]
      rfl
    · intro amount p stored
      exact honoured _ (sim.written positionId p stored).pledger_ne
  | forfeit positionId =>
    refine ⟨fun _ => ?_, fun _ => trivial⟩
    refine settling_simulates sim sound exact rfl rfl rfl (by rintro ⟨⟩) (fun id => rfl) ?_ ?_
    · intro q locked
      simp only [CollateralVault.Position.life, locked]
      rfl
    · intro amount p stored
      exact honoured _ (sim.written positionId p stored).beneficiary_ne
  | getPosition positionId =>
    refine ⟨fun faithful => ⟨?_, sim⟩, fun same => ?_⟩
    · obtain ⟨p, stored, ⟨a, read, spelled⟩, b, known, written⟩ := faithful
      have before := sim.written positionId p stored
      have pledger := Option.some.inj (read.symm.trans before.pledger)
      have beneficiary := Option.some.inj (known.symm.trans before.beneficiary)
      rw [simulated, onChain, stored, ← pledger, ← beneficiary, spelled, written, before.state,
        ← before.amount]
      rfl
    · rw [simulated, onChain] at same
      cases stored : lookupBy (·.positionId) v positionId with
      | none =>
        rw [stored] at same
        injection same with same
        cases congrArg Report.pledger same
      | some p =>
        rw [stored] at same
        injection same with same
        have before := sim.written positionId p stored
        refine ⟨p, stored, ⟨_, before.pledger, ?_⟩, _, before.beneficiary, ?_⟩
        · exact (Option.some.inj (congrArg Report.pledger same)).symm
        · exact (Option.some.inj (congrArg Report.beneficiary same)).symm

theorem simulates_new {creditTokenAddress initialOwner : Address} {token : T}
    (created : CollateralVault.new c.deployment creditTokenAddress initialOwner token = .ok s) :
    Simulates c [] s := by
  refine ⟨List.nodup_nil, CollateralVault.new_keeps created, ?_, nofun⟩
  intro positionId _
  unfold CollateralVault.new at created
  split at created
  · cases created
  · rw [← Except.ok.inj created]

theorem answers_agree (sim : Simulates c v s) (sound : c.Sound)
    (exact : c.deployment.creditToken.Exact) {turns : List (Turn T)} (honoured : HonouredRun c s turns) :
    simulate r v (turns.map Turn.call) = deployed c s turns ↔
      FaithfulRun c r v (turns.map Turn.call) := by
  induction turns generalizing v s with
  | nil => exact ⟨fun _ => trivial, fun _ => rfl⟩
  | cons t rest ih =>
    obtain ⟨untouched, now, later⟩ := honoured
    obtain ⟨together, apart⟩ := turn_simulates (r := r) (sim.ready untouched) sound exact now
    constructor
    · intro same
      obtain ⟨first, others⟩ := List.cons.inj same
      have faithful := apart first
      exact ⟨faithful, (ih (together faithful).2 later).mp others⟩
    · rintro ⟨faithful, others⟩
      obtain ⟨first, sim'⟩ := together faithful
      exact congrArg₂ List.cons first ((ih sim' later).mpr others)

/-- From a new vault and an empty dictionary, the answers to the same calls are the same on both
sides if and only if every call is faithful. -/
theorem vaults_agree {creditTokenAddress initialOwner : Address} {token : T}
    (created : CollateralVault.new c.deployment creditTokenAddress initialOwner token = .ok s)
    (sound : c.Sound) (exact : c.deployment.creditToken.Exact) {turns : List (Turn T)}
    (honoured : HonouredRun c s turns) :
    simulate r [] (turns.map Turn.call) = deployed c s turns ↔
      FaithfulRun c r [] (turns.map Turn.call) :=
  answers_agree (simulates_new created) sound exact honoured

end Simulation

section Sample
open scoped CollateralVault
open CollateralVault (MockCredit sampleToken sampleDeployment sampleVault)

def zeroAddress : String := "0x0000000000000000000000000000000000000000"
def tokenAddress : String := "0x5FbDB2315678afecb367f032d93F642f64180aa3"
def pledgerAddress : String := "0x70997970C51812dc3A010C7d01b50e0d17dc79C8"
def beneficiaryAddress : String := "0x3C44CdDdB6a900fa2b585dd299e03d12FA4293BC"
def vaultAddress : String := "0xe7f1725E7734CE288F8367e1Bb143E90bb3F0512"

def sampleSpelling : Fin 5 → String
  | 0 => zeroAddress
  | 1 => tokenAddress
  | 2 => pledgerAddress
  | 3 => beneficiaryAddress
  | 4 => vaultAddress

/-- Five addresses, and ids that are their own hash. -/
def sampleChain : Chain (Fin 5) String (MockCredit (Fin 5)) where
  deployment := sampleDeployment
  toChecksumAddress text := (List.finRange 5).find? fun a => sampleSpelling a = text
  spell := sampleSpelling
  positionIdToBytes32 := id

theorem sampleChain_sound : sampleChain.Sound := by
  refine ⟨?_, by decide +kernel, fun _ _ same => same⟩
  decide +kernel

def sampleRules : WorkOrders.SigningRules where
  toHashing := ⟨id, fun _ => "0.0"⟩
  hmac _ data := data
  text := PythonConversions.asciiRules fun _ => "0.0"

def emptyVault : CollateralVault.Vault (Fin 5) String (MockCredit (Fin 5)) :=
  ⟨sampleToken, 1, fun _ => ⟨0, 0, 0, .none⟩, []⟩

/-- The token once the vault holds 300. -/
def pledgedToken : MockCredit (Fin 5) :=
  ((MockCredit.transferFrom 0 sampleToken 4 2 4 300).map Prod.snd).getD sampleToken

def sampleTurns : List (Turn (MockCredit (Fin 5))) :=
  [⟨sampleToken, .lock "p1" pledgerAddress beneficiaryAddress 300⟩,
    ⟨pledgedToken, .getPosition "p1"⟩, ⟨pledgedToken, .release "p1"⟩]

theorem emptyVault_new :
    CollateralVault.new sampleChain.deployment 3 1 sampleToken = .ok emptyVault := rfl

/-- The pledger of the samples is the account that holds the tokens. -/
theorem sample_pledger {sender : Fin 5} (read : sampleChain.toChecksumAddress pledgerAddress = some sender) :
    sender = 2 := by
  have known : sampleChain.toChecksumAddress pledgerAddress = some 2 := by decide +kernel
  exact Option.some.inj (read.symm.trans known)

theorem pledgedToken_pays (target : Fin 5) (somebody : target ≠ 0) :
    ∃ token, MockCredit.transfer 0 pledgedToken 4 target 300 = some (true, token) := by
  unfold MockCredit.transfer MockCredit.move
  rw [if_neg somebody, if_neg (by decide), if_neg (by revert target; decide)]
  exact ⟨_, rfl⟩

theorem sample_agrees : simulate sampleRules [] (sampleTurns.map Turn.call) =
    deployed sampleChain emptyVault sampleTurns := by
  refine (vaults_agree emptyVault_new sampleChain_sound (MockCredit.token_exact 0) ?_).mpr ?_
  · refine ⟨le_refl _, ?_, by decide +kernel, trivial, le_refl _, ?_, trivial⟩
    · intro sender read _ _ _
      rw [sample_pledger read]
      exact ⟨by decide, by decide, _, rfl⟩
    · intro target somebody _
      exact pledgedToken_pays target somebody
  · refine ⟨fun _ _ _ => ⟨by decide, ⟨2, by decide +kernel⟩, 3, by decide +kernel, by decide⟩,
      ⟨_, rfl, ⟨2, by decide +kernel, rfl⟩, 3, by decide +kernel, rfl⟩, trivial, trivial⟩

/-- A lock in favour of the zero address is taken by the simulation and reverted on chain. -/
theorem zero_beneficiary_diverges :
    HonouredRun sampleChain emptyVault [⟨sampleToken, .lock "p1" pledgerAddress zeroAddress 300⟩] ∧
    simulate sampleRules [] [.lock "p1" pledgerAddress zeroAddress 300] = [.accepted] ∧
    deployed sampleChain emptyVault
      [⟨sampleToken, .lock "p1" pledgerAddress zeroAddress 300⟩] = [.refused] := by
  refine ⟨⟨le_refl _, ?_, trivial⟩, by decide +kernel, by decide +kernel⟩
  intro sender read _ _ _
  rw [sample_pledger read]
  exact ⟨by decide, by decide, _, rfl⟩

end Sample

end VaultSimulation
