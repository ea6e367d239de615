import KalyxMao.LedgerEquivalence
import KalyxMao.ScopedLedgers

/-!
# Which accounts two organisations share

An organisation's account reaches the store as tenant, organisation and name
with colons between them, unless the tenant prefix is there already. It is there
exactly when organisation and tenant have one id, and then the organisation's
names cover the accounts of its siblings.
-/

namespace AccountIsolation
open Bookkeeping PythonText Ledger SqlLedgers LedgerEquivalence

/-- `AccountNamespace`, with the checks of its constructor. -/
structure AccountNamespace where
  tenantId : String
  organisationId : String
  tenantScope : IsScope tenantId
  organisationScope : IsScope organisationId

def AccountNamespace.physical (n : AccountNamespace) (logical : String) : Except PyError String :=
  if logical = systemMint then .ok systemMint
  else if isIn ":" logical then
    .error ⟨.valueError,
      "Callers must not supply physical account strings; use logical names only"⟩
  else .ok s!"{n.tenantId}:{n.organisationId}:{logical}"

def namespaceOf (l : OrganisationScopedLedger) : AccountNamespace :=
  ⟨l.tenantId, l.organisationId, l.tenantLedger.scope, l.scope⟩

section Names
variable {l l' : OrganisationScopedLedger}

theorem isIn_colon (s : String) : isIn ":" s = true ↔ ':' ∈ s.toList := isIn_singleton ':' s

theorem scope_clean {s : String} (scope : IsScope s) : ':' ∉ s.toList := by
  rw [← isIn_colon, scope.2]
  exact Bool.false_ne_true

/-- Two texts before their first colon, and what follows it. -/
theorem colon_inj {a b c d : String} (ha : ':' ∉ a.toList) (hc : ':' ∉ c.toList)
    (e : a ++ ":" ++ b = c ++ ":" ++ d) : a = c ∧ b = d := by
  have lists := congrArg String.toList e
  simp only [String.toList_append, List.append_assoc] at lists
  obtain ⟨heads, tails⟩ := append_cons_inj_first ha hc lists
  exact ⟨String.toList_inj.mp heads, String.toList_inj.mp tails⟩

/-- The tenant prefix is found on an organisation's account only if the ids are the same. -/
theorem startsWith_account (name : String) :
    startsWith (l.account name) s!"{l.tenantId}:" = true ↔ l.organisationId = l.tenantId := by
  constructor
  · intro found
    obtain ⟨rest, split⟩ := startsWith_iff.mp found
    have lists : l.tenantId.toList ++ ':' :: rest = l.organisationId.toList ++ ':' :: name.toList := by
      have shape : (l.account name).toList = l.organisationId.toList ++ ':' :: name.toList := by
        show (l.organisationId ++ ":" ++ name).toList = _
        simp
      rw [← shape, ← split]
      show _ = (l.tenantId ++ ":").toList ++ rest
      simp
    obtain ⟨same, _⟩ :=
      append_cons_inj_first (scope_clean l.tenantLedger.scope) (scope_clean l.scope) lists
    exact (String.toList_inj.mp same).symm
  · intro same
    show startsWith (l.organisationId ++ ":" ++ name) (l.tenantId ++ ":") = true
    rw [same]
    exact startsWith_append _ _

theorem physical_apart (apart : l.organisationId ≠ l.tenantId) (name : String) :
    l.physical name = l.tenantId ++ ":" ++ (l.organisationId ++ ":" ++ name) :=
  if_neg fun found => apart ((startsWith_account name).mp found)

theorem physical_same (same : l.organisationId = l.tenantId) (name : String) :
    l.physical name = l.tenantId ++ ":" ++ name := by
  have kept : l.physical name = l.organisationId ++ ":" ++ name :=
    if_pos ((startsWith_account name).mpr same)
  rw [kept, same]

/-- Every account of an organisation lies in its tenant. -/
theorem physical_in_tenant (l : OrganisationScopedLedger) (name : String) :
    ∃ rest, l.physical name = l.tenantId ++ ":" ++ rest := by
  by_cases same : l.organisationId = l.tenantId
  · exact ⟨_, physical_same same name⟩
  · exact ⟨_, physical_apart same name⟩

def SameScope (l l' : OrganisationScopedLedger) : Prop :=
  l.tenantId = l'.tenantId ∧ l.organisationId = l'.organisationId

/-- Different tenants, or neither organisation has its tenant's id. -/
def Apart (l l' : OrganisationScopedLedger) : Prop :=
  l.tenantId ≠ l'.tenantId ∨
    (l.organisationId ≠ l.tenantId ∧ l'.organisationId ≠ l'.tenantId)

theorem namespace_agrees_iff (name : String) :
    (namespaceOf l).physical name = .ok (l.physical name) ↔
      l.organisationId ≠ l.tenantId ∧ name ≠ systemMint ∧ isIn ":" name = false := by
  have clean := scope_clean l.tenantLedger.scope
  constructor
  · intro agrees
    rw [AccountNamespace.physical] at agrees
    split_ifs at agrees with mint colon
    · obtain ⟨rest, shape⟩ := physical_in_tenant l name
      have text : systemMint = l.tenantId ++ ":" ++ rest := (Except.ok.inj agrees).trans shape
      exact absurd text.symm (colon_ne_mint l.tenantId rest)
    · refine ⟨fun same => ?_, mint, by simpa using colon⟩
      have text : l.tenantId ++ ":" ++ (l.organisationId ++ ":" ++ name) =
          l.tenantId ++ ":" ++ name := by
        refine Eq.trans ?_ ((Except.ok.inj agrees).trans (physical_same same name))
        show _ = l.tenantId ++ ":" ++ l.organisationId ++ ":" ++ name
        simp only [String.append_assoc]
      have lengths := congrArg String.length (colon_inj clean clean text).2
      simp only [String.length_append] at lengths
      have : (":" : String).length = 1 := by decide
      omega
  · rintro ⟨apart, notMint, noColon⟩
    rw [AccountNamespace.physical, if_neg notMint, if_neg (by rw [noColon]; exact Bool.false_ne_true),
      physical_apart apart]
    show Except.ok (l.tenantId ++ ":" ++ l.organisationId ++ ":" ++ name) = _
    simp only [String.append_assoc]

theorem physical_inj (same : SameScope l l') {n n' : String}
    (shared : l.physical n = l'.physical n') : n = n' := by
  have clean := scope_clean l.tenantLedger.scope
  have clean' := scope_clean l'.tenantLedger.scope
  by_cases own : l.organisationId = l.tenantId
  · have own' : l'.organisationId = l'.tenantId := by rw [← same.1, ← same.2, own]
    rw [physical_same own, physical_same own'] at shared
    exact (colon_inj clean clean' shared).2
  · have own' : l'.organisationId ≠ l'.tenantId := by rwa [← same.1, ← same.2]
    rw [physical_apart own, physical_apart own'] at shared
    have inner := (colon_inj clean clean' shared).2
    exact (colon_inj (scope_clean l.scope) (scope_clean l'.scope) inner).2

theorem physical_ne (other : ¬SameScope l l') (apart : Apart l l') (n n' : String) :
    l.physical n ≠ l'.physical n' := by
  have clean := scope_clean l.tenantLedger.scope
  have clean' := scope_clean l'.tenantLedger.scope
  intro shared
  rcases apart with tenants | ⟨own, own'⟩
  · obtain ⟨rest, shape⟩ := physical_in_tenant l n
    obtain ⟨rest', shape'⟩ := physical_in_tenant l' n'
    rw [shape, shape'] at shared
    exact tenants (colon_inj clean clean' shared).1
  · rw [physical_apart own, physical_apart own'] at shared
    obtain ⟨tenant, inner⟩ := colon_inj clean clean' shared
    exact other ⟨tenant, (colon_inj (scope_clean l.scope) (scope_clean l'.scope) inner).1⟩

/-- An organisation with its tenant's id names the accounts of a sibling. -/
theorem physical_shadow (tenant : l.tenantId = l'.tenantId) (own : l.organisationId = l.tenantId)
    (own' : l'.organisationId ≠ l'.tenantId) (name : String) :
    l.physical (l'.organisationId ++ ":" ++ name) = l'.physical name := by
  rw [physical_same own, physical_apart own', tenant]

theorem not_apart_cases (other : ¬SameScope l l') (close : ¬Apart l l') :
    l.tenantId = l'.tenantId ∧ (l.organisationId = l.tenantId ∧ l'.organisationId ≠ l'.tenantId ∨
      l'.organisationId = l'.tenantId ∧ l.organisationId ≠ l.tenantId) := by
  rw [Apart, not_or, not_not, not_and_or, not_not, not_not] at close
  obtain ⟨tenant, own | own⟩ := close
  · refine ⟨tenant, .inl ⟨own, fun own' => other ⟨tenant, ?_⟩⟩⟩
    rw [own, own', tenant]
  · refine ⟨tenant, .inr ⟨own, fun own' => other ⟨tenant, ?_⟩⟩⟩
    rw [own, own', tenant]

theorem accounts_apart_iff :
    (∀ n n', l.physical n = l'.physical n' → SameScope l l' ∧ n = n') ↔
      SameScope l l' ∨ Apart l l' := by
  constructor
  · intro injective
    by_contra neither
    obtain ⟨other, close⟩ := not_or.mp neither
    obtain ⟨tenant, ⟨own, own'⟩ | ⟨own', own⟩⟩ := not_apart_cases other close
    · exact other (injective _ _ (physical_shadow tenant own own' treasury)).1
    · exact other (injective _ _ (physical_shadow tenant.symm own' own treasury).symm).1
  · rintro (same | apart) n n' shared
    · exact ⟨same, physical_inj same shared⟩
    · by_cases same : SameScope l l'
      · exact ⟨same, physical_inj same shared⟩
      · exact absurd shared (physical_ne same apart n n')

end Names

section Histories
variable {l l' : OrganisationScopedLedger} {x : String}

inductive OrgRequest where
  | transfer (fromAccount toAccount : String) (amount : Int) (memo : String)
      (transactionId : Option String)
  | depositRevenue (amount : Int) (memo : String) (transactionId : Option String)
  | reopen (initialTreasury : Int)

/-- The ledger after a request, accepted or refused. -/
def OrgRequest.apply (l : OrganisationScopedLedger) (d : Draw) :
    OrgRequest → OrganisationScopedLedger
  | .transfer source target amount memo txId => (l.transfer d source target amount memo txId).2
  | .depositRevenue amount memo txId => (l.depositRevenue d amount memo txId).2
  | .reopen initialTreasury => (l.opened initialTreasury d).2

def history (l : OrganisationScopedLedger) (requests : List (Draw × OrgRequest)) :
    OrganisationScopedLedger :=
  requests.foldl (fun l request => request.2.apply l request.1) l

/-- The same view over another state of the store. -/
def tenantOver (l : TenantScopedLedger) (store : RawLedger) : TenantScopedLedger :=
  { l with ledger := store }

def orgOver (l : OrganisationScopedLedger) (store : RawLedger) : OrganisationScopedLedger :=
  { l with tenantLedger := tenantOver l.tenantLedger store }

/-- An account outside everything the organisation's statements name. -/
def Outside (l : OrganisationScopedLedger) (x : String) : Prop :=
  x ≠ systemMint ∧ (∀ name, l.physical name ≠ x) ∧
    ∀ name, l.tenantId ++ ":" ++ (l.organisationId ++ ":" ++ name) ≠ x

theorem tenant_transfer_other (l : TenantScopedLedger) (d : Draw) {source target : String}
    (amount : Int) (memo : String) (transactionId : Option String) (notSource : l.account source ≠ x)
    (notTarget : l.account target ≠ x) :
    (l.transfer d source target amount memo transactionId).2.ledger.getBalance x =
      l.ledger.getBalance x := by
  rw [TenantScopedLedger.transfer]
  cases held : l.ledger with
  | postgres p => exact postgres_transfer_other p amount memo transactionId _ notSource notTarget
  | sqlite s =>
    have frame := sqlite_transfer_other (d := d) s amount memo transactionId notSource notTarget
    dsimp only
    split
    · exact frame
    · exact (balanceOf_markTenant _ _ _ _).trans frame

theorem post_other (l : OrganisationScopedLedger) {r : LedgerRow} (notSource : r.fromAccount ≠ x)
    (notTarget : r.toAccount ≠ x) :
    (post l.store.engine l.store.rows l.withRows r).2.store.getBalance x = l.store.getBalance x := by
  rcases post_cases l.store.engine l.store.rows l.withRows r with same | added
  · rw [same]
    exact getBalance_withRows l.store x
  · rw [added]
    exact getBalance_insert l.store notSource notTarget

theorem apply_other (outside : Outside l x) (d : Draw) (request : OrgRequest) :
    (request.apply l d).store.getBalance x = l.store.getBalance x := by
  obtain ⟨notMint, notOwn, notDirect⟩ := outside
  cases request with
  | transfer source target amount memo txId =>
    exact tenant_transfer_other _ d amount memo txId (notOwn source) (notOwn target)
  | depositRevenue amount memo txId =>
    rw [OrgRequest.apply, OrganisationScopedLedger.depositRevenue]
    split_ifs
    · rfl
    · exact post_other l notMint.symm (notDirect revenue)
  | reopen initialTreasury =>
    rw [OrgRequest.apply, OrganisationScopedLedger.opened]
    split_ifs
    · exact post_other l notMint.symm (notDirect treasury)
    · rfl

theorem apply_scope (l : OrganisationScopedLedger) (d : Draw) (request : OrgRequest) :
    (request.apply l d).tenantId = l.tenantId ∧
      (request.apply l d).organisationId = l.organisationId := by
  cases request with
  | transfer source target amount memo txId =>
    refine ⟨?_, rfl⟩
    show (TenantScopedLedger.transfer _ _ _ _ _ _ _).2.tenantId = _
    rw [TenantScopedLedger.transfer]
    split
    · rfl
    · dsimp only
      split
      · rfl
      · rfl
  | depositRevenue amount memo txId =>
    rw [OrgRequest.apply, OrganisationScopedLedger.depositRevenue]
    split_ifs
    · exact ⟨rfl, rfl⟩
    · rcases post_cases l.store.engine l.store.rows l.withRows _ with same | added
      · rw [same]
        exact ⟨rfl, rfl⟩
      · rw [added]
        exact ⟨rfl, rfl⟩
  | reopen initialTreasury =>
    rw [OrgRequest.apply, OrganisationScopedLedger.opened]
    split_ifs
    · rcases post_cases l.store.engine l.store.rows l.withRows _ with same | added
      · rw [same]
        exact ⟨rfl, rfl⟩
      · rw [added]
        exact ⟨rfl, rfl⟩
    · exact ⟨rfl, rfl⟩

theorem physical_scope (same : SameScope l l') (name : String) : l.physical name = l'.physical name := by
  by_cases own : l.organisationId = l.tenantId
  · have own' : l'.organisationId = l'.tenantId := by rw [← same.1, ← same.2, own]
    rw [physical_same own, physical_same own', same.1]
  · have own' : l'.organisationId ≠ l'.tenantId := by rwa [← same.1, ← same.2]
    rw [physical_apart own, physical_apart own', same.1, same.2]

/-- A whole history leaves every account outside the organisation. -/
theorem history_other (outside : Outside l x) (requests : List (Draw × OrgRequest)) :
    (history l requests).store.getBalance x = l.store.getBalance x := by
  induction requests generalizing l with
  | nil => rfl
  | cons request rest ih =>
    have scope := apply_scope l request.1 request.2
    have outside' : Outside (request.2.apply l request.1) x := by
      refine ⟨outside.1, fun name => ?_, fun name => ?_⟩
      · rw [physical_scope scope]
        exact outside.2.1 name
      · rw [scope.1, scope.2]
        exact outside.2.2 name
    exact (ih outside').trans (apply_other outside request.1 request.2)

theorem outside_of_tenants {tenant : String} (clean : ':' ∉ tenant.toList)
    (other : tenant ≠ l.tenantId) (rest : String) : Outside l (tenant ++ ":" ++ rest) := by
  have own := scope_clean l.tenantLedger.scope
  refine ⟨colon_ne_mint tenant rest, fun name shared => ?_, fun name shared => ?_⟩
  · obtain ⟨_, shape⟩ := physical_in_tenant l name
    rw [shape] at shared
    exact other (colon_inj own clean shared).1.symm
  · exact other (colon_inj own clean shared).1.symm

theorem outside_of_apart (other : ¬SameScope l l') (apart : Apart l l') (name : String) :
    Outside l (l'.physical name) := by
  obtain ⟨rest, shape⟩ := physical_in_tenant l' name
  rcases apart with tenants | ⟨own, own'⟩
  · rw [shape]
    exact outside_of_tenants (scope_clean l'.tenantLedger.scope) tenants.symm rest
  · refine ⟨?_, fun n => physical_ne other (.inr ⟨own, own'⟩) n name, fun n => ?_⟩
    · rw [shape]
      exact colon_ne_mint l'.tenantId rest
    · rw [← physical_apart own]
      exact physical_ne other (.inr ⟨own, own'⟩) n name

/-- What a history of one organisation may change for another. -/
def Isolated (l l' : OrganisationScopedLedger) : Prop :=
  ∀ store requests name,
    (orgOver l' (history (orgOver l store) requests).store).getBalance name =
      (orgOver l' store).getBalance name

def draw : Draw := ⟨"t", "e", 0⟩

/-- The sibling's deposit shows in an organisation that has its tenant's id. -/
theorem deposit_shows (tenant : l.tenantId = l'.tenantId) (own' : l'.organisationId = l'.tenantId)
    (own : l.organisationId ≠ l.tenantId) : ¬Isolated l l' := by
  intro isolated
  have seen := isolated (.sqlite ⟨[]⟩) [(draw, .depositRevenue 1 "" none)]
    (l.organisationId ++ ":" ++ revenue)
  have name : l'.physical (l.organisationId ++ ":" ++ revenue) =
      l.tenantId ++ ":" ++ (l.organisationId ++ ":" ++ revenue) := by
    rw [physical_shadow tenant.symm own' own, physical_apart own]
  have after : (orgOver l' (history (orgOver l (.sqlite ⟨[]⟩)) [(draw, .depositRevenue 1 "" none)]).store
      ).getBalance (l.organisationId ++ ":" ++ revenue) =
      balance [⟨systemMint, l.tenantId ++ ":" ++ (l.organisationId ++ ":" ++ revenue), 1⟩]
        (l'.physical (l.organisationId ++ ":" ++ revenue)) := rfl
  have before : (orgOver l' (.sqlite ⟨[]⟩)).getBalance (l.organisationId ++ ":" ++ revenue) =
      balance ([] : List (Posting String Int))
        (l'.physical (l.organisationId ++ ":" ++ revenue)) := rfl
  rw [after, before, name, balance_nil, balance, credits, debits] at seen
  have notMint := (colon_ne_mint l.tenantId (l.organisationId ++ ":" ++ revenue)).symm
  simp [notMint] at seen

/-- An organisation with its tenant's id spends a sibling's treasury. -/
theorem transfer_shows (tenant : l.tenantId = l'.tenantId) (own : l.organisationId = l.tenantId)
    (own' : l'.organisationId ≠ l'.tenantId) : ¬Isolated l l' := by
  intro isolated
  have source : l.physical (l'.organisationId ++ ":" ++ treasury) = l'.physical treasury :=
    physical_shadow tenant own own' treasury
  have route : l'.physical treasury ≠ l.physical revenue := by
    intro same
    rw [physical_apart own', physical_same own] at same
    have inner := (colon_inj (scope_clean l'.tenantLedger.scope) (scope_clean l.tenantLedger.scope)
      same).2
    have absent : ':' ∉ revenue.toList := by decide
    rw [← inner] at absent
    simp at absent
  have notMint : systemMint ≠ l'.physical treasury := by
    obtain ⟨rest, shape⟩ := physical_in_tenant l' treasury
    rw [shape]
    exact (colon_ne_mint l'.tenantId rest).symm
  let funding : LedgerEntry := ⟨"e0", 0, "m", systemMint, l'.physical treasury, 1, "", by decide⟩
  have before : balance (postings [funding]) (l'.physical treasury) = 1 := by
    simp [balance, credits, debits, postings, LedgerEntry.posting, funding, notMint]
  have seen := isolated (.sqlite (sqliteOf [funding]))
    [(draw, .transfer (l'.organisationId ++ ":" ++ treasury) revenue 1 "" (some "t2"))] treasury
  have start : (orgOver l' (.sqlite (sqliteOf [funding]))).getBalance treasury = 1 :=
    (balanceOf_entryRows defaultTenant [funding] _).trans before
  have fresh : ∀ e ∈ [funding], e.id ≠ draw.entryId := by
    intro e he
    rw [List.mem_singleton.mp he]
    show ("e0" : String) ≠ "e"
    decide
  have unused : ∀ e ∈ [funding], e.transactionId ≠ "t2" := by
    intro e he
    rw [List.mem_singleton.mp he]
    show ("m" : String) ≠ "t2"
    decide
  rcases transfer_cases (d := draw) (l.physical revenue) "" 1 fresh notMint.symm
      (by decide : ("t2" : String) ≠ "") with
    ⟨err, _, why⟩ | ⟨f, taken, from_, to_, amount, _, _⟩
  · exact why ⟨by decide, unused, route, before.symm.le⟩
  · have answer : (sqliteOf [funding]).transfer draw
        (l.physical (l'.organisationId ++ ":" ++ treasury)) (l.physical revenue) 1 ""
        (some "t2") = (.ok f, sqliteOf ([funding] ++ [f])) := by
      rw [source]
      exact taken
    have moved := tenant_transfer_sqlite
      (l := tenantOver l.tenantLedger (.sqlite (sqliteOf [funding]))) rfl answer
    have after : (orgOver l' (history (orgOver l (.sqlite (sqliteOf [funding])))
        [(draw, .transfer (l'.organisationId ++ ":" ++ treasury) revenue 1 "" (some "t2"))]).store
        ).getBalance treasury = balance (postings ([funding] ++ [f])) (l'.physical treasury) := by
      refine Eq.trans (congrArg (RawLedger.getBalance · (l'.physical treasury)) moved) ?_
      exact (balanceOf_markTenant _ _ _ _).trans (balanceOf_entryRows defaultTenant _ _)
    rw [after, start] at seen
    have total : balance (postings ([funding] ++ [f])) (l'.physical treasury) = 0 := by
      rw [balance_postings_concat, before, from_, to_, amount, if_neg route.symm, if_pos rfl]
      decide
    exact absurd (total.symm.trans seen) (by decide)

theorem isolated_iff (other : ¬SameScope l l') : Isolated l l' ↔ Apart l l' := by
  constructor
  · intro isolated
    by_contra close
    obtain ⟨tenant, ⟨own, own'⟩ | ⟨own', own⟩⟩ := not_apart_cases other close
    · exact transfer_shows tenant own own' isolated
    · exact deposit_shows tenant own' own isolated
  · intro apart store requests name
    exact history_other (l := orgOver l store) (outside_of_apart other apart name) requests

/-- The prefixes keep two organisations apart exactly when neither bears the id of
the tenant they share; tenants are always apart. -/
theorem account_isolation (l l' : OrganisationScopedLedger) :
    (∀ name, (namespaceOf l).physical name = .ok (l.physical name) ↔
      l.organisationId ≠ l.tenantId ∧ name ≠ systemMint ∧ isIn ":" name = false) ∧
    ((∀ n n', l.physical n = l'.physical n' → SameScope l l' ∧ n = n') ↔
      SameScope l l' ∨ Apart l l') ∧
    (¬SameScope l l' → (Isolated l l' ↔ Apart l l')) ∧
    ∀ t : TenantScopedLedger, t.tenantId ≠ l.tenantId → ∀ store requests name,
      (tenantOver t (history (orgOver l store) requests).store).getBalance name =
        (tenantOver t store).getBalance name := by
  refine ⟨namespace_agrees_iff, accounts_apart_iff, isolated_iff, ?_⟩
  intro t other store requests name
  have shape : ∃ rest, t.account name = t.tenantId ++ ":" ++ rest := by
    rw [TenantScopedLedger.account]
    split_ifs with found
    · obtain ⟨rest, split⟩ := startsWith_iff.mp found
      refine ⟨String.ofList rest, String.toList_inj.mp ?_⟩
      rw [String.toList_append, String.toList_ofList]
      exact split.symm
    · exact ⟨name, rfl⟩
  obtain ⟨rest, shape⟩ := shape
  have outside : Outside (orgOver l store) (t.account name) :=
    shape ▸ outside_of_tenants (scope_clean t.scope) other rest
  exact history_other (l := orgOver l store) outside requests

end Histories

section Collision

theorem acme_scope : IsScope "acme" := by decide

/-- A view of tenant `acme` over an empty SQLite store. -/
def acme (organisationId : String) (scope : IsScope organisationId) : OrganisationScopedLedger where
  tenantLedger := ⟨.sqlite ⟨[]⟩, "acme", acme_scope⟩
  organisationId := organisationId
  scope := scope

/-- The organisation named like its tenant reads what the laboratory was paid. -/
theorem acme_reads_lab :
    (acme "acme" (by decide)).physical "lab:REVENUE" = (acme "lab" (by decide)).physical "REVENUE" ∧
    ¬Isolated (acme "lab" (by decide)) (acme "acme" (by decide)) := by
  refine ⟨by decide, fun isolated => ?_⟩
  have seen := isolated (.sqlite ⟨[]⟩) [(draw, .depositRevenue 1 "" none)] "lab:REVENUE"
  revert seen
  decide

end Collision

end AccountIsolation
