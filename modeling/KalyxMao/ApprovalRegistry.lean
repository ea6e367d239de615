import Mathlib.Data.List.AList

/-!
# Registries of revocable grants

A grant has an identifier and a subject. The registry keeps the latest grant of
each subject, every grant not withdrawn by its identifier, and the identifiers
withdrawn. A revocation names either kind of key. It withdraws what the registry
finds under the key, which for a subject is the latest grant alone.
-/

namespace ApprovalRegistry

universe u v w

structure Registry (K : Type u) (A : Type v) where
  current : AList fun _ : K => A
  issued : AList fun _ : K => A
  revoked : List K

def Registry.empty (K : Type u) (A : Type v) : Registry K A := ⟨∅, ∅, []⟩

variable {K : Type u} {A : Type v} [DecidableEq K] (idOf subjectOf : A → K)

namespace Registry

def issue (r : Registry K A) (a : A) : Registry K A :=
  { r with
    current := r.current.insert (subjectOf a) a
    issued := r.issued.insert (idOf a) a }

/-- Withdraws the latest grant of a subject. -/
def dropCurrent (r : Registry K A) (key : K) (a : A) : Registry K A :=
  ⟨r.current.erase key, r.issued.erase (idOf a), idOf a :: r.revoked⟩

/-- Withdraws a grant by its identifier, and whatever is the latest of its subject. -/
def dropIssued (r : Registry K A) (key : K) (a : A) : Registry K A :=
  ⟨r.current.erase (subjectOf a), r.issued.erase key, idOf a :: r.revoked⟩

def noteUnknown (r : Registry K A) (key : K) : Registry K A :=
  { r with revoked := key :: r.revoked }

/-- The key is tried as a subject, and only if it is none as an identifier. -/
def revokeFirst (r : Registry K A) (key : K) : Registry K A :=
  match r.current.lookup key with
  | some a => r.dropCurrent idOf key a
  | none =>
    match r.issued.lookup key with
    | some a => r.dropIssued idOf subjectOf key a
    | none => r.noteUnknown key

/-- The key is tried as a subject and as an identifier. -/
def revokeBoth (r : Registry K A) (key : K) : Registry K A :=
  match r.current.lookup key with
  | some a =>
    let r' := r.dropCurrent idOf key a
    match r'.issued.lookup key with
    | some b => r'.dropIssued idOf subjectOf key b
    | none => r'
  | none =>
    match r.issued.lookup key with
    | some b => r.dropIssued idOf subjectOf key b
    | none => r.noteUnknown key

end Registry

inductive Call (K : Type u) (A : Type v) where
  | issue (a : A)
  | revoke (key : K)

def Call.map {Q : Type w} (f : Q → A) : Call K Q → Call K A
  | .issue q => .issue (f q)
  | .revoke key => .revoke key

/-- The grants a history has made. -/
def grants : List (Call K A) → List A
  | [] => []
  | .issue a :: rest => a :: grants rest
  | .revoke _ :: rest => grants rest

omit [DecidableEq K] in
theorem grants_append (before after : List (Call K A)) :
    grants (before ++ after) = grants before ++ grants after := by
  induction before with
  | nil => rfl
  | cons c rest ih =>
    cases c with
    | issue a => exact congrArg (a :: ·) ih
    | revoke key => exact ih

omit [DecidableEq K] in
theorem grants_map {Q : Type w} (f : Q → A) (calls : List (Call K Q)) :
    grants (calls.map (Call.map f)) = (grants calls).map f := by
  induction calls with
  | nil => rfl
  | cons c rest ih =>
    cases c with
    | issue q => exact congrArg (f q :: ·) ih
    | revoke key => exact ih

omit [DecidableEq K] in
theorem revoke_mem_map {Q : Type w} {f : Q → A} {calls : List (Call K Q)} {key : K} :
    .revoke key ∈ calls.map (Call.map f) ↔ .revoke key ∈ calls := by
  rw [List.mem_map]
  constructor
  · rintro ⟨c, present, same⟩
    cases c with
    | issue q => cases same
    | revoke key' =>
      rw [Call.map, Call.revoke.injEq] at same
      exact same ▸ present
  · exact fun present => ⟨_, present, rfl⟩

variable {idOf subjectOf}

/-- How a revocation acts when no key is both an identifier and a subject. -/
def apply (idOf subjectOf : A → K) (r : Registry K A) : Call K A → Registry K A
  | .issue a => r.issue idOf subjectOf a
  | .revoke key => r.revokeFirst idOf subjectOf key

def run (idOf subjectOf : A → K) (r : Registry K A) (calls : List (Call K A)) : Registry K A :=
  calls.foldl (apply idOf subjectOf) r

/-- The same with a revocation that tries both. -/
def applyBoth (idOf subjectOf : A → K) (r : Registry K A) : Call K A → Registry K A
  | .issue a => r.issue idOf subjectOf a
  | .revoke key => r.revokeBoth idOf subjectOf key

def runBoth (idOf subjectOf : A → K) (r : Registry K A) (calls : List (Call K A)) : Registry K A :=
  calls.foldl (applyBoth idOf subjectOf) r

/-- Identifiers are never drawn twice and never look like a subject. -/
structure Fresh (idOf subjectOf : A → K) (past : List A) : Prop where
  distinct : (past.map idOf).Nodup
  apart : ∀ a ∈ past, ∀ b ∈ past, idOf a ≠ subjectOf b

/-- What the registry knows of the grants made so far. -/
structure Tracks (idOf subjectOf : A → K) (past : List A) (r : Registry K A) : Prop where
  known : ∀ a ∈ past, idOf a ∈ r.revoked ∨ r.issued.lookup (idOf a) = some a
  issued : ∀ k a, r.issued.lookup k = some a → idOf a = k ∧ a ∈ past
  current : ∀ k a, r.current.lookup k = some a → subjectOf a = k ∧ a ∈ past

/-- Every grant the registry still holds for a subject is the latest one of the subject. -/
def Settled (subjectOf : A → K) (r : Registry K A) (subject : K) : Prop :=
  ∀ k a, r.issued.lookup k = some a → subjectOf a = subject → r.current.lookup subject = some a

section Steps
variable {past : List A} {r : Registry K A}

theorem tracks_empty : Tracks idOf subjectOf [] (Registry.empty K A) where
  known := by simp
  issued k a found := by simp [Registry.empty] at found
  current k a found := by simp [Registry.empty] at found

theorem tracks_issue (tracks : Tracks idOf subjectOf past r) {a : A}
    (fresh : ∀ b ∈ past, idOf b ≠ idOf a) :
    Tracks idOf subjectOf (past ++ [a]) (r.issue idOf subjectOf a) where
  known b hb := by
    rcases List.mem_append.mp hb with old | new
    · refine (tracks.known b old).imp_right fun found => ?_
      exact (AList.lookup_insert_ne (fresh b old)).trans found
    · rw [List.mem_singleton.mp new]
      exact .inr (AList.lookup_insert _)
  issued k b found := by
    by_cases same : k = idOf a
    · rw [same] at found ⊢
      have latest := (AList.lookup_insert r.issued).symm.trans found
      rw [← Option.some.inj latest]
      exact ⟨rfl, by simp⟩
    · have old := (AList.lookup_insert_ne same).symm.trans found
      exact ⟨(tracks.issued k b old).1, List.mem_append_left _ (tracks.issued k b old).2⟩
  current k b found := by
    by_cases same : k = subjectOf a
    · rw [same] at found ⊢
      have latest := (AList.lookup_insert r.current).symm.trans found
      rw [← Option.some.inj latest]
      exact ⟨rfl, by simp⟩
    · have old := (AList.lookup_insert_ne same).symm.trans found
      exact ⟨(tracks.current k b old).1, List.mem_append_left _ (tracks.current k b old).2⟩

theorem lookup_erase_some {d : AList fun _ : K => A} {k k' : K} {a : A}
    (found : (d.erase k).lookup k' = some a) : k' ≠ k ∧ d.lookup k' = some a := by
  have apart : k' ≠ k := by
    rintro rfl
    rw [AList.lookup_erase] at found
    cases found
  exact ⟨apart, (AList.lookup_erase_ne apart).symm.trans found⟩

/-- Withdrawing one identifier keeps the registry's knowledge. -/
theorem tracks_drop (tracks : Tracks idOf subjectOf past r) (key subject : K) :
    Tracks idOf subjectOf past ⟨r.current.erase subject, r.issued.erase key, key :: r.revoked⟩ where
  known a ha := by
    by_cases same : idOf a = key
    · exact .inl (same ▸ List.mem_cons_self)
    · exact (tracks.known a ha).imp (List.mem_cons_of_mem key)
        (AList.lookup_erase_ne same).trans
  issued k a found := tracks.issued k a (lookup_erase_some found).2
  current k a found := tracks.current k a (lookup_erase_some found).2

theorem tracks_revoke (tracks : Tracks idOf subjectOf past r) (key : K) :
    Tracks idOf subjectOf past (r.revokeFirst idOf subjectOf key) := by
  rw [Registry.revokeFirst]
  split
  · exact tracks_drop tracks _ key
  · split
    · rename_i a found
      obtain ⟨rfl, _⟩ := tracks.issued _ _ found
      exact tracks_drop tracks _ _
    · exact ⟨fun a ha => (tracks.known a ha).imp_left (List.mem_cons_of_mem key), tracks.issued,
        tracks.current⟩

/-- The two ways to revoke differ only on a key that is an identifier and a subject. -/
theorem revokeBoth_eq (tracks : Tracks idOf subjectOf past r)
    (apart : ∀ a ∈ past, ∀ b ∈ past, idOf a ≠ subjectOf b) (key : K) :
    r.revokeBoth idOf subjectOf key = r.revokeFirst idOf subjectOf key := by
  rw [Registry.revokeBoth, Registry.revokeFirst]
  split
  · rename_i a found
    obtain ⟨subject, ha⟩ := tracks.current _ _ found
    dsimp only
    split
    · rename_i b twice
      obtain ⟨id, hb⟩ := tracks.issued _ _ (lookup_erase_some twice).2
      exact absurd (id.trans subject.symm) (apart b hb a ha)
    · rfl
  · rfl

theorem revoked_apply {k : K} (gone : k ∈ r.revoked) (c : Call K A) :
    k ∈ (apply idOf subjectOf r c).revoked := by
  cases c with
  | issue a => exact gone
  | revoke key =>
    rw [apply, Registry.revokeFirst]
    split
    · exact List.mem_cons_of_mem _ gone
    · split
      · exact List.mem_cons_of_mem _ gone
      · exact List.mem_cons_of_mem _ gone

theorem revoked_run {k : K} (gone : k ∈ r.revoked) (calls : List (Call K A)) :
    k ∈ (run idOf subjectOf r calls).revoked := by
  induction calls generalizing r with
  | nil => exact gone
  | cons c rest ih => exact ih (revoked_apply gone c)

omit [DecidableEq K] in
theorem Fresh.of_subset {past' : List A} (fresh : Fresh idOf subjectOf past')
    (sub : past.Sublist past') : Fresh idOf subjectOf past where
  distinct := fresh.distinct.sublist (sub.map idOf)
  apart a ha b hb := fresh.apart a (sub.subset ha) b (sub.subset hb)

omit [DecidableEq K] in
theorem Fresh.next {a : A} {rest : List A} (fresh : Fresh idOf subjectOf (past ++ a :: rest)) :
    ∀ b ∈ past, idOf b ≠ idOf a := by
  intro b hb same
  have distinct := fresh.distinct
  rw [List.map_append] at distinct
  have disjoint := (List.nodup_append.mp distinct).2.2
  exact disjoint _ (List.mem_map_of_mem hb) _ (by simp) same

/-- Along a history the registry keeps track, however its revocations try the key. -/
theorem tracks_runs (tracks : Tracks idOf subjectOf past r) (calls : List (Call K A))
    (fresh : Fresh idOf subjectOf (past ++ grants calls)) :
    Tracks idOf subjectOf (past ++ grants calls) (run idOf subjectOf r calls) ∧
      runBoth idOf subjectOf r calls = run idOf subjectOf r calls := by
  induction calls generalizing past r with
  | nil =>
    rw [grants, List.append_nil]
    exact ⟨tracks, rfl⟩
  | cons c rest ih =>
    cases c with
    | issue a =>
      have next := fresh.next
      rw [grants, ← List.singleton_append, ← List.append_assoc] at fresh ⊢
      exact ih (tracks_issue tracks next) fresh
    | revoke key =>
      have before := fresh.of_subset (List.sublist_append_left past _)
      obtain ⟨after, same⟩ := ih (tracks_revoke tracks key) fresh
      refine ⟨after, ?_⟩
      rw [runBoth, List.foldl_cons, applyBoth, revokeBoth_eq tracks before.apart key]
      exact same

/-- A revocation by identifier withdraws the grant, unless the key is taken for a subject. -/
theorem revoke_id (tracks : Tracks idOf subjectOf past r) {id : K}
    (apart : ∀ b ∈ past, id ≠ subjectOf b) :
    id ∈ (r.revokeFirst idOf subjectOf id).revoked := by
  rw [Registry.revokeFirst]
  split
  · rename_i b found
    obtain ⟨subject, hb⟩ := tracks.current _ _ found
    exact absurd subject.symm (apart b hb)
  · split
    · rename_i b found
      rw [Registry.dropIssued, (tracks.issued _ _ found).1]
      exact List.mem_cons_self
    · exact List.mem_cons_self

/-- A revocation by subject withdraws all its grants when the subject is settled. -/
theorem revoke_subject (tracks : Tracks idOf subjectOf past r) {a : A} (ha : a ∈ past)
    (settled : Settled subjectOf r (subjectOf a)) :
    idOf a ∈ (r.revokeFirst idOf subjectOf (subjectOf a)).revoked := by
  rcases tracks.known a ha with gone | held
  · exact revoked_apply gone (.revoke (subjectOf a))
  · have latest := settled _ a held rfl
    rw [Registry.revokeFirst, latest]
    exact List.mem_cons_self

end Steps

section Histories
variable {calls : List (Call K A)}

theorem tracks_run (fresh : Fresh idOf subjectOf (grants calls)) :
    Tracks idOf subjectOf (grants calls) (run idOf subjectOf (.empty K A) calls) :=
  (tracks_runs tracks_empty calls fresh).1

theorem runBoth_eq (fresh : Fresh idOf subjectOf (grants calls)) :
    runBoth idOf subjectOf (.empty K A) calls = run idOf subjectOf (.empty K A) calls :=
  (tracks_runs tracks_empty calls fresh).2

/-- What a revocation withdraws stays withdrawn: the grant of that identifier, and
every grant of that subject if the subject was settled. -/
theorem revoked_stays {before after : List (Call K A)} {key : K} {a : A}
    (fresh : Fresh idOf subjectOf (grants (before ++ .revoke key :: after)))
    (ha : a ∈ grants before)
    (named : key = idOf a ∨
      key = subjectOf a ∧ Settled subjectOf (run idOf subjectOf (.empty K A) before) key) :
    idOf a ∈ (run idOf subjectOf (.empty K A) (before ++ .revoke key :: after)).revoked := by
  rw [grants_append] at fresh
  have earlier := fresh.of_subset (List.sublist_append_left _ _)
  rw [run, List.foldl_append, List.foldl_cons]
  refine revoked_run ?_ after
  rcases named with rfl | ⟨rfl, settled⟩
  · exact revoke_id (tracks_run earlier) (earlier.apart a ha)
  · exact revoke_subject (tracks_run earlier) ha settled

/-- A grant still held was never revoked by its identifier. -/
theorem held_not_revoked {id : K} (fresh : Fresh idOf subjectOf (grants calls))
    (apart : ∀ a ∈ grants calls, id ≠ subjectOf a)
    (held : id ∉ (run idOf subjectOf (.empty K A) calls).revoked) : .revoke id ∉ calls := by
  intro asked
  obtain ⟨before, after, rfl⟩ := List.append_of_mem asked
  rw [grants_append] at fresh apart
  have earlier := fresh.of_subset (List.sublist_append_left _ _)
  refine held ?_
  rw [run, List.foldl_append, List.foldl_cons]
  refine revoked_run (revoke_id (tracks_run earlier) fun a ha => ?_) after
  exact apart a (List.mem_append_left _ ha)

end Histories

end ApprovalRegistry
