import KalyxMao.AddressText
import KalyxMao.Executors
import KalyxMao.UrlText

/-!
# The targets that the external executor reaches

A target is accepted if it begins with an entry of the allowlist, and each
redirect is checked like the first target. An entry that stops before the end of
its authority is a beginning of URLs of other hosts.
-/

namespace OutboundTargets
open PythonText PythonValues Domain Executors UrlText

section Model

def defaultAllowlist : List String :=
  ["api://market_data/v1/summary", "sandbox://market_index_fund", "sandbox://verified_bonds",
    "https://api.github.com/repos/", "https://httpbin.org/get",
    "https://api.coingecko.com/api/v3/simple/price"]

/-- What a request to a server comes to: an exception of the HTTP client, or a response. -/
inductive ServerAnswer where
  | failed (e : PyError)
  | response (location : Option String) (status : Nat) (size : Nat) (data : PyValue)

/-- What the executor is given besides its allowlist; `answers` are those of the servers, request
by request. -/
structure Outside where
  mockHandler : Option (String → Except PyError (Nat × PyValue))
  allowRedirects : Bool
  urljoin : String → String → String
  gateway : String → PyValue
  answers : Nat → ServerAnswer

variable (r : ExecutorRules) (x : ExternalExecutor) (o : Outside)

/-- `_dispatch`, with the targets that it reaches. `depth` is what the interpreter's recursion limit
leaves, and `n` counts the requests. -/
def dispatch : Nat → Nat → String → String → Except PyError (Nat × PyValue) × List String
  | 0, _, _, _ => (.error ⟨.otherException, "maximum recursion depth exceeded"⟩, [])
  | depth + 1, n, target, httpMethod =>
    match o.mockHandler with
    | some handler => (handler target, [target])
    | none =>
      if startsWith target "api://" ∨ startsWith target "sandbox://" then
        (.ok (200, o.gateway target), [target])
      else if httpMethod ≠ "GET" ∧ httpMethod ≠ "POST" then
        (.error ⟨.unauthorizedActionError, s!"Unsupported HTTP method '{httpMethod}'"⟩, [])
      else
        match o.answers n with
        | .failed e => (.error e, [target])
        | .response location status size data =>
          match location.filter (· ≠ "") with
          | some location =>
            let redirectTarget := o.urljoin target location
            match validateOutboundTarget r x redirectTarget with
            | .error e => (.error e, [target])
            | .ok () =>
              if o.allowRedirects then
                let (answer, hops) := dispatch depth (n + 1) redirectTarget "GET"
                (answer, target :: hops)
              else
                (.error ⟨.unauthorizedActionError,
                  s!"SSRF boundary blocked redirect to '{redirectTarget}' (allow_redirects=False)"⟩,
                  [target])
          | none =>
            if x.maxPayloadBytes < size then
              (.error ⟨.externalExecutionError,
                s!"Response body length {size} exceeds payload limit of {x.maxPayloadBytes} bytes"⟩,
                [target])
            else (.ok (status, data), [target])

end Model

section Property
variable (r : ExecutorRules) (allowlist : List String)

/-- Every target that is reached has scheme and host of an entry, and following redirects ends. -/
structure Confined (x : ExternalExecutor) (o : Outside) (depth : Nat) (target httpMethod : String) :
    Prop where
  hops : ∀ hop ∈ (dispatch r x o depth 0 target httpMethod).2,
    ∃ item ∈ allowlist, urlparse r.text hop = urlparse r.text item
  ends : (dispatch r x o depth 0 target httpMethod).2.length ≤ depth

/-- An accepted target has scheme and host of an entry, and so has all that is reached from it,
whatever the network, the servers and the limits are. -/
def Guarded : Prop :=
  ∀ (x : ExternalExecutor) (o : Outside) (depth : Nat) (target httpMethod : String),
    x.allowlist = allowlist → x.network.urlparse = urlparse r.text →
      validateOutboundTarget r x target = .ok () →
        (∃ item ∈ allowlist, urlparse r.text target = urlparse r.text item) ∧
          Confined r allowlist x o depth target httpMethod

end Property

section Targets
variable {r : ExecutorRules} {x : ExternalExecutor} {o : Outside} {target : String}

/-- What is accepted begins with an entry. -/
theorem validate_begins (accepted : validateOutboundTarget r x target = .ok ()) :
    ∃ item ∈ x.allowlist, ∃ rest, target = item ++ rest := by
  unfold validateOutboundTarget at accepted
  split at accepted
  · rename_i begins
    obtain ⟨item, mem, front⟩ := List.any_eq_true.mp begins
    obtain ⟨rest, whole⟩ := startsWith_iff.mp front
    refine ⟨item, mem, String.ofList rest, ?_⟩
    rw [← String.toList_inj, String.toList_append, String.toList_ofList, whole]
  · cases accepted

theorem validate_accepts {host item : String} (mem : item ∈ x.allowlist)
    (begins : startsWith target item = true) (named : (x.network.urlparse target).2 = some host)
    (some_ : host ≠ "")
    (remote : r.text.lower host ∉ ["localhost", "0.0.0.0", "127.0.0.1", "::1"])
    (resolved : resolveAndValidateHost x host = .ok ()) : validateOutboundTarget r x target = .ok () := by
  unfold validateOutboundTarget
  rw [if_pos (List.any_eq_true.mpr ⟨item, mem, begins⟩)]
  dsimp only
  split
  · rw [named, orElse_some some_, if_neg some_, if_neg remote, resolved]
  · rfl

/-- A dispatch reaches nothing, its target alone, or also what a redirect to an accepted one does. -/
theorem dispatch_cases (depth n : Nat) (target httpMethod : String) :
    (dispatch r x o (depth + 1) n target httpMethod).2 = [] ∨
      (dispatch r x o (depth + 1) n target httpMethod).2 = [target] ∨
      ∃ next, validateOutboundTarget r x next = .ok () ∧
        (dispatch r x o (depth + 1) n target httpMethod).2 =
          target :: (dispatch r x o depth (n + 1) next "GET").2 := by
  rw [dispatch]
  split
  · exact .inr (.inl rfl)
  split
  · exact .inr (.inl rfl)
  split
  · exact .inl rfl
  split
  · exact .inr (.inl rfl)
  split
  · dsimp only
    split
    · exact .inr (.inl rfl)
    · rename_i redirected
      split
      · exact .inr (.inr ⟨_, redirected, rfl⟩)
      · exact .inr (.inl rfl)
  · split
    · exact .inr (.inl rfl)
    · exact .inr (.inl rfl)

/-- Every target but the first has been accepted. -/
theorem dispatch_accepted (depth n : Nat) (httpMethod : String)
    (accepted : validateOutboundTarget r x target = .ok ()) :
    ∀ hop ∈ (dispatch r x o depth n target httpMethod).2, validateOutboundTarget r x hop = .ok () := by
  induction depth generalizing n target httpMethod with
  | zero => exact fun hop mem => absurd mem List.not_mem_nil
  | succ depth ih =>
    rcases dispatch_cases depth n target httpMethod with none_ | alone | ⟨next, redirected, hops⟩
    · rw [none_]
      exact fun hop mem => absurd mem List.not_mem_nil
    · rw [alone]
      exact List.forall_mem_singleton.mpr accepted
    · rw [hops]
      exact List.forall_mem_cons.mpr ⟨accepted, ih (n + 1) "GET" redirected⟩

/-- Each target takes one level of the recursion. -/
theorem dispatch_length (depth n : Nat) (target httpMethod : String) :
    (dispatch r x o depth n target httpMethod).2.length ≤ depth := by
  induction depth generalizing n target httpMethod with
  | zero => exact Nat.le_refl 0
  | succ depth ih =>
    rcases dispatch_cases depth n target httpMethod with none_ | alone | ⟨next, -, hops⟩
    · rw [none_]
      exact Nat.zero_le _
    · rw [alone]
      exact Nat.succ_le_succ (Nat.zero_le depth)
    · rw [hops]
      exact Nat.succ_le_succ (ih (n + 1) next "GET")

end Targets

section Network
variable {r : ExecutorRules}

/-- A network in which every name has one public address. -/
def publicNetwork (r : ExecutorRules) : Network where
  urlparse := urlparse r.text
  ipAddress _ := none
  getaddrinfo _ := .ok [("93.184.216.34", false)]

theorem lower_longHost (u : AddressText.UnicodeRules r.text) (n : Nat) :
    r.text.lower (String.ofList (longHost n)) = String.ofList (longHost n) := by
  rw [u.lower_ascii, String.toList_ofList]
  · congr 1
    exact List.map_replicate
  · rw [String.toList_ofList]
    intro c mem
    rw [longHost_mem mem]
    decide

/-- Over that network a long host is refused by nothing. -/
theorem open_accepted (u : AddressText.UnicodeRules r.text) {allowlist : List String} {item : String}
    (mem : item ∈ allowlist) {rest : String} {n : Nat}
    (host : (urlparse r.text (item ++ rest)).2 = some (String.ofList (longHost n))) :
    validateOutboundTarget r ⟨allowlist, 0, publicNetwork r⟩ (item ++ rest) = .ok () := by
  have other : String.ofList (longHost n) ∉ ["", "localhost", "0.0.0.0", "127.0.0.1", "::1"] := by
    intro forbidden
    have heads : ∀ s ∈ ["", "localhost", "0.0.0.0", "127.0.0.1", "::1"], s.toList.head? ≠ some 'a' := by
      decide +kernel
    apply heads _ forbidden
    rw [String.toList_ofList]
    rfl
  apply validate_accepts mem (startsWith_append item rest) host
  · exact fun empty => other (empty ▸ List.mem_cons_self)
  · rw [lower_longHost u]
    exact fun forbidden => other (List.mem_cons_of_mem _ forbidden)
  · rfl

end Network

/-- An allowlist confines the executor exactly if each entry ends its authority. -/
theorem targets_guarded_iff (r : ExecutorRules) (u : AddressText.UnicodeRules r.text) (allowlist : List String) :
    Guarded r allowlist ↔ ∀ item ∈ allowlist, isEnded item = true := by
  constructor
  · intro guarded item mem
    by_contra open_
    obtain ⟨n, longest⟩ : ∃ n, ∀ item ∈ allowlist, ∀ host ∈ (urlparse r.text item).2, host.length ≤ n := by
      refine ⟨(allowlist.map fun item => ((urlparse r.text item).2.getD "").length).sum, ?_⟩
      intro item mem host named
      have one := List.le_sum_of_mem (List.mem_map_of_mem
        (f := fun item => ((urlparse r.text item).2.getD "").length) mem)
      rw [named] at one
      exact one
    have host := open_host (t := r.text) (Bool.eq_false_iff.mpr open_) n
    rw [lower_longHost u] at host
    obtain ⟨item', mem', same⟩ := (guarded ⟨allowlist, 0, publicNetwork r⟩ ⟨none, false, fun a _ => a,
      fun _ => .none, fun _ => .response none 200 0 .none⟩ 0 _ "GET" rfl rfl (open_accepted u mem host)).1
    have long := longest item' mem' _ (same ▸ host)
    rw [String.length_ofList] at long
    exact absurd long (Nat.not_le.mpr (by rw [longHost, List.length_replicate]; exact Nat.lt_succ_self n))
  · intro ended x o depth target httpMethod same parse accepted
    have from_entry (target : String) (accepted : validateOutboundTarget r x target = .ok ()) :
        ∃ item ∈ allowlist, urlparse r.text target = urlparse r.text item := by
      obtain ⟨item, mem, rest, rfl⟩ := validate_begins accepted
      rw [same] at mem
      exact ⟨item, mem, urlparse_append (ended item mem) rest⟩
    refine ⟨from_entry target accepted, fun hop mem => ?_, dispatch_length _ _ _ _⟩
    exact from_entry hop (dispatch_accepted _ _ _ accepted hop mem)

section Samples

theorem github_guarded : Guarded sampleRules ["https://api.github.com/repos/"] :=
  (targets_guarded_iff sampleRules (AddressText.unicodeRules_ascii _) _).mpr (by decide +kernel)

/-- An accepted target with another host. -/
theorem not_guarded_of {allowlist : List String} (target : String)
    (accepted : validateOutboundTarget sampleRules ⟨allowlist, 65536, publicNetwork sampleRules⟩ target = .ok ())
    (other : ∀ item ∈ allowlist, urlparse sampleRules.text target ≠ urlparse sampleRules.text item) :
    ¬Guarded sampleRules allowlist := by
  intro guarded
  obtain ⟨item, mem, same⟩ := (guarded ⟨allowlist, 65536, publicNetwork sampleRules⟩
    ⟨none, false, fun a _ => a, fun _ => .none, fun _ => .response none 200 0 .none⟩ 0 target "GET" rfl rfl
    accepted).1
  exact other item mem same

/-- The default list accepts the name of another fund, and a host without a slash behind it the
URL of another host. -/
theorem defaults_not_guarded :
    ¬Guarded sampleRules defaultAllowlist ∧ ¬Guarded sampleRules ["https://httpbin.org"] ∧
    urlparse sampleRules.text "https://httpbin.org@evil.example/" = ("https", some "evil.example") := by
  refine ⟨not_guarded_of "sandbox://market_index_fund_2" ?_ ?_,
    not_guarded_of "https://httpbin.org@evil.example/" ?_ ?_, ?_⟩
  · decide +kernel
  · decide +kernel
  · decide +kernel
  · decide +kernel
  · decide +kernel

end Samples

end OutboundTargets
