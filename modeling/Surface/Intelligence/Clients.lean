import Surface.Intelligence.Lookup

/-!
# Surface.Intelligence.Clients

The HTTP clients of the intelligence sources. A client is pinned to the addresses that its host was
resolved to first, and they are kept by host.

* `validatedDestinations_ok`: an answer is taken as a whole, and only when all of it is public.
* `clientFor_cases`: what one call can do to the clients that are kept.
* `clientFor_public`: after any calls, whatever the resolver answered to them, a client connects
  to public addresses only, and stays the first one of its host.
-/

namespace Surface

def maxDnsAddresses : Nat := 8

inductive ClientPolicy where
  | publicHttpsPinnedDnsNoProxyNoRedirect
  /-- Compiled for tests alone. -/
  | fixtureHttpPinnedDnsNoProxyNoRedirect
deriving DecidableEq

/-- A client, as it is configured: `addresses` is what `hostname` resolves to. -/
structure Client where
  requestTimeout : Nat
  redirects : Bool
  proxies : Bool
  hostname : String
  addresses : List SocketAddr
  httpsOnly : Bool
deriving DecidableEq

structure PinnedClients where
  requestTimeout : Nat
  clients : OrdMap String Client
  policy : ClientPolicy

/-- What asking the resolver comes to, under the token, the deadline and the request timeout. -/
inductive Resolution where
  | cancelled
  | deadline
  | timeout
  | failed
  | answer (addresses : List SocketAddr)

/-- One call: the host of its URL, what the resolver would come to this time, and whether a client
could be built. -/
structure ClientCall where
  host : Option String
  resolution : Resolution
  builds : Bool

def Resolution.addresses : Resolution → Except FetchError (List SocketAddr)
  | cancelled => .error .cancelled
  | deadline => .error .deadline
  | timeout => .error .timeout
  | failed => .error .resolution
  | answer addresses => .ok addresses

def validatedDestinations (addresses : List SocketAddr) (policy : ClientPolicy) :
    Except FetchError (List SocketAddr) :=
  let addresses := OrdSet.ofList (addresses.map SocketAddr.ip)
  if addresses.isEmpty = true ∨ maxDnsAddresses < addresses.size then .error .resolution
  else if policy = .publicHttpsPinnedDnsNoProxyNoRedirect ∧
      addresses.toList.any (fun address => !address.isPublicDestination) = true then
    .error .destination
  else .ok (addresses.toList.map fun address => ⟨address, 0⟩)

def buildClient (hostname : String) (addresses : List SocketAddr) (requestTimeout : Nat)
    (policy : ClientPolicy) (builds : Bool) : Except FetchError Client :=
  if builds = true then
    .ok
      { requestTimeout := requestTimeout
        redirects := false
        proxies := false
        hostname := hostname
        addresses := addresses
        httpsOnly := decide (policy = .publicHttpsPinnedDnsNoProxyNoRedirect) }
  else .error .request

namespace PinnedClients

def new (requestTimeout : Nat) : PinnedClients :=
  ⟨requestTimeout, .empty, .publicHttpsPinnedDnsNoProxyNoRedirect⟩

/-- The client for a host that has none yet. -/
def resolve (clients : PinnedClients) (hostname : String) (call : ClientCall) :
    Except FetchError Client :=
  match call.resolution.addresses with
  | .error error => .error error
  | .ok addresses =>
    match validatedDestinations addresses clients.policy with
    | .error error => .error error
    | .ok addresses =>
      buildClient hostname addresses clients.requestTimeout clients.policy call.builds

def clientFor (clients : PinnedClients) (call : ClientCall) :
    Except FetchError Client × PinnedClients :=
  match call.host with
  | none => (.error .request, clients)
  | some hostname =>
    match clients.clients.get hostname with
    | some client => (.ok client, clients)
    | none =>
      match clients.resolve hostname call with
      | .error error => (.error error, clients)
      | .ok client =>
        (.ok client, { clients with clients := clients.clients.insert hostname client })

/-- The clients that are kept after one call after the other. -/
def after (clients : PinnedClients) (calls : List ClientCall) : PinnedClients :=
  calls.foldl (fun clients call => (clients.clientFor call).2) clients

end PinnedClients

/-! ## Answers -/

/-- The distinct addresses of an answer that was taken. -/
structure PublicDestinations (addresses : List SocketAddr) : Prop where
  ips : ∃ ips : List IpAddr, addresses = ips.map (fun ip => ⟨ip, 0⟩) ∧ ips.Nodup ∧
    1 ≤ ips.length ∧ ips.length ≤ maxDnsAddresses ∧ ∀ ip ∈ ips, IpAddr.Permitted ip

theorem validatedDestinations_ok {answer addresses : List SocketAddr}
    (h : validatedDestinations answer .publicHttpsPinnedDnsNoProxyNoRedirect = .ok addresses) :
    PublicDestinations addresses ∧ ∀ address ∈ answer, IpAddr.Permitted address.ip := by
  simp only [validatedDestinations, true_and] at h
  split at h
  · cases h
  · rename_i hsize
    split at h
    · cases h
    · rename_i hpublic
      cases h
      rw [not_or, Nat.not_lt, Bool.not_eq_true, OrdSet.isEmpty, List.isEmpty_eq_false_iff] at hsize
      simp only [List.any_eq_true, not_exists, not_and, Bool.not_eq_true, Bool.not_eq_false']
        at hpublic
      have hpermitted : ∀ ip ∈ (OrdSet.ofList (answer.map SocketAddr.ip)).toList,
          IpAddr.Permitted ip := fun ip hip => IpAddr.isPublicDestination_iff.mp (hpublic ip hip)
      refine ⟨⟨_, rfl, OrdSet.nodup _, List.length_pos_of_ne_nil hsize.1, hsize.2, hpermitted⟩, ?_⟩
      intro address haddress
      exact hpermitted address.ip (OrdSet.mem_ofList.mpr (List.mem_map_of_mem haddress))

example : validatedDestinations [⟨.ofOctets 9 9 9 9, 443⟩, ⟨.ofOctets 8 8 8 8, 443⟩,
    ⟨.ofOctets 9 9 9 9, 443⟩] .publicHttpsPinnedDnsNoProxyNoRedirect =
      .ok [⟨.ofOctets 8 8 8 8, 0⟩, ⟨.ofOctets 9 9 9 9, 0⟩] := by rfl

theorem validatedDestinations_error {answer : List SocketAddr}
    (h : ∃ address ∈ answer, ¬IpAddr.Permitted address.ip) :
    ∃ error, validatedDestinations answer .publicHttpsPinnedDnsNoProxyNoRedirect = .error error ∧
      (error = .resolution ∨ error = .destination) := by
  obtain ⟨address, haddress, hout⟩ := h
  cases hresult : validatedDestinations answer .publicHttpsPinnedDnsNoProxyNoRedirect with
  | ok addresses => exact absurd ((validatedDestinations_ok hresult).2 address haddress) hout
  | error error =>
    refine ⟨error, rfl, ?_⟩
    unfold validatedDestinations at hresult
    simp only at hresult
    split at hresult
    · cases hresult
      exact .inl rfl
    · split at hresult
      · cases hresult
        exact .inr rfl
      · cases hresult

/-! ## One call -/

variable {clients : PinnedClients} {call : ClientCall} {client : Client} {hostname : String}

/-- A client for a host that connects to public addresses only. -/
structure Client.PublicFor (client : Client) (hostname : String) : Prop where
  hostname : client.hostname = hostname
  httpsOnly : client.httpsOnly = true
  redirects : client.redirects = false
  proxies : client.proxies = false
  destinations : PublicDestinations client.addresses

theorem resolve_ok (hpolicy : clients.policy = .publicHttpsPinnedDnsNoProxyNoRedirect)
    (h : clients.resolve hostname call = .ok client) : client.PublicFor hostname := by
  unfold PinnedClients.resolve at h
  split at h
  · cases h
  · split at h
    · cases h
    · rename_i addresses hvalidated
      unfold buildClient at h
      split at h
      · cases h
        rw [hpolicy] at hvalidated
        exact ⟨rfl, decide_eq_true hpolicy, rfl, rfl, (validatedDestinations_ok hvalidated).1⟩
      · cases h

theorem resolve_error (hpolicy : clients.policy = .publicHttpsPinnedDnsNoProxyNoRedirect)
    {answer : List SocketAddr} (hanswer : call.resolution = .answer answer)
    (hout : ∃ address ∈ answer, ¬IpAddr.Permitted address.ip) (hostname : String) :
    ∃ error, clients.resolve hostname call = .error error ∧
      (error = .resolution ∨ error = .destination) := by
  obtain ⟨error, herror, hkind⟩ := validatedDestinations_error hout
  refine ⟨error, ?_, hkind⟩
  rw [PinnedClients.resolve, hanswer, Resolution.addresses, hpolicy]
  simp only [herror]

/-- A call fails and keeps what there is, finds a client that is kept, or keeps a new one. -/
theorem clientFor_cases (clients : PinnedClients) (call : ClientCall) :
    (∃ error, clients.clientFor call = (.error error, clients)) ∨
    (∃ hostname client, call.host = some hostname ∧ clients.clients.get hostname = some client ∧
      clients.clientFor call = (.ok client, clients)) ∨
    ∃ hostname client, call.host = some hostname ∧ clients.clients.get hostname = none ∧
      clients.resolve hostname call = .ok client ∧ clients.clientFor call =
        (.ok client, { clients with clients := clients.clients.insert hostname client }) := by
  unfold PinnedClients.clientFor
  cases hhost : call.host with
  | none => exact .inl ⟨.request, rfl⟩
  | some hostname =>
    cases hget : clients.clients.get hostname with
    | some client => exact .inr (.inl ⟨hostname, client, rfl, hget, by simp only [hget]⟩)
    | none =>
      cases hresolve : clients.resolve hostname call with
      | error error => exact .inl ⟨error, by simp only [hget, hresolve]⟩
      | ok client =>
        exact .inr (.inr ⟨hostname, client, rfl, hget, hresolve, by simp only [hget, hresolve]⟩)

/-- The production policy, and only public clients are kept. -/
structure PinnedClients.Public (clients : PinnedClients) : Prop where
  policy : clients.policy = .publicHttpsPinnedDnsNoProxyNoRedirect
  clients : ∀ hostname client, clients.clients.get hostname = some client →
    client.PublicFor hostname

theorem PinnedClients.public_new (requestTimeout : Nat) : (new requestTimeout).Public :=
  ⟨rfl, fun hostname client h => by rw [new, OrdMap.get_empty] at h; cases h⟩

theorem PinnedClients.Public.clientFor (hpublic : clients.Public) (call : ClientCall) :
    (clients.clientFor call).2.Public := by
  rcases clientFor_cases clients call with ⟨error, h⟩ | ⟨hostname, client, -, -, h⟩ |
    ⟨hostname, client, -, -, hresolve, h⟩
  · rw [h]
    exact hpublic
  · rw [h]
    exact hpublic
  · rw [h]
    refine ⟨hpublic.policy, fun other kept hget => ?_⟩
    rw [OrdMap.get_insert] at hget
    split at hget
    · rename_i hother
      cases hget
      rw [hother]
      exact resolve_ok hpublic.policy hresolve
    · exact hpublic.clients other kept hget

theorem clientFor_pinned (hpublic : clients.Public) (h : (clients.clientFor call).1 = .ok client) :
    ∃ hostname, call.host = some hostname ∧ client.PublicFor hostname ∧
      (clients.clientFor call).2.clients.get hostname = some client := by
  rcases clientFor_cases clients call with ⟨error, hcall⟩ | ⟨hostname, kept, hhost, hget, hcall⟩ |
    ⟨hostname, new, hhost, -, hresolve, hcall⟩
  · rw [hcall] at h
    cases h
  · rw [hcall] at h ⊢
    cases h
    exact ⟨hostname, hhost, hpublic.clients hostname client hget, hget⟩
  · rw [hcall] at h ⊢
    cases h
    exact ⟨hostname, hhost, resolve_ok hpublic.policy hresolve,
      (OrdMap.get_insert ..).trans (if_pos rfl)⟩

/-- A client that is kept is never replaced. -/
theorem clientFor_get (h : clients.clients.get hostname = some client) (call : ClientCall) :
    (clients.clientFor call).2.clients.get hostname = some client := by
  rcases clientFor_cases clients call with ⟨error, hcall⟩ | ⟨other, kept, -, -, hcall⟩ |
    ⟨other, new, -, hnone, -, hcall⟩
  · rw [hcall]
    exact h
  · rw [hcall]
    exact h
  · rw [hcall]
    refine (OrdMap.get_insert ..).trans ((if_neg fun hsame => ?_).trans h)
    rw [← hsame, h] at hnone
    cases hnone

/-! ## Any calls -/

theorem PinnedClients.Public.after (hpublic : clients.Public) (calls : List ClientCall) :
    (clients.after calls).Public := by
  induction calls generalizing clients with
  | nil => exact hpublic
  | cons call calls ih => exact ih (hpublic.clientFor call)

theorem after_get (h : clients.clients.get hostname = some client) (calls : List ClientCall) :
    (clients.after calls).clients.get hostname = some client := by
  induction calls generalizing clients with
  | nil => exact h
  | cons call calls ih => exact ih (clientFor_get h call)

/-- What one call comes to when its clients are kept as they are. -/
structure PublicCall (clients : PinnedClients) (call : ClientCall) : Prop where
  pinned : ∀ client, (clients.clientFor call).1 = .ok client →
    ∃ hostname, call.host = some hostname ∧ client.PublicFor hostname
  rejected : ∀ hostname answer, call.host = some hostname →
    clients.clients.get hostname = none → call.resolution = .answer answer →
    (∃ address ∈ answer, ¬IpAddr.Permitted address.ip) →
    ∃ error, clients.clientFor call = (.error error, clients) ∧
      (error = .resolution ∨ error = .destination)
  first : ∀ client, (clients.clientFor call).1 = .ok client → ∀ later call',
    call'.host = call.host →
    (((clients.clientFor call).2.after later).clientFor call').1 = .ok client
  masks : ∀ address,
    IpAddr.isPublicDestinationChecked address = some (IpAddr.isPublicDestination address)

theorem clientFor_public (requestTimeout : Nat) (before : List ClientCall) (call : ClientCall) :
    PublicCall ((PinnedClients.new requestTimeout).after before) call := by
  have hpublic := (PinnedClients.public_new requestTimeout).after before
  generalize (PinnedClients.new requestTimeout).after before = clients at hpublic
  refine ⟨fun client h => ?_, ?_, ?_, IpAddr.isPublicDestinationChecked_eq⟩
  · obtain ⟨hostname, hhost, hfor, -⟩ := clientFor_pinned hpublic h
    exact ⟨hostname, hhost, hfor⟩
  · intro hostname answer hhost hnone hanswer hout
    obtain ⟨error, herror, hkind⟩ := resolve_error hpublic.policy hanswer hout hostname
    refine ⟨error, ?_, hkind⟩
    rw [PinnedClients.clientFor, hhost]
    simp only [hnone, herror]
  · intro client h later call' hsame
    obtain ⟨hostname, hhost, -, hget⟩ := clientFor_pinned hpublic h
    rw [PinnedClients.clientFor, hsame, hhost]
    simp only [after_get hget later]

end Surface
