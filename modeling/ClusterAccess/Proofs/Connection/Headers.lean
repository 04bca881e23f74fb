import ClusterAccess.Proofs.Connection.Material

/-!
# The headers of a client

A client keeps one value for each header name, so a profile with several groups is refused before
anything is stored. Of any other profile a client sends the user agent and whom the profile acts
for; with the authorization these are the headers that the profile lists (`client_headers_agree`).
-/

namespace ClusterAccess.Connection

open Profile (authorizationHeader impersonateUserHeader impersonateGroupHeader)

abbrev Header := String × Value

/-- Set a header. A name that is there keeps its place and gets the new value. -/
def setHeader (headers : List Header) (h : Header) : List Header :=
  if headers.any fun other => other.1 == h.1 then
    headers.map fun other => if other.1 = h.1 then h else other
  else headers ++ [h]

def authorization (c : Configuration) : List Header :=
  c.authorization.toList.map fun value => (authorizationHeader, .str value)

/-- The headers that name the user and the groups that a profile acts for. -/
def impersonation (p : Profile) : List Header :=
  (if p.impersonate.truthy then [(impersonateUserHeader, p.impersonate)] else []) ++
    p.groups.map fun g => (impersonateGroupHeader, g)

def namesUser (h : Header) : Bool := h.1 == impersonateUserHeader

def namesGroup (h : Header) : Bool := h.1 == impersonateGroupHeader

/-! ### Setting headers one after the other -/

theorem setHeader_absent {headers : List Header} {h : Header}
    (absent : ∀ other ∈ headers, other.1 ≠ h.1) : setHeader headers h = headers ++ [h] := by
  have none : (headers.any fun other => other.1 == h.1) = false := by
    simpa using absent
  unfold setHeader
  rw [none, if_neg Bool.false_ne_true]

/-- Headers with names of their own are added in their order. -/
theorem setHeaders_distinct {headers added : List Header}
    (distinct : ((headers ++ added).map Prod.fst).Nodup) :
    added.foldl setHeader headers = headers ++ added := by
  induction added generalizing headers with
  | nil => exact (List.append_nil headers).symm
  | cons h rest ih =>
    have absent : ∀ other ∈ headers, other.1 ≠ h.1 := by
      rw [List.map_append, List.nodup_append] at distinct
      intro other member
      exact distinct.2.2 _ (List.mem_map_of_mem member) _ List.mem_cons_self
    rw [List.foldl_cons, setHeader_absent absent, ih (by simpa using distinct)]
    simp

/-! ### The headers of a profile -/

section Profiles

variable {p : Profile} {h : Header}

theorem mem_impersonation (member : h ∈ impersonation p) :
    namesUser h = true ∨ namesGroup h = true := by
  rcases List.mem_append.mp member with user | group
  · split at user
    · rw [List.mem_singleton.mp user]
      exact .inl rfl
    · cases user
  · obtain ⟨g, _, rfl⟩ := List.mem_map.mp group
    exact .inr rfl

theorem impersonation_groups (p : Profile) :
    (impersonation p).filter namesGroup = p.groups.map fun g => (impersonateGroupHeader, g) := by
  have groups : (p.groups.map fun g => (impersonateGroupHeader, g)).filter namesGroup =
      p.groups.map fun g => (impersonateGroupHeader, g) := by
    rw [List.filter_eq_self]
    intro h member
    obtain ⟨g, _, rfl⟩ := List.mem_map.mp member
    rfl
  unfold impersonation
  rw [List.filter_append, groups]
  split <;> rfl

theorem impersonation_distinct (single : p.groups.length ≤ 1) :
    ((impersonation p).map Prod.fst).Nodup := by
  have user : List.Sublist ((if p.impersonate.truthy then
      [(impersonateUserHeader, p.impersonate)] else []).map Prod.fst) [impersonateUserHeader] := by
    split
    · exact List.Sublist.refl _
    · exact List.nil_sublist _
  have group : List.Sublist ((p.groups.map fun g => (impersonateGroupHeader, g)).map Prod.fst)
      [impersonateGroupHeader] := by
    rcases groups : p.groups with _ | ⟨g, _ | ⟨other, rest⟩⟩
    · exact List.nil_sublist _
    · exact List.Sublist.refl _
    · simp [groups] at single
  have both : [impersonateUserHeader, impersonateGroupHeader].Nodup := by decide
  unfold impersonation
  rw [List.map_append]
  exact (user.append group).nodup both

theorem clientHeaders_eq (p : Profile) :
    clientHeaders p = (userAgentHeader, .str p.userAgent) :: impersonation p := rfl

theorem clientHeaders_distinct (single : p.groups.length ≤ 1) :
    ((clientHeaders p).map Prod.fst).Nodup := by
  rw [clientHeaders_eq, List.map_cons, List.nodup_cons]
  refine ⟨fun member => ?_, impersonation_distinct single⟩
  obtain ⟨h, member, named⟩ := List.mem_map.mp member
  replace named : h.1 = userAgentHeader := named
  rcases mem_impersonation member with user | group
  · rw [namesUser, named] at user
    cases user
  · rw [namesGroup, named] at group
    cases group

/-- The headers of a client are those that are set one after the other, whatever user agent it
starts with. -/
theorem clientHeaders_set (single : p.groups.length ≤ 1) (initial : Value) :
    (clientHeaders p).foldl setHeader [(userAgentHeader, initial)] = clientHeaders p := by
  have replaced : setHeader [(userAgentHeader, initial)] (userAgentHeader, .str p.userAgent) =
      [(userAgentHeader, .str p.userAgent)] := by
    simp [setHeader]
  rw [clientHeaders_eq, List.foldl_cons, replaced]
  exact setHeaders_distinct (clientHeaders_distinct single)

theorem clientHeaders_impersonation (p : Profile) :
    ((clientHeaders p).filter fun h => namesUser h || namesGroup h) = impersonation p := by
  rw [clientHeaders_eq, List.filter_cons_of_neg Bool.false_ne_true, List.filter_eq_self]
  intro h member
  simpa using mem_impersonation member

theorem authHeaders_eq {store : KeyStore} {c : Configuration} (built : (build store p).2 = .ok c) :
    p.authHeaders = authorization c ++ impersonation p := by
  obtain ⟨_, _, credentials, _⟩ := build_ok built
  unfold Profile.authHeaders authorization
  rw [List.append_assoc]
  refine congrArg (· ++ impersonation p) ?_
  cases given : p.credentials with
  | header value =>
    rw [given] at credentials
    rw [credentials.1]
    rfl
  | pem certificate privateKey =>
    rw [given] at credentials
    rw [credentials.1]
    rfl

/-- There is one group header for each group, also for groups that occur twice. -/
theorem authHeaders_groups (p : Profile) :
    p.authHeaders.filter namesGroup = p.groups.map fun g => (impersonateGroupHeader, g) := by
  unfold Profile.authHeaders
  rw [List.append_assoc, List.filter_append]
  cases p.credentials <;> exact impersonation_groups p

theorem step_refused {s : Session} (several : 1 < p.groups.length) :
    s.step (.connect p) = (s, Traced.fail tooManyGroups) := by
  rw [Session.step_connect]
  unfold connect
  rw [if_pos several]
  rfl

theorem connect_headers {store : KeyStore} {client : Client}
    (connected : (connect store p).2.result = .ok client) : client.headers = clientHeaders p := by
  unfold connect at connected
  split at connected
  · cases connected
  · split at connected
    · cases connected
    · obtain ⟨_, _, h⟩ := Traced.result_bind_ok.mp connected
      rw [← Except.ok.inj h]

theorem connect_of_build {store : KeyStore} {c : Configuration} (single : p.groups.length ≤ 1)
    (built : (build store p).2 = .ok c) : ∃ client, (connect store p).2.result = .ok client := by
  unfold connect
  rw [if_neg (by omega)]
  split
  · rename_i failed
    rw [failed] at built
    cases built
  · exact ⟨_, rfl⟩

end Profiles

/-! ### Clients -/

/-- The headers that are set for a client, and the authorization of its configuration, are those
that the profile lists. -/
structure SendsHeaders (client : Client) (p : Profile) : Prop where
  listed : p.authHeaders = authorization client.configuration ++
    client.headers.filter fun h => namesUser h || namesGroup h
  only : ∀ h ∈ client.headers, h = (userAgentHeader, .str p.userAgent) ∨ namesUser h = true ∨
    namesGroup h = true
  distinct : (client.headers.map Prod.fst).Nodup
  set : ∀ initial, client.headers =
    ((userAgentHeader, .str p.userAgent) :: impersonation p).foldl setHeader
      [(userAgentHeader, initial)]

/-- A profile is refused for its groups by a fault of the configuration that leaves nothing
behind. -/
structure RefusesGroups (s : Session) (p : Profile) : Prop where
  fault : ∃ f : Fault, (s.step (.connect p)).2.result = .error (.fault f) ∧
    f.rank = .configuration
  silent : (s.step (.connect p)).2.records = []
  untouched : (s.step (.connect p)).1 = s

/-- A client for one group at most sends what its profile lists, and there is none for more groups.
The profile itself lists all of them. -/
theorem client_headers_agree (s : Session) (p : Profile) :
    (∀ client, (s.step (.connect p)).2.result = .ok (.client client) → SendsHeaders client p) ∧
    (p.groups.length ≤ 1 → ∀ c, (build s.store p).2 = .ok c →
      ∃ client, (s.step (.connect p)).2.result = .ok (.client client)) ∧
    (1 < p.groups.length → RefusesGroups s p) ∧
    p.authHeaders.filter namesGroup = p.groups.map fun g => (impersonateGroupHeader, g) := by
  refine ⟨fun client connected => ?sent, fun single c built => ?made, fun several => ?refused,
    authHeaders_groups p⟩
  case sent =>
    rw [Session.step_connect] at connected
    obtain ⟨c, ended, same⟩ := Traced.result_bind_ok.mp connected
    obtain rfl := Reply.client.inj (Except.ok.inj same)
    obtain ⟨built, single⟩ := Session.connect_ok ended
    have headers := connect_headers ended
    refine ⟨?_, fun h member => ?_, ?_, fun initial => ?_⟩
    · rw [authHeaders_eq built, headers, clientHeaders_impersonation]
    · rw [headers, clientHeaders_eq] at member
      exact (List.mem_cons.mp member).imp_right mem_impersonation
    · rw [headers]
      exact clientHeaders_distinct (by omega)
    · rw [headers]
      exact (clientHeaders_set (by omega) initial).symm
  case made =>
    obtain ⟨client, ended⟩ := connect_of_build single built
    rw [Session.step_connect]
    exact ⟨client, Traced.result_bind_ok.mpr ⟨client, ended, rfl⟩⟩
  case refused =>
    constructor
    · rw [step_refused several]
      exact ⟨_, rfl, rfl⟩
    · rw [step_refused several]
      rfl
    · rw [step_refused several]

/-- A profile that acts as a user with the given groups. -/
def jane (groups : List Value) : Profile :=
  { endpoint := "https://h", credentials := .bearer "t", trust := none, userAgent := "ua",
    verify := true, impersonate := .str "jane", groups := groups }

theorem one_group_sent_two_refused :
    (∃ client, (({} : Session).step (.connect (jane [.str "a"]))).2.result =
        .ok (.client client) ∧ SendsHeaders client (jane [.str "a"])) ∧
      RefusesGroups {} (jane [.str "a", .str "a"]) := by
  refine ⟨⟨_, rfl, (client_headers_agree {} (jane [.str "a"])).1 _ rfl⟩, ?_⟩
  exact (client_headers_agree {} (jane [.str "a", .str "a"])).2.2.1 (by decide)

end ClusterAccess.Connection
