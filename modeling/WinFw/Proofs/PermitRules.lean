import WinFw.Proofs.Pool
import WinFw.Model.FwContext
import Mathlib.Data.List.Forall2

/-! # The relay and allowed-endpoint permit rules

`AppendRelayRules` and `AppendAllowedEndpointRules` parse each address and build one pooled rule
each. For endpoint lists within the pools, applying the rule calls `addFilter` once per endpoint,
in list order, and the
filter of the endpoint that is the `k`-th of its family carries key `k` of that family's array: a
registered filter key, distinct from every other key of the same `apply`. A relay's sublayer
follows its own port. Beyond the pools the source reads past the key arrays before its bound check
fires; the rule then never returns `true`.
-/

namespace WinFw

/-- The outbound connect layer of an address family. -/
def connectLayer : AddressType → Layer
  | .ipv4 => .aleAuthConnectV4
  | .ipv6 => .aleAuthConnectV6

/-- How many of the first `i` parsed addresses are of family `type`. -/
def familyRank (ips : List IpAddress) (type : AddressType) (i : Nat) : Nat :=
  (ips.take i).countP fun ip => ip.type == type

/-- A key of the current version's filters is registered under every qualifier. -/
theorem mem_detailedRegistry {key : GUID} (current : key ∈ MullvadGuids.currentFilters)
    (qualifier : IdentityQualifier) :
    (WfpObjectType.filter, key) ∈ MullvadGuids.detailedRegistry qualifier := by
  simp [MullvadGuids.detailedRegistry, current]

/-- A current identity is listed whatever the qualifier asks for besides. -/
theorem detailedRegistry_of_current {identity : WfpObjectType × GUID}
    (current : identity ∈ MullvadGuids.detailedRegistry ⟨false, false⟩)
    (qualifier : IdentityQualifier) : identity ∈ MullvadGuids.detailedRegistry qualifier := by
  simp only [MullvadGuids.detailedRegistry, Bool.false_eq_true, if_false, List.nil_append,
    List.append_nil] at current
  unfold MullvadGuids.detailedRegistry
  exact List.mem_append_left _ (List.mem_append_right _ current)

theorem relayGuids_current (type : AddressType) :
    ∀ key ∈ PermitVpnRelay.pool.guids type, key ∈ MullvadGuids.currentFilters := by
  cases type <;> decide

theorem endpointGuids_current (type : AddressType) :
    ∀ key ∈ PermitEndpoint.pool.guids type, key ∈ MullvadGuids.currentFilters := by
  cases type <;> decide

theorem Except.map_eq_ok {ε α β : Type} {f : α → β} {x : Except ε α} {b : β}
    (mapped : x.map f = .ok b) : ∃ a, x = .ok a ∧ f a = b := by
  cases x with
  | error _ => cases mapped
  | ok a => exact ⟨a, rfl, by cases mapped; rfl⟩

theorem Except.bind_eq_ok {ε α β : Type} {f : α → Except ε β} {x : Except ε α} {b : β}
    (bound : x.bind f = .ok b) : ∃ a, x = .ok a ∧ f a = .ok b := by
  cases x with
  | error _ => cases bound
  | ok a => exact ⟨a, rfl, bound⟩

section MapM

variable {α β γ ε : Type}

/-- A `mapM` in `Except` over a cons succeeds exactly when the head and then the tail do. -/
theorem mapM_cons_eq_ok {f : α → Except ε β} {x : α} {xs : List α} {ys : List β} :
    (x :: xs).mapM f = .ok ys ↔ ∃ y rest, f x = .ok y ∧ xs.mapM f = .ok rest ∧ ys = y :: rest := by
  rw [List.mapM_cons]
  cases f x with
  | error => simp [bind, Except.bind]
  | ok y =>
    cases xs.mapM f with
    | error => simp [bind, Except.bind]
    | ok rest => simp [bind, Except.bind, pure, Except.pure, eq_comm]

theorem mapM_nil_eq_ok {f : α → Except ε β} {ys : List β} (success : [].mapM f = .ok ys) :
    ys = [] := by
  rw [List.mapM_nil] at success
  cases success
  rfl

/-- A successful `mapM` in `Except` relates each input to its output. -/
theorem mapM_ok_forall₂ {f : α → Except ε β} :
    ∀ {xs : List α} {ys : List β}, xs.mapM f = .ok ys → List.Forall₂ (fun x y => f x = .ok y) xs ys
  | [], _, success => mapM_nil_eq_ok success ▸ .nil
  | _ :: _, _, success => by
    obtain ⟨_, _, head, tail, rfl⟩ := mapM_cons_eq_ok.mp success
    exact .cons head (mapM_ok_forall₂ tail)

/-- Once every input has parsed, building from each input and its parse succeeds. -/
theorem mapM_map_ok {parse : α → Except ε β} {build : α → β → γ} :
    ∀ {xs : List α} {ys : List β}, xs.mapM parse = .ok ys →
      xs.mapM (fun x => (parse x).map (build x)) = .ok (List.zipWith build xs ys)
  | [], _, parsed => by rw [mapM_nil_eq_ok parsed]; rfl
  | x :: _, _, parsed => by
    obtain ⟨y, _, head, tail, rfl⟩ := mapM_cons_eq_ok.mp parsed
    exact mapM_cons_eq_ok.mpr ⟨build x y, _, by rw [head]; rfl, mapM_map_ok tail, rfl⟩

/-- A `mapM` whose each success is built from the input and its parse yields the built list. -/
theorem mapM_ok_zipWith {f : α → Except ε γ} {parse : α → Except ε β} {build : α → β → γ}
    (same : ∀ {x y z}, f x = .ok z → parse x = .ok y → z = build x y) :
    ∀ {xs : List α} {ys : List β} {zs : List γ}, xs.mapM f = .ok zs → xs.mapM parse = .ok ys →
      zs = List.zipWith build xs ys
  | [], _, _, built, _ => by rw [mapM_nil_eq_ok built]; rfl
  | _ :: _, _, _, built, parsed => by
    obtain ⟨_, _, headBuilt, tailBuilt, rfl⟩ := mapM_cons_eq_ok.mp built
    obtain ⟨_, _, headParsed, tailParsed, rfl⟩ := mapM_cons_eq_ok.mp parsed
    rw [same headBuilt headParsed, mapM_ok_zipWith same tailBuilt tailParsed]
    rfl

end MapM

/-- Counting the endpoints built from parsed addresses counts the addresses. -/
theorem Pool.count_zipWith {α E : Type} (pool : Pool E) {build : α → IpAddress → E}
    (same : ∀ x ip, pool.ip (build x ip) = ip) (type : AddressType) :
    ∀ {xs : List α} {ips : List IpAddress}, ips.length ≤ xs.length →
      pool.count type (List.zipWith build xs ips) = ips.countP fun ip => ip.type == type
  | _, [], _ => by simp
  | [], _ :: _, short => absurd short (by simp)
  | _ :: _, ip :: _, short => by
    rw [List.zipWith_cons_cons, Pool.count_cons, same, List.countP_cons,
      Pool.count_zipWith pool same type (by simpa using short)]
    simp only [beq_iff_eq]

theorem Pool.count_zipWith_take {α E : Type} (pool : Pool E) {build : α → IpAddress → E}
    (same : ∀ x ip, pool.ip (build x ip) = ip) (type : AddressType) {xs : List α}
    {ips : List IpAddress} (length : ips.length = xs.length) (i : Nat) :
    pool.count type ((List.zipWith build xs ips).take i) = familyRank ips type i := by
  rw [List.take_zipWith, pool.count_zipWith same type (by simp [length]), familyRank]

/-- The `i`-th endpoint built from `xs` and their parses `ips`. -/
theorem getElem?_zipWith_some {α β γ : Type} {build : α → β → γ} {xs : List α} {ys : List β}
    {i : Nat} {x : α} {y : β} (atX : xs[i]? = some x) (atY : ys[i]? = some y) :
    (List.zipWith build xs ys)[i]? = some (build x y) := by
  simp [List.getElem?_zipWith, atX, atY]

/-- Address texts of the documentation ranges, alternating families, with the addresses they
denote. -/
def exampleAddresses : List (String × IpAddress) :=
  [("192.0.2.1", .ipv4 0xc0000201), ("2001:db8::1", .ipv6 0x20010db8000000000000000000000001),
    ("192.0.2.2", .ipv4 0xc0000202), ("2001:db8::2", .ipv6 0x20010db8000000000000000000000002),
    ("192.0.2.3", .ipv4 0xc0000203), ("2001:db8::3", .ipv6 0x20010db8000000000000000000000003),
    ("192.0.2.4", .ipv4 0xc0000204), ("2001:db8::4", .ipv6 0x20010db8000000000000000000000004)]

/-- A parser that knows the texts of `exampleAddresses` and throws on every other one, as the
string constructor of `wfp::IpAddress` throws on an unparsable address. -/
def exampleParse (text : String) : Except FwError IpAddress :=
  match exampleAddresses.lookup text with
  | some ip => .ok ip
  | none => .error (.error "unparsable address")

/-- Two relays of each family, interleaved; one IPv4 and one IPv6 relay are on the DNS port, and
some client paths are null. -/
def exampleRelays : List WinFwAllowedEndpoint :=
  [⟨[some "relay.exe", none], ⟨"192.0.2.1", 53, .udp⟩⟩, ⟨[], ⟨"2001:db8::1", 51820, .udp⟩⟩,
    ⟨[none], ⟨"192.0.2.2", 51820, .udp⟩⟩, ⟨[some "relay.exe"], ⟨"2001:db8::2", 53, .tcp⟩⟩]

/-- Endpoints built from parsed addresses that fit the pool: the loop installs `Pool.filters`, one
filter per endpoint, the `i`-th under the key its rank in its family selects. -/
theorem Pool.zipWith_filters {α E : Type} (pool : Pool E) {build : α → IpAddress → E}
    (same : ∀ x ip, pool.ip (build x ip) = ip) {xs : List α} {ips : List IpAddress}
    (length : ips.length = xs.length)
    (fits : ∀ type, ips.countP (fun ip => ip.type == type) ≤ pool.maxAllowedEndpoints) :
    (∀ engine, pool.loop engine (List.zipWith build xs ips) 0 0 =
        installFilters engine (pool.filters (List.zipWith build xs ips) 0 0)) ∧
      (pool.filters (List.zipWith build xs ips) 0 0).length = xs.length ∧
      ∀ i x ip, xs[i]? = some x → ips[i]? = some ip → ∃ key,
        (pool.guids ip.type)[familyRank ips ip.type i]? = some key ∧
        (pool.filters (List.zipWith build xs ips) 0 0)[i]? =
          some (pool.filter ip.type (build x ip) key) := by
  have fitsPool : pool.Fits (List.zipWith build xs ips) 0 0 := fun type => by
    rw [Pool.counter_zero, Nat.zero_add, pool.count_zipWith same type length.le]
    exact fits type
  refine ⟨fun engine => pool.loop_eq_installFilters engine _ 0 0 fitsPool,
    by simp [pool.filters_length fitsPool, length], fun i x ip atX atIp => ?_⟩
  have atBuilt : (List.zipWith build xs ips)[i]? = some (build x ip) :=
    getElem?_zipWith_some atX atIp
  obtain ⟨index, atEndpoint⟩ := List.getElem?_eq_some_iff.mp atBuilt
  obtain ⟨key, keyed, filtered⟩ := pool.filters_getElem? fitsPool index
  simp only [atEndpoint, same, Pool.counter_zero, Nat.zero_add,
    pool.count_zipWith_take same _ length] at keyed filtered
  exact ⟨key, keyed, filtered⟩

/-- The `PermitVpnRelay::Endpoint` that `relayEndpoint` builds once `relay`'s address parsed to
`ip`. -/
def relayOf (relay : WinFwAllowedEndpoint) (ip : IpAddress) : PermitVpnRelay.Endpoint :=
  { ip := ip
    port := relay.endpoint.port
    protocol := relay.endpoint.protocol
    clients := relay.clients.filterMap id
    sublayer := if dnsServerPort == relay.endpoint.port then .dns else .baseline }

@[simp] theorem relayPool_ip (relay : WinFwAllowedEndpoint) (ip : IpAddress) :
    PermitVpnRelay.pool.ip (relayOf relay ip) = ip := rfl

/-- The filter for `relay`, parsed to `ip` and the `rank`-th relay of its family: pool key `rank`,
registered, and the relay's layer, conditions and port-chosen sublayer. -/
def RelayFilterSpec (relay : WinFwAllowedEndpoint) (ip : IpAddress) (rank : Nat)
    (filter : Filter) : Prop :=
  (PermitVpnRelay.pool.guids ip.type)[rank]? = some filter.key ∧
  (∀ qualifier, (WfpObjectType.filter, filter.key) ∈ MullvadGuids.detailedRegistry qualifier) ∧
  filter.layer = connectLayer ip.type ∧
  filter.conditions = [.remoteIp ip, .remotePort relay.endpoint.port,
    .protocol relay.endpoint.protocol] ++ (relay.clients.filterMap id).map .application ∧
  filter.sublayer = if relay.endpoint.port = dnsServerPort then MullvadGuids.sublayerDns
    else MullvadGuids.sublayerBaseline

/-- Applying a `PermitVpnRelay` rule over `ruleEndpoints`, built from `relays` parsed to `ips`,
installs one filter per relay, in list order, each as `RelayFilterSpec` says, with distinct keys. -/
def PermitVpnRelaySpec (relays : List WinFwAllowedEndpoint) (ips : List IpAddress)
    (ruleEndpoints : List PermitVpnRelay.Endpoint) : Prop :=
  ∃ filters : List Filter,
    (∀ engine, PermitVpnRelay.apply engine ruleEndpoints = installFilters engine filters) ∧
    filters.length = relays.length ∧ (filters.map Filter.key).Nodup ∧
    ∀ i relay ip, relays[i]? = some relay → ips[i]? = some ip →
      ∃ filter, filters[i]? = some filter ∧ RelayFilterSpec relay ip (familyRank ips ip.type i) filter

/-- A relay's sublayer is decided by its own port alone. -/
theorem relayOf_sublayer (relay : WinFwAllowedEndpoint) (ip : IpAddress) :
    PermitVpnRelay.translateSublayer (relayOf relay ip).sublayer =
      if relay.endpoint.port = dnsServerPort then MullvadGuids.sublayerDns
      else MullvadGuids.sublayerBaseline := by
  by_cases dns : relay.endpoint.port = dnsServerPort
  · simp [relayOf, dns, PermitVpnRelay.translateSublayer]
  · have other : (dnsServerPort == relay.endpoint.port) = false := beq_false_of_ne (Ne.symm dns)
    simp [relayOf, dns, other, PermitVpnRelay.translateSublayer]

theorem relayFilter_spec (relay : WinFwAllowedEndpoint) (ip : IpAddress) (rank : Nat) (key : GUID)
    (keyed : (PermitVpnRelay.pool.guids ip.type)[rank]? = some key) :
    RelayFilterSpec relay ip rank (PermitVpnRelay.pool.filter ip.type (relayOf relay ip) key) := by
  have registered := relayGuids_current _ key (List.getElem?_mem keyed)
  unfold RelayFilterSpec
  cases ip <;> exact ⟨keyed, mem_detailedRegistry registered, rfl, rfl, relayOf_sublayer relay _⟩

/-- When every relay address parses and no family outgrows the pool, `AppendRelayRules` builds a
`PermitVpnRelay` rule that meets `PermitVpnRelaySpec`. -/
theorem permitVpnRelay_apply_spec (parseIpAddress : String → Except FwError IpAddress)
    (relays : List WinFwAllowedEndpoint) (ips : List IpAddress)
    (parsed : relays.mapM (fun relay => parseIpAddress relay.endpoint.ip) = .ok ips)
    (fits : ∀ type, ips.countP (fun ip => ip.type == type) ≤ 2) (ruleset : Ruleset) :
    ∃ ruleEndpoints, appendRelayRules parseIpAddress ruleset relays =
        .ok (ruleset ++ [.permitVpnRelay ruleEndpoints]) ∧
      PermitVpnRelaySpec relays ips ruleEndpoints := by
  have length := ((mapM_ok_forall₂ parsed).length_eq).symm
  have built : relays.mapM (relayEndpoint parseIpAddress) = .ok (List.zipWith relayOf relays ips) :=
    mapM_map_ok parsed
  refine ⟨_, by rw [appendRelayRules, built]; rfl, ?_⟩
  obtain ⟨installs, counted, keyed⟩ := PermitVpnRelay.pool.zipWith_filters relayPool_ip length fits
  refine ⟨_, installs, counted,
    PermitVpnRelay.pool.filters_keys_nodup (fun _ _ => rfl) (fun _ _ => rfl) (by decide),
    fun i relay ip atRelay atIp => ?_⟩
  obtain ⟨key, inPool, filtered⟩ := keyed i relay ip atRelay atIp
  exact ⟨_, filtered, relayFilter_spec relay ip _ key inPool⟩

/-- Two relays of each family, interleaved, fill the relay pool. -/
theorem permitVpnRelay_apply_spec_dnsRelay :
    exampleRelays.mapM (fun relay => exampleParse relay.endpoint.ip) =
        .ok ((exampleAddresses.take 4).map Prod.snd) ∧
      (∀ type, ((exampleAddresses.take 4).map Prod.snd).countP (fun ip => ip.type == type) ≤ 2) ∧
      ∃ ruleEndpoints, appendRelayRules exampleParse [] exampleRelays =
          .ok ([] ++ [.permitVpnRelay ruleEndpoints]) ∧
        PermitVpnRelaySpec exampleRelays ((exampleAddresses.take 4).map Prod.snd) ruleEndpoints :=
  ⟨rfl, fun type => by cases type <;> decide,
    permitVpnRelay_apply_spec exampleParse exampleRelays _ rfl
      (fun type => by cases type <;> decide) []⟩

/-- The `PermitEndpoint::Endpoint` that `allowedEndpoint` builds once `endpoint`'s address parsed
to `ip`. -/
def permitEndpointOf (endpoint : WinFwAllowedEndpoint) (ip : IpAddress) : PermitEndpoint.Endpoint :=
  ⟨ip, endpoint.endpoint.port, endpoint.endpoint.protocol, endpoint.clients.filterMap id⟩

/-- Copied client paths are the given ones, none of them null. -/
theorem clientPaths_ok {clients : List (Option String)} {paths : List String}
    (copied : clients.mapM clientPath = .ok paths) : clients = paths.map some := by
  have related := (mapM_ok_forall₂ copied).imp fun (client : Option String) (path : String)
    (ok : clientPath client = .ok path) => show client = some path by
      cases client <;> simp_all [clientPath]
  rw [← List.forall₂_eq_eq_eq]
  exact List.forall₂_map_right_iff.mpr related

theorem allowedEndpoint_ok {parseIpAddress : String → Except FwError IpAddress}
    {endpoint : WinFwAllowedEndpoint} {ip : IpAddress} {built : PermitEndpoint.Endpoint}
    (success : allowedEndpoint parseIpAddress endpoint = .ok built)
    (parsedIp : parseIpAddress endpoint.endpoint.ip = .ok ip) : built = permitEndpointOf endpoint ip := by
  unfold allowedEndpoint at success
  cases copied : endpoint.clients.mapM clientPath with
  | error _ => rw [copied] at success; cases success
  | ok paths =>
    simp only [copied, Except.bind, parsedIp, Except.map, Except.ok.injEq] at success
    subst success
    simp [permitEndpointOf, clientPaths_ok copied, List.filterMap_map]

@[simp] theorem endpointPool_ip (endpoint : WinFwAllowedEndpoint) (ip : IpAddress) :
    PermitEndpoint.pool.ip (permitEndpointOf endpoint ip) = ip := rfl

/-- The filter for `endpoint`, parsed to `ip` and the `rank`-th of its family: pool key `rank`,
registered and no relay key, with the endpoint's layer, baseline sublayer and conditions. -/
def EndpointFilterSpec (endpoint : WinFwAllowedEndpoint) (ip : IpAddress) (rank : Nat)
    (filter : Filter) : Prop :=
  (PermitEndpoint.pool.guids ip.type)[rank]? = some filter.key ∧
  (∀ qualifier, (WfpObjectType.filter, filter.key) ∈ MullvadGuids.detailedRegistry qualifier) ∧
  filter.key ∉ PermitVpnRelay.endpointIpv4Guids ++ PermitVpnRelay.endpointIpv6Guids ∧
  filter.layer = connectLayer ip.type ∧
  filter.sublayer = MullvadGuids.sublayerBaseline ∧
  filter.conditions = [.remoteIp ip, .remotePort endpoint.endpoint.port,
    .protocol endpoint.endpoint.protocol] ++ (endpoint.clients.filterMap id).map .application

/-- Applying `PermitEndpoint` over `ruleEndpoints`, built from `endpoints` parsed to `ips`, installs
one filter per endpoint in order, each as `EndpointFilterSpec` says, with distinct keys. -/
def PermitEndpointSpec (endpoints : List WinFwAllowedEndpoint) (ips : List IpAddress)
    (ruleEndpoints : List PermitEndpoint.Endpoint) : Prop :=
  ∃ filters : List Filter,
    (∀ engine, PermitEndpoint.apply engine ruleEndpoints = installFilters engine filters) ∧
    filters.length = endpoints.length ∧ (filters.map Filter.key).Nodup ∧
    ∀ i endpoint ip, endpoints[i]? = some endpoint → ips[i]? = some ip →
      ∃ filter, filters[i]? = some filter ∧
        EndpointFilterSpec endpoint ip (familyRank ips ip.type i) filter

theorem endpointGuids_not_relay (type : AddressType) :
    ∀ key ∈ PermitEndpoint.pool.guids type,
      key ∉ PermitVpnRelay.endpointIpv4Guids ++ PermitVpnRelay.endpointIpv6Guids := by
  cases type <;> decide

theorem endpointFilter_spec (endpoint : WinFwAllowedEndpoint) (ip : IpAddress) (rank : Nat)
    (key : GUID) (keyed : (PermitEndpoint.pool.guids ip.type)[rank]? = some key) :
    EndpointFilterSpec endpoint ip rank
      (PermitEndpoint.pool.filter ip.type (permitEndpointOf endpoint ip) key) := by
  have registered := endpointGuids_current _ key (List.getElem?_mem keyed)
  have apart := endpointGuids_not_relay _ key (List.getElem?_mem keyed)
  unfold EndpointFilterSpec
  cases ip <;> exact ⟨keyed, mem_detailedRegistry registered, apart, rfl, rfl, rfl⟩

/-- When every endpoint address parses, no family outgrows the pool and `AppendAllowedEndpointRules`
builds its rule, the `PermitEndpoint` rule meets `PermitEndpointSpec`. -/
theorem permitEndpoint_apply_spec (parseIpAddress : String → Except FwError IpAddress)
    (endpoints : List WinFwAllowedEndpoint) (ips : List IpAddress)
    (parsed : endpoints.mapM (fun endpoint => parseIpAddress endpoint.endpoint.ip) = .ok ips)
    (fits : ∀ type, ips.countP (fun ip => ip.type == type) ≤ 4) (ruleset rules : Ruleset)
    (built : appendAllowedEndpointRules parseIpAddress ruleset endpoints = .ok rules) :
    ∃ ruleEndpoints, rules = ruleset ++ [.permitEndpoint ruleEndpoints] ∧
      PermitEndpointSpec endpoints ips ruleEndpoints := by
  have length := ((mapM_ok_forall₂ parsed).length_eq).symm
  obtain ⟨ruleEndpoints, copied, rfl⟩ := Except.map_eq_ok built
  obtain rfl := mapM_ok_zipWith allowedEndpoint_ok copied parsed
  refine ⟨_, rfl, ?_⟩
  obtain ⟨installs, counted, keyed⟩ :=
    PermitEndpoint.pool.zipWith_filters endpointPool_ip length fits
  refine ⟨_, installs, counted,
    PermitEndpoint.pool.filters_keys_nodup (fun _ _ => rfl) (fun _ _ => rfl) (by decide),
    fun i endpoint ip atEndpoint atIp => ?_⟩
  obtain ⟨key, inPool, filtered⟩ := keyed i endpoint ip atEndpoint atIp
  exact ⟨_, filtered, endpointFilter_spec endpoint ip _ key inPool⟩

/-- Four allowed endpoints of each family, interleaved, up to the `PermitEndpoint` pool, with
client paths of different counts. -/
def exampleEndpoints : List WinFwAllowedEndpoint :=
  [⟨[some "browser.exe"], ⟨"192.0.2.1", 443, .tcp⟩⟩, ⟨[], ⟨"2001:db8::1", 443, .tcp⟩⟩,
    ⟨[some "mail.exe", some "sync.exe"], ⟨"192.0.2.2", 993, .tcp⟩⟩,
    ⟨[some "ntp.exe"], ⟨"2001:db8::2", 123, .udp⟩⟩, ⟨[], ⟨"192.0.2.3", 80, .tcp⟩⟩,
    ⟨[some "browser.exe"], ⟨"2001:db8::3", 8443, .tcp⟩⟩, ⟨[], ⟨"192.0.2.4", 22, .tcp⟩⟩,
    ⟨[], ⟨"2001:db8::4", 53, .udp⟩⟩]

/-- Four allowed endpoints of each family, interleaved, fill the endpoint pool. -/
theorem permitEndpoint_apply_spec_interleaved :
    exampleEndpoints.mapM (fun endpoint => exampleParse endpoint.endpoint.ip) =
        .ok (exampleAddresses.map Prod.snd) ∧
      (∀ type, (exampleAddresses.map Prod.snd).countP (fun ip => ip.type == type) ≤ 4) ∧
      ∃ rules, appendAllowedEndpointRules exampleParse [] exampleEndpoints = .ok rules ∧
        ∃ ruleEndpoints, rules = [] ++ [.permitEndpoint ruleEndpoints] ∧
          PermitEndpointSpec exampleEndpoints (exampleAddresses.map Prod.snd) ruleEndpoints :=
  ⟨rfl, fun type => by cases type <;> decide, _, rfl,
    permitEndpoint_apply_spec exampleParse exampleEndpoints _ rfl
      (fun type => by cases type <;> decide) _ _ rfl⟩

/-- A pooled rule returns `true` only when no family outgrew its pool, whatever the engine
answers: a list over the pool never installs, so the transaction around it aborts. -/
theorem pooled_apply_true_fits (engine : Engine) (records after : List ObjectRecord) :
    (∀ endpoints, PermitEndpoint.apply engine endpoints records = .ok (true, after) →
      ∀ type, PermitEndpoint.pool.count type endpoints ≤ PermitEndpoint.maxAllowedEndpoints) ∧
    (∀ endpoints, PermitVpnRelay.apply engine endpoints records = .ok (true, after) →
      ∀ type, PermitVpnRelay.pool.count type endpoints ≤ PermitVpnRelay.maxAllowedEndpoints) :=
  ⟨fun _ success type => by simpa using (PermitEndpoint.pool.loop_true engine success).1 type,
    fun _ success type => by simpa using (PermitVpnRelay.pool.loop_true engine success).1 type⟩

/-- Four endpoints of each family and two relays of each family, every one installed. -/
theorem pooled_apply_true_fits_accepted :
    (∃ after, PermitEndpoint.apply .accepting ((exampleAddresses.map Prod.snd).map fun ip =>
          ⟨ip, 443, .tcp, []⟩) [] = .ok (true, after) ∧
        ∀ type, PermitEndpoint.pool.count type ((exampleAddresses.map Prod.snd).map fun ip =>
          ⟨ip, 443, .tcp, []⟩) ≤ PermitEndpoint.maxAllowedEndpoints) ∧
      ∃ after, PermitVpnRelay.apply .accepting (((exampleAddresses.take 4).map Prod.snd).map
          fun ip => ⟨ip, 51820, .udp, [], .baseline⟩) [] = .ok (true, after) ∧
        ∀ type, PermitVpnRelay.pool.count type (((exampleAddresses.take 4).map Prod.snd).map
          fun ip => ⟨ip, 51820, .udp, [], .baseline⟩) ≤ PermitVpnRelay.maxAllowedEndpoints :=
  ⟨⟨_, rfl, (pooled_apply_true_fits .accepting [] _).1 _ rfl⟩,
    ⟨_, rfl, (pooled_apply_true_fits .accepting [] _).2 _ rfl⟩⟩

/-- Five IPv4 endpoints make `PermitEndpoint::apply` read `ENDPOINT_IPV4_GUIDS[4]` before its bound
check can throw; three IPv4 relays make `PermitVpnRelay::apply` read index 2 the same way. -/
theorem apply_reads_past_pool :
    PermitEndpoint.apply .accepting (List.replicate 5 ⟨.ipv4 0x01010101, 443, .tcp, []⟩) [] =
      .error (.readPastEnd "ENDPOINT_IPV4_GUIDS" PermitEndpoint.maxAllowedEndpoints) ∧
    PermitVpnRelay.apply .accepting
        (List.replicate 3 ⟨.ipv4 0x01020304, 51820, .udp, [], .baseline⟩) [] =
      .error (.readPastEnd "ENDPOINT_IPV4_GUIDS" PermitVpnRelay.maxAllowedEndpoints) :=
  ⟨rfl, rfl⟩

end WinFw
