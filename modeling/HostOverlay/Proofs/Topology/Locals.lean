import HostOverlay.Proofs.Bridge.Discovery
import HostOverlay.Proofs.Topology.Routers

/-!
# The local networks of a resolution

A resolution keeps a network if it belongs to the host's environment, has configuration files and
has a router. The routers are looked up by network, so the last condition is about the containers of
the network service (`Routers.AreCollected.isSome_get?_iff`), and all three together do not mention
the routers at all (`Network.IsLocalTo`). Each network is judged on its own: duplicates are kept or
dropped together, and the order of the networks matters for nothing but the order of what is kept.
-/

namespace HostOverlay

open Schema

/-- Whether positions are those of the elements of a list that meet a condition. -/
structure Position.AreOf {α : Type} (p : α → Prop) (l : List α) (positions : List ℕ) : Prop where
  /-- The positions come in the order of the list, each of them once. -/
  ordered : positions.Pairwise (· < ·)
  /-- They are the positions at which an element meets the condition. -/
  mem_iff : ∀ position, position ∈ positions ↔ ∃ a, l[position]? = some a ∧ p a

/-- A test for the condition passes at the positions of the elements that meet it. -/
theorem Position.areOf_passing {α : Type} {p : α → Prop} {test : α → Bool} {l : List α}
    (h : ∀ a ∈ l, (test a = true ↔ p a)) : AreOf p l (passing test l) := by
  unfold passing
  constructor
  case ordered =>
    have hsublist : ((l.zipIdx.filter fun entry => test entry.1).map Prod.snd).Sublist
        (List.range' 0 l.length) := by
      rw [← List.zipIdx_map_snd 0 l]
      exact List.filter_sublist.map Prod.snd
    exact List.Pairwise.sublist hsublist List.pairwise_lt_range'
  case mem_iff =>
    intro position
    rw [List.mem_map]
    constructor
    · rintro ⟨⟨a, i⟩, hm, rfl⟩
      obtain ⟨hentry, htest⟩ := List.mem_filter.mp hm
      have hget : l[i]? = some a := List.mk_mem_zipIdx_iff_getElem?.mp hentry
      exact ⟨a, hget, (h a (List.mem_of_getElem? hget)).mp htest⟩
    · rintro ⟨a, hget, ha⟩
      have htest : test a = true := (h a (List.mem_of_getElem? hget)).mpr ha
      exact ⟨(a, position),
        List.mem_filter.mpr ⟨List.mk_mem_zipIdx_iff_getElem?.mpr hget, htest⟩, rfl⟩

namespace Network

variable {settings : Settings} {host : Host} {service : Service} {network : Network}

/-- Whether a network is local to a host whose routers are containers of a service. -/
structure IsLocalTo (settings : Settings) (host : Host) (service : Service)
    (network : Network) : Prop where
  /-- It belongs to the environment of the host. -/
  environment : network.environmentUuid = host.environmentUuid
  /-- Its metadata hold a mapping, which may be empty, under the key that the settings name. -/
  files : ∃ key files, settings.cniConfigKey = .text key ∧
    network.metadata.get? key = some (.mapping files)
  /-- A container of the service on the host serves it. -/
  routed : ∃ container ∈ service.containers, container.Routes host.uuid network.uuid

/-- A network has configuration files if its metadata hold a mapping under the key. -/
theorem isSome_cniConfig?_iff (settings : Settings) (network : Network) :
    (network.cniConfig? settings).isSome = true ↔
      ∃ key files, settings.cniConfigKey = .text key ∧
        network.metadata.get? key = some (.mapping files) := by
  rw [Option.isSome_iff_exists]
  constructor
  · rintro ⟨files, hfiles⟩
    have hconfig := cniConfig?_eq_some_iff.mp hfiles
    unfold config? at hconfig
    split at hconfig
    case h_1 key hkey => exact ⟨key, files, hkey, hconfig⟩
    case h_2 => simp at hconfig
  · rintro ⟨key, files, hkey, hget⟩
    refine ⟨files, cniConfig?_eq_some_iff.mpr ?_⟩
    rw [config?, hkey]
    exact hget

/-- With the routers of a service on a valid host, the networks that are kept are the local ones. -/
theorem isLocal_iff (hh : Record.isValid host = true) {routers : Routers}
    (hr : routers.AreCollected host.uuid service.containers) :
    network.isLocal settings host routers = true ↔ network.IsLocalTo settings host service := by
  have henvironment : Table.IsSharp host.environmentUuid :=
    Record.isSharp_of_isValid hh "environment_uuid" rfl rfl rfl
  -- The look-up among the routers becomes a condition on the containers of the service.
  rw [isLocal, Bool.and_eq_true, Bool.and_eq_true, henvironment.right,
    isSome_cniConfig?_iff, hr.isSome_get?_iff]
  constructor
  · rintro ⟨⟨he, hf⟩, hrouted⟩
    exact ⟨he, hf, hrouted⟩
  · rintro ⟨he, hf, hrouted⟩
    exact ⟨⟨he, hf⟩, hrouted⟩

end Network

/-- Where no service serves the networks of the first candidate, if there is one, the network
service is the empty one. -/
theorem IsNetworkService.eq_empty {candidates services : List Service} {service : Service}
    (h : IsNetworkService candidates services service)
    (hn : ∀ driver ∈ candidates.head?, ∀ other ∈ services, ¬ driver.IsPrimaryBeside other) :
    service = {} := by
  cases h with
  | noDriver => rfl
  | absent => rfl
  | first hd hs hp =>
    have hm : service ∈ services := hs ▸ List.mem_append_right _ List.mem_cons_self
    exact absurd hp (hn _ hd service hm)

namespace Snapshot

variable {settings : Settings} {snapshot : Snapshot} {networks : List Network}

/-- A valid snapshot is valid with its networks in any order. -/
theorem isValid_of_perm_networks (hv : snapshot.isValid = true)
    (h : snapshot.networks.Perm networks) : { snapshot with networks }.isValid = true := by
  simp only [isValid, Bool.and_eq_true, List.all_eq_true] at hv ⊢
  exact ⟨⟨fun network hm => hv.1.1 network (h.mem_iff.mpr hm), hv.1.2⟩, hv.2⟩

/-- A network that a resolution keeps has a router, which runs on the host and serves it. -/
theorem exists_router_of_mem_localNetworks (hv : snapshot.isValid = true) {network : Network}
    (hm : network ∈ snapshot.localNetworks settings) :
    ∃ container, Table.get? (snapshot.routers settings) network.uuid = some container ∧
      container.Routes snapshot.host.uuid network.uuid := by
  have hlocal : snapshot.hasLocal settings network = true := (List.mem_filter.mp hm).2
  rw [hasLocal, Network.isLocal, Bool.and_eq_true] at hlocal
  obtain ⟨container, hcontainer⟩ := Option.isSome_iff_exists.mp hlocal.2
  have hroutes := (areCollected_routers hv settings).routes_of_get?_eq_some hcontainer
  exact ⟨container, hcontainer, hroutes⟩

/-- Where the network service is the empty one, there are no routers and no local networks. -/
theorem localNetworks_eq_nil (hv : snapshot.isValid = true)
    (h : snapshot.networkService settings = {}) :
    snapshot.localNetworks settings = [] ∧ snapshot.routers settings = [] := by
  have hrouters : snapshot.routers settings = [] := by
    rw [routers, h]
    rfl
  refine ⟨List.eq_nil_iff_forall_not_mem.mpr fun network hm => ?_, hrouters⟩
  obtain ⟨container, hcontainer, -⟩ := exists_router_of_mem_localNetworks hv hm
  rw [hrouters] at hcontainer
  exact absurd hcontainer (by simp)

/-- The local networks of a resolution. With valid settings, resolving a valid snapshot keeps the
networks at the positions of those that are local to the host and the network service that was
found, in their order; each of them has a router that runs on the host and serves it; if there is no
candidate, or no service serves the networks of the first one, there are no local networks and no
routers; and networks in another order give the same local networks in another order and nothing
else that is different. -/
theorem resolve_locals (hs : Record.isValid settings = true) (hv : snapshot.isValid = true) :
    ∃ found, snapshot.resolve settings = .ok found ∧
      Position.AreOf (Network.IsLocalTo settings snapshot.host found.service) snapshot.networks
        (snapshot.localPositions settings) ∧
      found.networks = (snapshot.localPositions settings).filterMap (snapshot.networks[·]?) ∧
      (∀ network ∈ found.networks, ∃ container,
        Table.get? found.routers network.uuid = some container ∧
          container.Routes snapshot.host.uuid network.uuid) ∧
      ((∀ driver ∈ found.candidates.head?, ∀ service ∈ snapshot.services,
        ¬ driver.IsPrimaryBeside service) → found.networks = [] ∧ found.routers = []) ∧
      (∀ networks, snapshot.networks.Perm networks →
        ∃ found', { snapshot with networks }.resolve settings = .ok found' ∧
          found.networks.Perm found'.networks ∧ found'.routers = found.routers ∧
          found'.service = found.service ∧ found'.outcome = found.outcome) := by
  have hrouters := areCollected_routers hv settings
  refine ⟨_, resolve_of_isValid hv hs, ?_, ?_, ?_, ?_, ?_⟩
  · exact Position.areOf_passing fun network _ => Network.isLocal_iff (isValid_host hv) hrouters
  · exact (Position.filterMap_passing _ _).symm
  · intro network hm
    exact exists_router_of_mem_localNetworks hv hm
  · intro hn
    exact localNetworks_eq_nil hv ((isNetworkService_networkService hv settings).eq_empty hn)
  · intro networks h
    -- Routers and candidates do not depend on the networks, and each network is judged on its own.
    exact ⟨_, resolve_of_isValid (isValid_of_perm_networks hv h) hs, h.filter _, rfl, rfl, rfl⟩

/-- The same services, and networks of which two are local and have the same identity, the first
with no file; of the others one belongs to another environment, one has a text in place of files,
and one has no container on the host. -/
def relaying : Snapshot where
  networks :=
    [{ uuid := .text "net"
       environmentUuid := .text "elsewhere"
       metadata := .mapping [("cniConfig", .mapping [])] },
     { uuid := .text "net"
       environmentUuid := .text "env"
       metadata := .mapping [("cniConfig", .mapping [])] },
     { uuid := .text "lan"
       environmentUuid := .text "env"
       metadata := .mapping [("cniConfig", .text "none")] },
     { uuid := .text "wan"
       environmentUuid := .text "env"
       metadata := .mapping [("cniConfig", .mapping [])] },
     { uuid := .text "net"
       environmentUuid := .text "env"
       metadata := .mapping [("cniConfig", .mapping [("10-bridge.conf", .mapping [])])] }]
  host := { uuid := .text "host", environmentUuid := .text "env" }
  services := relayed.services

/-- Both local networks are kept, also with the networks listed the other way round, and the routers
are the same. -/
theorem resolve_relaying_reverse :
    ∃ found found', relaying.resolve {} = .ok found ∧
      { relaying with networks := relaying.networks.reverse }.resolve {} = .ok found' ∧
      relaying.localPositions {} = [1, 4] ∧
      found.networks.map Network.uuid = [.text "net", .text "net"] ∧
      found.networks.Perm found'.networks ∧ found'.routers = found.routers := by
  have hs : Record.isValid ({} : Settings) = true := by decide
  have hv : relaying.isValid = true := by decide
  obtain ⟨found, hfound, -, -, -, -, hperm⟩ := resolve_locals hs hv
  obtain rfl : relaying.resolution {} = found :=
    Except.ok.inj ((resolve_of_isValid hv hs).symm.trans hfound)
  obtain ⟨found', hfound', hnetworks, hrouters, -, -⟩ :=
    hperm relaying.networks.reverse (List.reverse_perm relaying.networks).symm
  exact ⟨_, found', hfound, hfound', by decide, rfl, hnetworks, hrouters⟩

end Snapshot

end HostOverlay
