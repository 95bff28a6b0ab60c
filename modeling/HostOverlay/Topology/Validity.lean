import HostOverlay.Topology.Resolution

/-!
# Valid snapshots

A valid snapshot has every field of every part, and its fields hold texts, dictionaries and
containers as they are declared. So with valid settings nothing stops its resolution, and resolving
it gives its local topology.
-/

namespace HostOverlay

open Schema

section

variable {α : Type} [Record α] {record : α} (h : Record.isValid record = true)
include h

/-- A field of a valid record that is declared as a text is one. -/
theorem Schema.Record.eq_text_of_isValid (field : String)
    {declared : Slot Shape} (hf : Table.get? (Record.fields α) field = some declared)
    (ht : declared.shape = .text) {value : Tree}
    (hv : (Record.toTree record).get? field = some value) : ∃ content, value = .text content :=
  Shape.fits_text_iff.mp (ht ▸ Record.fits_of_isValid h field hf hv)

/-- A field of a valid record that is declared as a text is a sharp key. -/
theorem Schema.Record.isSharp_of_isValid (field : String)
    {declared : Slot Shape} (hf : Table.get? (Record.fields α) field = some declared)
    (ht : declared.shape = .text) {value : Tree}
    (hv : (Record.toTree record).get? field = some value) : Table.IsSharp value := by
  obtain ⟨content, rfl⟩ := Record.eq_text_of_isValid h field hf ht hv
  exact Tree.isSharp_text content

end

/-- The identity of a valid network is a text. -/
theorem Network.uuid_of_isValid {network : Network} (h : Record.isValid network = true) :
    ∃ uuid, network.uuid = .text uuid :=
  Record.eq_text_of_isValid h "uuid" rfl rfl rfl

/-- The metadata of a valid network are a mapping. -/
theorem Network.metadata_of_isValid {network : Network} (h : Record.isValid network = true) :
    ∃ entries, network.metadata = .mapping entries := by
  obtain ⟨entries, he, -⟩ :=
    Shape.fits_dictionary_iff.mp (Record.fits_of_isValid h "metadata" rfl rfl)
  exact ⟨entries, he⟩

/-- The key in valid settings is a text. -/
theorem Settings.cniConfigKey_of_isValid {settings : Settings}
    (h : Record.isValid settings = true) : ∃ key, settings.cniConfigKey = .text key :=
  Record.eq_text_of_isValid h "cni_config_key" rfl rfl rfl

/-- The network of a valid container is a text. -/
theorem Container.networkUuid_of_isValid {container : Container}
    (h : Record.isValid container = true) : ∃ uuid, container.networkUuid = .text uuid :=
  Record.eq_text_of_isValid h "network_uuid" rfl rfl rfl

/-- The members of a valid service are a list of valid containers. -/
theorem Service.members_of_isValid {service : Service} (h : service.isValid = true) :
    ∃ members, service.members = .list members ∧
      ∀ member ∈ members, ∃ held, member = .container held ∧ Record.isValid held = true := by
  simp only [Service.isValid, Bool.and_eq_true] at h
  obtain ⟨-, h⟩ := h
  cases hm : service.members with
  | stray value => simp [hm] at h
  | list members =>
    refine ⟨members, rfl, fun member hmem => ?_⟩
    simp only [hm, List.all_eq_true] at h
    have hv := h member hmem
    cases member with
    | stray value => simp [Member.container?] at hv
    | container held => exact ⟨held, rfl, by simpa [Member.container?] using hv⟩

/-- The fields of a valid service are valid. -/
theorem Service.record_of_isValid {service : Service} (h : service.isValid = true) :
    Record.isValid service = true := by
  rw [isValid, Bool.and_eq_true] at h
  exact h.1

/-- The containers of a valid service are valid. -/
theorem Service.isValid_of_mem_containers {service : Service} (h : service.isValid = true)
    {container : Container} (hm : container ∈ service.containers) :
    Record.isValid container = true := by
  obtain ⟨members, hmembers, hv⟩ := members_of_isValid h
  simp only [containers, Members.containers, hmembers, Members.members, List.mem_filterMap] at hm
  obtain ⟨member, hmember, hheld⟩ := hm
  obtain ⟨held, rfl, hvalid⟩ := hv member hmember
  exact Option.some.inj hheld ▸ hvalid

/-- A valid service lacks no field. -/
theorem Service.lack?_eq_none {service : Service} (h : service.isValid = true) (field : String) :
    Record.lack? service field = none :=
  Record.lack?_eq_none (Service.record_of_isValid h) field

/-- The empty service is valid. -/
theorem Service.isValid_default : ({} : Service).isValid = true := by
  decide

/-- A valid network can be asked for its configuration files. -/
theorem Network.configMisfit?_eq_none {settings : Settings} (hs : Record.isValid settings = true)
    {network : Network} (h : Record.isValid network = true) :
    network.configMisfit? settings = none := by
  obtain ⟨entries, hm⟩ := Network.metadata_of_isValid h
  obtain ⟨key, hk⟩ := Settings.cniConfigKey_of_isValid hs
  have hl : network.margin.loose = [] := by
    simp only [Record.isValid, Margin.isClear, Record.margin, Bool.and_eq_true,
      List.isEmpty_iff] at h
    exact h.1.2
  simp [Network.configMisfit?, Record.lack?_eq_none h, Record.lack?_eq_none hs, hm, hk, hl,
    Margin.get?, Tree.keyMisfit?]

/-- A valid network can be asked whether it is local to a valid host. -/
theorem Network.localMisfit?_eq_none {settings : Settings} (hs : Record.isValid settings = true)
    {host : Host} (hh : Record.isValid host = true) {network : Network}
    (h : Record.isValid network = true) : network.localMisfit? settings host = none := by
  obtain ⟨uuid, hu⟩ := Network.uuid_of_isValid h
  simp [Network.localMisfit?, Record.lack?_eq_none h, Record.lack?_eq_none hh,
    Network.configMisfit?_eq_none hs h, hu, Tree.keyMisfit?]

/-- The containers of a valid service can be searched for the routers of a valid host. -/
theorem Service.routerMisfit?_eq_none {host : Host} (hh : Record.isValid host = true)
    {service : Service} (h : service.isValid = true) :
    service.members.routerMisfit? host = none := by
  obtain ⟨members, hm, hv⟩ := Service.members_of_isValid h
  rw [hm, Members.routerMisfit?, List.findSome?_eq_none_iff]
  intro member hmem
  obtain ⟨held, rfl, hc⟩ := hv member hmem
  obtain ⟨uuid, hu⟩ := Container.networkUuid_of_isValid hc
  simp [Member.routerMisfit?, Record.lack?_eq_none hc, Record.lack?_eq_none hh, hu,
    Tree.keyMisfit?]

/-- Among valid services, the network service of a valid driver can be looked for. -/
theorem findMisfit?_eq_none {driver : Service} (hd : driver.isValid = true)
    {services : List Service} (h : ∀ service ∈ services, service.isValid = true) :
    findMisfit? driver services = none := by
  induction services with
  | nil => rfl
  | cons service rest ih =>
    have hs := h service List.mem_cons_self
    have ih := ih fun other ho => h other (List.mem_cons_of_mem _ ho)
    simp [findMisfit?, Service.servesMisfit?, Service.lack?_eq_none hs,
      Service.lack?_eq_none hd, ih]

/-- Among valid services, the candidates for the driver can be chosen. -/
theorem selectionObstacle?_eq_none {settings : Settings} (hs : Record.isValid settings = true)
    {services : List Service} (h : ∀ service ∈ services, service.isValid = true) :
    selectionObstacle? settings services = none := by
  have hd : ∀ service ∈ drivers settings services, service.isValid = true :=
    fun service hm => h service (List.mem_filter.mp hm).1
  have hk : services.findSome? (Service.kindMisfit? settings) = none := by
    rw [List.findSome?_eq_none_iff]
    intro service hm
    simp [Service.kindMisfit?, Service.lack?_eq_none (h service hm), Record.lack?_eq_none hs]
  have hl (field : String) :
      ((drivers settings services).findSome? fun driver => Record.lack? driver field) = none := by
    rw [List.findSome?_eq_none_iff]
    exact fun service hm => Service.lack?_eq_none (hd service hm) field
  simp [selectionObstacle?, hk, hl, Record.lack?_eq_none hs, Obstacle.at?]

/-- The routers of a service on a host are containers of the service. -/
theorem Service.mem_containers_of_mem_routersOn {service : Service} {hostUuid : Tree}
    {router : Tree × Container} (h : router ∈ service.routersOn hostUuid) :
    router.2 ∈ service.containers := by
  have hfold : ∀ (containers : List Container) (routers : Routers),
      (∀ r ∈ routers, r.2 ∈ service.containers) → (∀ c ∈ containers, c ∈ service.containers) →
      ∀ r ∈ containers.foldl
        (fun routers container => Table.put container.networkUuid container routers) routers,
        r.2 ∈ service.containers := by
    intro containers
    induction containers with
    | nil => exact fun _ hr _ => hr
    | cons container rest ih =>
      intro routers hr hc
      refine ih _ (fun r hm => ?_) fun c hm => hc c (List.mem_cons_of_mem _ hm)
      rcases Table.mem_put hm with he | he
      · exact he ▸ hc container List.mem_cons_self
      · exact hr r he
  exact hfold _ [] (by simp) (fun c hm => (List.mem_filter.mp hm).1) router h

namespace Snapshot

/-- The networks of a valid snapshot are valid. -/
theorem isValid_of_mem_networks {snapshot : Snapshot} (hv : snapshot.isValid = true)
    {network : Network} (hm : network ∈ snapshot.networks) : Record.isValid network = true := by
  rw [isValid, Bool.and_eq_true, Bool.and_eq_true, List.all_eq_true] at hv
  exact hv.1.1 network hm

/-- The services of a valid snapshot are valid. -/
theorem isValid_of_mem_services {snapshot : Snapshot} (hv : snapshot.isValid = true)
    {service : Service} (hm : service ∈ snapshot.services) : service.isValid = true := by
  rw [isValid, Bool.and_eq_true, List.all_eq_true] at hv
  exact hv.2 service hm

/-- The host of a valid snapshot is valid. -/
theorem isValid_host {snapshot : Snapshot} (hv : snapshot.isValid = true) :
    Record.isValid snapshot.host = true := by
  rw [isValid, Bool.and_eq_true, Bool.and_eq_true] at hv
  exact hv.1.2

/-- The network service of a valid snapshot is valid. -/
theorem isValid_networkService {snapshot : Snapshot} (h : snapshot.isValid = true)
    (settings : Settings) : (snapshot.networkService settings).isValid = true := by
  cases hn : snapshot.networkService? settings with
  | none => simp [networkService, hn, Service.isValid_default]
  | some service =>
    simp only [networkService, hn, Option.getD_some]
    simp only [networkService?, Option.bind_eq_some_iff] at hn
    obtain ⟨driver, -, hf⟩ := hn
    exact isValid_of_mem_services h (List.mem_of_find?_eq_some hf)

/-- The routers of a valid snapshot are valid containers. -/
theorem isValid_of_mem_routers {snapshot : Snapshot} (h : snapshot.isValid = true)
    (settings : Settings) {router : Tree × Container} (hr : router ∈ snapshot.routers settings) :
    Record.isValid router.2 = true := by
  have hc : router.2 ∈ (snapshot.networkService settings).containers :=
    Service.mem_containers_of_mem_routersOn hr
  exact Service.isValid_of_mem_containers (isValid_networkService h settings) hc

/-- With valid settings, nothing stops the resolution of a valid snapshot. -/
theorem obstacle?_eq_none {snapshot : Snapshot} (h : snapshot.isValid = true)
    {settings : Settings} (hs : Record.isValid settings = true) :
    snapshot.obstacle? settings = none := by
  have hv := isValid_networkService h settings
  have hr : ∀ router ∈ snapshot.routers settings, Record.isValid router.2 = true :=
    fun _ hm => isValid_of_mem_routers h settings hm
  have hh := isValid_host h
  have hsv : ∀ service ∈ snapshot.services, service.isValid = true :=
    fun _ hm => isValid_of_mem_services h hm
  have hc : ∀ service ∈ driverCandidates settings snapshot.services, service.isValid = true :=
    fun service hm => hsv service (List.mem_filter.mp hm).1
  have hf : ((snapshot.driver? settings).bind fun driver =>
      findMisfit? driver snapshot.services) = none := by
    rw [Option.bind_eq_none_iff]
    intro driver hd
    exact findMisfit?_eq_none (hc driver (List.mem_of_head? hd)) hsv
  have hl : (snapshot.networks.findSome? (Network.localMisfit? settings snapshot.host)) = none := by
    rw [List.findSome?_eq_none_iff]
    exact fun network hm => Network.localMisfit?_eq_none hs hh (isValid_of_mem_networks h hm)
  have ht : snapshot.topologyMisfit? settings = none := by
    simp [topologyMisfit?, hf, hl, Service.lack?_eq_none hv, Service.routerMisfit?_eq_none hh hv]
  have hcs : (driverCandidates settings snapshot.services).findSome?
      (fun service => Record.lack? service "uuid") = none := by
    rw [List.findSome?_eq_none_iff]
    exact fun service hm => Service.lack?_eq_none (hc service hm) "uuid"
  have hrs : (snapshot.routers settings).findSome?
      (fun router => Record.lack? router.2 "uuid") = none := by
    rw [List.findSome?_eq_none_iff]
    exact fun router hm => Record.lack?_eq_none (hr router hm) "uuid"
  simp [obstacle?, selectionObstacle?_eq_none hs hsv, hcs, ht, hrs, Obstacle.at?]

/-- With valid settings, resolving a valid snapshot gives its local topology. -/
theorem resolve_of_isValid {snapshot : Snapshot} (h : snapshot.isValid = true)
    {settings : Settings} (hs : Record.isValid settings = true) :
    snapshot.resolve settings = .ok (snapshot.resolution settings) := by
  simp [resolve, obstacle?_eq_none h hs]

end Snapshot

end HostOverlay
