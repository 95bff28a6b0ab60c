import HostOverlay.Proofs.Labels
import HostOverlay.Store.Basic
import HostOverlay.Topology.Validity

/-!
# Snapshots in the store

Where there are no fragments, the store reads its objects as it holds them, and a valid snapshot
that is added to it is the one that it shows (`snapshot_addSnapshot`): the labels of a valid host
are texts, so none of them becomes a fragment.
-/

namespace HostOverlay.Store

open Schema

/-- The labels of a valid host are held as they are. -/
theorem adoptLabels_of_isValid (fragments : Fragments) {host : Host}
    (h : Record.isValid host = true) :
    fragments.adoptLabels host.labels = (host.labels, fragments) := by
  obtain ⟨entries, he⟩ := Host.labels_of_isValid h
  rw [he, Fragments.adoptLabels, Fragments.adoptEntries_of_texts fragments fun label hm =>
    Host.eq_text_of_mem_labels h he hm]

section

variable {store : Store} (hf : store.fragments.size = 0)
include hf

/-- Without fragments, a host reads as the store holds it. -/
theorem readHost_eq (handle : Handle Host) : store.readHost handle = store.hosts.get handle := by
  simp only [readHost, Fragments.plain_of_size_eq_zero hf]

/-- Without fragments, a network reads as the store holds it. -/
theorem readNetwork_eq (handle : Handle Network) :
    store.readNetwork handle = store.networks.get handle := by
  simp only [readNetwork, Fragments.plain_of_size_eq_zero hf]

/-- A valid snapshot that is added to a store without fragments is the one that it shows, and there
are still no fragments. -/
theorem snapshot_addSnapshot {snapshot : Snapshot} (h : snapshot.isValid = true) :
    (store.addSnapshot snapshot).2.snapshot (store.addSnapshot snapshot).1 = snapshot ∧
      (store.addSnapshot snapshot).2.fragments.size = 0 := by
  simp only [Snapshot.isValid, Bool.and_eq_true] at h
  have hadopt := adoptLabels_of_isValid store.fragments h.1.2
  have hsize : (store.addSnapshot snapshot).2.fragments.size = 0 := by
    simp only [addSnapshot, addHost, addNetworkRoster, addServiceRoster, hadopt, hf]
  refine ⟨?_, hsize⟩
  have hnetworks : (store.addSnapshot snapshot).2.networksOf (store.addSnapshot snapshot).1.networks =
      snapshot.networks := by
    have hread := funext fun handle => readNetwork_eq hsize handle
    rw [networksOf, hread]
    simp only [addSnapshot, addHost, addNetworkRoster, addServiceRoster, hadopt,
      Pool.get_add_fresh]
    exact Pool.map_get_freshHandles store.networks snapshot.networks
  have hhost : (store.addSnapshot snapshot).2.readHost (store.addSnapshot snapshot).1.host =
      snapshot.host := by
    rw [readHost_eq hsize]
    simp only [addSnapshot, addHost, addNetworkRoster, addServiceRoster, hadopt,
      Pool.get_add_fresh]
  have hservices : (store.addSnapshot snapshot).2.servicesOf (store.addSnapshot snapshot).1.services =
      snapshot.services := by
    simp only [servicesOf, addSnapshot, addHost, addNetworkRoster, addServiceRoster, hadopt,
      Pool.get_add_fresh]
    exact Pool.map_get_freshHandles store.services snapshot.services
  rw [Store.snapshot, hnetworks, hhost, hservices]

end

end HostOverlay.Store
