import HostOverlay.Proofs.Rewriting.Network
import HostOverlay.Topology.Validity

/-!
# Resolution of a rewritten snapshot

A snapshot is rewritten to another if its networks are and everything else is the same. A resolution
reads nothing of a network that rewriting changes, so the rewritten snapshot is resolved like the
one it comes from, and the local networks are those at the same positions (`resolve_of_rewritesTo`).
-/

namespace HostOverlay.Snapshot

/-- Whether a snapshot is rewritten to another. -/
structure RewritesTo (settings : Settings) (before after : Snapshot) : Prop where
  /-- The networks are rewritten, in their order. -/
  networks : List.Forall₂ (Network.RewritesTo settings) before.networks after.networks
  /-- The host is the same. -/
  host : after.host = before.host
  /-- The services are the same. -/
  services : after.services = before.services

variable {settings : Settings} {before after : Snapshot}

/-- A network of a rewritten snapshot is a rewritten network of the snapshot. -/
theorem RewritesTo.exists_of_mem (h : before.RewritesTo settings after) {network : Network}
    (hm : network ∈ after.networks) :
    ∃ original ∈ before.networks, original.RewritesTo settings network := by
  obtain ⟨i, hi, rfl⟩ := List.mem_iff_getElem.mp hm
  have hlen := h.networks.length_eq
  exact ⟨_, List.getElem_mem (by omega), h.networks.get (by omega) hi⟩

/-- Rewriting keeps a snapshot valid. -/
theorem RewritesTo.isValid (h : before.RewritesTo settings after)
    (hv : before.isValid = true) : after.isValid = true := by
  simp only [Snapshot.isValid, Bool.and_eq_true, List.all_eq_true] at hv ⊢
  obtain ⟨⟨hn, hh⟩, hs⟩ := hv
  rw [h.host, h.services]
  refine ⟨⟨?_, hh⟩, hs⟩
  intro network hmem
  obtain ⟨original, ho, hr⟩ := h.exists_of_mem hmem
  exact hr.isValid (hn original ho)

/-- A rewritten snapshot has its local networks at the same positions. -/
theorem RewritesTo.localPositions_eq (h : before.RewritesTo settings after) :
    after.localPositions settings = before.localPositions settings := by
  have hrouters : after.routers settings = before.routers settings := by
    simp only [routers, networkService, networkService?, driver?, h.host, h.services]
  have hlocal : List.Forall₂ (· = ·) (before.networks.map (before.hasLocal settings))
      (after.networks.map (after.hasLocal settings)) := by
    rw [List.forall₂_map_left_iff, List.forall₂_map_right_iff]
    refine h.networks.imp fun network network' hn => ?_
    rw [hasLocal, hasLocal, hrouters, h.host, hn.isLocal_eq]
  rw [List.forall₂_eq_eq_eq] at hlocal
  exact (Position.passing_congr hlocal).symm

/-- A rewritten snapshot has the local topology of the snapshot it comes from, but for what was
rewritten in the local networks. -/
theorem RewritesTo.resolution_eq (h : before.RewritesTo settings after) :
    after.resolution settings =
      { before.resolution settings with
        networks := (before.localPositions settings).filterMap (after.networks[·]?) } := by
  have hnetworks : after.localNetworks settings =
      (before.localPositions settings).filterMap (after.networks[·]?) := by
    rw [← h.localPositions_eq, localPositions, Position.filterMap_passing, localNetworks]
  simp only [resolution, hnetworks, routers, networkService, networkService?, driver?, h.host,
    h.services]

/-- With valid settings, resolving a rewritten snapshot gives the local topology of the valid
snapshot it comes from, but for what was rewritten in the local networks. -/
theorem resolve_of_rewritesTo (hs : Schema.Record.isValid settings = true)
    (hv : before.isValid = true) (h : before.RewritesTo settings after) :
    after.resolve settings = .ok
      { before.resolution settings with
        networks := (before.localPositions settings).filterMap (after.networks[·]?) } := by
  rw [resolve_of_isValid (h.isValid hv) hs, h.resolution_eq]

end HostOverlay.Snapshot
