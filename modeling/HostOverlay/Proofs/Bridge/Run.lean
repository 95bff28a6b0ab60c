import HostOverlay.Proofs.Bridge.Interleaving
import HostOverlay.Proofs.Journal.Calls

/-!
# Discoveries and substitutions in any order

On a host with final labels, the bridge of a network may be discovered, its configuration files
substituted and its whole metadata substituted, any number of times and in any order. Each of these
calls brings the files nearer to the ones that substituting all of them gives, and none leads away
from there: what substituting all of them would give is the same before and after the call
(`Agent.perform_substitutesTo`), and once everything is substituted it stays so. So every discovery
of a run finds the bridge that the first network has on the host, and behind the first substitution
the files are the substituted files of the first network (`Agent.run_discovers_and_substitutes`).
-/

namespace HostOverlay

open Schema

namespace Call

/-- Whether a call substitutes the labels of a host in all configuration files of a network, alone
or with the rest of the metadata. -/
def Substitutes (handle : Handle Network) (host : Host) : Call → Prop
  | substituteConfig network on | substituteMetadata network on => network = handle ∧ on = host
  | _ => False

/-- Whether a call discovers the bridge of a network on a host or substitutes the host's labels in
all its configuration files. -/
def DiscoversOrSubstitutes (handle : Handle Network) (host : Host) : Call → Prop
  | discoverBridge network on | substituteConfig network on | substituteMetadata network on =>
    network = handle ∧ on = host
  | _ => False

/-- What such a call makes of the configuration files. -/
def filesAfter (settings : Settings) (host : Host) : Call → Table String Tree → Table String Tree
  | discoverBridge .. => Bridge.rewritten settings host
  | _ => Tree.substituteEntries host

/-- The call keeps the names of the files. -/
theorem keys_filesAfter (settings : Settings) (host : Host) (call : Call)
    (files : Table String Tree) :
    Table.keys (call.filesAfter settings host files) = Table.keys files := by
  unfold filesAfter
  split
  · exact Bridge.keys_replace _ files
  · exact Tree.keys_substituteEntries host files

end Call

namespace Agent

/-- The configuration files of a network, as they read now. -/
def filesOf (agent : Agent) (handle : Handle Network) : Option (Table String Tree) :=
  (agent.store.readNetwork handle).cniConfig? agent.settings

/-- What an agent has for a network if everything about the network is as it is declared: it is one
of the store's networks, its fields hold values of their shapes, no two of its configuration files
have one name, and no label is a mapping that could be shared. -/
structure IsReadyAt (agent : Agent) (handle : Handle Network) : Prop where
  /-- The settings are valid. -/
  settings : Record.isValid agent.settings = true
  /-- The store has the network. -/
  held : agent.store.networks.Holds handle
  /-- The network is valid. -/
  network : Record.isValid (agent.store.networks.get handle) = true
  /-- The configuration files have different names. -/
  files : ∀ files, agent.filesOf handle = some files → (Table.keys files).Nodup
  /-- There are no fragments. -/
  fragments : agent.store.fragments.size = 0

/-- Whether substituting the labels of a host in all configuration files of a network changes
nothing any more. -/
def IsSubstitutedAt (agent : Agent) (handle : Handle Network) (host : Host) : Prop :=
  (agent.filesOf handle).map (Tree.substituteEntries host) = agent.filesOf handle

/-- Whether an agent becomes another while configuration files of a network are substituted. -/
structure SubstitutesTo (handle : Handle Network) (host : Host) (before after : Agent) : Prop where
  /-- The agent is ready for the network again. -/
  ready : after.IsReadyAt handle
  /-- The settings are the same. -/
  settings : after.settings = before.settings
  /-- Substituting all files gives what it gave before. -/
  files : (after.filesOf handle).map (Tree.substituteEntries host) =
    (before.filesOf handle).map (Tree.substituteEntries host)
  /-- If all files were substituted, they still are. -/
  substituted : before.IsSubstitutedAt handle host → after.IsSubstitutedAt handle host

variable {agent : Agent} {handle : Handle Network} {host : Host}

/-- Nothing needs to be substituted. -/
theorem SubstitutesTo.refl (hr : agent.IsReadyAt handle) (host : Host) :
    SubstitutesTo handle host agent agent :=
  ⟨hr, rfl, rfl, id⟩

/-- Substituting twice is substituting. -/
theorem SubstitutesTo.trans {first second third : Agent}
    (h : SubstitutesTo handle host first second) (h' : SubstitutesTo handle host second third) :
    SubstitutesTo handle host first third where
  ready := h'.ready
  settings := h'.settings.trans h.settings
  files := h'.files.trans h.files
  substituted hfirst := h'.substituted (h.substituted hfirst)

/-- Without fragments, the files of a network read as the store holds them. -/
theorem filesOf_eq (hf : agent.store.fragments.size = 0) (handle : Handle Network) :
    agent.filesOf handle = (agent.store.networks.get handle).cniConfig? agent.settings := by
  rw [filesOf, Store.readNetwork_eq hf]

/-- A network that is changed, while nothing happens to the fragments, has the files of what it is
changed to. -/
theorem filesOf_setNetwork {α : Type} (hr : agent.IsReadyAt handle)
    {answer : Except Failure α × Network × Fragments} {files : Option (Table String Tree)}
    (h : ∃ a changed, answer = (.ok a, changed, agent.store.fragments) ∧
      changed.cniConfig? agent.settings = files) :
    (agent.setNetwork handle answer.2.1 answer.2.2).filesOf handle = files := by
  obtain ⟨a, changed, rfl, hfiles⟩ := h
  have hget : (agent.store.networks.set handle changed).get handle = changed :=
    Pool.get_set_self hr.held changed
  have hfragments :
      (agent.setNetwork handle changed agent.store.fragments).store.fragments.size = 0 :=
    hr.fragments
  rw [filesOf_eq hfragments]
  show Network.cniConfig? ((agent.store.networks.set handle changed).get handle) agent.settings = _
  rw [hget, hfiles]

/-- The store has a network after a call that discovers its bridge or substitutes in it. -/
theorem holds_networks_perform (hr : agent.IsReadyAt handle) {call : Call}
    (hc : call.DiscoversOrSubstitutes handle host) :
    (agent.perform call).2.store.networks.Holds handle := by
  cases call with
  | discoverBridge network on | substituteConfig network on | substituteMetadata network on =>
    exact hr.held.set _ _
  | _ => exact absurd hc id

section

variable (hr : agent.IsReadyAt handle) (hh : Record.isValid host = true)
include hr hh

/-- A discovery answers with the bridge that the files declare once all of them are substituted. -/
theorem discoverBridge_eq_infoOn :
    (agent.discoverBridge handle host).1 =
      .ok (((agent.filesOf handle).map (Bridge.infoOn agent.settings host)).getD {}) := by
  obtain ⟨changed, he, -⟩ :=
    Network.discoverBridge_eq_bridgeOn hr.settings hr.network hh hr.fragments
  rw [filesOf_eq hr.fragments]
  simp only [discoverBridge, he, Network.bridgeOn]

variable {call : Call} (hc : call.DiscoversOrSubstitutes handle host)
include hc

/-- What a call makes of the files of a network. -/
theorem filesOf_perform :
    (agent.perform call).2.filesOf handle =
      (agent.filesOf handle).map (call.filesAfter agent.settings host) := by
  rw [filesOf_eq hr.fragments]
  cases call with
  | discoverBridge network on =>
    obtain ⟨rfl, rfl⟩ := hc
    obtain ⟨changed, he, hfiles⟩ :=
      Network.discoverBridge_eq_bridgeOn hr.settings hr.network hh hr.fragments
    exact filesOf_setNetwork hr ⟨_, changed, he, hfiles⟩
  | substituteConfig network on =>
    obtain ⟨rfl, rfl⟩ := hc
    exact filesOf_setNetwork hr
      (Network.cniConfig?_substituteConfig hr.settings hr.network hh hr.fragments)
  | substituteMetadata network on =>
    obtain ⟨rfl, rfl⟩ := hc
    exact filesOf_setNetwork hr
      (Network.cniConfig?_substituteMetadata hr.settings hr.network hh hr.fragments)
  | _ => exact absurd hc id

/-- The call works on valid objects. -/
theorem fits_of_isReadyAt : call.Fits agent := by
  cases call with
  | discoverBridge network on | substituteConfig network on | substituteMetadata network on =>
    obtain ⟨rfl, rfl⟩ := hc
    exact ⟨hr.network, hh⟩
  | _ => exact absurd hc id

/-- An agent is ready for the network after the call. -/
theorem IsReadyAt.perform : (agent.perform call).2.IsReadyAt handle := by
  have hadvances := perform_advances hr.settings hr.fragments (fits_of_isReadyAt hr hh hc)
  constructor
  · rw [hadvances.settings]
    exact hr.settings
  · exact holds_networks_perform hr hc
  · exact hadvances.networks handle hr.network
  · intro files hfiles
    rw [filesOf_perform hr hh hc] at hfiles
    obtain ⟨before, hbefore, rfl⟩ := Option.map_eq_some_iff.mp hfiles
    rw [Call.keys_filesAfter]
    exact hr.files before hbefore
  · rw [hadvances.store]
    exact hr.fragments

variable (hl : host.HasFinalLabels)
include hl

/-- A call brings the files of the network nearer to the substituted ones: substituting all of them
gives the same before and after it. -/
theorem perform_substitutesTo : SubstitutesTo handle host agent (agent.perform call).2 := by
  have hfiles := filesOf_perform hr hh hc
  have hadvances := perform_advances hr.settings hr.fragments (fits_of_isReadyAt hr hh hc)
  -- Both things that a call may make of the files lead to the same and keep substituted files.
  have hsame : ∀ files, agent.filesOf handle = some files →
      Tree.substituteEntries host (call.filesAfter agent.settings host files) =
          Tree.substituteEntries host files ∧
        (Tree.substituteEntries host files = files →
          call.filesAfter agent.settings host files = files) := by
    intro files hfound
    have hd := hr.files files hfound
    unfold Call.filesAfter
    split
    · exact ⟨Bridge.substituteEntries_rewritten hd hh hl, Bridge.rewritten_eq_self hd⟩
    · exact ⟨Tree.substituteEntries_substituteEntries hh hl files, id⟩
  refine ⟨hr.perform hh hc, hadvances.settings, ?_, ?_⟩
  · cases hfound : agent.filesOf handle with
    | none => rw [hfiles, hfound, Option.map_none]
    | some files =>
      rw [hfiles, hfound, Option.map_some, Option.map_some, Option.map_some, (hsame files hfound).1]
  · intro hsubstituted
    unfold IsSubstitutedAt at hsubstituted ⊢
    cases hfound : agent.filesOf handle with
    | none => rw [hfiles, hfound, Option.map_none, Option.map_none]
    | some files =>
      rw [hfound, Option.map_some, Option.some.injEq] at hsubstituted
      rw [hfiles, hfound, Option.map_some, (hsame files hfound).2 hsubstituted, Option.map_some,
        hsubstituted]

end

section

variable (hh : Record.isValid host = true) (hl : host.HasFinalLabels)
include hh hl

/-- After a call that substitutes, everything is substituted. -/
theorem isSubstitutedAt_perform (hr : agent.IsReadyAt handle) {call : Call}
    (hc : call.Substitutes handle host) : (agent.perform call).2.IsSubstitutedAt handle host := by
  have hfiles : (agent.perform call).2.filesOf handle =
      (agent.filesOf handle).map (Tree.substituteEntries host) := by
    cases call with
    | substituteConfig network on | substituteMetadata network on =>
      exact filesOf_perform hr hh hc
    | _ => exact absurd hc id
  rw [IsSubstitutedAt, hfiles, Option.map_map]
  congr 1
  funext files
  exact Tree.substituteEntries_substituteEntries hh hl files

/-- A run of calls brings the files of the network nearer to the substituted ones. -/
theorem run_substitutesTo (hr : agent.IsReadyAt handle) {calls : List Call}
    (hc : ∀ call ∈ calls, call.DiscoversOrSubstitutes handle host) :
    SubstitutesTo handle host agent (agent.run calls).2 := by
  induction calls generalizing agent with
  | nil => exact .refl hr host
  | cons call rest ih =>
    have hstep := perform_substitutesTo hr hh (hc call List.mem_cons_self) hl
    exact hstep.trans (ih hstep.ready fun other ho => hc other (List.mem_cons_of_mem _ ho))

/-- After a run in which some call substitutes, everything is substituted. -/
theorem isSubstitutedAt_run (hr : agent.IsReadyAt handle) {calls : List Call}
    (hc : ∀ call ∈ calls, call.DiscoversOrSubstitutes handle host)
    (hs : ∃ call ∈ calls, call.Substitutes handle host) :
    (agent.run calls).2.IsSubstitutedAt handle host := by
  induction calls generalizing agent with
  | nil => simp at hs
  | cons call rest ih =>
    have hrest : ∀ other ∈ rest, other.DiscoversOrSubstitutes handle host :=
      fun other ho => hc other (List.mem_cons_of_mem _ ho)
    have hstep := perform_substitutesTo hr hh (hc call List.mem_cons_self) hl
    obtain ⟨substituting, hm, hsub⟩ := hs
    rcases List.mem_cons.mp hm with rfl | hm
    · -- The calls behind the substitution leave the files as they are.
      exact (run_substitutesTo hh hl hstep.ready hrest).substituted
        (isSubstitutedAt_perform hh hl hr hsub)
    · exact ih hstep.ready hrest ⟨substituting, hm, hsub⟩

end

/-- Discovery and substitution commute. In a run that discovers the bridge of a network on a host
with final labels and substitutes the host's labels in its configuration files or in its whole
metadata, in any order and any number of times, every discovery finds the bridge that a discovery on
the first network finds; and at every moment behind the first substitution, the files are the
substituted files of the first network, or there are none if there were none. -/
theorem run_discovers_and_substitutes (hr : agent.IsReadyAt handle)
    (hh : Record.isValid host = true) (hl : host.HasFinalLabels) {calls : List Call}
    (hc : ∀ call ∈ calls, call.DiscoversOrSubstitutes handle host) :
    ∃ info, (agent.discoverBridge handle host).1 = .ok info ∧
      ∀ i, (calls[i]? = some (.discoverBridge handle host) →
          (agent.run calls).1[i]? = some (.bridge info)) ∧
        ((∃ call ∈ calls.take i, call.Substitutes handle host) →
          (agent.run (calls.take i)).2.filesOf handle =
            (agent.filesOf handle).map (Tree.substituteEntries host)) := by
  refine ⟨_, discoverBridge_eq_infoOn hr hh, fun i => ?_⟩
  have htake : ∀ call ∈ calls.take i, call.DiscoversOrSubstitutes handle host :=
    fun call hm => hc call (List.mem_of_mem_take hm)
  have hrun := run_substitutesTo hh hl hr htake
  constructor
  · intro hi
    have hinfo := discoverBridge_eq_infoOn hrun.ready hh
    have hsame : ((agent.run (calls.take i)).2.filesOf handle).map
        (Bridge.infoOn agent.settings host) =
          (agent.filesOf handle).map (Bridge.infoOn agent.settings host) := by
      -- The bridge is read off the files once all of them are substituted.
      have hread : Bridge.infoOn agent.settings host =
          (fun files => Bridge.infoOf agent.settings
            (Bridge.visited agent.settings (Bridge.byName files))) ∘
              Tree.substituteEntries host := rfl
      rw [hread, ← Option.map_map, hrun.files, Option.map_map]
    rw [hrun.settings, hsame] at hinfo
    rw [getElem?_run, hi, Option.map_some]
    simp only [perform, Prod.map, hinfo, Reply.ofExcept]
  · intro hsub
    have hsubstituted := isSubstitutedAt_run hh hl hr htake hsub
    rw [IsSubstitutedAt, hrun.files] at hsubstituted
    exact hsubstituted.symm

end Agent

/-- Configuration files of which only the first by name declares a bridge, by reference. The last is
a reference itself and no mapping, so no discovery substitutes it. -/
def Bridge.scattered : Table String Tree :=
  [("20-late.conf", .mapping [("bridge", .text "__host_label__: bridge")]),
    ("10-early.conf", .mapping [("type", .text "rancher-bridge"),
      ("bridge", .text "__host_label__: bridge"), ("bridgeSubnet", .text "10.42.0.0/16")]),
    ("30-note", .text "__host_label__: bridge")]

/-- The same files with the text of the label in the place of each reference. -/
def Bridge.gathered : Table String Tree :=
  [("20-late.conf", .mapping [("bridge", .text "br-lab")]),
    ("10-early.conf", .mapping [("type", .text "rancher-bridge"),
      ("bridge", .text "br-lab"), ("bridgeSubnet", .text "10.42.0.0/16")]),
    ("30-note", .text "br-lab")]

/-- A network with the scattered files. -/
def Network.scattered : Network where
  metadata := .mapping [("cniConfig", .mapping Bridge.scattered),
    ("note", .text "__host_label__: bridge")]

/-- A discovery, a substitution in the metadata, and another discovery. -/
def Call.alternating (handle : Handle Network) (host : Host) : List Call :=
  [.discoverBridge handle host, .substituteMetadata handle host, .discoverBridge handle host]

/-- The last of these calls finds the bridge of the scattered network as the first does, although
all files were substituted in between. -/
theorem Agent.discovers_alternating :
    let agent : Agent := { store := { networks := ⟨[Network.scattered]⟩ } }
    let host : Host := { labels := .mapping [("bridge", .text "br-lab")] }
    let calls := Call.alternating ⟨0⟩ host
    (agent.run calls).1[0]? = some (.bridge ⟨"br-lab", "10.42.0.0/16"⟩) ∧
      (agent.run calls).1[2]? = some (.bridge ⟨"br-lab", "10.42.0.0/16"⟩) ∧
      (agent.run (calls.take 2)).2.filesOf ⟨0⟩ =
        some Bridge.gathered := by
  intro agent host calls
  have hfiles : agent.filesOf ⟨0⟩ = some Bridge.scattered := rfl
  have hr : agent.IsReadyAt ⟨0⟩ := by
    constructor
    · decide
    · decide
    · decide
    · intro files hfound
      rw [← Option.some.inj (hfiles.symm.trans hfound)]
      decide
    · rfl
  have hh : Record.isValid host = true := by decide
  have hl : host.HasFinalLabels := by
    intro name
    by_cases hname : name = "bridge" <;>
      simp [host, Tree.textAt, Tree.get?, Tree.entries?, Table.get?_cons, hname,
        Tree.textOrEmpty] <;> decide
  have hc : ∀ call ∈ calls, call.DiscoversOrSubstitutes ⟨0⟩ host := by
    intro call hm
    simp only [calls, Call.alternating, List.mem_cons, List.not_mem_nil, or_false] at hm
    rcases hm with rfl | rfl | rfl <;> exact ⟨rfl, rfl⟩
  obtain ⟨info, hfirst, hrun⟩ := run_discovers_and_substitutes hr hh hl hc
  have hgathered : Tree.substituteEntries host Bridge.scattered = Bridge.gathered := rfl
  have hinfo : info = ⟨"br-lab", "10.42.0.0/16"⟩ := by
    have hsorted : Bridge.byName Bridge.gathered =
        [("10-early.conf", .mapping [("type", .text "rancher-bridge"),
            ("bridge", .text "br-lab"), ("bridgeSubnet", .text "10.42.0.0/16")]),
          ("20-late.conf", .mapping [("bridge", .text "br-lab")]),
          ("30-note", .text "br-lab")] := by
      simp [Bridge.byName, Bridge.gathered, List.mergeSort, List.MergeSort.Internal.splitInTwo]
    rw [discoverBridge_eq_infoOn hr hh, hfiles, Option.map_some, Option.getD_some, Bridge.infoOn,
      hgathered, hsorted, Except.ok.injEq] at hfirst
    rw [← hfirst]
    decide
  rw [hinfo] at hrun
  have hsubstitutes : ∃ call ∈ calls.take 2, call.Substitutes ⟨0⟩ host :=
    ⟨.substituteMetadata ⟨0⟩ host, by simp [calls, Call.alternating], rfl, rfl⟩
  refine ⟨(hrun 0).1 rfl, (hrun 2).1 rfl, ?_⟩
  rw [(hrun 2).2 hsubstitutes, hfiles, Option.map_some, hgathered]

end HostOverlay
