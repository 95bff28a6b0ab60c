import HostOverlay.Inspection

/-!
# The networks of an interface

An interface has one network for each of its IPv4 entries, unless one of them is malformed: then the
first of these is the failure (`Inspection.blocks_of_get?_eq_some`). Entries of other families are not read
at all, so only the IPv4 entries under the name of the interface matter
(`Inspection.blocks_congr_counted`).
-/

namespace HostOverlay.Inspection

/-- The entries of an interface that count: those of IPv4. -/
def counted (entries : List ListedAddress) : List ListedAddress :=
  entries.filter fun entry => entry.family = .inet

/-- The text as which an entry is read: its address, with its mask in the place of the length. -/
def entryText (entry : ListedAddress) : String := entry.address ++ "/" ++ maskText entry

/-- The address with a prefix length that an entry is read as. -/
def cidr? (entry : ListedAddress) : Option Cidr := Cidr.ofText? (entryText entry).toList

/-- Whether an entry counts and cannot be read. -/
def isMalformed (entry : ListedAddress) : Bool := entry.family = .inet && (cidr? entry).isNone

/-- The network of an entry that can be read is that of the address it is read as. -/
theorem blockOf_of_cidr?_eq_some {entry : ListedAddress} {cidr : Cidr}
    (h : cidr? entry = some cidr) : blockOf entry = .ok cidr.block := by
  rw [cidr?, entryText] at h
  rw [blockOf, Cidr.read, h]
  rfl

/-- An entry that cannot be read has no network. -/
theorem blockOf_of_cidr?_eq_none {entry : ListedAddress} (h : cidr? entry = none) :
    blockOf entry = .error (.noAddress (entryText entry)) := by
  rw [cidr?, entryText] at h
  rw [blockOf, Cidr.read, h]
  rfl

/-- An entry has a network if it can be read, that of the address it is read as. -/
theorem blockOf_eq_ok_iff {entry : ListedAddress} {network : Block} :
    blockOf entry = .ok network ↔ ∃ cidr, cidr? entry = some cidr ∧ network = cidr.block := by
  cases hc : cidr? entry with
  | none =>
    rw [blockOf_of_cidr?_eq_none hc]
    simp
  | some cidr =>
    rw [blockOf_of_cidr?_eq_some hc, Except.ok.injEq]
    simp [eq_comm]

/-- An entry counts and cannot be read if it is of IPv4 and its text denotes no address. -/
theorem isMalformed_iff {entry : ListedAddress} :
    isMalformed entry = true ↔ entry.family = .inet ∧ cidr? entry = none := by
  simp [isMalformed]

/-- The networks of entries, or the first malformed one. -/
theorem mapM_blockOf_counted (entries : List ListedAddress) :
    (counted entries).mapM blockOf =
      match entries.find? isMalformed with
      | some entry => .error (.noAddress (entryText entry))
      | none => .ok ((counted entries).filterMap fun entry => (cidr? entry).map Cidr.block) := by
  induction entries with
  | nil => rfl
  | cons entry rest ih =>
    by_cases hf : entry.family = .inet
    · have hcounted : counted (entry :: rest) = entry :: counted rest := by simp [counted, hf]
      rw [hcounted, List.mapM_cons]
      cases hc : cidr? entry with
      | none =>
        rw [blockOf_of_cidr?_eq_none hc, List.find?_cons_of_pos (isMalformed_iff.mpr ⟨hf, hc⟩)]
        rfl
      | some cidr =>
        have hn : ¬ isMalformed entry = true := by simp [isMalformed, hc]
        rw [blockOf_of_cidr?_eq_some hc, ih, List.find?_cons_of_neg hn]
        cases rest.find? isMalformed with
        | some malformed => rfl
        | none => simp [hc, bind, Except.bind, pure, Except.pure]
    · have hcounted : counted (entry :: rest) = counted rest := by simp [counted, hf]
      have hn : ¬ isMalformed entry = true := by simp [isMalformed, hf]
      rw [hcounted, ih, List.find?_cons_of_neg hn]

/-- The networks of an interface are read off its IPv4 entries, if it is listed. -/
theorem blocks_ok (table : Listing) (interface : String) :
    blocks (.ok table) interface =
      match (Table.get? table interface).map counted with
      | none => .error (.noInterface interface)
      | some entries => (entries.mapM blockOf).mapError .badAddress := by
  rw [blocks, addresses]
  cases Table.get? table interface <;> rfl

/-- Nothing but the IPv4 entries under the name of an interface matters to its networks. -/
theorem blocks_congr_counted {table table' : Listing} {interface : String}
    (h : (Table.get? table' interface).map counted = (Table.get? table interface).map counted) :
    blocks (.ok table') interface = blocks (.ok table) interface := by
  rw [blocks_ok, blocks_ok, h]

/-- An interface that is not listed has no networks. -/
theorem blocks_of_get?_eq_none {table : Listing} {interface : String}
    (hi : Table.get? table interface = none) :
    blocks (.ok table) interface = .error (.noInterface interface) := by
  rw [blocks_ok, hi]
  rfl

/-- An interface that is listed has the networks of its IPv4 entries, or fails with the first that
is malformed. -/
theorem blocks_of_get?_eq_some {table : Listing} {interface : String}
    {entries : List ListedAddress} (hi : Table.get? table interface = some entries) :
    blocks (.ok table) interface =
      match entries.find? isMalformed with
      | some entry => .error (.badAddress (.noAddress (entryText entry)))
      | none => .ok ((counted entries).filterMap fun entry => (cidr? entry).map Cidr.block) := by
  rw [blocks_ok, hi, Option.map_some]
  simp only [mapM_blockOf_counted]
  cases entries.find? isMalformed <;> rfl

end HostOverlay.Inspection
