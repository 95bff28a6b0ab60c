import HostOverlay.Proofs.Address.Groups

/-!
# The printed text of an IPv6 address

The text that is printed writes every group in small hexadecimal digits without zeros in front, and
leaves out the first of the longest runs of zero groups if that has at least two. `IPv6.Compresses`
says so without the search for the run, and `IPv6.compresses_iff` shows that the printed text is the
one that it allows. What is printed writes the address (`IPv6.writes_toText`).

The search goes through the places at which a run can start and keeps the best one so far
(`IPv6.IsBestBelow`).
-/

namespace HostOverlay.Address.IPv6

/-- Whether there are zero groups at every place of a run. -/
def IsZeroRun (groups : List Nat) (run : Run) : Prop :=
  (groups.drop run.start).take run.length = List.replicate run.length 0

/-- Whether a text is the compressed text of an address. -/
inductive Compresses (address : BitVec 128) : List Char → Prop
  /-- All groups are written if no two zero groups stand side by side. -/
  | whole (h : ∀ run, IsZeroRun (groups address) run → run.length < 2) :
      Compresses address (joinGroups (groups address))
  /-- The first of the longest runs of two or more zero groups is left out. -/
  | cut {run : Run} (hr : IsZeroRun (groups address) run) (htwo : 2 ≤ run.length)
      (hlongest : ∀ other, IsZeroRun (groups address) other → other.length ≤ run.length)
      (hfirst : ∀ other, IsZeroRun (groups address) other → other.length = run.length →
        run.start ≤ other.start) :
      Compresses address (joinGroups ((groups address).take run.start) ++ [':', ':'] ++
        joinGroups ((groups address).drop (run.start + run.length)))

/-- So many zero groups stand in front if the first groups, as many, are zero. -/
theorem le_zerosInFront_iff {groups : List Nat} {count : Nat} :
    count ≤ zerosInFront groups ↔ groups.take count = List.replicate count 0 := by
  induction groups generalizing count with
  | nil => cases count <;> simp [zerosInFront, List.replicate_succ]
  | cons group rest ih =>
    cases count with
    | zero => simp
    | succ count =>
      by_cases hg : group = 0
      · have hcons : zerosInFront (group :: rest) = zerosInFront rest + 1 := by
          simp [zerosInFront, hg]
        rw [hcons, Nat.add_le_add_iff_right, ih, List.take_succ_cons, List.replicate_succ, hg,
          List.cons.injEq, eq_self_iff_true, true_and]
      · have hcons : zerosInFront (group :: rest) = 0 := by simp [zerosInFront, hg]
        simp [hcons, List.replicate_succ, hg]

/-- A run is one of zero groups if so many stand in front of what begins with it. -/
theorem isZeroRun_iff {groups : List Nat} {run : Run} :
    IsZeroRun groups run ↔ run.length ≤ zerosInFront (groups.drop run.start) :=
  le_zerosInFront_iff.symm

/-- Whether a run is the best of those that start below a place. -/
structure IsBestBelow (groups : List Nat) (bound : Nat) (best : Run) : Prop where
  /-- It is a run of zero groups. -/
  isRun : IsZeroRun groups best
  /-- No run that starts below the place is longer. -/
  longest : ∀ start < bound, zerosInFront (groups.drop start) ≤ best.length
  /-- No run that starts before it is as long. -/
  first : ∀ start < best.start, zerosInFront (groups.drop start) < best.length

/-- The search keeps the best of the runs that it has seen. -/
theorem isBestBelow_longestRun (groups : List Nat) :
    IsBestBelow groups groups.length (longestRun groups) := by
  rw [longestRun]
  generalize groups.length = bound
  induction bound with
  | zero => exact ⟨rfl, by simp, by simp⟩
  | succ bound ih =>
    rw [List.range_succ, List.foldl_append, List.foldl_cons, List.foldl_nil]
    generalize (List.range bound).foldl _ _ = best at ih
    simp only
    split_ifs with hlonger
    · refine ⟨isZeroRun_iff.mpr le_rfl, fun start hs => ?_, fun start hs => ?_⟩
      · rcases Nat.lt_succ_iff_lt_or_eq.mp hs with hs | rfl
        · exact (ih.longest start hs).trans hlonger.le
        · exact le_rfl
      · exact (ih.longest start hs).trans_lt hlonger
    · refine ⟨ih.isRun, fun start hs => ?_, ih.first⟩
      rcases Nat.lt_succ_iff_lt_or_eq.mp hs with hs | rfl
      · exact ih.longest start hs
      · exact Nat.le_of_not_lt hlonger

/-- The run that the search ends with is the first of the longest. -/
theorem longestRun_spec {groups : List Nat} {run : Run} (h : IsZeroRun groups run) :
    run.length ≤ (longestRun groups).length ∧
      (run.length = (longestRun groups).length → (longestRun groups).start ≤ run.start) := by
  have hbest := isBestBelow_longestRun groups
  rw [isZeroRun_iff] at h
  constructor
  · by_cases hs : run.start < groups.length
    · exact h.trans (hbest.longest run.start hs)
    · -- Behind the end there are no groups.
      rw [List.drop_of_length_le (by omega)] at h
      exact (Nat.le_zero.mp h).le.trans (Nat.zero_le _)
  · intro hl
    by_contra hs
    have := hbest.first run.start (by omega)
    omega

/-- A text is the compressed text of an address exactly if it is the printed one. -/
theorem compresses_iff {address : BitVec 128} {text : List Char} :
    Compresses address text ↔ text = toText address := by
  have hbest := (isBestBelow_longestRun (groups address)).isRun
  rw [toText]
  constructor
  · intro h
    cases h with
    | whole h =>
      -- The best run is a run of zeros too, so it is short.
      have := h _ hbest
      rw [if_neg (by omega)]
    | @cut run hr htwo hlongest hfirst =>
      -- The run that is cut out and the best one are as long and start no later than each other.
      obtain ⟨hle, hstart⟩ := longestRun_spec hr
      have hlength : run.length = (longestRun (groups address)).length :=
        le_antisymm hle (hlongest _ hbest)
      have hrun : run = longestRun (groups address) := by
        have hs := le_antisymm (hfirst _ hbest hlength.symm) (hstart hlength)
        cases run
        simp_all
      rw [if_pos (hrun ▸ htwo), hrun]
  · rintro rfl
    split_ifs with htwo
    · exact .cut hbest htwo (fun other ho => (longestRun_spec ho).1)
        fun other ho => (longestRun_spec ho).2
    · exact .whole fun run hr => by
        have := (longestRun_spec hr).1
        omega

/-- Zero groups in the place of a run make up the groups. -/
theorem take_append_replicate_append_drop {groups : List Nat} {run : Run}
    (h : IsZeroRun groups run) :
    groups.take run.start ++ List.replicate run.length 0 ++
      groups.drop (run.start + run.length) = groups := by
  rw [IsZeroRun] at h
  rw [← h, ← List.drop_drop, List.append_assoc, List.take_append_drop, List.take_append_drop]

/-- The hexadecimal digits of groups are their numerals. -/
theorem forall₂_toDigits {groups : List Nat} (h : ∀ group ∈ groups, group < 65536) :
    List.Forall₂ WritesGroup (groups.map (Nat.toDigits 16)) groups := by
  rw [List.forall₂_map_left_iff, List.forall₂_same]
  exact fun group hg => writesGroup_toDigits (h group hg)

/-- Groups without a run of zeros, and two colons in its place, write all of them. -/
theorem writesGroups_of_isZeroRun {groups : List Nat} (hlt : ∀ group ∈ groups, group < 65536)
    {run : Run} (hr : IsZeroRun groups run) (hpos : 1 ≤ run.length) :
    WritesGroups (joinGroups (groups.take run.start) ++ [':', ':'] ++
      joinGroups (groups.drop (run.start + run.length))) groups := by
  have hfront : List.Forall₂ WritesGroup ((groups.take run.start).map (Nat.toDigits 16))
      (groups.take run.start) :=
    forall₂_toDigits fun group hg => hlt group (List.mem_of_mem_take hg)
  have hback : List.Forall₂ WritesGroup
      ((groups.drop (run.start + run.length)).map (Nat.toDigits 16))
      (groups.drop (run.start + run.length)) :=
    forall₂_toDigits fun group hg => hlt group (List.mem_of_mem_drop hg)
  have hcut := WritesGroups.cut hfront (writesParts_of_forall₂ hback) hpos
  rw [take_append_replicate_append_drop hr] at hcut
  rw [List.append_assoc]
  exact hcut

/-- The printed text of an address writes it. -/
theorem writes_toText (address : BitVec 128) : Writes (toText address) address := by
  have hlt : ∀ group ∈ groups address, group < 65536 := fun group => lt_of_mem_groups
  have hbest := (isBestBelow_longestRun (groups address)).isRun
  rw [toText, Writes]
  split_ifs with htwo
  · exact writesGroups_of_isZeroRun hlt hbest (by omega)
  · exact .whole (writesParts_of_forall₂ (forall₂_toDigits hlt))

end HostOverlay.Address.IPv6
