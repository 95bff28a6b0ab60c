import HostOverlay.Failure
import HostOverlay.Fragment.Basic
import HostOverlay.Substitution

/-!
# Substitution in place

A pass of substitution goes through a tree and through the fragments that the tree leads to, entry
by entry. It changes the fragments as it goes through them, so a fragment that is part of itself is
found changed when the pass comes to it again. Such a fragment has no end: a pass that follows it
gives up when it is too many mappings deep. It also stops at a reference that cannot be expanded.
What a pass changed before it stopped stays changed. A label that is put in the place of a
reference is not gone through in the same pass. If the labels of the host can be read and there
are no fragments, a pass is the substitution of the whole tree.
-/

namespace HostOverlay

/-- A pass of substitution under way. -/
structure Pass where
  /-- The fragments as they are now. -/
  fragments : Fragments
  /-- What stopped the pass, if it was stopped. -/
  failure? : Option Failure := none

namespace Pass

/-- The level of the deepest mapping that a pass follows a link to. The mapping of a network's
configuration files has level one, and a mapping inside another has the next level. -/
def deepest : Nat := 994

/-- Stops a pass. -/
def stop (pass : Pass) (cause : Misfit) : Pass := { pass with failure? := some (.misfit cause) }

/-- Stops a pass that goes on, if there is a cause. -/
def check (pass : Pass) (cause? : Option Misfit) : Pass :=
  match pass.failure?, cause? with
  | none, some cause => pass.stop cause
  | _, _ => pass

/-- Without a cause a pass goes on as it is. -/
@[simp] theorem check_none (pass : Pass) : pass.check none = pass := by
  unfold check
  split <;> simp_all

/-- What came of a pass: a value, unless the pass was stopped. -/
def result {α : Type} (pass : Pass) (value : α) : Except Failure α :=
  match pass.failure? with
  | some failure => .error failure
  | none => .ok value

end Pass

namespace Tree

mutual

/-- A pass through a value that a mapping of the given level holds; `follow` is the pass through
the fragment of the given level. -/
def passHeld (host : Host) (follow : Nat → Nat → Pass → Pass) :
    Nat → Tree → Pass → Tree × Pass
  | _, text value, pass =>
    match host.expandMisfit? value with
    | some cause => (text value, pass.stop cause)
    | none => (host.expand value, pass)
  | level, mapping entries, pass =>
    let (entries, pass) := passEntries host follow (level + 1) entries pass
    (mapping entries, pass)
  | level, link fragment, pass => (link fragment, follow (level + 1) fragment pass)
  | _, null, pass => (null, pass)
  | _, bool value, pass => (bool value, pass)
  | _, number mantissa exponent, pass => (number mantissa exponent, pass)
  | _, sequence items, pass => (sequence items, pass)

/-- A pass through the entries of a mapping of the given level. -/
def passEntries (host : Host) (follow : Nat → Nat → Pass → Pass) :
    Nat → List (String × Tree) → Pass → List (String × Tree) × Pass
  | _, [], pass => ([], pass)
  | level, (key, value) :: rest, pass =>
    if pass.failure?.isSome then ((key, value) :: rest, pass)
    else
      let (value, pass) := passHeld host follow level value pass
      let (rest, pass) := passEntries host follow level rest pass
      ((key, value) :: rest, pass)

end

end Tree

namespace Fragments

/-- A pass through the value that a fragment holds under a key by the time the pass comes to it. -/
def visit (host : Host) (follow : Nat → Pass → Pass) (fragment : Nat) (pass : Pass)
    (key : String) : Pass :=
  match pass.failure?, Table.get? (pass.fragments.entries fragment) key with
  | none, some value =>
    let (value, pass) := Tree.passHeld host (fun _ => follow) 0 value pass
    { pass with fragments := pass.fragments.put fragment key value }
  | _, _ => pass

/-- A pass through a fragment and the fragments behind it, down to a number of levels. -/
def follow (host : Host) : Nat → Nat → Pass → Pass
  | 0, fragment, pass => if fragment < pass.fragments.size then pass.stop .endless else pass
  | levels + 1, fragment, pass =>
    (Table.keys (pass.fragments.entries fragment)).foldl
      (Fragments.visit host (follow host levels) fragment) pass

/-- A pass through a fragment of the given level. -/
def followAt (host : Host) (level : Nat) : Nat → Pass → Pass :=
  follow host (Pass.deepest + 1 - level)

/-- Where there are no fragments, there is nothing to follow. -/
theorem followAt_eq (host : Host) (level fragment : Nat) {pass : Pass}
    (h : pass.fragments.size = 0) : followAt host level fragment pass = pass := by
  have he := entries_of_size_eq_zero h fragment
  unfold followAt
  cases Pass.deepest + 1 - level <;> simp [follow, h, he, Table.keys]

end Fragments

/-- A pass through a whole tree of the given level. A root that is neither a mapping nor a link to
one stays as it is. -/
def Tree.pass (host : Host) (level : Nat) (tree : Tree) (pass : Pass) : Tree × Pass :=
  match tree with
  | .mapping entries =>
    let (entries, pass) := Tree.passEntries host (Fragments.followAt host) level entries pass
    (.mapping entries, pass)
  | .link fragment => (.link fragment, Fragments.followAt host level fragment pass)
  | tree => (tree, pass)

namespace Tree

/-- A host whose labels can be read expands every text. -/
theorem expandMisfit?_eq_none {host : Host} (h : host.labelsMisfit? = none) (value : String) :
    host.expandMisfit? value = none := by
  unfold Host.expandMisfit?
  split <;> simp [h]

mutual

/-- With readable labels and nothing to follow, a pass through a held value substitutes it. -/
theorem passHeld_eq {host : Host} (h : host.labelsMisfit? = none)
    {follow : Nat → Nat → Pass → Pass} {pass : Pass}
    (hf : ∀ level fragment, follow level fragment pass = pass) (hp : pass.failure? = none) :
    ∀ (level : Nat) (tree : Tree),
      passHeld host follow level tree pass = (substituteHeld host tree, pass)
  | level, text value => by simp [passHeld, substituteHeld, expandMisfit?_eq_none h]
  | level, mapping entries => by
    simp [passHeld, substituteHeld, passEntries_eq h hf hp (level + 1) entries]
  | level, link fragment => by simp [passHeld, substituteHeld, hf]
  | level, null | level, bool _ | level, number .. | level, sequence _ => by
    simp [passHeld, substituteHeld]

/-- With readable labels and nothing to follow, a pass through entries substitutes them. -/
theorem passEntries_eq {host : Host} (h : host.labelsMisfit? = none)
    {follow : Nat → Nat → Pass → Pass} {pass : Pass}
    (hf : ∀ level fragment, follow level fragment pass = pass) (hp : pass.failure? = none) :
    ∀ (level : Nat) (entries : List (String × Tree)),
      passEntries host follow level entries pass = (substituteEntries host entries, pass)
  | _, [] => by simp [passEntries, substituteEntries]
  | level, (key, value) :: rest => by
    simp [passEntries, substituteEntries, hp, passHeld_eq h hf hp level value,
      passEntries_eq h hf hp level rest]

end

/-- With readable labels and without fragments, a pass is the substitution of the tree. -/
theorem pass_eq {host : Host} (h : host.labelsMisfit? = none) {pass : Pass}
    (hs : pass.fragments.size = 0) (hp : pass.failure? = none) (level : Nat) (tree : Tree) :
    tree.pass host level pass = (tree.substitute host, pass) := by
  have hf : ∀ level fragment, Fragments.followAt host level fragment pass = pass :=
    fun level fragment => Fragments.followAt_eq host level fragment hs
  cases tree <;> simp [Tree.pass, substitute, hf, passEntries_eq h hf hp]

end Tree

end HostOverlay
