import HostOverlay.Misfit

/-!
# Positions in lists

A position names an element of a list: it counts from the front, and a negative one counts from
the end. It is given as a value, which has to be a whole number that some list could have as a
position; the truth values count as the numbers one and zero. An index is a position that counts
from the front and has an element.
-/

namespace HostOverlay.Position

variable {α : Type}

/-- The whole number that a value is. -/
def whole? : Tree → Option Int
  | .number mantissa 0 => some mantissa
  | .bool value => some (if value then 1 else 0)
  | _ => none

/-- Whether a number is small enough to be a position: positions have 64 bits, one of them for the
sign. -/
def fits (number : Int) : Bool :=
  -9223372036854775808 ≤ number && number ≤ 9223372036854775807

/-- The index of a position in a list of the given length. -/
def index? (length : Nat) (position : Int) : Option Nat :=
  let place := if position < 0 then position + length else position
  if 0 ≤ place ∧ place < length then some place.toNat else none

/-- The index that a value has as a position in a list or a text of the given length; `refusal` is
what is said of a value that is no whole number. -/
def locateIndex (access : Access) (refusal : Kind → Misfit) (length : Nat) (position : Tree) :
    Except Misfit Nat :=
  match whole? position with
  | none => .error (refusal position.kind)
  | some number =>
    if fits number then
      match index? length number with
      | some index => .ok index
      | none => .error (.outOfRange access)
    else .error .farPosition

/-- The index and the element that a value has as a position in a list. -/
def locate (access : Access) (l : List α) (position : Tree) : Except Misfit (Nat × α) := do
  let index ← locateIndex access .notPosition l.length position
  match l[index]? with
  | some a => return (index, a)
  | none => throw (.outOfRange access)

/-- A list with something inserted at a position; a position beyond an end counts as that end. -/
def insertAt (position : Int) (a : α) (l : List α) : List α :=
  let index := (if position < 0 then position + l.length else position).toNat
  l.take index ++ a :: l.drop index

/-- A list with something inserted at the position that a value is, or at the end if no position
is given. -/
def insert (position : Option Tree) (a : α) (l : List α) : Except Misfit (List α) :=
  match position with
  | none => .ok (l ++ [a])
  | some position =>
    match whole? position with
    | none => .error (.notWhole position.kind)
    | some number => if fits number then .ok (insertAt number a l) else .error .farInsertion

/-- The indices of the elements that pass a test. -/
def passing (test : α → Bool) (l : List α) : List Nat :=
  (l.zipIdx.filter fun entry => test entry.1).map Prod.snd

/-- Which elements pass their tests decides at which indices they do. -/
theorem passing_congr {β : Type} {test : α → Bool} {test' : β → Bool} {l : List α} {l' : List β}
    (h : l.map test = l'.map test') : passing test l = passing test' l' := by
  have hmap {γ : Type} (test : γ → Bool) (l : List γ) :
      passing test l = passing id (l.map test) := by
    simp [passing, List.zipIdx_map, List.filter_map, Function.comp_def]
  rw [hmap test, hmap test', h]

/-- The elements at the indices of those that pass a test are the ones that pass it. -/
theorem filterMap_passing (test : α → Bool) (l : List α) :
    (passing test l).filterMap (l[·]?) = l.filter test := by
  have hread : ∀ entry ∈ l.zipIdx.filter fun entry => test entry.1,
      l[entry.2]? = some entry.1 := by
    intro entry hm
    exact List.mk_mem_zipIdx_iff_getElem?.mp (List.mem_filter.mp hm).1
  calc (passing test l).filterMap (l[·]?)
      = ((l.zipIdx.filter fun entry => test entry.1).map fun entry =>
          l[entry.2]?).filterMap id := by
        rw [passing, List.filterMap_map, List.filterMap_map]
        rfl
    _ = ((l.zipIdx.filter fun entry => test entry.1).map fun entry =>
          some entry.1).filterMap id := by rw [List.map_congr_left hread]
    _ = (l.zipIdx.filter fun entry => test entry.1).map Prod.fst := by
        rw [List.filterMap_map]
        exact congrFun List.filterMap_eq_map _
    _ = (l.zipIdx.map Prod.fst).filter test := by
        rw [List.filter_map]
        rfl
    _ = l.filter test := by rw [List.zipIdx_map_fst]

end HostOverlay.Position
