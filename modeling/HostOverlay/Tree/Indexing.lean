import HostOverlay.Position
import HostOverlay.Tree.Printer

/-!
# Elements of values

A value that stands where a list should be can still be asked for the element at a position, or to
lose it. A text has characters at positions and loses none of them. A dictionary takes the position
for a key. No other value has elements.
-/

namespace HostOverlay.Tree

/-- What entries have under a value that is taken for a key: the key and its entry. -/
def entryAt (entries : Table String Tree) (key : Tree) : Except Misfit (String × Tree) :=
  match key.keyMisfit?, key with
  | some cause, _ => .error cause
  | none, text name =>
    match Table.get? entries name with
    | some value => .ok (name, value)
    | none => .error (.noEntry key.written)
  | none, _ => .error (.noEntry key.written)

/-- What a value has at a position. -/
def elementAt (value position : Tree) : Except Misfit Tree :=
  match value with
  | text content => do
    let cs := content.toList
    let index ← Position.locateIndex .character .notTextPosition cs.length position
    return text (String.ofList ((cs.drop index).take 1))
  | mapping entries => return (← entryAt entries position).2
  | value => .error (.notIndexed value.kind)

/-- A value without what it has at a position. -/
def removeAt (value position : Tree) : Except Misfit Tree :=
  match value with
  | text _ =>
    match Position.whole? position with
    | some place => .error (if Position.fits place then .textRemoval else .farPosition)
    | none => .error (.notRemovable .text)
  | mapping entries => return mapping (Table.erase (← entryAt entries position).1 entries)
  | value => .error (.notRemovable value.kind)

end HostOverlay.Tree
