import HostOverlay.Cluster.Host
import HostOverlay.Text.Blank

/-!
# References to host labels

A text that begins with `__host_label__` is a reference. The label it names is what follows its
first colon, without the blanks at both ends; a reference without a colon names nothing. A host
expands a reference to the value of the label, and to the empty text if there is nothing to read.
The labels of a valid host are texts; a label that was assigned another value expands to it.
-/

namespace HostOverlay

/-- What a reference refers to. -/
inductive Reference where
  /-- The host label of this name. -/
  | label (name : String)
  /-- Nothing, for want of a colon. -/
  | nothing
deriving DecidableEq, Repr

namespace Reference

/-- The word with which every reference begins. -/
def keyword : String := "__host_label__"

/-- What follows the first colon of a text. -/
def afterColon? : List Char → Option (List Char)
  | [] => none
  | c :: rest => if c = ':' then some rest else afterColon? rest

/-- The reference that a text is, if it is one. -/
def ofText? (text : String) : Option Reference :=
  if keyword.toList.isPrefixOf text.toList then
    match afterColon? text.toList with
    | none => some nothing
    | some rest => some (label (String.ofList (Text.strip rest)))
  else none

end Reference

namespace Host

/-- What a reference stands for on a host. -/
def deref (host : Host) : Reference → Tree
  | .label name => host.labelValue name
  | .nothing => .emptyText

/-- What a text becomes on a host: a reference is replaced by what it stands for, and any other
text stays. -/
def expand (host : Host) (text : String) : Tree :=
  match Reference.ofText? text with
  | some reference => host.deref reference
  | none => .text text

/-- Why a text cannot be expanded: it refers to a label, and the host's labels cannot be read. -/
def expandMisfit? (host : Host) (text : String) : Option Misfit :=
  match Reference.ofText? text with
  | some (.label _) => host.labelsMisfit?
  | some .nothing | none => none

end Host

end HostOverlay
