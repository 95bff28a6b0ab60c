import HostOverlay.Tree

/-!
# Equality of values

Two configuration values count as equal if they say the same. Texts and sequences are compared in
order, mappings without regard to the order of their entries, and numbers by their amount; the
truth values have the amounts one and zero. Values of different kinds are never equal otherwise.
-/

namespace HostOverlay.Tree

/-- The amount of a number or a truth value, as a mantissa and a decimal exponent. -/
def amount? : Tree → Option (Int × Nat)
  | bool value => some (if value then 1 else 0, 0)
  | number mantissa exponent => some (mantissa, exponent)
  | _ => none

/-- Whether two amounts are equal; each mantissa is scaled by the other's exponent. -/
def sameAmount (a b : Int × Nat) : Bool :=
  a.1 * Int.ofNat (Nat.pow 10 b.2) == b.1 * Int.ofNat (Nat.pow 10 a.2)

mutual

/-- Whether two values say the same. -/
def same : Tree → Tree → Bool
  | null, null => true
  | text a, text b => a == b
  | sequence a, sequence b => sameItems a b
  | mapping a, mapping b => a.length == b.length && sameEntries a b
  | link a, link b => a == b
  | a, b =>
    match a.amount?, b.amount? with
    | some x, some y => sameAmount x y
    | _, _ => false

/-- Whether two lists of values say the same, item by item. -/
def sameItems : List Tree → List Tree → Bool
  | [], [] => true
  | a :: as, b :: bs => same a b && sameItems as bs
  | _, _ => false

/-- Whether every entry has an equal one under the same key of a table. -/
def sameEntries : List (String × Tree) → Table String Tree → Bool
  | [], _ => true
  | (key, value) :: rest, table =>
    (match Table.get? table key with
      | some other => same value other
      | none => false)
    && sameEntries rest table

end

instance : BEq Tree := ⟨same⟩

/-- A value is equal to a text exactly if it is that text. -/
theorem beq_text_iff (value : Tree) (content : String) :
    (value == text content) = true ↔ value = text content := by
  cases value <;> simp [BEq.beq, same, amount?]

/-- A text is equal to a value exactly if the value is that text. -/
theorem text_beq_iff (content : String) (value : Tree) :
    (text content == value) = true ↔ value = text content := by
  cases value <;> simp [BEq.beq, same, amount?, eq_comm]

/-- A text is a sharp key: values compare equal to it only if they are that text. -/
theorem isSharp_text (content : String) : Table.IsSharp (text content) where
  left := text_beq_iff content
  right value := beq_text_iff value content

end HostOverlay.Tree
