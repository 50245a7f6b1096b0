import Dashboard.Number.Binary

/-!
# Slots

A set of numbers is listed in the order of the slots that it is kept in.

* `Binary.hash?` is the hash of a number: its value modulo the prime `2 ^ 61 - 1`, so that equal
  numbers have one hash whatever their type.
* `Slots.add` puts an item in the first free slot, starting from the one that its hash says.
* `Slots.sorted` lists items in the order of their slots.
-/

namespace Dashboard

/-- The hash of a rational number is counted modulo this prime. -/
def hashPrime : Nat := Nat.pow 2 61 - 1

/-- The hash of `± n`. Minus one is no hash, and minus two stands for it. -/
def hashOf (negative : Bool) (n : Nat) : Int :=
  let h := signed negative (n % hashPrime)
  if h = -1 then -2 else h

/-- The hash of what a double stands for. A power of two depends on its exponent modulo 61 only,
because `2 ^ 61` leaves one. -/
def Binary.hash? : Binary → Option Int
  | .nan => none
  | .infinite negative => some (signed negative 314159)
  | .finite negative m q => some (hashOf negative (m * Nat.pow 2 (Int.fmod q 61).toNat))

/-- Slots, which are free or hold an item. -/
abbrev Slots (α : Type) := Array (Option α)

namespace Slots

variable {α : Type}

/-- The first power of two from `size` on that is more than twice the count; `steps` bounds the
number of doublings. -/
def sizeFrom (count : Nat) : Nat → Nat → Nat
  | 0, size => size
  | steps + 1, size => if 2 * count < size then size else sizeFrom count steps (2 * size)

/-- The number of slots for a count of items. Eight are enough for four items. -/
def sizeFor (count : Nat) : Nat := if count < 5 then 8 else sizeFrom count count 8

/-- The slots that are tried together: ten in a row, or one alone near the end. -/
def row (size i : Nat) : List Nat := if i + 9 < size then List.range' i 10 else [i]

/-- The slot is free. -/
def isFree (t : Slots α) (i : Nat) : Bool := (t.getD i none).isNone

/-- The first free slot from the slot `i` on. When a row is full, the slot to go on from depends on
what is left of the hash; `steps` bounds the number of rows. -/
def freeFrom? (t : Slots α) : Nat → Nat → Nat → Option Nat
  | 0, _, _ => none
  | steps + 1, i, left =>
    ((row t.size i).find? t.isFree).or
      (t.freeFrom? steps ((5 * i + 1 + left / 32) % t.size) (left / 32))

/-- Puts an item in the slot that its hash leads to. -/
def add (t : Slots α) (hash : Int) (item : α) : Slots α :=
  match t.freeFrom? (t.size + 13) (hash % t.size).toNat (hash % Nat.pow 2 64).toNat with
  | some i => t.setIfInBounds i (some item)
  | none => t

/-- Items with their hashes in the order of their slots. -/
def sorted (items : List (Int × α)) : List α :=
  let empty : Slots α := Array.replicate (sizeFor items.length) none
  (items.foldl (fun t e => t.add e.1 e.2) empty).toList.filterMap id

end Slots
end Dashboard
