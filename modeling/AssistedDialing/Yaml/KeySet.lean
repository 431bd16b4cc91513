import AssistedDialing.Yaml.Content

/-!
# Sets of keys

`KeySet.ofKeys` lists the members of a set. Equal keys are one member: a truth value equals the
number 0 or 1, and a floating-point number the integer without a fraction. A set that holds numbers
only is listed in the order of a table of slots: a number stands in the slot of its residue, or if
that is taken in the next one of a fixed sequence. Other sets are listed as they are written.
-/

namespace AssistedDialing.Yaml.KeySet

/-- `number? content` is the integer that a value equals, if there is one. -/
def number? : Content → Option Int
  | .bool value => some (if value then 1 else 0)
  | .int value => some value
  | .float value => value.integer?
  | _ => none

/-- `isSame a b` holds for equal keys. -/
def isSame (a b : Content) : Bool :=
  match number? a, number? b with
  | some m, some n => m = n
  | none, none =>
      match a, b with
      | .null, .null => true
      | .float x, .float y => x = y
      | .text s, .text t => s = t
      | .bytes s, .bytes t => s = t
      | .time s, .time t => s = t
      | _, _ => false
  | _, _ => false

/-- `distinctFrom known keys` is the keys that equal neither one before them nor one of `known`. -/
def distinctFrom : List Content → List Content → List Content
  | _, [] => []
  | known, key :: keys =>
      if known.any (isSame key) then distinctFrom known keys
      else key :: distinctFrom (key :: known) keys

/-- The prime number by which residues are taken. -/
def modulus : Nat := Nat.pow 2 61 - 1

/-- `signedResidue negative n` is a residue as a word of 64 bits. The word for -1 is not used. -/
def signedResidue (negative : Bool) (n : Nat) : UInt64 :=
  let word := UInt64.ofNat (n % modulus)
  if negative then (if word = 1 then -2 else -word) else word

/-- `residue? content` is the residue of a number. That of a fraction is the quotient of residues;
its denominator is a power of two, whose 61st power is 1. -/
def residue? : Content → Option UInt64
  | .bool value => some (if value then 1 else 0)
  | .int value => some (signedResidue (value < 0) value.natAbs)
  | .float (.infinite negative) => some (if negative then -314159 else 314159)
  | .float value => value.ratio?.map fun (negative, num, den) ↦
      signedResidue negative (num % modulus * Nat.pow 2 (61 - den.log2 % 61))
  | _ => none

/-- `slotCount count` is the number of slots for so many keys, a power of two. -/
def slotCount (count : Nat) : Nat :=
  if count ≤ 4 then 8 else Nat.pow 2 ((2 * count).log2 + 1)

/-- A table: in every slot a key, or none. -/
abbrev Slots := List (Option Content)

/-- `run slots first` is the slots that are tried from a first one on: ten, unless that many are not
left. -/
def run (slots : Slots) (first : Nat) : List Nat :=
  if first + 9 < slots.length then List.range' first 10 else [first]

/-- `freeSlot fuel slots rest first` is a free slot, where `first` is tried first and `rest` is what
is left of the residue to choose further slots. -/
def freeSlot : Nat → Slots → UInt64 → Nat → Nat
  | 0, _, _, first => first
  | fuel + 1, slots, rest, first =>
      match (run slots first).find? fun slot ↦ (slots[slot]?.join).isNone with
      | some slot => slot
      | none =>
          let rest := rest >>> 5
          freeSlot fuel slots rest ((5 * first + 1 + rest.toNat) % slots.length)

/-- `insert slots key` puts a key into a table that has free slots. Once the residue is used up, the
sequence of slots goes through all of them. -/
def insert (slots : Slots) (key : Content × UInt64) : Slots :=
  let first := key.2.toNat % slots.length
  slots.set (freeSlot (slots.length + 16) slots key.2 first) (some key.1)

/-- `arranged keys` is keys in the order of their slots. -/
def arranged (keys : List (Content × UInt64)) : List Content :=
  (keys.foldl insert (List.replicate (slotCount keys.length) none)).filterMap id

/-- `ofKeys keys` is the members of a set in order. -/
def ofKeys (keys : List Content) : List Content :=
  let members := distinctFrom [] keys
  match members.mapM fun key ↦ (residue? key).map (key, ·) with
  | some numbers => arranged numbers
  | none => members

end AssistedDialing.Yaml.KeySet
