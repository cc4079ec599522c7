/-
# When two values are the same

Two JSON values are compared number by number, and among the reals the two zeros are equal. So
being the same is more than equality of the written form, but it is still equality of something:
of the values once every zero has lost its sign (`Json.same_iff`). From this it inherits what a
comparison has to have, and the resources that agree with each other fall into classes.
-/

import Rulebook.Json.Basic

namespace Rulebook

namespace Binary64

/-- The number, without the sign if it is a zero. -/
def unsignedZero (x : Binary64) : Binary64 := if x.isZero then zero else x

/-- Two numbers are the same if they are equal without the signs of zeros. -/
theorem same_iff {x y : Binary64} : x.same y = true ↔ x.unsignedZero = y.unsignedZero := by
  have hbits {x y : Binary64} (h : x.bits = y.bits) : x = y := by
    cases x
    cases y
    cases h
    rfl
  have hzero : zero.isZero = true := by decide
  rw [same, Bool.or_eq_true, Bool.and_eq_true, beq_iff_eq, unsignedZero, unsignedZero]
  constructor
  · rintro (h | ⟨hx, hy⟩)
    · rw [hbits h]
    · rw [if_pos hx, if_pos hy]
  · intro h
    by_cases hx : x.isZero = true <;> by_cases hy : y.isZero = true
    · exact .inr ⟨hx, hy⟩
    · rw [if_pos hx, if_neg hy] at h
      exact absurd (h ▸ hzero) hy
    · rw [if_neg hx, if_pos hy] at h
      exact absurd (h ▸ hzero) hx
    · rw [if_neg hx, if_neg hy] at h
      exact .inl (congrArg bits h)

end Binary64

namespace Json

/-- The number, without the sign if it is a zero. -/
def Number.unsignedZero : Number → Number
  | .int value => .int value
  | .real value => .real value.unsignedZero

/-- Two numbers of any kind are the same if they are equal without the signs of zeros. -/
theorem Number.same_iff {a b : Number} : a.same b = true ↔ a.unsignedZero = b.unsignedZero := by
  cases a <;> cases b <;> simp [Number.same, Number.unsignedZero, Binary64.same_iff]

mutual

/-- The tree in which no zero has a sign. -/
def unsignedZeros : Json → Json
  | .null => .null
  | .bool value => .bool value
  | .number value => .number value.unsignedZero
  | .string value => .string value
  | .array items => .array (unsignedZerosItems items)
  | .object fields => .object (unsignedZerosFields fields)

/-- `unsignedZeros` for every item. -/
def unsignedZerosItems : List Json → List Json
  | [] => []
  | j :: rest => unsignedZeros j :: unsignedZerosItems rest

/-- `unsignedZeros` for the value of every field. -/
def unsignedZerosFields : List (String × Json) → List (String × Json)
  | [] => []
  | (k, j) :: rest => (k, unsignedZeros j) :: unsignedZerosFields rest

end

mutual

/-- **Two trees are the same exactly if they are equal once no zero has a sign.** -/
theorem same_iff (a b : Json) : a.same b = true ↔ a.unsignedZeros = b.unsignedZeros := by
  cases a with
  | number x =>
    cases b with
    | number y => simp [same, unsignedZeros, Number.same_iff]
    | _ => simp [same, unsignedZeros]
  | array items =>
    cases b with
    | array items' => simp [same, unsignedZeros, sameItems_iff items items']
    | _ => simp [same, unsignedZeros]
  | object fields =>
    cases b with
    | object fields' => simp [same, unsignedZeros, sameFields_iff fields fields']
    | _ => simp [same, unsignedZeros]
  | _ => cases b <;> simp [same, unsignedZeros]

/-- Items are the same if they are equal without the signs of zeros. -/
theorem sameItems_iff (items items' : List Json) :
    sameItems items items' = true ↔ unsignedZerosItems items = unsignedZerosItems items' := by
  cases items with
  | nil => cases items' <;> simp [sameItems, unsignedZerosItems]
  | cons a rest =>
    cases items' with
    | nil => simp [sameItems, unsignedZerosItems]
    | cons b rest' =>
      simp [sameItems, unsignedZerosItems, same_iff a b, sameItems_iff rest rest']

/-- Fields are the same if they are equal without the signs of zeros. -/
theorem sameFields_iff (fields fields' : List (String × Json)) :
    sameFields fields fields' = true ↔
      unsignedZerosFields fields = unsignedZerosFields fields' := by
  cases fields with
  | nil => cases fields' <;> simp [sameFields, unsignedZerosFields]
  | cons e rest =>
    obtain ⟨k, a⟩ := e
    cases fields' with
    | nil => simp [sameFields, unsignedZerosFields]
    | cons e' rest' =>
      obtain ⟨l, b⟩ := e'
      simp [sameFields, unsignedZerosFields, same_iff a b, sameFields_iff rest rest']

end

end Json

end Rulebook
