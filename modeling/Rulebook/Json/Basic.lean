/-
# JSON

`Json` is a JSON text as a tree: the fields of an object in the order in which they are
written. `Json.Value` is what such a tree means: the fields of every object in ascending
order of their keys, the last of several fields with one key kept. `Value.ofJson` gives
the value of a tree, and a tree that is canonical already is its own value
(`normalize_eq_self`).

An integer between `-2 ^ 63` and `2 ^ 64 - 1` is kept exactly; any other number is a
finite binary64 number.
-/

import Rulebook.SortedMap
import Rulebook.Binary64

namespace Rulebook

/-- A JSON number. -/
inductive Json.Number where
  | int (value : Int)
  | real (value : Binary64)
deriving DecidableEq, Repr

/-- A JSON text as a tree. -/
inductive Json where
  | null
  | bool (value : Bool)
  | number (value : Json.Number)
  | string (value : String)
  | array (items : List Json)
  | object (fields : List (String × Json))

namespace Json

instance : Inhabited Json := ⟨.null⟩

/-- The tree of a natural number. -/
def nat (n : Nat) : Json := .number (.int n)

/-- Equality of numbers: an integer and a real differ, the two real zeros do not. -/
def Number.same : Number → Number → Bool
  | .int a, .int b => a == b
  | .real a, .real b => a.same b
  | _, _ => false

mutual

/-- Equality of trees up to the sign of zero. -/
def same : Json → Json → Bool
  | .null, .null => true
  | .bool a, .bool b => a == b
  | .number a, .number b => a.same b
  | .string a, .string b => a == b
  | .array a, .array b => sameItems a b
  | .object a, .object b => sameFields a b
  | _, _ => false

/-- Equality of items, one by one. -/
def sameItems : List Json → List Json → Bool
  | [], [] => true
  | a :: as, b :: bs => same a b && sameItems as bs
  | _, _ => false

/-- Equality of fields, one by one. -/
def sameFields : List (String × Json) → List (String × Json) → Bool
  | [], [] => true
  | (k, a) :: as, (l, b) :: bs => k == l && same a b && sameFields as bs
  | _, _ => false

end

mutual

/-- The tree with the fields of every object in ascending order of their keys, the last of
several fields with one key kept. -/
def normalize : Json → Json
  | .array items => .array (normalizeItems items)
  | .object fields => .object (normalizeFields fields [])
  | j => j

/-- `normalize` for the items of an array. -/
def normalizeItems : List Json → List Json
  | [] => []
  | j :: rest => normalize j :: normalizeItems rest

/-- `normalize` for the fields of an object, inserted one after the other. -/
def normalizeFields : List (String × Json) → List (String × Json) → List (String × Json)
  | [], done => done
  | (k, j) :: rest, done => normalizeFields rest (insertEntry k (normalize j) done)

end

mutual

/-- The fields of every object stand in strictly ascending order of their keys. -/
def Canonical : Json → Prop
  | .array items => CanonicalItems items
  | .object fields => Ascending fields ∧ CanonicalFields fields
  | _ => True

/-- `Canonical` for every item. -/
def CanonicalItems : List Json → Prop
  | [] => True
  | j :: rest => Canonical j ∧ CanonicalItems rest

/-- `Canonical` for the value of every field. -/
def CanonicalFields : List (String × Json) → Prop
  | [] => True
  | (_, j) :: rest => Canonical j ∧ CanonicalFields rest

end

/-- Fields are canonical if all their values are. -/
theorem canonicalFields_iff {fields : List (String × Json)} :
    CanonicalFields fields ↔ ∀ e ∈ fields, Canonical e.2 := by
  induction fields with
  | nil => simp [CanonicalFields]
  | cons e rest ih => simp [CanonicalFields, ih]

/-- A canonical value inserted among canonical fields leaves them canonical. -/
theorem CanonicalFields.insertEntry {fields : List (String × Json)}
    (h : CanonicalFields fields) (k : String) {j : Json} (hj : Canonical j) :
    CanonicalFields (insertEntry k j fields) := by
  rw [canonicalFields_iff] at h ⊢
  intro e he
  rcases mem_insertEntry he with rfl | he
  · exact hj
  · exact h e he

mutual

/-- Normalizing gives a canonical value. -/
theorem canonical_normalize (j : Json) : Canonical (normalize j) := by
  cases j with
  | array items => simpa [normalize, Canonical] using canonical_normalizeItems items
  | object fields =>
    simpa [normalize, Canonical] using
      canonical_normalizeFields fields [] .nil (by simp [CanonicalFields])
  | _ => simp [normalize, Canonical]

/-- Normalizing gives canonical items. -/
theorem canonical_normalizeItems (items : List Json) :
    CanonicalItems (normalizeItems items) := by
  cases items with
  | nil => simp [normalizeItems, CanonicalItems]
  | cons j rest =>
    exact ⟨canonical_normalize j, canonical_normalizeItems rest⟩

/-- Normalizing adds to canonical fields, in ascending order, canonical ones. -/
theorem canonical_normalizeFields (fields done : List (String × Json))
    (ha : Ascending done) (hc : CanonicalFields done) :
    Ascending (normalizeFields fields done) ∧
      CanonicalFields (normalizeFields fields done) := by
  cases fields with
  | nil => exact ⟨ha, hc⟩
  | cons e rest =>
    obtain ⟨k, j⟩ := e
    exact canonical_normalizeFields rest _ (ha.insertEntry k _)
      (hc.insertEntry k (canonical_normalize j))

end

/-- A field with a name above all others is inserted at the end. -/
theorem insertEntry_append_of_lt {k : String} {j : Json} {l : List (String × Json)}
    (h : ∀ e ∈ l, e.1 < k) : insertEntry k j l = l ++ [(k, j)] := by
  induction l with
  | nil => rfl
  | cons d rest ih =>
    have hlt := h d (List.mem_cons_self ..)
    have hne : k ≠ d.1 := fun heq => String.lt_irrefl k (heq ▸ hlt)
    simp [insertEntry, String.lt_asymm hlt, hne, ih fun e he => h e (List.mem_cons_of_mem _ he)]

mutual

/-- A canonical tree is its own normal form. -/
theorem normalize_eq_self {j : Json} (h : Canonical j) : normalize j = j := by
  cases j with
  | array items =>
    simp only [normalize]
    rw [normalizeItems_eq_self (by simpa [Canonical] using h)]
  | object fields =>
    simp only [Canonical] at h
    simp only [normalize]
    rw [normalizeFields_eq_append h.2 [] (by simpa using h.1)]
    rfl
  | _ => rfl

/-- Canonical items stay as they are. -/
theorem normalizeItems_eq_self {items : List Json} (h : CanonicalItems items) :
    normalizeItems items = items := by
  cases items with
  | nil => rfl
  | cons j rest =>
    simp only [normalizeItems]
    rw [normalize_eq_self h.1, normalizeItems_eq_self h.2]

/-- Canonical fields are put behind those that stand below them, as they are. -/
theorem normalizeFields_eq_append {fields : List (String × Json)} (h : CanonicalFields fields)
    (done : List (String × Json)) (ha : Ascending (done ++ fields)) :
    normalizeFields fields done = done ++ fields := by
  cases fields with
  | nil => simp [normalizeFields]
  | cons e rest =>
    obtain ⟨k, j⟩ := e
    have hlt : ∀ d ∈ done, d.1 < k := fun d hd =>
      (List.pairwise_append.1 ha).2.2 d hd (k, j) (List.mem_cons_self ..)
    simp only [normalizeFields]
    rw [normalize_eq_self h.1, insertEntry_append_of_lt hlt,
      normalizeFields_eq_append h.2 _ (by simpa using ha)]
    simp

end

/-- A JSON value: a tree in which the fields of every object ascend. -/
@[ext]
structure Value where
  json : Json
  canonical : Canonical json

namespace Value

/-- The value of a tree. -/
def ofJson (j : Json) : Value := ⟨normalize j, canonical_normalize j⟩

/-- The value `null`. -/
def null : Value := ⟨.null, by simp [Canonical]⟩

/-- A text. -/
def string (s : String) : Value := ⟨.string s, by simp [Canonical]⟩

instance : Inhabited Value := ⟨null⟩

/-- Equality up to the sign of zero. -/
def same (a b : Value) : Bool := a.json.same b.json

/-- The value of a value's tree is the value. -/
@[simp] theorem ofJson_json (v : Value) : ofJson v.json = v :=
  Value.ext (normalize_eq_self v.canonical)

/-- The value is `null`. -/
def isNull (v : Value) : Bool :=
  match v.json with
  | .null => true
  | _ => false

end Value

end Json

end Rulebook
