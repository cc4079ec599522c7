/-
# Maps with text keys, in key order

A map is the list of its entries in strictly ascending order of their keys, compared
character by character. Strictness makes the list canonical: two maps with the same
lookups are the same map (`SortedMap.ext_get?`), and a later insertion under a key
replaces the earlier one (`get?_insert_self`, `get?_insert_of_ne`).

The single-pass `insertEntry` replaces on collision, so its lookup lemmas need no
hypothesis on the list.
-/

namespace Rulebook

/-- Entries with strictly ascending keys. -/
abbrev Ascending {α : Type u} (l : List (String × α)) : Prop :=
  l.Pairwise (fun a b => a.1 < b.1)

/-- Insertion into a list of entries at its place, replacing an entry with the same key. -/
def insertEntry {α : Type u} (k : String) (v : α) : List (String × α) → List (String × α)
  | [] => [(k, v)]
  | e :: rest =>
    if k < e.1 then (k, v) :: e :: rest
    else if k = e.1 then (k, v) :: rest
    else e :: insertEntry k v rest

/-- The value of the first entry with a given key. -/
def lookupEntry {α : Type u} (k : String) : List (String × α) → Option α
  | [] => none
  | e :: rest => if k = e.1 then some e.2 else lookupEntry k rest

/-- Of two different keys one is below the other. -/
theorem lt_of_not_lt_of_ne {a b : String} (h : ¬ a < b) (hne : a ≠ b) : b < a := by
  rcases Decidable.em (b < a) with h' | h'
  · exact h'
  · exact absurd (String.le_antisymm (String.not_lt.1 h') (String.not_lt.1 h)) hne

/-- An entry behind an insertion is the new one or an old one. -/
theorem mem_insertEntry {α : Type u} {k : String} {v : α} {e : String × α}
    {l : List (String × α)} (h : e ∈ insertEntry k v l) : e = (k, v) ∨ e ∈ l := by
  induction l with
  | nil => exact .inl (by simpa [insertEntry] using h)
  | cons d rest ih =>
    unfold insertEntry at h
    split at h
    · exact (List.mem_cons.1 h).imp id id
    · split at h
      · rcases List.mem_cons.1 h with rfl | h
        · exact .inl rfl
        · exact .inr (List.mem_cons_of_mem _ h)
      · rcases List.mem_cons.1 h with rfl | h
        · exact .inr (List.mem_cons_self ..)
        · exact (ih h).imp id (List.mem_cons_of_mem _)

/-- Inserting keeps the keys in ascending order. -/
theorem Ascending.insertEntry {α : Type u} (k : String) (v : α) {l : List (String × α)}
    (h : Ascending l) : Ascending (insertEntry k v l) := by
  induction l with
  | nil => simp [Rulebook.insertEntry, Ascending]
  | cons d rest ih =>
    have hd : ∀ e ∈ rest, d.1 < e.1 := fun e he => List.rel_of_pairwise_cons h he
    unfold Rulebook.insertEntry
    split
    · rename_i hlt
      refine List.Pairwise.cons (fun e he => ?_) h
      rcases List.mem_cons.1 he with rfl | he
      · exact hlt
      · exact String.lt_trans hlt (hd e he)
    · split
      · rename_i heq
        exact List.Pairwise.cons (fun e he => heq ▸ hd e he) (List.Pairwise.of_cons h)
      · rename_i hlt hne
        refine List.Pairwise.cons (fun e he => ?_) (ih (List.Pairwise.of_cons h))
        rcases mem_insertEntry he with rfl | he
        · exact lt_of_not_lt_of_ne hlt hne
        · exact hd e he

/-- What has been inserted is found. -/
theorem lookupEntry_insertEntry_self {α : Type u} (k : String) (v : α)
    (l : List (String × α)) : lookupEntry k (insertEntry k v l) = some v := by
  induction l with
  | nil => simp [insertEntry, lookupEntry]
  | cons d rest ih =>
    unfold insertEntry
    split
    · simp [lookupEntry]
    · split
      · simp [lookupEntry]
      · rename_i hne; simp [lookupEntry, hne, ih]

/-- Under other keys the same is found after an insertion. -/
theorem lookupEntry_insertEntry_of_ne {α : Type u} {k k' : String} (h : k' ≠ k) (v : α)
    (l : List (String × α)) : lookupEntry k' (insertEntry k v l) = lookupEntry k' l := by
  induction l with
  | nil => simp [insertEntry, lookupEntry, h]
  | cons d rest ih =>
    unfold insertEntry
    split
    · simp [lookupEntry, h]
    · split
      · rename_i heq; simp [lookupEntry, ← heq, h]
      · simp only [lookupEntry, ih]

/-- Nothing is found under a key below all keys. -/
theorem lookupEntry_eq_none_of_lt {α : Type u} {k : String} {l : List (String × α)}
    (h : ∀ e ∈ l, k < e.1) : lookupEntry k l = none := by
  induction l with
  | nil => rfl
  | cons d rest ih =>
    have hne : k ≠ d.1 := fun heq => String.lt_irrefl k (heq ▸ h d (List.mem_cons_self ..))
    simp [lookupEntry, hne, ih fun e he => h e (List.mem_cons_of_mem _ he)]

/-- Ascending lists with the same lookups are equal. -/
theorem Ascending.ext_lookup {α : Type u} {l l' : List (String × α)} (h : Ascending l)
    (h' : Ascending l') (heq : ∀ k, lookupEntry k l = lookupEntry k l') : l = l' := by
  induction l generalizing l' with
  | nil =>
    cases l' with
    | nil => rfl
    | cons d' rest' => simpa [lookupEntry] using heq d'.1
  | cons d rest ih =>
    cases l' with
    | nil => simpa [lookupEntry] using heq d.1
    | cons d' rest' =>
      have hd : ∀ e ∈ rest, d.1 < e.1 := fun e he => List.rel_of_pairwise_cons h he
      have hd' : ∀ e ∈ rest', d'.1 < e.1 := fun e he => List.rel_of_pairwise_cons h' he
      have hkey : d.1 = d'.1 := by
        rcases Decidable.em (d.1 < d'.1) with hlt | hlt
        · have := heq d.1
          rw [lookupEntry_eq_none_of_lt (l := d' :: rest') fun e he => by
            rcases List.mem_cons.1 he with rfl | he
            · exact hlt
            · exact String.lt_trans hlt (hd' e he)] at this
          simp [lookupEntry] at this
        · rcases Decidable.em (d'.1 < d.1) with hlt' | hlt'
          · have := heq d'.1
            rw [lookupEntry_eq_none_of_lt (l := d :: rest) fun e he => by
              rcases List.mem_cons.1 he with rfl | he
              · exact hlt'
              · exact String.lt_trans hlt' (hd e he)] at this
            simp [lookupEntry] at this
          · exact String.le_antisymm (String.not_lt.1 hlt') (String.not_lt.1 hlt)
      have hval : d.2 = d'.2 := by simpa [lookupEntry, hkey] using heq d.1
      have htail : rest = rest' := by
        refine ih h.of_cons h'.of_cons fun k => ?_
        rcases Decidable.em (k = d.1) with rfl | hne
        · rw [lookupEntry_eq_none_of_lt hd, lookupEntry_eq_none_of_lt (hkey ▸ hd')]
        · simpa [lookupEntry, hne, hkey ▸ hne] using heq k
      rw [htail, Prod.ext hkey hval]

/-- A finite map from texts to `α`, its entries in strictly ascending order of keys. -/
@[ext]
structure SortedMap (α : Type u) where
  entries : List (String × α)
  ascending : Ascending entries

namespace SortedMap

/-- The map without entries. -/
def empty {α : Type u} : SortedMap α := ⟨[], .nil⟩

instance {α : Type u} : Inhabited (SortedMap α) := ⟨empty⟩

/-- The value under a key. -/
def get? {α : Type u} (m : SortedMap α) (k : String) : Option α := lookupEntry k m.entries

/-- A key has a value. -/
def contains {α : Type u} (m : SortedMap α) (k : String) : Bool := (m.get? k).isSome

/-- The map with `v` under `k`, whatever was there before. -/
def insert {α : Type u} (m : SortedMap α) (k : String) (v : α) : SortedMap α :=
  ⟨insertEntry k v m.entries, m.ascending.insertEntry k v⟩

/-- The map of a list of entries; of entries with one key the last one counts. -/
def ofList {α : Type u} (l : List (String × α)) : SortedMap α :=
  l.foldl (fun m e => m.insert e.1 e.2) empty

/-- The keys, in ascending order. -/
def keys {α : Type u} (m : SortedMap α) : List String := m.entries.map (·.1)

/-- The values, in the order of their keys. -/
def values {α : Type u} (m : SortedMap α) : List α := m.entries.map (·.2)

/-- The number of entries. -/
def size {α : Type u} (m : SortedMap α) : Nat := m.entries.length

/-- The map without entries has none. -/
def isEmpty {α : Type u} (m : SortedMap α) : Bool := m.entries.isEmpty

/-- The map with every value replaced by its image, which may depend on the key. -/
def map {α : Type u} {β : Type v} (f : String → α → β) (m : SortedMap α) : SortedMap β where
  entries := m.entries.map fun e => (e.1, f e.1 e.2)
  ascending := List.Pairwise.map _ (fun _ _ h => h) m.ascending

/-- The entries that satisfy a test. -/
def filter {α : Type u} (p : String → α → Bool) (m : SortedMap α) : SortedMap α where
  entries := m.entries.filter fun e => p e.1 e.2
  ascending := m.ascending.filter _

@[simp] theorem get?_empty {α : Type u} (k : String) : (empty : SortedMap α).get? k = none := rfl

@[simp] theorem get?_insert_self {α : Type u} (m : SortedMap α) (k : String) (v : α) :
    (m.insert k v).get? k = some v :=
  lookupEntry_insertEntry_self k v m.entries

/-- An insertion changes nothing under other keys. -/
theorem get?_insert_of_ne {α : Type u} (m : SortedMap α) {k k' : String} (h : k' ≠ k) (v : α) :
    (m.insert k v).get? k' = m.get? k' :=
  lookupEntry_insertEntry_of_ne h v m.entries

/-- Maps with the same lookups are equal. -/
theorem ext_get? {α : Type u} {m m' : SortedMap α} (h : ∀ k, m.get? k = m'.get? k) : m = m' :=
  SortedMap.ext (m.ascending.ext_lookup m'.ascending h)

end SortedMap

end Rulebook
