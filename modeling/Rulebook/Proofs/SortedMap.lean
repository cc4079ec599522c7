/-
# What a map holds

A look-up finds exactly the entries that the list of a map has (`mem_entries_iff`), since
no two of them share a key. A map that is built from a list holds, under each key, the
value that the list gives it last (`get?_ofList_eq_some_iff`); built from the entries of a
map it is that map again (`ofList_of_ascending`).

A map may be divided into two without a common key (`SortedMap.SplitsInto`). Its entries are
then those of the parts in some order, and in this very order if the keys of the one come
before those of the other.
-/

import Rulebook.SortedMap
import Rulebook.Proofs.Text.ByteOrder
import Mathlib.Data.List.Induction
import Mathlib.Data.List.Nodup

namespace Rulebook

/-- What an ascending list has under a key is what is looked up. -/
theorem Ascending.lookupEntry_eq_some_iff {α : Type u} {l : List (String × α)}
    (h : Ascending l) {k : String} {v : α} : lookupEntry k l = some v ↔ (k, v) ∈ l := by
  induction l with
  | nil => simp [lookupEntry]
  | cons d rest ih =>
    have hd : ∀ e ∈ rest, d.1 < e.1 := fun e he => List.rel_of_pairwise_cons h he
    rw [lookupEntry, List.mem_cons]
    split
    · rename_i hk
      constructor
      · intro hv
        exact .inl (Prod.ext hk (Option.some.inj hv).symm)
      · rintro (rfl | hmem)
        · rfl
        · exact absurd (hk ▸ hd _ hmem) (String.lt_irrefl _)
    · rename_i hk
      rw [ih h.of_cons]
      exact ⟨.inr, fun hv => hv.resolve_left fun he => hk (congrArg Prod.fst he)⟩

/-- In an ascending list every key occurs once. -/
theorem Ascending.nodup_keys {α : Type u} {l : List (String × α)} (h : Ascending l) :
    (l.map (·.1)).Nodup := by
  have hlt : (l.map (·.1)).Pairwise (· < ·) := List.pairwise_map.2 h
  refine hlt.imp fun {k k'} hkk' => ?_
  rintro rfl
  exact String.lt_irrefl k hkk'

/-- If of all that the lists of a map hold only what stands under one key passes a test, then
looking under this key finds all that does. -/
theorem Ascending.filter_flatten {α : Type u} {l : List (String × List α)} (hl : Ascending l)
    {k : String} {p : α → Bool} (h : ∀ e ∈ l, e.1 ≠ k → e.2.filter p = []) :
    (l.map (·.2)).flatten.filter p = ((lookupEntry k l).getD []).filter p := by
  induction l with
  | nil => rfl
  | cons d rest ih =>
    have hrest := ih hl.of_cons fun e he => h e (List.mem_cons_of_mem _ he)
    rw [List.map_cons, List.flatten_cons, List.filter_append, hrest, lookupEntry]
    by_cases hk : k = d.1
    · have hlt : ∀ e ∈ rest, k < e.1 := fun e he => hk ▸ List.rel_of_pairwise_cons hl he
      rw [if_pos hk, lookupEntry_eq_none_of_lt hlt, Option.getD_none, List.filter_nil,
        List.append_nil, Option.getD_some]
    · rw [if_neg hk, h d List.mem_cons_self (Ne.symm hk), List.nil_append]

/-- A list gives a value last under a key: no entry behind it has the key again. -/
def GivesLast {α : Type u} (l : List (String × α)) (k : String) (v : α) : Prop :=
  ∃ before after, l = before ++ (k, v) :: after ∧ ∀ e ∈ after, e.1 ≠ k

/-- The last entry under a key is the one at the end, if it is under the key. -/
theorem givesLast_append_singleton {α : Type u} {l : List (String × α)} {e : String × α}
    {k : String} {v : α} :
    GivesLast (l ++ [e]) k v ↔ e = (k, v) ∨ e.1 ≠ k ∧ GivesLast l k v := by
  constructor
  · rintro ⟨before, after, heq, hafter⟩
    rcases List.eq_nil_or_concat after with rfl | ⟨rest, d, rfl⟩
    · exact .inl (List.cons.inj (List.append_inj' heq rfl).2).1
    · have hsplit : l ++ [e] = (before ++ (k, v) :: rest) ++ [d] := by simpa using heq
      obtain ⟨rfl, he⟩ := List.append_inj' hsplit rfl
      obtain rfl := (List.cons.inj he).1
      exact .inr ⟨hafter e (by simp), before, rest, rfl,
        fun d hd => hafter d (by simp [hd])⟩
  · rintro (rfl | ⟨hk, before, after, rfl, hafter⟩)
    · exact ⟨l, [], rfl, by simp⟩
    · refine ⟨before, after ++ [e], by simp, fun d hd => ?_⟩
      rcases List.mem_append.1 hd with hd | hd
      · exact hafter d hd
      · rwa [List.mem_singleton.1 hd]

/-- A list with a key gives some value last under it. -/
theorem exists_givesLast_iff {α : Type u} {l : List (String × α)} {k : String} :
    (∃ v, GivesLast l k v) ↔ ∃ v, (k, v) ∈ l := by
  constructor
  · rintro ⟨v, before, after, rfl, -⟩
    exact ⟨v, by simp⟩
  · rintro ⟨v, hv⟩
    induction l using List.reverseRecOn with
    | nil => cases hv
    | append_singleton l e ih =>
      by_cases hk : e.1 = k
      · exact ⟨e.2, givesLast_append_singleton.2 (.inl (Prod.ext hk rfl))⟩
      · have hmem : (k, v) ∈ l := by
          rcases List.mem_append.1 hv with hv | hv
          · exact hv
          · exact absurd (congrArg Prod.fst (List.mem_singleton.1 hv)).symm hk
        obtain ⟨w, hw⟩ := ih hmem
        exact ⟨w, givesLast_append_singleton.2 (.inr ⟨hk, hw⟩)⟩

/-- What is given last by the images of a list comes from an element behind which no image
has the key. -/
theorem givesLast_filterMap_iff {α : Type u} {β : Type v} {g : β → Option (String × α)}
    {l : List β} {k : String} {v : α} :
    GivesLast (l.filterMap g) k v ↔
      ∃ before b after, l = before ++ b :: after ∧ g b = some (k, v) ∧
        ∀ c ∈ after, ∀ w, g c ≠ some (k, w) := by
  constructor
  · rintro ⟨before, after, heq, hafter⟩
    obtain ⟨l₁, l₂, rfl, -, htail⟩ := List.filterMap_eq_append_iff.1 heq
    obtain ⟨skipped, b, rest, rfl, -, hb, hrest⟩ := List.filterMap_eq_cons_iff.1 htail
    refine ⟨l₁ ++ skipped, b, rest, by simp, hb, fun c hc w hw => ?_⟩
    have hmem : (k, w) ∈ after := hrest ▸ List.mem_filterMap.2 ⟨c, hc, hw⟩
    exact hafter _ hmem rfl
  · rintro ⟨before, b, after, rfl, hb, hafter⟩
    refine ⟨before.filterMap g, after.filterMap g, ?_, ?_⟩
    · rw [List.filterMap_append, List.filterMap_cons_some hb]
    · rintro ⟨key, w⟩ he rfl
      obtain ⟨c, hc, hw⟩ := List.mem_filterMap.1 he
      exact hafter c hc w hw

namespace SortedMap

variable {α : Type u}

/-- **A look-up finds exactly the entries of a map.** -/
theorem mem_entries_iff {m : SortedMap α} {k : String} {v : α} :
    (k, v) ∈ m.entries ↔ m.get? k = some v :=
  m.ascending.lookupEntry_eq_some_iff.symm

/-- The keys of a map ascend, byte by byte. -/
theorem pairwise_encodeUtf8_keys (m : SortedMap α) :
    m.keys.Pairwise fun a b => Text.encodeUtf8 a < Text.encodeUtf8 b := by
  rw [keys, List.pairwise_map]
  exact m.ascending.imp Text.lt_iff_encodeUtf8_lt.1

/-- An entry at the end is inserted last. -/
theorem ofList_append_singleton (l : List (String × α)) (e : String × α) :
    ofList (l ++ [e]) = (ofList l).insert e.1 e.2 := by
  rw [ofList, List.foldl_append]
  rfl

/-- The value under a key of a mapped map is the image of the value that was there. -/
theorem get?_map {β : Type v} (f : String → α → β) (m : SortedMap α) (k : String) :
    (m.map f).get? k = (m.get? k).map (f k) := by
  refine Option.ext fun w => ?_
  rw [← mem_entries_iff, map, List.mem_map, Option.map_eq_some_iff]
  constructor
  · rintro ⟨⟨key, v⟩, hmem, heq⟩
    obtain ⟨rfl, rfl⟩ := Prod.mk.inj heq
    exact ⟨v, mem_entries_iff.1 hmem, rfl⟩
  · rintro ⟨v, hget, rfl⟩
    exact ⟨(k, v), mem_entries_iff.2 hget, rfl⟩

/-- What a test leaves of a map is what it leaves under each key. -/
theorem get?_filter (p : String → α → Bool) (m : SortedMap α) (k : String) :
    (m.filter p).get? k = (m.get? k).filter (p k) := by
  refine Option.ext fun v => ?_
  rw [← mem_entries_iff, filter, List.mem_filter, mem_entries_iff, Option.filter_eq_some_iff]

/-- The map with an entry, if there is one. -/
def update (m : SortedMap α) : Option (String × α) → SortedMap α
  | none => m
  | some e => m.insert e.1 e.2

/-- Putting in what is there already changes nothing. -/
theorem insert_of_get?_eq_some {m : SortedMap α} {k : String} {v : α} (h : m.get? k = some v) :
    m.insert k v = m := by
  refine ext_get? fun key => ?_
  by_cases hk : key = k
  · rw [hk, get?_insert_self, h]
  · rw [get?_insert_of_ne m hk]

/-- What comes last is inserted last, if it gives an entry. -/
theorem ofList_filterMap_append_singleton {β : Type v} (g : β → Option (String × α))
    (l : List β) (b : β) :
    ofList ((l ++ [b]).filterMap g) = (ofList (l.filterMap g)).update (g b) := by
  rw [List.filterMap_append]
  rcases hb : g b with _ | e
  · simp [hb, update]
  · rw [show [b].filterMap g = [e] by simp [hb], ofList_append_singleton]
    rfl

/-- **A map built from a list holds what the list gives last.** -/
theorem get?_ofList_eq_some_iff {l : List (String × α)} {k : String} {v : α} :
    (ofList l).get? k = some v ↔ GivesLast l k v := by
  induction l using List.reverseRecOn with
  | nil => simp [ofList, GivesLast]
  | append_singleton l e ih =>
    rw [ofList_append_singleton, givesLast_append_singleton]
    by_cases hk : e.1 = k
    · subst hk
      rw [get?_insert_self]
      simp [Prod.ext_iff]
    · rw [get?_insert_of_ne _ (Ne.symm hk), ih]
      simp [Prod.ext_iff, hk]

/-- The keys are those under which something is found. -/
theorem mem_keys_iff {m : SortedMap α} {k : String} : k ∈ m.keys ↔ ∃ v, m.get? k = some v := by
  simp only [keys, List.mem_map, Prod.exists, exists_and_right, exists_eq_right, mem_entries_iff]

/-- Nothing is found under what is not a key. -/
theorem get?_eq_none_iff {m : SortedMap α} {k : String} : m.get? k = none ↔ k ∉ m.keys := by
  rw [mem_keys_iff, Option.eq_none_iff_forall_ne_some, not_exists]

/-- A map built from a list has the keys of the list. -/
theorem mem_keys_ofList_iff {l : List (String × α)} {k : String} :
    k ∈ (ofList l).keys ↔ ∃ v, (k, v) ∈ l := by
  rw [mem_keys_iff, ← exists_givesLast_iff]
  exact exists_congr fun v => get?_ofList_eq_some_iff

/-- In a list in which every key occurs once, what it gives last is all that it has. -/
theorem givesLast_iff_mem {l : List (String × α)} (h : (l.map (·.1)).Nodup) {k : String} {v : α} :
    GivesLast l k v ↔ (k, v) ∈ l := by
  constructor
  · rintro ⟨before, after, rfl, -⟩
    simp
  · intro hmem
    obtain ⟨before, after, rfl⟩ := List.append_of_mem hmem
    refine ⟨before, after, rfl, fun e he heq => ?_⟩
    rw [List.map_append, List.map_cons] at h
    have hafter : k ∉ after.map (·.1) := (List.nodup_cons.1 h.of_append_right).1
    exact hafter (heq ▸ List.mem_map_of_mem he)

/-- A map built from a list in which every key occurs once holds what the list has. -/
theorem get?_ofList_eq_some_iff_mem {l : List (String × α)} (h : (l.map (·.1)).Nodup) {k : String}
    {v : α} : (ofList l).get? k = some v ↔ (k, v) ∈ l := by
  rw [get?_ofList_eq_some_iff, givesLast_iff_mem h]

/-- **Built from the entries of a map, a map is that map again.** -/
theorem ofList_of_ascending {l : List (String × α)} (h : Ascending l) : ofList l = ⟨l, h⟩ := by
  refine ext_get? fun k => Option.ext fun v => ?_
  rw [get?_ofList_eq_some_iff_mem h.nodup_keys]
  exact mem_entries_iff (m := ⟨l, h⟩)

/-- No key occurs twice. -/
theorem nodup_keys (m : SortedMap α) : m.keys.Nodup :=
  m.ascending.nodup_keys

/-- No entry occurs twice. -/
theorem nodup_entries (m : SortedMap α) : m.entries.Nodup :=
  List.Nodup.of_map Prod.fst m.nodup_keys

/-! ### Dividing a map -/

/-- Two maps without a common key have together what a map has. -/
structure SplitsInto (m m₁ m₂ : SortedMap α) : Prop where
  disjoint : ∀ k, m₁.get? k = none ∨ m₂.get? k = none
  get?_eq : ∀ k, m.get? k = (m₁.get? k).or (m₂.get? k)

/-- A test divides a map. -/
theorem splitsInto_filter (p : String → α → Bool) (m : SortedMap α) :
    m.SplitsInto (m.filter p) (m.filter fun k v => !p k v) := by
  constructor
  · intro k
    rw [get?_filter, get?_filter]
    rcases m.get? k with _ | v
    · exact .inl rfl
    · by_cases hp : p k v = true
      · exact .inr (by simp [hp])
      · exact .inl (by simp [hp])
  · intro k
    rw [get?_filter, get?_filter]
    rcases m.get? k with _ | v
    · rfl
    · by_cases hp : p k v = true
      · simp [Option.filter, hp]
      · simp [Option.filter, hp]

namespace SplitsInto

variable {m m₁ m₂ : SortedMap α}

/-- Every entry of a map that is split is in one of the parts. -/
theorem mem_entries_iff (h : m.SplitsInto m₁ m₂) {e : String × α} :
    e ∈ m.entries ↔ e ∈ m₁.entries ∨ e ∈ m₂.entries := by
  obtain ⟨k, v⟩ := e
  rw [SortedMap.mem_entries_iff, SortedMap.mem_entries_iff, SortedMap.mem_entries_iff, h.get?_eq]
  rcases h.disjoint k with hk | hk
  · simp [hk]
  · simp [hk]

/-- The entries of a divided map are those of its parts, in some order. -/
theorem perm_entries (h : m.SplitsInto m₁ m₂) :
    m.entries.Perm (m₁.entries ++ m₂.entries) := by
  have hdisjoint : m₁.entries.Disjoint m₂.entries := by
    rintro ⟨k, v⟩ h₁ h₂
    have hget₁ := SortedMap.mem_entries_iff.1 h₁
    have hget₂ := SortedMap.mem_entries_iff.1 h₂
    rcases h.disjoint k with hk | hk
    · simp [hk] at hget₁
    · simp [hk] at hget₂
  have hnodup : (m₁.entries ++ m₂.entries).Nodup :=
    m₁.nodup_entries.append m₂.nodup_entries hdisjoint
  refine (List.perm_ext_iff_of_nodup m.nodup_entries hnodup).2 fun e => ?_
  rw [h.mem_entries_iff, List.mem_append]

/-- If the keys of one part come before those of the other, so do its entries. -/
theorem entries_eq_append (h : m.SplitsInto m₁ m₂)
    (hlt : ∀ k ∈ m₁.keys, ∀ k' ∈ m₂.keys, k < k') :
    m.entries = m₁.entries ++ m₂.entries := by
  have hascending : Ascending (m₁.entries ++ m₂.entries) := by
    refine List.pairwise_append.2 ⟨m₁.ascending, m₂.ascending, fun e he e' he' => ?_⟩
    exact hlt _ (List.mem_map_of_mem he) _ (List.mem_map_of_mem he')
  refine h.perm_entries.eq_of_pairwise (fun e e' _ _ hee' he'e => ?_) m.ascending hascending
  exact absurd he'e (String.lt_asymm hee')

end SplitsInto

end SortedMap

end Rulebook
