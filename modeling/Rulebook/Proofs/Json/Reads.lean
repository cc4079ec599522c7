/-
# Reading written values back

A type that is both written and read has an encoding, a tree for each of its values, and a
decoder. `Json.ReadsAs` says of a decoder, a tree and a value that the decoder reads the value of
the tree as this one; the value of a tree has the fields of its objects sorted and counts each
name once. The lemmas below give `ReadsAs` for every way in which a decoder is put together, so
that the claim of one type follows its decoder.

A record leaves out some fields when it is written, and fills them in with defaults when it is
read. Both sides list the fields in their declared order: `writtenFields` has the fields that are
not left out, and `Fields.ReadsAs` compares the description of a record with such a list, field by
field (`Fields.ReadsAs.seq`). If the names are different ones, then the fields are read as they
were written, wherever sorting has put them, and whatever stands among them under other names
(`Fields.ReadsAs.recordAmong`).
-/

import Rulebook.Proofs.Json.Texts
import Rulebook.Proofs.SortedMap
import Mathlib.Data.List.Forall2

namespace Rulebook
namespace Json

variable {α β : Type}

/-- A decoder reads the value of a tree as a certain one. -/
def ReadsAs (d : Decoder α) (j : Json) (a : α) : Prop := decodeValue d (.ofJson j) = .ok a

/-- A value is read in its normal form. -/
theorem readsAs_iff {d : Decoder α} {j : Json} {a : α} :
    ReadsAs d j a ↔ d (.ofJson (normalize j)) = .ok a :=
  Iff.rfl

/-! ### Simple values -/

/-- A text is read from a string. -/
theorem readsAs_string (text : String) : ReadsAs Decode.string (.string text) text := rfl

/-- What a text is read as is read from a string. -/
theorem readsAs_stringVia {expected text : String} {read : String → Except String α} {a : α}
    (h : read text = .ok a) : ReadsAs (Decode.stringVia expected read) (.string text) a :=
  Decode.stringVia_eq_ok_iff.2 ⟨text, rfl, h⟩

/-- Any value is read as it is. -/
theorem readsAs_value (v : Value) : ReadsAs Decode.value v.json v := by
  rw [readsAs_iff, normalize_eq_self v.canonical, Decode.value, Source.keep_ofJson]
  exact congrArg Except.ok (Value.ofJson_json v)

/-- A size is read as it is written. -/
theorem readsAs_size (n : UInt64) : ReadsAs Decode.size (nat n.toNat) n := by
  have hnat : Decode.natBelow (Nat.pow 2 64) "usize" (.ofJson (nat n.toNat)) = .ok n.toNat :=
    if_pos n.toNat_lt
  show (Decode.natBelow (Nat.pow 2 64) "usize" (.ofJson (nat n.toNat))).map UInt64.ofNat = .ok n
  rw [hnat]
  exact congrArg Except.ok UInt64.ofNat_toNat

/-- A number of 32 bits is read as it is written. -/
theorem readsAs_u32 (n : UInt32) : ReadsAs Decode.u32 (nat n.toNat) n := by
  have hnat : Decode.natBelow (Nat.pow 2 32) "u32" (.ofJson (nat n.toNat)) = .ok n.toNat :=
    if_pos n.toNat_lt
  show (Decode.natBelow (Nat.pow 2 32) "u32" (.ofJson (nat n.toNat))).map UInt32.ofNat = .ok n
  rw [hnat]
  exact congrArg Except.ok UInt32.ofNat_toNat

/-- What may be absent is read as what is there, unless it is written as null. -/
theorem readsAs_optional {d : Decoder α} {j : Json} {a : α} (h : ReadsAs d j a)
    (hj : j ≠ .null) : ReadsAs (Decode.optional d) j (some a) := by
  have hmap : (d (.ofJson (normalize j))).map some = .ok (some a) := by
    rw [readsAs_iff.1 h]
    rfl
  cases j with
  | null => exact absurd rfl hj
  | _ => exact hmap

/-- What is written as `null` when it is absent. -/
theorem readsAs_nullable {d : Decoder α} {encode : α → Json} (a? : Option α)
    (h : ∀ a, ReadsAs d (encode a) a) (hnull : ∀ a, encode a ≠ .null) :
    ReadsAs (Decode.optional d) ((a?.map encode).getD .null) a? := by
  rcases a? with _ | a
  · rfl
  · exact readsAs_optional (h a) (hnull a)

/-! ### Lists and maps -/

/-- A list is read as it is written if its items are. -/
theorem readsAs_list {d : Decoder α} {encode : α → Json} {as : List α}
    (h : ∀ a ∈ as, ReadsAs d (encode a) a) :
    ReadsAs (Decode.list d) (.array (as.map encode)) as := by
  have hitems :
      Decode.items d (Source.ofItems (normalizeItems (as.map encode))) = .ok as := by
    induction as with
    | nil => rfl
    | cons a as ih =>
      have ha := readsAs_iff.1 (h a (List.mem_cons_self ..))
      have has := ih fun a' ha' => h a' (List.mem_cons_of_mem a ha')
      rw [List.map_cons, normalizeItems, Source.ofItems, Decode.items, ha, has]
  rw [readsAs_iff, normalize, Source.ofJson, Decode.list, if_neg Bool.false_ne_true, hitems]
  rfl

/-- Sorting the fields of an object makes the map of their sorted values. -/
theorem normalizeFields_nil (fields : List (String × Json)) :
    normalizeFields fields [] =
      (SortedMap.ofList (fields.map fun e => (e.1, normalize e.2))).entries := by
  -- what is sorted so far is a map, into which the other fields go one by one
  have hgeneral (m : SortedMap Json) : normalizeFields fields m.entries =
      ((fields.map fun e => (e.1, normalize e.2)).foldl
        (fun m e => m.insert e.1 e.2) m).entries := by
    induction fields generalizing m with
    | nil => rfl
    | cons e rest ih => exact ih (m.insert e.1 (normalize e.2))
  exact hgeneral .empty

/-- A map is read as it is written if its values are. -/
theorem readsAs_map {d : Decoder α} {encode : α → Json} {m : SortedMap α}
    (h : ∀ a ∈ m.values, ReadsAs d (encode a) a) :
    ReadsAs (Decode.map d) (.object (m.entries.map fun e => (e.1, encode e.2))) m := by
  have hsorted : normalizeFields (m.entries.map fun e => (e.1, encode e.2)) [] =
      m.entries.map fun e => (e.1, normalize (encode e.2)) := by
    have hascending : Ascending (m.entries.map fun e => (e.1, normalize (encode e.2))) :=
      (m.map fun _ a => normalize (encode a)).ascending
    rw [normalizeFields_nil, List.map_map]
    exact congrArg SortedMap.entries (SortedMap.ofList_of_ascending hascending)
  have hentries (es : List (String × α)) (hes : ∀ e ∈ es, ReadsAs d (encode e.2) e.2) :
      Decode.entries d (Source.ofFields (es.map fun e => (e.1, normalize (encode e.2)))) =
        .ok es := by
    induction es with
    | nil => rfl
    | cons e es ih =>
      have he := readsAs_iff.1 (hes e (List.mem_cons_self ..))
      have hes := ih fun e' he' => hes e' (List.mem_cons_of_mem e he')
      rw [List.map_cons, Source.ofFields, Decode.entries, he, hes]
  have hm := hentries m.entries fun e he => h e.2 (List.mem_map_of_mem he)
  rw [readsAs_iff, normalize, Source.ofJson, Decode.map, if_neg Bool.false_ne_true, hsorted, hm]
  exact congrArg Except.ok (SortedMap.ofList_of_ascending m.ascending)

/-! ### Fields that may be left out -/

/-- The fields of a written record: each part under its name, unless it is left out. -/
def writtenFields (parts : List (String × Option Json)) : List (String × Json) :=
  parts.filterMap fun part => part.2.map fun j => (part.1, j)

/-- The fields that are written are the parts that are there. -/
theorem mem_writtenFields {parts : List (String × Option Json)} {name : String} {j : Json} :
    (name, j) ∈ writtenFields parts ↔ (name, some j) ∈ parts := by
  rw [writtenFields, List.mem_filterMap]
  constructor
  · rintro ⟨⟨k, part⟩, hmem, hpart⟩
    obtain ⟨j', rfl, heq⟩ := Option.map_eq_some_iff.1 hpart
    obtain ⟨rfl, rfl⟩ := Prod.mk.inj heq
    exact hmem
  · intro hmem
    exact ⟨_, hmem, rfl⟩

section

variable {parts : List (String × Option Json)} (hnames : (parts.map (·.1)).Nodup)

include hnames

/-- No name is written twice. -/
theorem nodup_names_writtenFields : ((writtenFields parts).map (·.1)).Nodup := by
  have hsublist : ((writtenFields parts).map (·.1)).Sublist (parts.map (·.1)) := by
    rw [writtenFields, List.map_filterMap]
    induction parts with
    | nil => exact .slnil
    | cons part parts ih =>
      have ih := ih (List.nodup_cons.1 hnames).2
      rcases hpart : part.2 with _ | j
      · rw [List.filterMap_cons_none (by rw [hpart]; rfl)]
        exact ih.cons _
      · rw [List.filterMap_cons_some (by rw [hpart]; rfl)]
        exact ih.cons_cons _
  exact hnames.sublist hsublist

/-- Once sorted, a written record has what was written, with its own objects sorted. -/
theorem lookupEntry_sorted_eq_some_iff {name : String} {j : Json} :
    lookupEntry name (normalizeFields (writtenFields parts) []) = some j ↔
      ∃ j', (name, some j') ∈ parts ∧ normalize j' = j := by
  have hnodup : (((writtenFields parts).map fun e => (e.1, normalize e.2)).map (·.1)).Nodup := by
    rw [List.map_map]
    exact nodup_names_writtenFields hnames
  rw [normalizeFields_nil]
  refine (SortedMap.get?_ofList_eq_some_iff_mem hnodup).trans ?_
  rw [List.mem_map]
  constructor
  · rintro ⟨⟨k, j'⟩, hmem, heq⟩
    obtain ⟨rfl, rfl⟩ := Prod.mk.inj heq
    exact ⟨j', mem_writtenFields.1 hmem, rfl⟩
  · rintro ⟨j', hmem, rfl⟩
    exact ⟨(name, j'), mem_writtenFields.2 hmem, rfl⟩

/-- Under the name of a part the normal form of what has been written is found. -/
theorem lookupEntry_sorted {part : String × Option Json} (hpart : part ∈ parts) :
    lookupEntry part.1 (normalizeFields (writtenFields parts) []) = part.2.map normalize := by
  refine Option.ext fun j => ?_
  rw [lookupEntry_sorted_eq_some_iff hnames, Option.map_eq_some_iff]
  constructor
  · rintro ⟨j', hmem, rfl⟩
    exact ⟨j', congrArg Prod.snd (List.inj_on_of_nodup_map hnames hpart hmem rfl), rfl⟩
  · rintro ⟨j', hj', rfl⟩
    exact ⟨j', hj' ▸ hpart, rfl⟩

end

/-! ### Records -/

/-- A part stands under the name of a check and passes it, unless it is left out. -/
def PassesCheck (check : String × (Source → Decoded Unit)) (part : String × Option Json) : Prop :=
  check.1 = part.1 ∧ ∀ j, part.2 = some j → check.2 (.ofJson (normalize j)) = .ok ()

/-- The check of a name stands across from the part with this name. -/
theorem exists_part_of_lookup {checks : List (String × (Source → Decoded Unit))}
    {parts : List (String × Option Json)} (h : List.Forall₂ PassesCheck checks parts)
    {name : String} {check : Source → Decoded Unit} (hlookup : checks.lookup name = some check) :
    ∃ part ∈ parts, PassesCheck (name, check) part := by
  induction h with
  | nil => cases hlookup
  | @cons first part _ _ hfirst _ ih =>
    rw [List.lookup_cons] at hlookup
    split at hlookup
    · rename_i heq
      obtain rfl := Option.some.inj hlookup
      obtain rfl := beq_iff_eq.1 heq
      exact ⟨part, List.mem_cons_self .., hfirst⟩
    · obtain ⟨part', hmem, hpart'⟩ := ih hlookup
      exact ⟨part', List.mem_cons_of_mem _ hmem, hpart'⟩

/-- The description of a record against the fields of a written one, in their declared order: what
is written passes the check of its field, and what stands under the names makes up the record. -/
structure Fields.ReadsAs (f : Fields α) (parts : List (String × Option Json)) (a : α) : Prop where
  checks : List.Forall₂ PassesCheck f.checks parts
  ofObject : ∀ look : String → Option Source,
    (∀ part ∈ parts, look part.1 = part.2.map fun j => .ofJson (normalize j)) →
      f.ofObject look = .ok a

namespace Fields

/-- A field with its name; what is left out is filled in. -/
theorem readsAs_field_of {name : String} {d : Decoder α} {default? : Option α}
    {part : Option Json} {a : α} (hsome : ∀ j, part = some j → Json.ReadsAs d j a)
    (hnone : part = none → default? = some a) :
    (field name d default?).ReadsAs [(name, part)] a := by
  refine ⟨.cons ⟨rfl, fun j hj => ?_⟩ .nil, fun look hlook => ?_⟩
  · show (d (.ofJson (normalize j))).map (fun _ => ()) = .ok ()
    rw [readsAs_iff.1 (hsome j hj)]
    rfl
  · have hname : look name = part.map fun j => .ofJson (normalize j) :=
      hlook (name, part) (List.mem_singleton_self _)
    unfold field
    dsimp only
    rw [hname]
    rcases part with _ | j
    · rw [hnone rfl]
      rfl
    · exact readsAs_iff.1 (hsome j rfl)

/-- A field that is always written. -/
theorem readsAs_field {name : String} {d : Decoder α} {default? : Option α} {j : Json} {a : α}
    (h : Json.ReadsAs d j a) : (field name d default?).ReadsAs [(name, some j)] a := by
  refine readsAs_field_of (fun j' hj' => ?_) (fun hnone => by cases hnone)
  obtain rfl := Option.some.inj hj'
  exact h

/-- An optional field that is left out when there is nothing to write. -/
theorem readsAs_field_optional {name : String} {d : Decoder α} {encode : α → Json}
    (a? : Option α) (h : ∀ a, Json.ReadsAs d (encode a) a) (hnull : ∀ a, encode a ≠ .null) :
    (field name (Decode.optional d) (some none)).ReadsAs [(name, a?.map encode)] a? := by
  refine readsAs_field_of (fun j hj => ?_) (fun hnone => ?_)
  · obtain ⟨a, rfl, rfl⟩ := Option.map_eq_some_iff.1 hj
    exact readsAs_optional (h a) (hnull a)
  · rw [Option.map_eq_none_iff.1 hnone]

/-- The parts stand in the order in which the fields are declared. -/
theorem ReadsAs.names_eq {f : Fields α} {parts : List (String × Option Json)} {a : α}
    (h : f.ReadsAs parts a) : f.names = parts.map (·.1) := by
  rw [names, ← List.forall₂_eq_eq_eq, List.forall₂_map_left_iff, List.forall₂_map_right_iff]
  exact h.checks.imp fun _ _ hpasses => hpasses.1

/-- A field behind others is looked up by itself. -/
theorem ofObject_seq {f : Fields (α → β)} {x : Fields α} {look : String → Option Source}
    {g : α → β} {a : α} (hg : f.ofObject look = .ok g) (ha : x.ofObject look = .ok a) :
    (f <*> x).ofObject look = .ok (g a) := by
  show (Fields.seq f fun _ => x).ofObject look = .ok (g a)
  unfold Fields.seq
  dsimp only
  rw [hg, ha]

/-- What is made of fields is made of what is read from them. -/
theorem ReadsAs.map {f : Fields α} {parts : List (String × Option Json)} {a : α} (g : α → β)
    (h : f.ReadsAs parts a) : (g <$> f).ReadsAs parts (g a) where
  checks := h.checks
  ofObject look hlook := ofObject_seq (f := pure g) rfl (h.ofObject look hlook)

/-- **The fields of one part are read beside those of another.** -/
theorem ReadsAs.seq {f : Fields (α → β)} {x : Fields α} {parts parts' : List (String × Option Json)}
    {g : α → β} {a : α} (hf : f.ReadsAs parts g) (hx : x.ReadsAs parts' a) :
    (f <*> x).ReadsAs (parts ++ parts') (g a) where
  checks := List.rel_append hf.checks hx.checks
  ofObject look hlook :=
    ofObject_seq
      (hf.ofObject look fun part hpart => hlook part (List.mem_append_left _ hpart))
      (hx.ofObject look fun part hpart => hlook part (List.mem_append_right _ hpart))

end Fields

/-- Looking under a name in a sound object. -/
theorem lookField_ofFields (name : String) (fields : List (String × Json)) :
    Decode.lookField name (Source.ofFields fields) = (lookupEntry name fields).map .ofJson := by
  induction fields with
  | nil => rfl
  | cons e rest ih =>
    rw [Source.ofFields, Decode.lookField, lookupEntry]
    split
    · rfl
    · exact ih

/-- A sound object passes the check of its fields, if no name occurs twice and every field with a
check passes it. -/
theorem checkFields_ofFields {checks : List (String × (Source → Decoded Unit))}
    {fields : List (String × Json)} (hnames : (fields.map (·.1)).Nodup)
    (hchecks : ∀ e ∈ fields, ∀ check, checks.lookup e.1 = some check →
      check (.ofJson e.2) = .ok ())
    (seen : List String) (hseen : ∀ e ∈ fields, e.1 ∉ seen) :
    Decode.checkFields checks false seen (Source.ofFields fields) = .ok () := by
  induction fields generalizing seen with
  | nil => rfl
  | cons e rest ih =>
    obtain ⟨hfresh, hrest⟩ := List.nodup_cons.1 hnames
    have ih := ih hrest fun e' he' => hchecks e' (List.mem_cons_of_mem e he')
    have hafter := fun e' he' => hseen e' (List.mem_cons_of_mem e he')
    rw [Source.ofFields, Decode.checkFields]
    rcases hlookup : checks.lookup e.1 with _ | check
    · rw [Source.skip_ofJson]
      exact ih seen hafter
    · have hnew : seen.contains e.1 = false := by
        simpa using hseen e (List.mem_cons_self ..)
      have hcheck := hchecks e (List.mem_cons_self ..) check hlookup
      dsimp only
      rw [hnew, hcheck]
      -- a name that is seen now does not come again
      refine ih (e.1 :: seen) fun e' he' hmem => ?_
      rcases List.mem_cons.1 hmem with heq | hmem
      · have hrepeated : e'.1 ∈ rest.map (·.1) := List.mem_map_of_mem he'
        rw [heq] at hrepeated
        exact hfresh hrepeated
      · exact hafter e' he' hmem

/-- **A record is read as it was written**, with the fields that were left out filled in, also from
an object that holds more: fields of other names are passed over. -/
theorem Fields.ReadsAs.recordAmong {f : Fields α} {parts : List (String × Option Json)} {a : α}
    (h : f.ReadsAs parts a) {more : List (String × Option Json)}
    (hnames : ((parts ++ more).map (·.1)).Nodup) (title : String) :
    Json.ReadsAs (Decode.record title f) (.object (writtenFields (parts ++ more))) a := by
  have hascending : Ascending (normalizeFields (writtenFields (parts ++ more)) []) := by
    rw [normalizeFields_nil]
    exact SortedMap.ascending _
  have hcheck : Decode.checkFields f.checks false []
      (Source.ofFields (normalizeFields (writtenFields (parts ++ more)) [])) = .ok () := by
    refine checkFields_ofFields hascending.nodup_keys (fun e he check hlookup => ?_) []
      (fun _ _ => List.not_mem_nil)
    obtain ⟨j, hmem, hj⟩ := (lookupEntry_sorted_eq_some_iff hnames).1
      (hascending.lookupEntry_eq_some_iff.2 he)
    obtain ⟨part, hpart, hname, hpasses⟩ := exists_part_of_lookup h.checks hlookup
    have hsame : part = (e.1, some j) :=
      List.inj_on_of_nodup_map hnames (List.mem_append_left more hpart) hmem hname.symm
    rw [← hj]
    exact hpasses j (congrArg Prod.snd hsame)
  rw [readsAs_iff, normalize, Source.ofJson, Decode.record, Decode.recordAs,
    if_neg Bool.false_ne_true, hcheck]
  refine h.ofObject _ fun part hpart => ?_
  rw [lookField_ofFields, lookupEntry_sorted hnames (List.mem_append_left more hpart),
    Option.map_map]
  rfl

/-- A record by itself is read as it was written. -/
theorem Fields.ReadsAs.record {f : Fields α} {parts : List (String × Option Json)} {a : α}
    (h : f.ReadsAs parts a) (hdeclared : f.names.Nodup) (title : String) :
    Json.ReadsAs (Decode.record title f) (.object (writtenFields parts)) a := by
  have hnames : ((parts ++ []).map Prod.fst).Nodup := by
    rw [List.append_nil, ← h.names_eq]
    exact hdeclared
  simpa only [List.append_nil] using h.recordAmong hnames title

end Json
end Rulebook
