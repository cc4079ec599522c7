/-
# UTF-8 is read back, and nothing else is read

The rows of the table of well-formed sequences say which bytes stand for a character and which
number they spell (`CharBytes`). Reading takes such a sequence off the front
(`decodeUtf8From_append`), the bytes of a character are one (`charBytes_utf8EncodeChar`), and each
is the bytes of the character that it spells (`CharBytes.utf8EncodeChar_ofNat`). So a text is read
back from its bytes, and bytes that are read are those of the text (`decodeUtf8_eq_ok_iff`): what
is refused is the UTF-8 of no text.
-/

import Rulebook.Proofs.Text.ByteOrder

namespace Rulebook
namespace Text

/-- Bytes that stand for one character, and the number that they spell. -/
inductive CharBytes : List UInt8 → Nat → Prop
  | one {a : UInt8} (ha : a < 0x80) : CharBytes [a] a.toNat
  | two {a b : UInt8} (ha : (0xC2 ≤ a && a ≤ 0xDF) = true) (hb : isTail b = true) :
      CharBytes [a, b] (a.toNat % 32 * 64 + tailBits b)
  | three {a b c : UInt8} (ha : (0xE0 ≤ a && a ≤ 0xEF) = true) (hb : isSecond a b = true)
      (hc : isTail c = true) :
      CharBytes [a, b, c] (a.toNat % 16 * 4096 + tailBits b * 64 + tailBits c)
  | four {a b c d : UInt8} (ha : (0xF0 ≤ a && a ≤ 0xF4) = true) (hb : isSecond a b = true)
      (hc : isTail c = true) (hd : isTail d = true) :
      CharBytes [a, b, c, d]
        (a.toNat % 8 * 262144 + tailBits b * 4096 + tailBits c * 64 + tailBits d)

/-! ### Bytes by their numbers -/

/-- A byte is between two others exactly if its number is between theirs. -/
theorem lead_iff {a lo hi : UInt8} :
    (lo ≤ a && a ≤ hi) = true ↔ lo.toNat ≤ a.toNat ∧ a.toNat ≤ hi.toNat := by
  simp [UInt8.le_iff_toNat_le]

/-- A trailing byte is one from 128 to 191. -/
theorem isTail_iff {b : UInt8} : isTail b = true ↔ 128 ≤ b.toNat ∧ b.toNat ≤ 191 :=
  lead_iff

/-- A second byte is a trailing one, with a narrower bound behind four of the lead bytes. -/
theorem isSecond_iff {a b : UInt8} :
    isSecond a b = true ↔ 128 ≤ b.toNat ∧ b.toNat ≤ 191 ∧ (a.toNat = 224 → 160 ≤ b.toNat) ∧
      (a.toNat = 237 → b.toNat ≤ 159) ∧ (a.toNat = 240 → 144 ≤ b.toNat) ∧
      (a.toNat = 244 → b.toNat ≤ 143) := by
  simp only [isSecond, beq_iff_eq, ← UInt8.toNat_inj, UInt8.reduceToNat]
  split_ifs <;> simp only [isTail_iff, lead_iff, UInt8.reduceToNat] <;> omega

/-- **Reading takes the bytes of a character off the front.** -/
theorem decodeUtf8From_append {bs : List UInt8} {n : Nat} (h : CharBytes bs n) (pos : Nat)
    (rest : List UInt8) :
    decodeUtf8From pos (bs ++ rest) =
      (decodeUtf8From (pos + bs.length) rest).map (Char.ofNat n :: ·) := by
  -- first bytes of different rows exclude each other
  have hascii {a lo : UInt8} (hlo : lo ≤ a) (h : 0x80 ≤ lo) : ¬ a < 0x80 :=
    UInt8.not_lt.2 (UInt8.le_trans h hlo)
  have hnot {a lo hi lo' hi' : UInt8} (ha : (lo' ≤ a && a ≤ hi') = true) (h : hi < lo') :
      ¬ (lo ≤ a && a ≤ hi) = true := by
    rw [lead_iff] at ha ⊢
    rw [UInt8.lt_iff_toNat_lt] at h
    omega
  cases h with
  | @one a ha =>
    show decodeUtf8From pos (a :: rest) = _
    rw [decodeUtf8From.eq_def]
    exact if_pos ha
  | @two a b ha hb =>
    have hlo := of_decide_eq_true (Bool.and_eq_true_iff.1 ha).1
    show decodeUtf8From pos (a :: b :: rest) = _
    rw [decodeUtf8From.eq_def]
    dsimp only
    rw [if_neg (hascii hlo (by decide)), if_pos ha, if_pos hb]
    rfl
  | @three a b c ha hb hc =>
    have hlo := of_decide_eq_true (Bool.and_eq_true_iff.1 ha).1
    show decodeUtf8From pos (a :: b :: c :: rest) = _
    rw [decodeUtf8From.eq_def]
    dsimp only
    rw [if_neg (hascii hlo (by decide)), if_neg (hnot ha (by decide)), if_pos ha, if_pos hb,
      if_pos hc]
    rfl
  | @four a b c d ha hb hc hd =>
    have hlo := of_decide_eq_true (Bool.and_eq_true_iff.1 ha).1
    show decodeUtf8From pos (a :: b :: c :: d :: rest) = _
    rw [decodeUtf8From.eq_def]
    dsimp only
    rw [if_neg (hascii hlo (by decide)), if_neg (hnot ha (by decide)),
      if_neg (hnot ha (by decide)), if_pos ha, if_pos hb, if_pos hc, if_pos hd]
    rfl

/-- The bytes of a character, by the number of its code. -/
theorem utf8EncodeChar_eq (c : Char) :
    String.utf8EncodeChar c =
      if c.toNat ≤ 127 then [.ofNat c.toNat]
      else if c.toNat ≤ 2047 then [.ofNat (c.toNat / 64 % 32 + 192), .ofNat (c.toNat % 64 + 128)]
      else if c.toNat ≤ 65535 then
        [.ofNat (c.toNat / 4096 % 16 + 224), .ofNat (c.toNat / 64 % 64 + 128),
          .ofNat (c.toNat % 64 + 128)]
      else
        [.ofNat (c.toNat / 262144 % 8 + 240), .ofNat (c.toNat / 4096 % 64 + 128),
          .ofNat (c.toNat / 64 % 64 + 128), .ofNat (c.toNat % 64 + 128)] :=
  rfl

/-- **The bytes of a character stand for it.** -/
theorem charBytes_utf8EncodeChar (c : Char) : CharBytes (String.utf8EncodeChar c) c.toNat := by
  have hvalid : c.toNat < 55296 ∨ 57343 < c.toNat ∧ c.toNat < 1114112 := c.valid
  have hbyte {n : Nat} (h : n < 256) : (UInt8.ofNat n).toNat = n := UInt8.toNat_ofNat_of_lt' h
  rw [utf8EncodeChar_eq]
  generalize c.toNat = n at hvalid ⊢
  split_ifs with h1 h2 h3
  · have ha := hbyte (n := n) (by omega)
    generalize UInt8.ofNat n = a at ha ⊢
    rw [← ha]
    exact .one (UInt8.lt_iff_toNat_lt.2 (show a.toNat < 128 by omega))
  · have ha := hbyte (n := n / 64 % 32 + 192) (by omega)
    have hb := hbyte (n := n % 64 + 128) (by omega)
    generalize UInt8.ofNat (n / 64 % 32 + 192) = a at ha ⊢
    generalize UInt8.ofNat (n % 64 + 128) = b at hb ⊢
    rw [show n = a.toNat % 32 * 64 + tailBits b by unfold tailBits; omega]
    exact .two (lead_iff.2 ⟨show 194 ≤ _ by omega, show _ ≤ 223 by omega⟩)
      (isTail_iff.2 (by omega))
  · have ha := hbyte (n := n / 4096 % 16 + 224) (by omega)
    have hb := hbyte (n := n / 64 % 64 + 128) (by omega)
    have hc := hbyte (n := n % 64 + 128) (by omega)
    generalize UInt8.ofNat (n / 4096 % 16 + 224) = a at ha ⊢
    generalize UInt8.ofNat (n / 64 % 64 + 128) = b at hb ⊢
    generalize UInt8.ofNat (n % 64 + 128) = c at hc ⊢
    rw [show n = a.toNat % 16 * 4096 + tailBits b * 64 + tailBits c by unfold tailBits; omega]
    exact .three (lead_iff.2 ⟨show 224 ≤ _ by omega, show _ ≤ 239 by omega⟩)
      (isSecond_iff.2 (by omega)) (isTail_iff.2 (by omega))
  · have ha := hbyte (n := n / 262144 % 8 + 240) (by omega)
    have hb := hbyte (n := n / 4096 % 64 + 128) (by omega)
    have hc := hbyte (n := n / 64 % 64 + 128) (by omega)
    have hd := hbyte (n := n % 64 + 128) (by omega)
    generalize UInt8.ofNat (n / 262144 % 8 + 240) = a at ha ⊢
    generalize UInt8.ofNat (n / 4096 % 64 + 128) = b at hb ⊢
    generalize UInt8.ofNat (n / 64 % 64 + 128) = c at hc ⊢
    generalize UInt8.ofNat (n % 64 + 128) = d at hd ⊢
    rw [show n = a.toNat % 8 * 262144 + tailBits b * 4096 + tailBits c * 64 + tailBits d by
      unfold tailBits; omega]
    exact .four (lead_iff.2 ⟨show 240 ≤ _ by omega, show _ ≤ 244 by omega⟩)
      (isSecond_iff.2 (by omega)) (isTail_iff.2 (by omega)) (isTail_iff.2 (by omega))

/-- Bytes that stand for a character are the bytes of this character. -/
theorem CharBytes.utf8EncodeChar_ofNat {bs : List UInt8} {n : Nat} (h : CharBytes bs n) :
    String.utf8EncodeChar (Char.ofNat n) = bs := by
  have hbyte {n : Nat} {a : UInt8} (h : n = a.toNat) : UInt8.ofNat n = a := by
    rw [h, UInt8.ofNat_toNat]
  have hnum {n : Nat} (h : n < 55296 ∨ 57343 < n ∧ n < 1114112) : (Char.ofNat n).toNat = n := by
    rw [Char.ofNat, dif_pos (show n.isValidChar from h)]
    rfl
  rw [utf8EncodeChar_eq]
  cases h with
  | @one a ha =>
    have ha : a.toNat < 128 := UInt8.lt_iff_toNat_lt.1 ha
    rw [hnum (by omega), if_pos (by omega), UInt8.ofNat_toNat]
  | @two a b ha hb =>
    have ha : 194 ≤ a.toNat ∧ a.toNat ≤ 223 := lead_iff.1 ha
    have hb := isTail_iff.1 hb
    unfold tailBits
    rw [hnum (by omega), if_neg (by omega), if_pos (by omega), hbyte (a := a) (by omega),
      hbyte (a := b) (by omega)]
  | @three a b c ha hb hc =>
    have ha : 224 ≤ a.toNat ∧ a.toNat ≤ 239 := lead_iff.1 ha
    have hb := isSecond_iff.1 hb
    have hc := isTail_iff.1 hc
    unfold tailBits
    rw [hnum (by omega), if_neg (by omega), if_neg (by omega), if_pos (by omega),
      hbyte (a := a) (by omega), hbyte (a := b) (by omega), hbyte (a := c) (by omega)]
  | @four a b c d ha hb hc hd =>
    have ha : 240 ≤ a.toNat ∧ a.toNat ≤ 244 := lead_iff.1 ha
    have hb := isSecond_iff.1 hb
    have hc := isTail_iff.1 hc
    have hd := isTail_iff.1 hd
    unfold tailBits
    rw [hnum (by omega), if_neg (by omega), if_neg (by omega), if_neg (by omega),
      hbyte (a := a) (by omega), hbyte (a := b) (by omega), hbyte (a := c) (by omega),
      hbyte (a := d) (by omega)]

/-- What characters are encoded as is decoded as these characters. -/
theorem decodeUtf8From_flatMap (pos : Nat) (cs : List Char) :
    decodeUtf8From pos (cs.flatMap String.utf8EncodeChar) = .ok cs := by
  induction cs generalizing pos with
  | nil => rfl
  | cons c rest ih =>
    rw [List.flatMap_cons, decodeUtf8From_append (charBytes_utf8EncodeChar c), ih,
      Char.ofNat_toNat]
    rfl

/-- What is read behind a character. -/
theorem exists_of_map_cons_eq_ok {c : Char} {r : Except Utf8Error (List Char)} {cs : List Char}
    (h : r.map (c :: ·) = .ok cs) : ∃ rest, r = .ok rest ∧ cs = c :: rest := by
  rcases r with e | rest
  · cases h
  · exact ⟨rest, rfl, (Except.ok.inj h).symm⟩

/-- What is decoded is the encoding of what it is decoded as. -/
theorem eq_flatMap_of_decodeUtf8From {pos : Nat} {bytes : List UInt8} {cs : List Char}
    (h : decodeUtf8From pos bytes = .ok cs) : bytes = cs.flatMap String.utf8EncodeChar := by
  fun_induction decodeUtf8From pos bytes generalizing cs with
  | case1 =>
    obtain rfl := Except.ok.inj h
    rfl
  | case2 pos a rest ha ih =>
    obtain ⟨cs', hrest, rfl⟩ := exists_of_map_cons_eq_ok h
    rw [List.flatMap_cons, (CharBytes.one ha).utf8EncodeChar_ofNat, ← ih hrest]
    rfl
  | case4 pos a _ ha b rest hb ih =>
    obtain ⟨cs', hrest, rfl⟩ := exists_of_map_cons_eq_ok h
    rw [List.flatMap_cons, (CharBytes.two ha hb).utf8EncodeChar_ofNat, ← ih hrest]
    rfl
  | case8 pos a _ _ ha b hb c rest hc ih =>
    obtain ⟨cs', hrest, rfl⟩ := exists_of_map_cons_eq_ok h
    rw [List.flatMap_cons, (CharBytes.three ha hb hc).utf8EncodeChar_ofNat, ← ih hrest]
    rfl
  | case14 pos a _ _ _ ha b hb c hc d rest hd ih =>
    obtain ⟨cs', hrest, rfl⟩ := exists_of_map_cons_eq_ok h
    rw [List.flatMap_cons, (CharBytes.four ha hb hc hd).utf8EncodeChar_ofNat, ← ih hrest]
    rfl
  | _ => cases h

/-- **Bytes are read exactly if they are those of a text**, and as this text. -/
theorem decodeUtf8_eq_ok_iff {bytes : List UInt8} {s : String} :
    decodeUtf8 bytes = .ok s ↔ bytes = encodeUtf8 s := by
  rw [encodeUtf8]
  constructor
  · intro h
    rcases hread : decodeUtf8From 0 bytes with e | cs
    · rw [decodeUtf8, hread] at h
      cases h
    · rw [decodeUtf8, hread] at h
      obtain rfl := Except.ok.inj h
      rw [String.toList_ofList, ← eq_flatMap_of_decodeUtf8From hread]
  · rintro rfl
    rw [decodeUtf8, decodeUtf8From_flatMap]
    exact congrArg Except.ok String.ofList_toList

end Text
end Rulebook
