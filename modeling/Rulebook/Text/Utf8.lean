/-
# Reading UTF-8

`decodeUtf8` reads bytes as UTF-8 and accepts exactly the well-formed sequences:
no overlong form, no surrogate, nothing above U+10FFFF. A failure says where the first
ill-formed sequence starts and how many bytes of it could have begun a character; when
the bytes end before a character does, the text is incomplete rather than wrong.

| first byte | second byte | bytes in all |
| --- | --- | ---: |
| `00`–`7F` | | 1 |
| `C2`–`DF` | `80`–`BF` | 2 |
| `E0` | `A0`–`BF` | 3 |
| `E1`–`EC`, `EE`, `EF` | `80`–`BF` | 3 |
| `ED` | `80`–`9F` | 3 |
| `F0` | `90`–`BF` | 4 |
| `F1`–`F3` | `80`–`BF` | 4 |
| `F4` | `80`–`8F` | 4 |

Where bytes are only shown, `decodeLossy` puts U+FFFD in the place of every ill-formed
sequence and reads on behind it.
-/

namespace Rulebook
namespace Text

/-- Why bytes are not UTF-8: `validUpTo` bytes are, and then `invalidLength` bytes form no
character, or the input ends inside one. -/
structure Utf8Error where
  validUpTo : Nat
  invalidLength : Option Nat
deriving DecidableEq, Repr

/-- The wording of a failure. -/
def Utf8Error.message (e : Utf8Error) : String :=
  match e.invalidLength with
  | some n =>
    "invalid utf-8 sequence of " ++ toString n ++ " bytes from index " ++ toString e.validUpTo
  | none => "incomplete utf-8 byte sequence from index " ++ toString e.validUpTo

/-- A byte that continues a character. -/
def isTail (b : UInt8) : Bool := 0x80 ≤ b && b ≤ 0xBF

/-- A second byte that may follow the first byte of a character of three or four bytes. -/
def isSecond (a b : UInt8) : Bool :=
  if a == 0xE0 then 0xA0 ≤ b && b ≤ 0xBF
  else if a == 0xED then 0x80 ≤ b && b ≤ 0x9F
  else if a == 0xF0 then 0x90 ≤ b && b ≤ 0xBF
  else if a == 0xF4 then 0x80 ≤ b && b ≤ 0x8F
  else isTail b

/-- The payload of a continuation byte. -/
def tailBits (b : UInt8) : Nat := b.toNat % 64

/-- Reads the characters of `bytes`, of which `at` bytes came before. -/
def decodeUtf8From (pos : Nat) : List UInt8 → Except Utf8Error (List Char)
  | [] => .ok []
  | a :: rest =>
    if a < 0x80 then
      (decodeUtf8From (pos + 1) rest).map (Char.ofNat a.toNat :: ·)
    else if 0xC2 ≤ a && a ≤ 0xDF then
      match rest with
      | [] => .error ⟨pos, none⟩
      | b :: rest =>
        if isTail b then
          (decodeUtf8From (pos + 2) rest).map
            (Char.ofNat (a.toNat % 32 * 64 + tailBits b) :: ·)
        else .error ⟨pos, some 1⟩
    else if 0xE0 ≤ a && a ≤ 0xEF then
      match rest with
      | [] => .error ⟨pos, none⟩
      | b :: rest =>
        if isSecond a b then
          match rest with
          | [] => .error ⟨pos, none⟩
          | c :: rest =>
            if isTail c then
              (decodeUtf8From (pos + 3) rest).map
                (Char.ofNat (a.toNat % 16 * 4096 + tailBits b * 64 + tailBits c) :: ·)
            else .error ⟨pos, some 2⟩
        else .error ⟨pos, some 1⟩
    else if 0xF0 ≤ a && a ≤ 0xF4 then
      match rest with
      | [] => .error ⟨pos, none⟩
      | b :: rest =>
        if isSecond a b then
          match rest with
          | [] => .error ⟨pos, none⟩
          | c :: rest =>
            if isTail c then
              match rest with
              | [] => .error ⟨pos, none⟩
              | d :: rest =>
                if isTail d then
                  (decodeUtf8From (pos + 4) rest).map
                    (Char.ofNat
                      (a.toNat % 8 * 262144 + tailBits b * 4096 + tailBits c * 64 + tailBits d)
                        :: ·)
                else .error ⟨pos, some 3⟩
            else .error ⟨pos, some 2⟩
        else .error ⟨pos, some 1⟩
    else .error ⟨pos, some 1⟩

/-- Reads bytes as UTF-8. -/
def decodeUtf8 (bytes : List UInt8) : Except Utf8Error String :=
  (decodeUtf8From 0 bytes).map String.ofList

/-- An ill-formed sequence has bytes. -/
theorem invalidLength_pos {pos : Nat} {bytes : List UInt8} {e : Utf8Error} {n : Nat}
    (h : decodeUtf8From pos bytes = .error e) (hn : e.invalidLength = some n) :
    bytes ≠ [] ∧ 0 < n := by
  have hread {c : Char} {r : Except Utf8Error (List Char)} (h : r.map (c :: ·) = .error e) :
      r = .error e := by
    cases r with
    | ok cs => cases h
    | error e' => exact h
  fun_induction decodeUtf8From pos bytes with
  | case1 => cases h
  | case2 pos a rest ha ih => exact ⟨List.cons_ne_nil _ _, (ih (hread h)).2⟩
  | case4 pos a _ ha b rest hb ih => exact ⟨List.cons_ne_nil _ _, (ih (hread h)).2⟩
  | case8 pos a _ _ ha b hb c rest hc ih => exact ⟨List.cons_ne_nil _ _, (ih (hread h)).2⟩
  | case14 pos a _ _ _ ha b hb c hc d rest hd ih => exact ⟨List.cons_ne_nil _ _, (ih (hread h)).2⟩
  | _ =>
    -- The bytes end inside a character, or one to three of them form none.
    obtain rfl := Except.error.inj h
    grind

/-- Reads bytes as UTF-8, with a replacement character for every ill-formed sequence. -/
def decodeLossy (bytes : List UInt8) : List Char :=
  match _h : decodeUtf8From 0 bytes with
  | .ok cs => cs
  | .error e =>
    ((decodeUtf8From 0 (bytes.take e.validUpTo)).toOption.getD []) ++ '\uFFFD' ::
      match _hn : e.invalidLength with
      | none => []
      | some n => decodeLossy (bytes.drop (e.validUpTo + n))
termination_by bytes.length
decreasing_by
  obtain ⟨hne, hpos⟩ := invalidLength_pos _h _hn
  have hlength : 0 < bytes.length := List.length_pos_iff.2 hne
  rw [List.length_drop]
  omega

/-- The UTF-8 bytes of a text. -/
def encodeUtf8 (s : String) : List UInt8 :=
  s.toList.flatMap String.utf8EncodeChar

end Text
end Rulebook
