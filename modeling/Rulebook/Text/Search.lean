/-
# Texts inside texts

Looking for a text in another one, cutting a text wherever another one occurs, and
replacing every occurrence. Occurrences are taken from the left and do not overlap. The
empty text occurs before every character and at the end.

Texts are found by their fingerprints (`Sought`), in one pass. That it finds all of them and
no others is `occursIn_iff`.
-/

import Rulebook.Text.Blank
import Rulebook.Text.Split

namespace Rulebook
namespace Text

/-! ### Fingerprints

A text that is looked for is compared only with the windows of its own length that have its
fingerprint, and the fingerprint of a window follows from the one before it. -/

/-- What the fingerprint of a text is multiplied with when a character comes to its end. -/
def spread : UInt64 := 6364136223846793005

/-- The fingerprint of a text with a character at its end. -/
def printed (print : UInt64) (c : Char) : UInt64 := print * spread + c.val.toUInt64

/-- A number that equal texts share. -/
def fingerprint (s : List Char) : UInt64 := s.foldl printed 0

/-- A text that is looked for. -/
structure Sought where
  /-- The text. -/
  chars : List Char
  /-- Its fingerprint. -/
  print : UInt64
  /-- How much its first character counts in the fingerprint. -/
  weight : UInt64

namespace Sought

/-- What is known about a text that is looked for. -/
def of (s : List Char) : Sought :=
  ⟨s, fingerprint s, s.tail.foldl (fun w _ => w * spread) 1⟩

/-- The fingerprint of the window at the start of a text. -/
def start (part : Sought) (s : List Char) : UInt64 := fingerprint (s.take part.chars.length)

/-- The text stands at the start of another one, the window at which has a fingerprint. -/
def standsAt (part : Sought) (print : UInt64) (s : List Char) : Bool :=
  print == part.print && part.chars.isPrefixOf s

/-- The fingerprint of a window after it has lost its first character `c` and gained the first
of those `ahead` of it. Without such a one no window is left in which the text could stand. -/
def slide (part : Sought) (print : UInt64) (c : Char) (ahead : List Char) : UInt64 :=
  match ahead with
  | [] => print
  | a :: _ => printed (print - c.val.toUInt64 * part.weight) a

end Sought

/-- A text occurs in another one. The window at the start of that has a fingerprint, and some
characters are ahead of it. -/
def occursFrom (part : Sought) : UInt64 → List Char → List Char → Bool
  | _, [], _ => part.chars.isEmpty
  | print, c :: rest, ahead =>
    part.standsAt print (c :: rest) ||
      occursFrom part (part.slide print c ahead) rest ahead.tail

/-- One text occurs in another. -/
def occursIn (part whole : List Char) : Bool :=
  let part := Sought.of part
  occursFrom part (part.start whole) whole (whole.drop part.chars.length)

/-! ### Laws of occurrence -/

/-- A fingerprint that goes on from another one. -/
theorem foldl_printed (s : List Char) (h : UInt64) :
    s.foldl printed h = h * s.foldl (fun w _ => w * spread) 1 + fingerprint s := by
  induction s generalizing h with
  | nil => simp [fingerprint]
  | cons c rest ih =>
    have weight (w : UInt64) : rest.foldl (fun w _ => w * spread) w
        = w * rest.foldl (fun w _ => w * spread) 1 := by
      clear ih
      induction rest generalizing w with
      | nil => simp
      | cons d rest ih => simp only [List.foldl_cons]; rw [ih, ih (1 * spread)]; grind
    simp only [List.foldl_cons, fingerprint]
    rw [ih, ih (printed 0 c), weight (1 * spread)]
    simp only [printed]
    grind

/-- The fingerprint of a text from that of the text without its first character. -/
theorem fingerprint_cons (c : Char) (s : List Char) :
    fingerprint (c :: s) = c.val.toUInt64 * s.foldl (fun w _ => w * spread) 1 + fingerprint s := by
  have := foldl_printed s (printed 0 c)
  simp only [printed] at this
  simp only [fingerprint, List.foldl_cons, printed] at *
  rw [this]; grind

/-- The fingerprint of a text with a character at its end. -/
theorem fingerprint_append_singleton (s : List Char) (c : Char) :
    fingerprint (s ++ [c]) = printed (fingerprint s) c := by
  simp [fingerprint]

/-- Texts of one length give their first character one weight. -/
theorem foldl_weight_eq (s t : List Char) (h : s.length = t.length) (w : UInt64) :
    s.foldl (fun w _ => w * spread) w = t.foldl (fun w _ => w * spread) w := by
  induction s generalizing t w with
  | nil => cases t with
    | nil => rfl
    | cons => simp at h
  | cons a s ih => cases t with
    | nil => simp at h
    | cons b t => simp only [List.foldl_cons]; exact ih t (by simpa using h) _

namespace Sought

/-- The window that a text stands at has its fingerprint. -/
theorem standsAt_iff {part s : List Char} {print : UInt64}
    (hp : part.length ≤ s.length → print = (of part).start s) :
    (of part).standsAt print s = true ↔ part <+: s := by
  simp only [standsAt, Bool.and_eq_true, beq_iff_eq, List.isPrefixOf_iff_prefix]
  constructor
  · exact fun h => h.2
  · intro h
    refine ⟨?_, h⟩
    rw [hp h.length_le]
    obtain ⟨rest, rfl⟩ := h
    simp [start, of]

/-- Sliding leads from the fingerprint of a window to that of the next one. -/
theorem slide_start {part rest : List Char} {c : Char} (hne : part ≠ [])
    (h : part.length ≤ rest.length) :
    (of part).slide ((of part).start (c :: rest)) c ((c :: rest).drop part.length)
      = (of part).start rest := by
  obtain ⟨b, tail, rfl⟩ := List.exists_cons_of_ne_nil hne
  simp only [List.length_cons] at h
  obtain ⟨a, after, ha⟩ : ∃ a after, rest.drop tail.length = a :: after := by
    cases hd : rest.drop tail.length with
    | nil => have := List.drop_eq_nil_iff.1 hd; omega
    | cons a after => exact ⟨a, after, rfl⟩
  have window : rest.take (tail.length + 1) = rest.take tail.length ++ [a] := by
    have hlt : tail.length < rest.length := by omega
    have hget : rest[tail.length] = a := by
      rw [List.drop_eq_getElem_cons hlt] at ha
      exact (List.cons.inj ha).1
    rw [List.take_succ_eq_append_getElem hlt, hget]
  have hlen : (rest.take tail.length).length = tail.length := by simp; omega
  simp only [start, of, List.length_cons, List.take_succ_cons, List.drop_succ_cons, slide, ha,
    window, fingerprint_append_singleton, fingerprint_cons, List.tail_cons]
  rw [foldl_weight_eq _ _ hlen]
  congr 1
  grind

end Sought

/-- `occursIn_iff` for a text that is not empty, from a place on. -/
theorem occursFrom_iff (part : List Char) (hne : part ≠ []) (s : List Char) (print : UInt64)
    (hp : part.length ≤ s.length → print = (Sought.of part).start s) :
    occursFrom (Sought.of part) print s (s.drop part.length) = true ↔ part <:+: s := by
  induction s generalizing print with
  | nil =>
    have : (Sought.of part).chars = part := rfl
    simp [occursFrom, this]
  | cons c rest ih =>
    rw [occursFrom, Bool.or_eq_true, Sought.standsAt_iff hp, List.infix_cons_iff]
    refine or_congr Iff.rfl ?_
    have : ((c :: rest).drop part.length).tail = rest.drop part.length := by
      rw [List.tail_drop, List.drop_succ_cons]
    rw [this]
    refine ih _ fun h => ?_
    rw [hp (by simp only [List.length_cons]; omega)]
    exact Sought.slide_start hne h

/-- One text occurs in another: some characters stand in front of it, and some behind. -/
theorem occursIn_iff (part whole : List Char) : occursIn part whole = true ↔ part <:+: whole := by
  by_cases hne : part = []
  · subst hne
    have : occursIn [] whole = true := by
      unfold occursIn
      cases whole with
      | nil => rfl
      | cons c rest =>
        simp only [occursFrom, Bool.or_eq_true]
        left
        simp [Sought.standsAt, Sought.start, Sought.of]
    simp [this]
  · exact occursFrom_iff part hne whole _ fun _ => rfl

/-! ### Pieces -/

/-- The pieces between the occurrences of a text that is not empty. Of the first piece some
characters have been read, the last of which comes first, and the next `skip` characters
belong to an occurrence that has been counted already. The window at the start of what is left
has a fingerprint, and some characters are ahead of it. -/
def piecesFrom (sep : Sought) :
    List Char → Nat → UInt64 → List Char → List Char → List (List Char)
  | piece, _, _, [], _ => [piece.reverse]
  | piece, skip + 1, print, c :: rest, ahead =>
    piecesFrom sep piece skip (sep.slide print c ahead) rest ahead.tail
  | piece, 0, print, c :: rest, ahead =>
    if sep.standsAt print (c :: rest) then
      piece.reverse ::
        piecesFrom sep [] (sep.chars.length - 1) (sep.slide print c ahead) rest ahead.tail
    else piecesFrom sep (c :: piece) 0 (sep.slide print c ahead) rest ahead.tail

/-- The pieces of a text between the occurrences of another one. -/
def pieces (sep s : List Char) : List (List Char) :=
  if sep = [] then [] :: s.map (fun c => [c]) ++ [[]]
  else
    let sep := Sought.of sep
    piecesFrom sep [] 0 (sep.start s) s (s.drop sep.chars.length)

/-- A text with every occurrence of another one replaced. -/
def replace (part new s : List Char) : List Char := new.intercalate (pieces part s)

/-- At most `limit` pieces of a text between the occurrences of another one; the last
piece is all that is left. -/
def piecesUpTo (sep : List Char) (limit : Nat) (s : List Char) : List (List Char) :=
  let ps := pieces sep s
  if ps.length ≤ limit then ps
  else ps.take (limit - 1) ++ [sep.intercalate (ps.drop (limit - 1))]

/-- A character in front of the first piece. -/
def onFirst (c : Char) : List (List Char) → List (List Char)
  | [] => [[c]]
  | piece :: more => (c :: piece) :: more

/-- The pieces of a text between its blank characters, those that are not empty. -/
def words (s : List Char) : List (List Char) :=
  (go s).filter (· ≠ [])
where
  /-- The pieces between blank characters, empty ones included. -/
  go : List Char → List (List Char)
    | [] => [[]]
    | c :: rest => if isBlank c then [] :: go rest else onFirst c (go rest)

/-- The pieces of a text between its blank characters, at most so many cut off. The last
piece is all that is left behind the blank characters in front of it, or these themselves
if they are all that is left. -/
def wordsUpTo (cuts : Nat) (s : List Char) : List (List Char) :=
  match s, s.dropWhile isBlank with
  | [], _ => []
  | s, [] => [s]
  | _, rest =>
    match cuts with
    | 0 => [rest]
    | n + 1 =>
      rest.takeWhile (fun c => !isBlank c) :: wordsUpTo n (rest.dropWhile fun c => !isBlank c)

/-- A line without the carriage return at its end. -/
def chomp (line : List Char) : List Char :=
  if line.getLast? = some '\r' then line.dropLast else line

/-- The lines of a text; the last one may lack its line feed. -/
def lines (s : List Char) : List (List Char) :=
  let ps := splitAt '\n' s
  ps.dropLast.map chomp ++ (ps.getLast?.toList.filter (· ≠ []))

end Text
end Rulebook
