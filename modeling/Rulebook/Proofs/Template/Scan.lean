/-
# Scanning plain text and placeholders

Text in which no mark begins is passed over as it stands (`scanFrom_append_of_plain`): an opening
brace in it is followed by another character of it, and the two are no mark. A name between spaces
in a tag that writes a value is read letter by letter (`scanFrom_continue`), and the tag ends at
the first closing mark, as no bracket is open (`scanFrom_placeholder`).
-/

import Rulebook.Template.Token
import Mathlib.Data.List.Infix

namespace Rulebook
namespace Template

/-- Text in which no tag and no comment begins, whatever follows it. -/
structure Plain (cs : List Char) : Prop where
  no_output : ¬ ['\x7b', '\x7b'] <:+: cs
  no_statement : ¬ ['\x7b', '%'] <:+: cs
  no_comment : ¬ ['\x7b', '#'] <:+: cs
  not_open : cs.getLast? ≠ some '\x7b'

instance (cs : List Char) : Decidable (Plain cs) :=
  decidable_of_iff
    ((¬ ['\x7b', '\x7b'] <:+: cs ∧ ¬ ['\x7b', '%'] <:+: cs) ∧ ¬ ['\x7b', '#'] <:+: cs ∧
      cs.getLast? ≠ some '\x7b')
    ⟨fun h => ⟨h.1.1, h.1.2, h.2.1, h.2.2⟩, fun h => ⟨⟨h.1, h.2⟩, h.3, h.4⟩⟩

/-- A name that a variable can have: a letter or an underscore, then letters, digits and
underscores. -/
def isIdentifier : List Char → Bool
  | [] => false
  | c :: rest => startsName c && rest.all continuesName

variable {c : Char} {cs : List Char}

/-- What stands at the end of a plain text is plain. -/
theorem Plain.of_cons (h : Plain (c :: cs)) : Plain cs where
  no_output hin := h.no_output (List.infix_cons hin)
  no_statement hin := h.no_statement (List.infix_cons hin)
  no_comment hin := h.no_comment (List.infix_cons hin)
  not_open hlast := h.not_open (by rw [List.getLast?_cons, hlast]; rfl)

/-- Behind an opening brace plain text goes on, and not with the rest of a mark. -/
theorem Plain.exists_of_brace (h : Plain ('\x7b' :: cs)) :
    ∃ d more, cs = d :: more ∧ opening? d = none := by
  rcases cs with _ | ⟨d, more⟩
  · exact absurd rfl h.not_open
  · have hne (e : Char) (hin : ¬ ['\x7b', e] <:+: '\x7b' :: d :: more) : d ≠ e := by
      rintro rfl
      exact hin ⟨[], more, rfl⟩
    refine ⟨d, more, rfl, ?_⟩
    unfold opening?
    split
    · exact absurd rfl (hne _ h.no_output)
    · exact absurd rfl (hne _ h.no_statement)
    · exact absurd rfl (hne _ h.no_comment)
    · rfl

/-- A character that is no brace belongs to the text. -/
theorem scanFrom_text_cons (hc : c ≠ '\x7b') (seen rest : List Char) :
    scanFrom (.text false seen) (c :: rest) = scanFrom (.text false (c :: seen)) rest := by
  rw [scanFrom.eq_def]
  exact if_neg hc

/-- A brace that opens nothing belongs to the text. -/
theorem scanFrom_text_brace {d : Char} (hd : opening? d = none) (seen rest : List Char) :
    scanFrom (.text false seen) ('\x7b' :: d :: rest) =
      scanFrom (.text false ('\x7b' :: seen)) (d :: rest) := by
  rw [scanFrom.eq_def]
  dsimp only
  rw [hd]
  rfl

/-- **Plain text is passed over as it stands.** -/
theorem scanFrom_append_of_plain (h : Plain cs) (seen rest : List Char) :
    scanFrom (.text false seen) (cs ++ rest) =
      scanFrom (.text false (cs.reverse ++ seen)) rest := by
  induction cs generalizing seen with
  | nil => rfl
  | cons c cs ih =>
    have hstep : scanFrom (.text false seen) (c :: cs ++ rest) =
        scanFrom (.text false (c :: seen)) (cs ++ rest) := by
      by_cases hc : c = '\x7b'
      · subst hc
        obtain ⟨d, more, rfl, hd⟩ := h.exists_of_brace
        exact scanFrom_text_brace hd seen (more ++ rest)
      · exact scanFrom_text_cons hc seen (cs ++ rest)
    rw [hstep, ih h.of_cons, List.reverse_cons, List.append_assoc, List.singleton_append]

/-! ### Tags -/

/-- A tag that writes a value, with no bracket open. -/
def outputTag (tokens : List Token) (word : Word) : Mode :=
  .tag { kind := .output, depth := 0, tokens, word }

/-- Two braces and a space end the text and open an output. -/
theorem scanFrom_open (seen rest : List Char) :
    scanFrom (.text false seen) ('\x7b' :: '\x7b' :: ' ' :: rest) =
      withText seen (scanFrom (outputTag [] .none) (' ' :: rest)) :=
  rfl

/-- Spaces in an output are skipped. -/
theorem scanFrom_space (tokens : List Token) (rest : List Char) :
    scanFrom (outputTag tokens .none) (' ' :: rest) = scanFrom (outputTag tokens .none) rest := by
  rw [outputTag, scanFrom.eq_def]
  rfl

/-- Two braces close an output, and text goes on behind it. -/
theorem scanFrom_close (tokens : List Token) (rest : List Char) :
    scanFrom (outputTag tokens .none) ('\x7d' :: '\x7d' :: rest) =
      .tag .output tokens.reverse :: scanFrom (.text false []) rest := by
  rw [outputTag, scanFrom.eq_def]
  rfl

/-- A character that starts a name is none that does not. -/
theorem ne_of_startsName {k : Char} (hc : startsName c = true) (hk : startsName k = false) :
    c ≠ k := by
  rintro rfl
  exact Bool.false_ne_true (hk.symm.trans hc)

/-- What a name starts with is no digit. -/
theorem isDigit_of_startsName (hc : startsName c = true) : Text.isDigit c = false := by
  have hnat {a b : Char} : a ≤ b ↔ a.toNat ≤ b.toNat := UInt32.le_iff_toNat_le
  have hletter : c = '_' ∨ 97 ≤ c.toNat ∨ 65 ≤ c.toNat := by
    simp only [startsName, Bool.or_eq_true, Bool.and_eq_true, beq_iff_eq, decide_eq_true_eq,
      hnat] at hc
    rcases hc with (hc | hc) | hc
    · exact .inl hc
    · exact .inr (.inl hc.1)
    · exact .inr (.inr hc.1)
  have hgt : 57 < c.toNat := by
    rcases hletter with rfl | h | h
    · decide
    · omega
    · omega
  have hnine : ¬ c ≤ '9' := fun h => Nat.not_le_of_lt hgt (hnat.1 h)
  rw [Text.isDigit, decide_eq_false hnine, Bool.and_false]

/-- What a name starts with starts a name. -/
theorem word_start?_of_startsName (hc : startsName c = true) :
    Word.start? c = some (.name [c]) := by
  rw [Word.start?, isDigit_of_startsName hc, hc]
  rfl

/-- What a name starts with is no space. -/
theorem isSpace_of_startsName (hc : startsName c = true) : isSpace c = false := by
  have hne {k : Char} (hk : startsName k = false) : (c == k) = false :=
    beq_false_of_ne (ne_of_startsName hc hk)
  rw [isSpace, hne (by decide), hne (by decide), hne (by decide), hne (by decide),
    hne (by decide)]
  rfl

/-- What a name starts with starts no symbol of two characters. -/
theorem ofPair?_of_startsName (hc : startsName c = true) (d : Char) :
    Symbol.ofPair? c d = none := by
  unfold Symbol.ofPair?
  split <;> first | rfl | exact absurd hc (by decide)

/-- A letter behind a space begins a word. -/
theorem scanFrom_start (hc : startsName c = true) (tokens : List Token) (d e : Char)
    (rest : List Char) :
    scanFrom (outputTag tokens .none) (c :: d :: e :: rest) =
      scanFrom (outputTag tokens (.name [c])) (d :: e :: rest) := by
  have hne {k : Char} (hk : startsName k = false) : c ≠ k := ne_of_startsName hc hk
  have hcloser : c ≠ TagKind.output.closer := hne (by decide)
  have hcontrol : ¬ isControl c = true := by
    rw [isControl, beq_false_of_ne (hne (by decide)), beq_false_of_ne (hne (by decide))]
    exact Bool.false_ne_true
  have hspace : ¬ isSpace c = true := Bool.eq_false_iff.1 (isSpace_of_startsName hc)
  rw [outputTag, scanFrom.eq_def]
  dsimp only [Word.extend?]
  rw [if_neg hspace, if_neg fun h => hcloser h.2.1, if_neg fun h => hcontrol h.2.1,
    ofPair?_of_startsName hc]
  dsimp only
  rw [if_neg (not_or.2 ⟨hne (by decide), hne (by decide)⟩), word_start?_of_startsName hc]
  rfl

/-- **A word is read letter by letter**, and ends in front of a space. -/
theorem scanFrom_continue (hcs : cs.all continuesName = true) (tokens : List Token)
    (seen rest : List Char) :
    scanFrom (outputTag tokens (.name seen)) (cs ++ ' ' :: rest) =
      scanFrom (outputTag (.name (String.ofList (seen.reverse ++ cs)) :: tokens) .none) rest := by
  induction cs generalizing seen with
  | nil =>
    rw [List.append_nil, outputTag, List.nil_append, scanFrom.eq_def]
    rfl
  | cons c cs ih =>
    rw [List.all_cons, Bool.and_eq_true] at hcs
    have hstep : scanFrom (outputTag tokens (.name seen)) (c :: cs ++ ' ' :: rest) =
        scanFrom (outputTag tokens (.name (c :: seen))) (cs ++ ' ' :: rest) := by
      rw [outputTag, List.cons_append, scanFrom.eq_def]
      dsimp only [Word.extend?]
      rw [if_pos hcs.1]
      rfl
    rw [hstep, ih hcs.2, List.reverse_cons, List.append_assoc, List.singleton_append]

/-- **A name between spaces is a tag that writes its value**, behind the text that has been read. -/
theorem scanFrom_placeholder {name : List Char} (h : isIdentifier name = true)
    (seen rest : List Char) :
    scanFrom (.text false seen)
        ('\x7b' :: '\x7b' :: ' ' :: (name ++ ' ' :: '\x7d' :: '\x7d' :: rest)) =
      withText seen
        (.tag .output [.name (String.ofList name)] :: scanFrom (.text false []) rest) := by
  rcases name with _ | ⟨c, cs⟩
  · cases h
  rw [isIdentifier, Bool.and_eq_true] at h
  obtain ⟨d, e, more, hmore⟩ :
      ∃ d e more, cs ++ ' ' :: '\x7d' :: '\x7d' :: rest = d :: e :: more := by
    rcases cs with _ | ⟨d, _ | ⟨e, more⟩⟩
    · exact ⟨_, _, _, rfl⟩
    · exact ⟨_, _, _, rfl⟩
    · exact ⟨_, _, _, rfl⟩
  rw [scanFrom_open, scanFrom_space, List.cons_append, hmore, scanFrom_start h.1, ← hmore,
    scanFrom_continue h.2, scanFrom_close]
  rfl

end Template
end Rulebook
