import DeviceShell.Literal
import DeviceShell.Proofs.Number.Decimal
import DeviceShell.Proofs.Text.Trimming

/-!
# Literals and their tokens

A token starts with a quote or it does not, and that decides between text and
integers, so the two kinds never compete. The two equivalences below read
`Literal.ofChars?` as that pair of rules. From them comes the way back: what a
literal is written as is read as that literal, as long as its text holds no
quote of its own.

`read_followsRule` puts this into the words of the two spellings, for tokens of
any length: what each of them is read as, that everything else is refused by its
own name, and what of a written literal comes back.
-/

namespace DeviceShell

namespace Text

theorem stripStart?_eq_some_iff {start : Char} {cs rest : List Char} :
    stripStart? start cs = some rest ↔ cs = start :: rest := by
  cases cs with
  | nil => simp [stripStart?]
  | cons c cs =>
      rw [stripStart?, List.cons.injEq]
      split
      · next h => simp [h]
      · next h => simp [h]

theorem stripEnd?_eq_some_iff {stop : Char} {cs inner : List Char} :
    stripEnd? stop cs = some inner ↔ cs = inner ++ [stop] := by
  rw [stripEnd?, Option.map_eq_some_iff]
  simp only [stripStart?_eq_some_iff]
  constructor
  · rintro ⟨r, hr, rfl⟩
    rw [← List.reverse_cons]
    exact List.reverse_eq_iff.mp hr
  · rintro rfl
    exact ⟨inner.reverse, by simp, List.reverse_reverse inner⟩

theorem inside?_eq_some_iff {start stop : Char} {cs inner : List Char} :
    inside? start stop cs = some inner ↔ cs = start :: (inner ++ [stop]) := by
  rw [inside?, Option.bind_eq_some_iff]
  simp only [stripStart?_eq_some_iff, stripEnd?_eq_some_iff]
  constructor
  · rintro ⟨rest, rfl, rfl⟩
    rfl
  · rintro rfl
    exact ⟨_, rfl, rfl⟩

theorem trimmed_enclosed {start stop : Char} (hstart : isBlank start = false)
    (hstop : isBlank stop = false) (inner : List Char) :
    Trimmed (start :: (inner ++ [stop])) := by
  constructor
  · intro c hc
    obtain rfl : start = c := by simpa using hc
    exact hstart
  · intro c hc
    rw [← List.cons_append, List.getLast?_concat] at hc
    obtain rfl : stop = c := by simpa using hc
    exact hstop

end Text

namespace Literal

open Text

/-- A literal that can be an argument: its text, if it is one, holds neither a
quote nor a comma. -/
def Writable : Literal → Prop
  | .text s => '"' ∉ s.toList ∧ ',' ∉ s.toList
  | .integer _ => True

theorem ofChars?_eq_text_iff {cs : List Char} {s : String} :
    ofChars? cs = some (.text s) ↔ cs = '"' :: s.toList ++ ['"'] ∧
    '"' ∉ s.toList := by
  rw [ofChars?.eq_def]
  split
  · next rest =>
      rw [Option.bind_eq_some_iff, List.cons_append, List.cons.injEq]
      constructor
      · rintro ⟨inner, hinner, hs⟩
        rw [stripEnd?_eq_some_iff] at hinner
        split at hs
        · cases hs
        · next hq =>
            rw [Option.some.injEq, Literal.text.injEq] at hs
            rw [← hs, String.toList_ofList]
            exact ⟨⟨rfl, hinner⟩, hq⟩
      · rintro ⟨⟨-, hrest⟩, hq⟩
        exact ⟨s.toList, stripEnd?_eq_some_iff.mpr hrest,
          by rw [if_neg hq, String.ofList_toList]⟩
  · next hne =>
      constructor
      · intro h
        obtain ⟨n, -, hn⟩ := Option.map_eq_some_iff.mp h
        cases hn
      · rintro ⟨heq, -⟩
        exact absurd heq (hne _)

theorem ofChars?_eq_integer_iff {cs : List Char} {n : Int64} :
    ofChars? cs = some (.integer n) ↔ Number.plainWord? cs = some n := by
  rw [ofChars?.eq_def]
  split
  · next rest =>
      constructor
      · intro h
        obtain ⟨inner, -, hs⟩ := Option.bind_eq_some_iff.mp h
        split at hs <;> cases hs
      · intro h
        have hquote := Number.of_plainWord?_eq_some h '"' List.mem_cons_self
        exact absurd hquote (by decide)
  · rw [Option.map_eq_some_iff]
    constructor
    · rintro ⟨m, hm, heq⟩
      cases heq
      exact hm
    · intro h
      exact ⟨n, h, rfl⟩

theorem toList_render_text (s : String) :
    (text s).render.toList = '"' :: s.toList ++ ['"'] := by
  simp [render]

theorem toList_render_integer (n : Int64) :
    (integer n).render.toList = Number.wordText n := by
  simp [render]

/-- A literal is read back from what it is written as. -/
theorem ofChars?_render {literal : Literal} (h : literal.Writable) :
    ofChars? literal.render.toList = some literal := by
  cases literal with
  | text s => exact ofChars?_eq_text_iff.mpr ⟨toList_render_text s, h.1⟩
  | integer n =>
      rw [ofChars?_eq_integer_iff, toList_render_integer]
      exact Number.plainWord?_wordText n

/-- A literal read from a token without commas can be an argument again. -/
theorem writable_of_ofChars? {cs : List Char} {literal : Literal}
    (hcomma : ',' ∉ cs) (h : ofChars? cs = some literal) :
    literal.Writable := by
  cases literal with
  | text s =>
      obtain ⟨rfl, hq⟩ := ofChars?_eq_text_iff.mp h
      exact ⟨hq, fun hc => hcomma (by simp [hc])⟩
  | integer n => trivial

/-! ## What a written literal looks like -/

theorem isBlank_of_isNumeral {c : Char} (h : Number.IsNumeral c) :
    isBlank c = false := by
  rcases h with h | rfl
  · rw [Char.isDigit, Bool.and_eq_true, decide_eq_true_eq,
      decide_eq_true_eq] at h
    have hlo : 0x30 ≤ c.toNat := h.1
    have hhi : c.toNat ≤ 0x39 := h.2
    simp only [isBlank, Bool.or_eq_false_iff, Bool.and_eq_false_iff,
      decide_eq_false_iff_not, beq_eq_false_iff_ne]
    omega
  · rfl

theorem render_ne_nil (literal : Literal) : literal.render.toList ≠ [] := by
  cases literal with
  | text s =>
      rw [toList_render_text]
      exact List.cons_ne_nil _ _
  | integer n =>
      rw [toList_render_integer]
      intro h
      have hread := Number.plainWord?_wordText n
      rw [h] at hread
      cases hread

theorem trimmed_render (literal : Literal) : Trimmed literal.render.toList := by
  cases literal with
  | text s =>
      rw [toList_render_text]
      exact trimmed_enclosed rfl rfl s.toList
  | integer n =>
      have hmem : ∀ c ∈ Number.wordText n, isBlank c = false := fun c hc =>
        isBlank_of_isNumeral (Number.mem_wordText n c hc)
      rw [toList_render_integer]
      exact ⟨fun c hc => hmem c (List.mem_of_head? hc),
        fun c hc => hmem c (List.mem_of_getLast? hc)⟩

theorem comma_not_mem_render {literal : Literal} (h : literal.Writable) :
    ',' ∉ literal.render.toList := by
  cases literal with
  | text s =>
      rw [toList_render_text]
      simp [h.2]
  | integer n =>
      rw [toList_render_integer]
      intro hc
      exact absurd (Number.mem_wordText n ',' hc) (by decide)

/-! ## What a token is read as -/

theorem read_eq_ok_iff {token : String} {literal : Literal} :
    read token = .ok literal ↔ ofChars? token.toList = some literal := by
  rw [read]
  cases ofChars? token.toList <;> simp

theorem read_eq_error_iff {token : String} {failure : Failure} :
    read token = .error failure ↔
      failure = .ambiguousParameter token ∧ ofChars? token.toList = none := by
  rw [read]
  cases ofChars? token.toList <;> simp [eq_comm]

/-- The token is a text between quotes that holds no quote. -/
def IsQuoted (token : String) : Prop :=
  ∃ s : String, token = "\"" ++ s ++ "\"" ∧ '"' ∉ s.toList

theorem eq_quoted_iff {token s : String} :
    token = "\"" ++ s ++ "\"" ↔ token.toList = '"' :: s.toList ++ ['"'] := by
  rw [← String.toList_inj]
  simp

theorem read_eq_text_iff {token s : String} :
    read token = .ok (.text s) ↔ token = "\"" ++ s ++ "\"" ∧
    '"' ∉ s.toList := by
  rw [read_eq_ok_iff, ofChars?_eq_text_iff, eq_quoted_iff]

theorem read_eq_integer_iff {token : String} {n : Int64} :
    read token = .ok (.integer n) ↔
    Number.DecimalText token.toList n.toInt := by
  rw [read_eq_ok_iff, ofChars?_eq_integer_iff, Number.plainWord?_eq_some_iff]

theorem read_eq_ambiguous_iff {token : String} :
    read token = .error (.ambiguousParameter token) ↔
      ¬ IsQuoted token ∧ ∀ n : Int64,
      ¬ Number.DecimalText token.toList n.toInt := by
  simp only [← read_eq_integer_iff]
  constructor
  · intro h
    refine ⟨?_, fun n hn => ?_⟩
    · rintro ⟨s, hs⟩
      rw [read_eq_text_iff.mpr hs] at h
      cases h
    · rw [hn] at h
      cases h
  · rintro ⟨htext, hinteger⟩
    cases h : read token with
    | error failure => rw [(read_eq_error_iff.mp h).1]
    | ok literal =>
        cases literal with
        | text s => exact absurd ⟨s, read_eq_text_iff.mp h⟩ htext
        | integer n => exact absurd h (hinteger n)

/-- How a token is read. A text between quotes is that text, a decimal text of a
word is that word, and every other token is refused by its own name. Among those
are the decimal texts of integers that are no words, and, quotes apart, whatever
holds a plus sign. A token that is a text is what the text is written as. -/
structure FollowsRule (token : String) : Prop where
  text : ∀ s, read token = .ok (.text s) ↔ token = "\"" ++ s ++ "\"" ∧
    '"' ∉ s.toList
  integer : ∀ n, read token = .ok (.integer n) ↔
    Number.DecimalText token.toList n.toInt
  ambiguous : read token = .error (.ambiguousParameter token) ↔
    ¬ IsQuoted token ∧ ∀ n : Int64, ¬ Number.DecimalText token.toList n.toInt
  named : ∀ failure, read token = .error failure →
    failure = .ambiguousParameter token
  outOfRange : ∀ z, Number.DecimalText token.toList z →
    z < -Number.wordBound ∨ Number.wordBound ≤ z →
    read token = .error (.ambiguousParameter token)
  plus : '+' ∈ token.toList → ¬ IsQuoted token →
    read token = .error (.ambiguousParameter token)
  written : ∀ s, read token = .ok (.text s) → (Literal.text s).render = token

theorem not_isQuoted_of_decimalText {token : String} {z : Int}
    (h : Number.DecimalText token.toList z) : ¬ IsQuoted token := by
  rintro ⟨s, hs, -⟩
  have hquote : '"' ∈ token.toList := by simp [hs]
  exact absurd (h.isNumeral '"' hquote) (by decide)

theorem followsRule (token : String) : FollowsRule token where
  text _ := read_eq_text_iff
  integer _ := read_eq_integer_iff
  ambiguous := read_eq_ambiguous_iff
  named _ h := (read_eq_error_iff.mp h).1
  outOfRange z hz hout := by
    refine read_eq_ambiguous_iff.mpr ⟨not_isQuoted_of_decimalText hz,
      fun n hn => ?_⟩
    have hread := Number.plainWord?_eq_none_of_out hz hout
    rw [Number.plainWord?_eq_some_iff.mpr hn] at hread
    cases hread
  plus hplus hquoted := by
    refine read_eq_ambiguous_iff.mpr ⟨hquoted, fun n hn => ?_⟩
    exact absurd (hn.isNumeral '+' hplus) (by decide)
  written s h := (read_eq_text_iff.mp h).1.symm

/-- Tokens are read by the rule, and of the literals exactly those come back
from what they are written as whose text, if they are one, holds no quote. -/
theorem read_followsRule :
    (∀ token, FollowsRule token) ∧
    (∀ n, read (integer n).render = .ok (.integer n)) ∧
    ∀ s, read (text s).render =
      if '"' ∈ s.toList then .error (.ambiguousParameter (text s).render)
      else .ok (.text s) := by
  refine ⟨followsRule, fun n => ?_, fun s => ?_⟩
  · exact read_eq_ok_iff.mpr (ofChars?_render trivial)
  · split
    · next hquote =>
        refine read_eq_ambiguous_iff.mpr ⟨?_, fun n hn => ?_⟩
        · rintro ⟨t, ht, hnone⟩
          rw [render, String.append_left_inj, String.append_right_inj] at ht
          exact hnone (ht ▸ hquote)
        · have hmem : '"' ∈ (text s).render.toList := by
            simp [toList_render_text]
          exact absurd (hn.isNumeral '"' hmem) (by decide)
    · next hquote => exact read_eq_text_iff.mpr ⟨rfl, hquote⟩

/-- There is one more number below zero than above it, and zeros in
front do not count. -/
example :
    read "-0009223372036854775808" = .ok (.integer Int64.minValue) ∧
      read "9223372036854775808" =
        .error (.ambiguousParameter "9223372036854775808") := by
  decide +kernel

end Literal

end DeviceShell
