import Mathlib.Data.String.Basic
import Std.Data.ExtTreeMap

/-!
# The order of names

Texts are compared character by character, and the tables of the shell are kept
in that order. Whoever looks at the bytes of a table sees the same order: UTF-8
puts the higher bits of a character in front of the lower ones, and a character
that takes more bytes has a greater first byte. So two encodings differ first
where the characters do, and what is proved of the one order holds of the other
(`lt_iff_utf8_lt`).
-/

namespace DeviceShell.Text

/-- The bytes of a text. -/
def utf8 (s : String) : List UInt8 :=
  s.toUTF8.data.toList

theorem utf8_eq_flatMap (s : String) :
    utf8 s = s.toList.flatMap String.utf8EncodeChar := by
  rw [utf8, String.toUTF8_eq_toByteArray, ← String.utf8Encode_toList,
    List.utf8Encode, List.toList_data_toByteArray]

/-! ## Characters -/

/-- The first of two bytes decides unless they are the same. -/
theorem lex_ofNat_cons {m n : Nat} {s t : List UInt8} (hn : n < 256)
    (hle : m ≤ n) (htail : m = n → List.Lex (· < ·) s t) :
    List.Lex (· < ·) (UInt8.ofNat m :: s) (UInt8.ofNat n :: t) := by
  rcases Nat.lt_or_eq_of_le hle with hlt | rfl
  · refine .rel (UInt8.lt_iff_toNat_lt.mpr ?_)
    rwa [UInt8.toNat_ofNat_of_lt' (hlt.trans hn), UInt8.toNat_ofNat_of_lt' hn]
  · exact .cons (htail rfl)

theorem lex_ofNat_cons_of_lt {m n : Nat} {s t : List UInt8} (hn : n < 256)
    (hlt : m < n) :
    List.Lex (· < ·) (UInt8.ofNat m :: s) (UInt8.ofNat n :: t) :=
  lex_ofNat_cons hn hlt.le fun heq => absurd heq hlt.ne

/-- The encoding of the smaller character is the smaller one, and not because it
is the beginning of the other. It does not take more bytes, and where it takes
fewer the first bytes differ. -/
theorem lex_utf8EncodeChar {c d : Char} (h : c < d) (s t : List UInt8) :
    List.Lex (· < ·) (String.utf8EncodeChar c ++ s)
      (String.utf8EncodeChar d ++ t) := by
  have hlt : c.val.toNat < d.val.toNat := h
  have hmax : d.val.toNat < 0x110000 := by
    rcases d.valid with hlow | ⟨-, hhigh⟩
    · exact hlow.trans (by decide)
    · exact hhigh
  simp only [String.utf8EncodeChar]
  generalize c.val.toNat = m at *
  generalize d.val.toNat = n at *
  split_ifs <;> try omega
  all_goals simp only [List.cons_append, List.nil_append]
  all_goals try exact lex_ofNat_cons_of_lt (by omega) (by omega)
  · refine lex_ofNat_cons (by omega) (by omega) fun _ => ?_
    exact lex_ofNat_cons_of_lt (by omega) (by omega)
  · refine lex_ofNat_cons (by omega) (by omega) fun _ => ?_
    refine lex_ofNat_cons (by omega) (by omega) fun _ => ?_
    exact lex_ofNat_cons_of_lt (by omega) (by omega)
  · refine lex_ofNat_cons (by omega) (by omega) fun _ => ?_
    refine lex_ofNat_cons (by omega) (by omega) fun _ => ?_
    refine lex_ofNat_cons (by omega) (by omega) fun _ => ?_
    exact lex_ofNat_cons_of_lt (by omega) (by omega)

/-! ## Texts -/

theorem lex_flatMap_utf8EncodeChar {cs ds : List Char}
    (h : List.Lex (· < ·) cs ds) :
    List.Lex (· < ·) (cs.flatMap String.utf8EncodeChar)
      (ds.flatMap String.utf8EncodeChar) := by
  induction h with
  | @nil d ds =>
      rw [List.flatMap_nil, List.flatMap_cons]
      cases hd : String.utf8EncodeChar d with
      | nil => exact absurd hd String.utf8EncodeChar_ne_nil
      | cons byte rest => exact .nil
  | rel hlt =>
      rw [List.flatMap_cons, List.flatMap_cons]
      exact lex_utf8EncodeChar hlt _ _
  | cons _ ih =>
      rw [List.flatMap_cons, List.flatMap_cons]
      exact List.Lex.append_left _ ih _

theorem utf8_lt {a b : String} (h : a < b) : utf8 a < utf8 b := by
  rw [utf8_eq_flatMap, utf8_eq_flatMap]
  exact lex_flatMap_utf8EncodeChar (String.lt_iff_toList_lt.mp h)

/-- The order of texts is the order of their bytes. -/
theorem lt_iff_utf8_lt {a b : String} : a < b ↔ utf8 a < utf8 b := by
  refine ⟨utf8_lt, fun h => ?_⟩
  rcases lt_trichotomy a b with hlt | rfl | hgt
  · exact hlt
  · exact absurd h (List.lt_irrefl _)
  · exact absurd h (List.lt_asymm (utf8_lt hgt))

/-! ## Tables -/

/-- The keys of a table are in the order of their bytes. -/
theorem pairwise_utf8_keys {α : Type} (table : Std.ExtTreeMap String α) :
    table.keys.Pairwise fun a b => utf8 a < utf8 b := by
  refine table.ordered_keys.imp fun h => ?_
  exact utf8_lt (compare_lt_iff_lt.mp h)

end DeviceShell.Text
