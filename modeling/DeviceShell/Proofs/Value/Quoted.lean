import DeviceShell.Proofs.Literal
import DeviceShell.Value.Entry

/-!
# Text between quotes stays as it is

A value without quotes is whatever its text looks like. Between quotes it is
text, and exactly the text between them: what starts with a quote is no truth
value and no number, it ends in a quote too, so there is nothing around it to
trim, and the one pair that is taken off is the outer one. Nothing is said about
the inside, which may hold quotes, blanks and line ends, or look like a number.
-/

namespace DeviceShell.Value

open Text

/-! ## A quote begins no number -/

theorem boolWord?_of_quote (cs : List Char) : boolWord? ('"' :: cs) = none := by
  rw [boolWord?, if_neg (by simp), if_neg (by simp)]

theorem signedWord?_of_quote (cs : List Char) :
    Number.signedWord? ('"' :: cs) = none := by
  have hdigits : Number.digits? ('"' :: cs) = none := by
    rw [Number.digits?, if_neg]
    simp [Char.isDigit]
  show Number.plainWord? ('"' :: cs) = none
  rw [Number.plainWord?_of_head (by simp), hdigits, Option.bind_none]

theorem real?_of_quote (cs : List Char) : Number.real? ('"' :: cs) = none := by
  have hnamed : Number.namedReal? false ('"' :: cs) = none := by
    have hword : ∀ word : String, word.toList.head? ≠ some '"' →
        String.ofList (('"' :: cs).map Char.toLower) ≠ word := by
      rintro word hhead rfl
      rw [String.toList_ofList] at hhead
      exact hhead rfl
    simp only [Number.namedReal?, hword "inf" (by decide),
      hword "infinity" (by decide), hword "nan" (by decide), or_self, if_false]
  have hunsigned : Number.unsignedReal? false ('"' :: cs) = none := by
    have hspan : ('"' :: cs).span Char.isDigit = ([], '"' :: cs) := rfl
    have hfraction : Number.fraction ('"' :: cs) = ([], '"' :: cs) := rfl
    simp only [Number.unsignedReal?, hspan, hfraction]
    rfl
  show (Number.namedReal? false ('"' :: cs)).or
    (Number.unsignedReal? false ('"' :: cs)) = none
  rw [hnamed, hunsigned]
  rfl

/-! ## Quoted text -/

theorem unquote_quoted (v : List Char) : unquote ('"' :: (v ++ ['"'])) = v := by
  rw [unquote, inside?_eq_some_iff.mpr rfl, Option.getD_some]

theorem trim_quoted (v : String) :
    trim (Literal.text v).render.toList = '"' :: (v.toList ++ ['"']) := by
  rw [trim_of_padded (Literal.text v).trimmed_render (padded_self _),
    Literal.toList_render_text]
  rfl

/-- A new attribute takes what is between quotes as text. -/
theorem infer_quoted (v : String) :
    infer (Literal.text v).render = .text v := by
  rw [infer, trim_quoted, ofChars, boolWord?_of_quote]
  simp only [signedWord?_of_quote, real?_of_quote, unquote_quoted,
    String.ofList_toList]

theorem coerce?_quoted (old v : String) :
    (Value.text old).coerce? (Literal.text v).render = some (.text v) := by
  rw [coerce?, trim_quoted]
  simp only [kind, ofCharsAs?, unquote_quoted, String.ofList_toList]

end DeviceShell.Value
