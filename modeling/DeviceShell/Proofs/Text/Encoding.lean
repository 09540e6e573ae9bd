import DeviceShell.Proofs.Text.Lines
import DeviceShell.Proofs.Text.Order

/-!
# The lines of an encoded text

An input is cut into lines before it is known to be text, so the cut looks for
two bytes and not for two characters. On the bytes of a text that makes no
difference: a byte below 128 stands for itself in UTF-8 and is part of no other
encoding, so a line feed is where a line feed was, and a carriage return is in
front of it where one was before. The rules for lines go over from the text to
its bytes one by one (`CutIntoLines.encoded`), and what is cut off is the
encoding of a line, which is text again.
-/

namespace DeviceShell.Text

/-- The bytes of some characters. -/
def encoded (cs : List Char) : List UInt8 :=
  cs.flatMap String.utf8EncodeChar

theorem utf8_eq_encoded (s : String) : utf8 s = encoded s.toList :=
  utf8_eq_flatMap s

/-! ## ASCII characters among bytes -/

/-- The byte that stands for an ASCII character. -/
def asciiByte (c : Char) : UInt8 :=
  UInt8.ofNat c.toNat

theorem utf8EncodeChar_of_ascii {c : Char} (hc : c.toNat < 128) :
    String.utf8EncodeChar c = [asciiByte c] := by
  have hle : c.val.toNat ≤ 127 := Nat.le_of_lt_succ hc
  simp only [String.utf8EncodeChar, if_pos hle]
  rfl

theorem le_of_mem_utf8EncodeChar {c : Char} (hc : 128 ≤ c.toNat) :
    ∀ b ∈ String.utf8EncodeChar c, 128 ≤ b.toNat := by
  have hbyte : ∀ n, 128 ≤ n → n < 256 → 128 ≤ (UInt8.ofNat n).toNat := by
    intro n hle hlt
    rw [UInt8.toNat_ofNat_of_lt' hlt]
    exact hle
  have hgt : ¬ c.val.toNat ≤ 127 := Nat.not_le_of_lt hc
  simp only [String.utf8EncodeChar, if_neg hgt]
  generalize c.val.toNat = n
  split_ifs <;> simp only [List.forall_mem_cons]
  · exact ⟨hbyte _ (by omega) (by omega), hbyte _ (by omega) (by omega),
      List.forall_mem_nil _⟩
  · exact ⟨hbyte _ (by omega) (by omega), hbyte _ (by omega) (by omega),
      hbyte _ (by omega) (by omega), List.forall_mem_nil _⟩
  · exact ⟨hbyte _ (by omega) (by omega), hbyte _ (by omega) (by omega),
      hbyte _ (by omega) (by omega), hbyte _ (by omega) (by omega),
      List.forall_mem_nil _⟩

theorem asciiByte_mem_utf8EncodeChar_iff {a c : Char} (ha : a.toNat < 128) :
    asciiByte a ∈ String.utf8EncodeChar c ↔ c = a := by
  have hbyte : (asciiByte a).toNat = a.toNat :=
    UInt8.toNat_ofNat_of_lt' (show a.toNat < 256 by omega)
  constructor
  · intro hmem
    by_cases hc : c.toNat < 128
    · rw [utf8EncodeChar_of_ascii hc, List.mem_singleton] at hmem
      have hcode : (asciiByte c).toNat = c.toNat :=
        UInt8.toNat_ofNat_of_lt' (show c.toNat < 256 by omega)
      exact Char.toNat_inj.mp (by rw [← hcode, ← hmem, hbyte])
    · have := le_of_mem_utf8EncodeChar (by omega) _ hmem
      omega
  · rintro rfl
    rw [utf8EncodeChar_of_ascii ha]
    exact List.mem_singleton_self _

/-! ## Lines -/

section Encoded

variable {a : Char} {cs : List Char}

theorem asciiByte_mem_encoded_iff (ha : a.toNat < 128) :
    asciiByte a ∈ encoded cs ↔ a ∈ cs := by
  simp only [encoded, List.mem_flatMap, asciiByte_mem_utf8EncodeChar_iff ha,
    exists_eq_right]

theorem encoded_append_ascii (ha : a.toNat < 128) (cs rest : List Char) :
    encoded (cs ++ a :: rest) = encoded cs ++ asciiByte a :: encoded rest := by
  rw [encoded, List.flatMap_append, List.flatMap_cons,
    utf8EncodeChar_of_ascii ha, List.singleton_append, encoded, encoded]

theorem encoded_ne_nil (h : cs ≠ []) : encoded cs ≠ [] := by
  cases cs with
  | nil => exact absurd rfl h
  | cons c rest =>
      rw [encoded, List.flatMap_cons]
      exact List.append_ne_nil_of_left_ne_nil String.utf8EncodeChar_ne_nil _

theorem getLast?_of_encoded (ha : a.toNat < 128)
    (h : (encoded cs).getLast? = some (asciiByte a)) :
    cs.getLast? = some a := by
  cases cs using List.reverseRecOn with
  | nil => cases h
  | append_singleton front c =>
      have hcut : encoded (front ++ [c]) = encoded front ++ encoded [c] :=
        List.flatMap_append
      have hne : encoded [c] ≠ [] := encoded_ne_nil (List.cons_ne_nil c [])
      rw [hcut, List.getLast?_append_of_ne_nil _ hne] at h
      have hmem : a ∈ [c] :=
        (asciiByte_mem_encoded_iff ha).mp (List.mem_of_getLast? h)
      rw [List.getLast?_concat, List.mem_singleton.mp hmem]

end Encoded

/-- The lines of the bytes are the bytes of the lines. -/
theorem CutIntoLines.encoded {feed carriage : Char} {cs : List Char}
    {lines : List (List Char)} (hfeed : feed.toNat < 128)
    (hcarriage : carriage.toNat < 128)
    (h : CutIntoLines feed carriage cs lines) :
    CutIntoLines (asciiByte feed) (asciiByte carriage) (Text.encoded cs)
      (lines.map Text.encoded) := by
  induction h with
  | none => exact .none
  | unfinished hline hne =>
      exact .unfinished (mt (asciiByte_mem_encoded_iff hfeed).mp hline)
        (encoded_ne_nil hne)
  | fed hline hlast _ ih =>
      rw [encoded_append_ascii hfeed]
      exact .fed (mt (asciiByte_mem_encoded_iff hfeed).mp hline)
        (mt (getLast?_of_encoded hcarriage) hlast) ih
  | @returned line rest lines hline _ ih =>
      have hrest : Text.encoded (feed :: rest) = asciiByte feed ::
          Text.encoded rest :=
        encoded_append_ascii hfeed [] rest
      rw [encoded_append_ascii hcarriage, hrest]
      exact .returned (mt (asciiByte_mem_encoded_iff hfeed).mp hline) ih

theorem fromUTF8?_encoded (s : String) :
    String.fromUTF8? ⟨(Text.encoded s.toList).toArray⟩ = some s := by
  have hbytes : (⟨(Text.encoded s.toList).toArray⟩ : ByteArray) =
      s.toByteArray := by
    rw [← utf8_eq_encoded, utf8, Array.toArray_toList,
      String.toUTF8_eq_toByteArray]
  rw [hbytes, String.fromUTF8?, dif_pos s.isValidUTF8]
  rfl

/-- The bytes of a text have the lines of the text, all of them text. -/
theorem byteLines_toUTF8 (text : String) :
    byteLines text.toUTF8 = (lines text).map some := by
  have hcut :=
    (lines_eq_iff.mp (rfl : lines text = _)).encoded (by decide) (by decide)
  have hlines : linesBy 10 13 text.toUTF8.data.toList =
      ((lines text).map String.toList).map encoded := by
    rw [← utf8, utf8_eq_encoded]
    exact linesBy_of_cutIntoLines (by decide) hcut
  rw [byteLines, hlines, List.map_map, List.map_map]
  exact List.map_congr_left fun line _ => fromUTF8?_encoded line

end DeviceShell.Text
