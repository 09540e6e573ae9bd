import DeviceShell.Proofs.Command.Keywords

/-!
# Blanks around a line

Every form of a line but one is read with or without the blanks around it. A
device line takes them off piece by piece: those in front belong to the id, and
those at the end to whatever the line ends with, a name, the value of an
assignment, the last argument of a call that is never closed, or the noise
behind one that is. The rules of the grammar say for each of these what becomes
of it, so the proof is one case for each rule.

The exception are the built-in words, which are built in only as they stand.
With blanks around it such a word is the name of a device.
-/

namespace DeviceShell.Command

open Text

variable {w : List Char}

/-! ## Behind the dot -/

theorem NoFreeEquals.append_blank {s : List Char} (h : NoFreeEquals s)
    (hw : Blank w) :
    NoFreeEquals (s ++ w) := by
  rw [noFreeEquals_iff] at h ⊢
  exact shielded_append.mpr ⟨h, shielded_of_not_mem _ (hw.not_mem rfl)⟩

theorem FirstFreeEquals.append {s l r : List Char} (h : FirstFreeEquals s l r)
    (t : List Char) :
    FirstFreeEquals (s ++ t) l (r ++ t) := by
  obtain ⟨rfl, hclosed, hfree⟩ := h
  exact ⟨by simp, hclosed, hfree⟩

theorem CutAt.append {c : Char} {s before after : List Char}
    (h : CutAt c s before after) (t : List Char) :
    CutAt c (s ++ t) before (after ++ t) := by
  obtain ⟨rfl, hc⟩ := h
  exact ⟨by simp, hc⟩

/-- Blanks behind a call go to its name or to its arguments, or are noise. -/
theorem CallParts.append_blank {s name text : List Char}
    (h : CallParts s name text) (hw : Blank w) :
    ∃ name' text', CallParts (s ++ w) name' text' ∧ Padded name name' ∧
      (text' = text ∨ text' = text ++ w) := by
  cases h with
  | bare hs =>
      refine ⟨_, [], .bare ?_, padded_append hw _, .inl rfl⟩
      rw [List.mem_append, not_or]
      exact ⟨hs, hw.not_mem rfl⟩
  | unclosed hcut hrest =>
      refine ⟨name, _, .unclosed (hcut.append w) ?_, padded_self name, .inr rfl⟩
      rw [List.mem_append, not_or]
      exact ⟨hrest, hw.not_mem rfl⟩
  | @closed _ _ junk hcut hjunk =>
      have hcut' : CutAt '(' (s ++ w) name (text ++ ')' :: (junk ++ w)) := by
        simpa using hcut.append w
      refine ⟨name, text, .closed hcut' ?_, padded_self name, .inl rfl⟩
      rw [List.mem_append, not_or]
      exact ⟨hjunk, hw.not_mem rfl⟩

theorem ArgumentText.append_blank {text : List Char}
    {result : Except Failure (List Literal)} (h : ArgumentText text result)
    (hw : Blank w) : ArgumentText (text ++ w) result := by
  have htokens : argumentTokens (text ++ w) = argumentTokens text := by
    rw [argumentTokens_eq, argumentTokens_eq, listItems_append_blank hw]
  cases h with
  | literals hall => exact .literals (by rwa [htokens])
  | ambiguous heq hgood hbad => exact .ambiguous (by rwa [htokens]) hgood hbad

theorem MemberText.append_blank {s : List Char}
    {r : Except Failure (Option Operation)} (h : MemberText s r)
    (hw : Blank w) : MemberText (s ++ w) r := by
  have hpad := padded_append hw s
  have hvisible : ∀ {c}, isBlank c = false → (c ∈ s ++ w ↔ c ∈ s) :=
    hpad.mem_iff
  cases h with
  | @assignment l r hfree hl =>
      rw [← (padded_append hw r).trim_eq]
      exact .assignment (hfree.append w) hl
  | assignmentToNothing hfree hl =>
      exact .assignmentToNothing (hfree.append w) hl
  | reading hfree hdot hopen hs =>
      rw [← hpad.trim_eq]
      exact .reading (hfree.append_blank hw) (mt (hvisible rfl).mp hdot)
        (mt (hvisible rfl).mp hopen) (mt hpad.blank_iff.mp hs)
  | readingOfNothing hfree hdot hopen hs =>
      exact .readingOfNothing (hfree.append_blank hw)
        (mt (hvisible rfl).mp hdot)
        (mt (hvisible rfl).mp hopen) (hpad.blank_iff.mpr hs)
  | call hfree hmark hparts hname hargs =>
      obtain ⟨name', text', hparts', hpadded, htext⟩ := hparts.append_blank hw
      rw [← hpadded.trim_eq]
      refine .call (hfree.append_blank hw) ?_ hparts'
        (mt hpadded.blank_iff.mp hname) ?_
      · rwa [hvisible rfl, hvisible rfl]
      · rcases htext with rfl | rfl
        · exact hargs
        · exact hargs.append_blank hw
  | callOfNothing hfree hmark hparts hname =>
      obtain ⟨name', text', hparts', hpadded, -⟩ := hparts.append_blank hw
      refine .callOfNothing (hfree.append_blank hw) ?_ hparts'
        (hpadded.blank_iff.mpr hname)
      rwa [hvisible rfl, hvisible rfl]

/-! ## Lines -/

theorem CutAt.padded {core line id body : List Char}
    (h : CutAt '.' core id body) (hline : Padded core line) :
    ∃ id' back, CutAt '.' line id' (body ++ back) ∧ Padded id id' ∧
      Blank back := by
  obtain ⟨rfl, hdot⟩ := h
  obtain ⟨front, back, hfront, hback, rfl⟩ := hline
  refine ⟨front ++ id, back, ⟨by simp, ?_⟩, padded_of_append hfront id, hback⟩
  rw [List.mem_append, not_or]
  exact ⟨hfront.not_mem rfl, hdot⟩

theorem DeviceLine.padded {core line : List Char} {r : Except Failure Command}
    (h : DeviceLine core r) (hline : Padded core line) : DeviceLine line r := by
  cases h with
  | blank hdot hblank =>
      exact .blank (mt (hline.mem_iff rfl).mp hdot) (hline.blank_iff.mpr hblank)
  | description hdot hblank =>
      rw [← hline.trim_eq]
      exact .description (mt (hline.mem_iff rfl).mp hdot)
        (mt hline.blank_iff.mp hblank)
  | noDevice hcut hid =>
      obtain ⟨id', back, hcut', hpadded, -⟩ := hcut.padded hline
      exact .noDevice hcut' (hpadded.blank_iff.mpr hid)
  | operation hcut hid hbody =>
      obtain ⟨id', back, hcut', hpadded, hback⟩ := hcut.padded hline
      rw [← hpadded.trim_eq]
      exact .operation hcut' (mt hpadded.blank_iff.mp hid)
        (hbody.append_blank hback)
  | noMember hcut hid hbody =>
      obtain ⟨id', back, hcut', hpadded, hback⟩ := hcut.padded hline
      exact .noMember hcut' (mt hpadded.blank_iff.mp hid)
        (hbody.append_blank hback)
  | refused hcut hid hbody =>
      obtain ⟨id', back, hcut', hpadded, hback⟩ := hcut.padded hline
      exact .refused hcut' (mt hpadded.blank_iff.mp hid)
        (hbody.append_blank hback)

theorem wordsOf_trimmed (line : String) :
    wordsOf (trimmed line) = wordsOf line := by
  rw [wordsOf, wordsOf, trimmed, String.toList_ofList,
    words_of_padded (padded_trim line.toList)]

theorem trimmed_of_mem_builtInWords {w : String} (h : w ∈ builtInWords) :
    trimmed w = w := by
  rcases mem_builtInWords.mp h with rfl | rfl | rfl | rfl <;> rfl

/-- A device line means the same with and without the blanks around it. -/
theorem readDeviceLine_trimmed (line : String) :
    readDeviceLine (trimmed line) = readDeviceLine line := by
  have hcore := deviceLine_readDeviceLine (trimmed line)
  rw [trimmed, String.toList_ofList] at hcore
  exact (readDeviceLine_of_deviceLine
    (hcore.padded (padded_trim line.toList))).symm

/-- So does every other line, unless there is a built-in word in the blanks. -/
theorem classify_trimmed {line : String}
    (hword : trimmed line ∈ builtInWords → line ∈ builtInWords) :
    classify (trimmed line) = classify line := by
  by_cases hline : line ∈ builtInWords
  · rw [trimmed_of_mem_builtInWords hline]
  · have hbuiltin : trimmed line ∉ builtInWords := mt hword hline
    have hwords := wordsOf_trimmed line
    rw [wordsOf, wordsOf] at hwords
    rw [classify, classify, builtin?_eq_none hbuiltin,
      builtin?_eq_none hline, hwords, readDeviceLine_trimmed]

/-- A dotted line means the same with and without the blanks around it. -/
theorem classify_trimmed_of_dot {line : String} (hdot : '.' ∈ line.toList) :
    classify (trimmed line) = classify line := by
  have hcore : '.' ∈ (trimmed line).toList := by
    rw [trimmed, String.toList_ofList]
    exact (mem_trim_iff rfl).mpr hdot
  exact classify_trimmed fun hword =>
    absurd hword (not_mem_builtInWords_of_dot hcore)

end DeviceShell.Command
