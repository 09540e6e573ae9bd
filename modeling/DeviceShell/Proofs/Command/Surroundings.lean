import DeviceShell.Proofs.Command.Canonical

/-!
# What stands around a line

The reader of device lines takes blanks off piece by piece, and those at the
ends of a line are all lost on the way (`readDeviceLine_trimmed`). Two questions
are left, and both are about the readers that come first.

Words are counted in the whole line, and the first of them could be a
keyword. In front of a dot it is not, as the dot and what follows it are part
of that word. And the built-in words are compared as they stand, so one of
them with blanks around it is passed over, and is then what any other word
would be: the name of a device.
-/

namespace DeviceShell.Command

open Text

section Blanks

variable {front back : String}

theorem trimmed_surrounded (hfront : Blank front.toList)
    (hback : Blank back.toList) (line : String) :
    trimmed (front ++ line ++ back) = trimmed line := by
  have hpadded : Padded line.toList (front ++ line ++ back).toList :=
    ⟨front.toList, back.toList, hfront, hback, by simp⟩
  rw [trimmed, trimmed, hpadded.trim_eq]

/-- A word and a dot make a device line, whatever the word and
whatever is around it. -/
theorem classify_surrounded {id : String} (hid : IsWord id) (rest : String)
    (hfront : Blank front.toList) (hback : Blank back.toList) :
    classify (front ++ (id ++ "." ++ rest) ++ back) =
      readDeviceLine (id ++ "." ++ rest) := by
  have hinner : '.' ∈ (id ++ "." ++ rest).toList := by simp
  have houter : '.' ∈ (front ++ (id ++ "." ++ rest) ++ back).toList := by simp
  rw [← classify_trimmed_of_dot houter, trimmed_surrounded hfront hback,
    classify_trimmed_of_dot hinner, classify_dotted hid]

end Blanks

/-! ## Built-in words -/

theorem isDeviceId_of_mem_builtInWords {w : String} (h : w ∈ builtInWords) :
    IsDeviceId w := by
  rcases mem_builtInWords.mp h with rfl | rfl | rfl | rfl <;> decide

/-- No word that is built in is a keyword. -/
theorem ofWords?_of_mem_builtInWords {w : String} (h : w ∈ builtInWords) :
    ofWords? [w] = none := by
  rcases mem_builtInWords.mp h with rfl | rfl | rfl | rfl <;> rfl

theorem classify_of_trimmed_mem {line : String}
    (hword : trimmed line ∈ builtInWords) (hline : line ∉ builtInWords) :
    classify line = .ok (.device (trimmed line) .describe) := by
  have hid := isDeviceId_of_mem_builtInWords hword
  have hwords : wordsOf line = [trimmed line] := by
    rw [← wordsOf_trimmed, wordsOf_of_isWord hid.1]
  have hread : readDeviceLine line =
      .ok (.device (trimmed line) .describe) := by
    rw [← readDeviceLine_trimmed]
    exact readDeviceLine_of_spelling hid.isIdentifier trivial
      (.describe (padded_self _))
  rw [wordsOf] at hwords
  rw [classify, builtin?_eq_none hline, hwords,
    ofWords?_of_mem_builtInWords hword]
  exact hread

/-- Blanks around a line do not matter to the reader of device lines, not
even to its failures. They do not matter to a line that starts with the
name of a device and a dot either, and no keyword is seen in such a line.
Of all other lines the same holds but for a built-in word in blanks, which
is the name of a device. -/
theorem classify_surroundings :
    (∀ line, readDeviceLine line = readDeviceLine (trimmed line)) ∧
    (∀ id rest front back : String, IsDeviceId id → Blank front.toList →
      Blank back.toList →
      classify (front ++ (id ++ "." ++ rest) ++ back) =
        readDeviceLine (id ++ "." ++ rest)) ∧
    ∀ line,
      ((trimmed line ∈ builtInWords → line ∈ builtInWords) →
        classify line = classify (trimmed line)) ∧
      (trimmed line ∈ builtInWords → line ∉ builtInWords →
        classify line = .ok (.device (trimmed line) .describe)) := by
  refine ⟨?deviceLines, ?dottedLines, ?allLines⟩
  case deviceLines =>
    intro line
    exact (readDeviceLine_trimmed line).symm
  case dottedLines =>
    intro id rest front back hid hfront hback
    exact classify_surrounded hid.1 rest hfront hback
  case allLines =>
    intro line
    exact ⟨fun hword => (classify_trimmed hword).symm, classify_of_trimmed_mem⟩

/-- A device that is called like a keyword, with blanks of several kinds
around a call that is never closed, and a built-in word that is not at
the start of its line. -/
theorem classify_surroundings_load :
    classify "\u00a0 load.say(1, x \t\n" = readDeviceLine "load.say(1, x" ∧
    readDeviceLine "load.say(1, x" = .error (.ambiguousParameter "x") ∧
    classify " exit" = .ok (.device "exit" .describe) := by
  have hload :=
    classify_surroundings.2.1 "load" "say(1, x" "\u00a0 " " \t\n" (by decide)
    (by decide) (by decide)
  have hexit := (classify_surroundings.2.2 " exit").2 (by decide) (by decide)
  exact ⟨hload, by decide +kernel, hexit⟩

end DeviceShell.Command
