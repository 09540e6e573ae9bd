import DeviceShell.Proofs.Command.DeviceLines
import DeviceShell.Proofs.Command.OuterBlanks

/-!
# Lines as they are written

An operation on a device is written in one way and read in three attempts. With
a dot in the line only the last attempt applies, so whatever is read from a
member, assigned to it or called is read back as it was written, also on a
device that is called like a keyword.

A description is asked for by the name of the device alone, and such a line can
be a word of the shell's own. Five words are: the four that are built in, and
`load`, which is a load without a name. The words for orders are not among them,
since an order takes two words.
-/

namespace DeviceShell.Command

open Text

/-- What can stand for a device on any line: a word without dots. -/
def IsDeviceId (id : String) : Prop :=
  IsWord id ∧ '.' ∉ id.toList

instance (id : String) : Decidable (IsDeviceId id) :=
  inferInstanceAs (Decidable (_ ∧ _))

/-- The words that are commands by themselves. -/
def reservedWords : List String :=
  ["exit", "devices", "tasks", "help", "load"]

/-! ## Words -/

theorem IsWord.trimmed_toList {w : String} (hw : IsWord w) : Trimmed w.toList :=
  ⟨fun c hc => hw.2 c (List.mem_of_head? hc),
    fun c hc => hw.2 c (List.mem_of_getLast? hc)⟩

theorem IsWord.trimmed_eq {w : String} (hw : IsWord w) : trimmed w = w := by
  rw [trimmed, trim_of_padded hw.trimmed_toList (padded_self w.toList),
    String.ofList_toList]

theorem IsWord.isName {w : String} (hw : IsWord w) : IsName w :=
  ⟨hw.1, hw.trimmed_toList⟩

theorem IsDeviceId.isIdentifier {id : String} (hid : IsDeviceId id) :
    IsIdentifier id :=
  ⟨hid.1.isName, hid.2⟩

theorem wordsOf_of_isWord {w : String} (hw : IsWord w) : wordsOf w = [w] := by
  have hpieces := pieces_append hw.2 []
  rw [List.append_nil] at hpieces
  have hne : w.toList.isEmpty = false := List.isEmpty_eq_false_iff.mpr hw.1
  rw [wordsOf, words, hpieces]
  simp [pieces, hne]

theorem wordsOf_isWord_append {w : String} (hw : IsWord w) (rest : String) :
    wordsOf (w ++ " " ++ rest) = w :: wordsOf rest := by
  have hpieces : pieces isBlank (w ++ " " ++ rest).toList =
      w.toList :: pieces isBlank rest.toList := by
    have hline : (w ++ " " ++ rest).toList = w.toList ++ ' ' ::
      rest.toList := by simp
    rw [hline, pieces_append hw.2, pieces, if_pos (by decide),
      List.modifyHead_cons, List.append_nil]
  have hne : w.toList.isEmpty = false := List.isEmpty_eq_false_iff.mpr hw.1
  rw [wordsOf, wordsOf, words, hpieces, List.filter_cons_of_pos (by simp [hne]),
    List.map_cons, String.ofList_toList, words]

theorem isWord_word (order : Lifecycle) : IsWord order.word := by
  cases order <;> decide

/-! ## Lines -/

/-- Whatever follows the dot, a line that starts with the name of a device and a
dot is about that device. -/
theorem identifier_dotted {id : String} (hid : IsDeviceId id) (rest : String) :
    identifier (id ++ "." ++ rest) = id := by
  have hcut : CutAt '.' (id ++ "." ++ rest).toList id.toList rest.toList :=
    ⟨by simp, hid.2⟩
  rw [identifier_of_cutAt hcut]
  exact hid.1.trimmed_eq

/-- The word for an order and the name of a device are that order to that
device, whatever the device is called. -/
theorem classify_order {id : String} (hid : IsWord id) (order : Lifecycle) :
    classify (order.word ++ " " ++ id) = .ok (.lifecycle order id) := by
  rw [classify_eq_lifecycle_iff, wordsOf_isWord_append (isWord_word order),
    wordsOf_of_isWord hid]

/-- The name of a device asks for its description, unless it is a word of the
shell's own. -/
theorem classify_of_isDeviceId {id : String} (hid : IsDeviceId id)
    (hword : id ∉ reservedWords) :
    classify id = .ok (.device id .describe) := by
  simp only [reservedWords, List.mem_cons, List.not_mem_nil, or_false,
    not_or] at hword
  obtain ⟨hexit, hdevices, htasks, hhelp, hload⟩ := hword
  have hbuiltin : builtin? id = none := by
    refine builtin?_eq_none (mt mem_builtInWords.mp ?_)
    simp only [hexit, hdevices, htasks, hhelp, or_self, not_false_iff]
  have hkeyword : ofWords? (wordsOf id) = none := by
    rw [wordsOf_of_isWord hid.1, ofWords?.eq_def]
    simp only [if_neg hload]
    cases Lifecycle.ofWord? id <;> rfl
  rw [wordsOf] at hkeyword
  simp only [classify, hbuiltin, hkeyword]
  exact readDeviceLine_of_spelling hid.isIdentifier trivial
    (.describe (padded_self id.toList))

/-- What an operation on a member is written as is read as that operation. -/
theorem classify_render {id : String} {op : Operation} (hid : IsDeviceId id)
    (hop : op.Writable) (hmember : op ≠ .describe) :
    classify (op.render id) = .ok (.device id op) := by
  have hread : readDeviceLine (op.render id) = .ok (.device id op) :=
    readDeviceLine_of_spelling hid.isIdentifier hop (spelling_render id op)
  cases op with
  | describe => exact absurd rfl hmember
  | get name =>
      rw [← hread]
      exact classify_dotted hid.1 name
  | set name raw =>
      have hline : (Operation.set name raw).render id = id ++ "." ++
          (name ++ " = " ++ raw) := by
        simp only [Operation.render, String.append_assoc]
      rw [← hread, hline]
      exact classify_dotted hid.1 _
  | call method args =>
      have hline : (Operation.call method args).render id =
          id ++ "." ++
            (method ++ "(" ++ Literal.renderArguments args ++ ")") := by
        simp only [Operation.render, String.append_assoc]
      rw [← hread, hline]
      exact classify_dotted hid.1 _

/-- There are no blanks around it that could matter. -/
theorem classify_trimmed_render {id : String} {op : Operation}
    (hid : IsDeviceId id) (hop : op.Writable) (hmember : op ≠ .describe) :
    classify (trimmed (op.render id)) = .ok (.device id op) := by
  have hread := classify_render hid hop hmember
  exact (classify_trimmed_of_dot (dot_mem_of_classify hread hmember)).trans
    hread

end DeviceShell.Command
