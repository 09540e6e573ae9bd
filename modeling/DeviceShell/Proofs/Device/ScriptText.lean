import DeviceShell.Proofs.Device.Refusal
import DeviceShell.Proofs.Text.LineEnds

/-!
# The text of a script

A script keeps the lines of its text and nothing else of it, and all that it
says about the text it says from these lines: their number, one of them, or all
of them with line feeds in between. `Keeps` compares the answers with the text
itself. That works because cutting a text into lines loses the kind of its line
ends and the last line feed only (`intercalate_linesBy`), and because the number
of lines can be counted without cutting (`length_linesBy`).

The lines are numbered by words, from one. A word that is no such number is
refused, whatever it is, so zero, a negative one and the least and the
greatest are no exceptions.
-/

namespace DeviceShell

namespace ScriptTask

theorem call_line {t : ScriptTask} {n : Int64} {k : Nat}
    (hk : k < t.source.length) (hn : n.toInt = (k + 1 : Nat)) :
    t.call "line" [.integer n] = .ok (.text t.source[k]) := by
  have hline : t.line? n = some t.source[k] := by
    rw [line?, if_pos (by omega), hn, Int.toNat_natCast, Nat.add_sub_cancel,
      List.getElem?_eq_getElem hk]
  rw [call, if_neg (by simp), if_pos rfl]
  simp only [hline]

/-- What a script with the given lines answers, told from its text. -/
structure Keeps (t : ScriptTask) (text : String)
    (script : List String) : Prop where
  source : t.call "source" [] = .ok (.text (String.ofList
    (Text.dropLastIf '\n' (Text.feedEnds '\n' '\r' text.toList))))
  lines : t.read "lines" =
    .ok (.integer (Int64.ofNat (Text.lineCount '\n' text.toList)))
  count : script.length = Text.lineCount '\n' text.toList
  line : ∀ (n : Int64) k (hk : k < script.length), n.toInt = (k + 1 : Nat) →
    t.call "line" [.integer n] = .ok (.text script[k])
  joined : t.call "source" [] = .ok (.text (String.intercalate "\n" script))
  unbroken : ∀ line ∈ script, '\n' ∉ line.toList
  refused : ∀ n : Int64, ¬ (1 ≤ n.toInt ∧ n.toInt ≤ script.length) →
    t.call "line" [.integer n] =
      .error (.invocationFailed (.lineOutOfRange n script.length))

/-- Whatever has been asked of a script, it answers from its text: the
lines are those of the text with one kind of line end, and every other
number is refused. -/
theorem keeps_ofText (id path : String) (args : List String) (text : String)
    (state : TaskState) :
    ∃ script, { ofText id path args text with state }.Keeps text script := by
  have hcount := Text.length_lines text
  have htext := Text.intercalate_lines text
  refine ⟨Text.lines text, ?source, ?lines, hcount, ?line, rfl,
    ?unbroken, ?refused⟩
  case source =>
    rw [← htext]
    rfl
  case lines =>
    rw [← hcount]
    rfl
  case line => exact fun n k hk hn => call_line hk hn
  case unbroken => exact Text.not_mem_of_mem_lines text
  case refused => exact fun n hrange => call_line_of_range hrange

end ScriptTask

end DeviceShell
