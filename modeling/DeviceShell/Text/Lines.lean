import DeviceShell.Text.Blank

/-!
# Lines of a text and of a byte stream

A line ends at a line feed, and a carriage return directly before that line
feed belongs to the line end too. A carriage return anywhere else is part of
the line: also at the very end of the input, where no line feed follows it.
What follows the last line feed is a line only when it is not empty.

Scripts are cut as text and standard input as bytes, since a byte stream has
to be cut before it is known to be text at all; the cut itself is the same.
-/

namespace DeviceShell.Text

/-- One item fewer at the end, if that item is `last`. -/
def dropLastIf {α : Type} [DecidableEq α] (last : α) (as : List α) : List α :=
  if as.getLast? = some last then as.dropLast else as

/-- The lines of a list of symbols, given which symbols mean line feed and
carriage return. -/
def linesBy {α : Type} [DecidableEq α] (feed carriage : α) (as : List α) :
    List (List α) :=
  let parts := pieces (· == feed) as
  parts.dropLast.map (dropLastIf carriage) ++
    (parts.getLast?.toList.filter (!·.isEmpty))

/-- The lines of a text. -/
def lines (s : String) : List String :=
  (linesBy '\n' '\r' s.toList).map String.ofList

/-- The lines of a byte stream, each as text, or `none` where its bytes are not
UTF-8. -/
def byteLines (bytes : ByteArray) : List (Option String) :=
  (linesBy 10 13 bytes.data.toList).map fun line =>
    String.fromUTF8? ⟨line.toArray⟩

end DeviceShell.Text
