import DeviceShell.Proofs.Text.Pieces
import DeviceShell.Text.Lines

/-!
# The lines of a text

`linesBy` cuts at every line feed and then puts two things right at the ends of
the pieces. `CutIntoLines` says what a line is without cutting anything: the
rules go from the front to the back, one for each way in which a line can end.
A carriage return is part of a line end in one of the rules only, so the others
leave it where it is, also at the very end of the input.

The symbols are arbitrary, since scripts are cut as characters and standard
input as bytes.
-/

namespace DeviceShell.Text

/-- The lines of a list of symbols. -/
inductive CutIntoLines {α : Type} (feed carriage : α) :
    List α → List (List α) → Prop where
  | none : CutIntoLines feed carriage [] []
  | unfinished {line} : feed ∉ line → line ≠ [] →
      CutIntoLines feed carriage line [line]
  | fed {line rest lines} : feed ∉ line → line.getLast? ≠ some carriage →
      CutIntoLines feed carriage rest lines →
      CutIntoLines feed carriage (line ++ feed :: rest) (line :: lines)
  | returned {line rest lines} : feed ∉ line →
      CutIntoLines feed carriage rest lines →
      CutIntoLines feed carriage (line ++ carriage :: feed :: rest)
        (line :: lines)

/-! ## What the cut does with one line -/

/-- A text is either without a line feed or goes on behind its first one. -/
@[elab_as_elim]
theorem lineInduction {α : Type} [DecidableEq α] (feed : α)
    {motive : List α → Prop} (unfinished : ∀ line, feed ∉ line → motive line)
    (fed : ∀ line rest, feed ∉ line → motive rest →
      motive (line ++ feed :: rest)) (as : List α) : motive as := by
  induction hn : as.length using Nat.strongRecOn generalizing as with
  | ind n ih =>
      by_cases hfeed : feed ∈ as
      · obtain ⟨line, rest, rfl, hline⟩ := List.eq_append_cons_of_mem hfeed
        rw [List.length_append, List.length_cons] at hn
        exact fed line rest hline (ih rest.length (by omega) rest rfl)
      · exact unfinished as hfeed

variable {α : Type} [DecidableEq α] {feed carriage : α}

theorem linesBy_eq_splitOn (as : List α) :
    linesBy feed carriage as =
      (as.splitOn feed).dropLast.map (dropLastIf carriage) ++
        ((as.splitOn feed).getLast?.toList.filter (!·.isEmpty)) := by
  rw [linesBy, pieces_eq_splitOnP, ← List.splitOn_eq_splitOnP]

theorem linesBy_append_feed {line : List α} (hfeed : feed ∉ line)
    (rest : List α) :
    linesBy feed carriage (line ++ feed :: rest) =
      dropLastIf carriage line :: linesBy feed carriage rest := by
  rw [linesBy_eq_splitOn, linesBy_eq_splitOn,
    List.splitOn_append_cons_self_of_not_mem hfeed]
  cases hpieces : rest.splitOn feed with
  | nil => exact absurd hpieces (List.splitOn_ne_nil feed rest)
  | cons piece more => rfl

theorem linesBy_of_not_mem {line : List α} (hfeed : feed ∉ line) :
    linesBy feed carriage line = [line].filter (!·.isEmpty) := by
  rw [linesBy_eq_splitOn, List.splitOn_eq_singleton hfeed]
  rfl

theorem dropLastIf_of_ne {line : List α} (h : line.getLast? ≠ some carriage) :
    dropLastIf carriage line = line :=
  if_neg h

theorem dropLastIf_concat (line : List α) :
    dropLastIf carriage (line ++ [carriage]) = line := by
  rw [dropLastIf, if_pos List.getLast?_concat, List.dropLast_concat]

/-! ## The two readings agree -/

theorem linesBy_of_cutIntoLines (hne : carriage ≠ feed) {as : List α}
    {lines : List (List α)} (h : CutIntoLines feed carriage as lines) :
    linesBy feed carriage as = lines := by
  induction h with
  | none => rfl
  | @unfinished line hfeed hline =>
      rw [linesBy_of_not_mem hfeed,
        List.filter_cons_of_pos (by simpa using hline), List.filter_nil]
  | fed hfeed hlast _ ih =>
      rw [linesBy_append_feed hfeed, dropLastIf_of_ne hlast, ih]
  | @returned line rest lines hfeed _ ih =>
      have hfeed' : feed ∉ line ++ [carriage] := by
        rw [List.mem_append, List.mem_singleton, not_or]
        exact ⟨hfeed, hne.symm⟩
      have hline : line ++ carriage :: feed :: rest = line ++ [carriage] ++
        feed :: rest := by simp
      rw [hline, linesBy_append_feed hfeed', dropLastIf_concat, ih]

/-- The rules leave no text out. -/
theorem exists_cutIntoLines (feed carriage : α) (as : List α) :
    ∃ lines, CutIntoLines feed carriage as lines := by
  induction as using lineInduction feed with
  | unfinished line hfeed =>
      by_cases hnil : line = []
      · subst hnil
        exact ⟨[], .none⟩
      · exact ⟨[line], .unfinished hfeed hnil⟩
  | fed line rest hfeed ih =>
      obtain ⟨lines, hrest⟩ := ih
      by_cases hlast : line.getLast? = some carriage
      · obtain ⟨start, rfl⟩ := List.getLast?_eq_some_iff.mp hlast
        rw [List.mem_append, not_or] at hfeed
        refine ⟨start :: lines, ?_⟩
        rw [List.append_assoc, List.singleton_append]
        exact .returned hfeed.1 hrest
      · exact ⟨line :: lines, .fed hfeed hlast hrest⟩

/-- The lines of a text are those that the rules give it, and no others. -/
theorem linesBy_eq_iff (hne : carriage ≠ feed) {as : List α}
    {lines : List (List α)} :
    linesBy feed carriage as = lines ↔ CutIntoLines feed carriage as lines := by
  constructor
  · rintro rfl
    obtain ⟨lines, h⟩ := exists_cutIntoLines feed carriage as
    rw [linesBy_of_cutIntoLines hne h]
    exact h
  · exact linesBy_of_cutIntoLines hne

theorem lines_eq_iff {text : String} {ls : List String} :
    lines text = ls ↔
    CutIntoLines '\n' '\r' text.toList (ls.map String.toList) := by
  have hlist : ∀ cs : List Char, (String.ofList cs).toList = cs :=
    fun _ => String.toList_ofList
  have htext : ∀ line : String, String.ofList line.toList = line :=
    fun _ => String.ofList_toList
  rw [← linesBy_eq_iff (by decide), lines]
  constructor
  · rintro rfl
    simp only [List.map_map, Function.comp_def, hlist, List.map_id']
  · intro hlines
    simp only [hlines, List.map_map, Function.comp_def, htext, List.map_id']

end DeviceShell.Text
