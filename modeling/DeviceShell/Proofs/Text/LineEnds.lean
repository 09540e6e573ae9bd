import DeviceShell.Proofs.Text.Lines

/-!
# Putting the lines of a text together again

Cutting a text into lines forgets which kind of line end stood behind each
line and whether one stood behind the last. So the text comes back from its
lines up to these two things: `feedEnds` makes all line ends the same, and
one of them is dropped at the end. How many lines there are, however, can be
read off the text itself.

Everything here goes from one line feed to the next (`lineInduction`), since
that is what the cut does. The symbols are arbitrary, as they are there.
-/

namespace DeviceShell.Text

theorem getLast?_ne_of_not_mem {α : Type} {feed : α} {line : List α}
    (hfeed : feed ∉ line) :
    line.getLast? ≠ some feed :=
  fun hlast => hfeed (List.mem_of_getLast? hlast)

variable {α : Type} [DecidableEq α]

/-- The symbols without the carriage returns that stand directly
before a line feed. -/
def feedEnds (feed carriage : α) : List α → List α
  | [] => []
  | a :: rest =>
    if a = carriage ∧ rest.head? = some feed then feedEnds feed carriage rest
    else a :: feedEnds feed carriage rest

/-- The number of lines: a line feed ends one, and what is behind the last line
feed is one more if there is anything. -/
def lineCount (feed : α) (as : List α) : Nat :=
  as.count feed + if as = [] ∨ as.getLast? = some feed then 0 else 1

variable {feed carriage : α}

/-! ## How many lines there are -/

theorem lineCount_of_not_mem {line : List α} (hfeed : feed ∉ line) :
    lineCount feed line = if line = [] then 0 else 1 := by
  rw [lineCount, List.count_eq_zero_of_not_mem hfeed, Nat.zero_add]
  simp only [getLast?_ne_of_not_mem hfeed, or_false]

theorem lineCount_append_feed {line : List α} (hfeed : feed ∉ line)
    (rest : List α) :
    lineCount feed (line ++ feed :: rest) = lineCount feed rest + 1 := by
  have hcount : (line ++ feed :: rest).count feed = rest.count feed + 1 := by
    rw [List.count_append, List.count_eq_zero_of_not_mem hfeed,
      List.count_cons_self, Nat.zero_add]
  have hlast : (line ++ feed :: rest = [] ∨
    (line ++ feed :: rest).getLast? = some feed) ↔
      (rest = [] ∨ rest.getLast? = some feed) := by
    rw [List.getLast?_append_cons, List.getLast?_cons]
    cases hrest : rest.getLast? with
    | none => simp [List.getLast?_eq_none_iff.mp hrest]
    | some last =>
        have hne : rest ≠ [] := by
          rintro rfl
          cases hrest
        simp [hne]
  rw [lineCount, lineCount, hcount]
  simp only [hlast]
  omega

theorem length_linesBy (as : List α) :
    (linesBy feed carriage as).length = lineCount feed as := by
  induction as using lineInduction feed with
  | unfinished line hfeed =>
      rw [linesBy_of_not_mem hfeed, lineCount_of_not_mem hfeed]
      cases line <;> rfl
  | fed line rest hfeed ih =>
      rw [linesBy_append_feed hfeed, lineCount_append_feed hfeed,
        List.length_cons, ih]

/-! ## What a line does not hold -/

theorem dropLastIf_sublist (last : α) (as : List α) :
    (dropLastIf last as).Sublist as := by
  rw [dropLastIf]
  split
  · exact List.dropLast_sublist as
  · exact List.Sublist.refl as

theorem not_mem_of_mem_linesBy (as : List α) :
    ∀ line ∈ linesBy feed carriage as, feed ∉ line := by
  induction as using lineInduction feed with
  | unfinished line hfeed =>
      rw [linesBy_of_not_mem hfeed]
      intro line' hline'
      obtain rfl := List.mem_singleton.mp (List.mem_of_mem_filter hline')
      exact hfeed
  | fed line rest hfeed ih =>
      rw [linesBy_append_feed hfeed]
      refine List.forall_mem_cons.mpr ⟨fun hmem => hfeed ?_, ih⟩
      exact (dropLastIf_sublist carriage line).subset hmem

/-! ## Line feeds between the lines -/

theorem dropLastIf_append (last : α) (front : List α) {back : List α}
    (hback : back ≠ []) :
    dropLastIf last (front ++ back) = front ++ dropLastIf last back := by
  rw [dropLastIf, dropLastIf, List.getLast?_append_of_ne_nil front hback]
  split
  · exact List.dropLast_append_of_ne_nil hback
  · rfl

theorem feedEnds_of_not_mem {line : List α} (hfeed : feed ∉ line) :
    feedEnds feed carriage line = line := by
  induction line with
  | nil => rfl
  | cons a line ih =>
      rw [List.mem_cons, not_or] at hfeed
      have hhead : line.head? ≠ some feed :=
        fun hhead => hfeed.2 (List.mem_of_head? hhead)
      rw [feedEnds, if_neg fun h => hhead h.2, ih hfeed.2]

/-- A line feed takes the carriage return before it along. -/
theorem feedEnds_append_feed (hne : carriage ≠ feed) {line : List α}
    (hfeed : feed ∉ line) (rest : List α) :
    feedEnds feed carriage (line ++ feed :: rest) =
      dropLastIf carriage line ++ feed :: feedEnds feed carriage rest := by
  induction line with
  | nil =>
      rw [List.nil_append, feedEnds, if_neg fun h => hne h.1.symm]
      rfl
  | cons a line ih =>
      rw [List.mem_cons, not_or] at hfeed
      rw [List.cons_append, feedEnds, ih hfeed.2]
      cases line with
      | nil =>
          by_cases ha : a = carriage
          · subst ha
            have hlone : dropLastIf a [a] = [] := dropLastIf_concat []
            rw [if_pos ⟨rfl, rfl⟩, hlone]
            rfl
          · have hlast : [a].getLast? ≠ some carriage :=
              fun hlast => ha (Option.some.inj hlast)
            rw [if_neg fun h => ha h.1, dropLastIf_of_ne hlast]
            rfl
      | cons b line =>
          have hhead : (b :: line ++ feed :: rest).head? ≠ some feed := by
            intro hhead
            exact hfeed.2 (Option.some.inj hhead ▸ List.mem_cons_self)
          have hline : dropLastIf carriage (a :: b :: line) =
              a :: dropLastIf carriage (b :: line) :=
            dropLastIf_append carriage [a] (List.cons_ne_nil b line)
          rw [if_neg fun h => hhead h.2, hline]
          rfl

theorem feedEnds_ne_nil (hne : carriage ≠ feed) {as : List α} (has : as ≠ []) :
    feedEnds feed carriage as ≠ [] := by
  induction as using lineInduction feed with
  | unfinished line hfeed => rwa [feedEnds_of_not_mem hfeed]
  | fed line rest hfeed =>
      rw [feedEnds_append_feed hne hfeed]
      exact List.append_ne_nil_of_right_ne_nil _ (List.cons_ne_nil _ _)

theorem linesBy_ne_nil {as : List α} (has : as ≠ []) :
    linesBy feed carriage as ≠ [] := by
  induction as using lineInduction feed with
  | unfinished line hfeed =>
      rw [linesBy_of_not_mem hfeed,
        List.filter_cons_of_pos (by simpa using has)]
      exact List.cons_ne_nil _ _
  | fed line rest hfeed =>
      rw [linesBy_append_feed hfeed]
      exact List.cons_ne_nil _ _

/-- The lines with line feeds between them are the text, but for the carriage
returns in front of its line feeds and the line feed at its end. -/
theorem intercalate_linesBy (hne : carriage ≠ feed) (as : List α) :
    [feed].intercalate (linesBy feed carriage as) =
      dropLastIf feed (feedEnds feed carriage as) := by
  induction as using lineInduction feed with
  | unfinished line hfeed =>
      rw [linesBy_of_not_mem hfeed, feedEnds_of_not_mem hfeed,
        dropLastIf_of_ne (getLast?_ne_of_not_mem hfeed)]
      cases line with
      | nil => rfl
      | cons a line =>
          rw [List.filter_cons_of_pos rfl]
          exact List.intercalate_singleton
  | fed line rest hfeed ih =>
      rw [linesBy_append_feed hfeed, feedEnds_append_feed hne hfeed]
      by_cases hrest : rest = []
      · subst hrest
        rw [feedEnds, dropLastIf_concat]
        exact List.intercalate_singleton
      · have hrestLines : linesBy feed carriage rest ≠ [] :=
          linesBy_ne_nil hrest
        obtain ⟨next, more, hlines⟩ := List.exists_cons_of_ne_nil hrestLines
        rw [hlines] at ih ⊢
        rw [List.intercalate_cons_cons, ih,
          List.append_cons _ feed (feedEnds feed carriage rest),
          dropLastIf_append feed _ (feedEnds_ne_nil hne hrest)]

example : feedEnds '\n' '\r' "on\r\r\n\n\roff\r".toList =
    "on\r\n\n\roff\r".toList := by decide

/-! ## The lines of a text as texts -/

theorem length_lines (text : String) :
    (lines text).length = lineCount '\n' text.toList := by
  rw [lines, List.length_map, length_linesBy]

theorem not_mem_of_mem_lines (text : String) :
    ∀ line ∈ lines text, '\n' ∉ line.toList := by
  rw [lines, List.forall_mem_map]
  intro line hline
  rw [String.toList_ofList]
  exact not_mem_of_mem_linesBy _ line hline

theorem intercalate_lines (text : String) :
    String.intercalate "\n" (lines text) =
      String.ofList (dropLastIf '\n' (feedEnds '\n' '\r' text.toList)) := by
  have hlist : String.toList ∘ String.ofList = id :=
    funext fun _ => String.toList_ofList
  have hne : '\r' ≠ '\n' := by decide
  rw [← String.toList_inj, String.toList_intercalate, lines, List.map_map,
    hlist, List.map_id, String.toList_ofList, String.toList_ofList]
  exact intercalate_linesBy hne text.toList

end DeviceShell.Text
