import DeviceShell.Number.Whole
import DeviceShell.Text.Blank
import Mathlib.Data.List.Forall2

/-!
# Tables for the operator

The registry and the task monitor are shown in the same form. There is a heading
with the number of entries and then a line for each entry, or there is one line
that says that there are none. In a line, the texts of a column are brought to
one width, and a text that is wider is not cut.
-/

namespace DeviceShell.Text

/-- The text as it stands in a column of the given width: with spaces behind it,
as far as it is narrower. -/
def FillsColumn (width : Nat) (text cell : String) : Prop :=
  ∃ gap, cell = text ++ gap ∧ (∀ c ∈ gap.toList, c = ' ') ∧
    cell.length = max width text.length

theorem fillsColumn_padRight (width : Nat) (text : String) :
    FillsColumn width text (padRight width text) := by
  refine ⟨String.ofList (List.replicate (width - text.length) ' '), ?text,
    ?spaces, ?width⟩
  case text =>
    rw [← String.toList_inj, padRight, String.toList_ofList,
      String.toList_append, String.toList_ofList, String.length_toList]
  case spaces =>
    intro c hc
    rw [String.toList_ofList] at hc
    exact List.eq_of_mem_replicate hc
  case width =>
    rw [padRight, String.length_ofList, List.length_append,
      List.length_replicate, String.length_toList]
    omega

/-- The lines that show a list of entries: the one for none, or the heading
with their number and then a line for each. What the line of an entry is like
is for `shows` to say. -/
inductive Tabulates {α : Type} (absent heading : String)
    (shows : α → String → Prop) : List α → List String → Prop where
  | none : Tabulates absent heading shows [] [absent]
  | entries {as lines} (hne : as ≠ []) (hlines : List.Forall₂ shows as lines) :
      Tabulates absent heading shows as
        ((heading ++ Number.countText as.length ++ "):") :: lines)

theorem Tabulates.imp {α : Type} {absent heading : String}
    {shows shows' : α → String → Prop} {as : List α} {lines : List String}
    (h : Tabulates absent heading shows as lines)
    (himp : ∀ a ∈ as, ∀ line, shows a line → shows' a line) :
    Tabulates absent heading shows' as lines := by
  cases h with
  | none => exact .none
  | entries hne hlines =>
      refine .entries hne ?_
      rw [List.forall₂_iff_zip] at hlines ⊢
      refine ⟨hlines.1, fun hmem => ?_⟩
      exact himp _ (List.of_mem_zip hmem).1 _ (hlines.2 hmem)

/-- A table that is made line by line shows its entries if every line
shows its own. -/
theorem tabulates_of_forall₂ {α : Type} {absent heading : String}
    {shows : α → String → Prop} {as : List α} {lines : List String}
    (hlines : List.Forall₂ shows as lines) :
    Tabulates absent heading shows as (if as.length = 0 then [absent]
      else (heading ++ Number.countText as.length ++ "):") :: lines) := by
  split
  · next hempty =>
      obtain rfl := List.eq_nil_of_length_eq_zero hempty
      exact .none
  · next hne =>
      exact .entries (fun hnil => hne (by rw [hnil, List.length_nil])) hlines

end DeviceShell.Text
