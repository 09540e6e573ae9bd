import DeviceShell.Proofs.Text.Pieces
import DeviceShell.Proofs.Value.Quoted

/-!
# What is typed twice and what was printed

A text becomes a value in two ways, by what it looks like and by the kind of the
value that it replaces, and the two do not accept the same spellings: `on` is a
truth value for an attribute that holds one, and text for a new attribute. They
agree all the same on a text that is typed again. What it looked like is a kind,
and the text itself is among the spellings of that kind (`ofCharsAs?_ofChars`).
From the value that makes way only the kind is taken (`coerce?_congr`), so it
does not matter which of its kind it was.

The way back from the printer is narrower, since text is printed bare.
`Retypable` says what survives it: truth values and integers, text
that is trimmed and not in quotes, and lists of items that hold no
comma and look like what they are.
-/

namespace DeviceShell.Value

open Text

/-! ## The same text again -/

theorem switchWord?_of_boolWord? {cs : List Char} {b : Bool}
    (h : boolWord? cs = some b) :
    switchWord? cs = some b := by
  rw [boolWord?] at h
  split at h
  · next htrue =>
      subst htrue
      exact h
  · split at h
    · next hfalse =>
        subst hfalse
        exact h
    · cases h

/-- A text fits the kind that it looks like, and is the same value then. -/
theorem ofCharsAs?_ofChars (cs : List Char) :
    ofCharsAs? (ofChars cs).kind cs = some (ofChars cs) := by
  rw [ofChars]
  cases hbool : boolWord? cs with
  | some b =>
      simp only [kind, ofCharsAs?, switchWord?_of_boolWord? hbool,
        Option.map_some]
  | none =>
      cases hword : Number.signedWord? cs with
      | some n => simp only [kind, ofCharsAs?, hword, Option.map_some]
      | none =>
          cases hreal : Number.real? cs with
          | some x => simp only [kind, ofCharsAs?, hreal, Option.map_some]
          | none => rfl

theorem coerce?_infer (raw : String) :
    (infer raw).coerce? raw = some (infer raw) :=
  ofCharsAs?_ofChars (trim raw.toList)

theorem coerce?_congr {v w : Value} (hkind : v.kind = w.kind) (raw : String) :
    v.coerce? raw = w.coerce? raw := by
  rw [coerce?, coerce?, hkind]

/-! ## Printed lists -/

theorem renderItems_eq_intercalate (items : List Value) :
    renderItems items = String.intercalate ", " (items.map render) := by
  induction items with
  | nil => rfl
  | cons first rest ih =>
      cases rest with
      | nil => rfl
      | cons next rest =>
          rw [List.map_cons, List.map_cons, renderItems, ih, List.map_cons]
          exact (String.intercalate_cons_cons).symm

theorem toList_render_list (items : List Value) :
    (list items).render.toList =
      '[' :: ([',', ' '].intercalate (items.map fun i => i.render.toList) ++
        [']']) := by
  rw [render, renderItems_eq_intercalate, String.toList_append,
    String.toList_append, String.toList_intercalate, List.map_map]
  rfl

/-- An item of a list that is read back: its text is one item when it stands
between commas, and it looks like what it is. -/
structure Listable (item : Value) : Prop where
  nonempty : item.render ≠ ""
  trimmed : Trimmed item.render.toList
  commaFree : ',' ∉ item.render.toList
  inferred : infer item.render = item

theorem Listable.ofChars_render {item : Value} (h : item.Listable) :
    ofChars item.render.toList = item := by
  have hinferred := h.inferred
  rwa [infer, trim_of_padded h.trimmed (padded_self _)] at hinferred

/-- The brackets that come off are those of the list, whatever its
first and last items are. -/
theorem itemsOf_render_list {items : List Value} (h : ∀ i ∈ items, i.Listable) :
    itemsOf (list items).render.toList = items := by
  have htexts : ∀ t ∈ items.map fun i => i.render.toList, t ≠ [] ∧ Trimmed t ∧
      ',' ∉ t := by
    intro t ht
    obtain ⟨i, hi, rfl⟩ := List.mem_map.mp ht
    exact ⟨mt String.toList_eq_nil_iff.mp (h i hi).nonempty, (h i hi).trimmed,
      (h i hi).commaFree⟩
  rw [itemsOf, inside?_eq_some_iff.mpr (toList_render_list items),
    Option.getD_some, listItems_intercalate_space htexts, List.map_map]
  refine (List.map_congr_left fun i hi => ?_).trans (List.map_id items)
  exact (h i hi).ofChars_render

/-! ## What was printed -/

/-- The values that are read back from what they are printed as, by an attribute
of their own kind. A pair of quotes around a text would be taken off. -/
inductive Retypable : Value → Prop where
  | bool (b : Bool) : Retypable (bool b)
  | integer (n : Int64) : Retypable (integer n)
  | text {s : String} (htrimmed : Trimmed s.toList)
      (hbare : ∀ inner, s.toList ≠ '"' :: (inner ++ ['"'])) : Retypable (text s)
  | list {items : List Value} (hitems : ∀ i ∈ items, i.Listable) :
      Retypable (list items)

theorem Retypable.trimmed_render {v : Value} (h : v.Retypable) :
    Trimmed v.render.toList := by
  cases h with
  | bool b => cases b <;> decide
  | integer n => exact (Literal.integer n).trimmed_render
  | text htrimmed _ => exact htrimmed
  | list _ =>
      rw [toList_render_list]
      exact trimmed_enclosed rfl rfl _

theorem unquote_of_bare {cs : List Char}
    (h : ∀ inner, cs ≠ '"' :: (inner ++ ['"'])) :
    unquote cs = cs := by
  rw [unquote]
  cases hinside : inside? '"' '"' cs with
  | none => rfl
  | some inner => exact absurd (inside?_eq_some_iff.mp hinside) (h inner)

theorem coerce?_render {v : Value} (h : v.Retypable) :
    v.coerce? v.render = some v := by
  rw [coerce?, trim_of_padded h.trimmed_render (padded_self _)]
  cases h with
  | bool b => cases b <;> rfl
  | integer n =>
      have hword :=
        Number.signedWord?_of_plainWord? (Number.plainWord?_wordText n)
      simp only [kind, ofCharsAs?, render, String.toList_ofList, hword,
        Option.map_some]
  | text _ hbare =>
      simp only [kind, ofCharsAs?, render, unquote_of_bare hbare,
        String.ofList_toList]
  | list hitems => simp only [kind, ofCharsAs?, itemsOf_render_list hitems]

end DeviceShell.Value
