import DeviceShell.Proofs.Text.Trimming

/-!
# Pieces, words and list items

The splitter is the standard one, so what core proves about `List.splitOnP`
holds of `pieces`; the rest of this file carries it over to the two ways in
which pieces are used. Words are the pieces between blanks and list items the
trimmed pieces between commas, and in both the empty ones are dropped.

What is lost in the list items of a text is commas, blanks and nothing else.
`filter_listItems` says so for any property of characters that commas and
blanks do not have, and that is enough to carry a count of parentheses from a
text to its items.
-/

namespace DeviceShell.Text

theorem pieces_eq_splitOnP {α : Type} (p : α → Bool) (as : List α) :
    pieces p as = as.splitOnP p := by
  induction as with
  | nil => rfl
  | cons a rest ih => rw [pieces, List.splitOnP_cons_eq_if_modifyHead, ih]

theorem listItems_eq (cs : List Char) :
    listItems cs = ((cs.splitOn ',').map trim).filter (!·.isEmpty) := by
  rw [listItems, pieces_eq_splitOnP, List.splitOn_eq_splitOnP]

/-- No piece holds a separator. -/
theorem not_sep_of_mem_pieces {α : Type} {p : α → Bool} {as q : List α}
    (hq : q ∈ pieces p as) : ∀ a ∈ q, p a = false := by
  induction as generalizing q with
  | nil =>
      rw [pieces, List.mem_singleton] at hq
      subst hq
      exact List.forall_mem_nil _
  | cons a rest ih =>
      rw [pieces] at hq
      split at hq
      · rcases List.mem_cons.mp hq with rfl | hrest
        · exact List.forall_mem_nil _
        · exact ih hrest
      · next ha =>
          cases hp : pieces p rest with
          | nil => exact absurd hp (pieces_ne_nil p rest)
          | cons r rs =>
              rw [hp, List.modifyHead_cons] at hq
              rcases List.mem_cons.mp hq with rfl | hrest
              · exact List.forall_mem_cons.mpr
                  ⟨by simpa using ha, ih (hp ▸ List.mem_cons_self)⟩
              · exact ih (hp ▸ List.mem_cons_of_mem r hrest)

theorem pieces_append {α : Type} {p : α → Bool} {front : List α}
    (hfront : ∀ a ∈ front, p a = false) (rest : List α) :
    pieces p (front ++ rest) = (pieces p rest).modifyHead (front ++ ·) := by
  induction front with
  | nil =>
      rw [List.nil_append]
      cases pieces p rest <;> rfl
  | cons a front ih =>
      obtain ⟨ha, hrest⟩ := List.forall_mem_cons.mp hfront
      rw [List.cons_append, pieces, if_neg (by rw [ha]; decide), ih hrest,
        List.modifyHead_modifyHead]
      rfl

/-- What stands behind a text and holds no separator belongs to its last
piece. -/
theorem exists_pieces_append {α : Type} {p : α → Bool} {back : List α}
    (hback : ∀ a ∈ back, p a = false) (as : List α) :
    ∃ front last, pieces p as = front ++ [last] ∧
      pieces p (as ++ back) = front ++ [last ++ back] := by
  induction as with
  | nil =>
      refine ⟨[], [], rfl, ?_⟩
      have hpieces := pieces_append hback []
      rw [List.append_nil] at hpieces
      rw [List.nil_append, hpieces, pieces]
      simp
  | cons a rest ih =>
      obtain ⟨front, last, hrest, hmore⟩ := ih
      rw [List.cons_append, pieces, pieces, hrest, hmore]
      split
      · exact ⟨[] :: front, last, rfl, rfl⟩
      · cases front with
        | nil => exact ⟨[], a :: last, rfl, rfl⟩
        | cons first front => exact ⟨(a :: first) :: front, last, rfl, rfl⟩

theorem pieces_append_separators {α : Type} {p : α → Bool} {back : List α}
    (hback : ∀ a ∈ back, p a = true) (as : List α) :
    pieces p (as ++ back) = pieces p as ++ List.replicate back.length [] := by
  induction as with
  | nil =>
      induction back with
      | nil => rfl
      | cons b back ih =>
          obtain ⟨hb, hrest⟩ := List.forall_mem_cons.mp hback
          have hpieces := ih hrest
          rw [List.nil_append] at hpieces ⊢
          rw [pieces.eq_def]
          simp only [if_pos hb, hpieces]
          rfl
  | cons a rest ih =>
      rw [List.cons_append, pieces, pieces, ih]
      split
      · rfl
      · cases hrest : pieces p rest with
        | nil => exact absurd hrest (pieces_ne_nil p rest)
        | cons => rfl

/-! ## Words -/

/-- A word holds no blank and at least one character. -/
theorem of_mem_words {w cs : List Char} (hw : w ∈ words cs) :
    w ≠ [] ∧ ∀ c ∈ w, isBlank c = false := by
  obtain ⟨hmem, hne⟩ := List.mem_filter.mp hw
  exact ⟨by simpa using hne, not_sep_of_mem_pieces hmem⟩

/-- A text without blanks at the start of a line is the start of a word. -/
theorem words_append {front : List Char} (hne : front ≠ [])
    (hfront : ∀ c ∈ front, isBlank c = false) (rest : List Char) :
    ∃ more others, words (front ++ rest) = (front ++ more) :: others := by
  rw [words, pieces_append hfront]
  cases hpieces : pieces isBlank rest with
  | nil => exact absurd hpieces (pieces_ne_nil _ rest)
  | cons piece others =>
      refine ⟨piece, others.filter (!·.isEmpty), ?_⟩
      rw [List.modifyHead_cons, List.filter_cons_of_pos (by simp [hne])]

/-- Blanks around a line make no words. -/
theorem words_of_padded {t s : List Char} (h : Padded t s) :
    words s = words t := by
  obtain ⟨before, after, hb, ha, rfl⟩ := h
  have hback : words (t ++ after) = words t := by
    rw [words, pieces_append_separators ha, List.filter_append,
      List.filter_replicate_of_neg (by simp), List.append_nil, words]
  rw [List.append_assoc, ← hback]
  induction before with
  | nil => rfl
  | cons c before ih =>
      obtain ⟨hc, hrest⟩ := List.forall_mem_cons.mp hb
      rw [List.cons_append, words, pieces, if_pos hc,
        List.filter_cons_of_neg (by simp), ← words, ih hrest]

/-! ## List items -/

theorem isBlank_comma : isBlank ',' = false := rfl

/-- An item is trimmed, is not empty and holds no comma. -/
theorem of_mem_listItems {t cs : List Char} (ht : t ∈ listItems cs) :
    t ≠ [] ∧ Trimmed t ∧ ',' ∉ t := by
  obtain ⟨hmem, hne⟩ := List.mem_filter.mp ht
  obtain ⟨q, hq, rfl⟩ := List.mem_map.mp hmem
  refine ⟨by simpa using hne, trimmed_trim q, fun hc => ?_⟩
  rw [mem_trim_iff isBlank_comma] at hc
  have h := not_sep_of_mem_pieces hq ',' hc
  exact absurd h (by decide)

theorem listItems_of_blank {w : List Char} (hw : Blank w) :
    listItems w = [] := by
  have hcomma : ',' ∉ w := hw.not_mem isBlank_comma
  rw [listItems_eq, List.splitOn_eq_singleton hcomma, List.map_singleton,
    trim_eq_nil_iff.mpr hw]
  rfl

theorem listItems_append_blank {w : List Char} (hw : Blank w) (cs : List Char) :
    listItems (cs ++ w) = listItems cs := by
  have hcomma : ∀ c ∈ w, (c == ',') = false := by
    intro c hc
    rw [beq_eq_false_iff_ne]
    rintro rfl
    exact hw.not_mem isBlank_comma hc
  obtain ⟨front, last, hpieces, hmore⟩ := exists_pieces_append hcomma cs
  rw [listItems, listItems, hpieces, hmore, List.map_append, List.map_append,
    List.map_singleton, List.map_singleton, (padded_append hw last).trim_eq]

theorem comma_not_mem_of_padded {ts ps : List (List Char)}
    (hts : ∀ t ∈ ts, ',' ∉ t) (h : List.Forall₂ Padded ts ps) :
    ∀ p ∈ ps, ',' ∉ p := by
  induction h with
  | nil => exact List.forall_mem_nil _
  | cons hpad _ ih =>
      obtain ⟨hhead, hrest⟩ := List.forall_mem_cons.mp hts
      exact List.forall_mem_cons.mpr
        ⟨fun hc => hhead ((hpad.mem_iff isBlank_comma).mp hc), ih hrest⟩

/-- The items of a text made of padded items with commas between them are those
items. -/
theorem listItems_intercalate {ts ps : List (List Char)}
    (hts : ∀ t ∈ ts, t ≠ [] ∧ Trimmed t ∧ ',' ∉ t)
    (h : List.Forall₂ Padded ts ps) :
    listItems ([','].intercalate ps) = ts := by
  by_cases hnil : ps = []
  · subst hnil
    cases h
    rfl
  · have hcomma := comma_not_mem_of_padded (fun t ht => (hts t ht).2.2) h
    rw [listItems_eq, List.splitOn_intercalate ',' hcomma hnil]
    clear hcomma hnil
    induction h with
    | nil => rfl
    | cons hpad _ ih =>
        obtain ⟨⟨hne, htr, _⟩, hrest⟩ := List.forall_mem_cons.mp hts
        rw [List.map_cons, trim_of_padded htr hpad,
          List.filter_cons_of_pos (by simpa using hne), ih hrest]

theorem padded_cons_space (t : List Char) : Padded t (' ' :: t) :=
  padded_of_append (w := [' ']) (by decide) t

theorem forall₂_padded_cons_space (ts : List (List Char)) :
    List.Forall₂ Padded ts (ts.map (' ' :: ·)) := by
  induction ts with
  | nil => exact .nil
  | cons t ts ih => exact .cons (padded_cons_space t) ih

/-- The blank behind a comma belongs to the item that follows. -/
theorem intercalate_comma_space (t : List Char) (ts : List (List Char)) :
    [',', ' '].intercalate (t :: ts) =
      [','].intercalate (t :: ts.map (' ' :: ·)) := by
  induction ts generalizing t with
  | nil => rfl
  | cons u ts ih =>
      rw [List.intercalate_cons_cons, ih, List.map_cons,
        List.intercalate_cons_cons]
      cases ts <;> simp

theorem listItems_intercalate_space {ts : List (List Char)}
    (hts : ∀ t ∈ ts, t ≠ [] ∧ Trimmed t ∧ ',' ∉ t) :
    listItems ([',', ' '].intercalate ts) = ts := by
  cases ts with
  | nil => rfl
  | cons t ts =>
      rw [intercalate_comma_space]
      exact listItems_intercalate hts
        (.cons (padded_self t) (forall₂_padded_cons_space ts))

theorem filter_intercalate {p : Char → Bool} {sep : Char} (hsep : p sep = false)
    (ls : List (List Char)) :
    ([sep].intercalate ls).filter p = (ls.map (List.filter p)).flatten := by
  induction ls with
  | nil => rfl
  | cons l rest ih =>
      cases rest with
      | nil => simp
      | cons l' rest =>
          rw [List.intercalate_cons_cons, List.filter_append,
            List.filter_append, ih, List.filter_cons_of_neg (by simp [hsep])]
          simp

theorem filter_trim {p : Char → Bool} (hp : ∀ c, isBlank c = true → p c = false)
    (cs : List Char) : (trim cs).filter p = cs.filter p := by
  obtain ⟨before, after, hb, ha, hcs⟩ := padded_trim cs
  have hnone : ∀ w, Blank w → w.filter p = [] := by
    intro w hw
    rw [List.filter_eq_nil_iff]
    intro c hc
    simp [hp c (hw c hc)]
  conv_rhs => rw [hcs, List.filter_append, List.filter_append,
    hnone _ hb, hnone _ ha]
  simp

/-- The items of a text keep every character that is neither a comma nor a
blank, in order. -/
theorem filter_listItems {p : Char → Bool} (hcomma : p ',' = false)
    (hblank : ∀ c, isBlank c = true → p c = false) (cs : List Char) :
    ((listItems cs).map (List.filter p)).flatten = cs.filter p := by
  have hdrop : ∀ ls : List (List Char),
      (((ls.map trim).filter (!·.isEmpty)).map (List.filter p)).flatten
        = (ls.map (List.filter p)).flatten := by
    intro ls
    induction ls with
    | nil => rfl
    | cons l rest ih =>
        by_cases hl : trim l = []
        · have hfl : l.filter p = [] := by
            rw [← filter_trim hblank, hl, List.filter_nil]
          simp [hl, hfl, ih]
        · simp [hl, filter_trim hblank, ih]
  rw [listItems_eq, hdrop, ← filter_intercalate hcomma,
    List.intercalate_splitOn]

end DeviceShell.Text
