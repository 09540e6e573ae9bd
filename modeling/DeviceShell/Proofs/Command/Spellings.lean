import DeviceShell.Command.Printer
import DeviceShell.Proofs.Command.Grammar
import DeviceShell.Proofs.Literal

/-!
# Every spelling of an operation is read as that operation

An operation on a device can be typed in many ways: blanks may stand at both
ends of the line, around the first dot, around the equals sign or the
parentheses, and around the commas. `Operation.Spelling` describes these lines
and `Operation.Writable` the operations that can be typed at all. Nothing in a
line is quoted as far as the reader is concerned, so what is writable has to
be said in terms of what the reader looks for: a name to assign to may hold
equals signs only behind a parenthesis, and so may the arguments of a call.

The blanks disappear from the argument early. The count of parentheses sees a
text only through its `marks`, and blanks, commas and the digits of a number
are no marks; so it is enough to know the count for the arguments as such.
-/

namespace DeviceShell

open Text Command

/-- A text with something in it and no blank at either end. -/
def IsName (s : String) : Prop :=
  s.toList ≠ [] ∧ Trimmed s.toList

instance (s : String) : Decidable (IsName s) :=
  inferInstanceAs (Decidable (_ ∧ _))

/-- What can stand in front of the first dot of a line. -/
def IsIdentifier (id : String) : Prop :=
  IsName id ∧ '.' ∉ id.toList

/-- The operations that can be typed. -/
def Operation.Writable : Operation → Prop
  | .describe => True
  | .get name =>
    IsName name ∧ '.' ∉ name.toList ∧ '(' ∉ name.toList ∧ '=' ∉ name.toList
  | .set name raw =>
    IsName name ∧ Shielded 0 name.toList ∧ depthAfter 0 name.toList = 0 ∧
      Trimmed raw.toList
  | .call method args =>
    IsName method ∧ '(' ∉ method.toList ∧ '=' ∉ method.toList ∧
      (∀ a ∈ args, a.Writable) ∧
      Shielded 0 ('(' :: [','].intercalate (args.map fun a => a.render.toList))

/-- What can stand between the parentheses of a call: blanks around each
argument, or nothing but blanks. -/
inductive ArgumentSpelling : List Literal → List Char → Prop where
  | none {w} : Blank w → ArgumentSpelling [] w
  | some {args parts} : args ≠ [] →
      List.Forall₂ Padded (args.map fun a => a.render.toList) parts →
      ArgumentSpelling args ([','].intercalate parts)

/-- The lines that spell an operation on the device `id`. -/
inductive Operation.Spelling (id : String) : Operation → List Char → Prop where
  | describe {line} : Padded id.toList line → Spelling id .describe line
  | get {name head body} : Padded id.toList head → Padded name.toList body →
      Spelling id (.get name) (head ++ '.' :: body)
  | set {name raw head l r} : Padded id.toList head → Padded name.toList l →
      Padded raw.toList r →
      Spelling id (.set name raw) (head ++ '.' :: (l ++ '=' :: r))
  | call {method args head l inner tail} : Padded id.toList head →
      Padded method.toList l →
      ArgumentSpelling args inner → Blank tail →
      Spelling id (.call method args)
        (head ++ '.' :: (l ++ '(' :: (inner ++ ')' :: tail)))

/-! ## Padding -/

theorem IsName.not_blank {s : String} {t : List Char} (hs : IsName s)
    (h : Padded s.toList t) : ¬ Blank t := by
  intro hb
  exact hs.1 (hs.2.eq_nil (h.blank_iff.mp hb))

theorem IsName.ofList_trim {s : String} {t : List Char} (hs : IsName s)
    (h : Padded s.toList t) : String.ofList (trim t) = s := by
  rw [trim_of_padded hs.2 h, String.ofList_toList]

theorem isName_ofList_trim {t : List Char} (h : ¬ Blank t) :
    IsName (String.ofList (trim t)) := by
  rw [IsName, String.toList_ofList]
  exact ⟨trim_ne_nil_iff.mpr h, trimmed_trim t⟩

/-! ## Arguments -/

theorem ofChars?_map_render {args : List Literal} (h : ∀ a ∈ args, a.Writable) :
    (args.map fun a => a.render.toList).map Literal.ofChars? =
      args.map some := by
  rw [List.map_map]
  exact List.map_congr_left fun a ha => Literal.ofChars?_render (h a ha)

theorem ArgumentSpelling.tokens {args : List Literal} {inner : List Char}
    (h : ArgumentSpelling args inner) (hargs : ∀ a ∈ args, a.Writable) :
    argumentTokens inner = args.map fun a => a.render.toList := by
  rw [argumentTokens_eq]
  cases h with
  | none hw => exact listItems_of_blank hw
  | some _ hparts =>
      refine listItems_intercalate ?_ hparts
      intro t ht
      obtain ⟨a, ha, rfl⟩ := List.mem_map.mp ht
      exact ⟨a.render_ne_nil, a.trimmed_render,
        Literal.comma_not_mem_render (hargs a ha)⟩

theorem marks_of_forall₂ {ts ps : List (List Char)}
    (h : List.Forall₂ Padded ts ps) :
    ps.map marks = ts.map marks := by
  induction h with
  | nil => rfl
  | cons hpad _ ih =>
      rw [List.map_cons, List.map_cons, ih, marks_of_padded hpad]

theorem ArgumentSpelling.marks_eq {args : List Literal} {inner : List Char}
    (h : ArgumentSpelling args inner) :
    marks inner =
      marks ([','].intercalate (args.map fun a => a.render.toList)) := by
  cases h with
  | none hw => exact marks_of_blank hw
  | some _ hparts =>
      rw [marks_intercalate, marks_intercalate, marks_of_forall₂ hparts]

/-! ## Operations -/

theorem memberText_get {name : String} {body : List Char}
    (hop : (Operation.get name).Writable) (hbody : Padded name.toList body) :
    MemberText body (.ok (some (.get name))) := by
  obtain ⟨hname, hdot, hopen, heq⟩ := hop
  have hfree : NoFreeEquals body := by
    rw [noFreeEquals_iff]
    exact shielded_of_not_mem 0 (mt (hbody.mem_iff rfl).mp heq)
  have h := MemberText.reading hfree (mt (hbody.mem_iff rfl).mp hdot)
    (mt (hbody.mem_iff rfl).mp hopen) (hname.not_blank hbody)
  rwa [hname.ofList_trim hbody] at h

theorem memberText_set {name raw : String} {l r : List Char}
    (hop : (Operation.set name raw).Writable) (hl : Padded name.toList l)
    (hr : Padded raw.toList r) :
    MemberText (l ++ '=' :: r) (.ok (some (.set name raw))) := by
  obtain ⟨hname, hshield, hdepth, hraw⟩ := hop
  have hfree : FirstFreeEquals (l ++ '=' :: r) l r := by
    refine ⟨rfl, ?_, ?_⟩
    · rw [← depthAfter_eq_zero_iff, ← depthAfter_marks, marks_of_padded hl,
        depthAfter_marks]
      exact hdepth
    · rw [noFreeEquals_iff, ← shielded_marks, marks_of_padded hl,
        shielded_marks]
      exact hshield
  have h := MemberText.assignment hfree (hname.not_blank hl)
  rwa [hname.ofList_trim hl, trim_of_padded hraw hr, String.ofList_toList] at h

theorem memberText_call {method : String} {args : List Literal}
    {l inner tail : List Char} (hop : (Operation.call method args).Writable)
    (hl : Padded method.toList l) (hargs : ArgumentSpelling args inner)
    (htail : Blank tail) :
    MemberText (l ++ '(' :: (inner ++ ')' :: tail))
      (.ok (some (.call method args))) := by
  obtain ⟨hname, hopen, heq, hwritable, hshield⟩ := hop
  have hopen' : '(' ∉ l := mt (hl.mem_iff rfl).mp hopen
  have heq' : '=' ∉ l := mt (hl.mem_iff rfl).mp heq
  have hfree : NoFreeEquals (l ++ '(' :: (inner ++ ')' :: tail)) := by
    have hin : Shielded 0 ('(' :: inner) :=
      (shielded_open_congr hargs.marks_eq).mpr hshield
    have hend : '=' ∉ ')' :: tail := by
      rw [List.mem_cons, not_or]
      exact ⟨by decide, htail.not_mem rfl⟩
    rw [noFreeEquals_iff, shielded_append, depthAfter_zero_of_not_mem hopen',
      ← List.cons_append, shielded_append]
    exact ⟨shielded_of_not_mem 0 heq', hin, shielded_of_not_mem _ hend⟩
  have hparts : CallParts (l ++ '(' :: (inner ++ ')' :: tail)) l inner :=
    .closed ⟨rfl, hopen'⟩ (htail.not_mem rfl)
  have htext : ArgumentText inner (.ok args) :=
    .literals (by rw [hargs.tokens hwritable, ofChars?_map_render hwritable])
  have h := MemberText.call hfree
    (Or.inr (List.mem_append_right l List.mem_cons_self)) hparts
    (hname.not_blank hl) htext
  rwa [hname.ofList_trim hl] at h

/-! ## Lines -/

theorem deviceLine_of_member {id : String} {op : Operation}
    {head body : List Char} (hid : IsIdentifier id)
    (hhead : Padded id.toList head) (hbody : MemberText body (.ok (some op))) :
    DeviceLine (head ++ '.' :: body) (.ok (.device id op)) := by
  have hcut : CutAt '.' (head ++ '.' :: body) head body :=
    ⟨rfl, mt (hhead.mem_iff rfl).mp hid.2⟩
  have h := DeviceLine.operation hcut (hid.1.not_blank hhead) hbody
  rwa [hid.1.ofList_trim hhead] at h

theorem deviceLine_of_describe {id : String} {line : List Char}
    (hid : IsIdentifier id) (hline : Padded id.toList line) :
    DeviceLine line (.ok (.device id .describe)) := by
  have h := DeviceLine.description (mt (hline.mem_iff rfl).mp hid.2)
    (hid.1.not_blank hline)
  rwa [hid.1.ofList_trim hline] at h

theorem deviceLine_of_spelling {id : String} {op : Operation} {line : List Char}
    (hid : IsIdentifier id) (hop : op.Writable) (h : op.Spelling id line) :
    DeviceLine line (.ok (.device id op)) := by
  cases h with
  | describe hline => exact deviceLine_of_describe hid hline
  | get hhead hbody =>
      exact deviceLine_of_member hid hhead (memberText_get hop hbody)
  | set hhead hl hr =>
      exact deviceLine_of_member hid hhead (memberText_set hop hl hr)
  | call hhead hl hargs htail =>
      exact deviceLine_of_member hid hhead (memberText_call hop hl hargs htail)

/-- A writable operation is read from each of its spellings. -/
theorem readDeviceLine_of_spelling {id : String} {op : Operation}
    {line : String} (hid : IsIdentifier id) (hop : op.Writable)
    (h : op.Spelling id line.toList) :
    readDeviceLine line = .ok (.device id op) :=
  readDeviceLine_of_deviceLine (deviceLine_of_spelling hid hop h)

/-- A call whose arguments hold an equals sign behind a parenthesis of their
own, typed with blanks of several kinds. -/
theorem readDeviceLine_of_spelling_dim :
    IsIdentifier "lamp" ∧
    (Operation.call "dim" [.text "a = (b) ", .integer (-7)]).Writable ∧
      (Operation.call "dim" [.text "a = (b) ", .integer (-7)]).Spelling "lamp"
        " lamp\u00a0. dim ( \"a = (b) \",\t-7 ) ".toList ∧
      readDeviceLine " lamp\u00a0. dim ( \"a = (b) \",\t-7 ) " =
        .ok (.device "lamp"
          (.call "dim" [.text "a = (b) ", .integer (-7)])) := by
  have hid : IsIdentifier "lamp" := ⟨⟨by decide, by decide⟩, by decide⟩
  have hargs : ∀ a ∈ [Literal.text "a = (b) ", .integer (-7)], a.Writable :=
    List.forall_mem_cons.mpr ⟨⟨by decide, by decide⟩, List.forall_mem_cons.mpr
      ⟨trivial, List.forall_mem_nil _⟩⟩
  have hop :
      (Operation.call "dim" [.text "a = (b) ", .integer (-7)]).Writable :=
    ⟨⟨by decide, by decide⟩, by decide, by decide, hargs,
      splitAssignment_eq_none_iff.mp rfl⟩
  have htext : Padded (Literal.text "a = (b) ").render.toList
      " \"a = (b) \"".toList :=
    ⟨[' '], [], by decide, by decide, rfl⟩
  have hinteger : Padded (Literal.integer (-7)).render.toList "\t-7 ".toList :=
    ⟨['\t'], [' '], by decide, by decide, rfl⟩
  have hinner : ArgumentSpelling [.text "a = (b) ", .integer (-7)]
      ([','].intercalate [" \"a = (b) \"".toList, "\t-7 ".toList]) :=
    .some (List.cons_ne_nil _ _) (.cons htext (.cons hinteger .nil))
  have hline : (Operation.call "dim" [.text "a = (b) ", .integer (-7)]).Spelling
    "lamp" (" lamp\u00a0".toList ++ '.' :: (" dim ".toList ++ '(' ::
        ([','].intercalate [" \"a = (b) \"".toList, "\t-7 ".toList] ++
          ')' :: [' ']))) :=
    .call ⟨[' '], ['\u00a0'], by decide, by decide, rfl⟩
      ⟨[' '], [' '], by decide, by decide, rfl⟩ hinner (by decide)
  exact ⟨hid, hop, hline, readDeviceLine_of_spelling hid hop hline⟩

end DeviceShell
