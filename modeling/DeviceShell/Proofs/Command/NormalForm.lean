import DeviceShell.Proofs.Command.Spellings

/-!
# What has been read can be written, and reads back

A line can be full of noise that the reader passes over: a call that is never
closed, text behind its last parenthesis, arguments that are empty, a closing
parenthesis that closes nothing. None of it is in the command that comes out,
so the command could look different from the line in just the way that
matters, with an equals sign in the open that a parenthesis used to cover.

It cannot, because noise carries no marks. Everything that is dropped between
the parentheses is a blank, a comma, a leading zero or a sign, and what is
dropped behind the last closing parenthesis comes after all of the arguments.
So an operation that was read is writable (`MemberText.writable`), and its
canonical spelling is one of the spellings that are read as that operation.
-/

namespace DeviceShell.Command

open Text

/-- A text without blanks that is not empty. -/
def IsWord (w : String) : Prop :=
  w.toList ≠ [] ∧ ∀ c ∈ w.toList, isBlank c = false

instance (w : String) : Decidable (IsWord w) :=
  @instDecidableAnd _ _ inferInstance
    (List.decidableBAll (isBlank · = false) w.toList)

/-- What holds of every command that comes from a line. -/
def WellFormed : Command → Prop
  | .load name args =>
    (∀ c ∈ name.toList, isBlank c = false) ∧ (∀ a ∈ args, IsWord a) ∧
      (name = "" → args = [])
  | .lifecycle _ id => IsWord id
  | .device id operation => IsIdentifier id ∧ operation.Writable
  | .exit | .devices | .tasks | .help | .unrecognized => True

/-! ## The canonical spelling -/

theorem padded_append_space (t : List Char) : Padded t (t ++ [' ']) :=
  padded_append (by decide) t

theorem argumentSpelling_render (args : List Literal) :
    ArgumentSpelling args (Literal.renderArguments args).toList := by
  rw [Literal.renderArguments, String.toList_intercalate, List.map_map]
  cases args with
  | nil => exact .none blank_nil
  | cons a args =>
      have h := ArgumentSpelling.some (List.cons_ne_nil a args)
        (.cons (padded_self a.render.toList)
          (forall₂_padded_cons_space (args.map fun a => a.render.toList)))
      rwa [← intercalate_comma_space] at h

theorem spelling_render (id : String) (op : Operation) :
    op.Spelling id (op.render id).toList := by
  have hid := padded_self id.toList
  cases op with
  | describe => exact .describe hid
  | get name =>
      have h := Operation.Spelling.get hid (padded_self name.toList)
      simpa [Operation.render] using h
  | set name raw =>
      have h := Operation.Spelling.set hid (padded_append_space name.toList)
        (padded_cons_space raw.toList)
      simpa [Operation.render] using h
  | call method args =>
      have h := Operation.Spelling.call hid (padded_self method.toList)
        (argumentSpelling_render args) blank_nil
      simpa [Operation.render] using h

/-! ## Arguments that were read -/

theorem isMark_of_isNumeral {c : Char} (h : Number.IsNumeral c) :
    isMark c = false := by
  cases hm : isMark c with
  | false => rfl
  | true =>
      simp only [isMark, Bool.or_eq_true, decide_eq_true_eq] at hm
      rcases hm with (rfl | rfl) | rfl <;> revert h <;> decide

/-- A token has the marks of the literal it is read as. -/
theorem marks_of_ofChars? {t : List Char} {a : Literal}
    (h : Literal.ofChars? t = some a) :
    marks t = marks a.render.toList := by
  have hnone : ∀ {cs : List Char}, (∀ c ∈ cs, Number.IsNumeral c) →
      marks cs = [] := by
    intro cs hcs
    exact List.filter_eq_nil_iff.mpr fun c hc => by
      rw [isMark_of_isNumeral (hcs c hc)]; decide
  cases a with
  | text s =>
      rw [(Literal.ofChars?_eq_text_iff.mp h).1, Literal.toList_render_text]
  | integer n =>
      have hread := Literal.ofChars?_eq_integer_iff.mp h
      rw [hnone (Number.of_plainWord?_eq_some hread),
        Literal.toList_render_integer, hnone (Number.mem_wordText n)]

theorem writable_of_map_ofChars? {ts : List (List Char)} {args : List Literal}
    (hts : ∀ t ∈ ts, ',' ∉ t) (h : ts.map Literal.ofChars? = args.map some) :
    (∀ a ∈ args, a.Writable) ∧
      (ts.map marks).flatten =
        ((args.map fun a => a.render.toList).map marks).flatten := by
  induction ts generalizing args with
  | nil =>
      cases args with
      | nil => exact ⟨List.forall_mem_nil _, rfl⟩
      | cons a args => cases h
  | cons t ts ih =>
      cases args with
      | nil => cases h
      | cons a args =>
          rw [List.map_cons, List.map_cons, List.cons.injEq] at h
          obtain ⟨ht, hrest⟩ := List.forall_mem_cons.mp hts
          obtain ⟨hw, hm⟩ := ih hrest h.2
          refine ⟨List.forall_mem_cons.mpr
            ⟨Literal.writable_of_ofChars? ht h.1, hw⟩, ?_⟩
          simp only [List.map_cons, List.flatten_cons]
          rw [hm, marks_of_ofChars? h.1]

theorem of_argumentText {text : List Char} {args : List Literal}
    (h : ArgumentText text (.ok args)) :
    (∀ a ∈ args, a.Writable) ∧
      marks text =
        marks ([','].intercalate (args.map fun a => a.render.toList)) := by
  cases h with
  | literals hall =>
      rw [argumentTokens_eq] at hall
      obtain ⟨hw, hm⟩ :=
        writable_of_map_ofChars? (fun t ht => (of_mem_listItems ht).2.2) hall
      exact ⟨hw, by rw [marks_intercalate, ← hm, marks_listItems]⟩

/-! ## Operations that were read -/

/-- The parts of a call inherit what is known of the whole. -/
theorem CallParts.shielded {s name text : List Char} (h : CallParts s name text)
    (hs : Shielded 0 s) :
    '(' ∉ name ∧ Shielded 0 name ∧ Shielded 0 ('(' :: text) := by
  cases h with
  | bare ho => exact ⟨ho, hs, shielded_of_not_mem 0 (by decide)⟩
  | unclosed hcut _ =>
      obtain ⟨rfl, ho⟩ := hcut
      rw [shielded_append, depthAfter_zero_of_not_mem ho] at hs
      exact ⟨ho, hs.1, hs.2⟩
  | closed hcut _ =>
      obtain ⟨rfl, ho⟩ := hcut
      rw [shielded_append, depthAfter_zero_of_not_mem ho, ← List.cons_append,
        shielded_append] at hs
      exact ⟨ho, hs.1, hs.2.1⟩

theorem writable_set {l r : List Char} (hl : ¬ Blank l) (hclosed : Closed l)
    (hfree : NoFreeEquals l) :
    (Operation.set (String.ofList (trim l))
      (String.ofList (trim r))).Writable := by
  have hmarks : marks (trim l) = marks l :=
    (marks_of_padded (padded_trim l)).symm
  refine ⟨isName_ofList_trim hl, ?_, ?_, ?_⟩
  · rw [String.toList_ofList, ← shielded_marks, hmarks, shielded_marks]
    exact noFreeEquals_iff.mp hfree
  · rw [String.toList_ofList, ← depthAfter_marks, hmarks, depthAfter_marks]
    exact (depthAfter_eq_zero_iff l).mpr hclosed
  · rw [String.toList_ofList]
    exact trimmed_trim r

theorem writable_get {s : List Char} (hs : ¬ Blank s) (hfree : NoFreeEquals s)
    (hdot : '.' ∉ s) (hopen : '(' ∉ s) :
    (Operation.get (String.ofList (trim s))).Writable := by
  have heq : '=' ∉ s := (noFreeEquals_iff.mp hfree).not_mem hopen
  refine ⟨isName_ofList_trim hs, ?_⟩
  simp only [String.toList_ofList,
    mem_trim_iff (show isBlank '.' = false from rfl),
    mem_trim_iff (show isBlank '(' = false from rfl),
    mem_trim_iff (show isBlank '=' = false from rfl)]
  exact ⟨hdot, hopen, heq⟩

theorem writable_call {s name text : List Char} {args : List Literal}
    (hname : ¬ Blank name) (hfree : NoFreeEquals s)
    (hparts : CallParts s name text) (htext : ArgumentText text (.ok args)) :
    (Operation.call (String.ofList (trim name)) args).Writable := by
  obtain ⟨hopen, hshield, htail⟩ := hparts.shielded (noFreeEquals_iff.mp hfree)
  obtain ⟨hargs, hmarks⟩ := of_argumentText htext
  refine ⟨isName_ofList_trim hname, ?_, ?_, hargs,
    (shielded_open_congr hmarks).mp htail⟩
  · rw [String.toList_ofList, mem_trim_iff rfl]
    exact hopen
  · rw [String.toList_ofList, mem_trim_iff rfl]
    exact hshield.not_mem hopen

theorem MemberText.writable {body : List Char} {op : Operation}
    (h : MemberText body (.ok (some op))) : op.Writable := by
  generalize hr : (Except.ok (some op) : Except Failure (Option Operation)) =
    r at h
  cases h with
  | assignment hfree hl =>
      cases hr
      exact writable_set hl hfree.2.1 hfree.2.2
  | reading hfree hdot hopen hs =>
      cases hr
      exact writable_get hs hfree hdot hopen
  | @call name text result hfree _ hparts hname htext =>
      cases result with
      | error failure => cases hr
      | ok args =>
          cases hr
          exact writable_call hname hfree hparts htext
  | assignmentToNothing | readingOfNothing | callOfNothing => cases hr

/-! ## Lines -/

theorem of_cutAt {line : String} {id body : List Char}
    (hcut : CutAt '.' line.toList id body) (hid : ¬ Blank id) :
    IsIdentifier (String.ofList (trim id)) ∧
    String.ofList (trim id) = identifier line := by
  refine ⟨⟨isName_ofList_trim hid, ?_⟩, (identifier_of_cutAt hcut).symm⟩
  rw [String.toList_ofList, mem_trim_iff rfl]
  exact hcut.2

/-- A device line is about the device it begins with, and what it asks for can
be written. -/
theorem of_readDeviceLine {line : String} {c : Command}
    (h : readDeviceLine line = .ok c) :
    c = .unrecognized ∨ ∃ id op, c = .device id op ∧ id = identifier line ∧
      IsIdentifier id ∧ op.Writable := by
  have hline := deviceLine_readDeviceLine line
  rw [h] at hline
  cases hline with
  | blank | noDevice | noMember => exact Or.inl rfl
  | description hdot hblank =>
      refine Or.inr ⟨_, _, rfl, (identifier_of_not_mem hdot).symm,
        ⟨isName_ofList_trim hblank, ?_⟩, trivial⟩
      rw [String.toList_ofList, mem_trim_iff rfl]
      exact hdot
  | operation hcut hid hbody =>
      obtain ⟨hident, heq⟩ := of_cutAt hcut hid
      exact Or.inr ⟨_, _, rfl, heq, hident, hbody.writable⟩

theorem isWord_of_mem_words {line w : String}
    (h : w ∈ (words line.toList).map String.ofList) : IsWord w := by
  obtain ⟨cs, hcs, rfl⟩ := List.mem_map.mp h
  rw [IsWord, String.toList_ofList]
  exact of_mem_words hcs

theorem ne_empty_of_mem_words {line w : String}
    (h : w ∈ (words line.toList).map String.ofList) : w ≠ "" := by
  rintro rfl
  exact (isWord_of_mem_words h).1 rfl

theorem wellFormed_of_ofWords? {ws : List String} {c : Command}
    (hws : ∀ w ∈ ws, IsWord w) (h : ofWords? ws = some c) :
    c.WellFormed ∧ ∀ id op, c ≠ .device id op := by
  cases ws with
  | nil => cases h
  | cons keyword rest =>
      obtain ⟨-, hrest⟩ := List.forall_mem_cons.mp hws
      rw [ofWords?.eq_def] at h
      simp only [] at h
      split at h
      · cases h
        refine ⟨?_, fun _ _ => Command.noConfusion⟩
        cases rest with
        | nil =>
            exact ⟨List.forall_mem_nil _, List.forall_mem_nil _, fun _ => rfl⟩
        | cons name args =>
            obtain ⟨hname, hargs⟩ := List.forall_mem_cons.mp hrest
            refine ⟨hname.2, hargs, ?_⟩
            rintro rfl
            exact absurd rfl hname.1
      · split at h
        · cases h
          exact ⟨hrest _ List.mem_cons_self, fun _ _ => Command.noConfusion⟩
        · cases h

theorem builtin?_ne_device {line : String} {c : Command}
    (h : builtin? line = some c) :
    c.WellFormed ∧ ∀ id op, c ≠ .device id op := by
  rw [builtin?] at h
  repeat' split at h
  all_goals first
    | cases h; exact ⟨trivial, fun _ _ => Command.noConfusion⟩
    | cases h

/-- A command that was read is well formed, and if it is an operation on a
device then it is about the device the line begins with, and its canonical
spelling reads as the very same command. -/
theorem classify_wellFormed {line : String} {c : Command}
    (h : classify line = .ok c) :
    c.WellFormed ∧ ∀ id op, c = .device id op →
      id = identifier line ∧ readDeviceLine (op.render id) = .ok c := by
  rw [classify] at h
  split at h
  · next c' hbuiltin =>
      cases h
      obtain ⟨hwf, hne⟩ := builtin?_ne_device hbuiltin
      exact ⟨hwf, fun id op heq => absurd heq (hne id op)⟩
  · split at h
    · next c' hwords =>
        cases h
        obtain ⟨hwf, hne⟩ :=
          wellFormed_of_ofWords? (fun _ hw => isWord_of_mem_words hw) hwords
        exact ⟨hwf, fun id op heq => absurd heq (hne id op)⟩
    · rcases of_readDeviceLine h with rfl | ⟨id, op, rfl, heq, hid, hop⟩
      · exact ⟨trivial, fun _ _ heq => Command.noConfusion heq⟩
      · refine ⟨⟨hid, hop⟩, fun id' op' hc => ?_⟩
        cases hc
        exact ⟨heq, readDeviceLine_of_deviceLine
          (deviceLine_of_spelling hid hop (spelling_render id op))⟩

/-- A closing parenthesis and an empty argument too many, a number with leading
zeros, and text behind the call: none of it is in the command. -/
theorem classify_wellFormed_echo :
    classify "lamp.echo(\"(=\", , 007 ) = junk" =
        .ok (.device "lamp" (.call "echo" [.text "(=", .integer 7])) ∧
      readDeviceLine
        ((Operation.call "echo" [.text "(=", .integer 7]).render "lamp") =
        .ok (.device "lamp" (.call "echo" [.text "(=", .integer 7])) := by
  have h : classify "lamp.echo(\"(=\", , 007 ) = junk" =
      .ok (.device "lamp" (.call "echo" [.text "(=", .integer 7])) := rfl
  exact ⟨h, ((classify_wellFormed h).2 _ _ rfl).2⟩

end DeviceShell.Command
