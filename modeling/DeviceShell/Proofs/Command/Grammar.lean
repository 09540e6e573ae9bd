import DeviceShell.Proofs.Command.Parentheses

/-!
# The grammar of device lines

`readDeviceLine` cuts a line at one place after another and looks at the same
text several times: for an equals sign, for a dot, for parentheses. The
relation `DeviceLine` says what comes of it without saying how. Each rule
names the cuts it needs, as equations between texts, and the conditions under
which it applies; no rule counts anything, and an equals sign is free when no
end of the text before it opens more parentheses than it closes.

`deviceLine_readDeviceLine` and `readDeviceLine_of_deviceLine` are the two
halves of the agreement. Together they also say that the grammar gives every
line one meaning, which is not obvious from the rules. Other files use the
halves and not the code: to know how a line is read, it is enough to find the
rule that covers it.
-/

namespace DeviceShell.Command

open Text

/-- The text `s` is `before`, a first `c`, and `after`. -/
def CutAt (c : Char) (s before after : List Char) : Prop :=
  s = before ++ c :: after ∧ c ∉ before

/-- No equals sign of the text is free. -/
def NoFreeEquals (s : List Char) : Prop :=
  ∀ l r, s = l ++ '=' :: r → ¬ Closed l

/-- The first free equals sign of `s` stands between `l` and `r`. -/
def FirstFreeEquals (s l r : List Char) : Prop :=
  s = l ++ '=' :: r ∧ Closed l ∧ NoFreeEquals l

/-- A call without its parentheses: the name in front of the first opening one,
and what stands between that and the last closing one behind it. A missing
opening parenthesis leaves no arguments, and a missing closing one leaves all
of the rest. -/
inductive CallParts : List Char → List Char → List Char → Prop where
  | bare {s} : '(' ∉ s → CallParts s s []
  | unclosed {s name rest} : CutAt '(' s name rest → ')' ∉ rest →
      CallParts s name rest
  | closed {s name inner junk} :
      CutAt '(' s name (inner ++ ')' :: junk) → ')' ∉ junk →
      CallParts s name inner

/-- The pieces of a text between its commas, trimmed, without the empty
ones. -/
def argumentTokens (text : List Char) : List (List Char) :=
  ((text.splitOn ',').map trim).filter (!·.isEmpty)

/-- What becomes of the arguments of a call: all of them are literals, or the
first that is none is to blame. -/
inductive ArgumentText : List Char → Except Failure (List Literal) → Prop where
  | literals {text args} :
      (argumentTokens text).map Literal.ofChars? = args.map some →
      ArgumentText text (.ok args)
  | ambiguous {text good bad rest} : argumentTokens text = good ++ bad :: rest →
      (∀ t ∈ good, (Literal.ofChars? t).isSome) → Literal.ofChars? bad = none →
      ArgumentText text (.error (.ambiguousParameter (String.ofList bad)))

/-- What the text behind the first dot of a line means; nothing, if it names no
member. -/
inductive MemberText :
    List Char → Except Failure (Option Operation) → Prop where
  | assignment {s l r} : FirstFreeEquals s l r → ¬ Blank l →
      MemberText s
        (.ok (some (.set (String.ofList (trim l)) (String.ofList (trim r)))))
  | assignmentToNothing {s l r} : FirstFreeEquals s l r → Blank l →
      MemberText s (.ok none)
  | reading {s} : NoFreeEquals s → '.' ∉ s → '(' ∉ s → ¬ Blank s →
      MemberText s (.ok (some (.get (String.ofList (trim s)))))
  | readingOfNothing {s} : NoFreeEquals s → '.' ∉ s → '(' ∉ s → Blank s →
      MemberText s (.ok none)
  | call {s name text result} : NoFreeEquals s → '.' ∈ s ∨ '(' ∈ s →
      CallParts s name text →
      ¬ Blank name → ArgumentText text result →
      MemberText s (result.map fun args =>
        some (.call (String.ofList (trim name)) args))
  | callOfNothing {s name text} : NoFreeEquals s → '.' ∈ s ∨ '(' ∈ s →
      CallParts s name text →
      Blank name → MemberText s (.ok none)

/-- What a line means that is neither a built-in word nor an order. -/
inductive DeviceLine : List Char → Except Failure Command → Prop where
  | blank {line} : '.' ∉ line → Blank line → DeviceLine line (.ok .unrecognized)
  | description {line} : '.' ∉ line → ¬ Blank line →
      DeviceLine line (.ok (.device (String.ofList (trim line)) .describe))
  | noDevice {line id body} : CutAt '.' line id body → Blank id →
      DeviceLine line (.ok .unrecognized)
  | operation {line id body op} : CutAt '.' line id body → ¬ Blank id →
      MemberText body (.ok (some op)) →
      DeviceLine line (.ok (.device (String.ofList (trim id)) op))
  | noMember {line id body} : CutAt '.' line id body → ¬ Blank id →
      MemberText body (.ok none) →
      DeviceLine line (.ok .unrecognized)
  | refused {line id body failure} : CutAt '.' line id body → ¬ Blank id →
      MemberText body (.error failure) → DeviceLine line (.error failure)

/-! ## Cuts -/

theorem exists_cutAt {c : Char} {s : List Char} (h : c ∈ s) :
    ∃ before after, CutAt c s before after :=
  List.eq_append_cons_of_mem h

theorem all_ne_of_not_mem {c : Char} {s : List Char} (h : c ∉ s) :
    ∀ a ∈ s, decide (a ≠ c) = true := by
  intro a ha
  rw [decide_eq_true_iff]
  rintro rfl
  exact h ha

theorem CutAt.takeWhile {c : Char} {s before after : List Char}
    (h : CutAt c s before after) :
    s.takeWhile (· ≠ c) = before := by
  obtain ⟨rfl, hc⟩ := h
  rw [List.takeWhile_append_of_pos (all_ne_of_not_mem hc),
    List.takeWhile_cons_of_neg (by simp), List.append_nil]

theorem CutAt.dropWhile {c : Char} {s before after : List Char}
    (h : CutAt c s before after) :
    s.dropWhile (· ≠ c) = c :: after := by
  obtain ⟨rfl, hc⟩ := h
  rw [List.dropWhile_append_of_pos (all_ne_of_not_mem hc),
    List.dropWhile_cons_of_neg (by simp)]

theorem takeWhile_of_not_mem {c : Char} {s : List Char} (h : c ∉ s) :
    s.takeWhile (· ≠ c) = s :=
  List.takeWhile_eq_self_iff.mpr (all_ne_of_not_mem h)

theorem dropWhile_of_not_mem {c : Char} {s : List Char} (h : c ∉ s) :
    s.dropWhile (· ≠ c) = [] :=
  List.dropWhile_eq_nil_iff.mpr (all_ne_of_not_mem h)

theorem noFreeEquals_iff {s : List Char} : NoFreeEquals s ↔ Shielded 0 s :=
  shielded_zero_iff.symm

theorem firstFreeEquals_iff {s l r : List Char} :
    FirstFreeEquals s l r ↔ splitAssignment 0 s = some (l, r) := by
  rw [splitAssignment_eq_some_iff, FirstFreeEquals, noFreeEquals_iff,
    depthAfter_eq_zero_iff, and_comm (a := Closed l)]

/-! ## Arguments -/

theorem argumentTokens_eq (text : List Char) :
    argumentTokens text = listItems text :=
  (listItems_eq text).symm

theorem read_of_ofChars?_eq_some {t : List Char} {literal : Literal}
    (h : Literal.ofChars? t = some literal) :
    Literal.read (String.ofList t) = .ok literal := by
  simp only [Literal.read, String.toList_ofList, h]

theorem read_of_ofChars?_eq_none {t : List Char}
    (h : Literal.ofChars? t = none) :
    Literal.read (String.ofList t) =
      .error (.ambiguousParameter (String.ofList t)) := by
  simp only [Literal.read, String.toList_ofList, h]

theorem mapM_read_of_literals {ts : List (List Char)} {args : List Literal}
    (h : ts.map Literal.ofChars? = args.map some) :
    ts.mapM (fun t => Literal.read (String.ofList t)) = .ok args := by
  induction ts generalizing args with
  | nil =>
      cases args with
      | nil => rfl
      | cons a args => cases h
  | cons t ts ih =>
      cases args with
      | nil => cases h
      | cons a args =>
          rw [List.map_cons, List.map_cons, List.cons.injEq] at h
          rw [List.mapM_cons, read_of_ofChars?_eq_some h.1, ih h.2]
          rfl

theorem mapM_read_of_ambiguous {good rest : List (List Char)} {bad : List Char}
    (hgood : ∀ t ∈ good, (Literal.ofChars? t).isSome)
    (hbad : Literal.ofChars? bad = none) :
    (good ++ bad :: rest).mapM (fun t => Literal.read (String.ofList t)) =
      .error (.ambiguousParameter (String.ofList bad)) := by
  induction good with
  | nil =>
      rw [List.nil_append, List.mapM_cons, read_of_ofChars?_eq_none hbad]
      rfl
  | cons t good ih =>
      obtain ⟨ht, hrest⟩ := List.forall_mem_cons.mp hgood
      obtain ⟨literal, hl⟩ := Option.isSome_iff_exists.mp ht
      rw [List.cons_append, List.mapM_cons,
        read_of_ofChars?_eq_some hl, ih hrest]
      rfl

theorem readArguments_of_argumentText {text : List Char}
    {r : Except Failure (List Literal)} (h : ArgumentText text r) :
    readArguments text = r := by
  rw [readArguments, ← argumentTokens_eq]
  cases h with
  | literals hall => exact mapM_read_of_literals hall
  | ambiguous heq hgood hbad =>
      rw [heq]
      exact mapM_read_of_ambiguous hgood hbad

/-- A list of tokens has a first one that is no literal, or is a list of
literals. -/
theorem literals_or_ambiguous (ts : List (List Char)) :
    (∃ args : List Literal, ts.map Literal.ofChars? = args.map some) ∨
      ∃ good bad rest, ts = good ++ bad :: rest ∧
        (∀ t ∈ good, (Literal.ofChars? t).isSome) ∧
        Literal.ofChars? bad = none := by
  induction ts with
  | nil => exact Or.inl ⟨[], rfl⟩
  | cons t ts ih =>
      cases ht : Literal.ofChars? t with
      | none => exact Or.inr ⟨[], t, ts, rfl, List.forall_mem_nil _, ht⟩
      | some literal =>
          rcases ih with ⟨args, hall⟩ | ⟨good, bad, rest, rfl, hgood, hbad⟩
          · exact Or.inl ⟨literal :: args,
              by rw [List.map_cons, ht, hall, List.map_cons]⟩
          · refine Or.inr ⟨t :: good, bad, rest, rfl, ?_, hbad⟩
            exact List.forall_mem_cons.mpr ⟨by rw [ht]; rfl, hgood⟩

theorem argumentText_readArguments (text : List Char) :
    ArgumentText text (readArguments text) := by
  have h : ∃ r, ArgumentText text r := by
    rcases literals_or_ambiguous (argumentTokens text) with
      ⟨args, hall⟩ | ⟨good, bad, rest, heq, hgood, hbad⟩
    · exact ⟨_, .literals hall⟩
    · exact ⟨_, .ambiguous heq hgood hbad⟩
  obtain ⟨r, hr⟩ := h
  rw [readArguments_of_argumentText hr]
  exact hr

/-! ## Calls -/

theorem argumentText_eq_of_not_mem {rest : List Char} {c : Char}
    (h : ')' ∉ rest) :
    argumentText (c :: rest) = rest := by
  rw [argumentText, if_neg h]

theorem argumentText_eq_of_closed {inner junk : List Char} {c : Char}
    (h : ')' ∉ junk) :
    argumentText (c :: (inner ++ ')' :: junk)) = inner := by
  have hcut : CutAt ')' (inner ++ ')' :: junk).reverse junk.reverse
      inner.reverse :=
    ⟨by simp, by simpa using h⟩
  rw [argumentText, if_pos (List.mem_append_right inner List.mem_cons_self),
    hcut.dropWhile, List.drop_one, List.tail_cons, List.reverse_reverse]

theorem CallParts.eq {s name text : List Char} (h : CallParts s name text) :
    s.takeWhile (· ≠ '(') = name ∧
    argumentText (s.dropWhile (· ≠ '(')) = text := by
  cases h with
  | bare hs =>
      rw [takeWhile_of_not_mem hs, dropWhile_of_not_mem hs]
      exact ⟨rfl, rfl⟩
  | unclosed hcut hrest =>
      rw [hcut.takeWhile, hcut.dropWhile, argumentText_eq_of_not_mem hrest]
      exact ⟨rfl, rfl⟩
  | closed hcut hjunk =>
      rw [hcut.takeWhile, hcut.dropWhile, argumentText_eq_of_closed hjunk]
      exact ⟨rfl, rfl⟩

/-- The last `c` of a text. -/
theorem exists_last_of_mem {c : Char} {s : List Char} (h : c ∈ s) :
    ∃ inner junk, s = inner ++ c :: junk ∧ c ∉ junk := by
  obtain ⟨junk, inner, hs, hjunk⟩ := exists_cutAt (List.mem_reverse.mpr h)
  refine ⟨inner.reverse, junk.reverse, ?_, by simpa using hjunk⟩
  have := congrArg List.reverse hs
  simpa using this

theorem exists_callParts (s : List Char) :
    ∃ name text, CallParts s name text := by
  by_cases ho : '(' ∈ s
  · obtain ⟨name, rest, hcut⟩ := exists_cutAt ho
    by_cases hc : ')' ∈ rest
    · obtain ⟨inner, junk, rfl, hjunk⟩ := exists_last_of_mem hc
      exact ⟨name, inner, .closed hcut hjunk⟩
    · exact ⟨name, rest, .unclosed hcut hc⟩
  · exact ⟨s, [], .bare ho⟩

/-! ## The text behind the dot -/

theorem isEmpty_ofList (s : List Char) :
    (String.ofList s).isEmpty = s.isEmpty := by
  rw [Bool.eq_iff_iff, String.isEmpty_iff, String.ofList_eq_empty_iff,
    List.isEmpty_iff]

theorem isEmpty_trim {s : List Char} : (trim s).isEmpty = true ↔ Blank s := by
  rw [List.isEmpty_iff, trim_eq_nil_iff]

theorem readOperation_of_memberText {s : List Char}
    {r : Except Failure (Option Operation)} (h : MemberText s r) :
    readOperation s = r := by
  cases h with
  | assignment hfree hl =>
      rw [readOperation, firstFreeEquals_iff.mp hfree]
      simp only [isEmpty_trim, if_neg hl]
  | assignmentToNothing hfree hl =>
      rw [readOperation, firstFreeEquals_iff.mp hfree]
      simp only [isEmpty_trim, if_pos hl]
  | reading hnone hdot hopen hs =>
      rw [readOperation,
        splitAssignment_eq_none_iff.mpr (noFreeEquals_iff.mp hnone)]
      simp only [if_pos (And.intro hdot hopen), isEmpty_trim, if_neg hs]
  | readingOfNothing hnone hdot hopen hs =>
      rw [readOperation,
        splitAssignment_eq_none_iff.mpr (noFreeEquals_iff.mp hnone)]
      simp only [if_pos (And.intro hdot hopen), isEmpty_trim, if_pos hs]
  | call hnone hmark hparts hname hargs =>
      have hcall : ¬ ('.' ∉ s ∧ '(' ∉ s) := by rwa [← not_or, not_not]
      rw [readOperation,
        splitAssignment_eq_none_iff.mpr (noFreeEquals_iff.mp hnone)]
      simp only [if_neg hcall, hparts.eq.1, hparts.eq.2, isEmpty_trim,
        if_neg hname, readArguments_of_argumentText hargs]
  | callOfNothing hnone hmark hparts hname =>
      have hcall : ¬ ('.' ∉ s ∧ '(' ∉ s) := by rwa [← not_or, not_not]
      rw [readOperation,
        splitAssignment_eq_none_iff.mpr (noFreeEquals_iff.mp hnone)]
      simp only [if_neg hcall, hparts.eq.1, isEmpty_trim, if_pos hname]

/-- The rules leave no text out. -/
theorem exists_memberText (s : List Char) : ∃ r, MemberText s r := by
  cases hsplit : splitAssignment 0 s with
  | some p =>
      have hfree : FirstFreeEquals s p.1 p.2 := firstFreeEquals_iff.mpr hsplit
      by_cases hl : Blank p.1
      · exact ⟨_, .assignmentToNothing hfree hl⟩
      · exact ⟨_, .assignment hfree hl⟩
  | none =>
      have hnone : NoFreeEquals s :=
        noFreeEquals_iff.mpr (splitAssignment_eq_none_iff.mp hsplit)
      by_cases hmark : '.' ∈ s ∨ '(' ∈ s
      · obtain ⟨name, text, hparts⟩ := exists_callParts s
        by_cases hname : Blank name
        · exact ⟨_, .callOfNothing hnone hmark hparts hname⟩
        · exact ⟨_,
            .call hnone hmark hparts hname (argumentText_readArguments text)⟩
      · rw [not_or] at hmark
        by_cases hs : Blank s
        · exact ⟨_, .readingOfNothing hnone hmark.1 hmark.2 hs⟩
        · exact ⟨_, .reading hnone hmark.1 hmark.2 hs⟩

theorem memberText_readOperation (s : List Char) :
    MemberText s (readOperation s) := by
  obtain ⟨r, hr⟩ := exists_memberText s
  rw [readOperation_of_memberText hr]
  exact hr

/-! ## Lines -/

theorem identifier_of_cutAt {line : String} {id body : List Char}
    (h : CutAt '.' line.toList id body) :
    identifier line = String.ofList (trim id) := by
  rw [identifier, h.takeWhile]

theorem identifier_of_not_mem {line : String} (h : '.' ∉ line.toList) :
    identifier line = String.ofList (trim line.toList) := by
  rw [identifier, takeWhile_of_not_mem h]

theorem readDeviceLine_of_deviceLine {line : String}
    {r : Except Failure Command} (h : DeviceLine line.toList r) :
    readDeviceLine line = r := by
  rw [readDeviceLine]
  cases h with
  | blank hdot hblank =>
      simp only [identifier_of_not_mem hdot, isEmpty_ofList, isEmpty_trim,
        if_pos hblank]
  | description hdot hblank =>
      simp only [identifier_of_not_mem hdot, isEmpty_ofList, isEmpty_trim,
        if_neg hblank, dropWhile_of_not_mem hdot]
  | noDevice hcut hid =>
      simp only [identifier_of_cutAt hcut, isEmpty_ofList,
        isEmpty_trim, if_pos hid]
  | operation hcut hid hbody | noMember hcut hid hbody
  | refused hcut hid hbody =>
      simp only [identifier_of_cutAt hcut, isEmpty_ofList,
        isEmpty_trim, if_neg hid, hcut.dropWhile,
        readOperation_of_memberText hbody]
      rfl

theorem exists_deviceLine (line : List Char) : ∃ r, DeviceLine line r := by
  by_cases hdot : '.' ∈ line
  · obtain ⟨id, body, hcut⟩ := exists_cutAt hdot
    by_cases hid : Blank id
    · exact ⟨_, .noDevice hcut hid⟩
    · cases hr : readOperation body with
      | error failure =>
          exact ⟨_, .refused hcut hid (hr ▸ memberText_readOperation body)⟩
      | ok op =>
          cases op with
          | none =>
              exact ⟨_, .noMember hcut hid (hr ▸ memberText_readOperation body)⟩
          | some op =>
              exact ⟨_,
                .operation hcut hid (hr ▸ memberText_readOperation body)⟩
  · by_cases hblank : Blank line
    · exact ⟨_, .blank hdot hblank⟩
    · exact ⟨_, .description hdot hblank⟩

theorem deviceLine_readDeviceLine (line : String) :
    DeviceLine line.toList (readDeviceLine line) := by
  obtain ⟨r, hr⟩ := exists_deviceLine line.toList
  rw [readDeviceLine_of_deviceLine hr]
  exact hr

/-- A line is read exactly as the grammar says: it has one meaning under the
rules, and that is the one it is given. -/
theorem readDeviceLine_eq_iff (line : String) (r : Except Failure Command) :
    readDeviceLine line = r ↔ DeviceLine line.toList r := by
  constructor
  · rintro rfl
    exact deviceLine_readDeviceLine line
  · exact readDeviceLine_of_deviceLine

end DeviceShell.Command
