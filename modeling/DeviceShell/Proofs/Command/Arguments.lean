import DeviceShell.Proofs.Command.DeviceLines
import DeviceShell.Proofs.Command.Keywords

/-!
# The arguments of a call

The text of the arguments is cut at every comma, a comma between quotes
included, and what is left of a piece without its blanks is a token; an empty
one is skipped. All tokens have to be literals. If they are, the call has
these arguments and no others, in their order; if not, the line has no
meaning, and the first token that is no literal is to blame, whatever stands
behind it (`readArguments_cases`).

A line goes wrong in no other way. `exists_callLine_of_error` leads from any
failure to the call that it comes from.
-/

namespace DeviceShell

namespace Command

open Text

/-- The line is a call on a device, with the three parts as they stand: no
keyword takes it, its member text has no free equals sign, but a dot or a
parenthesis, and neither the device nor the method is left out. -/
inductive CallLine (line : String) :
    List Char → List Char → List Char → Prop where
  | intro {id body name text} (hload : ∀ rest, wordsOf line ≠ "load" :: rest)
      (horder : ∀ (order : Lifecycle) target,
        wordsOf line ≠ [order.word, target])
      (hcut : CutAt '.' line.toList id body) (hid : ¬ Blank id)
        (hfree : NoFreeEquals body)
      (hmark : '.' ∈ body ∨ '(' ∈ body) (hparts : CallParts body name text)
      (hname : ¬ Blank name) : CallLine line id name text

/-- The tokens of the arguments of a call. -/
def tokensOf (text : List Char) : List String :=
  (argumentTokens text).map String.ofList

/-- The token is read as a literal. -/
def IsLiteral (token : String) : Prop :=
  ∃ literal, Literal.read token = .ok literal

/-- The first token that is no literal is this one, at the given place. -/
structure FirstAmbiguous (tokens : List String) (j : Nat)
    (token : String) : Prop where
  place : tokens[j]? = some token
  ambiguous : ¬ IsLiteral token
  before : ∀ i t, i < j → tokens[i]? = some t → IsLiteral t

/-! ## Reading tokens in order -/

theorem isLiteral_ofList_iff {t : List Char} :
    IsLiteral (String.ofList t) ↔ (Literal.ofChars? t).isSome := by
  simp only [IsLiteral, Literal.read_eq_ok_iff, String.toList_ofList,
    Option.isSome_iff_exists]

theorem isLiteral_of_map_read {tokens : List String} {args : List Literal}
    (h : tokens.map Literal.read = args.map .ok) :
    ∀ t ∈ tokens, IsLiteral t := by
  intro t ht
  have hread : Literal.read t ∈ args.map .ok := h ▸ List.mem_map_of_mem ht
  obtain ⟨literal, -, hliteral⟩ := List.mem_map.mp hread
  exact ⟨literal, hliteral.symm⟩

theorem map_read_of_literals {ts : List (List Char)} {args : List Literal}
    (h : ts.map Literal.ofChars? = args.map some) :
    (ts.map String.ofList).map Literal.read = args.map .ok := by
  induction ts generalizing args with
  | nil =>
      cases args with
      | nil => rfl
      | cons a args => cases h
  | cons t ts ih =>
      cases args with
      | nil => cases h
      | cons a args =>
          rw [List.map_cons, List.map_cons, List.cons.injEq] at h
          rw [List.map_cons, List.map_cons, List.map_cons,
            read_of_ofChars?_eq_some h.1, ih h.2]

theorem firstAmbiguous_of_split {good rest : List (List Char)} {bad : List Char}
    (hgood : ∀ t ∈ good, (Literal.ofChars? t).isSome)
    (hbad : Literal.ofChars? bad = none) :
    FirstAmbiguous ((good ++ bad :: rest).map String.ofList) good.length
      (String.ofList bad) where
  place := by simp
  ambiguous := by
    rw [isLiteral_ofList_iff, hbad]
    simp
  before i t hi ht := by
    rw [List.getElem?_map, List.getElem?_append_left hi,
      Option.map_eq_some_iff] at ht
    obtain ⟨u, hu, rfl⟩ := ht
    exact isLiteral_ofList_iff.mpr (hgood u (List.mem_of_getElem? hu))

/-- The arguments are read as what their tokens spell, or not at all. -/
theorem readArguments_cases (text : List Char) :
    (∃ args, (tokensOf text).map Literal.read = args.map .ok ∧
      readArguments text = .ok args) ∨
      ∃ j token, FirstAmbiguous (tokensOf text) j token ∧
        readArguments text = .error (.ambiguousParameter token) := by
  have htext := argumentText_readArguments text
  generalize readArguments text = result at htext
  cases htext with
  | literals hall => exact .inl ⟨_, map_read_of_literals hall, rfl⟩
  | @ambiguous good bad rest heq hgood hbad =>
      refine .inr ⟨good.length, String.ofList bad, ?_, rfl⟩
      rw [tokensOf, heq]
      exact firstAmbiguous_of_split hgood hbad

theorem FirstAmbiguous.not_forall {tokens : List String} {j : Nat}
    {token : String} (h : FirstAmbiguous tokens j token) :
    ¬ ∀ t ∈ tokens, IsLiteral t :=
  fun hall => h.ambiguous (hall token (List.mem_of_getElem? h.place))

/-! ## Lines that are calls -/

theorem ofWords?_eq_none_iff {ws : List String} :
    ofWords? ws = none ↔ (∀ rest, ws ≠ "load" :: rest) ∧
      ∀ (order : Lifecycle) target, ws ≠ [order.word, target] := by
  constructor
  · intro hnone
    constructor
    · rintro rest rfl
      cases hnone
    · rintro order target rfl
      cases order <;> cases hnone
  · rintro ⟨hload, horder⟩
    rw [ofWords?.eq_def]
    split
    · rfl
    · next keyword rest =>
        rw [if_neg (fun heq => hload rest (by rw [heq]))]
        split
        · next order id hword =>
            rw [Lifecycle.of_ofWord? hword] at horder
            exact absurd rfl (horder order id)
        · rfl

/-- A call that is closed at the end of its line, and no equals sign in it. -/
theorem callLine_of_closed {line : String} {id name text : List Char}
    (hline : line.toList = id ++ '.' :: (name ++ '(' :: (text ++ [')'])))
    (hwords : ofWords? (wordsOf line) = none) (hdot : '.' ∉ id)
    (hopen : '(' ∉ name) (hequals : '=' ∉ line.toList) (hid : ¬ Blank id)
    (hname : ¬ Blank name) : CallLine line id name text := by
  obtain ⟨hload, horder⟩ := ofWords?_eq_none_iff.mp hwords
  have hfree : '=' ∉ name ++ '(' :: (text ++ [')']) := by
    rw [hline] at hequals
    exact fun hmem =>
      hequals (List.mem_append_right id (List.mem_cons_of_mem _ hmem))
  have hmark : '(' ∈ name ++ '(' :: (text ++ [')']) :=
    List.mem_append_right name List.mem_cons_self
  exact .intro hload horder ⟨hline, hdot⟩ hid
    (noFreeEquals_iff.mpr (shielded_of_not_mem 0 hfree)) (.inr hmark)
    (.closed ⟨rfl, hopen⟩ List.not_mem_nil) hname

theorem CallLine.dot_mem {line : String} {id name text : List Char}
    (h : CallLine line id name text) : '.' ∈ line.toList := by
  cases h with
  | intro _ _ hcut =>
      rw [hcut.1]
      exact List.mem_append_right _ List.mem_cons_self

theorem classify_of_callLine {line : String} {id name text : List Char}
    (h : CallLine line id name text) :
    classify line = (readArguments text).map fun args =>
      .device (String.ofList (trim id))
          (.call (String.ofList (trim name)) args) := by
  have hbuiltin := not_mem_builtInWords_of_dot h.dot_mem
  obtain ⟨hload, horder, hcut, hid, hfree, hmark, hparts, hname⟩ := h
  have hwords := ofWords?_eq_none_iff.mpr ⟨hload, horder⟩
  rw [wordsOf] at hwords
  rw [classify, builtin?_eq_none hbuiltin, hwords]
  refine readDeviceLine_of_deviceLine ?_
  have hbody :=
    MemberText.call hfree hmark hparts hname (argumentText_readArguments text)
  cases hargs : readArguments text with
  | error failure =>
      rw [hargs] at hbody
      exact .refused hcut hid hbody
  | ok args =>
      rw [hargs] at hbody
      exact .operation hcut hid hbody

/-- What cannot be read is a call with arguments that cannot be read. -/
theorem exists_callLine_of_error {line : String} {failure : Failure}
    (h : classify line = .error failure) :
    ∃ id name text, CallLine line id name text ∧
      readArguments text = .error failure := by
  have hline := deviceLine_readDeviceLine line
  rw [← AboutDevice.classify_eq (.inr ⟨failure, h⟩), h] at hline
  have hwords : ofWords? (wordsOf line) = none := by
    cases hwords : ofWords? (wordsOf line) with
    | none => rfl
    | some c =>
        rw [classify_of_ofWords? hwords] at h
        cases h
  obtain ⟨hload, horder⟩ := ofWords?_eq_none_iff.mp hwords
  cases hline with
  | refused hcut hid hbody =>
      generalize hresult :
        (Except.error failure : Except Failure (Option Operation)) = r at hbody
      cases hbody with
      | assignment | assignmentToNothing | reading | readingOfNothing
      | callOfNothing =>
          cases hresult
      | call hfree hmark hparts hname htext =>
          refine ⟨_, _, _,
            .intro hload horder hcut hid hfree hmark hparts hname, ?_⟩
          obtain rfl := readArguments_of_argumentText htext
          cases hread : readArguments _ with
          | ok =>
              rw [hread] at hresult
              cases hresult
          | error =>
              rw [hread] at hresult
              cases hresult
              rfl

/-- A line that cannot be read has an argument that is no literal. -/
theorem ambiguous_of_classify {line : String} {failure : Failure}
    (h : classify line = .error failure) :
    ∃ token, failure = .ambiguousParameter token := by
  obtain ⟨id, name, text, -, hread⟩ := exists_callLine_of_error h
  rcases readArguments_cases text with ⟨args, -, hok⟩ | ⟨j, token, -, herror⟩
  · rw [hok] at hread
    cases hread
  · rw [herror] at hread
    cases hread
    exact ⟨token, rfl⟩

end Command

end DeviceShell
