import DeviceShell.Proofs.Command.NormalForm

/-!
# Lines about a device

Built-in words and orders are recognised first, and they are never about what a
device has: so an operation on a device, and every line that cannot be read at
all, comes from the reader of device lines.
-/

namespace DeviceShell.Command

/-- The line asks something of a device: it is an operation on one, or it is a
call with an argument that cannot be read. -/
def AboutDevice (line : String) : Prop :=
  (∃ id op, classify line = .ok (.device id op)) ∨
    ∃ failure, classify line = .error failure

theorem AboutDevice.classify_eq {line : String} (h : AboutDevice line) :
    classify line = readDeviceLine line := by
  have hnot : ∀ c, classify line = .ok c → ∃ id op, c = .device id op := by
    intro c hc
    rcases h with ⟨id, op, h⟩ | ⟨failure, h⟩
    · rw [h] at hc
      cases hc
      exact ⟨id, op, rfl⟩
    · rw [h] at hc
      cases hc
  rw [classify] at hnot ⊢
  split
  · next c hbuiltin =>
      rw [hbuiltin] at hnot
      obtain ⟨id, op, rfl⟩ := hnot c rfl
      exact absurd rfl ((builtin?_ne_device hbuiltin).2 id op)
  · next hbuiltin =>
      rw [hbuiltin] at hnot
      split
      · next c hwords =>
          simp only [hwords] at hnot
          obtain ⟨id, op, rfl⟩ := hnot c rfl
          have hne :=
            (wellFormed_of_ofWords?
              (fun _ hw => isWord_of_mem_words hw) hwords).2
          exact absurd rfl (hne id op)
      · rfl

/-- An operation is on the device whose id the line begins with. -/
theorem identifier_of_classify {line id : String} {op : Operation}
    (h : classify line = .ok (.device id op)) : id = identifier line := by
  have hread := AboutDevice.classify_eq (.inl ⟨id, op, h⟩)
  rw [h] at hread
  rcases of_readDeviceLine hread.symm with hnone | ⟨id', op', heq, hid, -⟩
  · cases hnone
  · cases heq
    exact hid

/-- Only a description is asked for without a dot. -/
theorem dot_mem_of_classify {line id : String} {op : Operation}
    (h : classify line = .ok (.device id op)) (hop : op ≠ .describe) :
    '.' ∈ line.toList := by
  have hread := AboutDevice.classify_eq (.inl ⟨id, op, h⟩)
  have hline := deviceLine_readDeviceLine line
  rw [← hread, h] at hline
  cases hline with
  | description => exact absurd rfl hop
  | operation hcut =>
      rw [hcut.1]
      exact List.mem_append_right _ List.mem_cons_self

end DeviceShell.Command
