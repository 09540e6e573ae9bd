import DeviceShell.Proofs.Membership
import DeviceShell.Proofs.Session.Agreement
import DeviceShell.Proofs.Session.Listings
import DeviceShell.Proofs.Text.Order
import Mathlib.Data.List.Induction

/-!
# What the registry holds

The registry is a table in the order of its keys, so most of what it says about
itself holds of every registry. What has to be shown of the changes that have
led to it is one thing, that an id means the instance that entered under it last
unless the id has left since (`get?_ofChanges`). The rest is that its four
observers look at the same table.

What the devices say about themselves changes without the registry. So what is
said of the table is said for every `describe`, and then of every session that
has the registry: there the lines end in what the devices say at the moment.
-/

namespace DeviceShell.Registry

/-- The registry after a change. -/
def change (r : Registry) : Change → Registry
  | .enter device => r.insert device
  | .leave id => (r.remove id).2

/-- The registry after a list of changes. At first nothing is registered. -/
def ofChanges (changes : List Change) : Registry :=
  changes.foldl change {}

theorem ofChanges_concat (changes : List Change) (c : Change) :
    ofChanges (changes ++ [c]) = (ofChanges changes).change c := by
  rw [ofChanges, List.foldl_append]
  rfl

theorem get?_change_eq_some_iff {r : Registry} {c : Change} {id : String}
    {h : Handle} :
    (r.change c).get? id = some h ↔
      r.get? id = some h ∧ c.id ≠ id ∨ c = .enter h ∧ h.id = id := by
  cases c with
  | enter g =>
      rw [change, get?_insert, Change.id, Change.enter.injEq]
      split
      · next hid =>
          constructor
          · intro heq
            obtain rfl := Option.some.inj heq
            exact .inr ⟨rfl, hid⟩
          · rintro (⟨-, hne⟩ | ⟨rfl, -⟩)
            · exact absurd hid hne
            · rfl
      · next hid =>
          constructor
          · exact fun hget => .inl ⟨hget, hid⟩
          · rintro (⟨hget, -⟩ | ⟨rfl, hid'⟩)
            · exact hget
            · exact absurd hid' hid
  | leave gone =>
      rw [change, remove_eq, get?_erase, Change.id]
      by_cases hid : gone = id <;> simp [hid]

/-- An id means the instance that stays under it. -/
theorem get?_ofChanges {changes : List Change} {id : String} {h : Handle} :
    (ofChanges changes).get? id = some h ↔ Stays changes h ∧ h.id = id := by
  induction changes using List.reverseRecOn with
  | nil =>
      have hget : (ofChanges []).get? id = none := Std.ExtTreeMap.getElem?_empty
      rw [hget]
      exact iff_of_false (Option.some_ne_none h).symm fun hstays =>
        not_stays_nil h hstays.1
  | append_singleton changes c ih =>
      rw [ofChanges_concat, get?_change_eq_some_iff, ih, stays_concat,
        or_and_right]
      refine or_congr_left ⟨?_, ?_⟩
      · rintro ⟨⟨hstays, rfl⟩, hne⟩
        exact ⟨⟨hstays, hne⟩, rfl⟩
      · rintro ⟨⟨hstays, hne⟩, rfl⟩
        exact ⟨⟨hstays, rfl⟩, hne⟩

/-! ## What can be found out -/

/-- What can be found out about a registry, told from the changes that
have led to it. -/
structure Registers (r : Registry) (changes : List Change) : Prop where
  found : ∀ id h, r.get? id = some h ↔ Stays changes h ∧ h.id = id
  present : ∀ id, r.contains id = true ↔ ∃ h, Stays changes h ∧ h.id = id
  returned : ∀ id, (r.remove id).1 = r.get? id
  removed : ∀ id, (r.remove id).2.get? id = none
  untouched : ∀ id other, other ≠ id → (r.remove id).2.get? other = r.get? other
  ordered : r.ids.Pairwise fun a b => Text.utf8 a < Text.utf8 b
  listed : ∀ id, id ∈ r.ids ↔ r.contains id = true
  size : r.size = r.ids.length
  shown : ∀ describe,
    Text.Tabulates "(no devices)" "Devices (" (r.ShowsDevice describe) r.ids
    (r.listing describe)
  told : ∀ (s : Session) (loader : Loader) (line : String), s.registry = r →
    (∀ h, Stays changes h → s.Holds h) → Text.trimmed line = "devices" →
    ∃ lines,
      Text.Tabulates "(no devices)" "Devices (" s.ShowsDevice r.ids lines ∧
      s.Lists loader line lines

/-- Whatever instances have come and whatever ids have gone, in whatever
order, the registry holds under each id the one that came last, unless
the id has gone since. -/
theorem registers_ofChanges (changes : List Change) :
    (ofChanges changes).Registers changes := by
  refine ⟨fun _ _ => get?_ofChanges, ?present, ?returned, ?removed,
    ?untouched, ?ordered, fun _ => mem_ids_iff, (length_ids _).symm,
    tabulates_listing _, ?told⟩
  case present =>
    intro id
    rw [contains_eq_isSome, Option.isSome_iff_exists]
    simp only [get?_ofChanges]
  case returned => exact fun id => by rw [remove_eq]
  case removed => exact fun id => by rw [remove_eq, get?_erase, if_pos rfl]
  case untouched =>
    intro id other hother
    rw [remove_eq, get?_erase, if_neg hother.symm]
  case ordered => exact Text.pairwise_utf8_keys _
  case told =>
    intro s loader line hregistry hheld hline
    refine ⟨s.deviceListing, ?_, Session.lists_deviceListing loader hline⟩
    rw [← hregistry]
    refine Session.tabulates_deviceListing fun id h hget => hheld h ?_
    rw [hregistry] at hget
    exact (get?_ofChanges.mp hget).1

/-- How the session to start with came by its registry. -/
def demoChanges : List Change :=
  [.enter ⟨"lamp", 0⟩, .enter ⟨"thermostat", 1⟩, .enter ⟨"notes", 2⟩]

/-- A session whose registry has a history and whose store holds what is left of
it. The lines come in the order of the ids. -/
theorem registers_ofChanges_demo :
    Session.demo.registry = ofChanges demoChanges ∧
    (∀ h, Stays demoChanges h → Session.demo.Holds h) ∧
    ∃ lines, Text.Tabulates "(no devices)" "Devices ("
        Session.demo.ShowsDevice ["lamp", "notes", "thermostat"] lines ∧
      Session.demo.Lists (.standard fun _ => none) " devices " lines := by
  have hregistry : Session.demo.registry = ofChanges demoChanges := rfl
  have hheld : ∀ h, Stays demoChanges h → Session.demo.Holds h := by
    intro h hstays
    have hget := get?_ofChanges.mpr ⟨hstays, rfl⟩
    rw [← hregistry] at hget
    exact (Session.initial_demo.sound.registered hget).2
  have hids : (ofChanges demoChanges).ids =
      ["lamp", "notes", "thermostat"] := by decide +kernel
  have htold := (registers_ofChanges demoChanges).told Session.demo
    (.standard fun _ => none) " devices " hregistry hheld (by decide +kernel)
  rw [hids] at htold
  exact ⟨hregistry, hheld, htold⟩

end DeviceShell.Registry
