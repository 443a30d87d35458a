import Mathlib.Data.Fintype.Card
import Mathlib.Data.Fintype.EquivFin
import Mathlib.Data.List.FinRange
import Mathlib.Data.Set.Card

/-!
# Tables of references

A table `Key → Option Value` holds a reference under some of its keys.  It is
one-to-one when no reference is held under two keys.  A slot table is such a
table over a fixed number of slots, searched from the first slot on.
-/

namespace DpService.Foundations

universe u v w

section Assignment

variable {Key : Type u} {Value : Type v} [DecidableEq Key]

/-- A table with one entry replaced.  Unlike `Function.update` it evaluates
without comparing keys that were found to be equal once more. -/
def assign (table : Key → Value) (key : Key) (value : Value) : Key → Value :=
  fun other => if other = key then value else table other

theorem assign_eq_update (table : Key → Value) (key : Key) (value : Value) :
    assign table key value = Function.update table key value :=
  funext fun other => (Function.update_apply table key value other).symm

@[simp]
theorem assign_self (table : Key → Value) (key : Key) (value : Value) :
    assign table key value key = value :=
  if_pos rfl

theorem assign_of_ne (table : Key → Value) {key other : Key} (value : Value)
    (different : other ≠ key) :
    assign table key value other = table other :=
  if_neg different

@[simp]
theorem assign_assign (table : Key → Value) (key : Key) (old new : Value) :
    assign (assign table key old) key new = assign table key new := by
  simp only [assign_eq_update, Function.update_idem]

theorem assign_eq_self_iff {table : Key → Value} {key : Key} {value : Value} :
    assign table key value = table ↔ table key = value := by
  rw [assign_eq_update, Function.update_eq_self_iff, eq_comm]

end Assignment

/-! ## One-to-one tables -/

section OneToOne

variable {Key : Type u} {Index : Type v} {Value : Type w}

def OneToOne (table : Key → Option Value) : Prop :=
  ∀ first second value, table first = some value → table second = some value → first = second

theorem OneToOne.update [DecidableEq Key] {table : Key → Option Value} {key : Key}
    {entry : Option Value} (distinct : OneToOne table)
    (unshared : ∀ other value, other ≠ key → table other = some value → entry ≠ some value) :
    OneToOne (Function.update table key entry) := by
  intro first second value firstHeld secondHeld
  by_cases firstSame : first = key <;> by_cases secondSame : second = key
  · rw [firstSame, secondSame]
  · subst firstSame
    rw [Function.update_self] at firstHeld
    rw [Function.update_of_ne secondSame] at secondHeld
    exact absurd firstHeld (unshared second value secondSame secondHeld)
  · subst secondSame
    rw [Function.update_self] at secondHeld
    rw [Function.update_of_ne firstSame] at firstHeld
    exact absurd secondHeld (unshared first value firstSame firstHeld)
  · rw [Function.update_of_ne firstSame] at firstHeld
    rw [Function.update_of_ne secondSame] at secondHeld
    exact distinct first second value firstHeld secondHeld

/-- Two one-to-one tables that hold the same values hold them under keys that
correspond one to one. -/
theorem exists_equiv_of_same_values {table : Key → Option Value} {other : Index → Option Value}
    (distinct : OneToOne table) (otherDistinct : OneToOne other)
    (same : ∀ value, (∃ key, table key = some value) ↔ ∃ index, other index = some value) :
    ∃ match_ : {key // (table key).isSome} ≃ {index // (other index).isSome},
      ∀ key, table key.1 = other (match_ key).1 := by
  have forward : ∀ key : {key // (table key).isSome}, ∃ index : {index // (other index).isSome},
        table key.1 = other index.1 := by
    rintro ⟨key, held⟩
    obtain ⟨value, tableKey⟩ := Option.isSome_iff_exists.mp held
    obtain ⟨index, otherIndex⟩ := (same value).mp ⟨key, tableKey⟩
    exact ⟨⟨index, by simp only [otherIndex, Option.isSome_some]⟩, tableKey.trans otherIndex.symm⟩
  choose image agrees using forward
  have injective : Function.Injective image := by
    intro first second equal
    obtain ⟨value, firstHeld⟩ := Option.isSome_iff_exists.mp first.2
    have secondHeld : table second.1 = some value := by
      rw [agrees second, ← equal, ← agrees first, firstHeld]
    exact Subtype.ext (distinct _ _ value firstHeld secondHeld)
  have surjective : Function.Surjective image := by
    intro index
    obtain ⟨value, indexHeld⟩ := Option.isSome_iff_exists.mp index.2
    obtain ⟨key, keyHeld⟩ := (same value).mpr ⟨index.1, indexHeld⟩
    refine ⟨⟨key, by simp only [keyHeld, Option.isSome_some]⟩, ?_⟩
    refine Subtype.ext (otherDistinct _ _ value ?_ indexHeld)
    rw [← agrees, keyHeld]
  exact ⟨Equiv.ofBijective image ⟨injective, surjective⟩, agrees⟩

end OneToOne

/-! ## Slot tables -/

/-- A fixed number of slots, each empty or holding a reference. -/
abbrev SlotTable (size : Nat) (Value : Type u) := Fin size → Option Value

namespace SlotTable

variable {size : Nat} {Value : Type u} {slots : SlotTable size Value}

def firstFree (slots : SlotTable size Value) : Option (Fin size) :=
  (List.finRange size).find? fun slot => (slots slot).isNone

theorem empty_of_firstFree {slot : Fin size} (found : slots.firstFree = some slot) :
    slots slot = none := by
  have isNone := List.find?_some found
  simpa using isNone

variable [DecidableEq Value]

def slotOf (slots : SlotTable size Value) (value : Value) : Option (Fin size) :=
  (List.finRange size).find? fun slot => slots slot = some value

def owners (slots : SlotTable size Value) : Finset Value :=
  ((List.finRange size).filterMap slots).toFinset

@[simp]
theorem mem_owners (value : Value) : value ∈ slots.owners ↔ ∃ slot, slots slot = some value := by
  simp [owners]

theorem held_of_slotOf {value : Value} {slot : Fin size} (found : slots.slotOf value = some slot) :
    slots slot = some value := by
  have holds := List.find?_some found
  simpa using holds

theorem exists_slotOf {value : Value} (member : value ∈ slots.owners) :
    ∃ slot, slots.slotOf value = some slot := by
  obtain ⟨slot, held⟩ := (mem_owners value).mp member
  rw [← Option.isSome_iff_exists, slotOf, List.find?_isSome]
  exact ⟨slot, List.mem_finRange slot, by simpa using held⟩

theorem mem_owners_update (slot : Fin size) (entry : Option Value) (value : Value) :
    value ∈ owners (Function.update slots slot entry) ↔
      entry = some value ∨ ∃ other, other ≠ slot ∧ slots other = some value := by
  rw [mem_owners]
  constructor
  · rintro ⟨other, held⟩
    by_cases same : other = slot
    · subst same
      rw [Function.update_self] at held
      exact Or.inl held
    · rw [Function.update_of_ne same] at held
      exact Or.inr ⟨other, same, held⟩
  · rintro (rfl | ⟨other, different, held⟩)
    · exact ⟨slot, Function.update_self ..⟩
    · exact ⟨other, by rw [Function.update_of_ne different, held]⟩

theorem owners_update_of_empty {slot : Fin size} (empty : slots slot = none) (value : Value) :
    owners (Function.update slots slot (some value)) = insert value slots.owners := by
  ext other
  rw [mem_owners_update, Finset.mem_insert, mem_owners]
  constructor
  · rintro (same | ⟨index, _, held⟩)
    · exact Or.inl (Option.some.inj same).symm
    · exact Or.inr ⟨index, held⟩
  rintro (rfl | ⟨index, held⟩)
  · exact Or.inl rfl
  refine Or.inr ⟨index, ?_, held⟩
  rintro rfl
  rw [empty] at held
  exact Option.some_ne_none _ held.symm

private theorem mem_erase_owners_iff (distinct : OneToOne slots) {slot : Fin size} {old : Value}
    (held : slots slot = some old) (value : Value) :
    value ∈ slots.owners.erase old ↔ ∃ other, other ≠ slot ∧ slots other = some value := by
  rw [Finset.mem_erase, mem_owners]
  constructor
  · rintro ⟨different, other, otherHeld⟩
    refine ⟨other, ?_, otherHeld⟩
    rintro rfl
    exact different (Option.some.inj (otherHeld.symm.trans held))
  rintro ⟨other, different, otherHeld⟩
  refine ⟨?_, other, otherHeld⟩
  rintro rfl
  exact different (distinct other slot value otherHeld held)

theorem owners_clear (distinct : OneToOne slots) {slot : Fin size} {old : Value}
    (held : slots slot = some old) :
    owners (Function.update slots slot none) = slots.owners.erase old := by
  ext value
  rw [mem_owners_update, mem_erase_owners_iff distinct held]
  simp

theorem owners_replace (distinct : OneToOne slots) {slot : Fin size} {old : Value}
    (held : slots slot = some old) (value : Value) :
    owners (Function.update slots slot (some value)) = insert value (slots.owners.erase old) := by
  ext other
  rw [mem_owners_update, Finset.mem_insert,
    mem_erase_owners_iff distinct held, Option.some_inj, eq_comm]

theorem card_owners (distinct : OneToOne slots) : slots.owners.card =
      (Finset.univ.filter fun slot => (slots slot).isSome).card := by
  symm
  refine Finset.card_bij
    (fun slot member => (slots slot).get (Finset.mem_filter.mp member).2) ?_ ?_ ?_
  · intro slot member
    exact (mem_owners _).mpr ⟨slot, (Option.some_get _).symm⟩
  · intro first firstMember second secondMember equal
    have firstHeld := (Option.some_get (Finset.mem_filter.mp firstMember).2).symm
    refine distinct first second _ firstHeld ?_
    rw [equal]
    exact (Option.some_get _).symm
  · intro value member
    obtain ⟨slot, held⟩ := (mem_owners value).mp member
    exact ⟨slot, by simp [held], by simp [held]⟩

end SlotTable

end DpService.Foundations
