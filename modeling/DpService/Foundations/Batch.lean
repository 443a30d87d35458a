import Mathlib.Logic.Function.Basic
import Mathlib.Data.List.Nodup

/-!
# Batches

A batch is worked on in two kinds of memory: an array of fixed capacity that
a loop fills from its start, and a store in which every job of the batch
changes the one cell that is its own.
-/

namespace DpService.Foundations

/-! ## Arrays of fixed capacity -/

structure BoundedArray (capacity : Nat) (α : Type) where
  items : List α
  fits : items.length ≤ capacity

namespace BoundedArray

variable {capacity : Nat} {α : Type}

def empty : BoundedArray capacity α :=
  ⟨[], Nat.zero_le capacity⟩

/-- A write behind the items stored so far, which fails past the end. -/
def push (array : BoundedArray capacity α) (item : α) : Option (BoundedArray capacity α) :=
  if room : array.items.length < capacity then
    some
      ⟨array.items ++ [item], by
        rw [List.length_append, List.length_singleton]
        omega⟩
  else none

def pushAll (array : BoundedArray capacity α) : List α → Option (BoundedArray capacity α)
  | [] => some array
  | item :: items => (array.push item).bind fun next => next.pushAll items

def store (capacity : Nat) (items : List α) : Option (BoundedArray capacity α) :=
  (empty : BoundedArray capacity α).pushAll items

theorem items_of_pushAll {array filled : BoundedArray capacity α} {items : List α}
    (stored : array.pushAll items = some filled) :
    filled.items = array.items ++ items := by
  induction items generalizing array with
  | nil =>
    rw [pushAll, Option.some_inj] at stored
    rw [stored, List.append_nil]
  | cons item items ih =>
    rw [pushAll, Option.bind_eq_some_iff] at stored
    obtain ⟨next, pushed, rest⟩ := stored
    unfold push at pushed
    split at pushed
    · cases pushed
      rw [ih rest, List.append_assoc]
      rfl
    cases pushed

theorem pushAll_isSome_iff (array : BoundedArray capacity α) (items : List α) :
    (array.pushAll items).isSome ↔ array.items.length + items.length ≤ capacity := by
  induction items generalizing array with
  | nil => simpa [pushAll] using array.fits
  | cons item items ih =>
    rw [pushAll, List.length_cons]
    unfold push
    split
    · rw [Option.bind_some, ih, List.length_append, List.length_singleton]
      omega
    · rw [Option.bind_none]
      simp only [Option.isSome_none, Bool.false_eq_true, false_iff]
      omega

theorem items_of_store {items : List α} {filled : BoundedArray capacity α}
    (stored : store capacity items = some filled) :
    filled.items = items :=
  items_of_pushAll stored

theorem store_isSome_iff (items : List α) :
    (store capacity items).isSome ↔ items.length ≤ capacity := by
  rw [store, pushAll_isSome_iff]
  simp [empty]

theorem store_of_le {items : List α} (fits : items.length ≤ capacity) :
    store capacity items = some ⟨items, fits⟩ := by
  have stored := (store_isSome_iff items).mpr fits
  obtain ⟨filled, held⟩ := Option.isSome_iff_exists.mp stored
  rw [held, Option.some_inj]
  have contents := items_of_store held
  cases filled
  cases contents
  rfl

end BoundedArray

section Cells

variable {ι β α : Type} [DecidableEq ι]

/-- One job after the other changes the cell at its key. -/
def updateCells (key : β → ι) (change : β → α → α) : List β → (ι → α) → ι → α
  | [], cells => cells
  | job :: jobs, cells =>
    updateCells key change jobs (Function.update cells (key job) (change job (cells (key job))))

variable (key : β → ι) (change : β → α → α)

theorem updateCells_of_notMem {jobs : List β} {cells : ι → α} {index : ι}
    (others : index ∉ jobs.map key) :
    updateCells key change jobs cells index = cells index := by
  induction jobs generalizing cells with
  | nil => rfl
  | cons job jobs ih =>
    rw [List.map_cons, List.mem_cons, not_or] at others
    rw [updateCells, ih others.2, Function.update_of_ne others.1]

theorem updateCells_of_mem {jobs : List β} {cells : ι → α} {job : β}
    (distinct : (jobs.map key).Nodup) (member : job ∈ jobs) :
    updateCells key change jobs cells (key job) =
      change job (cells (key job)) := by
  induction jobs generalizing cells with
  | nil => cases member
  | cons first jobs ih =>
    rw [List.map_cons, List.nodup_cons] at distinct
    rw [updateCells]
    rcases List.mem_cons.mp member with same | later
    · subst same
      rw [updateCells_of_notMem key change distinct.1, Function.update_self]
    have apart : key job ≠ key first := by
      intro same
      exact distinct.1 (same ▸ List.mem_map_of_mem later)
    rw [ih distinct.2 later, Function.update_of_ne apart]

end Cells

end DpService.Foundations
