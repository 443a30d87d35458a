import Mathlib.Data.List.InsertIdx
import Mathlib.Data.List.Nodup
import DpService.Foundations.Table

/-!
# A strictly ordered list in an array

An array holds the elements of a list and a filler behind them.  An element is
inserted by moving the greater ones up, and deleted by moving them down.  The
array is determined by the set of its elements if they are kept in order.
-/

namespace DpService.Foundations

universe u

variable {Element : Type u}

def slotsOf (filler : Element) (elements : List Element) : Nat → Element :=
  fun place => elements.getD place filler

theorem slotsOf_eq_getD (filler : Element) (elements : List Element) (place : Nat) :
    slotsOf filler elements place = elements[place]?.getD filler :=
  List.getD_eq_getElem?_getD

theorem slotsOf_behind (filler : Element) {elements : List Element} {place : Nat}
    (behind : elements.length ≤ place) :
    slotsOf filler elements place = filler := by
  rw [slotsOf_eq_getD, List.getElem?_eq_none behind]
  rfl

/-! ## Moving elements -/

/-- `slots[i] = slots[i - 1]` for all places from `start + steps` down to
`start + 1`. -/
def shiftUp (slots : Nat → Element) (start : Nat) : Nat → Nat → Element
  | 0 => slots
  | steps + 1 => shiftUp (assign slots (start + steps + 1) (slots (start + steps))) start steps

/-- `slots[i] = slots[i + 1]` for all places from `start` up to
`start + steps - 1`. -/
def shiftDown (slots : Nat → Element) (start : Nat) : Nat → Nat → Element
  | 0 => slots
  | steps + 1 => shiftDown (assign slots start (slots (start + 1))) (start + 1) steps

theorem shiftUp_apply (slots : Nat → Element) (start steps place : Nat) :
    shiftUp slots start steps place =
      if start < place ∧ place ≤ start + steps then slots (place - 1)
      else slots place := by
  induction steps generalizing slots with
  | zero => rw [shiftUp, if_neg (by omega)]
  | succ steps ih =>
    rw [shiftUp, ih]
    rcases Nat.lt_trichotomy place (start + steps + 1) with
      below | rfl | above
    · by_cases moved : start < place
      · rw [if_pos ⟨moved, by omega⟩, if_pos ⟨moved, by omega⟩, assign_of_ne _ _ (by omega)]
      · rw [if_neg (fun both => moved both.1),
          if_neg (fun both => moved both.1), assign_of_ne _ _ (by omega)]
    · rw [if_neg (by omega), if_pos ⟨by omega, by omega⟩, assign_self]
      rfl
    · rw [if_neg (by omega), if_neg (by omega), assign_of_ne _ _ (by omega)]

theorem shiftDown_apply (slots : Nat → Element) (start steps place : Nat) :
    shiftDown slots start steps place =
      if start ≤ place ∧ place < start + steps then slots (place + 1)
      else slots place := by
  induction steps generalizing slots start with
  | zero => rw [shiftDown, if_neg (by omega)]
  | succ steps ih =>
    rw [shiftDown, ih]
    rcases Nat.lt_trichotomy place start with below | rfl | above
    · rw [if_neg (by omega), if_neg (by omega), assign_of_ne _ _ (by omega)]
    · rw [if_neg (by omega), if_pos ⟨le_rfl, by omega⟩, assign_self]
    · by_cases moved : place < start + (steps + 1)
      · rw [if_pos ⟨by omega, by omega⟩, if_pos ⟨by omega, moved⟩, assign_of_ne _ _ (by omega)]
      · rw [if_neg (by omega), if_neg (by omega), assign_of_ne _ _ (by omega)]

section Elements

variable {filler : Element} {elements : List Element} {place : Nat}

theorem slotsOf_insertIdx (inside : place ≤ elements.length) (new : Element) :
    assign (shiftUp (slotsOf filler elements) place (elements.length - place)) place new =
      slotsOf filler (elements.insertIdx place new) := by
  funext other
  rw [slotsOf_eq_getD, List.getElem?_insertIdx]
  rcases Nat.lt_trichotomy other place with below | rfl | above
  · rw [assign_of_ne _ _ (by omega), shiftUp_apply, if_neg (by omega),
      if_pos below, slotsOf_eq_getD]
  · rw [assign_self, if_neg (by omega), if_pos rfl, if_pos inside]
    rfl
  rw [assign_of_ne _ _ (by omega), shiftUp_apply]
  by_cases held : other ≤ elements.length
  · rw [if_pos ⟨above, by omega⟩, if_neg (by omega), if_neg (by omega), slotsOf_eq_getD]
  · rw [if_neg (by omega), if_neg (by omega), if_neg (by omega),
      slotsOf_behind filler (by omega), List.getElem?_eq_none (by omega)]
    rfl

theorem slotsOf_eraseIdx (inside : place < elements.length) :
    assign (shiftDown (slotsOf filler elements) place (elements.length - 1 - place))
        (elements.length - 1) filler =
      slotsOf filler (elements.eraseIdx place) := by
  funext other
  rw [slotsOf_eq_getD, List.getElem?_eraseIdx]
  by_cases last : other = elements.length - 1
  · rw [last, assign_self, if_neg (by omega), List.getElem?_eq_none (by omega)]
    rfl
  rw [assign_of_ne _ _ last, shiftDown_apply]
  by_cases below : other < place
  · rw [if_neg (by omega), if_pos below, slotsOf_eq_getD]
  by_cases moved : other < elements.length - 1
  · rw [if_pos ⟨by omega, by omega⟩, if_neg below, slotsOf_eq_getD]
  · rw [if_neg (by omega), if_neg below,
      slotsOf_behind filler (by omega), List.getElem?_eq_none (by omega)]
    rfl

end Elements

/-- The first of some places whose element has a property, or the place behind
them. -/
def firstPlace (holds : Element → Bool) (slots : Nat → Element) : Nat → Nat → Nat
  | 0, place => place
  | steps + 1, place =>
    if holds (slots place) then place
    else firstPlace holds slots steps (place + 1)

private theorem firstPlace_append (holds : Element → Bool) (filler : Element)
    (passed elements : List Element) :
    firstPlace holds (slotsOf filler (passed ++ elements)) elements.length passed.length =
      passed.length + elements.findIdx holds := by
  induction elements generalizing passed with
  | nil => simp [firstPlace]
  | cons element elements ih =>
    have here : slotsOf filler (passed ++ element :: elements) passed.length =
          element := by
      simp [slotsOf]
    rw [List.length_cons, firstPlace, here, List.findIdx_cons]
    cases holds element with
    | true => simp
    | false => ?_
    have later := ih (passed ++ [element])
    simp only [List.append_assoc, List.singleton_append,
      List.length_append, List.length_singleton] at later
    simp only [Bool.false_eq_true, if_false, cond_false, later]
    omega

theorem firstPlace_slotsOf (holds : Element → Bool) (filler : Element) (elements : List Element) :
    firstPlace holds (slotsOf filler elements) elements.length 0 = elements.findIdx holds := by
  have general := firstPlace_append holds filler [] elements
  simpa using general

/-! ## Order -/

section Order

variable (less : Element → Element → Prop) {elements : List Element}

theorem pairwise_insertIdx_findIdx (transitive : ∀ {a b c}, less a b → less b c → less a c)
    (total : ∀ a b, less a b ∨ a = b ∨ less b a) {new : Element} {greater : Element → Bool}
    (greater_iff : ∀ element, greater element = true ↔ less new element)
    (ordered : elements.Pairwise less) (absent : new ∉ elements) :
    (elements.insertIdx (elements.findIdx greater) new).Pairwise less := by
  induction elements with
  | nil => simp
  | cons element elements ih =>
    obtain ⟨first, rest⟩ := List.pairwise_cons.mp ordered
    obtain ⟨different, notLater⟩ := List.mem_cons.not.trans not_or |>.mp absent
    rw [List.findIdx_cons]
    cases decision : greater element with
    | true =>
      have before := (greater_iff element).mp decision
      refine List.pairwise_cons.mpr ⟨?_, ordered⟩
      intro other listed
      rcases List.mem_cons.mp listed with rfl | later
      · exact before
      · exact transitive before (first other later)
    | false => ?_
    have behind : less element new := by
      rcases total new element with before | same | behind
      · exact absurd ((greater_iff element).mpr before) (by simp [decision])
      · exact absurd same different
      · exact behind
    rw [cond_false, List.insertIdx_succ_cons]
    refine List.pairwise_cons.mpr ⟨?_, ih rest notLater⟩
    intro other listed
    rcases List.eq_or_mem_of_mem_insertIdx listed with rfl | later
    · exact behind
    · exact first other later

theorem eq_of_pairwise_of_mem_iff (irreflexive : ∀ a, ¬less a a)
    (transitive : ∀ {a b c}, less a b → less b c → less a c) {others : List Element}
    (ordered : elements.Pairwise less) (othersOrdered : others.Pairwise less)
    (same : ∀ element, element ∈ elements ↔ element ∈ others) :
    elements = others := by
  have distinct : ∀ {list : List Element}, list.Pairwise less → list.Nodup :=
    fun pairwise => pairwise.imp fun {a b} before equal => by
      subst equal
      exact irreflexive _ before
  apply List.Perm.eq_of_pairwise _ ordered othersOrdered
  · exact (List.perm_ext_iff_of_nodup (distinct ordered) (distinct othersOrdered)).mpr same
  · intro a b _ _ before after
    exact absurd (transitive before after) (irreflexive a)

end Order

end DpService.Foundations
