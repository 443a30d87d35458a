import Mathlib.Data.Finset.Card
import Mathlib.Data.List.AList

/-!
# Finite tables and the keys that hold a value

A finite table files values under keys, and inserting under a key that is
taken replaces what was filed there.  A value can be filed under several keys.
The keys under which it is filed are its holders, and how their number changes
is what a reference count of the value has to keep up with.
-/

namespace DpService.Foundations

universe u v

abbrev FiniteTable (Key : Type u) (Value : Type v) :=
  AList fun _ : Key => Value

namespace FiniteTable

variable {Key : Type u} {Value : Type v} [DecidableEq Key]
variable (table : FiniteTable Key Value)

theorem lookup_of_mem_entries {key : Key} {value : Value} (member : ⟨key, value⟩ ∈ table.entries) :
    table.lookup key = some value :=
  AList.mem_lookup_iff.mpr member

theorem mem_entries_of_lookup {key : Key} {value : Value} (found : table.lookup key = some value) :
    ⟨key, value⟩ ∈ table.entries :=
  AList.mem_lookup_iff.mp found

theorem lookup_insert_eq (key other : Key) (value : Value) : (table.insert key value).lookup other =
      if other = key then some value else table.lookup other := by
  by_cases same : other = key
  · subst same
    rw [if_pos rfl, AList.lookup_insert]
  · rw [if_neg same, AList.lookup_insert_ne same]

theorem lookup_erase_eq (key other : Key) : (table.erase key).lookup other =
      if other = key then none else table.lookup other := by
  by_cases same : other = key
  · subst same
    rw [if_pos rfl, AList.lookup_erase]
  · rw [if_neg same, AList.lookup_erase_ne same]

theorem erase_insert_of_lookup_none {key : Key} (value : Value) (absent : table.lookup key = none) :
    (table.insert key value).erase key = table := by
  have missing : key ∉ table := AList.lookup_eq_none.mp absent
  apply AList.ext
  change List.kerase key (table.insert key value).entries = table.entries
  rw [AList.entries_insert_of_notMem missing]
  exact List.kerase_cons_eq rfl

variable [DecidableEq Value]

def holders (value : Value) : Finset Key :=
  (table.keys.filter fun key => table.lookup key = some value).toFinset

@[simp]
theorem mem_holders (value : Value) (key : Key) :
    key ∈ table.holders value ↔ table.lookup key = some value := by
  rw [holders, List.mem_toFinset, List.mem_filter, decide_eq_true_iff]
  constructor
  · exact And.right
  intro found
  have present : (table.lookup key).isSome := by
    rw [found]
    rfl
  exact ⟨AList.mem_keys.mp (AList.lookup_isSome.mp present), found⟩

theorem holders_insert_self (key : Key) (value : Value) : holders (table.insert key value) value =
      insert key (table.holders value) := by
  ext other
  rw [mem_holders, lookup_insert_eq, Finset.mem_insert, mem_holders]
  by_cases same : other = key
  · simp [same]
  · simp [same]

theorem holders_insert_of_ne (key : Key) {value other : Value} (different : other ≠ value) :
    holders (table.insert key value) other = (table.holders other).erase key := by
  ext holder
  rw [mem_holders, lookup_insert_eq, Finset.mem_erase, mem_holders]
  by_cases same : holder = key
  · simp [same, different.symm]
  · simp [same]

theorem holders_erase (key : Key) (value : Value) :
    holders (table.erase key) value = (table.holders value).erase key := by
  ext holder
  rw [mem_holders, lookup_erase_eq, Finset.mem_erase, mem_holders]
  by_cases same : holder = key
  · simp [same]
  · simp [same]

theorem card_holders_insert_le (key : Key) (value : Value) :
    (holders (table.insert key value) value).card ≤ (table.holders value).card + 1 := by
  rw [holders_insert_self]
  exact Finset.card_insert_le key _

theorem card_holders_insert_of_ne_le (key : Key) {value other : Value} (different : other ≠ value) :
    (holders (table.insert key value) other).card ≤ (table.holders other).card := by
  rw [holders_insert_of_ne table key different]
  exact Finset.card_erase_le

theorem card_holders_erase_le (key : Key) (value : Value) :
    (holders (table.erase key) value).card ≤ (table.holders value).card := by
  rw [holders_erase]
  exact Finset.card_erase_le

theorem card_holders_erase_of_lookup
    {key : Key} {value : Value} (found : table.lookup key = some value) :
    (holders (table.erase key) value).card + 1 = (table.holders value).card := by
  rw [holders_erase]
  exact Finset.card_erase_add_one ((mem_holders table value key).mpr found)

/-! ## Counting entries -/

variable (counted : Value → Prop) [DecidablePred counted]

omit [DecidableEq Value] in
def keysWhere : Finset Key :=
  (table.keys.filter fun key => (table.lookup key).any fun value => counted value).toFinset

omit [DecidableEq Value] in
@[simp]
theorem mem_keysWhere (key : Key) : key ∈ table.keysWhere counted ↔
      ∃ value, table.lookup key = some value ∧ counted value := by
  rw [keysWhere, List.mem_toFinset, List.mem_filter, Option.any_eq_true]
  constructor
  · intro member
    obtain ⟨value, found, kind⟩ := member.2
    exact ⟨value, found, of_decide_eq_true kind⟩
  rintro ⟨value, found, kind⟩
  have present : (table.lookup key).isSome := by
    rw [found]
    rfl
  exact ⟨AList.mem_keys.mp (AList.lookup_isSome.mp present), value, found, decide_eq_true kind⟩

omit [DecidableEq Value] in
theorem card_keysWhere_le : (table.keysWhere counted).card ≤ table.entries.length := by
  refine (List.toFinset_card_le _).trans ((List.length_filter_le _ _).trans ?_)
  rw [AList.keys, List.keys, List.length_map]

variable {table counted} {after : FiniteTable Key Value} {key : Key}
variable {value : Value}

omit [DecidableEq Value] in
theorem keysWhere_congr (same : ∀ other, after.lookup other = table.lookup other) :
    after.keysWhere counted = table.keysWhere counted := by
  ext other
  rw [mem_keysWhere, mem_keysWhere, same]

omit [DecidableEq Value] in
theorem card_keysWhere_of_insert (free : table.lookup key = none)
    (inserted : ∀ other, after.lookup other =
        if other = key then some value else table.lookup other) :
    (after.keysWhere counted).card =
      (table.keysWhere counted).card + if counted value then 1 else 0 := by
  have absent : key ∉ table.keysWhere counted := by
    rw [mem_keysWhere, free]
    rintro ⟨other, found, _⟩
    cases found
  by_cases kind : counted value
  · have grown : after.keysWhere counted = insert key (table.keysWhere counted) := by
      ext other
      rw [mem_keysWhere, inserted, Finset.mem_insert, mem_keysWhere]
      by_cases same : other = key
      · simp [same, kind]
      · simp [same]
    rw [grown, Finset.card_insert_of_notMem absent, if_pos kind]
  have kept : after.keysWhere counted = table.keysWhere counted := by
    ext other
    rw [mem_keysWhere, inserted, mem_keysWhere]
    by_cases same : other = key
    · subst same
      simp [kind, free]
    · simp [same]
  rw [kept, if_neg kind, Nat.add_zero]

omit [DecidableEq Value] in
theorem card_keysWhere_of_erase (found : table.lookup key = some value)
    (erased : ∀ other, after.lookup other = if other = key then none else table.lookup other) :
    (after.keysWhere counted).card + (if counted value then 1 else 0) =
      (table.keysWhere counted).card := by
  have free : after.lookup key = none := by
    rw [erased, if_pos rfl]
  have back : ∀ other, table.lookup other =
        if other = key then some value else after.lookup other := by
    intro other
    rw [erased]
    by_cases same : other = key
    · rw [if_pos same, same, found]
    · rw [if_neg same, if_neg same]
  exact (card_keysWhere_of_insert free back).symm

end FiniteTable

end DpService.Foundations
