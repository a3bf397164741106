import Mathlib.Data.List.Nodup
import Mathlib.Data.List.Sort
import Mathlib.Tactic.Common
import MetricsDaemon.Table

/-!
# Laws of keyed tables

A table in which no key occurs twice is determined by its lookups. The lemmas relate
lookups to keys, values and counts, and say which operations keep the keys apart. A
table that numbers its entries never meets a number again that it has passed.
-/

namespace MetricsDaemon.Table

variable {κ α : Type}

/-- No key occurs twice. -/
def Unique (t : Table κ α) : Prop := t.keys.Nodup

variable [DecidableEq κ] {key other : κ} {value old : α} {pairs : List (κ × α)} {t : Table κ α}

/-- What is found in a list of pairs stands in it. -/
theorem mem_of_find (hfind : find key pairs = some value) : (key, value) ∈ pairs := by
  induction pairs with
  | nil => simp [find] at hfind
  | cons entry rest ih =>
    by_cases hkey : entry.1 = key
    · simp only [find, if_pos hkey, Option.some.injEq] at hfind
      rw [← hkey, ← hfind]
      exact List.mem_cons_self
    · simp only [find, if_neg hkey] at hfind
      exact List.mem_cons_of_mem _ (ih hfind)

/-- Where no key stands twice, a pair that stands in the list is what is found. -/
theorem find_of_mem (hnodup : (pairs.map Prod.fst).Nodup) (hmem : (key, value) ∈ pairs) :
    find key pairs = some value := by
  induction pairs with
  | nil => cases hmem
  | cons entry rest ih =>
    obtain ⟨hfresh, hrest⟩ := List.nodup_cons.mp hnodup
    rcases List.mem_cons.mp hmem with rfl | hmem
    · simp [find]
    · have hne : entry.1 ≠ key := by
        intro heq
        apply hfresh
        rw [heq]
        exact List.mem_map.mpr ⟨_, hmem, rfl⟩
      simp only [find, if_neg hne]
      exact ih hrest hmem

/-- After a pair was written there is no pair but this one and those from before. -/
theorem mem_write {entry : κ × α} (hmem : entry ∈ write key value pairs) :
    entry = (key, value) ∨ entry ∈ pairs := by
  induction pairs with
  | nil => exact .inl (List.mem_singleton.mp hmem)
  | cons first rest ih =>
    unfold write at hmem
    split at hmem
    · exact (List.mem_cons.mp hmem).imp_right (List.mem_cons_of_mem _)
    · rcases List.mem_cons.mp hmem with rfl | hmem
      · exact .inr List.mem_cons_self
      · exact (ih hmem).imp_right (List.mem_cons_of_mem _)

/-- What a table made of a list of pairs holds stands in the list. -/
theorem mem_of_get?_ofList (hget : (ofList pairs).get? key = some value) :
    (key, value) ∈ pairs := by
  have hall (t : Table κ α) (pairs : List (κ × α)) {entry : κ × α}
      (hmem : entry ∈ (pairs.foldl (fun t pair => t.put pair.1 pair.2) t).entries) :
      entry ∈ t.entries ∨ entry ∈ pairs := by
    induction pairs generalizing t with
    | nil => exact .inl hmem
    | cons pair rest ih =>
      rcases ih (t.put pair.1 pair.2) hmem with hput | hrest
      · rcases mem_write hput with rfl | hold
        · exact .inr List.mem_cons_self
        · exact .inl hold
      · exact .inr (List.mem_cons_of_mem _ hrest)
  exact (hall empty pairs (mem_of_find hget)).resolve_left List.not_mem_nil

/-- Nothing is found exactly under the keys that do not occur. -/
theorem find_eq_none_iff : find key pairs = none ↔ key ∉ pairs.map Prod.fst := by
  induction pairs with
  | nil => simp [find]
  | cons entry rest ih =>
    by_cases hkey : entry.1 = key
    · simp [find, hkey]
    · have hne : ¬key = entry.1 := fun h => hkey h.symm
      simp only [find, if_neg hkey, ih, List.map_cons, List.mem_cons, hne, false_or]

/-- A key that was not there is written at the end. -/
theorem write_of_find_eq_none (hfind : find key pairs = none) :
    write key value pairs = pairs ++ [(key, value)] := by
  induction pairs with
  | nil => rfl
  | cons entry rest ih =>
    by_cases hkey : entry.1 = key
    · simp [find, hkey] at hfind
    · simp only [find, if_neg hkey] at hfind
      simp [write, hkey, ih hfind]

/-- A key that was there keeps its place. -/
theorem map_fst_write_of_find_eq_some (hfind : find key pairs = some old) :
    (write key value pairs).map Prod.fst = pairs.map Prod.fst := by
  induction pairs with
  | nil => simp [find] at hfind
  | cons entry rest ih =>
    by_cases hkey : entry.1 = key
    · simp [write, hkey]
    · simp only [find, if_neg hkey] at hfind
      simp [write, hkey, ih hfind]

/-- Writing over a value exchanges its contribution to a count. -/
theorem countP_write_of_find_eq_some (p : α → Bool) (hfind : find key pairs = some old) :
    (write key value pairs).countP (fun entry => p entry.2) + (p old).toNat =
      pairs.countP (fun entry => p entry.2) + (p value).toNat := by
  induction pairs with
  | nil => simp [find] at hfind
  | cons entry rest ih =>
    by_cases hkey : entry.1 = key
    · simp only [find, if_pos hkey, Option.some.injEq] at hfind
      subst hfind
      simp only [write, if_pos hkey, List.countP_cons]
      cases p entry.2 <;> cases p value <;> simp
    · simp only [find, if_neg hkey] at hfind
      have hrest := ih hfind
      simp only [write, if_neg hkey, List.countP_cons]
      omega

/-- Writing over a value exchanges its part of what all values hold together. -/
theorem length_flatMap_write_of_find_eq_some {β : Type} (part : α → List β)
    (hfind : find key pairs = some old) :
    ((write key value pairs).flatMap fun entry => part entry.2).length + (part old).length =
      (pairs.flatMap fun entry => part entry.2).length + (part value).length := by
  induction pairs with
  | nil => simp [find] at hfind
  | cons entry rest ih =>
    by_cases hkey : entry.1 = key
    · simp only [find, if_pos hkey, Option.some.injEq] at hfind
      subst hfind
      simp only [write, if_pos hkey, List.flatMap_cons, List.length_append]
      omega
    · simp only [find, if_neg hkey] at hfind
      have hrest := ih hfind
      simp only [write, if_neg hkey, List.flatMap_cons, List.length_append]
      omega

/-! ## Lookups, keys and values -/

/-- The keys of a table are those under which something is found. -/
theorem mem_keys_iff : key ∈ t.keys ↔ ∃ value, t.get? key = some value := by
  have hnone : t.get? key = none ↔ key ∉ t.keys := find_eq_none_iff
  rw [← Option.ne_none_iff_exists', ne_eq, hnone, not_not]

/-- Nothing is found exactly under what is no key. -/
theorem get?_eq_none_iff : t.get? key = none ↔ key ∉ t.keys := find_eq_none_iff

/-- What is found is one of the values. -/
theorem mem_values_of_get? (hget : t.get? key = some value) : value ∈ t.values :=
  List.mem_map.mpr ⟨_, mem_of_find hget, rfl⟩

/-- The values of a table are what its lookups find. -/
theorem Unique.mem_values_iff (hunique : t.Unique) :
    value ∈ t.values ↔ ∃ key, t.get? key = some value := by
  constructor
  · intro hmem
    obtain ⟨entry, hentry, rfl⟩ := List.mem_map.mp hmem
    exact ⟨entry.1, find_of_mem hunique hentry⟩
  · rintro ⟨key, hget⟩
    exact mem_values_of_get? hget

/-- Where every value knows its key, the values tell the keys. -/
theorem Unique.map_values {number : α → κ} (hunique : t.Unique)
    (hnumbered : ∀ key value, t.get? key = some value → number value = key) :
    t.values.map number = t.keys := by
  rw [values, List.map_map, keys]
  exact List.map_congr_left fun entry hmem => hnumbered _ _ (find_of_mem hunique hmem)

/-- Tables with the same keys are of the same size. -/
theorem Unique.size_eq {u : Table κ α} (ht : t.Unique) (hu : u.Unique)
    (hsame : ∀ key, (t.get? key).isSome = (u.get? key).isSome) : t.size = u.size := by
  have hperm : t.keys.Perm u.keys := by
    refine (List.perm_ext_iff_of_nodup ht hu).mpr fun key => ?_
    rw [mem_keys_iff, mem_keys_iff, ← Option.isSome_iff_exists, ← Option.isSome_iff_exists,
      hsame]
  have hlength := hperm.length_eq
  rwa [keys, keys, List.length_map, List.length_map] at hlength

/-- A table contains the keys under which something is found. -/
theorem contains_iff : t.contains key = true ↔ ∃ value, t.get? key = some value := by
  rw [contains, Option.isSome_iff_exists]

/-- A table in which nothing is found is empty. -/
theorem eq_empty (hnone : ∀ key, t.get? key = none) : t = empty := by
  obtain ⟨entries⟩ := t
  cases entries with
  | nil => rfl
  | cons entry rest => exact absurd List.mem_cons_self (get?_eq_none_iff.mp (hnone entry.1))

/-- Where every key occurs once, the entries can be told from the keys and what is found. -/
theorem Unique.entries_eq (hunique : t.Unique) :
    t.entries = t.keys.filterMap fun key => (t.get? key).map fun value => (key, value) := by
  have hentry : ∀ entry ∈ t.entries,
      (t.get? entry.1).map (fun value => (entry.1, value)) = some entry := by
    intro entry hmem
    have hget : t.get? entry.1 = some entry.2 := find_of_mem hunique hmem
    rw [hget]
    rfl
  rw [keys, List.filterMap_map]
  exact List.filterMap_some.symm.trans
    (List.filterMap_congr fun entry hmem => (hentry entry hmem).symm)

/-- A table is told by its keys, in their order, and what is found under them. -/
theorem Unique.ext {u : Table κ α} (ht : t.Unique) (hu : u.Unique) (hkeys : t.keys = u.keys)
    (hget : ∀ key, t.get? key = u.get? key) : t = u := by
  have hentries : t.entries = u.entries := by
    rw [ht.entries_eq, hu.entries_eq, hkeys]
    simp only [hget]
  cases t
  cases u
  exact congrArg Table.mk hentries

/-! ## Writing -/

/-- A new key comes in at the end. -/
theorem entries_put_of_get?_eq_none (hget : t.get? key = none) :
    (t.put key value).entries = t.entries ++ [(key, value)] :=
  write_of_find_eq_none hget

/-- A new key comes after the others. -/
theorem keys_put_of_get?_eq_none (hget : t.get? key = none) :
    (t.put key value).keys = t.keys ++ [key] := by
  simp [keys, entries_put_of_get?_eq_none hget]

/-- The value of a new key comes after the others. -/
theorem values_put_of_get?_eq_none (hget : t.get? key = none) :
    (t.put key value).values = t.values ++ [value] := by
  simp [values, entries_put_of_get?_eq_none hget]

/-- To put something under an old key leaves the keys as they are. -/
theorem keys_put_of_get?_eq_some (hget : t.get? key = some old) :
    (t.put key value).keys = t.keys :=
  map_fst_write_of_find_eq_some hget

/-- Tables with the same keys have the same keys afterwards. -/
theorem keys_put_eq {β : Type} {u : Table κ β} (hkeys : u.keys = t.keys) (key : κ) (new : β)
    (value : α) : (u.put key new).keys = (t.put key value).keys := by
  cases hget : t.get? key with
  | none =>
    have hnone : u.get? key = none := by
      rw [get?_eq_none_iff, hkeys, ← get?_eq_none_iff]
      exact hget
    rw [keys_put_of_get?_eq_none hget, keys_put_of_get?_eq_none hnone, hkeys]
  | some old =>
    obtain ⟨other, hother⟩ : ∃ other, u.get? key = some other := by
      rw [← mem_keys_iff, hkeys]
      exact mem_keys_iff.mpr ⟨old, hget⟩
    rw [keys_put_of_get?_eq_some hget, keys_put_of_get?_eq_some hother, hkeys]

/-- A value under a new key is counted beside the others. -/
theorem countP_values_put_of_get?_eq_none (p : α → Bool) (hget : t.get? key = none) :
    (t.put key value).values.countP p = t.values.countP p + (p value).toNat := by
  rw [values_put_of_get?_eq_none hget, List.countP_append]
  cases hvalue : p value <;> simp [hvalue]

/-- A value under an old key is counted in place of the value before. -/
theorem countP_values_put_of_get?_eq_some (p : α → Bool) (hget : t.get? key = some old) :
    (t.put key value).values.countP p + (p old).toNat =
      t.values.countP p + (p value).toNat := by
  simp only [values, List.countP_map]
  exact countP_write_of_find_eq_some p hget

/-- The parts of a value under an old key take the place of those of the value before. -/
theorem length_flatMap_values_put_of_get?_eq_some {β : Type} (part : α → List β)
    (hget : t.get? key = some old) (value : α) :
    ((t.put key value).values.flatMap part).length + (part old).length =
      (t.values.flatMap part).length + (part value).length := by
  simp only [values, List.flatMap_map]
  exact length_flatMap_write_of_find_eq_some part hget

/-! ## Erasing -/

/-- The keys that are left are the others. -/
theorem keys_erase : (t.erase key).keys = t.keys.filter fun other => decide (other ≠ key) := by
  simp only [keys, erase, List.filter_map]
  rfl

/-- Without the pairs of a key one value less is counted, if it was counted. -/
private theorem countP_filter_ne (p : α → Bool) (hnodup : (pairs.map Prod.fst).Nodup)
    (hfind : find key pairs = some old) :
    (pairs.filter fun entry => decide (entry.1 ≠ key)).countP (fun entry => p entry.2) +
      (p old).toNat = pairs.countP fun entry => p entry.2 := by
  induction pairs with
  | nil => simp [find] at hfind
  | cons entry rest ih =>
    obtain ⟨hfresh, hrest⟩ := List.nodup_cons.mp hnodup
    by_cases hkey : entry.1 = key
    · simp only [find, if_pos hkey, Option.some.injEq] at hfind
      subst hfind
      have hkeep : rest.filter (fun entry => decide (entry.1 ≠ key)) = rest := by
        apply List.filter_eq_self.mpr
        intro other hother
        have hne : other.1 ≠ key := by
          intro heq
          apply hfresh
          rw [hkey, ← heq]
          exact List.mem_map.mpr ⟨other, hother, rfl⟩
        simpa using hne
      rw [List.filter_cons_of_neg (by simpa using hkey), hkeep, List.countP_cons]
      cases p entry.2 <;> simp
    · simp only [find, if_neg hkey] at hfind
      have hcount := ih hrest hfind
      rw [List.filter_cons_of_pos (by simpa using hkey), List.countP_cons, List.countP_cons]
      omega

/-- Erasing a key takes its value out of every count. -/
theorem Unique.countP_values_erase (hunique : t.Unique) (p : α → Bool)
    (hget : t.get? key = some old) :
    (t.erase key).values.countP p + (p old).toNat = t.values.countP p := by
  simp only [values, List.countP_map]
  exact countP_filter_ne p hunique hget

/-- A table is smaller by one without a key that it had. -/
theorem Unique.size_erase (hunique : t.Unique) (hget : t.get? key = some old) :
    (t.erase key).size + 1 = t.size := by
  have hcount := hunique.countP_values_erase (fun _ => true) hget
  simpa [values, size] using hcount

/-! ## Changing -/

variable {change : α → α}

/-- What is not there is not changed. -/
theorem modify_of_get?_eq_none (hget : t.get? key = none) : t.modify key change = t := by
  simp [modify, hget]

/-- To change what is there is to put the changed value. -/
theorem modify_of_get?_eq_some (hget : t.get? key = some value) :
    t.modify key change = t.put key (change value) := by
  simp [modify, hget]

/-- A change is seen under its own key only. -/
theorem get?_modify (t : Table κ α) (key other : κ) (change : α → α) :
    (t.modify key change).get? other =
      if key = other then (t.get? other).map change else t.get? other := by
  cases hget : t.get? key with
  | none =>
    rw [modify_of_get?_eq_none hget]
    by_cases heq : key = other
    · rw [if_pos heq, ← heq, hget]
      rfl
    · rw [if_neg heq]
  | some value =>
    rw [modify_of_get?_eq_some hget, get?_put]
    by_cases heq : key = other
    · rw [if_pos heq, if_pos heq, ← heq, hget]
      rfl
    · rw [if_neg heq, if_neg heq]

/-- A change leaves the keys as they are. -/
@[simp] theorem keys_modify : (t.modify key change).keys = t.keys := by
  cases hget : t.get? key with
  | none => rw [modify_of_get?_eq_none hget]
  | some value => rw [modify_of_get?_eq_some hget, keys_put_of_get?_eq_some hget]

/-- A change that a count does not look at leaves the count alone. -/
theorem countP_values_modify (p : α → Bool) (hsame : ∀ value, p (change value) = p value) :
    (t.modify key change).values.countP p = t.values.countP p := by
  cases hget : t.get? key with
  | none => rw [modify_of_get?_eq_none hget]
  | some value =>
    rw [modify_of_get?_eq_some hget]
    have hcount : (t.put key (change value)).values.countP p + (p value).toNat =
        t.values.countP p + (p (change value)).toNat :=
      countP_values_put_of_get?_eq_some p hget
    rw [hsame] at hcount
    omega

/-! ## Changing and forgetting the same key -/

/-- To erase what is not there changes nothing. -/
theorem erase_of_get?_eq_none (hget : t.get? key = none) : t.erase key = t := by
  have hkey := get?_eq_none_iff.mp hget
  have hentries : (t.erase key).entries = t.entries :=
    List.filter_eq_self.mpr fun entry hmem =>
      decide_eq_true fun heq => hkey (List.mem_map.mpr ⟨entry, hmem, heq⟩)
  cases t
  exact congrArg Table.mk hentries

/-- Without the pairs of its key, what was written makes no difference. -/
theorem filter_write (key : κ) (value : α) (pairs : List (κ × α)) :
    (write key value pairs).filter (fun entry => decide (entry.1 ≠ key)) =
      pairs.filter fun entry => decide (entry.1 ≠ key) := by
  induction pairs with
  | nil => simp [write]
  | cons entry rest ih =>
    rw [write]
    split
    · next heq => simp [heq]
    · rw [List.filter_cons, ih, List.filter_cons]

/-- What was changed does not matter any more once it is forgotten. -/
theorem erase_modify_self (t : Table κ α) (key : κ) (change : α → α) :
    (t.modify key change).erase key = t.erase key := by
  cases hget : t.get? key with
  | none => rw [modify_of_get?_eq_none hget]
  | some value =>
    rw [modify_of_get?_eq_some hget]
    exact congrArg Table.mk (filter_write key (change value) t.entries)

/-! ## Numbered entries -/

/-- The keys of the table were given out by counting, and `last` is the number that was given out
last. -/
structure Counted (rank : κ → Nat) (last : Nat) (t : Table κ α) : Prop where
  ascending : (t.keys.map rank).Pairwise (· < ·)
  bounded : ∀ key ∈ t.keys, rank key ≤ last

namespace Counted

variable {rank : κ → Nat} {last : Nat}

omit [DecidableEq κ] in
/-- The empty table is counted, wherever the numbers have come. -/
theorem empty (rank : κ → Nat) (last : Nat) : Counted rank last (empty : Table κ α) :=
  ⟨List.Pairwise.nil, fun _ hkey => by cases hkey⟩

omit [DecidableEq κ] in
/-- In a counted table every key occurs once. -/
theorem unique (h : t.Counted rank last) : t.Unique := by
  have hnodup : (t.keys.map rank).Nodup := h.ascending.imp fun hlt => Nat.ne_of_lt hlt
  exact hnodup.of_map

/-- The keys of a counted table have numbers that were given out. -/
theorem le_of_get? (h : t.Counted rank last) (hget : t.get? key = some value) :
    rank key ≤ last :=
  h.bounded key (mem_keys_iff.mpr ⟨value, hget⟩)

/-- A number that was not given out yet stands for nothing. -/
theorem get?_eq_none (h : t.Counted rank last) (hlt : last < rank key) : t.get? key = none := by
  apply get?_eq_none_iff.mpr
  intro hmem
  have hle := h.bounded key hmem
  omega

omit [DecidableEq κ] in
/-- Whether a table is counted depends on its keys only. -/
theorem of_keys_eq {β : Type} {u : Table κ β} (h : t.Counted rank last) (hkeys : u.keys = t.keys) :
    u.Counted rank last := by
  constructor
  · rw [hkeys]
    exact h.ascending
  · rw [hkeys]
    exact h.bounded

/-- The next number extends the table at its end. -/
theorem put_next (h : t.Counted rank last) (hnext : rank key = last + 1) :
    (t.put key value).Counted rank (last + 1) := by
  have hget : t.get? key = none := h.get?_eq_none (by omega)
  constructor
  · rw [keys_put_of_get?_eq_none hget, List.map_append, List.pairwise_append]
    refine ⟨h.ascending, by simp, ?_⟩
    intro a ha b hb
    obtain ⟨k, hk, rfl⟩ := List.mem_map.mp ha
    have hle := h.bounded k hk
    simp only [List.map_cons, List.map_nil, List.mem_singleton] at hb
    omega
  · intro k hk
    rw [keys_put_of_get?_eq_none hget, List.mem_append, List.mem_singleton] at hk
    rcases hk with hk | rfl
    · exact Nat.le_succ_of_le (h.bounded k hk)
    · omega

/-- To put something under an old key leaves a table counted. -/
theorem put_old (h : t.Counted rank last) (hget : t.get? key = some old) :
    (t.put key value).Counted rank last :=
  h.of_keys_eq (keys_put_of_get?_eq_some hget)

/-- To erase a key leaves a table counted. -/
theorem erase (h : t.Counted rank last) : (t.erase key).Counted rank last := by
  constructor
  · rw [keys_erase]
    exact h.ascending.sublist (List.filter_sublist.map rank)
  · intro k hk
    rw [keys_erase] at hk
    exact h.bounded k (List.mem_of_mem_filter hk)

/-- A change leaves a table counted. -/
theorem modify (h : t.Counted rank last) : (t.modify key change).Counted rank last :=
  h.of_keys_eq keys_modify

/-- A table that numbers its entries is told by what is found in it. -/
theorem ext {u : Table κ α} {later : Nat} (hrank : Function.Injective rank)
    (ht : t.Counted rank last) (hu : u.Counted rank later)
    (hget : ∀ key, t.get? key = u.get? key) : t = u := by
  have hmem (key : κ) : key ∈ t.keys ↔ key ∈ u.keys := by
    rw [mem_keys_iff, mem_keys_iff, hget]
  have hranks : t.keys.map rank = u.keys.map rank := by
    refine ht.ascending.eq_of_mem_iff hu.ascending fun n => ?_
    simp only [List.mem_map, hmem]
  exact ht.unique.ext hu.unique (List.map_injective_iff.mpr hrank hranks) hget

end Counted

end MetricsDaemon.Table
