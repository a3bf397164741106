import Mathlib.Data.List.Perm.Basic
import MetricsDaemon.Proofs.Table
import MetricsDaemon.Subscription

/-!
# Laws of the subscription table

Subscriptions are numbered in the order in which they were made, and a number never
comes back. What a subscription asks for stays the same as long as it lives; only its
two flags change.
-/

namespace MetricsDaemon.Subscriptions

/-- The numbers were given out by counting, and every subscription knows its number. -/
structure Sound (subscriptions : Subscriptions) : Prop where
  counted : subscriptions.entries.Counted SubscriptionId.number subscriptions.lastId
  numbered : ∀ {id subscription}, subscriptions.get? id = some subscription → subscription.id = id

/-- Without subscriptions everything is in order. -/
theorem Sound.empty : empty.Sound where
  counted := .empty _ _
  numbered h := by cases h

variable {subscriptions : Subscriptions} {id other : SubscriptionId} {subscription : Subscription}
  {interest : Interest} {change : Subscription → Subscription} {module_ : ModuleId}

/-- The number of a subscription was given out. -/
theorem Sound.le_lastId (hsound : subscriptions.Sound)
    (hget : subscriptions.get? id = some subscription) : id.number ≤ subscriptions.lastId :=
  hsound.counted.le_of_get? hget

/-- A subscription is live exactly if it is found under its own number. -/
theorem Sound.mem_toList_iff (hsound : subscriptions.Sound) :
    subscription ∈ subscriptions.toList ↔
      subscriptions.get? subscription.id = some subscription := by
  rw [toList, hsound.counted.unique.mem_values_iff]
  constructor
  · rintro ⟨key, hget⟩
    have hid : subscription.id = key := hsound.numbered hget
    rwa [hid]
  · intro hget
    exact ⟨subscription.id, hget⟩

/-- Nobody holds a module exactly if no live subscription names it. -/
theorem Sound.countOn_eq_zero_iff (hsound : subscriptions.Sound) :
    subscriptions.countOn module_ = 0 ↔ ∀ {id subscription},
      subscriptions.get? id = some subscription → subscription.interest.module_ ≠ module_ := by
  rw [countOn, List.countP_eq_zero]
  constructor
  · intro hnone id subscription hget
    have hid : subscription.id = id := hsound.numbered hget
    have hmem : subscription ∈ subscriptions.toList := by
      rw [hsound.mem_toList_iff, hid]
      exact hget
    simpa using hnone subscription hmem
  · intro hnone subscription hmem
    simpa using hnone (hsound.mem_toList_iff.mp hmem)

/-- The live subscriptions have the numbers of the table, in its order. -/
theorem Sound.map_id_toList (hsound : subscriptions.Sound) :
    subscriptions.toList.map Subscription.id = subscriptions.entries.keys :=
  hsound.counted.unique.map_values fun _ _ hget => hsound.numbered hget

/-- The table has the subscriptions in the order in which they were made. -/
theorem Sound.ordered_toList (hsound : subscriptions.Sound) :
    (subscriptions.toList.map fun subscription => subscription.id.number).Pairwise (· < ·) := by
  have hids := hsound.counted.ascending
  rwa [← hsound.map_id_toList, List.map_map] at hids

/-- A table of subscriptions is told by what is found in it. -/
theorem Sound.ext {other : Subscriptions} (hsound : subscriptions.Sound) (hother : other.Sound)
    (hlast : subscriptions.lastId = other.lastId)
    (hget : ∀ id, subscriptions.get? id = other.get? id) : subscriptions = other := by
  have hnumber : Function.Injective SubscriptionId.number := by
    rintro ⟨first⟩ ⟨second⟩ hnumber
    exact congrArg SubscriptionId.mk hnumber
  have hentries : subscriptions.entries = other.entries :=
    hsound.counted.ext hnumber hother.counted hget
  cases subscriptions
  cases other
  exact congrArg₂ Subscriptions.mk hentries hlast

/-- How many subscriptions hold a module, without some that are counted apart. -/
def countBesides (subscriptions : Subscriptions) (ids : List SubscriptionId) (id : ModuleId) :
    Nat :=
  subscriptions.toList.countP fun subscription =>
    subscription.interest.module_ == id && !decide (subscription.id ∈ ids)

/-- Different subscriptions that hold a module are that many of those who hold it. -/
theorem Sound.countOn_eq_add {ids : List SubscriptionId} (hsound : subscriptions.Sound)
    (hnodup : ids.Nodup)
    (hon : ∀ id ∈ ids, ∃ subscription, subscriptions.get? id = some subscription ∧
      subscription.interest.module_ = module_) :
    subscriptions.countOn module_ = ids.length + subscriptions.countBesides ids module_ := by
  let chosen := subscriptions.toList.filter fun subscription => decide (subscription.id ∈ ids)
  have hchosen {subscription : Subscription} : subscription ∈ chosen ↔
      subscriptions.get? subscription.id = some subscription ∧ subscription.id ∈ ids := by
    rw [List.mem_filter, hsound.mem_toList_iff, decide_eq_true_iff]
  have hdistinct : (chosen.map Subscription.id).Nodup := by
    refine List.Nodup.sublist (List.filter_sublist.map _) ?_
    rw [hsound.map_id_toList]
    exact hsound.counted.unique
  have hperm : (chosen.map Subscription.id).Perm ids := by
    refine (List.perm_ext_iff_of_nodup hdistinct hnodup).mpr fun id => ?_
    rw [List.mem_map]
    constructor
    · rintro ⟨subscription, hmem, rfl⟩
      exact (hchosen.mp hmem).2
    · intro hmem
      obtain ⟨subscription, hget, _⟩ := hon id hmem
      have hid : subscription.id = id := hsound.numbered hget
      subst hid
      exact ⟨subscription, hchosen.mpr ⟨hget, hmem⟩, rfl⟩
  have hlength : chosen.length = ids.length := by rw [← hperm.length_eq, List.length_map]
  have hall : chosen.countP (fun subscription => subscription.interest.module_ == module_) =
      chosen.length := by
    refine List.countP_eq_length.mpr fun subscription hmem => ?_
    obtain ⟨hget, hid⟩ := hchosen.mp hmem
    obtain ⟨found, hfound, hmodule⟩ := hon _ hid
    rw [hget] at hfound
    cases hfound
    simpa using hmodule
  rw [countOn, List.countP_eq_countP_filter_add _ _ fun subscription =>
    decide (subscription.id ∈ ids), hall, hlength, List.countP_filter]
  rfl

/-- How many of the subscriptions that hold a module are not in a later table any more. -/
def endedOn (subscriptions later : Subscriptions) (id : ModuleId) : Nat :=
  subscriptions.toList.countP fun subscription =>
    subscription.interest.module_ == id && (later.get? subscription.id).isNone

/-- Where nothing is new, those who hold a module are those who still do and those who ended. -/
theorem Sound.countOn_eq_add_endedOn {later : Subscriptions} (hsound : subscriptions.Sound)
    (hlater : later.Sound) (hkept : ∀ id found, later.get? id = some found →
      ∃ subscription, subscriptions.get? id = some subscription ∧
        subscription.interest = found.interest) :
    subscriptions.countOn module_ =
      later.countOn module_ + subscriptions.endedOn later module_ := by
  let held (subscription : Subscription) : Bool := subscription.interest.module_ == module_
  have hdistinct {table : Subscriptions} (htable : table.Sound) (kept : Subscription → Bool) :
      ((table.toList.filter kept).map Subscription.id).Nodup := by
    refine List.Nodup.sublist (List.filter_sublist.map _) ?_
    rw [htable.map_id_toList]
    exact htable.counted.unique
  have hperm : ((later.toList.filter held).map Subscription.id).Perm
      ((subscriptions.toList.filter fun subscription =>
        held subscription && (later.get? subscription.id).isSome).map Subscription.id) := by
    refine (List.perm_ext_iff_of_nodup (hdistinct hlater _) (hdistinct hsound _)).mpr fun id => ?_
    simp only [List.mem_map, List.mem_filter, hlater.mem_toList_iff, hsound.mem_toList_iff,
      Bool.and_eq_true, Option.isSome_iff_exists]
    constructor
    · rintro ⟨found, ⟨hfound, hheld⟩, rfl⟩
      obtain ⟨subscription, hget, hinterest⟩ := hkept _ _ hfound
      have hid : subscription.id = found.id := hsound.numbered hget
      refine ⟨subscription, ⟨by rwa [hid], ?_, found, by rwa [hid]⟩, hid⟩
      simpa only [held, hinterest] using hheld
    · rintro ⟨subscription, ⟨hget, hheld, found, hfound⟩, rfl⟩
      obtain ⟨same, hsame, hinterest⟩ := hkept _ _ hfound
      obtain rfl : same = subscription := Option.some.inj (hsame.symm.trans hget)
      have hid : found.id = same.id := hlater.numbered hfound
      refine ⟨found, ⟨by rwa [hid], ?_⟩, hid⟩
      simpa only [held, hinterest] using hheld
  have hcount : later.countOn module_ = subscriptions.toList.countP fun subscription =>
      held subscription && (later.get? subscription.id).isSome := by
    rw [countOn, List.countP_eq_length_filter, List.countP_eq_length_filter,
      ← List.length_map Subscription.id, hperm.length_eq, List.length_map]
  rw [hcount, countOn, endedOn, List.countP_eq_countP_filter_add _ _ fun subscription =>
    (later.get? subscription.id).isSome, List.countP_filter, List.countP_filter]
  simp only [held, Option.not_isSome]

/-! ## Adding a subscription -/

/-- The number that the next subscription gets. -/
def nextId (subscriptions : Subscriptions) : SubscriptionId := ⟨subscriptions.lastId + 1⟩

/-- A new subscription gets the next number. -/
theorem insert_snd : (subscriptions.insert interest).2 = subscriptions.nextId := rfl

/-- The next number leads to the new subscription, which was never served, and the others lead where
they led. -/
theorem get?_insert : (subscriptions.insert interest).1.get? id =
    if subscriptions.nextId = id then some ⟨subscriptions.nextId, interest, true, false⟩
    else subscriptions.get? id :=
  Table.get?_put ..

/-- Nobody is subscribed under the next number. -/
theorem Sound.get?_nextId (hsound : subscriptions.Sound) :
    subscriptions.get? subscriptions.nextId = none :=
  hsound.counted.get?_eq_none (Nat.lt_succ_self _)

/-- A new subscription leaves the others as they are. -/
theorem Sound.get?_insert_of_get? (hsound : subscriptions.Sound)
    (hget : subscriptions.get? id = some subscription) :
    (subscriptions.insert interest).1.get? id = some subscription := by
  have hne : subscriptions.nextId ≠ id := by
    intro heq
    rw [← heq, hsound.get?_nextId] at hget
    cases hget
  rw [get?_insert, if_neg hne, hget]

/-- A new subscription keeps the table in order. -/
theorem Sound.insert (hsound : subscriptions.Sound) :
    (subscriptions.insert interest).1.Sound where
  counted := hsound.counted.put_next rfl
  numbered := by
    intro id subscription hget
    rw [get?_insert] at hget
    split at hget
    · next heq =>
      cases hget
      exact heq
    · exact hsound.numbered hget

/-- A new subscription is counted on its own module only. -/
theorem Sound.countOn_insert (hsound : subscriptions.Sound) :
    (subscriptions.insert interest).1.countOn module_ =
      subscriptions.countOn module_ + (interest.module_ == module_).toNat :=
  Table.countP_values_put_of_get?_eq_none _ hsound.get?_nextId

/-! ## Forgetting a subscription -/

/-- Only the subscription that leaves is gone. -/
theorem get?_erase : (subscriptions.erase id).get? other =
    if id = other then none else subscriptions.get? other :=
  Table.get?_erase ..

/-- No number is taken back when a subscription leaves. -/
@[simp] theorem lastId_erase : (subscriptions.erase id).lastId = subscriptions.lastId := rfl

/-- Whoever is there after a subscription left was there before, under another number. -/
theorem get?_of_erase (hget : (subscriptions.erase id).get? other = some subscription) :
    id ≠ other ∧ subscriptions.get? other = some subscription := by
  rw [get?_erase] at hget
  split at hget
  · cases hget
  · next hne => exact ⟨hne, hget⟩

/-- The table stays in order when a subscription leaves. -/
theorem Sound.erase (hsound : subscriptions.Sound) : (subscriptions.erase id).Sound where
  counted := hsound.counted.erase
  numbered hget := hsound.numbered (get?_of_erase hget).2

/-- A subscription that leaves is not counted on its module any more. -/
theorem Sound.countOn_erase (hsound : subscriptions.Sound)
    (hget : subscriptions.get? id = some subscription) :
    (subscriptions.erase id).countOn module_ + (subscription.interest.module_ == module_).toNat =
      subscriptions.countOn module_ :=
  hsound.counted.unique.countP_values_erase _ hget

/-! ## Changing the flags of a subscription -/

/-- The change leaves everything but the flags alone. -/
def Flagging (change : Subscription → Subscription) : Prop :=
  ∀ subscription, (change subscription).id = subscription.id ∧
    (change subscription).interest = subscription.interest

/-- A change is seen in its own subscription only. -/
theorem get?_modify : (subscriptions.modify id change).get? other =
    if id = other then (subscriptions.get? other).map change else subscriptions.get? other :=
  Table.get?_modify ..

/-- A change gives out no number. -/
@[simp] theorem lastId_modify : (subscriptions.modify id change).lastId = subscriptions.lastId :=
  rfl

/-- A change of flags keeps the table in order. -/
theorem Sound.modify (hsound : subscriptions.Sound) (hflagging : Flagging change) :
    (subscriptions.modify id change).Sound where
  counted := hsound.counted.modify
  numbered := by
    intro other subscription hget
    rw [get?_modify] at hget
    split at hget
    · obtain ⟨found, hfound, rfl⟩ := Option.map_eq_some_iff.mp hget
      rw [(hflagging found).1]
      exact hsound.numbered hfound
    · exact hsound.numbered hget

/-- A change of flags leaves the counts of all modules as they are. -/
theorem countOn_modify (hflagging : Flagging change) :
    (subscriptions.modify id change).countOn module_ = subscriptions.countOn module_ :=
  Table.countP_values_modify _ fun subscription => by rw [(hflagging subscription).2]

/-- Two tables hold the same subscriptions, up to their flags. -/
def Alike (before after : Subscriptions) : Prop :=
  ∀ id, (after.get? id).map Subscription.interest = (before.get? id).map Subscription.interest

/-- After a change of flags the same subscriptions are there with the same interests. -/
theorem alike_modify (hflagging : Flagging change) :
    subscriptions.Alike (subscriptions.modify id change) := by
  intro other
  rw [get?_modify]
  split
  · cases subscriptions.get? other <;> simp [(hflagging _).2]
  · rfl

/-- Two tables are alike in either direction. -/
theorem Alike.symm {before after : Subscriptions} (halike : before.Alike after) :
    after.Alike before :=
  fun id => (halike id).symm

/-- A subscription of one of two alike tables is in the other one too, with the same interest. -/
theorem Alike.get?_after {before after : Subscriptions} (halike : before.Alike after)
    (hget : before.get? id = some subscription) :
    ∃ found, after.get? id = some found ∧ found.interest = subscription.interest := by
  have hinterest := halike id
  rw [hget, Option.map_some] at hinterest
  obtain ⟨found, hfound, heq⟩ := Option.map_eq_some_iff.mp hinterest
  exact ⟨found, hfound, heq⟩

/-- Tables that are alike have as many subscriptions. -/
theorem Sound.size_eq_of_alike {after : Subscriptions} (hsound : subscriptions.Sound)
    (hafter : after.Sound) (halike : subscriptions.Alike after) :
    after.size = subscriptions.size := by
  refine hafter.counted.unique.size_eq hsound.counted.unique fun id => ?_
  have hsame := congrArg Option.isSome (halike id)
  rwa [Option.isSome_map, Option.isSome_map] at hsame

/-! ## What stays of the table -/

/-- How the table can change while nothing is served. Subscriptions come with new numbers and were
never served, and those that stay keep what they have. -/
structure Keeps (before after : Subscriptions) : Prop where
  last : before.lastId ≤ after.lastId
  kept : ∀ {id subscription}, after.get? id = some subscription → id.number ≤ before.lastId →
    before.get? id = some subscription
  unserved : ∀ {id subscription}, after.get? id = some subscription →
    before.lastId < id.number → subscription.first = true ∧ subscription.pending = false

/-- A table keeps what it has. -/
theorem Sound.keeps_refl (hsound : subscriptions.Sound) : subscriptions.Keeps subscriptions where
  last := Nat.le_refl _
  kept hget _ := hget
  unserved hget hlt := by
    have hle := hsound.le_lastId hget
    omega

/-- What is kept twice in a row is kept. -/
theorem Keeps.trans {before middle after : Subscriptions} (hfirst : before.Keeps middle)
    (hlast : middle.Keeps after) : before.Keeps after where
  last := Nat.le_trans hfirst.last hlast.last
  kept hget hle := hfirst.kept (hlast.kept hget (Nat.le_trans hle hfirst.last)) hle
  unserved := by
    intro id subscription hget hlt
    by_cases hle : id.number ≤ middle.lastId
    · exact hfirst.unserved (hlast.kept hget hle) hlt
    · exact hlast.unserved hget (by omega)

/-- A new subscription leaves those that are there alone. -/
theorem Sound.keeps_insert (hsound : subscriptions.Sound) :
    subscriptions.Keeps (subscriptions.insert interest).1 where
  last := Nat.le_succ _
  kept := by
    intro id subscription hget hle
    rw [get?_insert] at hget
    split at hget
    · next heq =>
      rw [← heq] at hle
      exact absurd hle (Nat.not_succ_le_self _)
    · exact hget
  unserved := by
    intro id subscription hget hlt
    rw [get?_insert] at hget
    split at hget
    · cases hget
      exact ⟨rfl, rfl⟩
    · have hle := hsound.le_lastId hget
      omega

/-- A subscription with a number of the earlier table asks for what it asked for then. -/
structure Succeeds (before after : Subscriptions) : Prop where
  last : before.lastId ≤ after.lastId
  same : ∀ {id found}, after.get? id = some found → id.number ≤ before.lastId →
    ∃ subscription, before.get? id = some subscription ∧ found.interest = subscription.interest

/-- Every table comes after itself. -/
theorem Succeeds.refl (subscriptions : Subscriptions) : subscriptions.Succeeds subscriptions :=
  ⟨Nat.le_refl _, fun hget _ => ⟨_, hget, rfl⟩⟩

/-- What comes after a later table comes after the earlier one. -/
theorem Succeeds.trans {before middle after : Subscriptions} (hfirst : before.Succeeds middle)
    (hlast : middle.Succeeds after) : before.Succeeds after where
  last := Nat.le_trans hfirst.last hlast.last
  same := by
    intro id found hget hle
    obtain ⟨between, hbetween, hinterest⟩ := hlast.same hget (Nat.le_trans hle hfirst.last)
    obtain ⟨subscription, hsubscription, hinterest'⟩ := hfirst.same hbetween hle
    exact ⟨subscription, hsubscription, hinterest.trans hinterest'⟩

/-- A table that keeps what was there comes after it. -/
theorem Keeps.succeeds {before after : Subscriptions} (hkeeps : before.Keeps after) :
    before.Succeeds after :=
  ⟨hkeeps.last, fun hget hle => ⟨_, hkeeps.kept hget hle, rfl⟩⟩

end MetricsDaemon.Subscriptions
