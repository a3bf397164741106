import MetricsDaemon.Proofs.Install
import MetricsDaemon.Proofs.Subscriptions
import MetricsDaemon.State.Basic

/-!
# The accounts of the shared state

Four things hold of the state between any two steps. The clients of every module are
its subscriptions and its pin. The lists of the connections share out the live
subscriptions. Every live subscription has its module. No subscription is about to be
removed. Each is a property of its own, since some operations break one of them for a
while and keep the others.
-/

namespace MetricsDaemon

/-! ## The clients of the modules -/

/-- The clients of every module are counted right, and the variable of a subscription stays bound as
long as its module is resident. -/
structure Booked (registry : Registry) (subscriptions : Subscriptions) : Prop where
  modules : registry.Sound
  table : subscriptions.Sound
  clients : ∀ {id module_}, registry.get? id = some module_ →
    module_.clients = module_.pinned.toNat + subscriptions.countOn id
  module_le : ∀ {id subscription}, subscriptions.get? id = some subscription →
    subscription.interest.module_.number ≤ registry.lastId
  variable_le : ∀ {id subscription}, subscriptions.get? id = some subscription →
    subscription.interest.variable_.number ≤ registry.directory.lastId
  anchored : ∀ {id subscription}, subscriptions.get? id = some subscription →
    (registry.get? subscription.interest.module_).isSome →
    ∃ variable_ callable, registry.directory.get? subscription.interest.variable_ = some variable_ ∧
      variable_.module_ = subscription.interest.module_ ∧ variable_.binding = .ready callable

namespace Booked

variable {registry after : Registry} {subscriptions flagged : Subscriptions}
  {id : SubscriptionId} {subscription : Subscription} {interest : Interest}

/-- Without modules and subscriptions the books are right. -/
theorem empty (hregistry : registry.Sound)
    (hmodules : ∀ id, registry.get? id = none) : Booked registry .empty where
  modules := hregistry
  table := .empty
  clients hget := by
    rw [hmodules] at hget
    cases hget
  module_le hget := by cases hget
  variable_le hget := by cases hget
  anchored hget := by cases hget

/-- Nobody holds a number that was not given out yet. -/
theorem countOn_eq_zero (hbooked : Booked registry subscriptions) {module_ : ModuleId}
    (hlt : registry.lastId < module_.number) : subscriptions.countOn module_ = 0 := by
  rw [hbooked.table.countOn_eq_zero_iff]
  rintro id subscription hget rfl
  have hle := hbooked.module_le hget
  omega

/-- What the registry may do while the subscriptions stay: modules may leave, come with nothing but
their pin, or stay with their clients and their bound variables. -/
theorem of_registry (hbooked : Booked registry subscriptions) (hsound : after.Sound)
    (hlast : registry.lastId ≤ after.lastId)
    (hlastVariable : registry.directory.lastId ≤ after.directory.lastId)
    (hmodules : ∀ {id module_}, after.get? id = some module_ → registry.get? id = some module_ ∨
      (registry.lastId < id.number ∧ module_.clients = module_.pinned.toNat))
    (hvariables : ∀ {id variable_ callable}, registry.directory.get? id = some variable_ →
      (after.get? variable_.module_).isSome → variable_.binding = .ready callable →
      ∃ found, after.directory.get? id = some found ∧ found.module_ = variable_.module_ ∧
        found.binding = variable_.binding) :
    Booked after subscriptions where
  modules := hsound
  table := hbooked.table
  clients := by
    intro id module_ hget
    rcases hmodules hget with hold | ⟨hlt, hclients⟩
    · exact hbooked.clients hold
    · rw [hclients, hbooked.countOn_eq_zero hlt, Nat.add_zero]
  module_le hget := Nat.le_trans (hbooked.module_le hget) hlast
  variable_le hget := Nat.le_trans (hbooked.variable_le hget) hlastVariable
  anchored := by
    intro id subscription hget hresident
    have hle := hbooked.module_le hget
    obtain ⟨module_, hmodule⟩ := Option.isSome_iff_exists.mp hresident
    have hold : (registry.get? subscription.interest.module_).isSome := by
      rcases hmodules hmodule with hold | ⟨hlt, _⟩
      · rw [hold]
        rfl
      · omega
    obtain ⟨variable_, callable, hvariable, howner, hbinding⟩ := hbooked.anchored hget hold
    rw [← howner] at hresident
    obtain ⟨found, hfound, hsame, hbound⟩ := hvariables hvariable hresident hbinding
    exact ⟨found, callable, hfound, hsame.trans howner, hbound.trans hbinding⟩

/-- Events and gates are no part of the accounts. -/
theorem of_tables_eq (hbooked : Booked registry subscriptions)
    (hmodules : after.modules = registry.modules) (hbyName : after.byName = registry.byName)
    (hlast : after.lastId = registry.lastId) (hdirectory : after.directory = registry.directory) :
    Booked after subscriptions := by
  have hget (id : ModuleId) : after.get? id = registry.get? id := by
    rw [Registry.get?, Registry.get?, hmodules]
  refine hbooked.of_registry (hbooked.modules.of_tables_eq hmodules hbyName hlast hdirectory)
    (Nat.le_of_eq hlast.symm) (Nat.le_of_eq (by rw [hdirectory])) ?_ ?_
  · intro id module_ hmodule
    rw [hget] at hmodule
    exact .inl hmodule
  · intro id variable_ callable hvariable _ _
    rw [hdirectory]
    exact ⟨variable_, hvariable, rfl, rfl⟩

/-- Installing a module leaves the books right. -/
theorem install (hbooked : Booked registry subscriptions) (prepared : Prepared) :
    Booked (registry.install prepared).1 subscriptions := by
  have hsound := hbooked.modules
  refine hbooked.of_registry hsound.install Registry.lastId_le_install hsound.keeps_install.last
    ?_ ?_
  · intro id module_ hget
    rcases Registry.get?_of_install hget with hold | ⟨rfl, hclients⟩
    · exact .inl hold
    · exact .inr ⟨Nat.lt_succ_self _, hclients⟩
  · intro id variable_ callable hvariable _ _
    exact ⟨variable_, hsound.get?_directory_install_of_get? hvariable, rfl, rfl⟩

/-- Unloading modules leaves the books right. -/
theorem unloadAll (hbooked : Booked registry subscriptions) (ids : List ModuleId) :
    Booked (registry.unloadAll ids) subscriptions := by
  have hsound := hbooked.modules
  refine hbooked.of_registry hsound.unloadAll (Nat.le_of_eq (by simp)) (Nat.le_of_eq (by simp))
    ?_ ?_
  · intro id module_ hget
    rw [Registry.get?_unloadAll] at hget
    split at hget
    · cases hget
    · exact .inl hget
  · intro id variable_ callable hvariable hresident _
    rw [Registry.get?_unloadAll] at hresident
    split at hresident
    · cases hresident
    · next hstays =>
      exact ⟨variable_, hsound.get?_directory_unloadAll_iff.mpr ⟨hvariable, hstays⟩, rfl, rfl⟩

/-- Variables may be bound and sampled. -/
theorem withDirectory {directory : Directory} (hbooked : Booked registry subscriptions)
    (hsound : directory.Sound) (hlast : directory.lastId = registry.directory.lastId)
    (halike : registry.directory.Alike directory)
    (hready : ∀ {id variable_ found callable}, registry.directory.get? id = some variable_ →
      directory.get? id = some found → variable_.binding = .ready callable →
      found.binding = variable_.binding) :
    Booked { registry with directory := directory } subscriptions := by
  refine hbooked.of_registry (hbooked.modules.withDirectory hsound halike) (Nat.le_refl _)
    (Nat.le_of_eq hlast.symm) (fun hget => .inl hget) ?_
  intro id variable_ callable hvariable _ hbinding
  obtain ⟨found, hfound, hprofile⟩ := halike.get?_after hvariable
  exact ⟨found, hfound, Variable.module_eq_of_profile_eq hprofile,
    hready hvariable hfound hbinding⟩

/-- Recording a sample leaves the books right. -/
theorem recordSample {variableId : VariableId} {arg : Option String} {now checksum : Nat}
    (hbooked : Booked registry subscriptions) :
    Booked { registry with
      directory := (registry.directory.recordSample variableId arg now checksum).1 }
      subscriptions := by
  refine hbooked.withDirectory hbooked.modules.directory.recordSample (by simp)
    Directory.alike_recordSample ?_
  intro id variable_ found callable hvariable hfound _
  rw [Directory.get?_recordSample, hvariable] at hfound
  split at hfound
  · cases hfound
    rfl
  · cases hfound
    rfl

/-! ### Making and removing subscriptions -/

/-- A subscription to a bound variable leaves the books right, with one more client of the
module. -/
theorem insert (hbooked : Booked registry subscriptions) {module_ : Module} {variable_ : Variable}
    {callable : Callable} (hmodule : registry.get? interest.module_ = some module_)
    (hvariable : registry.directory.get? interest.variable_ = some variable_)
    (howner : variable_.module_ = interest.module_)
    (hbinding : variable_.binding = .ready callable) :
    Booked (registry.recount interest.module_ (· + 1)) (subscriptions.insert interest).1 where
  modules := hbooked.modules.recount
  table := hbooked.table.insert
  clients := by
    intro id found hget
    obtain ⟨before, hbefore, rfl⟩ := Registry.get?_of_recount hget
    have hclients := hbooked.clients hbefore
    rw [hbooked.table.countOn_insert]
    by_cases heq : interest.module_ = id
    · simp only [if_pos heq, beq_iff_eq.mpr heq, Bool.toNat_true]
      omega
    · simp only [if_neg heq, beq_eq_false_iff_ne.mpr heq, Bool.toNat_false]
      omega
  module_le := by
    intro id subscription hget
    rw [Subscriptions.get?_insert] at hget
    split at hget
    · cases hget
      exact hbooked.modules.le_lastId hmodule
    · exact hbooked.module_le hget
  variable_le := by
    intro id subscription hget
    rw [Subscriptions.get?_insert] at hget
    split at hget
    · cases hget
      exact hbooked.modules.directory.le_lastId hvariable
    · exact hbooked.variable_le hget
  anchored := by
    intro id subscription hget hresident
    rw [Subscriptions.get?_insert] at hget
    split at hget
    · cases hget
      exact ⟨variable_, callable, hvariable, howner, hbinding⟩
    · obtain ⟨found, hfound⟩ := Option.isSome_iff_exists.mp hresident
      obtain ⟨before, hbefore, _⟩ := Registry.get?_of_recount hfound
      exact hbooked.anchored hget (by rw [hbefore]; rfl)

/-- Removing a subscription leaves the books right, with one client less. -/
theorem erase (hbooked : Booked registry subscriptions)
    (hget : subscriptions.get? id = some subscription) :
    Booked (registry.recount subscription.interest.module_ (· - 1)) (subscriptions.erase id) where
  modules := hbooked.modules.recount
  table := hbooked.table.erase
  clients := by
    intro other found hfound
    obtain ⟨before, hbefore, rfl⟩ := Registry.get?_of_recount hfound
    have hclients := hbooked.clients hbefore
    have hcount : (subscriptions.erase id).countOn other +
        (subscription.interest.module_ == other).toNat = subscriptions.countOn other :=
      hbooked.table.countOn_erase hget
    by_cases heq : subscription.interest.module_ = other
    · simp only [beq_iff_eq.mpr heq, Bool.toNat_true] at hcount
      simp only [if_pos heq]
      omega
    · simp only [beq_eq_false_iff_ne.mpr heq, Bool.toNat_false] at hcount
      simp only [if_neg heq]
      omega
  module_le hother := hbooked.module_le (Subscriptions.get?_of_erase hother).2
  variable_le hother := hbooked.variable_le (Subscriptions.get?_of_erase hother).2
  anchored := by
    intro other found hother hresident
    obtain ⟨module_, hmodule⟩ := Option.isSome_iff_exists.mp hresident
    obtain ⟨before, hbefore, _⟩ := Registry.get?_of_recount hmodule
    exact hbooked.anchored (Subscriptions.get?_of_erase hother).2 (by rw [hbefore]; rfl)

/-- Changing the flags of a subscription leaves the books right. -/
theorem modify {change : Subscription → Subscription} (hbooked : Booked registry subscriptions)
    (hflagging : Subscriptions.Flagging change) :
    Booked registry (subscriptions.modify id change) := by
  have halike : subscriptions.Alike (subscriptions.modify id change) :=
    Subscriptions.alike_modify hflagging
  refine ⟨hbooked.modules, hbooked.table.modify hflagging, ?_, ?_, ?_, ?_⟩
  · intro module_ found hget
    rw [Subscriptions.countOn_modify hflagging]
    exact hbooked.clients hget
  · intro other found hget
    obtain ⟨before, hbefore, heq⟩ := halike.symm.get?_after hget
    rw [← heq]
    exact hbooked.module_le hbefore
  · intro other found hget
    obtain ⟨before, hbefore, heq⟩ := halike.symm.get?_after hget
    rw [← heq]
    exact hbooked.variable_le hbefore
  · intro other found hget
    obtain ⟨before, hbefore, heq⟩ := halike.symm.get?_after hget
    rw [← heq]
    exact hbooked.anchored hbefore

/-- A module that nobody holds is on no subscription. -/
theorem countOn_of_clients_eq_zero (hbooked : Booked registry subscriptions) {moduleId : ModuleId}
    {module_ : Module} (hget : registry.get? moduleId = some module_)
    (hclients : module_.clients = 0) : subscriptions.countOn moduleId = 0 := by
  have hcount := hbooked.clients hget
  omega

end Booked

/-! ## The lists of the connections -/

/-- The lists of the connections share out the live subscriptions. -/
structure Listed (connections : Table ConnectionId Connection) (subscriptions : Subscriptions) :
    Prop where
  distinct : ∀ {connection entry}, connections.get? connection = some entry →
    entry.subscriptions.Nodup
  live : ∀ {connection entry id}, connections.get? connection = some entry →
    id ∈ entry.subscriptions →
    ∃ subscription, subscriptions.get? id = some subscription ∧
      subscription.interest.connection = connection
  listed : ∀ {id subscription}, subscriptions.get? id = some subscription →
    ∃ entry, connections.get? subscription.interest.connection = some entry ∧
      id ∈ entry.subscriptions

namespace Listed

variable {connections : Table ConnectionId Connection} {subscriptions after : Subscriptions}
  {connection : ConnectionId} {entry : Connection} {id : SubscriptionId}
  {subscription : Subscription} {interest : Interest}

/-- Without connections and subscriptions the lists share out what there is. -/
theorem empty : Listed .empty .empty where
  distinct hget := by cases hget
  live hget := by cases hget
  listed hget := by cases hget

/-- A list depends on no flag. -/
theorem of_alike (hlisted : Listed connections subscriptions)
    (halike : subscriptions.Alike after) : Listed connections after where
  distinct := hlisted.distinct
  live := by
    intro connection entry id hget hmem
    obtain ⟨subscription, hsubscription, hconnection⟩ := hlisted.live hget hmem
    obtain ⟨found, hfound, hinterest⟩ := halike.get?_after hsubscription
    exact ⟨found, hfound, by rw [hinterest, hconnection]⟩
  listed := by
    intro id found hget
    obtain ⟨subscription, hsubscription, hinterest⟩ := halike.symm.get?_after hget
    rw [← hinterest]
    exact hlisted.listed hsubscription

/-- A connection that was not tracked begins with an empty list. -/
theorem connect (hlisted : Listed connections subscriptions) {outbox : OutboxId}
    (hfresh : connections.get? connection = none) :
    Listed (connections.put connection ⟨outbox, []⟩) subscriptions where
  distinct := by
    intro other entry hget
    rw [Table.get?_put] at hget
    split at hget
    · cases hget
      exact List.nodup_nil
    · exact hlisted.distinct hget
  live := by
    intro other entry id hget hmem
    rw [Table.get?_put] at hget
    split at hget
    · cases hget
      cases hmem
    · exact hlisted.live hget hmem
  listed := by
    intro id subscription hget
    obtain ⟨entry, hentry, hmem⟩ := hlisted.listed hget
    refine ⟨entry, ?_, hmem⟩
    rw [Table.get?_put, if_neg, hentry]
    rintro rfl
    rw [hfresh] at hentry
    cases hentry

/-- A new subscription is put on the list of its connection. -/
theorem insert (hlisted : Listed connections subscriptions) (hsound : subscriptions.Sound)
    (htracked : connections.get? interest.connection = some entry) :
    Listed (connections.modify interest.connection fun entry =>
        { entry with subscriptions := entry.subscriptions ++ [(subscriptions.insert interest).2] })
      (subscriptions.insert interest).1 where
  distinct := by
    intro other found hget
    rw [Table.get?_modify] at hget
    split at hget
    · obtain ⟨before, hbefore, rfl⟩ := Option.map_eq_some_iff.mp hget
      refine List.nodup_append.mpr ⟨hlisted.distinct hbefore, by simp, ?_⟩
      rintro a ha b hb rfl
      obtain ⟨subscription, hsubscription, _⟩ := hlisted.live hbefore ha
      rw [List.mem_singleton.mp hb, Subscriptions.insert_snd, hsound.get?_nextId]
        at hsubscription
      cases hsubscription
    · exact hlisted.distinct hget
  live := by
    intro other found id hget hmem
    rw [Table.get?_modify] at hget
    have hold {entry : Connection} (hentry : connections.get? other = some entry)
        (hmem : id ∈ entry.subscriptions) :
        ∃ subscription, (subscriptions.insert interest).1.get? id = some subscription ∧
          subscription.interest.connection = other := by
      obtain ⟨subscription, hsubscription, hconnection⟩ := hlisted.live hentry hmem
      exact ⟨subscription, hsound.get?_insert_of_get? hsubscription, hconnection⟩
    split at hget
    · next heq =>
      obtain ⟨before, hbefore, rfl⟩ := Option.map_eq_some_iff.mp hget
      rcases List.mem_append.mp hmem with hmem | hmem
      · exact hold hbefore hmem
      · obtain rfl := List.mem_singleton.mp hmem
        exact ⟨_, by rw [Subscriptions.get?_insert, Subscriptions.insert_snd, if_pos rfl], heq⟩
    · exact hold hget hmem
  listed := by
    intro id subscription hget
    rw [Subscriptions.get?_insert] at hget
    split at hget
    · next heq =>
      cases hget
      refine ⟨_, by rw [Table.get?_modify, if_pos rfl, htracked]; rfl, ?_⟩
      simp [← heq, Subscriptions.insert_snd]
    · obtain ⟨found, hfound, hmem⟩ := hlisted.listed hget
      rw [Table.get?_modify]
      split
      · exact ⟨_, by rw [hfound]; rfl, List.mem_append_left _ hmem⟩
      · exact ⟨found, hfound, hmem⟩

/-- A subscription that is removed is taken off the list of its connection. -/
theorem erase (hlisted : Listed connections subscriptions)
    (hget : subscriptions.get? id = some subscription) :
    Listed (connections.modify subscription.interest.connection fun entry =>
        { entry with subscriptions := entry.subscriptions.filter fun other => other ≠ id })
      (subscriptions.erase id) where
  distinct := by
    intro other found hfound
    rw [Table.get?_modify] at hfound
    split at hfound
    · obtain ⟨before, hbefore, rfl⟩ := Option.map_eq_some_iff.mp hfound
      exact (hlisted.distinct hbefore).filter _
    · exact hlisted.distinct hfound
  live := by
    intro other found key hfound hmem
    have hstays {entry : Connection} (hentry : connections.get? other = some entry)
        (hmem : key ∈ entry.subscriptions) (hne : id ≠ key) :
        ∃ subscription, (subscriptions.erase id).get? key = some subscription ∧
          subscription.interest.connection = other := by
      obtain ⟨kept, hkept, hconnection⟩ := hlisted.live hentry hmem
      exact ⟨kept, by rw [Subscriptions.get?_erase, if_neg hne, hkept], hconnection⟩
    rw [Table.get?_modify] at hfound
    split at hfound
    · obtain ⟨before, hbefore, rfl⟩ := Option.map_eq_some_iff.mp hfound
      obtain ⟨hmem, hne⟩ := List.mem_filter.mp hmem
      exact hstays hbefore hmem (Ne.symm (by simpa using hne))
    · next hother =>
      refine hstays hfound hmem ?_
      rintro rfl
      obtain ⟨kept, hkept, hconnection⟩ := hlisted.live hfound hmem
      rw [hget] at hkept
      cases hkept
      exact hother hconnection
  listed := by
    intro key kept hkept
    obtain ⟨hne, hkept⟩ := Subscriptions.get?_of_erase hkept
    obtain ⟨found, hfound, hmem⟩ := hlisted.listed hkept
    rw [Table.get?_modify]
    split
    · refine ⟨_, by rw [hfound]; rfl, ?_⟩
      exact List.mem_filter.mpr ⟨hmem, by simpa using hne.symm⟩
    · exact ⟨found, hfound, hmem⟩

/-- A connection goes together with the subscriptions on its list. -/
theorem forget (hlisted : Listed connections subscriptions)
    (hentry : connections.get? connection = some entry)
    (hafter : ∀ id, after.get? id =
      if id ∈ entry.subscriptions then none else subscriptions.get? id) :
    Listed (connections.erase connection) after where
  distinct := by
    intro other found hfound
    rw [Table.get?_erase] at hfound
    split at hfound
    · cases hfound
    · exact hlisted.distinct hfound
  live := by
    intro other found id hfound hmem
    rw [Table.get?_erase] at hfound
    split at hfound
    · cases hfound
    · next hne =>
      obtain ⟨subscription, hsubscription, hconnection⟩ := hlisted.live hfound hmem
      refine ⟨subscription, ?_, hconnection⟩
      rw [hafter, if_neg, hsubscription]
      intro hgone
      obtain ⟨gone, hgone, hsame⟩ := hlisted.live hentry hgone
      rw [hsubscription] at hgone
      cases hgone
      exact hne (hsame.symm.trans hconnection)
  listed := by
    intro id subscription hget
    rw [hafter] at hget
    split at hget
    · cases hget
    · next hstays =>
      obtain ⟨found, hfound, hmem⟩ := hlisted.listed hget
      refine ⟨found, ?_, hmem⟩
      rw [Table.get?_erase, if_neg, hfound]
      rintro rfl
      rw [hentry] at hfound
      cases hfound
      exact hstays hmem

/-- Where nobody is connected nobody is subscribed. -/
theorem get?_eq_none (hlisted : Listed connections subscriptions)
    (hconnections : ∀ connection, connections.get? connection = none) :
    subscriptions.get? id = none := by
  cases hget : subscriptions.get? id with
  | none => rfl
  | some subscription =>
    obtain ⟨entry, hentry, _⟩ := hlisted.listed hget
    rw [hconnections] at hentry
    cases hentry

end Listed

/-! ## The modules of the subscriptions -/

/-- The module of every live subscription is resident. -/
def Held (registry : Registry) (subscriptions : Subscriptions) : Prop :=
  ∀ ⦃id subscription⦄, subscriptions.get? id = some subscription →
    (registry.get? subscription.interest.module_).isSome

/-- No live subscription is about to be removed. -/
def Settled (subscriptions : Subscriptions) : Prop :=
  ∀ ⦃id subscription⦄, subscriptions.get? id = some subscription → subscription.pending = false

end MetricsDaemon
