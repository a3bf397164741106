import MetricsDaemon.Proofs.Run

/-!
# Connections that leave

A connection that leaves takes its subscriptions with it. That comes to the same as removing
them one by one, in any order, and comes to the same in whatever order connections leave. The
reason is that the numbers of clients, the only thing that is counted down, are told by the
subscriptions that are left.
-/

namespace MetricsDaemon

/-- The module apart from the number of its clients. -/
def Module.uncounted (module_ : Module) : Module := { module_ with clients := 0 }

namespace State

variable {state before middle after first second : State} {id other : SubscriptionId}
  {connection : ConnectionId} {forced : Bool}

/-! ## What the removal of subscriptions leaves as it is -/

/-- Nothing is different but the subscriptions, the connections, and the clients of the modules. -/
structure Sheds (before after : State) : Prop where
  frame : after = { before with
    registry := { before.registry with modules := after.registry.modules }
    subscriptions := after.subscriptions
    connections := after.connections }
  last : after.subscriptions.lastId = before.subscriptions.lastId
  modules : ∀ id, (after.registry.get? id).map Module.uncounted =
    (before.registry.get? id).map Module.uncounted

/-- A state that stays as it is sheds nobody. -/
theorem Sheds.refl (state : State) : state.Sheds state := ⟨rfl, rfl, fun _ => rfl⟩

/-- What is shed twice in a row is shed. -/
theorem Sheds.trans (hfirst : before.Sheds middle) (hlast : middle.Sheds after) :
    before.Sheds after where
  frame := by
    refine hlast.frame.trans ?_
    rw [hfirst.frame]
  last := hlast.last.trans hfirst.last
  modules id := (hlast.modules id).trans (hfirst.modules id)

/-- To discharge a subscription sheds it and nothing else. -/
theorem sheds_discharge : state.Sheds (state.discharge id) := by
  cases hget : state.subscriptions.get? id with
  | none =>
    rw [discharge_of_get?_eq_none hget]
    exact .refl state
  | some subscription =>
    rw [discharge_of_get?_eq_some hget]
    refine ⟨rfl, rfl, fun module_ => ?_⟩
    rw [Registry.get?_recount]
    split
    · rw [Option.map_map]
      rfl
    · rfl

/-- To remove a subscription sheds it and nothing else. -/
theorem sheds_unsubscribe : state.Sheds (state.unsubscribe id).1 := by
  cases hget : state.subscriptions.get? id with
  | none =>
    rw [unsubscribe_of_get?_eq_none hget]
    exact .refl state
  | some subscription =>
    rw [unsubscribe_of_get?_eq_some hget]
    have hdischarge : state.Sheds (state.discharge id) := sheds_discharge
    have hdetach : (state.discharge id).Sheds
        ((state.discharge id).detach subscription.interest.connection id) :=
      ⟨rfl, rfl, fun _ => rfl⟩
    exact hdischarge.trans hdetach

/-- To remove any number of subscriptions sheds them and nothing else. -/
theorem sheds_unsubscribeAll (ids : List SubscriptionId) :
    state.Sheds (state.unsubscribeAll ids) := by
  induction ids generalizing state with
  | nil => exact .refl state
  | cons id ids ih => exact sheds_unsubscribe.trans ih

/-- To discharge any number of subscriptions sheds them and nothing else. -/
theorem sheds_dischargeAll (ids : List SubscriptionId) : state.Sheds (state.dischargeAll ids) := by
  induction ids generalizing state with
  | nil => exact .refl state
  | cons id ids ih => exact sheds_discharge.trans ih

/-- To forget a connection sheds its subscriptions and nothing else. -/
theorem sheds_forgetConnection : state.Sheds (state.forgetConnection connection).1 := by
  cases hget : state.connections.get? connection with
  | none =>
    rw [forgetConnection_of_get?_eq_none hget]
    exact .refl state
  | some entry =>
    rw [forgetConnection_of_get?_eq_some hget]
    have herase : state.Sheds { state with connections := state.connections.erase connection } :=
      ⟨rfl, rfl, fun _ => rfl⟩
    exact herase.trans (sheds_dischargeAll _)

/-- To forget any number of connections sheds their subscriptions and nothing else. -/
theorem sheds_forgetAll (ids : List ConnectionId) : state.Sheds (state.forgetAll ids) := by
  induction ids generalizing state with
  | nil => exact .refl state
  | cons id ids ih => exact sheds_forgetConnection.trans ih

/-- Shedding brings no module. -/
theorem Sheds.get?_eq_none (hsheds : before.Sheds after) {id : ModuleId}
    (hget : before.registry.get? id = none) : after.registry.get? id = none := by
  have hmodules := hsheds.modules id
  rw [hget] at hmodules
  exact Option.map_eq_none_iff.mp hmodules

/-- A module stays, with any number of clients. -/
theorem Sheds.exists_module (hsheds : before.Sheds after) {id : ModuleId} {module_ : Module}
    (hget : before.registry.get? id = some module_) :
    ∃ clients, after.registry.get? id = some { module_ with clients := clients } := by
  have hmodules := hsheds.modules id
  rw [hget] at hmodules
  obtain ⟨found, hfound, hsame⟩ := Option.map_eq_some_iff.mp hmodules
  have hwhole : found = { found.uncounted with clients := found.clients } := rfl
  rw [hsame] at hwhole
  exact ⟨found.clients, hfound.trans (congrArg some hwhole)⟩

/-- As long as the books are right, the subscriptions tell the number of clients of a module. -/
theorem Sheds.get?_eq {id : ModuleId} (hfirst : before.Sheds first)
    (hsecond : before.Sheds second) (hbooked : Booked first.registry first.subscriptions)
    (hbooked' : Booked second.registry second.subscriptions)
    (hsubscriptions : first.subscriptions = second.subscriptions) :
    first.registry.get? id = second.registry.get? id := by
  cases hget : before.registry.get? id with
  | none => rw [hfirst.get?_eq_none hget, hsecond.get?_eq_none hget]
  | some module_ =>
    obtain ⟨clients, hmodule⟩ := hfirst.exists_module hget
    obtain ⟨clients', hmodule'⟩ := hsecond.exists_module hget
    have hclients : clients = module_.pinned.toNat + first.subscriptions.countOn id :=
      hbooked.clients hmodule
    have hclients' : clients' = module_.pinned.toNat + second.subscriptions.countOn id :=
      hbooked'.clients hmodule'
    rw [hmodule, hmodule', hclients, hclients', hsubscriptions]

/-- So the subscriptions and the connections that are left tell the whole state. -/
theorem Sheds.unique (hfirst : before.Sheds first) (hsecond : before.Sheds second)
    (hbooked : Booked first.registry first.subscriptions)
    (hbooked' : Booked second.registry second.subscriptions)
    (hsubscriptions : ∀ id, first.subscriptions.get? id = second.subscriptions.get? id)
    (hconnections : first.connections = second.connections) : first = second := by
  have htable : first.subscriptions = second.subscriptions :=
    hbooked.table.ext hbooked'.table (hfirst.last.trans hsecond.last.symm) hsubscriptions
  have hnumber : Function.Injective ModuleId.number := by
    rintro ⟨first⟩ ⟨second⟩ hnumber
    exact congrArg ModuleId.mk hnumber
  have hmodules : first.registry.modules = second.registry.modules :=
    hbooked.modules.counted.ext hnumber hbooked'.modules.counted fun _ =>
      hfirst.get?_eq hsecond hbooked hbooked' htable
  rw [hfirst.frame, hsecond.frame, hmodules, htable, hconnections]

/-! ## What is left when a connection leaves -/

/-- A connection lists the subscriptions that are on it. -/
theorem mem_subscriptionsOf_iff (hlisted : Listed state.connections state.subscriptions) :
    id ∈ state.subscriptionsOf connection ↔ ∃ subscription,
      state.subscriptions.get? id = some subscription ∧
        subscription.interest.connection = connection := by
  constructor
  · intro hmem
    cases hentry : state.connections.get? connection with
    | none => simp [subscriptionsOf, hentry] at hmem
    | some entry =>
      refine hlisted.live hentry ?_
      simpa [subscriptionsOf, hentry] using hmem
  · rintro ⟨subscription, hget, rfl⟩
    obtain ⟨entry, hentry, hmem⟩ := hlisted.listed hget
    simpa [subscriptionsOf, hentry] using hmem

/-- A connection lists no subscription twice. -/
theorem nodup_subscriptionsOf (hlisted : Listed state.connections state.subscriptions) :
    (state.subscriptionsOf connection).Nodup := by
  cases hentry : state.connections.get? connection with
  | none => simp [subscriptionsOf, hentry]
  | some entry => simpa [subscriptionsOf, hentry] using hlisted.distinct hentry

/-- The list of a connection is, in some order, its part of the table. -/
theorem perm_subscriptionsOf (htable : state.subscriptions.Sound)
    (hlisted : Listed state.connections state.subscriptions) :
    (state.subscriptionsOf connection).Perm
      ((state.subscriptions.toList.filter fun subscription =>
        subscription.interest.connection == connection).map Subscription.id) := by
  have hdistinct : ((state.subscriptions.toList.filter fun subscription =>
      subscription.interest.connection == connection).map Subscription.id).Nodup := by
    refine List.Nodup.sublist (List.filter_sublist.map _) ?_
    rw [htable.map_id_toList]
    exact htable.counted.unique
  refine (List.perm_ext_iff_of_nodup (nodup_subscriptionsOf hlisted) hdistinct).mpr fun id => ?_
  simp only [mem_subscriptionsOf_iff hlisted, List.mem_map, List.mem_filter,
    htable.mem_toList_iff, beq_iff_eq]
  constructor
  · rintro ⟨subscription, hget, hconnection⟩
    have hid : subscription.id = id := htable.numbered hget
    exact ⟨subscription, ⟨by rwa [hid], hconnection⟩, hid⟩
  · rintro ⟨subscription, ⟨hget, hconnection⟩, rfl⟩
    exact ⟨subscription, hget, hconnection⟩

/-- A connection that is forgotten is erased, and those that it lists are discharged. -/
theorem forgetConnection_fst (state : State) (connection : ConnectionId) :
    (state.forgetConnection connection).1 =
      { state with connections := state.connections.erase connection }.dischargeAll
        (state.subscriptionsOf connection) := by
  cases hget : state.connections.get? connection with
  | none =>
    rw [forgetConnection_of_get?_eq_none hget, subscriptionsOf, hget,
      Table.erase_of_get?_eq_none hget]
    rfl
  | some entry =>
    rw [forgetConnection_of_get?_eq_some hget, subscriptionsOf, hget]
    rfl

/-- Only the forgotten connection leaves the table. -/
theorem connections_forgetConnection : (state.forgetConnection connection).1.connections =
    state.connections.erase connection := by
  rw [forgetConnection_fst, connections_dischargeAll]

/-- The subscriptions of the others stay. -/
theorem get?_subscriptions_forgetConnection
    (hlisted : Listed state.connections state.subscriptions) :
    (state.forgetConnection connection).1.subscriptions.get? id =
      (state.subscriptions.get? id).filter fun subscription =>
        decide (subscription.interest.connection ≠ connection) := by
  rw [forgetConnection_fst, get?_subscriptions_dischargeAll]
  split
  · next hmem =>
    obtain ⟨subscription, hget, hconnection⟩ := (mem_subscriptionsOf_iff hlisted).mp hmem
    simp [hget, Option.filter, hconnection]
  · next hmem =>
    show state.subscriptions.get? id = _
    cases hget : state.subscriptions.get? id with
    | none => rfl
    | some subscription =>
      have hother : subscription.interest.connection ≠ connection :=
        fun heq => hmem ((mem_subscriptionsOf_iff hlisted).mpr ⟨subscription, hget, heq⟩)
      simp [Option.filter, hother]

/-- Every one of different live subscriptions is counted. -/
theorem foldl_dropOne_snd {ids : List SubscriptionId} (progress : State × Nat)
    (hdistinct : ids.Nodup)
    (hlive : ∀ id ∈ ids, (progress.1.subscriptions.get? id).isSome) :
    (ids.foldl dropOne progress).2 = progress.2 + ids.length := by
  induction ids generalizing progress with
  | nil => rfl
  | cons id rest ih =>
    obtain ⟨hnot, hrest⟩ := List.nodup_cons.mp hdistinct
    obtain ⟨subscription, hget⟩ := Option.isSome_iff_exists.mp (hlive id List.mem_cons_self)
    have hcount : (dropOne progress id).2 = progress.2 + 1 := by simp [dropOne, hget]
    rw [List.foldl_cons, ih _ hrest, hcount, List.length_cons]
    · omega
    · intro other hmem
      have hne : ¬id = other := fun heq => hnot (heq ▸ hmem)
      rw [dropOne_fst, get?_subscriptions_discharge, if_neg hne]
      exact hlive other (List.mem_cons_of_mem _ hmem)

/-- The answer is how many subscriptions the connection listed. -/
theorem forgetConnection_snd (hlisted : Listed state.connections state.subscriptions) :
    (state.forgetConnection connection).2 = (state.subscriptionsOf connection).length := by
  cases hget : state.connections.get? connection with
  | none => simp [forgetConnection_of_get?_eq_none hget, subscriptionsOf, hget]
  | some entry =>
    have hlive : ∀ id ∈ entry.subscriptions, (state.subscriptions.get? id).isSome := by
      intro id hmem
      obtain ⟨subscription, hsubscription, _⟩ := hlisted.live hget hmem
      exact Option.isSome_iff_exists.mpr ⟨subscription, hsubscription⟩
    have hcount := foldl_dropOne_snd
      ({ state with connections := state.connections.erase connection }, 0)
      (hlisted.distinct hget) hlive
    simpa [forgetConnection, subscriptionsOf, hget] using hcount

/-! ## One by one -/

/-- Removing the subscriptions of a connection changes no list but its own. -/
theorem erase_connections_unsubscribeAll {ids : List SubscriptionId}
    (hown : ∀ id ∈ ids, ∀ subscription, state.subscriptions.get? id = some subscription →
      subscription.interest.connection = connection) :
    (state.unsubscribeAll ids).connections.erase connection =
      state.connections.erase connection := by
  induction ids generalizing state with
  | nil => rfl
  | cons id rest ih =>
    have hfirst : (state.unsubscribe id).1.connections.erase connection =
        state.connections.erase connection := by
      cases hget : state.subscriptions.get? id with
      | none => rw [unsubscribe_of_get?_eq_none hget]
      | some subscription =>
        rw [unsubscribe_of_get?_eq_some hget, hown id List.mem_cons_self subscription hget, detach,
          connections_discharge]
        exact Table.erase_modify_self ..
    refine Eq.trans (ih fun other hmem subscription hget => ?_) hfirst
    exact hown other (List.mem_cons_of_mem _ hmem) subscription
      (leaves_unsubscribe.subscriptions hget)

/-- What comes of it when a connection leaves. -/
structure Departs (state : State) (connection : ConnectionId) : Prop where
  /-- The list of the connection has its live subscriptions, each once. -/
  list : (state.subscriptionsOf connection).Nodup ∧
    ∀ id, id ∈ state.subscriptionsOf connection ↔ ∃ subscription,
      state.subscriptions.get? id = some subscription ∧
        subscription.interest.connection = connection
  /-- Removing them one by one in any order finds each of them, leaves an empty list, and comes to
  the same once the connection is forgotten. -/
  oneByOne : ∀ ids : List SubscriptionId, ids.Perm (state.subscriptionsOf connection) →
    (∀ front id back, ids = front ++ id :: back →
      ((state.unsubscribeAll front).unsubscribe id).2 = true) ∧
    (state.unsubscribeAll ids).subscriptionsOf connection = [] ∧
    ((state.unsubscribeAll ids).forgetConnection connection).1 =
      (state.forgetConnection connection).1
  /-- The answer is their number. -/
  number : (state.forgetConnection connection).2 =
    state.subscriptions.toList.countP fun subscription =>
      subscription.interest.connection == connection
  /-- The other connections are left as they are, with their lists. -/
  connections : (state.forgetConnection connection).1.connections =
    state.connections.erase connection
  /-- So are the subscriptions of the others. -/
  subscriptions : ∀ id, (state.forgetConnection connection).1.subscriptions.get? id =
    (state.subscriptions.get? id).filter fun subscription =>
      decide (subscription.interest.connection ≠ connection)
  /-- Every resident module stays, with as many clients less as the connection had subscriptions on
  it. -/
  modules : ∀ id, (state.forgetConnection connection).1.registry.get? id =
    (state.registry.get? id).map fun module_ =>
      { module_ with
        clients := module_.clients - state.subscriptions.toList.countP fun subscription =>
          subscription.interest.connection == connection &&
            subscription.interest.module_ == id }
  /-- No module had fewer. -/
  enough : ∀ id module_, state.registry.get? id = some module_ →
    (state.subscriptions.toList.countP fun subscription =>
      subscription.interest.connection == connection &&
        subscription.interest.module_ == id) ≤ module_.clients
  /-- Nothing else is different: no variable, no sample, no queue, and nothing was torn down. -/
  frame : (state.forgetConnection connection).1 = { state with
    registry := { state.registry with
      modules := (state.forgetConnection connection).1.registry.modules }
    subscriptions := (state.forgetConnection connection).1.subscriptions
    connections := (state.forgetConnection connection).1.connections }

/-- When all its subscriptions were removed a connection lists none. -/
theorem subscriptionsOf_unsubscribeAll {ids : List SubscriptionId}
    (hlisted : Listed state.connections state.subscriptions)
    (hall : ∀ id, id ∈ ids ↔ id ∈ state.subscriptionsOf connection) :
    (state.unsubscribeAll ids).subscriptionsOf connection = [] := by
  refine List.eq_nil_iff_forall_not_mem.mpr fun id hmem => ?_
  obtain ⟨subscription, hget, hconnection⟩ :=
    (mem_subscriptionsOf_iff (listed_unsubscribeAll ids hlisted)).mp hmem
  rw [get?_subscriptions_unsubscribeAll] at hget
  split at hget
  · cases hget
  · next hnot =>
    exact hnot ((hall id).mpr ((mem_subscriptionsOf_iff hlisted).mpr
      ⟨subscription, hget, hconnection⟩))

/-- To remove the subscriptions of a connection first makes no difference to forgetting it. -/
theorem Sound.forgetConnection_unsubscribeAll {ids : List SubscriptionId}
    (hsound : state.Sound forced)
    (hall : ∀ id, id ∈ ids ↔ id ∈ state.subscriptionsOf connection) :
    ((state.unsubscribeAll ids).forgetConnection connection).1 =
      (state.forgetConnection connection).1 := by
  have hbooked := booked_unsubscribeAll ids hsound.booked
  have hlisted := listed_unsubscribeAll ids hsound.listed
  have hsheds : state.Sheds ((state.unsubscribeAll ids).forgetConnection connection).1 :=
    (sheds_unsubscribeAll ids).trans sheds_forgetConnection
  refine hsheds.unique sheds_forgetConnection (booked_forgetConnection hbooked)
    (booked_forgetConnection hsound.booked) (fun id => ?_) ?_
  · rw [get?_subscriptions_forgetConnection hlisted,
      get?_subscriptions_forgetConnection hsound.listed, get?_subscriptions_unsubscribeAll]
    split
    · next hmem =>
      obtain ⟨subscription, hget, hconnection⟩ :=
        (mem_subscriptionsOf_iff hsound.listed).mp ((hall id).mp hmem)
      simp [hget, Option.filter, hconnection]
    · rfl
  · rw [connections_forgetConnection, connections_forgetConnection,
      erase_connections_unsubscribeAll]
    intro id hmem subscription hget
    obtain ⟨same, hsame, hconnection⟩ :=
      (mem_subscriptionsOf_iff hsound.listed).mp ((hall id).mp hmem)
    rw [hget, Option.some.injEq] at hsame
    rw [hsame, hconnection]

/-! ## The clients of the modules -/

/-- Those who hold a module are the subscriptions of the connection and those that are left. -/
theorem Sound.countOn_forgetConnection (hsound : state.Sound forced) (connection : ConnectionId)
    (moduleId : ModuleId) :
    state.subscriptions.countOn moduleId =
      (state.forgetConnection connection).1.subscriptions.countOn moduleId +
        state.subscriptions.toList.countP fun subscription =>
          subscription.interest.connection == connection &&
            subscription.interest.module_ == moduleId := by
  have htable := hsound.booked.table
  have hlater (id : SubscriptionId) : (state.forgetConnection connection).1.subscriptions.get? id =
      (state.subscriptions.get? id).filter fun subscription =>
        decide (subscription.interest.connection ≠ connection) :=
    get?_subscriptions_forgetConnection hsound.listed
  rw [htable.countOn_eq_add_endedOn (booked_forgetConnection hsound.booked).table]
  · congr 1
    refine List.countP_congr fun subscription hmem => ?_
    rw [hlater, htable.mem_toList_iff.mp hmem]
    by_cases hconnection : subscription.interest.connection = connection <;>
      simp [Option.filter, hconnection]
  · intro id found hget
    exact ⟨found, leaves_forgetConnection.subscriptions hget, rfl⟩

/-- In a state that is in order every connection departs as it should. -/
theorem departs_of_sound (hsound : state.Sound forced) (connection : ConnectionId) :
    state.Departs connection where
  list := ⟨nodup_subscriptionsOf hsound.listed, fun _ => mem_subscriptionsOf_iff hsound.listed⟩
  oneByOne ids hperm := by
    have hall (id : SubscriptionId) : id ∈ ids ↔ id ∈ state.subscriptionsOf connection :=
      hperm.mem_iff
    refine ⟨?_, subscriptionsOf_unsubscribeAll hsound.listed hall,
      hsound.forgetConnection_unsubscribeAll hall⟩
    rintro front id back rfl
    obtain ⟨subscription, hget, _⟩ :=
      (mem_subscriptionsOf_iff hsound.listed).mp ((hall id).mp (by simp))
    have hnot : id ∉ front := fun hmem =>
      List.disjoint_of_nodup_append (hperm.nodup_iff.mpr (nodup_subscriptionsOf hsound.listed)) hmem
        List.mem_cons_self
    have hstill : (state.unsubscribeAll front).subscriptions.get? id = some subscription := by
      rw [get?_subscriptions_unsubscribeAll, if_neg hnot, hget]
    rw [unsubscribe_of_get?_eq_some hstill]
  number := by
    rw [forgetConnection_snd hsound.listed,
      (perm_subscriptionsOf hsound.booked.table hsound.listed).length_eq, List.length_map,
      List.countP_eq_length_filter]
  connections := connections_forgetConnection
  subscriptions _ := get?_subscriptions_forgetConnection hsound.listed
  modules id := by
    have hsheds : state.Sheds (state.forgetConnection connection).1 := sheds_forgetConnection
    cases hget : state.registry.get? id with
    | none => exact hsheds.get?_eq_none hget
    | some module_ =>
      obtain ⟨clients, hmodule⟩ := hsheds.exists_module hget
      have hbefore := hsound.booked.clients hget
      have hafter : clients = module_.pinned.toNat +
          (state.forgetConnection connection).1.subscriptions.countOn id :=
        (booked_forgetConnection hsound.booked).clients hmodule
      rw [hmodule, Option.map_some, hafter, hbefore,
        hsound.countOn_forgetConnection connection id, ← Nat.add_assoc, Nat.add_sub_cancel]
  enough id module_ hget := by
    have hclients := hsound.booked.clients hget
    rw [hclients, hsound.countOn_forgetConnection connection id]
    omega
  frame := sheds_forgetConnection.frame

/-! ## Many connections -/

/-- The connections that are left are the others, in their order. -/
theorem entries_forgetAll (ids : List ConnectionId) :
    (state.forgetAll ids).connections.entries =
      state.connections.entries.filter fun entry => decide (entry.1 ∉ ids) := by
  induction ids generalizing state with
  | nil => simp [forgetAll]
  | cons id rest ih =>
    have hstep : state.forgetAll (id :: rest) = (state.forgetConnection id).1.forgetAll rest := rfl
    rw [hstep, ih, connections_forgetConnection, Table.erase, List.filter_filter]
    refine List.filter_congr fun entry _ => ?_
    simp [Bool.and_comm]

/-- The subscriptions that are left are those on the other connections. -/
theorem Sound.get?_subscriptions_forgetAll (hsound : state.Sound forced)
    (ids : List ConnectionId) :
    (state.forgetAll ids).subscriptions.get? id =
      (state.subscriptions.get? id).filter fun subscription =>
        decide (subscription.interest.connection ∉ ids) := by
  induction ids generalizing state with
  | nil =>
    show state.subscriptions.get? id = _
    cases state.subscriptions.get? id <;> simp [Option.filter]
  | cons first rest ih =>
    have hstep : state.forgetAll (first :: rest) =
        (state.forgetConnection first).1.forgetAll rest := rfl
    rw [hstep, ih (hsound.forgetConnection first),
      get?_subscriptions_forgetConnection hsound.listed, Option.filter_filter]
    refine congrArg (Option.filter · _) (funext fun subscription => ?_)
    simp

/-- Only who leaves counts, in whatever order. -/
theorem Sound.forgetAll_congr {ids others : List ConnectionId} (hsound : state.Sound forced)
    (hsame : ∀ connection, connection ∈ ids ↔ connection ∈ others) :
    state.forgetAll ids = state.forgetAll others := by
  refine (sheds_forgetAll ids).unique (sheds_forgetAll others) (hsound.forgetAll ids).booked
    (hsound.forgetAll others).booked (fun id => ?_) ?_
  · simp only [hsound.get?_subscriptions_forgetAll, hsame]
  · have hentries : (state.forgetAll ids).connections.entries =
        (state.forgetAll others).connections.entries := by
      simp only [entries_forgetAll, hsame]
    cases hfirst : (state.forgetAll ids).connections
    cases hsecond : (state.forgetAll others).connections
    rw [hfirst, hsecond] at hentries
    exact congrArg Table.mk hentries

end State

/-- There are two ways to lose subscriptions, and they agree. In every state of a run, forgetting a
connection comes to the same as removing its subscriptions one by one and forgetting it then; the
answer is their number, each module loses as many clients, and nothing of anybody else is touched.
And whichever connections leave, the order in which they do makes no difference. -/
theorem Run.Reachable.forgetConnection_eq_unsubscribe_each {run : Run}
    (hreach : Run.Reachable true run) :
    (∀ connection, run.world.state.Departs connection) ∧
      ∀ ids others : List ConnectionId,
        (∀ connection, connection ∈ ids ↔ connection ∈ others) →
        run.world.state.forgetAll ids = run.world.state.forgetAll others :=
  ⟨State.departs_of_sound hreach.sound.state, fun _ _ => hreach.sound.state.forgetAll_congr⟩

namespace Sample

/-- The state with two clients, one of them subscribed twice to the same variable. -/
def frequented : State :=
  let both := ((furnished.connect Outbox.defaultCapacity).1.connect Outbox.defaultCapacity).1
  ([⟨⟨1⟩, "a", "door", none, false⟩, ⟨⟨2⟩, "b", "door", none, false⟩,
    ⟨⟨1⟩, "c", "door", some "back", true⟩] : List Request).foldl
      (fun state request => (state.subscribe request).1) both

/-- A daemon in this state. -/
def resort : Run := { empty with world := empty.world.withState frequented }

/-- The daemon can come to its three clients. -/
theorem reachable_resort : Run.Reachable true resort := by
  have hstart : Run.Reachable true empty := .start _ .everything .default rfl
  have hsteps : State.Steps true empty.world.state resort.world.state :=
    (((((Relation.ReflTransGen.single (.installed _)).tail (.connected _ _ _ rfl)).tail
      (.connected _ _ _ rfl)).tail (.subscribed _)).tail (.subscribed _)).tail (.subscribed _)
  exact hstart.outside hsteps

end Sample

/-- The client with two subscriptions leaves, and the module keeps the client that the other one
is. -/
theorem forgetConnection_eq_unsubscribe_each_frequented :
    Sample.frequented.Departs ⟨1⟩ ∧ (Sample.frequented.forgetConnection ⟨1⟩).2 = 2 ∧
      Sample.frequented.forgetAll [⟨1⟩, ⟨2⟩] = Sample.frequented.forgetAll [⟨2⟩, ⟨1⟩, ⟨2⟩] :=
  ⟨(Run.Reachable.forgetConnection_eq_unsubscribe_each Sample.reachable_resort).1 ⟨1⟩, rfl,
    (Run.Reachable.forgetConnection_eq_unsubscribe_each Sample.reachable_resort).2
      [⟨1⟩, ⟨2⟩] [⟨2⟩, ⟨1⟩, ⟨2⟩] (by simp)⟩

end MetricsDaemon
