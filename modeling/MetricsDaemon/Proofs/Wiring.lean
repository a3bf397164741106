import MetricsDaemon.Proofs.Gathering
import MetricsDaemon.Proofs.Run

/-!
# Every connection has a queue of its own

A connection that is made gets a new queue, under the next number. As long as this count
never goes back, no two connections send into the same queue, whatever else happens, and
what happens to the queue of one connection is no concern of the others.
-/

namespace MetricsDaemon

open Relation (ReflTransGen)

namespace State

variable {forced : Bool} {state before after : State} {connection : ConnectionId}
  {id : SubscriptionId} {request : Request}

/-- The queue that a connection sends into. -/
def outboxOf (state : State) (connection : ConnectionId) : Option OutboxId :=
  (state.connections.get? connection).map Connection.outbox

/-- No two connections send into the same queue, and all queues are numbered by the count. -/
structure Wired (state : State) : Prop where
  known : ∀ connection outbox, state.outboxOf connection = some outbox →
    outbox.number ≤ state.lastOutbox
  own : ∀ first second outbox, state.outboxOf first = some outbox →
    state.outboxOf second = some outbox → first = second

/-! ## Who sends into which queue -/

/-- A request leaves every connection with its queue. -/
theorem outboxOf_subscribe :
    (state.subscribe request).1.outboxOf connection = state.outboxOf connection := by
  rcases state.subscribe_cases request with h | ⟨_, unit, _, h⟩ |
    ⟨_, variable_, unit, _, _, _, _, h⟩
  · rw [h]
  · rw [h, outboxOf, connections_bindMethod]
    rfl
  · rw [h, addSubscription_fst, outboxOf, connections_bindMethod, Table.get?_modify, outboxOf]
    split
    · cases state.connections.get? connection <;> rfl
    · rfl

/-- A forgotten connection has no queue any more, and the others keep theirs. -/
theorem outboxOf_forgetConnection {other : ConnectionId} :
    (state.forgetConnection other).1.outboxOf connection =
      if other = connection then none else state.outboxOf connection := by
  rw [outboxOf, get?_connections_forgetConnection]
  split <;> rfl

/-- A new connection gets the next queue, and the others keep theirs. -/
theorem outboxOf_reconnect {other : ConnectionId} {last capacity : Nat} :
    ({ state with lastConnection := last }.reconnect other capacity).1.outboxOf connection =
      if other = connection then some ⟨state.lastOutbox + 1⟩ else state.outboxOf connection := by
  have hput : ({ state with lastConnection := last }.reconnect other capacity).1.connections =
      state.connections.put other ⟨⟨state.lastOutbox + 1⟩, []⟩ := rfl
  rw [outboxOf, hput, Table.get?_put]
  split <;> rfl

/-! ## Applying a tick opens no queue -/

/-- To serve a subscription makes no queue. -/
theorem lastOutbox_serveSubscription {subscription : Subscription} {result : Result} :
    (state.serveSubscription subscription result).1.lastOutbox = state.lastOutbox := by
  have hsend (line : String) :
      (state.send subscription.interest.connection line).1.lastOutbox = state.lastOutbox := by
    rcases state.send_cases subscription.interest.connection line with
      ⟨h, _⟩ | ⟨_, _, _, _, h⟩ <;> rw [h]
  unfold serveSubscription
  split
  · dsimp only
    have hline := hsend (pushLine subscription.interest.clientId result.type result.value)
    split <;> next h => rwa [h] at hline
  · rfl

/-- To serve all targets makes no queue. -/
theorem lastOutbox_serveAll {results : List (Option Result)}
    {targets : List (SubscriptionId × Nat)} :
    (serveAll results targets state).1.lastOutbox = state.lastOutbox := by
  induction targets generalizing state with
  | nil => rfl
  | cons target targets ih =>
    rw [serveAll_cons, ih, serveOne, serveTarget]
    split
    · exact lastOutbox_serveSubscription
    · rfl

/-- To mark subscriptions makes no queue. -/
theorem lastOutbox_markAll (ids : List SubscriptionId) :
    (state.markAll ids).lastOutbox = state.lastOutbox := by
  induction ids generalizing state with
  | nil => rfl
  | cons id ids ih => exact ih

/-- To remove subscriptions makes no queue. -/
theorem lastOutbox_unsubscribeAll (ids : List SubscriptionId) :
    (state.unsubscribeAll ids).lastOutbox = state.lastOutbox := by
  induction ids generalizing state with
  | nil => rfl
  | cons id ids ih =>
    have hrest : (state.unsubscribeAll (id :: ids)).lastOutbox =
        (state.unsubscribe id).1.lastOutbox := ih
    rw [hrest, unsubscribe]
    split <;> rfl

/-- To apply a tick makes no queue. -/
theorem lastOutbox_apply {plan : Plan} {values : List (Option Value)} {now : Nat} :
    (state.apply plan values now).state.lastOutbox = state.lastOutbox := by
  have hswept : (state.apply plan values now).state.lastOutbox =
      (state.retired plan values now).lastOutbox := by
    rw [state_apply]
    rfl
  obtain ⟨directory, hrecorded⟩ := state.recorded_eq plan values now
  rw [hswept, retired, lastOutbox_unsubscribeAll, marked, lastOutbox_markAll, served,
    lastOutbox_serveAll, hrecorded]
  rfl

/-- To apply a tick leaves every connection with its queue. -/
theorem outboxOf_apply {plan : Plan} {values : List (Option Value)} {now : Nat}
    (hbooked : Booked state.registry state.subscriptions) :
    (state.apply plan values now).state.outboxOf connection = state.outboxOf connection := by
  have hroutes : (state.served plan values now).1.Routes (state.apply plan values now).state :=
    routes_apply
  have hserves := serves_served plan values now hbooked
  rw [outboxOf, hroutes.connections, hserves.connections, connections_recorded]
  rfl

/-! ## Steps -/

/-- A step in which the count of the queues does not go back. -/
def Counts (forced : Bool) (before after : State) : Prop :=
  Step forced before after ∧ before.lastOutbox ≤ after.lastOutbox

/-- Where nobody gets another queue, everybody keeps their own. -/
theorem Wired.of_outboxOf (hwired : before.Wired) (hlast : before.lastOutbox ≤ after.lastOutbox)
    (hkept : ∀ connection outbox, after.outboxOf connection = some outbox →
      before.outboxOf connection = some outbox) : after.Wired where
  known connection outbox hget :=
    Nat.le_trans (hwired.known connection outbox (hkept connection outbox hget)) hlast
  own first second outbox hfirst hsecond :=
    hwired.own first second outbox (hkept first outbox hfirst) (hkept second outbox hsecond)

/-- A new connection keeps the state wired, for its queue has a greater number than all others. -/
theorem Wired.reconnect {last capacity : Nat} (hwired : state.Wired) :
    ({ state with lastConnection := last }.reconnect connection capacity).1.Wired where
  known other outbox hget := by
    rw [outboxOf_reconnect] at hget
    split at hget
    · cases hget
      exact Nat.le_refl _
    · exact Nat.le_succ_of_le (hwired.known other outbox hget)
  own := by
    have hnew (other : ConnectionId) : state.outboxOf other ≠ some ⟨state.lastOutbox + 1⟩ := by
      intro hget
      have hle := hwired.known other _ hget
      exact Nat.not_succ_le_self _ hle
    intro first second outbox hfirst hsecond
    rw [outboxOf_reconnect] at hfirst hsecond
    split at hfirst
    · next heq =>
      split at hsecond
      · next hsame => rw [← heq, ← hsame]
      · cases hfirst
        exact absurd hsecond (hnew second)
    · split at hsecond
      · cases hsecond
        exact absurd hfirst (hnew first)
      · exact hwired.own first second outbox hfirst hsecond

/-- A step that counts the queues on keeps the state wired. -/
theorem Wired.counts (hwired : before.Wired) (hcounts : Counts forced before after) :
    after.Wired := by
  obtain ⟨hstep, hlast⟩ := hcounts
  cases hstep with
  | connected => exact hwired.reconnect
  | noted | provided | gated | relayed | installed | swept | unloaded =>
    exact hwired.of_outboxOf hlast fun _ _ hget => hget
  | subscribed =>
    refine hwired.of_outboxOf hlast fun connection outbox hget => ?_
    rwa [outboxOf_subscribe] at hget
  | unsubscribed =>
    refine hwired.of_outboxOf hlast fun connection outbox hget => ?_
    rwa [outboxOf, routes_unsubscribe.connections] at hget
  | forgotten =>
    refine hwired.of_outboxOf hlast fun connection outbox hget => ?_
    rw [outboxOf_forgetConnection] at hget
    split at hget
    · cases hget
    · exact hget
  | stopped =>
    refine hwired.of_outboxOf hlast fun connection outbox hget => ?_
    rw [shutdown_eq, outboxOf, get?_connections_emptied] at hget
    cases hget
  | planned now =>
    refine hwired.of_outboxOf hlast fun connection outbox hget => ?_
    rwa [outboxOf, (prebinds_plan before now).connections] at hget

/-- Steps that count the queues on are steps. -/
theorem steps_of_counts (hsteps : ReflTransGen (Counts forced) before after) :
    Steps forced before after := ReflTransGen.mono (fun _ _ hcounts => hcounts.1) _ _ hsteps

/-- However many steps count the queues on, the state stays wired. -/
theorem Wired.steps (hwired : before.Wired) (hsteps : ReflTransGen (Counts forced) before after) :
    after.Wired := by
  induction hsteps with
  | refl => exact hwired
  | tail _ hcounts ih => exact ih.counts hcounts

/-- A plan counts the queues on, as it makes none. -/
theorem counts_plan (now : Nat) : Counts forced state (state.plan now).1 := by
  have hlast : (state.plan now).1.lastOutbox = state.lastOutbox := by
    obtain ⟨_, h, _⟩ := state.prebinds_plan now
    rw [h]
  exact ⟨.planned now, Nat.le_of_eq hlast.symm⟩

/-- To apply a tick keeps the state wired. -/
theorem Wired.apply {plan : Plan} {values : List (Option Value)} {now : Nat}
    (hwired : state.Wired) (hbooked : Booked state.registry state.subscriptions) :
    (state.apply plan values now).state.Wired := by
  refine hwired.of_outboxOf (Nat.le_of_eq lastOutbox_apply.symm) fun connection outbox hget => ?_
  rwa [outboxOf_apply hbooked] at hget

end State

namespace Run

/-- Where a run can come while the count of the queues does not go back. -/
inductive Orderly (forced : Bool) : Run → Prop where
  | start (world : World) (layout : Layout) (settings : Settings)
      (hstate : world.state = .new (.new layout settings)) : Orderly forced ⟨world, none, []⟩
  | outside {run : Run} (horderly : Orderly forced run) (after : World)
      (hsteps : ReflTransGen (State.Counts forced) run.world.state after.state) :
      Orderly forced { run with world := after }
  | plan {run : Run} (horderly : Orderly forced run) (hidle : run.flight = none) :
      Orderly forced run.takeOff
  | call {run : Run} {flight : Flight} {job : Job} (horderly : Orderly forced run)
      (hflight : run.flight = some flight)
      (hjob : flight.plan.jobs[flight.calls.length]? = some job) :
      Orderly forced { run with flight := some (flight.answered run.world job) }
  | apply {run : Run} {flight : Flight} (horderly : Orderly forced run)
      (hflight : run.flight = some flight)
      (hdone : flight.calls.length = flight.plan.jobs.length) : Orderly forced (run.land flight)
  | abandon {run : Run} (horderly : Orderly forced run) :
      Orderly forced { run with flight := none }

variable {forced : Bool} {run : Run}

/-- An orderly run is a run. -/
theorem Orderly.reachable (horderly : Orderly forced run) : Reachable forced run := by
  induction horderly with
  | start world layout settings hstate => exact .start world layout settings hstate
  | outside _ after hsteps ih =>
    exact ih.outside (State.steps_of_counts hsteps)
  | plan _ hidle ih => exact ih.step (.plan hidle)
  | call _ hflight hjob ih => exact ih.step (.call hflight hjob)
  | apply _ hflight hdone ih => exact ih.step (.apply hflight hdone)
  | abandon _ ih => exact ih.step .abandon

/-- In an orderly run no two connections share a queue. -/
theorem Orderly.wired (horderly : Orderly forced run) : run.world.state.Wired := by
  induction horderly with
  | start world layout settings hstate =>
    rw [hstate]
    exact ⟨nofun, nofun⟩
  | outside _ after hsteps ih => exact ih.steps hsteps
  | @plan run _ _ ih =>
    have hcounts : State.Counts forced run.world.state run.takeOff.world.state :=
      State.counts_plan run.world.host.now
    exact ih.counts hcounts
  | call _ _ _ ih | abandon _ ih => exact ih
  | @apply run flight horderly _ _ ih =>
    exact ih.apply horderly.reachable.sound.state.booked

end Run

end MetricsDaemon
