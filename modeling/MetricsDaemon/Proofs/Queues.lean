import MetricsDaemon.Proofs.Endings
import MetricsDaemon.Proofs.Services

/-!
# What waits in the queues

Only a tick puts lines into queues, and it puts none into a queue that is full. So while
the clients do nothing but open queues of the usual size, take lines out and close them,
no queue ever holds more than it may.
-/

namespace MetricsDaemon

open State (Steps)

/-! ## Serving -/

namespace State

variable {forced : Bool} {state before middle after : State} {connection : ConnectionId}
  {line : String} {subscription : Subscription} {result : Result} {outboxId : OutboxId}

/-- All lines that wait in the queues. -/
def waiting (state : State) : List String := state.outboxes.values.flatMap Outbox.lines

/-- The queue holds no more than it may. -/
def Within (state : State) (id : OutboxId) : Prop :=
  ∀ outbox, state.outboxes.get? id = some outbox → outbox.lines.length ≤ outbox.capacity

/-- The queues get one line more for each push, and none that is too many. -/
structure Fills (before : State) (pushes : List Push) (after : State) : Prop where
  waiting : after.waiting.length = before.waiting.length + pushes.length
  within : ∀ id, before.Within id → after.Within id

/-- Without a push the queues are filled with nothing. -/
theorem Fills.of_outboxes_eq (hsame : after.outboxes = before.outboxes) :
    before.Fills [] after where
  waiting := by rw [State.waiting, State.waiting, hsame, List.length_nil, Nat.add_zero]
  within id hwithin outbox hget := hwithin outbox (hsame ▸ hget)

/-- What fills the queues twice in a row fills them with both. -/
theorem Fills.trans {first second : List Push} (hfirst : before.Fills first middle)
    (hlast : middle.Fills second after) : before.Fills (first ++ second) after where
  waiting := by rw [hlast.waiting, hfirst.waiting, List.length_append, Nat.add_assoc]
  within id hwithin := hlast.within id (hfirst.within id hwithin)

/-- A line that is sent fills the queues with one push. -/
theorem fills_send {push : Push} (hsent : state.send connection line = (after, true)) :
    state.Fills [push] after := by
  rcases state.send_cases connection line with ⟨h, _⟩ | ⟨entry, outbox, hentry, houtbox, h⟩
  · rw [h] at hsent
    cases hsent
  · have haccepts : outbox.accepts = true := by
      by_contra hfull
      simp [send, hentry, houtbox, hfull] at hsent
    rw [h] at hsent
    cases hsent
    have hpushed : (outbox.push line).lines.length = outbox.lines.length + 1 := by
      simp [Outbox.push]
    refine ⟨?_, fun id hwithin found hget => ?_⟩
    · have hcount := Table.length_flatMap_values_put_of_get?_eq_some Outbox.lines houtbox
        (outbox.push line)
      rw [hpushed] at hcount
      simp only [waiting, List.length_singleton]
      omega
    · rw [Table.get?_put] at hget
      split at hget
      · cases hget
        simp only [Outbox.accepts, Bool.and_eq_true, decide_eq_true_eq] at haccepts
        rw [hpushed]
        exact haccepts.2
      · exact hwithin found hget

/-- To serve a subscription fills the queues with its pushes. -/
theorem fills_serveSubscription (state : State) (subscription : Subscription) (result : Result) :
    state.Fills (state.serveSubscription subscription result).2
      (state.serveSubscription subscription result).1 := by
  unfold serveSubscription
  split
  · dsimp only
    split
    · next sent hsent =>
      have hmarked : sent.Fills [] (sent.markServed subscription.id
          (subscription.pending || subscription.interest.once)) := .of_outboxes_eq rfl
      exact (fills_send hsent).trans hmarked
    · next unsent hunsent =>
      rcases state.send_cases subscription.interest.connection
          (pushLine subscription.interest.clientId result.type result.value) with
          ⟨h, _⟩ | ⟨_, _, _, _, h⟩
      · rw [h] at hunsent
        cases hunsent
        exact .of_outboxes_eq rfl
      · rw [h] at hunsent
        cases hunsent
  · exact .of_outboxes_eq rfl

variable {results : List (Option Result)} {targets : List (SubscriptionId × Nat)}
  {target : SubscriptionId × Nat} {plan : Plan} {values : List (Option Value)} {now : Nat}

/-- To serve a target fills the queues with its pushes. -/
theorem fills_serveOne (htable : state.subscriptions.Sound) :
    state.Fills (serveOne results target state).2 (serveOne results target state).1 := by
  rcases serveOne_cases results target htable with ⟨h, _⟩ | ⟨result, subscription, _, _, _, h⟩
  · rw [h]
    exact .of_outboxes_eq rfl
  · rw [h]
    exact fills_serveSubscription state subscription result

/-- To serve all targets fills the queues with all pushes. -/
theorem fills_serveAll (hbooked : Booked state.registry state.subscriptions) :
    state.Fills (serveAll results targets state).2 (serveAll results targets state).1 := by
  induction targets generalizing state with
  | nil => exact .of_outboxes_eq rfl
  | cons target targets ih =>
    rw [serveAll_cons]
    exact (fills_serveOne hbooked.table).trans (ih (booked_serveOne hbooked))

/-- An application fills the queues with its pushes. -/
theorem fills_apply (hbooked : Booked state.registry state.subscriptions) :
    state.Fills (state.apply plan values now).pushes (state.apply plan values now).state := by
  have hserved : (state.recorded plan values now).Fills (state.served plan values now).2
      (state.served plan values now).1 := fills_serveAll (booked_recorded hbooked)
  have hroutes : (state.served plan values now).1.Routes (state.apply plan values now).state :=
    routes_apply
  have hrecorded : state.Fills [] (state.recorded plan values now) :=
    .of_outboxes_eq outboxes_recorded
  have hfills := (hrecorded.trans hserved).trans (.of_outboxes_eq hroutes.outboxes)
  rwa [List.nil_append, List.append_nil] at hfills

/-! ## The order of the lines -/

/-- A target is pushed to once at most. -/
theorem sublist_serveOne (htable : state.subscriptions.Sound) :
    ((serveOne results target state).2.map Push.subscription).Sublist [target.1] := by
  rcases serveOne_cases results target htable with ⟨h, _⟩ | ⟨result, subscription, _, hget, hid, h⟩
  · rw [h]
    exact List.nil_sublist _
  · rw [h]
    obtain ⟨_, _, _, _, _, _, _, hfate⟩ := serveSubscription_cases result hget hid
    generalize (state.serveSubscription subscription result).2 = pushes at hfate
    cases hfate with
    | quiet | refused => exact List.nil_sublist _
    | queued => simp [hid]

/-- The pushes come in the order of the targets, one for each at most. -/
theorem sublist_serveAll (hbooked : Booked state.registry state.subscriptions) :
    ((serveAll results targets state).2.map Push.subscription).Sublist
      (targets.map Prod.fst) := by
  induction targets generalizing state with
  | nil => exact .slnil
  | cons target targets ih =>
    rw [serveAll_cons, List.map_append, List.map_cons, ← List.singleton_append]
    exact (sublist_serveOne hbooked.table).append (ih (booked_serveOne hbooked))

/-! ## Everybody else -/

/-- What becomes of the queues while no tick is applied. New ones are empty and of the usual size,
and lines are taken out of the old ones from the front. -/
def Drains (before after : State) : Prop :=
  ∀ id outbox, after.outboxes.get? id = some outbox →
    (outbox.capacity = Outbox.defaultCapacity ∧ outbox.lines = []) ∨
    ∃ earlier, before.outboxes.get? id = some earlier ∧ outbox.capacity = earlier.capacity ∧
      outbox.lines <:+ earlier.lines

/-- Queues that stay as they are are drained at most. -/
theorem Drains.of_outboxes_eq (hsame : after.outboxes = before.outboxes) :
    before.Drains after :=
  fun _ outbox hget => .inr ⟨outbox, hsame ▸ hget, rfl, List.suffix_rfl⟩

/-- Queues that are drained twice in a row are drained. -/
theorem Drains.trans (hfirst : before.Drains middle) (hlast : middle.Drains after) :
    before.Drains after := by
  intro id outbox hget
  rcases hlast id outbox hget with hnew | ⟨between, hbetween, hcapacity, hlines⟩
  · exact .inl hnew
  · rcases hfirst id between hbetween with ⟨husual, hnil⟩ | ⟨earlier, hearlier, hsame, hqueue⟩
    · rw [hnil, List.suffix_nil] at hlines
      exact .inl ⟨hcapacity.trans husual, hlines⟩
    · exact .inr ⟨earlier, hearlier, hcapacity.trans hsame, hlines.trans hqueue⟩

/-- A new queue is empty and of the usual size. -/
theorem drains_reconnect {last : Nat} :
    state.Drains ({ state with lastConnection := last }.reconnect connection
      Outbox.defaultCapacity).1 := by
  intro id outbox hget
  have hput : (state.outboxes.put ⟨state.lastOutbox + 1⟩ (.new Outbox.defaultCapacity)).get? id =
      some outbox := hget
  rw [Table.get?_put] at hput
  split at hput
  · cases hput
    exact .inl ⟨rfl, rfl⟩
  · exact .inr ⟨outbox, hput, rfl, List.suffix_rfl⟩

/-- To take lines out of the front of one queue drains the queues. -/
theorem drains_modify {change : Outbox → Outbox}
    (hcapacity : ∀ outbox, (change outbox).capacity = outbox.capacity)
    (hlines : ∀ outbox, state.outboxes.get? outboxId = some outbox →
      (change outbox).lines <:+ outbox.lines) :
    state.Drains { state with outboxes := state.outboxes.modify outboxId change } := by
  intro id outbox hget
  rw [Table.get?_modify] at hget
  split at hget
  · next heq =>
    subst heq
    obtain ⟨earlier, hearlier, rfl⟩ := Option.map_eq_some_iff.mp hget
    exact .inr ⟨earlier, hearlier, hcapacity earlier, hlines earlier hearlier⟩
  · exact .inr ⟨outbox, hget, rfl, List.suffix_rfl⟩

/-- To keep the back of a queue drains the queues. -/
theorem drains_keepLines {rest : List String}
    (hrest : ∀ outbox, state.outboxes.get? outboxId = some outbox → rest <:+ outbox.lines) :
    state.Drains (state.keepLines outboxId rest) := drains_modify (fun _ => rfl) hrest

/-- To take all lines out drains the queues. -/
theorem drains_drainOutbox : state.Drains (state.drainOutbox outboxId).1 :=
  drains_keepLines fun _ _ => List.nil_suffix

/-- To close a queue drains the queues. -/
theorem drains_closeOutbox : state.Drains (state.closeOutbox outboxId) :=
  drains_modify (fun _ => rfl) fun _ _ => List.nil_suffix

/-- Every queue has the usual size, and holds no more than that. -/
def Fits (state : State) : Prop :=
  ∀ id outbox, state.outboxes.get? id = some outbox →
    outbox.capacity = Outbox.defaultCapacity ∧ outbox.lines.length ≤ Outbox.defaultCapacity

/-- Queues that fit still do when they are drained. -/
theorem Fits.drains (hfits : before.Fits) (hdrains : before.Drains after) : after.Fits := by
  intro id outbox hget
  rcases hdrains id outbox hget with ⟨husual, hnil⟩ | ⟨earlier, hearlier, hcapacity, hlines⟩
  · rw [hnil]
    exact ⟨husual, Nat.zero_le _⟩
  · obtain ⟨husual, hle⟩ := hfits id earlier hearlier
    exact ⟨hcapacity.trans husual, hlines.length_le.trans hle⟩

end State

/-- Queues that fit still do when a tick is applied. -/
theorem Completion.fits_applied {forced : Bool} {completion : Completion}
    (hfits : completion.met.Fits) (hmet : completion.met.Sound forced) :
    completion.applied.state.Fits := by
  intro id outbox hget
  have hfills : completion.met.Fills completion.applied.pushes completion.applied.state :=
    State.fills_apply hmet.booked
  have hearlier := hget
  rw [outboxes_applied hmet] at hearlier
  obtain ⟨earlier, hfound, rfl⟩ := Option.map_eq_some_iff.mp hearlier
  obtain ⟨husual, hle⟩ := hfits id earlier hfound
  have hwithin : completion.met.Within id := by
    intro found hagain
    obtain rfl : earlier = found := Option.some.inj (hfound.symm.trans hagain)
    rwa [husual]
  have hlength := hfills.within id hwithin _ hget
  refine ⟨husual, hlength.trans (Nat.le_of_eq husual)⟩

namespace Service

/-- A service takes pushes out of its own queue, from the front, and puts none into any. -/
theorem drains_step (service : Service) (world : World) (event : ServiceEvent) :
    world.state.Drains (service.step world event).1.state := by
  cases hclosed : service.closed with
  | true =>
    rw [(step_of_closed world event hclosed).1]
    exact .of_outboxes_eq rfl
  | false =>
    have hturn := service.turn_step world event hclosed
    rcases hturn.outboxes_cases with hsame | ⟨line, rest, _, hqueue, hkept⟩
    · exact .of_outboxes_eq hsame
    · have hdrains : world.state.Drains (world.state.keepLines service.outbox rest) := by
        refine State.drains_keepLines fun outbox hget => ?_
        rw [hget, Option.map_some, Option.some.injEq] at hqueue
        rw [hqueue]
        exact List.suffix_cons line rest
      intro id outbox hget
      rw [hkept] at hget
      exact hdrains id outbox hget

/-- To accept a client drains the queues, as its own is new. -/
theorem drains_accept (world : World) (settings : Settings) :
    world.state.Drains (accept world settings).1.state := State.drains_reconnect

end Service

/-! ## Every run -/

namespace Run

/-- Where a run can come while nobody but a tick puts lines into queues. -/
inductive Confined : Run → Prop where
  | start (world : World) (layout : Layout) (settings : Settings)
      (hstate : world.state = .new (.new layout settings)) : Confined ⟨world, none, []⟩
  | outside {run : Run} (hconfined : Confined run) (after : World)
      (hsteps : Steps true run.world.state after.state)
      (hdrains : run.world.state.Drains after.state) : Confined { run with world := after }
  | plan {run : Run} (hconfined : Confined run) (hidle : run.flight = none) : Confined run.takeOff
  | call {run : Run} {flight : Flight} {job : Job} (hconfined : Confined run)
      (hflight : run.flight = some flight)
      (hjob : flight.plan.jobs[flight.calls.length]? = some job) :
      Confined { run with flight := some (flight.answered run.world job) }
  | apply {run : Run} {flight : Flight} (hconfined : Confined run)
      (hflight : run.flight = some flight)
      (hdone : flight.calls.length = flight.plan.jobs.length) : Confined (run.land flight)
  | abandon {run : Run} (hconfined : Confined run) : Confined { run with flight := none }

variable {run : Run}

/-- A confined run is a run. -/
theorem Confined.reachable (hconfined : Confined run) : Reachable true run := by
  induction hconfined with
  | start world layout settings hstate => exact .start world layout settings hstate
  | outside _ after hsteps _ ih => exact ih.step (.outside after hsteps)
  | plan _ hidle ih => exact ih.step (.plan hidle)
  | call _ hflight hjob ih => exact ih.step (.call hflight hjob)
  | apply _ hflight hdone ih => exact ih.step (.apply hflight hdone)
  | abandon _ ih => exact ih.step .abandon

/-- Loading a module keeps a run confined. -/
theorem Confined.load (hconfined : Confined run) (origin : Origin) :
    Confined { run with world := (run.world.load origin).1 } :=
  hconfined.outside _ World.steps_load (.of_outboxes_eq World.outboxes_load)

/-- Whatever the code of a job does keeps a run confined. -/
theorem Confined.code (hconfined : Confined run) (callable : Callable) (arg : Option String) :
    Confined { run with world := (run.world.call callable arg).1 } :=
  hconfined.outside _ (World.steps_call (World.sparesAll_of_forced _ _))
    (.of_outboxes_eq World.outboxes_call)

/-- Serving a client keeps a run confined. -/
theorem Confined.serve (hconfined : Confined run) (service : Service) (event : ServiceEvent) :
    Confined { run with world := (service.step run.world event).1 } :=
  hconfined.outside _ (service.steps_step run.world event) (service.drains_step run.world event)

/-- Accepting a client keeps a run confined. -/
theorem Confined.accept (hconfined : Confined run) (settings : Settings)
    (hfresh : run.world.state.connections.get? ⟨run.world.state.lastConnection + 1⟩ = none) :
    Confined { run with world := (Service.accept run.world settings).1 } :=
  hconfined.outside _ (.single (.connected _ _ _ hfresh)) (Service.drains_accept run.world settings)

/-- In a confined run no queue holds more than it may. -/
theorem Confined.fits (hconfined : Confined run) : run.world.state.Fits := by
  induction hconfined with
  | start world layout settings hstate =>
    rw [hstate]
    exact nofun
  | outside _ _ _ hdrains ih => exact ih.drains hdrains
  | @plan run hconfined _ ih =>
    have hplanned : (run.world.state.plan run.world.host.now).1.outboxes =
        run.world.state.outboxes :=
      State.outboxes_plan hconfined.reachable.sound.state.booked.modules.directory
    exact ih.drains (.of_outboxes_eq hplanned)
  | call _ _ _ ih | abandon _ ih => exact ih
  | @apply run flight hconfined _ _ ih =>
    exact Completion.fits_applied ih hconfined.reachable.sound.state

end Run

end MetricsDaemon
