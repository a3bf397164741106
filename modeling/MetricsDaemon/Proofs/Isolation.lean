import MetricsDaemon.Proofs.Rooting
import MetricsDaemon.Proofs.Sweeping
import MetricsDaemon.Proofs.Wiring

/-!
# Subscribers are no concern of each other

Between the plan of a tick and its application other connections may be dropped, their
queues may fill up or be closed, and the code behind their variables may panic. All share
the jobs, the samples and one pass of removals, and still a connection notices nothing: it
gets the same lines, and its subscriptions and their samples become what they would have
become anyway.
-/

namespace MetricsDaemon

open Relation (ReflTransGen)
open Run (Tracks)

/-- The pushes to a connection. -/
def pushesTo (pushes : List Push) (connection : ConnectionId) : List Push :=
  pushes.filter fun push => decide (push.connection = connection)

/-- The pushes to one connection come in their order. -/
theorem pushesTo_append (first second : List Push) (connection : ConnectionId) :
    pushesTo (first ++ second) connection =
      pushesTo first connection ++ pushesTo second connection := List.filter_append ..

namespace State

variable {forced : Bool} {state first second before after : State}
  {connection other : ConnectionId} {id : SubscriptionId} {subscription : Subscription}
  {result : Result} {results others : List (Option Result)} {target : SubscriptionId × Nat}
  {targets : List (SubscriptionId × Nat)}

/-! ## What a connection sees -/

/-- The queue that a connection sends into, with its number. -/
def queueOf (state : State) (connection : ConnectionId) : Option (OutboxId × Outbox) :=
  (state.outboxOf connection).bind fun id =>
    (state.outboxes.get? id).map fun outbox => (id, outbox)

/-- The subscription with a number, if it belongs to the connection. -/
def ownOf (state : State) (connection : ConnectionId) (id : SubscriptionId) :
    Option Subscription :=
  (state.subscriptions.get? id).filter fun subscription =>
    decide (subscription.interest.connection = connection)

/-- The sample for a variable and an argument. -/
def sampleOf (state : State) (key : VariableId × String) : Option Sample :=
  (state.directory.get? key.1).bind fun variable_ => variable_.samples.get? key.2

/-- The queue and the subscriptions of a connection are the same in both states. -/
structure Agrees (connection : ConnectionId) (first second : State) : Prop where
  queue : first.queueOf connection = second.queueOf connection
  own : ∀ id, first.ownOf connection id = second.ownOf connection id

/-- A state agrees with itself. -/
theorem Agrees.refl (connection : ConnectionId) (state : State) :
    Agrees connection state state := ⟨rfl, fun _ => rfl⟩

/-- Two states agree in either direction. -/
theorem Agrees.symm (hagrees : Agrees connection first second) : Agrees connection second first :=
  ⟨hagrees.queue.symm, fun id => (hagrees.own id).symm⟩

/-- States that agree with a third one agree. -/
theorem Agrees.trans {third : State} (hfirst : Agrees connection first second)
    (hlast : Agrees connection second third) : Agrees connection first third :=
  ⟨hfirst.queue.trans hlast.queue, fun id => (hfirst.own id).trans (hlast.own id)⟩

/-- A subscription is a connection's own if it is live and on that connection. -/
theorem ownOf_eq_some_iff : state.ownOf connection id = some subscription ↔
    state.subscriptions.get? id = some subscription ∧
      subscription.interest.connection = connection := by
  rw [ownOf, Option.filter_eq_some_iff, decide_eq_true_eq]

/-- Nobody else sends into the queue of the connection. -/
def Owns (state : State) (connection : ConnectionId) : Prop :=
  ∀ other outbox, state.outboxOf connection = some outbox → state.outboxOf other = some outbox →
    other = connection

/-! ## What may happen to others -/

/-- Something happens to another connection than the given one. -/
inductive Mishap (connection : ConnectionId) : State → State → Prop where
  /-- It is dropped. -/
  | dropped {state : State} (other : ConnectionId) (hother : other ≠ connection) :
      Mishap connection state (state.forgetConnection other).1
  /-- Its queue fills up, or is closed, or whatever else becomes of it. -/
  | jammed {state : State} (other : ConnectionId) (outbox : OutboxId) (change : Outbox → Outbox)
      (hother : other ≠ connection) (houtbox : state.outboxOf other = some outbox) :
      Mishap connection state { state with outboxes := state.outboxes.modify outbox change }

/-- Whoever is dropped leaves the others their subscriptions. -/
theorem ownOf_forgetConnection (hlisted : Listed state.connections state.subscriptions)
    (hother : other ≠ connection) :
    (state.forgetConnection other).1.ownOf connection id = state.ownOf connection id := by
  cases hentry : state.connections.get? other with
  | none => rw [forgetConnection_of_get?_eq_none hentry]
  | some entry =>
    have hget : (state.forgetConnection other).1.subscriptions.get? id =
        if id ∈ entry.subscriptions then none else state.subscriptions.get? id := by
      rw [forgetConnection_of_get?_eq_some hentry]
      exact get?_subscriptions_dischargeAll _
    rw [ownOf, hget]
    split
    · next hmem =>
      obtain ⟨subscription, hsubscription, hconnection⟩ := hlisted.live hentry hmem
      rw [ownOf, hsubscription, Option.filter_some, hconnection, decide_eq_false hother]
      rfl
    · rfl

/-- To forget one connection leaves the queue of another as it is. -/
theorem queueOf_forgetConnection (hother : other ≠ connection) :
    (state.forgetConnection other).1.queueOf connection = state.queueOf connection := by
  rw [queueOf, outboxOf_forgetConnection, if_neg hother, outboxes_forgetConnection]
  rfl

/-- What happens to a queue is seen by those alone who send into it. -/
theorem queueOf_modify {outbox : OutboxId} {change : Outbox → Outbox}
    (hother : state.outboxOf connection ≠ some outbox) :
    { state with outboxes := state.outboxes.modify outbox change }.queueOf connection =
      state.queueOf connection := by
  have hsame : { state with outboxes := state.outboxes.modify outbox change }.outboxOf
      connection = state.outboxOf connection := rfl
  rw [queueOf, hsame, queueOf]
  cases hentry : state.outboxOf connection with
  | none => rfl
  | some id =>
    have hne : outbox ≠ id := fun heq => hother (by rw [hentry, heq])
    simp only [Option.bind_some, Table.get?_modify, if_neg hne]

/-- A mishap changes nothing for the connection that it spares. -/
theorem Mishap.agrees (hmishap : Mishap connection before after)
    (hlisted : Listed before.connections before.subscriptions) (howns : before.Owns connection) :
    Agrees connection before after := by
  cases hmishap with
  | dropped other hother =>
    exact ⟨(queueOf_forgetConnection hother).symm,
      fun id => (ownOf_forgetConnection hlisted hother).symm⟩
  | jammed other outbox change hother houtbox =>
    refine ⟨(queueOf_modify fun hsame => ?_).symm, fun id => rfl⟩
    exact hother (howns other outbox hsame houtbox)

/-- After a mishap to others the connection still has a queue of its own. -/
theorem Mishap.owns (hmishap : Mishap connection before after) (howns : before.Owns connection) :
    after.Owns connection := by
  cases hmishap with
  | dropped gone _ =>
    intro other outbox hconnection hother
    rw [outboxOf_forgetConnection] at hconnection hother
    split at hconnection
    · cases hconnection
    · split at hother
      · cases hother
      · exact howns other outbox hconnection hother
  | jammed => exact howns

/-- A mishap leaves the variables as they are. -/
theorem Mishap.directory (hmishap : Mishap connection before after) :
    after.directory = before.directory := by
  cases hmishap with
  | dropped => exact leaves_forgetConnection.directory
  | jammed => rfl

/-- A mishap is a step of the state. -/
theorem Mishap.step (hmishap : Mishap connection before after) : Step forced before after := by
  cases hmishap with
  | dropped other => exact .forgotten other
  | jammed => exact .relayed _ _

/-- Any number of things that happen to others. -/
abbrev Mishaps (connection : ConnectionId) : State → State → Prop :=
  ReflTransGen (Mishap connection)

/-- Any number of mishaps are steps of the state. -/
theorem Mishaps.steps (hmishaps : Mishaps connection before after) : Steps forced before after :=
  ReflTransGen.mono (fun _ _ hmishap => hmishap.step) _ _ hmishaps

/-- However many mishaps there are, the variables stay as they are. -/
theorem Mishaps.directory (hmishaps : Mishaps connection before after) :
    after.directory = before.directory := by
  induction hmishaps with
  | refl => rfl
  | tail _ hmishap ih => exact hmishap.directory.trans ih

/-- After any number of mishaps to others the connection still has a queue of its own. -/
theorem Mishaps.owns (hmishaps : Mishaps connection before after)
    (howns : before.Owns connection) : after.Owns connection := by
  induction hmishaps with
  | refl => exact howns
  | tail _ hmishap ih => exact hmishap.owns ih

/-- However many mishaps others have, the states agree on the connection. -/
theorem Mishaps.agrees (hmishaps : Mishaps connection before after)
    (hsound : before.Sound forced) (howns : before.Owns connection) :
    Agrees connection before after := by
  induction hmishaps with
  | refl => exact .refl connection before
  | @tail middle after hmishaps hmishap ih =>
    have hmiddle : middle.Sound forced := hsound.steps (Mishaps.steps hmishaps)
    exact ih.trans (hmishap.agrees hmiddle.listed (Mishaps.owns hmishaps howns))

/-! ## Serving in two states -/

/-- Whether a line for the connection would be queued. -/
def takes (state : State) (connection : ConnectionId) : Bool :=
  (state.queueOf connection).any fun queue => queue.2.accepts

/-- Whether a line is sent depends on whether the connection takes it. -/
theorem send_snd (line : String) : (state.send connection line).2 = state.takes connection := by
  rw [send, takes, queueOf, outboxOf]
  cases state.connections.get? connection with
  | none => rfl
  | some entry =>
    cases houtbox : state.outboxes.get? entry.outbox with
    | none => simp [houtbox]
    | some outbox => cases haccepts : outbox.accepts <;> simp [houtbox, haccepts]

/-- What is pushed when a subscription is served, and whether it is about to be removed then; all
that matters of the state is whether the queue takes a line. -/
def outcomeOf (subscription : Subscription) (result : Result) (takes : Bool) : List Push × Bool :=
  if needsPush result.changed subscription.first subscription.pending then
    if takes then
      ([⟨subscription.id, subscription.interest.connection,
          pushLine subscription.interest.clientId result.type result.value⟩],
        subscription.pending || subscription.interest.once)
    else ([], true)
  else ([], subscription.pending)

/-- What is pushed to a subscription and what becomes of its flags depends on the result and on
whether its queue takes a line. -/
theorem serveSubscription_outcome (state : State) (subscription : Subscription)
    (result : Result) :
    (state.serveSubscription subscription result).2 =
        (outcomeOf subscription result (state.takes subscription.interest.connection)).1 ∧
      (state.serveSubscription subscription result).1.subscriptions =
        state.subscriptions.modify subscription.id fun found =>
          { found with
            first := false
            pending := (outcomeOf subscription result
              (state.takes subscription.interest.connection)).2 } := by
  have htakes (line : String) : (state.send subscription.interest.connection line).2 =
      state.takes subscription.interest.connection := send_snd line
  unfold serveSubscription outcomeOf
  split
  · dsimp only
    generalize pushLine subscription.interest.clientId result.type result.value = line
    rw [← htakes line]
    rcases state.send_cases subscription.interest.connection line with
      ⟨h, _⟩ | ⟨_, _, _, _, h⟩ <;> rw [h] <;> exact ⟨rfl, rfl⟩
  · exact ⟨rfl, rfl⟩

/-- Without a result a target is left alone. -/
theorem serveOne_of_none (hnone : (results[target.2]?).join = none) :
    serveOne results target state = (state, []) := by
  unfold serveOne serveTarget
  split
  · next hslot _ =>
    rw [hslot] at hnone
    cases hnone
  · rfl

/-- With a result a live target is served. -/
theorem serveOne_of_result (hresult : (results[target.2]?).join = some result)
    (hget : state.subscriptions.get? target.1 = some subscription) :
    serveOne results target state = state.serveSubscription subscription result := by
  have hslot : results[target.2]? = some (some result) := Option.join_eq_some_iff.mp hresult
  simp [serveOne, serveTarget, hslot, hget]

/-- Whoever sees only its own queue sees the lines that were pushed to it. -/
theorem Serves.queueOf {pushes : List Push} (hserves : before.Serves pushes after)
    (howns : before.Owns connection) : after.queueOf connection =
      (before.queueOf connection).map fun queue =>
        (queue.1, queue.2.append ((pushesTo pushes connection).map Push.line)) := by
  have hsame : after.outboxOf connection = before.outboxOf connection := by
    rw [outboxOf, hserves.connections]
    rfl
  rw [State.queueOf, hsame, State.queueOf]
  cases hentry : before.outboxOf connection with
  | none => rfl
  | some id =>
    have hlines : linesFor before.connections pushes id =
        (pushesTo pushes connection).map Push.line := by
      rw [linesFor, pushesTo]
      congr 1
      refine List.filter_congr fun push _ => ?_
      have hany : (before.connections.get? push.connection).any
          (fun entry => decide (entry.outbox = id)) =
            decide (before.outboxOf push.connection = some id) := by
        rw [outboxOf]
        cases before.connections.get? push.connection <;> simp
      rw [hany, decide_eq_decide]
      exact ⟨fun hsends => howns _ _ hentry hsends, fun heq => by rw [heq, hentry]⟩
    rw [Option.bind_some, Option.bind_some, hserves.outboxes, hlines, Option.map_map,
      Option.map_map]
    rfl

/-- Serving leaves the connection with a queue of its own. -/
theorem Owns.serves {pushes : List Push} (howns : before.Owns connection)
    (hserves : before.Serves pushes after) : after.Owns connection := by
  intro other outbox hconnection hother
  rw [outboxOf, hserves.connections] at hconnection hother
  exact howns other outbox hconnection hother

/-- Serving takes no subscription away. -/
theorem Serves.isSome_ownOf {pushes : List Push} (hserves : before.Serves pushes after) :
    (after.ownOf connection id).isSome = (before.ownOf connection id).isSome := by
  have hany (state : State) : (state.ownOf connection id).isSome =
      ((state.subscriptions.get? id).map Subscription.interest).any
        fun interest => decide (interest.connection = connection) := by
    rw [ownOf]
    cases state.subscriptions.get? id with
    | none => rfl
    | some subscription => rw [Option.filter_some]; split <;> simp_all
  rw [hany, hany, hserves.alike]

/-- A change of flags is seen by the connection that the subscription belongs to. -/
theorem ownOf_of_modify {change : Subscription → Subscription}
    (hflagging : Subscriptions.Flagging change)
    (hafter : after.subscriptions = before.subscriptions.modify id change)
    (other : SubscriptionId) : after.ownOf connection other =
      if id = other then (before.ownOf connection other).map change
      else before.ownOf connection other := by
  rw [ownOf, hafter, Subscriptions.get?_modify, ownOf]
  split
  · cases before.subscriptions.get? other with
    | none => rfl
    | some subscription =>
      rw [Option.map_some, Option.filter_some, (hflagging subscription).2, Option.filter_some]
      split <;> rfl
  · rfl

/-- Serving the subscription of somebody else is not seen. -/
theorem agrees_serveOne_of_other (hbooked : Booked state.registry state.subscriptions)
    (howns : state.Owns connection) (hnot : state.ownOf connection target.1 = none) :
    Agrees connection state (serveOne results target state).1 ∧
      pushesTo (serveOne results target state).2 connection = [] := by
  have hserves : state.Serves (serveOne results target state).2 (serveOne results target state).1 :=
    serves_serveOne hbooked.table
  have hpushes : pushesTo (serveOne results target state).2 connection = [] := by
    rcases serveOne_cases results target hbooked.table with
      ⟨h, _⟩ | ⟨result, subscription, _, hget, _, h⟩
    · rw [h]
      rfl
    · have hother : subscription.interest.connection ≠ connection := fun heq => by
        rw [ownOf_eq_some_iff.mpr ⟨hget, heq⟩] at hnot
        cases hnot
      rw [h, (state.serveSubscription_outcome subscription result).1, outcomeOf]
      split
      · split
        · simp [pushesTo, hother]
        · rfl
      · rfl
  refine ⟨⟨?_, fun id => ?_⟩, hpushes⟩
  · rw [hserves.queueOf howns, hpushes]
    cases state.queueOf connection <;> simp [Outbox.append]
  · rcases subscriptions_serveOne hbooked.table with h | ⟨change, hflagging, h⟩
    · rw [ownOf, ownOf, h]
    · rw [ownOf_of_modify hflagging h]
      split
      · next heq => rw [← heq, hnot, Option.map_none]
      · rfl

/-- Serving a subscription of the connection does the same in states that agree. -/
theorem agrees_serveOne_of_own (hfirst : Booked first.registry first.subscriptions)
    (hsecond : Booked second.registry second.subscriptions) (hfirstOwns : first.Owns connection)
    (hsecondOwns : second.Owns connection) (hagrees : Agrees connection first second)
    (hown : first.ownOf connection target.1 = some subscription)
    (hresults : (results[target.2]?).join = (others[target.2]?).join) :
    Agrees connection (serveOne results target first).1 (serveOne others target second).1 ∧
      pushesTo (serveOne results target first).2 connection =
        pushesTo (serveOne others target second).2 connection := by
  obtain ⟨hget, hconnection⟩ := ownOf_eq_some_iff.mp hown
  obtain ⟨hother, _⟩ := ownOf_eq_some_iff.mp ((hagrees.own target.1).symm.trans hown)
  cases hresult : (results[target.2]?).join with
  | none =>
    rw [serveOne_of_none hresult, serveOne_of_none (hresults.symm.trans hresult)]
    exact ⟨hagrees, rfl⟩
  | some result =>
    have htakes : first.takes subscription.interest.connection =
        second.takes subscription.interest.connection := by
      rw [takes, takes, hconnection, hagrees.queue]
    have hserves : first.Serves _ (serveOne results target first).1 :=
      serves_serveOne hfirst.table
    have hservesOther : second.Serves _ (serveOne others target second).1 :=
      serves_serveOne hsecond.table
    rw [serveOne_of_result hresult hget] at hserves ⊢
    rw [serveOne_of_result (hresults.symm.trans hresult) hother] at hservesOther ⊢
    obtain ⟨hpushes, hflags⟩ := first.serveSubscription_outcome subscription result
    obtain ⟨hpushesOther, hflagsOther⟩ := second.serveSubscription_outcome subscription result
    rw [← htakes] at hpushesOther hflagsOther
    have hsame := hpushes.trans hpushesOther.symm
    refine ⟨⟨?_, fun id => ?_⟩, by rw [hsame]⟩
    · rw [hserves.queueOf hfirstOwns, hservesOther.queueOf hsecondOwns, hagrees.queue, hsame]
    · rw [ownOf_of_modify (flagging_served _) hflags,
        ownOf_of_modify (flagging_served _) hflagsOther, hagrees.own]

/-- Serving the targets of a plan does the same for the connection in states that agree, as long as
the results for its own subscriptions are the same. -/
theorem agrees_serveAll (hfirst : Booked first.registry first.subscriptions)
    (hsecond : Booked second.registry second.subscriptions) (hfirstOwns : first.Owns connection)
    (hsecondOwns : second.Owns connection) (hagrees : Agrees connection first second)
    (hresults : ∀ target ∈ targets, (first.ownOf connection target.1).isSome →
      (results[target.2]?).join = (others[target.2]?).join) :
    Agrees connection (serveAll results targets first).1 (serveAll others targets second).1 ∧
      pushesTo (serveAll results targets first).2 connection =
        pushesTo (serveAll others targets second).2 connection := by
  induction targets generalizing first second with
  | nil => exact ⟨hagrees, rfl⟩
  | cons target targets ih =>
    have hserves : first.Serves _ (serveOne results target first).1 :=
      serves_serveOne hfirst.table
    have hservesOther : second.Serves _ (serveOne others target second).1 :=
      serves_serveOne hsecond.table
    have hone : Agrees connection (serveOne results target first).1
        (serveOne others target second).1 ∧
        pushesTo (serveOne results target first).2 connection =
          pushesTo (serveOne others target second).2 connection := by
      cases hown : first.ownOf connection target.1 with
      | none =>
        obtain ⟨hsame, hnone⟩ := agrees_serveOne_of_other hfirst hfirstOwns hown
        obtain ⟨hsameOther, hnoneOther⟩ := agrees_serveOne_of_other hsecond hsecondOwns
          ((hagrees.own target.1).symm.trans hown)
        exact ⟨(hsame.symm.trans hagrees).trans hsameOther, hnone.trans hnoneOther.symm⟩
      | some subscription =>
        exact agrees_serveOne_of_own hfirst hsecond hfirstOwns hsecondOwns hagrees hown
          (hresults target List.mem_cons_self (by rw [hown]; rfl))
    obtain ⟨hrest, hpushes⟩ := ih (booked_serveOne hfirst) (booked_serveOne hsecond)
      (hfirstOwns.serves hserves) (hsecondOwns.serves hservesOther) hone.1 fun later hmem hsome =>
        hresults later (List.mem_cons_of_mem _ hmem) (by rwa [hserves.isSome_ownOf] at hsome)
    rw [serveAll_cons, serveAll_cons, pushesTo_append, pushesTo_append, hone.2, hpushes]
    exact ⟨hrest, rfl⟩

/-! ## Applying in two states -/

section Apply

variable {plan : Plan} {values replaced : List (Option Value)} {now : Nat}

/-- Both lists have the same values for the jobs that serve the subscriptions of the connection. -/
def Shares (state : State) (connection : ConnectionId) (jobs : List Job)
    (values replaced : List (Option Value)) : Prop :=
  ∀ subscription ∈ state.subscriptions.toList, subscription.interest.connection = connection →
    ∀ slot, findJob jobs subscription.interest.key = some slot →
      (values[slot]?).join = (replaced[slot]?).join

/-- The results of a job are the same where its value is and the samples are. -/
theorem join_results_eq {slot : Nat} {job : Job} (hdistinct : (plan.jobs.map Job.key).Nodup)
    (hjob : plan.jobs[slot]? = some job) (hdirectory : second.directory = first.directory)
    (hvalue : (values[slot]?).join = (replaced[slot]?).join) :
    ((State.results plan.jobs values
        (recordAll now first (plan.jobs.zip values)).2)[slot]?).join =
      ((State.results plan.jobs replaced
        (recordAll now second (plan.jobs.zip replaced)).2)[slot]?).join := by
  rw [result_of_slot hdistinct hjob, result_of_slot hdistinct hjob,
    Valued.valueOf_zip values hdistinct hjob, Valued.valueOf_zip replaced hdistinct hjob, hvalue]
  simp only [notices, hdirectory]

/-- What an application leaves of a connection's subscriptions is what serving left and is not to
be removed. -/
theorem ownOf_apply (hbooked : Booked state.registry state.subscriptions) :
    (state.apply plan values now).state.ownOf connection id =
      ((state.served plan values now).1.ownOf connection id).filter fun subscription =>
        !subscription.pending && decide (id ∉ plan.orphans) := by
  ext subscription
  rw [ownOf_eq_some_iff, get?_subscriptions_apply_iff hbooked, Option.filter_eq_some_iff,
    ownOf_eq_some_iff]
  simp only [Bool.and_eq_true, Bool.not_eq_true', decide_eq_true_eq]
  tauto

/-- After the services an application leaves the queues as they are. -/
theorem queueOf_apply : (state.apply plan values now).state.queueOf connection =
    (state.served plan values now).1.queueOf connection := by
  have hroutes : (state.served plan values now).1.Routes (state.apply plan values now).state :=
    routes_apply
  rw [queueOf, outboxOf, hroutes.connections, hroutes.outboxes]
  rfl

/-- The module of a variable with a subscription that is left is left as well. -/
theorem resident_of_left {variable_ : Variable} (hsound : state.Sound forced)
    (hrooted : state.Rooted)
    (hget : (state.apply plan values now).state.subscriptions.get? id = some subscription)
    (hvariable : state.directory.get? subscription.interest.variable_ = some variable_) :
    ((state.apply plan values now).state.registry.get? variable_.module_).isSome = true := by
  obtain ⟨before, hbefore, hinterest⟩ := get?_of_apply hsound.booked hget
  rw [← hinterest] at hvariable
  have hmodule := hrooted id before variable_ hbefore hvariable
  obtain ⟨module_, hresident, _⟩ := hsound.booked.modules.owner hvariable
  have hafter : (state.apply plan values now).state.Sound forced := hsound.apply
  have hcount :
      (state.apply plan values now).state.subscriptions.countOn variable_.module_ ≠ 0 := by
    intro hzero
    refine hafter.booked.table.countOn_eq_zero_iff.mp hzero hget ?_
    rw [hmodule, hinterest]
  rw [get?_registry_apply hsound.booked, hresident, Option.bind_some, Module.keep?, if_neg]
  · rfl
  · omega

/-- The sample of a subscription that is left is that of the value that was recorded for its key,
and the old one if there was none. -/
theorem sampleOf_apply (hsound : state.Sound forced) (hrooted : state.Rooted)
    (hdistinct : (plan.jobs.map Job.key).Nodup)
    (hget : (state.apply plan values now).state.subscriptions.get? id = some subscription) :
    (state.apply plan values now).state.sampleOf subscription.interest.key =
      (state.directory.get? subscription.interest.variable_).bind fun variable_ =>
        (Valued.valueOf (plan.jobs.zip values) subscription.interest.key).elim
          (variable_.samples.get? (sampleKey subscription.interest.arg))
          fun value => some ⟨value.checksum, now⟩ := by
  rw [sampleOf, get?_directory_apply hsound.booked]
  cases hvariable : state.directory.get? subscription.interest.variable_ with
  | none =>
    have hnone : (state.recorded plan values now).directory.get? subscription.interest.variable_ =
        none := get?_directory_recordAll_eq_none now _ hvariable
    rw [Interest.key, hnone]
    rfl
  | some variable_ =>
    obtain ⟨found, hfound, hprofile, _, hsamples⟩ :=
      get?_directory_recordAll now (Valued.distinct_zip values hdistinct) hvariable
    have hrecorded : (state.recorded plan values now).directory.get?
        subscription.interest.variable_ = some found := hfound
    have hstays := resident_of_left hsound hrooted hget hvariable
    rw [← Variable.module_eq_of_profile_eq hprofile] at hstays
    rw [Interest.key, hrecorded, Option.filter_some, if_pos hstays]
    exact hsamples _

/-- The connection got the same lines in both applications, its queue and each of its subscriptions
became the same, and so did the samples of those that are left. -/
structure Applied.Spares (connection : ConnectionId) (first second : Applied) : Prop where
  pushes : pushesTo first.pushes connection = pushesTo second.pushes connection
  agrees : Agrees connection first.state second.state
  samples : ∀ id subscription, first.state.ownOf connection id = some subscription →
    first.state.sampleOf subscription.interest.key =
      second.state.sampleOf subscription.interest.key

/-- The job of a connection's own subscription has the same value in both runs. -/
theorem value_eq_of_shares {slot : Nat} (htable : state.subscriptions.Sound)
    (hshares : state.Shares connection plan.jobs values replaced)
    (hown : state.ownOf connection id = some subscription)
    (hslot : findJob plan.jobs subscription.interest.key = some slot) :
    (values[slot]?).join = (replaced[slot]?).join := by
  obtain ⟨hget, hconnection⟩ := ownOf_eq_some_iff.mp hown
  have hid : subscription.id = id := htable.numbered hget
  rw [← hid] at hget
  exact hshares subscription (htable.mem_toList_iff.mpr hget) hconnection slot hslot

/-- The values for the keys of the connection's subscriptions are the same. -/
theorem valueOf_eq_of_shares (htable : state.subscriptions.Sound)
    (hdistinct : (plan.jobs.map Job.key).Nodup)
    (hshares : state.Shares connection plan.jobs values replaced)
    (hown : state.ownOf connection id = some subscription) :
    Valued.valueOf (plan.jobs.zip values) subscription.interest.key =
      Valued.valueOf (plan.jobs.zip replaced) subscription.interest.key := by
  rw [Valued.valueOf_zip_eq values hdistinct, Valued.valueOf_zip_eq replaced hdistinct]
  exact Option.bind_congr fun slot hslot => value_eq_of_shares htable hshares hown hslot

/-- Recording is not seen. -/
theorem agrees_recorded : Agrees connection state (state.recorded plan values now) := by
  obtain ⟨directory, h⟩ := state.recorded_eq plan values now
  rw [h]
  exact ⟨rfl, fun _ => rfl⟩

/-- Recording values leaves the connection with a queue of its own. -/
theorem owns_recorded (howns : state.Owns connection) :
    (state.recorded plan values now).Owns connection := by
  obtain ⟨directory, h⟩ := state.recorded_eq plan values now
  rw [h]
  exact howns

/-- Whatever happened to others, and whatever values they get, is no concern of the connection. -/
theorem spares_apply (hfirst : first.Sound forced) (hsecond : second.Sound forced)
    (hfirstRooted : first.Rooted) (hsecondRooted : second.Rooted)
    (hfirstOwns : first.Owns connection) (hsecondOwns : second.Owns connection)
    (hagrees : Agrees connection first second) (hdirectory : second.directory = first.directory)
    (hdistinct : (plan.jobs.map Job.key).Nodup)
    (htargets : ∀ target ∈ plan.targets, ∀ subscription,
      first.ownOf connection target.1 = some subscription →
        findJob plan.jobs subscription.interest.key = some target.2)
    (hshares : first.Shares connection plan.jobs values replaced) :
    (first.apply plan values now).Spares connection (second.apply plan replaced now) := by
  have hserved : Agrees connection (first.served plan values now).1
        (second.served plan replaced now).1 ∧
      pushesTo (first.served plan values now).2 connection =
        pushesTo (second.served plan replaced now).2 connection := by
    refine agrees_serveAll (booked_recorded hfirst.booked) (booked_recorded hsecond.booked)
      (owns_recorded hfirstOwns) (owns_recorded hsecondOwns)
      ((agrees_recorded.symm.trans hagrees).trans agrees_recorded) ?_
    intro target htarget hsome
    obtain ⟨subscription, hown⟩ := Option.isSome_iff_exists.mp hsome
    rw [← agrees_recorded.own] at hown
    have hslot := htargets target htarget subscription hown
    obtain ⟨job, hjob, _⟩ := job_of_findJob hslot
    exact join_results_eq hdistinct hjob hdirectory
      (value_eq_of_shares hfirst.booked.table hshares hown hslot)
  have hafter : Agrees connection (first.apply plan values now).state
      (second.apply plan replaced now).state := by
    refine ⟨?_, fun id => ?_⟩
    · rw [queueOf_apply, queueOf_apply, hserved.1.queue]
    · rw [ownOf_apply hfirst.booked, ownOf_apply hsecond.booked, hserved.1.own]
  refine ⟨hserved.2, hafter, fun id subscription hown => ?_⟩
  obtain ⟨hget, hconnection⟩ := ownOf_eq_some_iff.mp hown
  obtain ⟨hother, _⟩ := ownOf_eq_some_iff.mp ((hafter.own id).symm.trans hown)
  obtain ⟨before, hbefore, hinterest⟩ := get?_of_apply hfirst.booked hget
  have hvalue := valueOf_eq_of_shares hfirst.booked.table hdistinct hshares
    (ownOf_eq_some_iff.mpr ⟨hbefore, by rw [hinterest, hconnection]⟩)
  rw [hinterest] at hvalue
  rw [sampleOf_apply hfirst hfirstRooted hdistinct hget,
    sampleOf_apply hsecond hsecondRooted hdistinct hother, hdirectory, hvalue]

end Apply

end State

section Runs

/-- Between the plan of a tick and its application any other connections may be dropped, whatever
may become of their queues, and the jobs that do not serve the connection may get other values or
none. The connection does not notice: it gets the same lines in the same order, the same of its
subscriptions are removed and left, with the same flags, and the samples of those that are left are
the same. -/
theorem Run.Orderly.apply_spares_connection {forced : Bool} {run : Run} {flight : Flight}
    {connection : ConnectionId} {other : State} {values replaced : List (Option Value)}
    (horderly : Run.Orderly forced run) (hflight : run.flight = some flight)
    (hmishaps : State.Mishaps connection run.world.state other)
    (hshares : run.world.state.Shares connection flight.plan.jobs values replaced) (now : Nat) :
    (run.world.state.apply flight.plan values now).Spares connection
      (other.apply flight.plan replaced now) := by
  have hreach := horderly.reachable
  have hsound := hreach.sound.state
  have howns : run.world.state.Owns connection := fun someone outbox hconnection hsomeone =>
    horderly.wired.own someone connection outbox hsomeone hconnection
  have htracks : Tracks forced (run.completion flight).flight (run.completion flight).met :=
    hreach.sound.flight hflight
  refine State.spares_apply hsound (hsound.steps hmishaps.steps) hreach.rooted
    (hreach.rooted.steps hsound hmishaps.steps) howns (hmishaps.owns howns)
    (hmishaps.agrees hsound howns) hmishaps.directory
    (Completion.distinct_jobs htracks.before) ?_ hshares
  rintro ⟨id, slot⟩ htarget subscription hown
  obtain ⟨hget, _⟩ := State.ownOf_eq_some_iff.mp hown
  obtain ⟨before, hbefore, hslot⟩ :=
    (State.mem_targets_iff htracks.before.booked.table).mp htarget
  have hsaw : (run.completion flight).saw id := Option.isSome_iff_exists.mpr ⟨before, hbefore⟩
  have hsame := Completion.get?_before_of_saw htracks hsaw hget
  rw [hbefore] at hsame
  cases hsame
  exact hslot

end Runs

namespace Sample

/-- The state with two clients. -/
def paired : State :=
  ((furnished.connect Outbox.defaultCapacity).1.connect Outbox.defaultCapacity).1

/-- Both are subscribed to the same variable, with different arguments. -/
def adjoined : State :=
  ((paired.subscribe ⟨⟨1⟩, "a", "door", none, false⟩).1.subscribe
    ⟨⟨2⟩, "b", "door", some "back", false⟩).1

/-- A daemon with two clients whose tick is planned. -/
def neighbors : Run := { empty with world := empty.world.withState adjoined }.takeOff

/-- The daemon comes to its two clients in order. -/
theorem orderly_neighbors (forced : Bool) : neighbors.Orderly forced := by
  have hstart : Run.Orderly forced empty := .start _ .everything .default rfl
  have hinstalled : State.Counts forced empty.world.state furnished := ⟨.installed _, by decide⟩
  have hfirst : State.Counts forced furnished (furnished.connect Outbox.defaultCapacity).1 :=
    ⟨.connected _ _ _ rfl, by decide⟩
  have hsecond : State.Counts forced (furnished.connect Outbox.defaultCapacity).1 paired :=
    ⟨.connected _ _ _ rfl, by decide⟩
  have hasked : State.Counts forced paired
      (paired.subscribe ⟨⟨1⟩, "a", "door", none, false⟩).1 := ⟨.subscribed _, by decide⟩
  have hadjoined : State.Counts forced (paired.subscribe ⟨⟨1⟩, "a", "door", none, false⟩).1
      adjoined := ⟨.subscribed _, by decide⟩
  have hsteps : ReflTransGen (State.Counts forced) empty.world.state adjoined :=
    ((((ReflTransGen.single hinstalled).tail hfirst).tail hsecond).tail hasked).tail hadjoined
  exact (hstart.outside (empty.world.withState adjoined) hsteps).plan rfl

end Sample

/-- The second client is dropped and the code behind its variable panics; the first one is told the
same. -/
theorem apply_spares_connection_neighbors :
    ∃ flight, Sample.neighbors.flight = some flight ∧ flight.plan.jobs.length = 2 ∧
      (Sample.neighbors.world.state.apply flight.plan
        [some (.text "open"), some (.text "shut")] 0).pushes.map Push.line =
          ["a:0:open\r\n", "b:0:shut\r\n"] ∧
      ((Sample.neighbors.world.state.forgetConnection ⟨2⟩).1.apply flight.plan
        [some (.text "open"), none] 0).pushes.map Push.line = ["a:0:open\r\n"] ∧
      (Sample.neighbors.world.state.apply flight.plan
        [some (.text "open"), some (.text "shut")] 0).Spares ⟨1⟩
        ((Sample.neighbors.world.state.forgetConnection ⟨2⟩).1.apply flight.plan
          [some (.text "open"), none] 0) := by
  refine ⟨_, rfl, by with_unfolding_all rfl, by with_unfolding_all rfl,
    by with_unfolding_all rfl, (Sample.orderly_neighbors false).apply_spares_connection rfl
      (.single (.dropped ⟨2⟩ (by decide))) ?_ 0⟩
  intro subscription hmem hconnection slot hslot
  have hlive : Sample.neighbors.world.state.subscriptions.toList =
      Sample.adjoined.subscriptions.toList := by with_unfolding_all rfl
  rw [hlive] at hmem
  rcases List.mem_cons.mp hmem with rfl | hmem
  · have hfirst : slot = 0 := Option.some.inj (hslot.symm.trans (by with_unfolding_all rfl))
    rw [hfirst]
    rfl
  · obtain rfl := List.mem_singleton.mp hmem
    exact absurd hconnection (by decide)

end MetricsDaemon
