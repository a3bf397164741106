import MetricsDaemon.Proofs.Recording

/-!
# What becomes of the targets of a plan

Serving a target touches the flags of its own subscription and appends at most one line
to the queue of its connection. So each subscription is served as if it was alone, and
a queue that refused one line refuses every later line of the same tick.
-/

namespace MetricsDaemon

/-- The pushes for one subscription. -/
def pushesFor (pushes : List Push) (id : SubscriptionId) : List Push :=
  pushes.filter fun push => decide (push.subscription = id)

/-- The pushes for one subscription come in their order. -/
theorem pushesFor_append (first second : List Push) (id : SubscriptionId) :
    pushesFor (first ++ second) id = pushesFor first id ++ pushesFor second id :=
  List.filter_append ..

/-- The lines of the pushes that go to one queue, in order. -/
def linesFor (connections : Table ConnectionId Connection) (pushes : List Push) (id : OutboxId) :
    List String :=
  (pushes.filter fun push =>
    (connections.get? push.connection).any fun entry => decide (entry.outbox = id)).map Push.line

/-- The lines for one queue come in their order. -/
theorem linesFor_append (connections : Table ConnectionId Connection) (first second : List Push)
    (id : OutboxId) : linesFor connections (first ++ second) id =
      linesFor connections first id ++ linesFor connections second id := by
  rw [linesFor, List.filter_append, List.map_append]
  rfl

/-- A queue after more lines were appended. -/
def Outbox.append (outbox : Outbox) (lines : List String) : Outbox :=
  { outbox with lines := outbox.lines ++ lines }

namespace State

variable {state before middle after : State} {connection : ConnectionId} {line : String}
  {id : SubscriptionId} {subscription : Subscription} {result : Result}

/-! ## Sending one line -/

/-- No line can be queued for the connection. -/
def Refuses (state : State) (connection : ConnectionId) : Prop :=
  ∀ line, (state.send connection line).2 = false

/-- Only a queue that accepts no line refuses one, unless there is no connection or no queue. -/
theorem refuses_iff : state.Refuses connection ↔ ∀ entry outbox,
    state.connections.get? connection = some entry →
    state.outboxes.get? entry.outbox = some outbox → outbox.accepts = false := by
  constructor
  · intro hrefuses entry outbox hentry houtbox
    have hfalse := hrefuses ""
    cases haccepts : outbox.accepts with
    | false => rfl
    | true => simp [send, hentry, houtbox, haccepts] at hfalse
  · intro hfull line
    cases hentry : state.connections.get? connection with
    | none => simp [send, hentry]
    | some entry =>
      cases houtbox : state.outboxes.get? entry.outbox with
      | none => simp [send, hentry, houtbox]
      | some outbox => simp [send, hentry, houtbox, hfull entry outbox hentry houtbox]

/-- A line is queued at the end of its connection's queue, or refused. -/
theorem send_cases (state : State) (connection : ConnectionId) (line : String) :
    (state.send connection line = (state, false) ∧ state.Refuses connection) ∨
    (∃ entry outbox, state.connections.get? connection = some entry ∧
      state.outboxes.get? entry.outbox = some outbox ∧
      state.send connection line =
        ({ state with outboxes := state.outboxes.put entry.outbox (outbox.push line) }, true)) := by
  cases hentry : state.connections.get? connection with
  | none => exact .inl ⟨by simp [send, hentry], fun line => by simp [send, hentry]⟩
  | some entry =>
    cases houtbox : state.outboxes.get? entry.outbox with
    | none =>
      exact .inl ⟨by simp [send, hentry, houtbox], fun line => by simp [send, hentry, houtbox]⟩
    | some outbox =>
      cases haccepts : outbox.accepts with
      | false =>
        exact .inl ⟨by simp [send, hentry, houtbox, haccepts],
          fun line => by simp [send, hentry, houtbox, haccepts]⟩
      | true => exact .inr ⟨entry, outbox, rfl, houtbox, by simp [send, hentry, houtbox, haccepts]⟩

/-- Serving changes flags and appends the lines of the pushes to the queues of their connections. -/
structure Serves (before : State) (pushes : List Push) (after : State) : Prop where
  registry : after.registry = before.registry
  loading : after.loading = before.loading
  connections : after.connections = before.connections
  last : after.subscriptions.lastId = before.subscriptions.lastId
  alike : before.subscriptions.Alike after.subscriptions
  outboxes : ∀ id, after.outboxes.get? id = (before.outboxes.get? id).map fun outbox =>
    outbox.append (linesFor before.connections pushes id)

/-- Where nothing is pushed everything stays. -/
theorem Serves.refl (state : State) : state.Serves [] state where
  registry := rfl
  loading := rfl
  connections := rfl
  last := rfl
  alike _ := rfl
  outboxes id := by
    cases state.outboxes.get? id with
    | none => rfl
    | some outbox => simp [linesFor, Outbox.append]

/-- What is served twice in a row is served with both rows of pushes. -/
theorem Serves.trans {first second : List Push} (hfirst : before.Serves first middle)
    (hlast : middle.Serves second after) : before.Serves (first ++ second) after where
  registry := hlast.registry.trans hfirst.registry
  loading := hlast.loading.trans hfirst.loading
  connections := hlast.connections.trans hfirst.connections
  last := hlast.last.trans hfirst.last
  alike id := (hlast.alike id).trans (hfirst.alike id)
  outboxes id := by
    rw [hlast.outboxes, hfirst.outboxes, hfirst.connections, linesFor_append, Option.map_map]
    congr 1
    funext outbox
    simp [Outbox.append]

/-- A queue that refused a line goes on refusing. -/
theorem Serves.refuses {pushes : List Push} (hserves : before.Serves pushes after)
    (hrefuses : before.Refuses connection) : after.Refuses connection := by
  rw [refuses_iff] at hrefuses ⊢
  intro entry outbox hentry houtbox
  rw [hserves.connections] at hentry
  rw [hserves.outboxes] at houtbox
  obtain ⟨earlier, hearlier, rfl⟩ := Option.map_eq_some_iff.mp houtbox
  have haccepts := hrefuses entry earlier hentry hearlier
  simp only [Outbox.accepts, Outbox.append, Bool.and_eq_false_imp, List.length_append,
    decide_eq_false_iff_not] at haccepts ⊢
  intro hreceiving
  have hfull := haccepts hreceiving
  omega

/-- A line that is sent is appended to the queue of its connection. -/
theorem serves_send (hget : state.send connection line = (after, true)) :
    state.Serves [⟨id, connection, line⟩] after := by
  rcases state.send_cases connection line with ⟨h, _⟩ | ⟨entry, outbox, hentry, houtbox, h⟩
  · rw [h] at hget
    cases hget
  · rw [h] at hget
    cases hget
    refine ⟨rfl, rfl, rfl, rfl, fun _ => rfl, ?_⟩
    intro other
    rw [Table.get?_put]
    by_cases heq : entry.outbox = other
    · subst heq
      simp [linesFor, hentry, houtbox, Outbox.push, Outbox.append]
    · simp [linesFor, hentry, heq, Outbox.append]

/-! ## Serving one subscription -/

/-- What becomes of a subscription and what is pushed to it, given the result of its job. The last
case is that of a queue that takes no more lines when all is done. -/
inductive Fate (after : State) (subscription : Subscription) :
    Option Result → Subscription → List Push → Prop where
  | unserved : Fate after subscription none subscription []
  | quiet {result : Result}
      (hneeds : needsPush result.changed subscription.first subscription.pending = false) :
      Fate after subscription (some result) { subscription with first := false } []
  | queued {result : Result}
      (hneeds : needsPush result.changed subscription.first subscription.pending = true) :
      Fate after subscription (some result)
        { subscription with
          first := false, pending := subscription.pending || subscription.interest.once }
        [⟨subscription.id, subscription.interest.connection,
          pushLine subscription.interest.clientId result.type result.value⟩]
  | refused {result : Result}
      (hneeds : needsPush result.changed subscription.first subscription.pending = true)
      (hrefuses : after.Refuses subscription.interest.connection) :
      Fate after subscription (some result)
        { subscription with first := false, pending := true } []

/-- What became of one subscription is not changed when others are served later. -/
theorem Fate.later {result : Option Result} {served : Subscription} {pushes later : List Push}
    (hfate : Fate before subscription result served pushes)
    (hserves : before.Serves later after) : Fate after subscription result served pushes := by
  cases hfate with
  | unserved => exact .unserved
  | quiet hneeds => exact .quiet hneeds
  | queued hneeds => exact .queued hneeds
  | refused hneeds hrefuses => exact .refused hneeds (hserves.refuses hrefuses)

/-- What is pushed is pushed to the subscription itself. -/
theorem Fate.pushesFor_self {result : Option Result} {served : Subscription} {pushes : List Push}
    (hfate : Fate after subscription result served pushes) :
    pushesFor pushes subscription.id = pushes := by
  cases hfate <;> simp [pushesFor]

/-- Nothing is pushed to anybody else. -/
theorem Fate.pushesFor_of_ne {result : Option Result} {served : Subscription}
    {pushes : List Push} (hfate : Fate after subscription result served pushes)
    (hne : subscription.id ≠ id) : pushesFor pushes id = [] := by
  cases hfate <;> simp [pushesFor, hne]

/-- Marking changes the flags of one subscription. -/
theorem serves_mark {change : Subscription → Subscription}
    (hflagging : Subscriptions.Flagging change) :
    state.Serves [] { state with subscriptions := state.subscriptions.modify id change } where
  registry := rfl
  loading := rfl
  connections := rfl
  last := rfl
  alike := Subscriptions.alike_modify hflagging
  outboxes := (Serves.refl state).outboxes

/-- To note that a subscription was served changes flags only. -/
theorem flagging_served (pending : Bool) :
    Subscriptions.Flagging fun subscription =>
      { subscription with first := false, pending := pending } :=
  fun _ => ⟨rfl, rfl⟩

/-- To note that a subscription is to be removed changes flags only. -/
theorem flagging_pending :
    Subscriptions.Flagging fun subscription => { subscription with pending := true } :=
  fun _ => ⟨rfl, rfl⟩

/-- The state after a subscription was served, in one form for all cases. -/
theorem serveSubscription_cases (result : Result)
    (hget : state.subscriptions.get? id = some subscription) (hid : subscription.id = id) :
    ∃ sent flags served,
      (state.serveSubscription subscription result).1 = sent.markServed id flags ∧
      state.Serves (state.serveSubscription subscription result).2 sent ∧
      sent.subscriptions = state.subscriptions ∧
      served = { subscription with first := false, pending := flags } ∧
      Fate sent subscription (some result) served
        (state.serveSubscription subscription result).2 := by
  subst hid
  unfold serveSubscription
  split
  · next hneeds =>
    dsimp only
    split
    · next sent hsent =>
      refine ⟨sent, _, _, rfl, serves_send hsent, ?_, rfl, .queued hneeds⟩
      rcases state.send_cases subscription.interest.connection
          (pushLine subscription.interest.clientId result.type result.value) with ⟨h, _⟩ |
          ⟨_, _, _, _, h⟩
      · rw [h] at hsent
        cases hsent
      · rw [h] at hsent
        cases hsent
        rfl
    · next unsent hunsent =>
      rcases state.send_cases subscription.interest.connection
          (pushLine subscription.interest.clientId result.type result.value) with
          ⟨h, hrefuses⟩ | ⟨_, _, _, _, h⟩
      · rw [h] at hunsent
        cases hunsent
        exact ⟨state, true, _, rfl, .refl state, rfl, rfl, .refused hneeds hrefuses⟩
      · rw [h] at hunsent
        cases hunsent
  · next hneeds =>
    exact ⟨state, subscription.pending, _, rfl, .refl state, rfl, rfl,
      .quiet (by simpa using hneeds)⟩

/-! ## Serving one target after the other -/

variable {results : List (Option Result)} {targets : List (SubscriptionId × Nat)}
  {target : SubscriptionId × Nat} {slot : Nat} {other : SubscriptionId}

/-- Serve the targets of a plan. -/
def serveAll (results : List (Option Result)) (targets : List (SubscriptionId × Nat))
    (state : State) : State × List Push :=
  targets.foldl (serveTarget results) (state, [])

/-- Serve one target. -/
def serveOne (results : List (Option Result)) (target : SubscriptionId × Nat) (state : State) :
    State × List Push :=
  serveTarget results (state, []) target

/-- The loop serves one target and adds its pushes. -/
theorem serveTarget_eq (state : State) (pushes : List Push) :
    serveTarget results (state, pushes) target =
      ((serveOne results target state).1, pushes ++ (serveOne results target state).2) := by
  cases hresult : results[target.2]? with
  | none => simp [serveOne, serveTarget, hresult]
  | some entry =>
    cases entry with
    | none => simp [serveOne, serveTarget, hresult]
    | some result =>
      cases hget : state.subscriptions.get? target.1 <;>
        simp [serveOne, serveTarget, hresult, hget]

/-- The loop serves all targets and adds their pushes. -/
theorem foldl_serveTarget (state : State) (pushes : List Push) :
    targets.foldl (serveTarget results) (state, pushes) =
      ((serveAll results targets state).1, pushes ++ (serveAll results targets state).2) := by
  induction targets generalizing state pushes with
  | nil => simp [serveAll]
  | cons target targets ih =>
    have hall : serveAll results (target :: targets) state =
        targets.foldl (serveTarget results) (serveTarget results (state, []) target) := rfl
    rw [List.foldl_cons, hall, serveTarget_eq, serveTarget_eq, ih, ih]
    simp

/-- The targets are served in order, each in the state that the ones before it left. -/
theorem serveAll_cons (state : State) : serveAll results (target :: targets) state =
    ((serveAll results targets (serveOne results target state).1).1,
      (serveOne results target state).2 ++
        (serveAll results targets (serveOne results target state).1).2) := by
  have hall : serveAll results (target :: targets) state =
      targets.foldl (serveTarget results) (serveTarget results (state, []) target) := rfl
  rw [hall, serveTarget_eq, foldl_serveTarget]
  simp

/-- Serving a target is serving its subscription with the result of its job, if both are there. -/
theorem serveOne_cases (results : List (Option Result)) (target : SubscriptionId × Nat)
    (htable : state.subscriptions.Sound) :
    (serveOne results target state = (state, []) ∧
      ((results[target.2]?).join = none ∨ state.subscriptions.get? target.1 = none)) ∨
    (∃ result subscription, (results[target.2]?).join = some result ∧
      state.subscriptions.get? target.1 = some subscription ∧ subscription.id = target.1 ∧
      serveOne results target state = state.serveSubscription subscription result) := by
  unfold serveOne serveTarget
  split
  · next result subscription hresult hget =>
    exact .inr ⟨result, subscription, by rw [hresult]; rfl, hget, htable.numbered hget, by simp⟩
  · next hnone =>
    refine .inl ⟨rfl, ?_⟩
    cases hresult : results[target.2]? with
    | none => exact .inl rfl
    | some entry =>
      cases entry with
      | none => exact .inl rfl
      | some result =>
        cases hget : state.subscriptions.get? target.1 with
        | none => exact .inr rfl
        | some subscription => exact (hnone _ _ hresult hget).elim

/-- To serve a target changes flags and appends the lines of its pushes. -/
theorem serves_serveOne (htable : state.subscriptions.Sound) :
    state.Serves (serveOne results target state).2 (serveOne results target state).1 := by
  rcases serveOne_cases results target htable with
    ⟨h, _⟩ | ⟨result, subscription, _, hget, hid, h⟩
  · rw [h]
    exact .refl state
  · rw [h]
    obtain ⟨sent, flags, _, hstate, hserves, _⟩ := serveSubscription_cases result hget hid
    rw [hstate]
    have hmark : sent.Serves [] (sent.markServed target.1 flags) :=
      serves_mark (flagging_served flags)
    have hboth := hserves.trans hmark
    rwa [List.append_nil] at hboth

/-- Serving one target changes the flags of its own subscription at most. -/
theorem subscriptions_serveOne (htable : state.subscriptions.Sound) :
    (serveOne results target state).1.subscriptions = state.subscriptions ∨
    ∃ change, Subscriptions.Flagging change ∧
      (serveOne results target state).1.subscriptions =
        state.subscriptions.modify target.1 change := by
  rcases serveOne_cases results target htable with ⟨h, _⟩ | ⟨result, subscription, _, hget, hid, h⟩
  · rw [h]
    exact .inl rfl
  · rw [h]
    obtain ⟨sent, flags, _, hstate, _, hsame, _⟩ := serveSubscription_cases result hget hid
    rw [hstate]
    refine .inr ⟨_, flagging_served flags, ?_⟩
    rw [← hsame]
    rfl

/-- To serve a target keeps the books in order. -/
theorem booked_serveOne (hbooked : Booked state.registry state.subscriptions) :
    Booked (serveOne results target state).1.registry
      (serveOne results target state).1.subscriptions := by
  have hserves : state.Serves (serveOne results target state).2 (serveOne results target state).1 :=
    serves_serveOne hbooked.table
  rw [hserves.registry]
  rcases subscriptions_serveOne hbooked.table with h | ⟨change, hflagging, h⟩
  · rw [h]
    exact hbooked
  · rw [h]
    exact hbooked.modify hflagging

/-- Only the subscription of the target is served. -/
theorem serveOne_of_ne (results : List (Option Result)) (htable : state.subscriptions.Sound)
    (hne : target.1 ≠ other) :
    (serveOne results target state).1.subscriptions.get? other = state.subscriptions.get? other ∧
      pushesFor (serveOne results target state).2 other = [] := by
  constructor
  · rcases subscriptions_serveOne htable with h | ⟨change, _, h⟩
    · rw [h]
    · rw [h, Subscriptions.get?_modify, if_neg hne]
  · rcases serveOne_cases results target htable with
      ⟨h, _⟩ | ⟨result, subscription, _, hget, hid, h⟩
    · rw [h]
      rfl
    · rw [h]
      obtain ⟨_, _, _, _, _, _, _, hfate⟩ := serveSubscription_cases result hget hid
      exact hfate.pushesFor_of_ne (by rwa [hid])

/-- A live target has its fate. -/
theorem fate_serveOne (results : List (Option Result)) (htable : state.subscriptions.Sound)
    (hget : state.subscriptions.get? target.1 = some subscription) :
    ∃ served, (serveOne results target state).1.subscriptions.get? target.1 = some served ∧
      Fate (serveOne results target state).1 subscription (results[target.2]?).join served
        (serveOne results target state).2 := by
  rcases serveOne_cases results target htable with
    ⟨h, hresult | hgone⟩ | ⟨result, found, hresult, hfound, hid, h⟩
  · rw [h, hresult]
    exact ⟨subscription, hget, .unserved⟩
  · rw [hget] at hgone
    cases hgone
  · rw [hget] at hfound
    cases hfound
    rw [h, hresult]
    obtain ⟨sent, flags, served, hstate, _, hsame, hserved, hfate⟩ :=
      serveSubscription_cases result hget hid
    have hmark : sent.Serves [] (sent.markServed target.1 flags) :=
      serves_mark (flagging_served flags)
    rw [hstate]
    refine ⟨served, ?_, hfate.later hmark⟩
    have hmodify : (sent.markServed target.1 flags).subscriptions =
        sent.subscriptions.modify target.1 fun subscription =>
          { subscription with first := false, pending := flags } := rfl
    rw [hmodify, hsame, Subscriptions.get?_modify, if_pos rfl, hget, hserved]
    rfl

/-! ## Serving all targets -/

/-- To serve all targets keeps the books in order. -/
theorem booked_serveAll (hbooked : Booked state.registry state.subscriptions) :
    Booked (serveAll results targets state).1.registry
      (serveAll results targets state).1.subscriptions := by
  induction targets generalizing state with
  | nil => exact hbooked
  | cons target targets ih =>
    rw [serveAll_cons]
    exact ih (booked_serveOne hbooked)

/-- To serve all targets changes flags and appends the lines of all pushes. -/
theorem serves_serveAll (hbooked : Booked state.registry state.subscriptions) :
    state.Serves (serveAll results targets state).2 (serveAll results targets state).1 := by
  induction targets generalizing state with
  | nil => exact .refl state
  | cons target targets ih =>
    rw [serveAll_cons]
    exact (serves_serveOne hbooked.table).trans (ih (booked_serveOne hbooked))

/-- A subscription that is no target is left alone. -/
theorem serveAll_of_not_mem (results : List (Option Result))
    (hbooked : Booked state.registry state.subscriptions)
    (hnot : other ∉ targets.map Prod.fst) :
    (serveAll results targets state).1.subscriptions.get? other =
        state.subscriptions.get? other ∧
      pushesFor (serveAll results targets state).2 other = [] := by
  induction targets generalizing state with
  | nil => exact ⟨rfl, rfl⟩
  | cons target targets ih =>
    rw [List.map_cons, List.mem_cons, not_or] at hnot
    obtain ⟨hget, hpushes⟩ := serveOne_of_ne results hbooked.table (Ne.symm hnot.1)
    obtain ⟨hrest, hpushesRest⟩ := ih (booked_serveOne hbooked) hnot.2
    rw [serveAll_cons]
    refine ⟨hrest.trans hget, ?_⟩
    rw [pushesFor_append, hpushes, hpushesRest]
    rfl

/-- A subscription that is gone gets nothing. -/
theorem serveAll_of_gone (hbooked : Booked state.registry state.subscriptions)
    (hgone : state.subscriptions.get? id = none) :
    pushesFor (serveAll results targets state).2 id = [] := by
  induction targets generalizing state with
  | nil => rfl
  | cons target targets ih =>
    have hserves : state.Serves (serveOne results target state).2
        (serveOne results target state).1 := serves_serveOne hbooked.table
    have hstill : (serveOne results target state).1.subscriptions.get? id = none := by
      have hinterest := hserves.alike id
      rw [hgone, Option.map_none, Option.map_eq_none_iff] at hinterest
      exact hinterest
    have hnone : pushesFor (serveOne results target state).2 id = [] := by
      by_cases heq : target.1 = id
      · rcases serveOne_cases results target hbooked.table with ⟨h, _⟩ | ⟨_, _, _, hget, _⟩
        · rw [h]
          rfl
        · rw [heq, hgone] at hget
          cases hget
      · exact (serveOne_of_ne results hbooked.table heq).2
    rw [serveAll_cons, pushesFor_append, hnone, ih (booked_serveOne hbooked) hstill]
    rfl

/-- A target is served as if it was alone. -/
theorem fate_serveAll (results : List (Option Result))
    (hbooked : Booked state.registry state.subscriptions)
    (hnodup : (targets.map Prod.fst).Nodup) (hmem : (id, slot) ∈ targets)
    (hget : state.subscriptions.get? id = some subscription) :
    ∃ served, (serveAll results targets state).1.subscriptions.get? id = some served ∧
      Fate (serveAll results targets state).1 subscription (results[slot]?).join served
        (pushesFor (serveAll results targets state).2 id) := by
  induction targets generalizing state with
  | nil => cases hmem
  | cons target targets ih =>
    rw [List.map_cons, List.nodup_cons] at hnodup
    have hafter : Booked (serveOne results target state).1.registry
        (serveOne results target state).1.subscriptions := booked_serveOne hbooked
    rw [serveAll_cons, pushesFor_append]
    rcases List.mem_cons.mp hmem with rfl | hmem
    · have hself : state.subscriptions.get? (id, slot).1 = some subscription := hget
      obtain ⟨served, hserved, hfate⟩ := fate_serveOne results hbooked.table hself
      obtain ⟨hrest, hpushes⟩ := serveAll_of_not_mem results hafter hnodup.1
      refine ⟨served, hrest.trans hserved, ?_⟩
      have hid : subscription.id = id := hbooked.table.numbered hget
      have hown := hfate.pushesFor_self
      rw [hid] at hown
      rw [hpushes, List.append_nil, hown]
      exact hfate.later (serves_serveAll hafter)
    · have hne : target.1 ≠ id := by
        rintro rfl
        exact hnodup.1 (List.mem_map.mpr ⟨_, hmem, rfl⟩)
      obtain ⟨hsame, hpushes⟩ := serveOne_of_ne results hbooked.table hne
      rw [hpushes, List.nil_append]
      exact ih hafter hnodup.2 hmem (hsame.trans hget)

/-! ## Who takes lines -/

/-- A connection that takes no lines is not that of a line that was queued. -/
theorem connection_ne_serveSubscription (hrefuses : state.Refuses connection) :
    ∀ push ∈ (state.serveSubscription subscription result).2, push.connection ≠ connection := by
  unfold serveSubscription
  split
  · dsimp only
    split
    · next sent hsent =>
      intro push hmem hsame
      obtain rfl := List.mem_singleton.mp hmem
      dsimp only at hsame
      rw [hsame] at hsent
      have hfalse := hrefuses (pushLine subscription.interest.clientId result.type result.value)
      rw [hsent] at hfalse
      cases hfalse
    · exact nofun
  · exact nofun

/-- Nothing is queued for a connection that takes no lines. -/
theorem connection_ne_serveAll (hbooked : Booked state.registry state.subscriptions)
    (hrefuses : state.Refuses connection) :
    ∀ push ∈ (serveAll results targets state).2, push.connection ≠ connection := by
  induction targets generalizing state with
  | nil => exact nofun
  | cons target targets ih =>
    have hserves : state.Serves (serveOne results target state).2
        (serveOne results target state).1 := serves_serveOne hbooked.table
    rw [serveAll_cons]
    intro push hmem
    rcases List.mem_append.mp hmem with hmem | hmem
    · rcases serveOne_cases results target hbooked.table with ⟨h, _⟩ | ⟨_, _, _, _, _, h⟩
      · rw [h] at hmem
        cases hmem
      · rw [h] at hmem
        exact connection_ne_serveSubscription hrefuses push hmem
    · exact ih (booked_serveOne hbooked) (hserves.refuses hrefuses) push hmem

end State

end MetricsDaemon
