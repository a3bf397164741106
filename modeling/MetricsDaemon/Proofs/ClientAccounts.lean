import MetricsDaemon.Proofs.Run

/-!
# Clients are accounted for

In every state that a run reaches without a forced unload, the clients of each
module are its pin and its subscriptions, no subscription dangles, and the lists of the
connections share out the subscriptions.
-/

namespace MetricsDaemon

/-- The tables of modules, variables, subscriptions and connections agree with each other. -/
structure State.Accounted (state : State) : Prop where
  clients : ∀ id module_, state.registry.get? id = some module_ →
    module_.clients = module_.pinned.toNat + state.subscriptions.countOn id
  /-- A live subscription has a resident module, which counts it, and a variable of that module,
  which is bound. -/
  anchored : ∀ id subscription, state.subscriptions.get? id = some subscription →
    ∃ module_ variable_ callable,
      state.registry.get? subscription.interest.module_ = some module_ ∧ 0 < module_.clients ∧
      state.directory.get? subscription.interest.variable_ = some variable_ ∧
      variable_.module_ = subscription.interest.module_ ∧
      subscription.interest.variable_ ∈ module_.owned ∧ variable_.binding = .ready callable
  /-- A live subscription is listed once by its own connection. -/
  listed : ∀ id subscription, state.subscriptions.get? id = some subscription →
    ∃ entry, state.connections.get? subscription.interest.connection = some entry ∧
      entry.subscriptions.count id = 1
  /-- A connection lists nothing but live subscriptions of its own. -/
  owned : ∀ connection entry id, state.connections.get? connection = some entry →
    id ∈ entry.subscriptions → ∃ subscription,
      state.subscriptions.get? id = some subscription ∧
        subscription.interest.connection = connection

/-- A module that somebody holds has a client, so releasing it never finds none. -/
theorem Booked.clients_pos {registry : Registry} {subscriptions : Subscriptions}
    {id : SubscriptionId} {subscription : Subscription} {module_ : Module}
    (hbooked : Booked registry subscriptions)
    (hget : subscriptions.get? id = some subscription)
    (hmodule : registry.get? subscription.interest.module_ = some module_) :
    0 < module_.clients := by
  have hclients := hbooked.clients hmodule
  have hheld : subscriptions.countOn subscription.interest.module_ ≠ 0 := by
    intro hnone
    exact hbooked.table.countOn_eq_zero_iff.mp hnone hget rfl
  omega

/-- The tables of a sound state agree with each other. -/
theorem State.accounted_of_sound {state : State} (hsound : state.Sound false) :
    state.Accounted where
  clients _ _ hget := hsound.booked.clients hget
  anchored := by
    intro id subscription hget
    have hresident := hsound.held rfl hget
    obtain ⟨module_, hmodule⟩ := Option.isSome_iff_exists.mp hresident
    obtain ⟨variable_, callable, hvariable, howner, hbinding⟩ :=
      hsound.booked.anchored hget hresident
    obtain ⟨found, hfound, hmem⟩ := hsound.booked.modules.owner hvariable
    rw [howner, hmodule] at hfound
    cases hfound
    exact ⟨module_, variable_, callable, hmodule, hsound.booked.clients_pos hget hmodule, hvariable,
      howner, hmem, hbinding⟩
  listed := by
    intro id subscription hget
    obtain ⟨entry, hentry, hmem⟩ := hsound.listed.listed hget
    exact ⟨entry, hentry, List.count_eq_one_of_mem (hsound.listed.distinct hentry) hmem⟩
  owned _ _ _ hentry hmem := hsound.listed.live hentry hmem

/-- Every module that is loaded, every subscription that is made, removed or retired, and every
connection that comes or goes leaves the accounts balanced, in whatever order it happens and
whatever tick is in flight. -/
theorem Run.Reachable.clients_eq_holders {run : Run} (hreach : Reachable false run) :
    run.world.state.Accounted :=
  State.accounted_of_sound hreach.sound.state

/-- A daemon with one subscriber, whose module has one client. -/
theorem clients_eq_holders_subscribed :
    Run.Reachable false Sample.subscribed ∧
      Sample.subscribed.world.state.subscriptions.countOn ⟨1⟩ = 1 ∧
      Sample.subscribed.world.state.Accounted :=
  ⟨Sample.reachable_subscribed false, rfl,
    Run.Reachable.clients_eq_holders (Sample.reachable_subscribed false)⟩

end MetricsDaemon
