import MetricsDaemon.Proofs.Delivery

/-!
# Subscriptions and their variables

A subscription is on the module of its variable. As long as the variable is registered its
module is resident, so its method stays bound and it can be evaluated, even where modules
are unloaded under their subscribers: then the variable goes as well.
-/

namespace MetricsDaemon

namespace State

variable {forced : Bool} {state before after : State} {id : SubscriptionId}
  {subscription : Subscription} {variable_ : Variable}

/-- A subscription whose variable is registered is on the module of that variable. -/
def Rooted (state : State) : Prop :=
  ∀ id subscription variable_, state.subscriptions.get? id = some subscription →
    state.directory.get? subscription.interest.variable_ = some variable_ →
      variable_.module_ = subscription.interest.module_

/-- Every subscription that is new is on a module that is resident. -/
def Welcomes (before after : State) : Prop :=
  ∀ id subscription, after.subscriptions.get? id = some subscription →
    before.subscriptions.lastId < id.number →
      (after.registry.get? subscription.interest.module_).isSome

/-- Whoever only loses subscriptions has no new ones. -/
theorem welcomes_of_subset (htable : before.subscriptions.Sound)
    (hsubset : ∀ {id subscription}, after.subscriptions.get? id = some subscription →
      before.subscriptions.get? id = some subscription) : before.Welcomes after := by
  intro id subscription hget hlt
  have hle := htable.le_lastId (hsubset hget)
  omega

/-- A new subscription is on a module that is resident. -/
theorem welcomes_subscribe (hsound : state.Sound forced) (request : Request) :
    state.Welcomes (state.subscribe request).1 := by
  have hdirectory := hsound.booked.modules.directory
  rcases state.subscribe_cases request with h | ⟨_, unit, _, h⟩ |
    ⟨entry, variable_, unit, callable, _, htarget, _, h⟩
  · rw [h]
    exact welcomes_of_subset hsound.booked.table fun hget => hget
  · rw [h]
    refine welcomes_of_subset hsound.booked.table fun hget => ?_
    rwa [subscriptions_bindMethod] at hget
  · rw [h, addSubscription_fst]
    intro id subscription hget hlt
    obtain ⟨_, module_, _, _, hmodule, _⟩ := target?_eq_some_iff.mp htarget
    rw [subscriptions_bindMethod, Subscriptions.get?_insert] at hget
    split at hget
    · cases hget
      dsimp only
      rw [Registry.get?_recount, get?_registry_bindMethod]
      split <;> simp [Request.interest, hmodule]
    · have hle := hsound.booked.table.le_lastId hget
      omega

/-- What is subscribed in a step is on a module that is resident. -/
theorem welcomes_step (hsound : state.Sound forced) (hstep : Step forced state after) :
    state.Welcomes after := by
  have htable := hsound.booked.table
  cases hstep with
  | noted | provided | gated | relayed | connected | installed | swept | unloaded =>
    exact welcomes_of_subset htable fun hget => hget
  | subscribed request => exact welcomes_subscribe hsound request
  | unsubscribed => exact welcomes_of_subset htable leaves_unsubscribe.subscriptions
  | forgotten => exact welcomes_of_subset htable leaves_forgetConnection.subscriptions
  | stopped => exact welcomes_of_subset htable leaves_emptied.subscriptions
  | planned now =>
    have hbinds : state.Binds (state.plan now).1 := binds_plan hsound.booked.modules.directory
    refine welcomes_of_subset htable fun hget => ?_
    rwa [hbinds.subscriptions] at hget

/-- What stays is on the module that it was on, and what is new is bound to a resident one. -/
theorem Rooted.keeps (hrooted : before.Rooted) (hsound : before.Sound forced)
    (hafter : after.Sound forced) (hkeeps : before.Keeps after) (hnew : before.Welcomes after) :
    after.Rooted := by
  intro id subscription variable_ hget hvariable
  by_cases hle : id.number ≤ before.subscriptions.lastId
  · have hbefore := hkeeps.subscriptions.kept hget hle
    obtain ⟨found, hfound, hprofile, _⟩ :=
      hkeeps.directory.kept hvariable (hsound.booked.variable_le hbefore)
    rw [Variable.module_eq_of_profile_eq hprofile]
    exact hrooted id subscription found hbefore hfound
  · have hresident := hnew id subscription hget (Nat.lt_of_not_le hle)
    obtain ⟨found, _, hfound, hmodule, _⟩ := hafter.booked.anchored hget hresident
    have hsame : found = variable_ := Option.some.inj (hfound.symm.trans hvariable)
    rwa [← hsame]

/-- Steps leave the subscriptions on the modules of their variables. -/
theorem Rooted.steps (hrooted : before.Rooted) (hsound : before.Sound forced)
    (hsteps : Steps forced before after) : after.Rooted := by
  induction hsteps with
  | refl => exact hrooted
  | tail hsteps hstep ih =>
    have hmiddle := hsound.steps hsteps
    exact ih.keeps hmiddle (hmiddle.step hstep) (hmiddle.keeps_step hstep)
      (welcomes_step hmiddle hstep)

/-- A variable with a subscription can be evaluated as long as it is registered. -/
theorem Rooted.callable (hrooted : state.Rooted) (hsound : state.Sound forced)
    (hget : state.subscriptions.get? id = some subscription)
    (hvariable : state.directory.get? subscription.interest.variable_ = some variable_) :
    ∃ callable, state.callableFor subscription.interest.variable_ = some callable := by
  have hmodule := hrooted id subscription variable_ hget hvariable
  obtain ⟨module_, hresident, _⟩ := hsound.booked.modules.owner hvariable
  rw [hmodule] at hresident
  obtain ⟨found, callable, hfound, _, hbinding⟩ :=
    hsound.booked.anchored hget (Option.isSome_iff_exists.mpr ⟨module_, hresident⟩)
  exact ⟨callable, callableFor_of_ready hsound.booked.modules hfound hbinding⟩

end State

/-! ## Every run -/

open Run (Tracks)

variable {forced : Bool}

/-- Applying a tick changes neither who is subscribed to what nor whose a variable is. -/
theorem Completion.rooted_applied {completion : Completion} (hrooted : completion.met.Rooted)
    (hmet : completion.met.Sound forced)
    (htracks : Tracks forced completion.flight completion.met) :
    completion.applied.state.Rooted := by
  intro id subscription variable_ hget hvariable
  obtain ⟨before, hbefore, hinterest⟩ := State.get?_of_apply hmet.booked hget
  obtain ⟨found, hfound, hprofile, _⟩ := Completion.get?_directory_applied hmet htracks hvariable
  rw [← hinterest] at hfound ⊢
  rw [Variable.module_eq_of_profile_eq hprofile]
  exact hrooted id before found hbefore hfound

/-- In every reachable run the subscriptions are on the modules of their variables. -/
theorem Run.Reachable.rooted {run : Run} (hreach : Reachable forced run) :
    run.world.state.Rooted := by
  induction hreach with
  | start world layout settings hstate =>
    rw [hstate]
    intro id subscription variable_ hget
    cases hget
  | @step run after hbefore hstep ih =>
    have hsound := hbefore.sound
    cases hstep with
    | outside world hsteps => exact ih.steps hsound.state hsteps
    | plan hidle => exact ih.steps hsound.state (.single (.planned _))
    | call | abandon => exact ih
    | @apply flight hflight hdone =>
      have htracks : Tracks forced (run.completion flight).flight (run.completion flight).met :=
        hsound.flight hflight
      exact Completion.rooted_applied ih hsound.state htracks

end MetricsDaemon
