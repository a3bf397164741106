import MetricsDaemon.Proofs.Consistency
import MetricsDaemon.Proofs.Rooting

/-!
# What a number leads to later

Modules and subscriptions come and go between two moments of a run, but no number is
given out twice. A module that has left does not come back under its number, and nobody
new is on it. A tick that was planned after a moment was planned and applied in states
that come after it.
-/

namespace MetricsDaemon

open Relation (ReflTransGen)
open Run (Tracks)

/-- Any number of acts keeps what numbers lead to. -/
theorem Registry.Sound.succeeds_acts {unloads : Bool} {before after : Registry}
    (hsound : before.Sound) (hacts : before.Acts unloads after) : before.Succeeds after := by
  induction hacts with
  | refl => exact .of_tables_eq rfl rfl rfl
  | tail hacts hact ih => exact ih.trans ((hsound.acts hacts).succeeds_act hact)

namespace State

variable {forced : Bool} {state before middle after : State} {id : SubscriptionId}
  {moduleId : ModuleId} {subscription : Subscription}

/-- A later state. Numbers lead to what they led to, or to nothing, and who is new is on a module
that was not there before, or was resident. -/
structure Succeeds (before after : State) : Prop where
  registry : before.registry.Succeeds after.registry
  subscriptions : before.subscriptions.Succeeds after.subscriptions
  newcomers : ∀ {id subscription}, after.subscriptions.get? id = some subscription →
    before.subscriptions.lastId < id.number →
      before.registry.lastId < subscription.interest.module_.number ∨
        (before.registry.get? subscription.interest.module_).isSome

/-- A module that is resident later was resident before or is new. -/
theorem Succeeds.resident (hsucceeds : before.Succeeds after)
    (hresident : (after.registry.get? moduleId).isSome) :
    before.registry.lastId < moduleId.number ∨ (before.registry.get? moduleId).isSome := by
  obtain ⟨found, hfound⟩ := Option.isSome_iff_exists.mp hresident
  refine or_iff_not_imp_left.mpr fun hold => ?_
  obtain ⟨module_, hmodule, _⟩ := hsucceeds.registry.same hfound (Nat.le_of_not_lt hold)
  exact Option.isSome_iff_exists.mpr ⟨module_, hmodule⟩

/-- A sound state comes after itself. -/
theorem Succeeds.refl (hsound : state.Sound forced) : state.Succeeds state where
  registry := .of_tables_eq rfl rfl rfl
  subscriptions := .refl _
  newcomers hget hlt := absurd (hsound.booked.table.le_lastId hget) (Nat.not_le_of_lt hlt)

/-- What comes after a later state comes after the earlier one. -/
theorem Succeeds.trans (hfirst : before.Succeeds middle) (hlast : middle.Succeeds after) :
    before.Succeeds after where
  registry := hfirst.registry.trans hlast.registry
  subscriptions := hfirst.subscriptions.trans hlast.subscriptions
  newcomers := by
    intro id subscription hget hlt
    by_cases hle : id.number ≤ middle.subscriptions.lastId
    · obtain ⟨between, hbetween, hinterest⟩ := hlast.subscriptions.same hget hle
      rw [hinterest]
      exact hfirst.newcomers hbetween hlt
    · rcases hlast.newcomers hget (Nat.lt_of_not_le hle) with hnew | hresident
      · exact .inl (Nat.lt_of_le_of_lt hfirst.registry.last hnew)
      · exact hfirst.resident hresident

/-- A module that has left stays away. -/
theorem Succeeds.get?_eq_none (hsucceeds : before.Succeeds after)
    (hleft : before.registry.get? moduleId = none)
    (hgiven : moduleId.number ≤ before.registry.lastId) :
    after.registry.get? moduleId = none := by
  cases hget : after.registry.get? moduleId with
  | none => rfl
  | some found =>
    obtain ⟨module_, hmodule, _⟩ := hsucceeds.registry.same hget hgiven
    rw [hleft] at hmodule
    cases hmodule

/-- Nobody new is on a module that has left. -/
theorem Succeeds.le_lastId (hsucceeds : before.Succeeds after)
    (hget : after.subscriptions.get? id = some subscription)
    (hleft : before.registry.get? subscription.interest.module_ = none)
    (hgiven : subscription.interest.module_.number ≤ before.registry.lastId) :
    id.number ≤ before.subscriptions.lastId := by
  by_contra hlt
  rcases hsucceeds.newcomers hget (Nat.lt_of_not_le hlt) with hnew | hresident
  · omega
  · rw [hleft] at hresident
    cases hresident

/-! ## Every step -/

/-- Whoever brings no module in keeps what numbers of modules lead to. -/
theorem Acted.succeeds {unloads : Bool} (hacted : before.Acted unloads after)
    (hsound : before.Sound forced) : before.registry.Succeeds after.registry :=
  hsound.booked.modules.succeeds_acts hacted.registry

/-- The registry after a step comes after the one before it. -/
theorem Sound.succeeds_registry (hsound : state.Sound forced) (hstep : Step forced state after) :
    state.registry.Succeeds after.registry := by
  cases hstep with
  | noted | provided | gated | relayed | connected => exact .of_tables_eq rfl rfl rfl
  | installed => exact hsound.booked.modules.succeeds_install
  | subscribed request =>
    exact (acted_subscribe hsound.booked.modules.directory request).succeeds hsound
  | unsubscribed id =>
    have hacted : state.Acted false (state.unsubscribe id).1 := acted_unsubscribe
    exact hacted.succeeds hsound
  | forgotten id =>
    have hacted : state.Acted false (state.forgetConnection id).1 := acted_forgetConnection
    exact hacted.succeeds hsound
  | swept => exact (acted_unloadAll _).succeeds hsound
  | stopped => exact acted_shutdown.succeeds hsound
  | unloaded id => exact (acted_unloadAll [id]).succeeds hsound
  | planned now => exact (acted_plan now).succeeds hsound

/-- The state after a step comes after the one before it. -/
theorem Sound.succeeds_step (hsound : state.Sound forced) (hstep : Step forced state after) :
    state.Succeeds after where
  registry := hsound.succeeds_registry hstep
  subscriptions := (hsound.keeps_step hstep).subscriptions.succeeds
  newcomers := by
    intro id subscription hget hlt
    have hresident := welcomes_step hsound hstep id subscription hget hlt
    obtain ⟨found, hfound⟩ := Option.isSome_iff_exists.mp hresident
    refine or_iff_not_imp_left.mpr fun hold => ?_
    obtain ⟨module_, hmodule, _⟩ :=
      (hsound.succeeds_registry hstep).same hfound (Nat.le_of_not_lt hold)
    exact Option.isSome_iff_exists.mpr ⟨module_, hmodule⟩

/-- The state after any number of steps comes after the one before them. -/
theorem Sound.succeeds_steps (hsound : state.Sound forced) (hsteps : Steps forced state after) :
    state.Succeeds after := by
  induction hsteps with
  | refl => exact .refl hsound
  | tail hsteps hstep ih => exact ih.trans ((hsound.steps hsteps).succeeds_step hstep)

/-- The state after a tick was applied comes after the one that it met. -/
theorem Sound.succeeds_apply (hsound : state.Sound forced) (plan : Plan)
    (values : List (Option Value)) (now : Nat) :
    state.Succeeds (state.apply plan values now).state where
  registry := (acted_apply hsound.booked plan values now).succeeds hsound
  subscriptions := by
    refine ⟨Nat.le_of_eq (lastId_subscriptions_apply hsound.booked).symm, fun hget _ => ?_⟩
    obtain ⟨subscription, hsubscription, hinterest⟩ := get?_of_apply hsound.booked hget
    exact ⟨subscription, hsubscription, hinterest.symm⟩
  newcomers := by
    intro id subscription hget hlt
    obtain ⟨found, hfound, _⟩ := get?_of_apply hsound.booked hget
    exact absurd (hsound.booked.table.le_lastId hfound) (Nat.not_le_of_lt hlt)

end State

namespace Run

variable {forced : Bool} {run idle after : Run}

/-! ## Later runs -/

/-- The state after a step of a run comes after the one before it. -/
theorem Sound.succeeds_step (hsound : Sound forced run) (hstep : Step forced run after) :
    run.world.state.Succeeds after.world.state := by
  cases hstep with
  | outside world hsteps => exact hsound.state.succeeds_steps hsteps
  | plan => exact hsound.state.succeeds_step (.planned _)
  | call | abandon => exact .refl hsound.state
  | apply => exact hsound.state.succeeds_apply _ _ _

/-- The state after any number of steps of a run comes after the one before them. -/
theorem Reachable.succeeds_steps (hreach : Reachable forced run)
    (hsteps : ReflTransGen (Step forced) run after) :
    run.world.state.Succeeds after.world.state := by
  induction hsteps with
  | refl => exact .refl hreach.sound.state
  | tail hsteps hstep ih => exact ih.trans ((hreach.steps hsteps).sound.succeeds_step hstep)

/-- The tick in flight was planned since the run was idle. -/
def FliesSince (forced : Bool) (idle : Run) (flight : Flight) (after : Run) : Prop :=
  ∃ planned, ReflTransGen (Step forced) idle planned ∧
    ReflTransGen (Step forced) planned after ∧ flight.before = planned.world.state

/-- The tick was planned and applied since the run was idle. -/
def LandedSince (forced : Bool) (idle : Run) (completion : Completion) : Prop :=
  ∃ landed, FliesSince forced idle completion.flight landed ∧
    completion.met = landed.world.state

/-- The tick in flight was still planned since then after one more step. -/
theorem FliesSince.step {flight : Flight} (hflies : FliesSince forced idle flight run)
    (hstep : Step forced run after) : FliesSince forced idle flight after := by
  obtain ⟨planned, hidle, hsteps, hbefore⟩ := hflies
  exact ⟨planned, hidle, hsteps.tail hstep, hbefore⟩

/-- What is in flight and what was applied since the run was idle was planned since. -/
structure Since (forced : Bool) (idle after : Run) : Prop where
  flight : ∀ flight, after.flight = some flight → FliesSince forced idle flight after
  history : ∃ recent, after.history = recent ++ idle.history ∧
    ∀ completion ∈ recent, LandedSince forced idle completion

/-- What was planned and applied since then was so after one more step. -/
theorem Since.step (hsince : Since forced idle run) (hsteps : ReflTransGen (Step forced) idle run)
    (hstep : Step forced run after) : Since forced idle after := by
  have hstill {flight : Flight} (hflight : run.flight = some flight) :
      FliesSince forced idle flight after := (hsince.flight flight hflight).step hstep
  cases hstep with
  | outside world => exact ⟨fun _ hflight => hstill hflight, hsince.history⟩
  | plan hidle =>
    refine ⟨fun flight hflight => ?_, hsince.history⟩
    cases hflight
    exact ⟨run, hsteps, .single (.plan hidle), rfl⟩
  | @call flight job hflight hjob =>
    have hbefore : FliesSince forced idle flight
        { run with flight := some (flight.answered run.world job) } := hstill hflight
    refine ⟨fun called hcalled => ?_, hsince.history⟩
    cases hcalled
    exact hbefore
  | @apply flight hflight hdone =>
    refine ⟨fun _ hsome => (Option.some_ne_none _ hsome.symm).elim, ?_⟩
    obtain ⟨recent, hhistory, hrecent⟩ := hsince.history
    refine ⟨run.completion flight :: recent, ?_, ?_⟩
    · rw [List.cons_append, ← hhistory]
      rfl
    · intro completion hmem
      rcases List.mem_cons.mp hmem with rfl | hmem
      · exact ⟨run, hsince.flight flight hflight, rfl⟩
      · exact hrecent completion hmem
  | abandon => exact ⟨fun _ hsome => (Option.some_ne_none _ hsome.symm).elim, hsince.history⟩

/-- Along any steps from an idle run, what is in flight and what was applied was planned since. -/
theorem since_of_steps (hidle : idle.flight = none)
    (hsteps : ReflTransGen (Step forced) idle after) : Since forced idle after := by
  induction hsteps with
  | refl =>
    refine ⟨fun flight hflight => ?_, [], rfl, fun _ hmem => absurd hmem List.not_mem_nil⟩
    rw [hidle] at hflight
    cases hflight
  | tail hsteps hstep ih => exact ih.step hsteps hstep

end Run

end MetricsDaemon
