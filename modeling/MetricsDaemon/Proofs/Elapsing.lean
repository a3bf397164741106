import MetricsDaemon.Proofs.Conduct

/-!
# Time passes, the snapshot stays

The snapshot of the machine is refreshed by methods, before their code runs, and by
nothing else: whatever the code does then, and whatever is loaded, unloaded or subscribed
to meanwhile, only lets time pass. A refresh in turn changes nothing before the pause
since the last one is over.
-/

namespace MetricsDaemon

namespace Host

/-- The clock does not go back, and the snapshot stays what it is. -/
structure Elapses (before after : Host) : Prop where
  clock : before.now ≤ after.now
  snapshot : after.snapshot = before.snapshot

/-- The clock does not go back, and the snapshot stays what it is, unless it was never refreshed, or
last refreshed no later than the pause before the end. -/
structure Rests (before after : Host) : Prop where
  clock : before.now ≤ after.now
  snapshot : after.snapshot = before.snapshot ∨
    ∀ moment ∈ before.snapshot.refreshedAt, moment + Snapshot.pause ≤ after.now

variable {host before middle after : Host}

/-- Time may stand still. -/
theorem Elapses.refl (host : Host) : host.Elapses host := ⟨Nat.le_refl _, rfl⟩

/-- Time that passes twice passes. -/
theorem Elapses.trans (hfirst : before.Elapses middle) (hlast : middle.Elapses after) :
    before.Elapses after :=
  ⟨Nat.le_trans hfirst.clock hlast.clock, hlast.snapshot.trans hfirst.snapshot⟩

/-- While time just passes the snapshot rests. -/
theorem Elapses.rests (helapses : before.Elapses after) : before.Rests after :=
  ⟨helapses.clock, .inl helapses.snapshot⟩

/-- A snapshot rests while nothing happens. -/
theorem Rests.refl (host : Host) : host.Rests host := (Elapses.refl host).rests

/-- A snapshot that rests twice in a row rests. -/
theorem Rests.trans (hfirst : before.Rests middle) (hlast : middle.Rests after) :
    before.Rests after := by
  refine ⟨Nat.le_trans hfirst.clock hlast.clock, ?_⟩
  rcases hfirst.snapshot with hsame | hpaused
  · rw [← hsame]
    exact hlast.snapshot
  · exact .inr fun moment hmem => Nat.le_trans (hpaused moment hmem) hlast.clock

/-- To advance the clock is to let time pass. -/
theorem elapses_advance (host : Host) (millis : Nat) : host.Elapses (host.advance millis) := by
  cases host
  exact ⟨Nat.le_add_right _ _, rfl⟩

/-- To change the readings is to let time pass, for the snapshot does not follow them. -/
theorem elapses_observe (host : Host) (readings : Readings) :
    host.Elapses (host.observe readings) := by
  cases host
  exact ⟨Nat.le_refl _, rfl⟩

/-- Only what is older than the pause is refreshed. -/
theorem rests_refresh (host : Host) : host.Rests host.refresh := by
  refine ⟨Nat.le_refl _, ?_⟩
  cases hrecent : host.snapshot.isRecent host.now with
  | true =>
    refine .inl ?_
    rw [refresh, Snapshot.refresh, if_pos hrecent]
  | false =>
    refine .inr fun moment hmem => ?_
    rw [Snapshot.isRecent, Option.mem_def.mp hmem, Option.any_some, decide_eq_false_iff_not]
      at hrecent
    have hpause : 0 < Snapshot.pause := by decide
    change moment + Snapshot.pause ≤ host.now
    omega

end Host

namespace World

variable {world : World} {origin : Origin} {unit : ProviderUnit} {perform : Performer}
  {callable : Callable} {arg : Option String} {request : Request} {phase : LoadPhase}

open Host (Elapses)

/-- A method rests the snapshot, or refreshes it in time. -/
theorem rests_called : world.host.Rests (world.called callable arg).host := by
  have hprepared : world.host.Rests (callable.prepareHost world.host) := by
    unfold Callable.prepareHost
    split
    · exact Host.rests_refresh _
    · exact .refl _
  exact ⟨hprepared.clock, hprepared.snapshot⟩

/-! ## Provider code -/

/-- To open a module takes no time. -/
theorem host_openOrigin : (world.openOrigin origin).1.host = world.host := by
  cases origin with
  | builtin name =>
    unfold openOrigin
    dsimp only
    split <;> rfl
  | file path =>
    unfold openOrigin
    dsimp only
    split <;> rfl

/-- To note answers takes no time. -/
theorem host_noteAnswers (answers : List Bool) :
    (world.noteAnswers unit.tag answers).host = world.host := by
  induction answers generalizing world with
  | nil => rfl
  | cons answer rest ih =>
    have hrest : ((world.note (.offered unit.tag answer)).noteAnswers unit.tag rest).host =
        (world.note (.offered unit.tag answer)).host := ih
    exact hrest

/-- To note a return takes no time. -/
theorem host_noteReturn {outcome : Outcome} :
    (world.noteReturn unit outcome).host = world.host := by
  unfold noteReturn
  split <;> rfl

section Acting

variable (hperform : ∀ (world : World) (action : Action),
  world.host.Elapses (perform world action).1.host)

include hperform

/-- Time passes while actions are performed. -/
theorem elapses_performAll (actions : List Action) :
    world.host.Elapses (performAll perform world actions).1.host := by
  induction actions generalizing world with
  | nil => exact .refl _
  | cons action rest ih =>
    have hfirst := hperform world action
    unfold performAll
    split
    · next heq =>
      rw [heq] at hfirst
      exact hfirst.trans ih
    · next heq =>
      rw [heq] at hfirst
      exact hfirst

/-- Time passes while a hook runs. -/
theorem elapses_runHook (hook : Option Hook) :
    world.host.Elapses (runHook perform world hook).1.host := by
  cases hook with
  | none => exact .refl _
  | some hook =>
    have hactions : world.host.Elapses (performAll perform world hook.actions).1.host :=
      elapses_performAll hperform hook.actions
    unfold runHook
    dsimp only
    split <;>
    · next heq =>
      rw [heq] at hactions
      exact hactions

/-- Time passes while an initialization runs. -/
theorem elapses_finishInit {σ : Type} (register : σ → Offer → σ × Bool) (start : σ) :
    world.host.Elapses (finishInit perform register start unit world).1.host := by
  have hrun : world.host.Elapses
      (runHook perform world unit.provider.enrollment.hook).1.host := elapses_runHook hperform _
  unfold finishInit
  split
  · next heq =>
    rw [heq] at hrun
    dsimp only
    rw [host_noteReturn, host_noteAnswers]
    exact hrun
  · next heq =>
    rw [heq] at hrun
    dsimp only
    rw [host_noteReturn]
    exact hrun

/-- Time passes while a module is initialized and its offers are staged. -/
theorem elapses_stageInit :
    world.host.Elapses (stageInit perform origin unit world).1.host := by
  have hfinish : world.host.Elapses
      (finishInit perform world.registry.layout.stage [] unit world).1.host :=
    elapses_finishInit hperform _ []
  unfold stageInit
  split <;>
  · next heq =>
    rw [heq] at hfinish
    exact hfinish

/-- Time passes while a module is prepared. -/
theorem elapses_prepare (checked : Bool) :
    world.host.Elapses (world.prepare perform checked origin).1.host := by
  have hopen : (world.openOrigin origin).1.host = world.host := host_openOrigin
  unfold prepare
  split
  · next heq =>
    rw [heq] at hopen
    rw [← hopen]
    exact .refl _
  · next middle unit heq =>
    rw [heq] at hopen
    rw [← hopen]
    split
    · exact .refl _
    · have hstaged : (middle.enterInit unit).host.Elapses
          (stageInit perform origin unit (middle.enterInit unit)).1.host :=
        elapses_stageInit hperform
      exact hstaged

end Acting

/-- Time passes while an action is performed under the lock. -/
theorem elapses_performHeld (world : World) (action : Action) :
    world.host.Elapses (performHeld world action).1.host := by
  cases action with
  | advance millis => exact world.host.elapses_advance millis
  | observe readings => exact world.host.elapses_observe readings
  | _ => exact .refl _

/-- Time passes while a module is loaded. -/
theorem elapses_load (world : World) (origin : Origin) :
    world.host.Elapses (world.load origin).1.host := by
  have hprepare : world.host.Elapses (world.prepare performHeld true origin).1.host :=
    elapses_prepare elapses_performHeld true
  unfold load
  split <;>
  · next heq =>
    rw [heq] at hprepare
    exact hprepare

/-- To unload a module takes no time. -/
theorem host_unloadNamed {name : String} : (world.unloadNamed name).host = world.host := by
  unfold unloadNamed
  split <;> rfl

/-- Time passes while an action is performed, whatever it is. -/
theorem elapses_perform (world : World) (action : Action) :
    world.host.Elapses (world.perform action).1.host := by
  cases action with
  | advance millis => exact world.host.elapses_advance millis
  | observe readings => exact world.host.elapses_observe readings
  | loadBuiltin name =>
    have hload : world.host.Elapses (world.loadBuiltin name).1.host := elapses_load world _
    unfold World.perform
    dsimp only
    split <;>
    · next heq =>
      rw [heq] at hload
      exact hload
  | unload name =>
    have hunload : (world.perform (.unload name)).1 = world.unloadNamed name := rfl
    rw [hunload, host_unloadNamed]
    exact .refl _
  | _ => exact .refl _

/-- What the code of a method does after it was called lets time pass. -/
theorem elapses_call :
    (world.called callable arg).host.Elapses (world.call callable arg).1.host := by
  rw [call_fst]
  exact elapses_performAll elapses_perform _

/-- To install what a load prepared takes no time. -/
theorem host_installFor {name : String} {prepared : Option Prepared} :
    (world.installFor name prepared).1.host = world.host := by
  unfold installFor
  split
  · rfl
  · split <;>
    · next heq => exact congrArg (fun installed => installed.1.host) heq.symm

/-- So does each step of a load on demand. -/
theorem LoadStep.elapses {after : World} {reached : LoadPhase}
    (hstep : LoadStep request world phase after reached) : world.host.Elapses after.host := by
  have hhost {result : World} (heq : result.host = world.host) :
      world.host.Elapses result.host := by
    rw [heq]
    exact .refl _
  cases hstep with
  | @opened after origin _ hopen | @unopened after origin _ hopen =>
    have hopened : (world.openOrigin origin).1.host = world.host := host_openOrigin
    rw [hopen] at hopened
    exact hhost hopened
  | @staged after origin unit _ hstage | @failed after origin unit _ hstage =>
    have hstaged : world.host.Elapses (stageInit World.perform origin unit world).1.host :=
      elapses_stageInit elapses_perform
    rw [hstage] at hstaged
    exact hstaged
  | @joined after prepared hinstall | @refused after prepared _ hinstall =>
    have hinstalled : (world.installFor request.name prepared).1.host = world.host :=
      host_installFor
    rw [hinstall] at hinstalled
    exact hhost hinstalled
  | _ => exact hhost rfl

end World

end MetricsDaemon
