import MetricsDaemon.Proofs.Consistency
import MetricsDaemon.Proofs.Initialization
import MetricsDaemon.Proofs.Teardown

/-!
# One unit for all who ask

A load on demand that ends well ends in a new subscription for the name that was asked
for. A name is registered once at a time, so the subscriptions that are still there for
one name are all on one module, however their loads came in each other's way.
-/

namespace MetricsDaemon

open Relation (ReflTransGen)

/-! ## Subscriptions that are granted -/

namespace State

variable {state : State} {request : Request} {id : SubscriptionId}

/-- The subscription, if it is still there, is on a variable of the name, if that still is. -/
def IsFor (state : State) (id : SubscriptionId) (name : String) : Prop :=
  ∀ subscription variable_, state.subscriptions.get? id = some subscription →
    state.directory.get? subscription.interest.variable_ = some variable_ →
    variable_.name = name

/-- What is granted has the next number and is for the name that was asked for. -/
theorem granted_subscribe (hsound : state.directory.Sound)
    (hok : (state.subscribe request).2 = .ok id) :
    id = state.subscriptions.nextId ∧
      id.number = (state.subscribe request).1.subscriptions.lastId ∧
      (state.subscribe request).1.IsFor id request.name := by
  obtain ⟨variable_, unit, htarget, rfl, h⟩ := subscribe_ok hok
  obtain ⟨variableId, module_, hname, hvariable, _, _⟩ := target?_eq_some_iff.mp htarget
  have hid : variable_.id = variableId := hsound.numbered hvariable
  subst hid
  rw [h, addSubscription_fst, subscriptions_bindMethod]
  refine ⟨rfl, rfl, fun subscription found hget hfound => ?_⟩
  have hinserted : (state.subscriptions.insert (request.interest variable_)).1.get?
      state.subscriptions.nextId = some subscription := hget
  rw [Subscriptions.get?_insert, if_pos rfl] at hinserted
  cases hinserted
  have hbound : (state.bindMethod unit variable_.id).1.directory.get? variable_.id = some found :=
    hfound
  rw [directory_bindMethod, Directory.get?_resolve, if_pos rfl, hvariable] at hbound
  cases hbound
  obtain ⟨named, hnamed, hsame⟩ := hsound.named.mp hname
  rw [hvariable] at hnamed
  cases hnamed
  rw [Variable.name_bindWith, hsame]

/-- What a subscription is for does not change. -/
theorem IsFor.succeeds {before after : State} {name : String} {forced : Bool}
    (hfor : before.IsFor id name) (hsound : before.Sound forced)
    (hsubscriptions : before.subscriptions.Succeeds after.subscriptions)
    (hdirectory : before.directory.Succeeds after.directory)
    (hle : id.number ≤ before.subscriptions.lastId) : after.IsFor id name := by
  intro found variable_ hget hvariable
  obtain ⟨subscription, hsubscription, hinterest⟩ := hsubscriptions.same hget hle
  rw [hinterest] at hvariable
  obtain ⟨earlier, hearlier, hprofile⟩ :=
    hdirectory.same hvariable (hsound.booked.variable_le hsubscription)
  rw [Variable.name_eq_of_profile_eq hprofile]
  exact hfor subscription earlier hsubscription hearlier

end State

namespace World

variable {world after : World} {request : Request} {phase reached : LoadPhase}
  {id : SubscriptionId} {forced : Bool}

/-- A load that ends well now has subscribed, in a state that steps of anybody lead to. -/
theorem LoadStep.subscribes (hstep : LoadStep request world phase after reached) (forced : Bool)
    (hgoing : phase.isDone = false) (hgranted : reached = .done (.ok id)) :
    ∃ middle, State.Steps forced world.state middle ∧ (middle.subscribe request).2 = .ok id ∧
      after.state = { (middle.subscribe request).1 with loading := after.state.loading } := by
  cases hstep with
  | known | missing | waiting | passed | present | absent | opened | resident | entered | staged
  | unopened | failed | refused => cases hgranted
  | ended => cases hgoing
  | subscribed => exact ⟨_, .refl, LoadPhase.done.inj hgranted, rfl⟩
  | @joined middle prepared hinstall =>
    have hsteps : State.Steps forced world.state
        (world.installFor request.name prepared).1.state := steps_installFor request.name prepared
    rw [hinstall] at hsteps
    exact ⟨_, hsteps, LoadPhase.done.inj hgranted, rfl⟩

/-- A load that ends well now ends in a new subscription for the name. -/
theorem LoadStep.granted (hstep : LoadStep request world phase after reached)
    (hsound : world.state.Sound forced) (hgoing : phase.isDone = false)
    (hgranted : reached = .done (.ok id)) :
    world.state.subscriptions.lastId < id.number ∧
      id.number ≤ after.state.subscriptions.lastId ∧ after.state.IsFor id request.name := by
  obtain ⟨middle, hsteps, hok, hafter⟩ := hstep.subscribes forced hgoing hgranted
  obtain ⟨rfl, hnumber, hfor⟩ :=
    State.granted_subscribe (hsound.steps hsteps).booked.modules.directory hok
  have hlast := (hsound.keeps_steps hsteps).subscriptions.last
  rw [hafter]
  exact ⟨Nat.lt_succ_of_le hlast, Nat.le_of_eq hnumber, hfor⟩

end World

/-! ## Loads that ended well -/

namespace Whole

/-- The load in the slot ended in the subscription. -/
def Grants (whole : Whole) (slot : Nat) (request : Request) (id : SubscriptionId) : Prop :=
  whole.calls[slot]? = some (request, .done (.ok id))

/-- Every load that ended well has a subscription of its own, for the name that was asked for. -/
structure Granted (whole : Whole) : Prop where
  numbered : ∀ {slot request id}, whole.Grants slot request id →
    id.number ≤ whole.world.state.subscriptions.lastId
  isFor : ∀ {slot request id}, whole.Grants slot request id →
    whole.world.state.IsFor id request.name
  distinct : ∀ {slot other request rival id}, whole.Grants slot request id →
    whole.Grants other rival id → slot = other

variable {rules : Permit} {whole after : Whole} {slot : Nat} {request : Request}
  {id : SubscriptionId}

/-- A load that ended well had ended well before, or it did so in this step. -/
theorem Step.grants_cases (hstep : Step rules whole after)
    (hgrants : after.Grants slot request id) :
    whole.Grants slot request id ∨
      ∃ phase, whole.calls[slot]? = some (request, phase) ∧ phase.isDone = false ∧
        (whole.world.stepLoad request phase).2 = .done (.ok id) ∧
        after = whole.proceed slot request phase := by
  cases hstep with
  | ask asked =>
    have hcalls : (whole.calls ++ [(asked, LoadPhase.asked)])[slot]? =
        some (request, .done (.ok id)) := hgrants
    rw [List.getElem?_append] at hcalls
    split at hcalls
    · exact .inl hcalls
    · cases List.mem_singleton.mp (List.mem_of_getElem? hcalls)
  | @proceed current made phase hcall hpermits =>
    have hcalls : (whole.calls.set current (made, (whole.world.stepLoad made phase).2))[slot]? =
        some (request, .done (.ok id)) := hgrants
    by_cases hsame : current = slot
    · subst hsame
      obtain ⟨hlt, _⟩ := List.getElem?_eq_some_iff.mp hcall
      rw [List.getElem?_set_self hlt, Option.some.injEq, Prod.mk.injEq] at hcalls
      obtain ⟨rfl, hreached⟩ := hcalls
      cases hgoing : phase.isDone with
      | false => exact .inr ⟨phase, hcall, hgoing, hreached, rfl⟩
      | true =>
        cases phase with
        | done result =>
          rw [Grants, hcall, ← hreached]
          exact .inl rfl
        | _ => cases hgoing
    · rw [List.getElem?_set_ne hsame] at hcalls
      exact .inl hcalls
  | _ => exact .inl hgrants

/-- In every step the loads that ended well keep their own subscriptions, for the names that were
asked for. -/
theorem Granted.step (hgranted : whole.Granted) (hreach : Reachable rules whole)
    (hstep : Step rules whole after) : after.Granted := by
  have hsubscriptions := hreach.toRun.succeeds hstep.runs
  have hdirectory := (hreach.succeeds (.single hstep)).directory
  have hfresh {slot : Nat} {request : Request} {id : SubscriptionId} {phase : LoadPhase}
      (hgoing : phase.isDone = false)
      (hreached : (whole.world.stepLoad request phase).2 = .done (.ok id))
      (hafter : after = whole.proceed slot request phase) :
      whole.world.state.subscriptions.lastId < id.number ∧
        id.number ≤ after.world.state.subscriptions.lastId ∧
        after.world.state.IsFor id request.name := by
    rw [hafter]
    exact (whole.world.loadStep_stepLoad request phase).granted hreach.sound hgoing hreached
  refine ⟨fun {slot request id} hgrants => ?_, fun {slot request id} hgrants => ?_,
    fun {slot other request rival id} hgrants hother => ?_⟩
  · rcases hstep.grants_cases hgrants with hold | ⟨phase, _, hgoing, hreached, hafter⟩
    · exact Nat.le_trans (hgranted.numbered hold) hsubscriptions.last
    · exact (hfresh hgoing hreached hafter).2.1
  · rcases hstep.grants_cases hgrants with hold | ⟨phase, _, hgoing, hreached, hafter⟩
    · exact (hgranted.isFor hold).succeeds hreach.sound hsubscriptions hdirectory
        (hgranted.numbered hold)
    · exact (hfresh hgoing hreached hafter).2.2
  · rcases hstep.grants_cases hgrants with hold | ⟨phase, hcall, hgoing, hreached, hafter⟩ <;>
      rcases hstep.grants_cases hother with hold' | ⟨phase', hcall', hgoing', hreached', hafter'⟩
    · exact hgranted.distinct hold hold'
    · have hle := hgranted.numbered hold
      have hlt := (hfresh hgoing' hreached' hafter').1
      omega
    · have hle := hgranted.numbered hold'
      have hlt := (hfresh hgoing hreached hafter).1
      omega
    · by_contra hne
      rw [hafter', Grants, Whole.proceed, List.getElem?_set_ne (Ne.symm hne), hcall] at hgrants
      cases hgrants
      cases hgoing

/-- Wherever the daemon can come, every load that ended well has a subscription of its own, for the
name that was asked for. -/
theorem Reachable.granted (hreach : Reachable rules whole) : whole.Granted := by
  induction hreach with
  | start world layout settings hstate =>
    refine ⟨fun hgrants => ?_, fun hgrants => ?_, fun hgrants => ?_⟩ <;>
    · cases hgrants
  | step hreach hstep ih => exact ih.step hreach hstep

/-- A subscription that a load for a name ended in is on the variable that has the name, if it is
still there. -/
theorem Reachable.variable_of_grants {subscription : Subscription} (hreach : Reachable rules whole)
    (hforces : rules.forces = false) (hgrants : whole.Grants slot request id)
    (hget : whole.world.state.subscriptions.get? id = some subscription) :
    ∃ variableId variable_, whole.world.state.directory.idOf? request.name = some variableId ∧
      whole.world.state.directory.get? variableId = some variable_ ∧
      variable_.module_ = subscription.interest.module_ := by
  have hsound := hreach.sound
  obtain ⟨variable_, _, hvariable, hmodule, _⟩ :=
    hsound.booked.anchored hget (hsound.held hforces hget)
  have hname : variable_.name = request.name :=
    hreach.granted.isFor hgrants subscription variable_ hget hvariable
  refine ⟨_, variable_, ?_, hvariable, hmodule⟩
  rw [← hname]
  exact hsound.booked.modules.directory.idOf?_name hvariable

/-- Subscriptions for one name are on one module. -/
theorem Reachable.module_eq {other : Nat} {rival : Request} {otherId : SubscriptionId}
    {subscription found : Subscription} (hreach : Reachable rules whole)
    (hforces : rules.forces = false) (hname : request.name = rival.name)
    (hgrants : whole.Grants slot request id) (hother : whole.Grants other rival otherId)
    (hget : whole.world.state.subscriptions.get? id = some subscription)
    (hfound : whole.world.state.subscriptions.get? otherId = some found) :
    found.interest.module_ = subscription.interest.module_ := by
  obtain ⟨first, variable_, hindex, hvariable, hmodule⟩ :=
    hreach.variable_of_grants hforces hgrants hget
  obtain ⟨second, other_, hindex', hvariable', hmodule'⟩ :=
    hreach.variable_of_grants hforces hother hfound
  rw [← hname, hindex] at hindex'
  cases hindex'
  rw [hvariable] at hvariable'
  cases hvariable'
  rw [← hmodule, hmodule']

/-- Whenever an initialization is entered, no other unit of the name is live, and so at no moment
two units of one name are, if nobody else loads a module while a load on demand has passed the gate.
And if no module is unloaded under its subscribers, any number of loads for one name that ended
well, and whose subscriptions are still there, ended in as many subscriptions, all on one and the
same module, and they are that many of its clients. -/
theorem Reachable.live_unit_unique (hreach : Reachable rules whole) (hloads : rules.loads = false) :
    whole.stock.Alone ∧
    (∀ tag rival, whole.stock.Live whole.world.registry.journal tag →
      whole.stock.Live whole.world.registry.journal rival →
      Text.lowercase tag.name = Text.lowercase rival.name → tag = rival) ∧
    (rules.forces = false →
      ∀ (name : String) (grants : List (Nat × SubscriptionId)), grants ≠ [] →
      (grants.map Prod.fst).Nodup →
      (∀ grant ∈ grants, ∃ request, whole.Grants grant.1 request grant.2 ∧
        request.name = name ∧ (whole.world.state.subscriptions.get? grant.2).isSome) →
      ∃ id module_, whole.world.registry.get? id = some module_ ∧
        (∀ grant ∈ grants, ∃ subscription,
          whole.world.state.subscriptions.get? grant.2 = some subscription ∧
            subscription.interest.module_ = id) ∧
        (grants.map Prod.snd).Nodup ∧
        module_.clients = module_.pinned.toNat + (grants.length +
          whole.world.state.subscriptions.countBesides (grants.map Prod.snd) id)) := by
  have hsound := hreach.sound
  have halone := (hreach.alone hloads).2
  refine ⟨halone, fun tag rival htag hrival => halone.eq_of_live htag hrival, ?_⟩
  intro hforces name grants hsome hslots hgrants
  obtain ⟨first, hfirst⟩ := List.exists_mem_of_ne_nil grants hsome
  obtain ⟨request, hgranted, rfl, hlives⟩ := hgrants first hfirst
  obtain ⟨subscription, hget⟩ := Option.isSome_iff_exists.mp hlives
  obtain ⟨module_, hmodule⟩ := Option.isSome_iff_exists.mp (hsound.held hforces hget)
  have hon : ∀ grant ∈ grants, ∃ found,
      whole.world.state.subscriptions.get? grant.2 = some found ∧
        found.interest.module_ = subscription.interest.module_ := by
    intro grant hmem
    obtain ⟨rival, hother, hname, hlives⟩ := hgrants grant hmem
    obtain ⟨found, hfound⟩ := Option.isSome_iff_exists.mp hlives
    exact ⟨found, hfound, hreach.module_eq hforces hname.symm hgranted hother hget hfound⟩
  have hdistinct : (grants.map Prod.snd).Nodup := by
    rw [List.Nodup, List.pairwise_map] at hslots ⊢
    refine hslots.imp_of_mem fun {left right} hleft hright hne hsame => hne ?_
    obtain ⟨_, hgrantsLeft, _⟩ := hgrants left hleft
    obtain ⟨_, hgrantsRight, _⟩ := hgrants right hright
    rw [← hsame] at hgrantsRight
    exact hreach.granted.distinct hgrantsLeft hgrantsRight
  refine ⟨subscription.interest.module_, module_, hmodule, hon, hdistinct, ?_⟩
  have hcount := hsound.booked.table.countOn_eq_add hdistinct fun id hmem => by
    obtain ⟨grant, hgrant, rfl⟩ := List.mem_map.mp hmem
    exact hon grant hgrant
  rw [hsound.booked.clients hmodule, hcount, List.length_map]

end Whole

/-! ## Two at once -/

namespace Sample

/-- Nobody loads a module while a load on demand has passed the gate, or unloads one while a tick is
in flight or under a subscriber. -/
def strict : Permit := ⟨false, false, false⟩

/-- The wish of somebody else for the door. -/
def rivalWish : Request := ⟨⟨1⟩, "b", "door", none, false⟩

/-- The world with two modules. -/
def stored : World := supply (supply (empty.world.withState visited) tower) office

/-- The module that nobody held has left, and two subscribers ask for its variable. -/
def contested : Whole :=
  ⟨⟨stored.withState stored.state.unloadIdle.1, none, []⟩,
    [(wish, .asked), (rivalWish, .asked)], []⟩

/-- Whether a load is about to run a hook. -/
def isHooked : LoadPhase → Bool
  | .initializing _ unit => unit.provider.enrollment.hook.isSome
  | _ => false

/-- The load in a slot takes its next step, unless that runs a hook. -/
def turn (whole : Whole) (slot : Nat) : Whole :=
  match whole.calls[slot]? with
  | some (request, phase) => if isHooked phase then whole else whole.proceed slot request phase
  | none => whole

/-- Both loads have ended; they took their steps by turns. -/
def shared : Whole := [0, 1, 0, 1, 0, 0, 1, 0, 0, 1, 0, 1, 1, 1].foldl turn contested

/-- A turn of a load leads from where the daemon can come to where it can come. -/
theorem reachable_turn {whole : Whole} (hreach : Whole.Reachable strict whole) (slot : Nat) :
    Whole.Reachable strict (turn whole slot) := by
  unfold turn
  split
  · next request phase hcall =>
    split
    · exact hreach
    · next hunhooked =>
      refine hreach.step (.proceed hcall ?_)
      cases phase with
      | initializing origin unit =>
        intro hook hhook
        simp [isHooked, hhook] at hunhooked
      | _ => trivial
  · exact hreach

/-- So does any sequence of turns. -/
theorem reachable_turns (slots : List Nat) {whole : Whole}
    (hreach : Whole.Reachable strict whole) :
    Whole.Reachable strict (slots.foldl turn whole) := by
  induction slots generalizing whole with
  | nil => exact hreach
  | cons slot rest ih => exact ih (reachable_turn hreach slot)

/-- The daemon comes to where two subscribers ask for the variable of a module that has left. -/
theorem reachable_contested : Whole.Reachable strict contested := by
  have hstart : Whole.Reachable strict ⟨empty, [], []⟩ := .start _ .everything .default rfl
  have hvisited : Whole.Reachable strict ⟨⟨empty.world.withState visited, none, []⟩, [], []⟩ :=
    hstart.step (.outside _ (.connected ⟨1⟩ 1 Outbox.defaultCapacity rfl))
  have hstored : Whole.Reachable strict ⟨⟨stored, none, []⟩, [], []⟩ :=
    reachable_supply office (reachable_supply tower hvisited)
  have hswept := hstored.step (.outside _ (.swept rfl))
  exact (hswept.step (.ask wish)).step (.ask rivalWish)

/-- The daemon comes to where both loads have ended. -/
theorem reachable_shared : Whole.Reachable strict shared := reachable_turns _ reachable_contested

/-- Both loads with what they ended in. -/
def grants : List (Nat × SubscriptionId) := [(0, ⟨1⟩), (1, ⟨2⟩)]

end Sample

/-- The office is initialized again while the tower is live, and once for both subscribers, who are
its two clients. -/
theorem live_unit_unique_shared :
    (∃ tag hooked past rival,
      .initEntered tag hooked :: past <:+ Sample.shared.world.registry.journal ∧
      Sample.shared.stock.Live past rival ∧ tag.name = "office" ∧ rival.name = "tower" ∧
      Text.lowercase rival.name ≠ Text.lowercase tag.name) ∧
    (∃ id module_, Sample.shared.world.registry.get? id = some module_ ∧
      (∀ grant ∈ Sample.grants, ∃ subscription,
        Sample.shared.world.state.subscriptions.get? grant.2 = some subscription ∧
          subscription.interest.module_ = id) ∧
      (Sample.grants.map Prod.snd).Nodup ∧
      module_.clients = module_.pinned.toNat + (2 +
        Sample.shared.world.state.subscriptions.countBesides (Sample.grants.map Prod.snd) id)) ∧
    (Sample.shared.world.registry.get? ⟨3⟩).map Module.clients = some 2 := by
  obtain ⟨halone, _, hshares⟩ := Whole.Reachable.live_unit_unique Sample.reachable_shared rfl
  refine ⟨⟨⟨⟨3⟩, "office", .scripted⟩, false, Sample.shared.world.registry.journal.drop 4,
    ⟨⟨1⟩, "tower", .scripted⟩, ?_⟩, ?_, rfl⟩
  · have hsuffix : .initEntered ⟨⟨3⟩, "office", .scripted⟩ false ::
        Sample.shared.world.registry.journal.drop 4 <:+ Sample.shared.world.registry.journal :=
      ⟨Sample.shared.world.registry.journal.take 3, rfl⟩
    have hlive : Sample.shared.stock.Live (Sample.shared.world.registry.journal.drop 4)
        ⟨⟨1⟩, "tower", .scripted⟩ :=
      ⟨⟨false, by decide⟩, by decide, .inl (by decide)⟩
    exact ⟨hsuffix, hlive, rfl, rfl, halone _ _ _ hsuffix _ hlive⟩
  · refine hshares rfl "door" Sample.grants nofun (by decide) fun grant hmem => ?_
    rcases List.mem_cons.mp hmem with rfl | hmem
    · exact ⟨Sample.wish, rfl, rfl, rfl⟩
    · rw [List.mem_singleton.mp hmem]
      exact ⟨Sample.rivalWish, rfl, rfl, rfl⟩

end MetricsDaemon
