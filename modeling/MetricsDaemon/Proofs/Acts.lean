import MetricsDaemon.Proofs.Steps

/-!
# What happens to the registry

Whoever loads no module does only five things to the registry: provide code, count clients,
bind the method of a variable through the unit of its module, note a sample, and unload
a module. Every operation of the shared state is a sequence of such acts, so whatever an
act keeps stays as it is until something is loaded.
-/

namespace MetricsDaemon

open Relation (ReflTransGen)

namespace Registry

/-- The registry after the method of a variable was bound through a unit. -/
def bind (registry : Registry) (unit : ProviderUnit) (id : VariableId) : Registry :=
  let resolved := registry.directory.resolve id unit.resolve
  match resolved.2.asked with
  | none => { registry with directory := resolved.1 }
  | some (method, _) =>
      { registry with directory := resolved.1 }.note (.methodAsked unit.tag id method)

/-- One act on the registry; only some may unload modules. -/
inductive Act (unloads : Bool) : Registry → Registry → Prop where
  | provided {registry : Registry} (name : String) (provider : Provider) :
      Act unloads registry (registry.registerBuiltin name provider)
  | counted {registry : Registry} (id : ModuleId) (change : Nat → Nat) :
      Act unloads registry (registry.recount id change)
  | bound {registry : Registry} {id : VariableId} {variable_ : Variable} {module_ : Module}
      (hvariable : registry.directory.get? id = some variable_)
      (hmodule : registry.get? variable_.module_ = some module_) :
      Act unloads registry (registry.bind module_.unit id)
  | sampled {registry : Registry} (id : VariableId) (arg : Option String) (now checksum : Nat) :
      Act unloads registry { registry with
        directory := (registry.directory.recordSample id arg now checksum).1 }
  | unloaded {registry : Registry} (id : ModuleId) (hmay : unloads = true) :
      Act unloads registry (registry.unload id)

/-- Any number of acts. -/
abbrev Acts (unloads : Bool) : Registry → Registry → Prop := ReflTransGen (Act unloads)

variable {registry before after : Registry} {unloads : Bool} {id : VariableId}
  {unit : ProviderUnit}

/-- Who may unload modules need not. -/
theorem Act.weaken (hact : Act false before after) : Act unloads before after := by
  cases hact with
  | provided name provider => exact .provided name provider
  | counted id change => exact .counted id change
  | bound hvariable hmodule => exact .bound hvariable hmodule
  | sampled id arg now checksum => exact .sampled id arg now checksum
  | unloaded id hmay => cases hmay

/-- Acts without an unloading are acts of those who may unload. -/
theorem Acts.weaken (hacts : Acts false before after) : Acts unloads before after := by
  induction hacts with
  | refl => exact .refl
  | tail _ hact ih => exact ih.tail hact.weaken

/-- To unload any number of modules is a sequence of acts. -/
theorem acts_unloadAll (ids : List ModuleId) : Acts true registry (registry.unloadAll ids) := by
  induction ids generalizing registry with
  | nil => exact .refl
  | cons id ids ih => exact .head (.unloaded id rfl) ih

/-! ## Binding a method -/

/-- Binding a method changes the directory and the journal only. -/
theorem bind_eq (registry : Registry) (unit : ProviderUnit) (id : VariableId) :
    ∃ journal, registry.bind unit id = { registry with
      directory := (registry.directory.resolve id unit.resolve).1, journal := journal } := by
  unfold bind
  dsimp only
  split <;> exact ⟨_, rfl⟩

/-- Binding a method changes the directory as a resolution does. -/
@[simp] theorem directory_bind : (registry.bind unit id).directory =
    (registry.directory.resolve id unit.resolve).1 := by
  obtain ⟨journal, h⟩ := registry.bind_eq unit id
  rw [h]

/-- Binding a method leaves the modules as they are. -/
@[simp] theorem modules_bind : (registry.bind unit id).modules = registry.modules := by
  obtain ⟨journal, h⟩ := registry.bind_eq unit id
  rw [h]

/-- Nothing is noted but that the unit was asked for the method of the variable. -/
theorem journal_bind (registry : Registry) (unit : ProviderUnit) (id : VariableId) :
    (registry.bind unit id).journal = registry.journal ∨
    ∃ method, (registry.bind unit id).journal =
      .methodAsked unit.tag id method :: registry.journal := by
  unfold bind
  dsimp only
  split
  · exact .inl rfl
  · next method _ _ => exact .inr ⟨method, rfl⟩

/-! ## What every act keeps -/

/-- Binding a method keeps the registry in order. -/
theorem Sound.bind (hsound : registry.Sound) : (registry.bind unit id).Sound := by
  obtain ⟨journal, h⟩ := registry.bind_eq unit id
  rw [h]
  have hwith := hsound.withDirectory hsound.directory.resolve
    (Directory.alike_resolve : Directory.Alike _ (registry.directory.resolve id unit.resolve).1)
  exact hwith.of_tables_eq rfl rfl rfl rfl

/-- An act keeps the registry in order. -/
theorem Sound.act (hsound : before.Sound) (hact : Act unloads before after) : after.Sound := by
  cases hact with
  | provided name provider => exact hsound.of_tables_eq rfl rfl rfl rfl
  | counted id change => exact hsound.recount
  | bound hvariable hmodule => exact hsound.bind
  | sampled id arg now checksum =>
    exact hsound.withDirectory hsound.directory.recordSample Directory.alike_recordSample
  | unloaded id hmay => exact hsound.unload

/-- However many acts there are, the registry stays in order. -/
theorem Sound.acts (hsound : before.Sound) (hacts : Acts unloads before after) :
    after.Sound := by
  induction hacts with
  | refl => exact hsound
  | tail _ hact ih => exact ih.act hact

/-- An act registers nothing. -/
theorem Act.registered {found : Variable} (hact : Act unloads before after)
    (hsound : unloads = true → before.Sound) (hget : after.directory.get? id = some found) :
    ∃ variable_, before.directory.get? id = some variable_ ∧
      found.profile = variable_.profile := by
  have halike {directory : Directory} (h : before.directory.Alike directory)
      (hfound : directory.get? id = some found) : ∃ variable_,
        before.directory.get? id = some variable_ ∧ found.profile = variable_.profile := by
    obtain ⟨variable_, hvariable, hprofile⟩ := h.symm.get?_after hfound
    exact ⟨variable_, hvariable, hprofile.symm⟩
  cases hact with
  | provided | counted => exact ⟨found, hget, rfl⟩
  | bound hvariable hmodule =>
    rw [directory_bind] at hget
    exact halike Directory.alike_resolve hget
  | sampled => exact halike Directory.alike_recordSample hget
  | unloaded other hmay =>
    exact ⟨found, ((hsound hmay).get?_directory_unload_iff.mp hget).1, rfl⟩

/-- An act makes nothing resident. -/
theorem Act.resident {other : ModuleId} {found : Module} (hact : Act unloads before after)
    (hget : after.get? other = some found) :
    ∃ module_, before.get? other = some module_ ∧
      found = { module_ with clients := found.clients } := by
  cases hact with
  | provided | sampled => exact ⟨found, hget, rfl⟩
  | counted id change =>
    obtain ⟨module_, hmodule, rfl⟩ := get?_of_recount hget
    exact ⟨module_, hmodule, rfl⟩
  | bound hvariable hmodule =>
    rw [Registry.get?, modules_bind] at hget
    exact ⟨found, hget, rfl⟩
  | unloaded id hmay =>
    rw [get?_unload] at hget
    split at hget
    · cases hget
    · exact ⟨found, hget, rfl⟩

/-- A module that is resident after some acts was so before, and differs in its clients at most. -/
theorem Acts.resident {other : ModuleId} {found : Module} (hacts : Acts unloads before after)
    (hget : after.get? other = some found) :
    ∃ module_, before.get? other = some module_ ∧
      found = { module_ with clients := found.clients } := by
  induction hacts generalizing found with
  | refl => exact ⟨found, hget, rfl⟩
  | tail _ hact ih =>
    obtain ⟨between, hbetween, hfound⟩ := hact.resident hget
    obtain ⟨module_, hmodule, hsame⟩ := ih hbetween
    refine ⟨module_, hmodule, ?_⟩
    rw [hfound, hsame]

/-- An act gives out no number of a module. -/
theorem Act.lastId (hact : Act unloads before after) : after.lastId = before.lastId := by
  cases hact with
  | provided | counted | sampled => rfl
  | @bound id variable_ module_ hvariable hmodule =>
    obtain ⟨journal, h⟩ := before.bind_eq module_.unit id
    rw [h]
  | unloaded => exact lastId_unload

/-- An act gives out no number of a variable. -/
theorem Act.lastId_directory (hact : Act unloads before after) :
    after.directory.lastId = before.directory.lastId := by
  cases hact with
  | provided | counted => rfl
  | bound => rw [directory_bind, Directory.lastId_resolve]
  | sampled => exact Directory.lastId_recordSample
  | unloaded => exact lastId_directory_unload

/-- An act neither changes what the layout mentions nor what is catalogued. -/
theorem Act.layout_catalog (hact : Act unloads before after) :
    after.layout = before.layout ∧ after.catalog = before.catalog := by
  cases hact with
  | provided | counted | sampled => exact ⟨rfl, rfl⟩
  | @bound id variable_ module_ hvariable hmodule =>
    obtain ⟨journal, h⟩ := before.bind_eq module_.unit id
    rw [h]
    exact ⟨rfl, rfl⟩
  | unloaded =>
    unfold unload
    split <;> exact ⟨rfl, rfl⟩

/-- An act leaves the layout as it is. -/
theorem Act.layout (hact : Act unloads before after) : after.layout = before.layout :=
  hact.layout_catalog.1

end Registry

namespace State

open Registry (Acts)

/-- Nothing but acts happened to the registry, and the gate for loads on demand is what it was. -/
structure Acted (unloads : Bool) (before after : State) : Prop where
  registry : before.registry.Acts unloads after.registry
  loading : after.loading = before.loading

variable {state before middle after : State} {unit : ProviderUnit} {variableId : VariableId}
  {id : SubscriptionId} {connection : ConnectionId} {now : Nat} {unloads : Bool}

/-- To do nothing is to act. -/
theorem Acted.refl (state : State) : state.Acted unloads state := ⟨.refl, rfl⟩

/-- To act twice is to act. -/
theorem Acted.trans (hfirst : before.Acted unloads middle) (hlast : middle.Acted unloads after) :
    before.Acted unloads after where
  registry := hfirst.registry.trans hlast.registry
  loading := hlast.loading.trans hfirst.loading

/-- Who acts without unloading acts as one who may unload. -/
theorem Acted.weaken (hacted : before.Acted false after) : before.Acted unloads after :=
  ⟨hacted.registry.weaken, hacted.loading⟩

/-! ## Subscribing and leaving -/

/-- To bind a method in a state is to bind it in its registry. -/
theorem registry_bindMethod : (state.bindMethod unit variableId).1.registry =
    state.registry.bind unit variableId := by
  unfold bindMethod noteAsked Registry.bind
  dsimp only [State.directory]
  cases (state.registry.directory.resolve variableId unit.resolve).2.asked <;> rfl

/-- Binding a method leaves the gate as it is. -/
theorem loading_bindMethod : (state.bindMethod unit variableId).1.loading = state.loading := by
  obtain ⟨journal, h⟩ := bindMethod_fst state unit variableId
  rw [h]

/-- Binding the method of a variable through the unit of its module is an act. -/
theorem acted_bindMethod {variable_ : Variable} {module_ : Module}
    (hvariable : state.directory.get? variableId = some variable_)
    (hmodule : state.registry.get? variable_.module_ = some module_) :
    state.Acted false (state.bindMethod module_.unit variableId).1 where
  registry := by
    rw [registry_bindMethod]
    exact .single (.bound hvariable hmodule)
  loading := loading_bindMethod

/-- To bind the method of a target is an act. -/
theorem acted_bindTarget {name : String} {variable_ : Variable} (hsound : state.directory.Sound)
    (htarget : state.target? name = some (variable_, unit)) :
    state.Acted false (state.bindMethod unit variable_.id).1 := by
  obtain ⟨variableId, module_, _, hvariable, hmodule, rfl⟩ := target?_eq_some_iff.mp htarget
  have hid : variable_.id = variableId := hsound.numbered hvariable
  rw [hid]
  exact acted_bindMethod hvariable hmodule

/-- To subscribe is to act on the registry. -/
theorem acted_subscribe (hsound : state.directory.Sound) (request : Request) :
    state.Acted false (state.subscribe request).1 := by
  rcases state.subscribe_cases request with h | ⟨variable_, unit, htarget, h⟩ |
    ⟨entry, variable_, unit, callable, _, htarget, _, h⟩
  · rw [h]
    exact .refl state
  · rw [h]
    exact acted_bindTarget hsound htarget
  · rw [h, addSubscription_fst]
    have hbound := acted_bindTarget hsound htarget
    exact ⟨hbound.registry.tail (.counted _ _), hbound.loading⟩

/-- To discharge a subscription is to act on the registry. -/
theorem acted_discharge : state.Acted false (state.discharge id) := by
  cases hget : state.subscriptions.get? id with
  | none =>
    rw [discharge_of_get?_eq_none hget]
    exact .refl state
  | some subscription =>
    rw [discharge_of_get?_eq_some hget]
    have hcounted : Registry.Act false state.registry
        (state.registry.recount subscription.interest.module_ (· - 1)) := .counted _ _
    exact ⟨.single hcounted, rfl⟩

/-- To discharge any number of subscriptions is to act on the registry. -/
theorem acted_dischargeAll (ids : List SubscriptionId) :
    state.Acted false (state.dischargeAll ids) := by
  induction ids generalizing state with
  | nil => exact .refl state
  | cons id ids ih => exact acted_discharge.trans ih

/-- To remove a subscription is to act on the registry. -/
theorem acted_unsubscribe : state.Acted false (state.unsubscribe id).1 := by
  cases hget : state.subscriptions.get? id with
  | none =>
    rw [unsubscribe_of_get?_eq_none hget]
    exact .refl state
  | some subscription =>
    rw [unsubscribe_of_get?_eq_some hget]
    have hdischarge : state.Acted false (state.discharge id) := acted_discharge
    exact ⟨hdischarge.registry, hdischarge.loading⟩

/-- To remove any number of subscriptions is to act on the registry. -/
theorem acted_unsubscribeAll (ids : List SubscriptionId) :
    state.Acted false (state.unsubscribeAll ids) := by
  induction ids generalizing state with
  | nil => exact .refl state
  | cons id ids ih => exact acted_unsubscribe.trans ih

/-- To forget a connection is to act on the registry. -/
theorem acted_forgetConnection : state.Acted false (state.forgetConnection connection).1 := by
  cases hget : state.connections.get? connection with
  | none =>
    rw [forgetConnection_of_get?_eq_none hget]
    exact .refl state
  | some entry =>
    rw [forgetConnection_of_get?_eq_some hget]
    have hrest : { state with connections := state.connections.erase connection }.Acted false
        ({ state with connections := state.connections.erase connection }.dischargeAll
          entry.subscriptions) := acted_dischargeAll _
    exact ⟨hrest.registry, hrest.loading⟩

/-- To forget any number of connections is to act on the registry. -/
theorem acted_forgetAll (ids : List ConnectionId) : state.Acted false (state.forgetAll ids) := by
  induction ids generalizing state with
  | nil => exact .refl state
  | cons id ids ih => exact acted_forgetConnection.trans ih

/-- To unload modules is to act as one who may unload. -/
theorem acted_unloadAll (ids : List ModuleId) :
    state.Acted true { state with registry := state.registry.unloadAll ids } :=
  ⟨Registry.acts_unloadAll ids, rfl⟩

/-- To shut down is to act as one who may unload. -/
theorem acted_shutdown : state.Acted true state.shutdown := by
  have hemptied : state.Acted false state.emptied :=
    (acted_forgetAll _).trans (acted_unsubscribeAll _)
  rw [shutdown_eq]
  exact hemptied.weaken.trans (acted_unloadAll _)

/-! ## Ticks -/

/-- To look for a job is to act on the registry. -/
theorem acted_addJob (progress : State × List Job) (pair : VariableId × Option String) :
    progress.1.Acted false (addJob progress pair).1 := by
  rcases addJob_cases progress pair with h | ⟨variable_, module_, hvariable, hmodule, h⟩ |
    ⟨variable_, module_, callable, _, hvariable, hmodule, _, h⟩
  · rw [h]
    exact .refl _
  · rw [h]
    exact acted_bindMethod hvariable hmodule
  · rw [h]
    exact acted_bindMethod hvariable hmodule

/-- To look for any number of jobs is to act on the registry. -/
theorem acted_addJobs (pairs : List (VariableId × Option String)) (progress : State × List Job) :
    progress.1.Acted false (pairs.foldl addJob progress).1 := by
  induction pairs generalizing progress with
  | nil => exact .refl _
  | cons pair pairs ih => exact (acted_addJob progress pair).trans (ih _)

/-- To plan a tick is to act on the registry. -/
theorem acted_plan (now : Nat) : state.Acted false (state.plan now).1 := by
  rw [plan_eq]
  have hcron : state.Acted false state.cronJobs.1 := acted_addJobs _ (state, [])
  exact hcron.trans (acted_addJobs _ _)

/-- To record the values of a tick is to act on the registry. -/
theorem acted_recordAll (entries : Valued) :
    state.Acted false (recordAll now state entries).1 := by
  induction entries generalizing state with
  | nil => exact .refl state
  | cons entry rest ih =>
    obtain ⟨job, value⟩ := entry
    have hrest : (state.recordValue now job value).1.Acted false
        (recordAll now (state.recordValue now job value).1 rest).1 := ih
    cases value with
    | none => exact hrest
    | some value =>
      exact ⟨.head (.sampled job.variable_ job.arg now value.checksum) hrest.registry,
        hrest.loading⟩

/-- Before the sweep, applying a tick is to act on the registry without unloading. -/
theorem acted_retired (plan : Plan) (values : List (Option Value)) (now : Nat)
    (hbooked : Booked state.registry state.subscriptions) :
    state.Acted false (state.retired plan values now) := by
  have hrecorded : state.Acted false (state.recorded plan values now) := acted_recordAll _
  have hserves : (state.recorded plan values now).Serves _ (state.marked plan values now) :=
    serves_marked hbooked
  have hmarked : (state.recorded plan values now).Acted false (state.marked plan values now) := by
    refine ⟨?_, hserves.loading⟩
    rw [hserves.registry]
  exact (hrecorded.trans hmarked).trans (acted_unsubscribeAll _)

/-- Applying a plan samples, counts and unloads, whatever was planned. -/
theorem acted_apply (hbooked : Booked state.registry state.subscriptions) (plan : Plan)
    (values : List (Option Value)) (now : Nat) :
    state.Acted true (state.apply plan values now).state := by
  rw [state_apply]
  exact (acted_retired plan values now hbooked).weaken.trans (acted_unloadAll _)

end State

end MetricsDaemon
