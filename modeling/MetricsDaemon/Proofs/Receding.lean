import MetricsDaemon.Proofs.Acts

/-!
# What brings no module in

Only an installation makes a module resident and registers its variables. Everything
else that is done to the shared state leaves at most fewer of them, and it neither
touches what is catalogued nor what the layout mentions.
-/

namespace MetricsDaemon

/-- Nothing came in: every variable and every module was there before under the same name, and the
catalogue and the layout are what they were. -/
structure Registry.Recedes (before after : Registry) : Prop where
  registered : ∀ {id variable_}, after.directory.get? id = some variable_ →
    ∃ found, before.directory.get? id = some found ∧ found.name = variable_.name
  resident : ∀ {id module_}, after.get? id = some module_ →
    ∃ found, before.get? id = some found ∧ found.name = module_.name
  catalog : after.catalog = before.catalog
  layout : after.layout = before.layout

namespace Registry

variable {registry before middle after : Registry} {id : ModuleId} {name : String}

/-- Nothing new comes where all tables stay as they are. -/
theorem Recedes.of_tables_eq (hmodules : after.modules = before.modules)
    (hdirectory : after.directory = before.directory) (hcatalog : after.catalog = before.catalog)
    (hlayout : after.layout = before.layout) : before.Recedes after where
  registered hget := ⟨_, by rwa [hdirectory] at hget, rfl⟩
  resident hget := ⟨_, by rwa [get?, hmodules] at hget, rfl⟩
  catalog := hcatalog
  layout := hlayout

/-- Nothing new comes where nothing happens. -/
theorem Recedes.refl (registry : Registry) : registry.Recedes registry :=
  .of_tables_eq rfl rfl rfl rfl

/-- What brings nothing new twice in a row brings nothing new. -/
theorem Recedes.trans (hfirst : before.Recedes middle) (hlast : middle.Recedes after) :
    before.Recedes after where
  registered := by
    intro id variable_ hget
    obtain ⟨between, hbetween, hname⟩ := hlast.registered hget
    obtain ⟨found, hfound, hname'⟩ := hfirst.registered hbetween
    exact ⟨found, hfound, hname'.trans hname⟩
  resident := by
    intro id module_ hget
    obtain ⟨between, hbetween, hname⟩ := hlast.resident hget
    obtain ⟨found, hfound, hname'⟩ := hfirst.resident hbetween
    exact ⟨found, hfound, hname'.trans hname⟩
  catalog := hlast.catalog.trans hfirst.catalog
  layout := hlast.layout.trans hfirst.layout

/-- No act brings a module in. -/
theorem Act.recedes {unloads : Bool} (hact : Act unloads before after)
    (hsound : unloads = true → before.Sound) : before.Recedes after where
  registered := by
    intro id variable_ hget
    obtain ⟨found, hfound, hprofile⟩ := hact.registered hsound hget
    exact ⟨found, hfound, (Variable.name_eq_of_profile_eq hprofile).symm⟩
  resident := by
    intro id module_ hget
    obtain ⟨found, hfound, hsame⟩ := hact.resident hget
    exact ⟨found, hfound, (congrArg Module.name hsame).symm⟩
  catalog := hact.layout_catalog.2
  layout := hact.layout

/-- However many acts there are, nothing new comes. -/
theorem Acts.recedes {unloads : Bool} (hacts : Acts unloads before after)
    (hsound : unloads = true → before.Sound) : before.Recedes after := by
  induction hacts with
  | refl => exact .refl before
  | tail hacts hact ih => exact ih.trans (hact.recedes fun h => (hsound h).acts hacts)

/-- A name that is registered was registered before. -/
theorem Recedes.isSome_idOf? (hrecedes : before.Recedes after) (hbefore : before.Sound)
    (hafter : after.Sound) (hsome : (after.directory.idOf? name).isSome) :
    (before.directory.idOf? name).isSome := by
  obtain ⟨id, hname⟩ := Option.isSome_iff_exists.mp hsome
  obtain ⟨variable_, hget, rfl⟩ := hafter.directory.named.mp hname
  obtain ⟨found, hfound, hsame⟩ := hrecedes.registered hget
  rw [← hsame, hbefore.directory.idOf?_name hfound]
  rfl

/-- A module that is resident by its name was resident before. -/
theorem Recedes.isLoaded (hrecedes : before.Recedes after) (hbefore : before.Sound)
    (hafter : after.Sound) (hloaded : after.isLoaded name = true) :
    before.isLoaded name = true := by
  obtain ⟨id, hname⟩ := Option.isSome_iff_exists.mp hloaded
  obtain ⟨module_, hget, hlower⟩ := hafter.named.mp hname
  obtain ⟨found, hfound, hsame⟩ := hrecedes.resident hget
  have hearlier : before.byName.get? (Text.lowercase name) = some id :=
    hbefore.named.mpr ⟨found, hfound, by rw [hsame, hlower]⟩
  exact Option.isSome_iff_exists.mpr ⟨id, hearlier⟩

end Registry

namespace State

/-- No module came in, and the gate for loads on demand is what it was. -/
structure Recedes (before after : State) : Prop where
  registry : before.registry.Recedes after.registry
  loading : after.loading = before.loading

variable {state before middle after : State} {id : SubscriptionId} {connection : ConnectionId}

/-- Nothing new comes where nothing happens. -/
theorem Recedes.refl (state : State) : state.Recedes state := ⟨.refl _, rfl⟩

/-- What brings nothing new twice in a row brings nothing new. -/
theorem Recedes.trans (hfirst : before.Recedes middle) (hlast : middle.Recedes after) :
    before.Recedes after where
  registry := hfirst.registry.trans hlast.registry
  loading := hlast.loading.trans hfirst.loading

/-- Whoever acts on the registry brings nothing new. -/
theorem Acted.recedes {unloads : Bool} (hacted : before.Acted unloads after)
    (hsound : unloads = true → before.registry.Sound) : before.Recedes after :=
  ⟨hacted.registry.recedes hsound, hacted.loading⟩

/-- A request brings no module and no variable. -/
theorem recedes_subscribe (hsound : state.directory.Sound) (request : Request) :
    state.Recedes (state.subscribe request).1 :=
  (acted_subscribe hsound request).recedes nofun

/-! ## Calm steps -/

/-- A step of anybody that brings no module in and leaves the gate alone, or the application of a
tick. -/
inductive Calm : State → State → Prop where
  | step {before after : State} (hstep : Step true before after)
      (hrecedes : before.Recedes after) : Calm before after
  | applied {state : State} (plan : Plan) (values : List (Option Value)) (now : Nat) :
      Calm state (state.apply plan values now).state

/-- Any number of calm steps. -/
abbrev Calms : State → State → Prop := Relation.ReflTransGen Calm

/-- A calm step keeps the state in order and brings nothing new. -/
theorem Sound.calm (hsound : state.Sound true) (hcalm : Calm state after) :
    after.Sound true ∧ state.Recedes after := by
  cases hcalm with
  | step hstep hrecedes => exact ⟨hsound.step hstep, hrecedes⟩
  | applied plan values now => exact ⟨hsound.apply,
      (acted_apply hsound.booked plan values now).recedes fun _ => hsound.booked.modules⟩

/-- However many calm steps there are, the state stays in order and nothing new comes. -/
theorem Sound.calms (hsound : state.Sound true) (hcalms : Calms state after) :
    after.Sound true ∧ state.Recedes after := by
  induction hcalms with
  | refl => exact ⟨hsound, .refl state⟩
  | tail _ hcalm ih =>
    obtain ⟨hafter, hrecedes⟩ := ih.1.calm hcalm
    exact ⟨hafter, ih.2.trans hrecedes⟩

/-- To note an event is a calm step. -/
theorem calm_noted (state : State) (event : Event) :
    Calm state { state with registry := state.registry.note event } :=
  .step (.noted event) ⟨.of_tables_eq rfl rfl rfl rfl, rfl⟩

/-- To forget a connection is a calm step. -/
theorem calm_forgotten (connection : ConnectionId) :
    Calm state (state.forgetConnection connection).1 :=
  .step (.forgotten connection) (acted_forgetConnection.recedes nofun)

/-- To remove a subscription is a calm step. -/
theorem calm_unsubscribed (id : SubscriptionId) : Calm state (state.unsubscribe id).1 :=
  .step (.unsubscribed id) (acted_unsubscribe.recedes nofun)

/-- To subscribe is a calm step. -/
theorem Sound.calm_subscribed (hsound : state.Sound true) (request : Request) :
    Calm state (state.subscribe request).1 :=
  .step (.subscribed request) (recedes_subscribe hsound.booked.modules.directory request)

/-- To unload a module is a calm step. -/
theorem Sound.calm_unloaded (hsound : state.Sound true) (id : ModuleId) :
    Calm state { state with registry := state.registry.unload id } :=
  .step (.unloaded id (.inl rfl))
    ((acted_unloadAll [id]).recedes fun _ => hsound.booked.modules)

/-- To plan a tick is a calm step. -/
theorem calm_planned (now : Nat) : Calm state (state.plan now).1 :=
  .step (.planned now) ((acted_plan now).recedes nofun)

end State

end MetricsDaemon
