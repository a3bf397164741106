import MetricsDaemon.Proofs.Admission
import MetricsDaemon.Proofs.Replies
import MetricsDaemon.Proofs.Whole

/-!
# What an answer tells

While nobody else acts, the answer to a command tells what became of the shared state. A
good one stands for one new subscription and nothing else, whether or not a module had to
be loaded for it. An error leaves the subscriptions and whoever holds a module alone, and
every other answer leaves everything alone.
-/

namespace MetricsDaemon

open Relation (ReflTransGen)

/-! ## Modules that keep to themselves -/

/-- Whether an action leaves the shared state alone. -/
def Action.isPrivate : Action → Bool
  | .advance _ | .observe _ | .cancel => true
  | _ => false

/-- Code that does nothing to the shared state while it is initialized. -/
def Provider.IsPrivate (provider : Provider) : Prop :=
  ∀ hook, provider.enrollment.hook = some hook → ∀ action ∈ hook.actions, action.isPrivate = true

namespace World

variable {forced : Bool} {world after : World} {request : Request} {phase reached : LoadPhase}
  {origin : Origin} {unit : ProviderUnit} {actions : List Action} {id : SubscriptionId}

/-- What is opened from an origin keeps to itself. -/
def OpensPrivate (world : World) (origin : Origin) : Prop :=
  ∀ unit, (world.openOrigin origin).2 = .ok unit → unit.provider.IsPrivate

/-- Nobody acts on the shared state while a catalogued module is loaded. -/
def IsQuiet (world : World) : Prop :=
  ∀ name origin, world.registry.originOf name = some origin → world.OpensPrivate origin

/-- A private action unloads no module. -/
theorem spares_of_private {action : Action} (hprivate : action.isPrivate = true) :
    world.Spares forced action := by
  cases action with
  | unload name => cases hprivate
  | _ => trivial

/-- A private action leaves the shared state as it is. -/
theorem state_perform_private {action : Action} (hprivate : action.isPrivate = true) :
    (world.perform action).1.state = world.state := by
  cases action with
  | advance millis => exact state_perform_advance millis
  | observe readings => exact state_perform_observe readings
  | cancel => rfl
  | _ => cases hprivate

/-- Private actions unload no module. -/
theorem sparesAll_of_private (hprivate : ∀ action ∈ actions, action.isPrivate = true) :
    SparesAll forced world actions := by
  induction actions generalizing world with
  | nil => trivial
  | cons action rest ih =>
    exact ⟨spares_of_private (hprivate action List.mem_cons_self),
      ih fun other hmem => hprivate other (List.mem_cons_of_mem _ hmem)⟩

/-- Private actions leave the shared state as it is. -/
theorem state_performAll_private (hprivate : ∀ action ∈ actions, action.isPrivate = true) :
    (performAll World.perform world actions).1.state = world.state := by
  induction actions generalizing world with
  | nil => rfl
  | cons action rest ih =>
    have hfirst : (world.perform action).1.state = world.state :=
      state_perform_private (hprivate action List.mem_cons_self)
    have hrest (world : World) : (performAll World.perform world rest).1.state = world.state :=
      ih fun other hmem => hprivate other (List.mem_cons_of_mem _ hmem)
    unfold performAll
    split
    · next heq =>
      rw [heq] at hfirst
      exact (hrest _).trans hfirst
    · next heq =>
      rw [heq] at hfirst
      exact hfirst

/-- The gate has nothing to do with what is opened. -/
theorem openOrigin_setLoading (world : World) (loading : Bool) (origin : Origin) :
    ((world.setLoading loading).openOrigin origin).2 = (world.openOrigin origin).2 := by
  cases origin with
  | builtin name =>
    have hbuiltin : (world.setLoading loading).registry.builtin? name =
        world.registry.builtin? name := rfl
    unfold openOrigin
    dsimp only
    rw [hbuiltin]
    split <;> rfl
  | file path =>
    have hfind : (world.setLoading loading).disk.findProvider path =
        world.disk.findProvider path := rfl
    unfold openOrigin
    dsimp only
    rw [hfind]
    split <;> rfl

/-- What a load goes on to open or to initialize keeps to itself. -/
def LoadsPrivate (world : World) (request : Request) : LoadPhase → Prop
  | .asked => ∀ origin, world.state.missingOrigin request.name = some origin →
      world.OpensPrivate origin
  | .queued origin | .admitted origin | .opening origin => world.OpensPrivate origin
  | .opened _ unit | .initializing _ unit => unit.provider.IsPrivate
  | _ => True

/-- What a load is still going to run stays private with every step. -/
theorem LoadStep.loadsPrivate (hstep : LoadStep request world phase after reached)
    (hprivate : world.LoadsPrivate request phase) : after.LoadsPrivate request reached := by
  cases hstep with
  | known | subscribed | present | unopened | resident | staged | failed | joined | refused =>
    trivial
  | missing hmissing => exact hprivate _ hmissing
  | waiting | absent | ended | entered => exact hprivate
  | passed =>
    intro unit hopen
    rw [openOrigin_setLoading] at hopen
    exact hprivate unit hopen
  | opened hopen =>
    refine hprivate _ ?_
    rw [hopen]

/-- A load that runs private code unloads no module under its subscribers. -/
theorem sparesLoad_of_loadsPrivate (hprivate : world.LoadsPrivate request phase) :
    world.SparesLoad forced phase := by
  cases phase with
  | initializing origin unit => exact fun hook hhook => sparesAll_of_private (hprivate hook hhook)
  | _ => trivial

end World

/-! ## What a load may do on its way -/

namespace State

/-- At most modules came, with nobody who holds them but their pin. -/
structure Furnishes (before after : State) : Prop where
  subscriptions : after.subscriptions = before.subscriptions
  connections : after.connections = before.connections
  stays : ∀ {id module_}, before.registry.get? id = some module_ →
    after.registry.get? id = some module_
  comes : ∀ {id module_}, after.registry.get? id = some module_ →
    before.registry.get? id = some module_ ∨
      (before.registry.get? id = none ∧ module_.clients = module_.pinned.toNat)

variable {forced : Bool} {before middle after state : State} {request : Request}
  {id : SubscriptionId}

/-- Whatever leaves the subscriptions, the connections and the modules as they are furnishes. -/
theorem Furnishes.of_tables_eq (hsubscriptions : after.subscriptions = before.subscriptions)
    (hconnections : after.connections = before.connections)
    (hmodules : ∀ id, after.registry.get? id = before.registry.get? id) :
    before.Furnishes after where
  subscriptions := hsubscriptions
  connections := hconnections
  stays hget := by rw [hmodules, hget]
  comes hget := by
    rw [hmodules] at hget
    exact .inl hget

/-- To do nothing is to furnish. -/
theorem Furnishes.refl (state : State) : state.Furnishes state :=
  .of_tables_eq rfl rfl fun _ => rfl

/-- To furnish twice is to furnish. -/
theorem Furnishes.trans (hfirst : before.Furnishes middle) (hlast : middle.Furnishes after) :
    before.Furnishes after where
  subscriptions := hlast.subscriptions.trans hfirst.subscriptions
  connections := hlast.connections.trans hfirst.connections
  stays hget := hlast.stays (hfirst.stays hget)
  comes := by
    intro id module_ hget
    rcases hlast.comes hget with hmiddle | ⟨hmiddle, hclients⟩
    · exact hfirst.comes hmiddle
    · refine .inr ⟨?_, hclients⟩
      cases hbefore : before.registry.get? id with
      | none => rfl
      | some found =>
        rw [hfirst.stays hbefore] at hmiddle
        cases hmiddle

/-- To furnish any number of times is to furnish. -/
theorem furnishes_of_reaches (hreaches : ReflTransGen Furnishes before after) :
    before.Furnishes after := by
  induction hreaches with
  | refl => exact .refl _
  | tail _ hlast ih => exact ih.trans hlast

/-- To note an event is to furnish. -/
theorem furnishes_note (state : State) (event : Event) :
    state.Furnishes { state with registry := state.registry.note event } :=
  .of_tables_eq rfl rfl fun _ => rfl

/-- To install a module is to furnish, as it comes without clients. -/
theorem furnishes_install (hsound : state.registry.Sound) (prepared : Prepared) :
    state.Furnishes { state with registry := (state.registry.install prepared).1 } where
  subscriptions := rfl
  connections := rfl
  stays hget := hsound.get?_install_of_get? hget
  comes := by
    intro id module_ hget
    rcases Registry.get?_of_install hget with hold | ⟨rfl, hclients⟩
    · exact .inl hold
    · exact .inr ⟨hsound.get?_nextId, hclients⟩

/-- To bind a method is to furnish. -/
theorem furnishes_bindMethod (state : State) (unit : ProviderUnit) (variableId : VariableId) :
    state.Furnishes (state.bindMethod unit variableId).1 :=
  .of_tables_eq subscriptions_bindMethod connections_bindMethod fun _ => get?_registry_bindMethod

/-- At most modules came, and then the request was granted. -/
def Grants (forced : Bool) (before : State) (request : Request) (id : SubscriptionId)
    (after : State) : Prop :=
  ∃ middle, before.Furnishes middle ∧ middle.Sound forced ∧ (middle.subscribe request).2 = .ok id ∧
    after = { (middle.subscribe request).1 with loading := after.loading }

/-- What became of a request: it was granted, or at most modules came. -/
def Concludes (forced : Bool) (before : State) (request : Request) (after : State) :
    Except SubscriptionError SubscriptionId → Prop
  | .ok id => before.Grants forced request id after
  | .error _ => before.Furnishes after

/-- Who is not granted a subscription leaves the subscriptions alone. -/
theorem furnishes_subscribe {error : SubscriptionError}
    (herror : (state.subscribe request).2 = .error error) :
    state.Furnishes (state.subscribe request).1 := by
  cases htracked : state.connections.contains request.connection with
  | false =>
    rw [subscribe_of_untracked htracked]
    exact .refl state
  | true =>
    cases htarget : state.target? request.name with
    | none =>
      rw [subscribe_of_unknown htracked htarget]
      exact .refl state
    | some target =>
      obtain ⟨variable_, unit⟩ := target
      cases hbind : (state.bindMethod unit variable_.id).2 with
      | none =>
        rw [subscribe_of_unbound htracked htarget hbind]
        exact furnishes_bindMethod state unit variable_.id
      | some callable =>
        rw [subscribe_of_bound htracked htarget hbind] at herror
        cases herror

/-- A load concludes with its subscription, granted or not, when it only furnished before. The
subscription is the same whether its variable is read before or after the method is bound. -/
theorem concludes_subscribe (hbefore : before.Furnishes middle) (hmiddle : middle.Sound forced)
    (loading : Bool) :
    before.Concludes forced request { (middle.subscribe request).1 with loading := loading }
      (middle.subscribe request).2 := by
  cases hresult : (middle.subscribe request).2 with
  | ok id => exact ⟨middle, hbefore, hmiddle, hresult, rfl⟩
  | error error =>
    exact (hbefore.trans (furnishes_subscribe hresult)).trans (.of_tables_eq rfl rfl fun _ => rfl)

/-- What concludes after the state was furnished concludes. -/
theorem Furnishes.concludes {result : Except SubscriptionError SubscriptionId}
    (hfirst : before.Furnishes middle) (hlast : middle.Concludes forced request after result) :
    before.Concludes forced request after result := by
  cases result with
  | ok id =>
    obtain ⟨granting, hgranting, hgranted⟩ := hlast
    exact ⟨granting, hfirst.trans hgranting, hgranted⟩
  | error error => exact hfirst.trans hlast

end State

namespace World

open State (Furnishes Concludes)

variable {forced : Bool} {world after : World} {request : Request} {phase reached : LoadPhase}
  {origin : Origin} {unit : ProviderUnit}

/-- To open or close the gate is to furnish. -/
theorem furnishes_setLoading (world : World) (loading : Bool) :
    world.state.Furnishes (world.setLoading loading).state :=
  .of_tables_eq rfl rfl fun _ => rfl

/-- To open the code of a module is to furnish. -/
theorem furnishes_openOrigin (world : World) (origin : Origin) :
    world.state.Furnishes (world.openOrigin origin).1.state :=
  State.furnishes_of_reaches (reaches_openOrigin State.furnishes_note)

/-- To run a private initialization is to furnish. -/
theorem furnishes_stageInit (world : World) (origin : Origin)
    (hprivate : unit.provider.IsPrivate) :
    world.state.Furnishes (stageInit World.perform origin unit world).1.state := by
  refine State.furnishes_of_reaches (reaches_stageInit State.furnishes_note fun hook hhook => ?_)
  rw [state_performAll_private (hprivate hook hhook)]

/-- To install what a load prepared is to furnish. -/
theorem furnishes_installFor (hsound : world.registry.Sound) (name : String)
    (prepared : Option Prepared) :
    world.state.Furnishes (world.installFor name prepared).1.state := by
  cases prepared with
  | none => exact .refl _
  | some prepared =>
    rw [installFor_fst]
    exact State.furnishes_install hsound prepared

/-- A step of a load does no more than bring a module in, but for the last one. -/
theorem LoadStep.furnishes (hstep : LoadStep request world phase after reached)
    (hsound : world.state.Sound forced) (hprivate : world.LoadsPrivate request phase)
    (hgoing : phase.isDone = false) :
    (reached.isDone = false ∧ world.state.Furnishes after.state) ∨
      ∃ result, reached = .done result ∧
        world.state.Concludes forced request after.state result := by
  have hinstall (prepared : Option Prepared) :=
    furnishes_installFor hsound.booked.modules request.name prepared
  cases hstep with
  | known | missing | waiting | present | absent | resident => exact .inl ⟨rfl, .refl _⟩
  | subscribed =>
    exact .inr ⟨_, rfl, State.concludes_subscribe (.refl _) hsound
      (world.state.subscribe request).1.loading⟩
  | passed => exact .inl ⟨rfl, world.furnishes_setLoading true⟩
  | @opened _ origin _ hopen =>
    have hopens := world.furnishes_openOrigin origin
    rw [hopen] at hopens
    exact .inl ⟨rfl, hopens⟩
  | @unopened middle origin _ hopen =>
    have hopens := world.furnishes_openOrigin origin
    rw [hopen] at hopens
    exact .inr ⟨_, rfl, hopens.trans (middle.furnishes_setLoading false)⟩
  | entered => exact .inl ⟨rfl, State.furnishes_note _ _⟩
  | @staged _ origin _ _ hstage =>
    have hstages := furnishes_stageInit world origin hprivate
    rw [hstage] at hstages
    exact .inl ⟨rfl, hstages⟩
  | @failed middle origin _ _ hstage =>
    have hstages := furnishes_stageInit world origin hprivate
    rw [hstage] at hstages
    exact .inr ⟨_, rfl, hstages.trans (middle.furnishes_setLoading false)⟩
  | @joined middle prepared hinstalled =>
    have hfurnishes := hinstall prepared
    have hmiddle := hsound.steps (steps_installFor request.name prepared)
    rw [hinstalled] at hfurnishes hmiddle
    exact .inr ⟨_, rfl, State.concludes_subscribe hfurnishes hmiddle false⟩
  | @refused middle prepared _ hinstalled =>
    have hfurnishes := hinstall prepared
    rw [hinstalled] at hfurnishes
    exact .inr ⟨_, rfl, hfurnishes.trans (middle.furnishes_setLoading false)⟩
  | ended => cases hgoing

/-- Where a load is to stop it takes no step. -/
theorem stepUntil_of_stop {stop : LoadPhase → Bool} (hstop : stop phase = true) (fuel : Nat) :
    stepUntil request stop fuel world phase = (world, phase) := by
  cases fuel with
  | zero => rfl
  | succ fuel => simp [stepUntil, hstop]

/-- A load that nobody else disturbs concludes, or it is still waiting when its time is over. -/
theorem concludes_stepUntil (hsound : world.state.Sound forced)
    (hprivate : world.LoadsPrivate request phase) (hgoing : phase.isDone = false) (fuel : Nat) :
    world.state.Concludes forced request
      (stepUntil request LoadPhase.isDone fuel world phase).1.state
      (resultOf request (stepUntil request LoadPhase.isDone fuel world phase).2) := by
  induction fuel generalizing world phase with
  | zero =>
    cases phase with
    | done result => cases hgoing
    | _ => exact .refl _
  | succ fuel ih =>
    have hstep := world.loadStep_stepLoad request phase
    rw [stepUntil, hgoing]
    simp only [Bool.false_eq_true, if_false]
    rcases hstep.furnishes hsound hprivate hgoing with
      ⟨hundone, hfurnishes⟩ | ⟨result, hdone, hconcludes⟩
    · have hafter := hsound.steps (hstep.steps (sparesLoad_of_loadsPrivate hprivate))
      exact hfurnishes.concludes (ih hafter (hstep.loadsPrivate hprivate) hundone)
    · rw [stepUntil_of_stop (by rw [hdone]; rfl), hdone]
      exact hconcludes

/-- In a quiet world a request with its load concludes. -/
theorem concludes_subscribeLoading (hsound : world.state.Sound forced) (hquiet : world.IsQuiet)
    (request : Request) :
    world.state.Concludes forced request (world.subscribeLoading request).1.state
      (world.subscribeLoading request).2 := by
  refine concludes_stepUntil hsound ?_ rfl loadSteps
  intro origin hmissing
  refine hquiet request.name origin ?_
  unfold State.missingOrigin at hmissing
  split at hmissing
  · cases hmissing
  · exact hmissing

end World

/-! ## One subscription more -/

namespace State

variable {forced : Bool} {before after : State} {request : Request} {id : SubscriptionId}

/-- How many clients a module had before, if it was there, or else the pin with which it came. -/
def clientsOr (before : State) (module_ : Module) (id : ModuleId) : Nat :=
  match before.registry.get? id with
  | some earlier => earlier.clients
  | none => module_.pinned.toNat

/-- There is one subscription more, for a request on a variable, and nothing else for anybody. -/
structure Adds (before : State) (request : Request) (variable_ : Variable) (after : State) :
    Prop where
  /-- The variable is the one of the name. -/
  named : after.directory.idOf? request.name = some variable_.id
  found : after.directory.get? variable_.id = some variable_
  /-- The new subscription comes last, with the next number, and was never served. -/
  entries : after.subscriptions.entries.entries = before.subscriptions.entries.entries ++
    [(before.subscriptions.nextId,
      { id := before.subscriptions.nextId
        interest :=
          { clientId := request.clientId
            connection := request.connection
            variable_ := variable_.id
            module_ := variable_.module_
            arg := request.arg
            once := request.once }
        first := true
        pending := false })]
  last : after.subscriptions.lastId = before.subscriptions.lastId + 1
  /-- Its connection, which is registered, lists it. -/
  tracked : before.connections.contains request.connection = true
  lists : after.connections = before.connections.modify request.connection fun entry =>
    { entry with subscriptions := entry.subscriptions ++ [before.subscriptions.nextId] }
  /-- Its module is resident and has one client more, and no other module has. -/
  resident : (after.registry.get? variable_.module_).isSome
  counts : ∀ {id module_}, after.registry.get? id = some module_ →
    module_.clients = before.clientsOr module_ id + (decide (id = variable_.module_)).toNat
  stays : ∀ {id module_}, before.registry.get? id = some module_ →
    (after.registry.get? id).isSome

/-- A module that is resident after furnishing has the clients that it had, or those that it came
with. -/
theorem Furnishes.clients_eq {module_ : Module} {moduleId : ModuleId}
    (hfurnishes : before.Furnishes after) (hget : after.registry.get? moduleId = some module_) :
    module_.clients = before.clientsOr module_ moduleId := by
  rcases hfurnishes.comes hget with hold | ⟨hnone, hclients⟩
  · rw [clientsOr, hold]
  · rw [clientsOr, hnone, hclients]

/-- A subscription to a variable whose method was bound before it is all that is new. -/
theorem Furnishes.adds {variable_ : Variable} (hfurnishes : before.Furnishes after)
    (htable : before.subscriptions.Sound)
    (hname : after.directory.idOf? request.name = some variable_.id)
    (hvariable : after.directory.get? variable_.id = some variable_)
    (hmodule : (after.registry.get? variable_.module_).isSome)
    (htracked : after.connections.contains request.connection = true) :
    before.Adds request variable_ (after.addSubscription request variable_).1 := by
  have hinsert : (after.addSubscription request variable_).1.subscriptions =
      (before.subscriptions.insert (request.interest variable_)).1 := by
    rw [addSubscription_fst, hfurnishes.subscriptions]
  have hregistry : (after.addSubscription request variable_).1.registry =
      after.registry.recount variable_.module_ (· + 1) := by
    rw [addSubscription_fst]
  have hdirectory : (after.addSubscription request variable_).1.directory = after.directory := by
    rw [directory, hregistry]
    rfl
  refine ⟨?_, ?_, ?_, ?_, ?_, ?_, ?_, ?_, ?_⟩
  · rw [hdirectory, hname]
  · rw [hdirectory, hvariable]
  · rw [hinsert]
    exact Table.entries_put_of_get?_eq_none htable.get?_nextId
  · rw [hinsert]
    rfl
  · rw [← hfurnishes.connections, htracked]
  · rw [addSubscription_fst, hfurnishes.subscriptions, hfurnishes.connections]
    rfl
  · rw [hregistry, Registry.get?_recount, if_pos rfl, Option.isSome_map, hmodule]
  · intro id module_ hget
    rw [hregistry] at hget
    obtain ⟨found, hfound, rfl⟩ := Registry.get?_of_recount hget
    have hclients : found.clients = before.clientsOr found id := hfurnishes.clients_eq hfound
    have hpin : before.clientsOr { found with
        clients := if variable_.module_ = id then found.clients + 1 else found.clients } id =
          before.clientsOr found id := rfl
    rw [hpin, ← hclients]
    by_cases heq : variable_.module_ = id
    · simp [heq]
    · have hne : ¬id = variable_.module_ := fun h => heq h.symm
      simp [heq, hne]
  · intro id module_ hget
    have hstays := hfurnishes.stays hget
    rw [hregistry, Registry.get?_recount]
    split
    · rw [hstays]
      rfl
    · rw [hstays]
      rfl

/-- Whoever is granted a request gets a subscription, and nothing else happens but that a module may
come for it. -/
theorem Grants.adds (hgrants : before.Grants forced request id after) :
    ∃ variable_, before.Adds request variable_ after := by
  obtain ⟨middle, hfurnishes, hsound, hok, hafter⟩ := hgrants
  obtain ⟨variable_, unit, htarget, _, hadded⟩ := subscribe_ok hok
  obtain ⟨variableId, module_, hname, hvariable, hmodule, _⟩ := target?_eq_some_iff.mp htarget
  have hid : variable_.id = variableId := hsound.booked.modules.directory.numbered hvariable
  subst hid
  have htracked : middle.connections.contains request.connection = true := by
    cases hcontains : middle.connections.contains request.connection with
    | true => rfl
    | false =>
      rw [subscribe_of_untracked hcontains] at hok
      cases hok
  have hbound := hfurnishes.trans (furnishes_bindMethod middle unit variable_.id)
  have htable : before.subscriptions.Sound := by
    rw [← hfurnishes.subscriptions]
    exact hsound.booked.table
  have hadds : before.Adds request (variable_.bindWith unit.resolve)
      ((middle.bindMethod unit variable_.id).1.addSubscription request
        (variable_.bindWith unit.resolve)).1 := by
    refine hbound.adds htable ?_ ?_ ?_ ?_
    · rw [directory_bindMethod, Directory.idOf?, Directory.byName_resolve, Variable.id_bindWith]
      exact hname
    · rw [directory_bindMethod, Directory.get?_resolve, Variable.id_bindWith, if_pos rfl, hvariable]
      rfl
    · rw [get?_registry_bindMethod, Variable.module_bindWith, hmodule]
      rfl
    · rw [connections_bindMethod, htracked]
  have hsame : (middle.bindMethod unit variable_.id).1.addSubscription request
      (variable_.bindWith unit.resolve) =
        (middle.bindMethod unit variable_.id).1.addSubscription request variable_ := by
    simp only [addSubscription, Variable.id_bindWith, Variable.module_bindWith]
  rw [hsame, ← hadded] at hadds
  rw [hafter]
  exact ⟨_, hadds.named, hadds.found, hadds.entries, hadds.last, hadds.tracked, hadds.lists,
    hadds.resident, hadds.counts, hadds.stays⟩

end State

/-! ## The answer to a line -/

namespace Session

variable {session : Session} {world : World} {line : String}

/-- What the answer to a line of a client that was let in tells. -/
structure Tells (session : Session) (line : String) (before after : World) (response : Response) :
    Prop where
  /-- A good answer: the line asks for a variable, and now there is a subscription for it. -/
  good : response = .reply "GOOD" → ∃ id name arg once variable_,
    Command.parse (Text.trimEnd line) = .ok (.subscribe id name arg once) ∧
      before.state.Adds ⟨session.connection, id, name, arg, once⟩ variable_ after.state
  /-- An error: at most a module came. -/
  error : response = .reply "ERROR" → before.state.Furnishes after.state
  other : response ≠ .reply "GOOD" → response ≠ .reply "ERROR" → after = before

/-- What does nothing and is no good answer tells nothing. -/
theorem tells_of_idle {response : Response} (hnot : response ≠ .reply "GOOD") :
    session.Tells line world world response where
  good h := absurd h hnot
  error _ := .refl _
  other _ _ := rfl

/-- A configuration value is never mistaken for a good answer. -/
theorem text_config_ne_good (id value : String) : (Reply.config id value).text ≠ "GOOD" := by
  intro heq
  have hletters := congrArg (fun text => text.toList.head?) heq
  simp [Reply.text] at hletters

/-- What a session carries out tells what changed. -/
theorem tells_carryOut {forced : Bool} (hsound : world.state.Sound forced)
    (hquiet : world.IsQuiet) (session : Session) (line : String) :
    session.Tells line world (carryOut world (session.judge line).2).1
      (carryOut world (session.judge line).2).2 := by
  have hjudged := session.judged_judge line
  generalize (session.judge line).2 = verdict at hjudged
  cases hjudged with
  | ignored | left => exact tells_of_idle Response.noConfusion
  | answered word hword =>
    have hne : word.text ≠ "GOOD" := by
      rcases hword with rfl | rfl | rfl <;> decide
    exact tells_of_idle fun heq => hne (Response.reply.inj heq)
  | looked => exact tells_of_idle fun heq => text_config_ne_good _ _ (Response.reply.inj heq)
  | @asked id name arg once hparse =>
    have hconcludes := World.concludes_subscribeLoading hsound hquiet
      ⟨session.connection, id, name, arg, once⟩
    rw [carryOut]
    generalize world.subscribeLoading ⟨session.connection, id, name, arg, once⟩ = subscribed
      at hconcludes ⊢
    obtain ⟨after, result⟩ := subscribed
    cases result with
    | ok granted =>
      have hgood : Response.reply Reply.good.text ≠ .reply "ERROR" := by decide
      obtain ⟨variable_, hadds⟩ := State.Grants.adds hconcludes
      exact ⟨fun _ => ⟨id, name, arg, once, variable_, hparse, hadds⟩,
        fun h => absurd h hgood, fun h => absurd rfl h⟩
    | error error =>
      have herror : Response.reply Reply.error.text ≠ .reply "GOOD" := by decide
      exact ⟨fun h => absurd h herror, fun _ => hconcludes, fun _ h => absurd rfl h⟩

end Session

/-- Whatever a client that was let in says to a daemon at work, while nobody else acts: its session
stays as it is, a good answer stands for one new subscription to the variable that it asked for, an
error has changed nothing for any subscriber, and any other answer has changed nothing at all. -/
theorem Whole.Reachable.answer_tells_change {rules : Permit} {whole : Whole}
    (hreach : Reachable rules whole) (hquiet : whole.world.IsQuiet) {session : Session}
    (hknown : session.authenticated = true) (line : String) :
    (session.answer whole.world line).2.1 = session ∧
      session.Tells line whole.world (session.answer whole.world line).1
        (session.answer whole.world line).2.2 := by
  exact ⟨Session.session_answer_of_authenticated hknown,
    Session.tells_carryOut hreach.sound hquiet session line⟩

namespace Sample

/-- Nobody held the office, and it has left. -/
def vacant : Whole := ⟨⟨stocked.withState stocked.state.unloadIdle.1, none, []⟩, [], []⟩

/-- The daemon can come to where nobody holds its module. -/
theorem reachable_vacant : Whole.Reachable rules vacant :=
  reachable_stocked.step (.outside _ (.swept rfl))

/-- The code of its module is private. -/
theorem isQuiet_vacant : vacant.world.IsQuiet := by
  intro name origin horigin unit hopen hook hhook
  have hmem : (name, origin) ∈ [("door", Origin.builtin "office")] := Table.mem_of_find horigin
  cases List.mem_singleton.mp hmem
  cases hopen
  cases hhook

/-- A client that was let in. -/
def guest : Session := { Session.new ⟨1⟩ .default with authenticated := true }

end Sample

/-- The office comes back for the guest, who is its only client, and nothing comes of a wish for a
bell. -/
theorem answer_tells_change_guest :
    Sample.vacant.world.registry.modules.entries = [] ∧
    (∃ variable_, Sample.vacant.world.state.Adds ⟨⟨1⟩, "a", "door", none, false⟩ variable_
      (Sample.guest.answer Sample.vacant.world "var a:door").1.state) ∧
    ((Sample.guest.answer Sample.vacant.world "var a:door").1.registry.get? ⟨2⟩).map
      Module.clients = some 1 ∧
    Sample.vacant.world.state.Furnishes
      (Sample.guest.answer Sample.vacant.world "var a:bell").1.state := by
  have htells (line : String) : Sample.guest.Tells line Sample.vacant.world
      (Sample.guest.answer Sample.vacant.world line).1
      (Sample.guest.answer Sample.vacant.world line).2.2 :=
    (Whole.Reachable.answer_tells_change Sample.reachable_vacant Sample.isQuiet_vacant rfl line).2
  obtain ⟨id, name, arg, once, variable_, hparse, hadds⟩ := (htells "var a:door").good rfl
  cases hparse
  exact ⟨rfl, ⟨variable_, hadds⟩, rfl, (htells "var a:bell").error rfl⟩

end MetricsDaemon
