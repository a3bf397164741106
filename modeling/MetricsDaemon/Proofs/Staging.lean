import MetricsDaemon.Proofs.Conduct

/-!
# What a module brings

A unit that initializes stages its offers. Those that the layout mentions come through,
the first of each name, and an installation registers them where their names are free.
So a name that is free and offered can be subscribed to in the same step, and what is
catalogued is mentioned by the layout.
-/

namespace MetricsDaemon

/-- Binding a name changes nothing about what a layout mentions. -/
@[simp] theorem Layout.mentions_bind (layout : Layout) (name other : String) (id : VariableId) :
    (layout.bind name id).mentions other = layout.mentions other := by
  cases layout <;> rfl

/-! ## Staging -/

/-- Whether an offer is of the name. -/
def Offer.isOf (name : String) (offer : Offer) : Bool := offer.name == name

/-- The first offer of a name that the provider makes. -/
def Provider.offerOf? (provider : Provider) (name : String) : Option Offer :=
  (provider.enrollment.offers.filterMap id).find? (Offer.isOf name)

/-- The provider makes each of the offers, and each that is shown is the first of its name that it
makes. -/
def Provider.Makes (provider : Provider) (offers : List Offer) : Prop :=
  ∀ offer ∈ offers, some offer ∈ provider.enrollment.offers ∧
    (offer.type.cron = false → provider.offerOf? offer.name = some offer)

/-- The provider offers a variable of the name that is shown, and has its method. -/
def Provider.Brings (provider : Provider) (name : String) : Prop :=
  ∃ offer method, provider.offerOf? name = some offer ∧ offer.type.cron = false ∧
    provider.method offer.method offer.type = .ok method

/-- The offers that a layout lets through. -/
def Layout.staged (layout : Layout) (offers : List (Option Offer)) : List Offer :=
  (offerAll layout.stage [] offers).1

section Stage

variable {layout : Layout} {offers : List (Option Offer)} {staged : List Offer} {offer : Offer}
  {name : String}

/-- What is staged was staged before, or was offered, and runs on every tick or is mentioned. -/
theorem Layout.mem_offerAll {before : List Offer}
    (hmem : offer ∈ (offerAll layout.stage before offers).1) :
    offer ∈ before ∨ (some offer ∈ offers ∧
      (offer.type.cron = true ∨ layout.mentions offer.name = true)) := by
  induction offers generalizing before with
  | nil => exact .inl hmem
  | cons head rest ih =>
    cases head with
    | none =>
      exact (ih hmem).imp_right fun h => ⟨List.mem_cons_of_mem _ h.1, h.2⟩
    | some other =>
      have hrest : offer ∈ (layout.stage before other).1 ∨ (some offer ∈ rest ∧
          (offer.type.cron = true ∨ layout.mentions offer.name = true)) := ih hmem
      rcases hrest with hstaged | hrest
      · unfold Layout.stage at hstaged
        split at hstaged
        · next haccepted =>
          rcases List.mem_append.mp hstaged with hbefore | hnew
          · exact .inl hbefore
          · rw [List.mem_singleton.mp hnew]
            exact .inr ⟨List.mem_cons_self,
              Bool.or_eq_true_iff.mp (Bool.and_eq_true_iff.mp haccepted).1⟩
        · exact .inl hstaged
      · exact .inr ⟨List.mem_cons_of_mem _ hrest.1, hrest.2⟩

/-- Nothing is staged but what was offered. -/
theorem Layout.mem_of_mem_staged (hmem : offer ∈ layout.staged offers) : some offer ∈ offers :=
  ((layout.mem_offerAll hmem).resolve_left List.not_mem_nil).1

/-- Whatever is staged runs on every tick or is mentioned. -/
theorem Layout.worth_of_mem_staged (hmem : offer ∈ layout.staged offers) :
    offer.type.cron = true ∨ layout.mentions offer.name = true :=
  ((layout.mem_offerAll hmem).resolve_left List.not_mem_nil).2

/-- Of the offers of a name that is mentioned the first comes through. -/
theorem Layout.find?_staged (hmentions : layout.mentions name = true) :
    (layout.staged offers).find? (Offer.isOf name) =
      (offers.filterMap id).find? (Offer.isOf name) := by
  have hall (staged : List Offer) :
      (offerAll layout.stage staged offers).1.find? (Offer.isOf name) =
        (staged.find? (Offer.isOf name)).or
          ((offers.filterMap id).find? (Offer.isOf name)) := by
    induction offers generalizing staged with
    | nil => simp [offerAll]
    | cons head rest ih =>
      cases head with
      | none =>
        rw [List.filterMap_cons_none rfl]
        exact ih staged
      | some offer =>
        have hstep : (offerAll layout.stage staged (some offer :: rest)).1 =
            (offerAll layout.stage (layout.stage staged offer).1 rest).1 := rfl
        have hoffers : (some offer :: rest).filterMap id = offer :: rest.filterMap id := rfl
        rw [hstep, ih, hoffers, List.find?_cons]
        unfold Layout.stage
        cases hname : Offer.isOf name offer with
        | false => split <;> simp [List.find?_append, hname]
        | true =>
          have heq : offer.name = name := by simpa [Offer.isOf] using hname
          split
          · simp [List.find?_append, hname]
          · next hrefused =>
            have htaken : (staged.any fun other => other.name == offer.name) = true := by
              simpa [heq, hmentions] using hrefused
            rw [heq] at htaken
            obtain ⟨first, hfirst⟩ :=
              Option.isSome_iff_exists.mp (List.find?_isSome.mpr (List.any_eq_true.mp htaken))
            have hfound : staged.find? (Offer.isOf name) = some first := hfirst
            rw [hfound]
            rfl
  have hstart := hall []
  rwa [List.find?_nil, Option.none_or] at hstart

/-- No name is staged twice. -/
theorem Layout.nodup_staged (layout : Layout) (offers : List (Option Offer)) :
    ((layout.staged offers).map Offer.name).Nodup := by
  have hall (staged : List Offer) (hstaged : (staged.map Offer.name).Nodup) :
      ((offerAll layout.stage staged offers).1.map Offer.name).Nodup := by
    induction offers generalizing staged with
    | nil => exact hstaged
    | cons head rest ih =>
      cases head with
      | none => exact ih staged hstaged
      | some offer =>
        refine ih (layout.stage staged offer).1 ?_
        unfold Layout.stage
        split
        · next haccepted =>
          have hnew : offer.name ∉ staged.map Offer.name := by
            have hnone := (Bool.and_eq_true_iff.mp haccepted).2
            simpa using hnone
          rw [List.map_append, List.nodup_append]
          refine ⟨hstaged, List.nodup_singleton _, ?_⟩
          rintro name hold _ hmem rfl
          exact hnew (List.mem_singleton.mp hmem ▸ hold)
        · exact hstaged
  exact hall [] List.nodup_nil

/-- What is staged was offered, and what is shown of it is what the provider offers first under the
name. -/
theorem Layout.makes_staged (layout : Layout) (provider : Provider) :
    provider.Makes (layout.staged provider.enrollment.offers) := by
  intro offer hmem
  refine ⟨layout.mem_of_mem_staged hmem, fun hshown => ?_⟩
  have hmentions : layout.mentions offer.name = true :=
    (layout.worth_of_mem_staged hmem).resolve_left (by simp [hshown])
  have hnodup := layout.nodup_staged provider.enrollment.offers
  rw [Provider.offerOf?, ← layout.find?_staged hmentions]
  cases hfind : (layout.staged provider.enrollment.offers).find? (Offer.isOf offer.name) with
  | none =>
    have hmissing := List.find?_eq_none.mp hfind offer hmem
    simp [Offer.isOf] at hmissing
  | some found =>
    have hname : found.name = offer.name := by simpa [Offer.isOf] using List.find?_some hfind
    rw [List.inj_on_of_nodup_map hnodup (List.mem_of_find?_eq_some hfind) hmem hname]

end Stage

section Stage

variable {perform : Performer} {origin : Origin} {unit : ProviderUnit} {world after : World}
  {prepared : Prepared} {offers : List Offer}

/-- An initialization that succeeds stages what the layout lets through. -/
theorem World.offers_of_finishInit
    (hfinish : finishInit perform world.registry.layout.stage [] unit world =
      (after, offers, .ok)) :
    offers = world.registry.layout.staged unit.provider.enrollment.offers := by
  unfold finishInit at hfinish
  split at hfinish
  · simp only [Prod.mk.injEq] at hfinish
    exact hfinish.2.1.symm
  · next outcome hnot heq =>
    simp only [Prod.mk.injEq] at hfinish
    exact (hnot hfinish.2.2).elim

/-- An initialization that succeeds prepares the staged offers of its unit. -/
theorem World.prepared_of_stageInit
    (hstage : stageInit perform origin unit world = (after, .ok prepared)) :
    prepared = ⟨unit, origin, world.registry.layout.staged unit.provider.enrollment.offers⟩ := by
  unfold stageInit at hstage
  split at hstage
  · next middle offers heq =>
    cases hstage
    rw [offers_of_finishInit heq]
  · cases hstage
  · cases hstage

end Stage

/-! ## Installing what was staged -/

namespace Installation

variable {settings : Settings} {id : ModuleId} {installation : Installation} {offers : List Offer}
  {offer : Offer} {name : String} {start : Directory}

/-- Every variable that was registered so far comes from one of the offers. -/
def Comes (offers : List Offer) (installation : Installation) : Prop :=
  ∀ variableId ∈ installation.registered, ∀ variable_,
    installation.directory.get? variableId = some variable_ →
    ∃ offer ∈ offers, offer.name = variable_.name ∧ offer.type = variable_.type

/-- Every variable that was registered so far is one of the offers, just as it was offered. -/
def Stems (id : ModuleId) (offers : List Offer) (installation : Installation) : Prop :=
  ∀ variableId ∈ installation.registered, ∀ variable_,
    installation.directory.get? variableId = some variable_ →
    ∃ offer ∈ offers, ∃ timeout, variable_ = Directory.fresh variableId offer timeout id

/-- If something is shown, one of the variables that were registered is. -/
def Shows (installation : Installation) : Prop :=
  installation.shown ≠ 0 → ∃ variableId ∈ installation.registered, ∃ variable_,
    installation.directory.get? variableId = some variable_ ∧ variable_.isCron = false

/-- The offer is registered as it is, and something is shown. -/
def Has (id : ModuleId) (offer : Offer) (installation : Installation) : Prop :=
  installation.shown ≠ 0 ∧ ∃ variableId variable_,
    installation.directory.get? variableId = some variable_ ∧ variable_.name = offer.name ∧
    variable_.method = offer.method ∧ variable_.type = offer.type ∧ variable_.module_ = id ∧
    variable_.binding = .unresolved

/-- What is registered just as it was offered comes from one of the offers. -/
theorem Stems.comes (hstems : Stems id offers installation) : Comes offers installation := by
  intro variableId hmem variable_ hget
  obtain ⟨offer, hoffer, timeout, rfl⟩ := hstems variableId hmem variable_ hget
  exact ⟨offer, hoffer, rfl, rfl⟩

/-- Registering one of the offers leaves everything as it was offered. -/
theorem Stems.register (hstems : Stems id offers installation) (hmem : offer ∈ offers) :
    Stems id offers (register settings id installation offer) := by
  cases hname : installation.directory.idOf? offer.name with
  | some taken => rwa [register_of_taken hname]
  | none =>
    rw [register_of_free hname]
    intro variableId hregistered variable_ hget
    rw [Directory.get?_extend] at hget
    split at hget
    · next heq =>
      cases hget
      exact ⟨offer, hmem, settings.timeoutFor offer, by rw [heq]⟩
    · next hne =>
      rcases List.mem_append.mp hregistered with hold | hnew
      · exact hstems variableId hold variable_ hget
      · exact absurd (List.mem_singleton.mp hnew).symm hne

/-- Registering an offer leaves a variable to show for whatever is shown. -/
theorem Shows.register (hextends : Extends start id installation) (hshows : Shows installation) :
    Shows (register settings id installation offer) := by
  cases hname : installation.directory.idOf? offer.name with
  | some taken => rwa [register_of_taken hname]
  | none =>
    rw [register_of_free hname]
    intro hshown
    cases hcron : offer.type.cron with
    | true =>
      simp only [hcron, if_true] at hshown
      obtain ⟨variableId, hmem, variable_, hget, hfield⟩ := hshows hshown
      exact ⟨variableId, List.mem_append_left _ hmem, variable_,
        hextends.directory.get?_extend_of_get? hget, hfield⟩
    | false =>
      refine ⟨installation.directory.nextId, List.mem_append_right _ (by simp),
        Directory.fresh installation.directory.nextId offer (settings.timeoutFor offer) id, ?_,
        hcron⟩
      rw [Directory.get?_extend, if_pos rfl]

/-- An offer that is registered stays so when another one is. -/
theorem Has.register {other : Offer} (hextends : Extends start id installation)
    (hhas : Has id offer installation) :
    Has id offer (register settings id installation other) := by
  cases hname : installation.directory.idOf? other.name with
  | some taken => rwa [register_of_taken hname]
  | none =>
    rw [register_of_free hname]
    obtain ⟨hshown, variableId, variable_, hget, hfields⟩ := hhas
    refine ⟨?_, variableId, variable_, hextends.directory.get?_extend_of_get? hget, hfields⟩
    dsimp only
    split
    · exact hshown
    · exact Nat.succ_ne_zero _

/-- Register offers one after the other. -/
def registerAll (settings : Settings) (id : ModuleId) (installation : Installation)
    (offers : List Offer) : Installation :=
  offers.foldl (register settings id) installation

/-- Registering offers changes nothing about what the layout mentions. -/
theorem mentions_registerAll : (registerAll settings id installation offers).layout.mentions name =
    installation.layout.mentions name := by
  induction offers generalizing installation with
  | nil => rfl
  | cons offer rest ih =>
    have hrest : (registerAll settings id (register settings id installation offer)
        rest).layout.mentions name =
          (register settings id installation offer).layout.mentions name := ih
    refine hrest.trans ?_
    cases hname : installation.directory.idOf? offer.name with
    | some taken => rw [register_of_taken hname]
    | none => rw [register_of_free hname, Layout.mentions_bind]

/-- Registering some of the offers leaves everything as it was offered. -/
theorem Stems.registerAll {all : List Offer} (hstems : Stems id all installation)
    (hsubset : ∀ offer ∈ offers, offer ∈ all) :
    Stems id all (registerAll settings id installation offers) := by
  induction offers generalizing installation with
  | nil => exact hstems
  | cons offer rest ih =>
    exact ih (hstems.register (hsubset offer List.mem_cons_self))
      fun other hmem => hsubset other (List.mem_cons_of_mem _ hmem)

/-- Registering offers leaves a variable to show for whatever is shown. -/
theorem Shows.registerAll (hextends : Extends start id installation)
    (hshows : Shows installation) : Shows (registerAll settings id installation offers) := by
  induction offers generalizing installation with
  | nil => exact hshows
  | cons offer rest ih => exact ih hextends.register (hshows.register hextends)

/-- An offer that is registered stays so when others are. -/
theorem Has.registerAll (hextends : Extends start id installation)
    (hhas : Has id offer installation) :
    Has id offer (Installation.registerAll settings id installation offers) := by
  induction offers generalizing installation with
  | nil => exact hhas
  | cons other rest ih => exact ih hextends.register (hhas.register hextends)

/-- The first offer of a free name is registered, if it is shown. -/
theorem has_registerAll (hextends : Extends start id installation)
    (hfree : installation.directory.idOf? name = none)
    (hfind : offers.find? (Offer.isOf name) = some offer) (hshown : offer.type.cron = false) :
    Has id offer (registerAll settings id installation offers) := by
  induction offers generalizing installation with
  | nil => cases hfind
  | cons other rest ih =>
    rw [List.find?_cons] at hfind
    cases hother : Offer.isOf name other with
    | true =>
      rw [hother] at hfind
      cases hfind
      have hname : offer.name = name := by simpa [Offer.isOf] using hother
      rw [← hname] at hfree
      have hregistered : Has id offer (register settings id installation offer) := by
        rw [register_of_free hfree]
        refine ⟨?_, installation.directory.nextId,
          Directory.fresh installation.directory.nextId offer (settings.timeoutFor offer) id,
          ?_, rfl, rfl, rfl, rfl, rfl⟩
        · simp [hshown]
        · rw [Directory.get?_extend, if_pos rfl]
      have hrest : Has id offer
          (registerAll settings id (register settings id installation offer) rest) :=
        hregistered.registerAll hextends.register
      exact hrest
    | false =>
      rw [hother] at hfind
      refine ih hextends.register ?_ hfind
      cases hname : installation.directory.idOf? other.name with
      | some taken => rwa [register_of_taken hname]
      | none =>
        have hne : other.name ≠ name := by simpa [Offer.isOf] using hother
        rw [register_of_free hname, Directory.idOf?_extend, if_neg hne, hfree]

end Installation

namespace Registry

variable {registry : Registry} {prepared : Prepared} {name : String} {offer : Offer}
  {origin : Origin} {directory : Directory}

/-- An installation registers the offers of a prepared module one after the other, from the tables
as they are. -/
theorem installation_eq : registry.installation prepared =
    Installation.registerAll registry.settings registry.nextId
      ⟨registry.directory, registry.layout, [], 0, false⟩ prepared.offers := rfl

/-- Every variable of an installation is one of the offers of its module. -/
theorem stems_installation (registry : Registry) (prepared : Prepared) :
    Installation.Stems registry.nextId prepared.offers (registry.installation prepared) := by
  rw [installation_eq]
  exact Installation.Stems.registerAll (fun _ hmem => by cases hmem) fun _ h => h

/-- If an installation shows something, one of the variables that it registered is shown. -/
theorem Sound.shows_installation (hsound : registry.Sound) (prepared : Prepared) :
    (registry.installation prepared).Shows := by
  rw [installation_eq]
  exact Installation.Shows.registerAll (.begin hsound.directory registry.layout)
    fun hshown => absurd rfl hshown

/-- A variable that was not there before an installation is one of the offers, just as it was
offered. -/
theorem Sound.get?_directory_of_install {variableId : VariableId} {variable_ : Variable}
    (hsound : registry.Sound)
    (hget : (registry.install prepared).1.directory.get? variableId = some variable_) :
    registry.directory.get? variableId = some variable_ ∨
      ∃ offer ∈ prepared.offers, ∃ timeout,
        variable_ = Directory.fresh variableId offer timeout registry.nextId := by
  rcases registry.install_cases prepared with h | h | ⟨_, h⟩
  · rw [h] at hget
    exact .inl hget
  · rw [h, hsound.get?_directory_reject] at hget
    exact .inl hget
  · rw [h] at hget
    rcases (hsound.extends_installation prepared).new hget with hold | hmem
    · exact .inl hold
    · exact .inr (registry.stems_installation prepared variableId hmem variable_ hget)

/-- An installation does not change what the layout mentions. -/
theorem mentions_install : (registry.install prepared).1.layout.mentions name =
    registry.layout.mentions name := by
  rw [layout_install]
  split
  · rfl
  · rw [installation_eq, Installation.mentions_registerAll]

/-- What is catalogued was catalogued before, or is one of the variables and shown. -/
theorem get?_catalogue {catalog : Table String Origin} {found : Origin} (ids : List VariableId)
    (hget : (catalogue directory origin catalog ids).get? name = some found) :
    catalog.get? name = some found ∨ ∃ variableId ∈ ids, ∃ variable_,
      directory.get? variableId = some variable_ ∧ variable_.isCron = false ∧
        variable_.name = name := by
  induction ids generalizing catalog with
  | nil => exact .inl hget
  | cons variableId rest ih =>
    rcases ih hget with hstep | ⟨other, hmem, hrest⟩
    · dsimp only at hstep
      split at hstep
      · next variable_ hvariable =>
        split at hstep
        · exact .inl hstep
        · next hshown =>
          rw [Table.get?_put] at hstep
          split at hstep
          · next hname =>
            exact .inr ⟨variableId, List.mem_cons_self, variable_, hvariable,
              by simpa using hshown, hname⟩
          · exact .inl hstep
      · exact .inl hstep
    · exact .inr ⟨other, List.mem_cons_of_mem _ hmem, hrest⟩

/-- What an installation catalogues is among the offers and shown. -/
theorem originOf_install
    (horigin : (registry.install prepared).1.originOf name = some origin) :
    registry.originOf name = some origin ∨
      ∃ offer ∈ prepared.offers, offer.name = name ∧ offer.type.cron = false := by
  rcases registry.install_cases prepared with h | h | ⟨_, h⟩
  · rw [h] at horigin
    exact .inl horigin
  · rw [h] at horigin
    exact .inl horigin
  · rw [h] at horigin
    have hcomes : Installation.Comes prepared.offers (registry.installation prepared) :=
      (registry.stems_installation prepared).comes
    rcases get?_catalogue _ horigin with hold | ⟨variableId, hmem, variable_, hget, hcron, hname⟩
    · exact .inl hold
    · obtain ⟨offer, hoffer, hofferName, hofferType⟩ := hcomes variableId hmem variable_ hget
      refine .inr ⟨offer, hoffer, hofferName.trans hname, ?_⟩
      rw [hofferType]
      exact hcron

/-- A module whose name is free stays if it offers a variable of a free name that is shown. -/
theorem Sound.install_of_offer (hsound : registry.Sound)
    (hloaded : registry.isLoaded prepared.unit.name = false)
    (hfree : registry.directory.idOf? name = none)
    (hfind : prepared.offers.find? (Offer.isOf name) = some offer)
    (hshown : offer.type.cron = false) :
    registry.install prepared = (registry.accept prepared, .ok registry.nextId) ∧
      Installation.Has registry.nextId offer (registry.installation prepared) := by
  have hhas : Installation.Has registry.nextId offer (registry.installation prepared) := by
    rw [installation_eq]
    exact Installation.has_registerAll (.begin hsound.directory registry.layout) hfree hfind hshown
  exact ⟨install_of_shown hloaded hhas.1, hhas⟩

end Registry

/-! ## Subscribing to what was installed -/

namespace State

variable {state : State} {request : Request} {prepared : Prepared}

/-- A request for a name that is registered and whose method binds is granted. -/
theorem subscribe_granted {variable_ : Variable} {unit : ProviderUnit}
    (htracked : state.connections.contains request.connection = true)
    (htarget : state.target? request.name = some (variable_, unit))
    (hbind : (state.bindMethod unit variable_.id).2.isSome) :
    (state.subscribe request).2 = .ok state.subscriptions.nextId := by
  obtain ⟨callable, hcallable⟩ := Option.isSome_iff_exists.mp hbind
  rw [subscribe_of_bound htracked htarget hcallable]

/-- Installing a module that brings a free name and subscribing to it is one step that succeeds. -/
theorem subscribe_installed (hsound : state.registry.Sound)
    (htracked : state.connections.contains request.connection = true)
    (hloaded : state.registry.isLoaded prepared.unit.name = false)
    (hfree : state.directory.idOf? request.name = none)
    (hbrings : prepared.unit.provider.Brings request.name)
    (hstaged : prepared.offers.find? (Offer.isOf request.name) =
      prepared.unit.provider.offerOf? request.name) :
    (state.registry.install prepared).2 = .ok state.registry.nextId ∧
      ({ state with registry := (state.registry.install prepared).1 }.subscribe request).2 =
        .ok state.subscriptions.nextId := by
  obtain ⟨offer, method, hoffer, hshown, hmethod⟩ := hbrings
  rw [hoffer] at hstaged
  obtain ⟨hinstall, _, variableId, variable_, hvariable, hname, hmethodName, htype, hmodule,
    hbinding⟩ := hsound.install_of_offer hloaded hfree hstaged hshown
  rw [hinstall]
  refine ⟨rfl, ?_⟩
  have haccept : (state.registry.accept prepared).Sound := hsound.accept hloaded
  have hget : (state.registry.accept prepared).directory.get? variableId = some variable_ :=
    hvariable
  have hid : variable_.id = variableId := haccept.directory.numbered hget
  have hfirst : offer.name = request.name := by
    have hisOf := List.find?_some hstaged
    simpa [Offer.isOf] using hisOf
  have htarget : ({ state with registry := state.registry.accept prepared } : State).target?
      request.name = some (variable_, prepared.unit) := by
    refine target?_eq_some_iff.mpr ⟨variableId, state.registry.resident prepared, ?_, hget, ?_, rfl⟩
    · rw [← hfirst, ← hname]
      exact haccept.directory.idOf?_name hget
    · have hresident : (state.registry.accept prepared).get? variable_.module_ =
          if state.registry.nextId = variable_.module_ then some (state.registry.resident prepared)
          else state.registry.get? variable_.module_ := Registry.get?_accept
      rw [if_pos hmodule.symm] at hresident
      exact hresident
  refine subscribe_granted htracked htarget ?_
  have hresolve : prepared.unit.resolve variable_.method variable_.type =
      .ok ⟨prepared.unit.tag, variable_.method, method⟩ := by
    rw [hmethodName, htype, ProviderUnit.resolve, hmethod]
    rfl
  refine Option.isSome_iff_exists.mpr
    ⟨⟨prepared.unit.tag, variable_.method, method⟩, bindMethod_snd_eq_some_iff.mpr
      ⟨variable_, by rw [hid]; exact hget, ?_⟩⟩
  rw [Variable.bindWith_of_unresolved hbinding, hresolve]
  rfl

end State

end MetricsDaemon
