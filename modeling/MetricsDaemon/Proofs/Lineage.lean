import MetricsDaemon.Proofs.Gathering
import MetricsDaemon.Proofs.Whole

/-!
# Where variables come from

Every variable was offered by the unit of its module, and once its method was asked for,
it is bound to what that unit answered. So the offers of a unit and its methods say what
the jobs of its variables call, whenever a tick is planned.
-/

namespace MetricsDaemon

open Stock (Deed)

/-! ## One variable -/

/-- The variable is one of the unit's offers, and if its method was asked for, it is bound to what
the unit answered. -/
structure Variable.StemsFrom (variable_ : Variable) (unit : ProviderUnit) : Prop where
  offered : ∃ offer, some offer ∈ unit.provider.enrollment.offers ∧ variable_.name = offer.name ∧
    variable_.method = offer.method ∧ variable_.type = offer.type
  bound : variable_.binding = .unresolved ∨
    variable_.binding = Directory.bindingOf (unit.resolve variable_.method variable_.type)

namespace Variable

variable {variable_ found : Variable} {unit : ProviderUnit} {callable : Callable}

/-- Whether a variable stems from a unit depends on its profile and its binding only. -/
theorem StemsFrom.of_profile_eq (hstems : variable_.StemsFrom unit)
    (hprofile : found.profile = variable_.profile) (hbinding : found.binding = variable_.binding) :
    found.StemsFrom unit where
  offered := by
    obtain ⟨offer, hoffer, hname, hmethod, htype⟩ := hstems.offered
    exact ⟨offer, hoffer, (name_eq_of_profile_eq hprofile).trans hname,
      (method_eq_of_profile_eq hprofile).trans hmethod,
      (type_eq_of_profile_eq hprofile).trans htype⟩
  bound := by
    rw [hbinding, method_eq_of_profile_eq hprofile, type_eq_of_profile_eq hprofile]
    exact hstems.bound

/-- Asking the unit for the method leads to the unit's answer, whether or not that was done
before. -/
theorem StemsFrom.binding_bindWith (hstems : variable_.StemsFrom unit) :
    (variable_.bindWith unit.resolve).binding =
      Directory.bindingOf (unit.resolve variable_.method variable_.type) := by
  by_cases hbinding : variable_.binding = .unresolved
  · rw [bindWith_of_unresolved hbinding]
  · rw [bindWith_of_ne_unresolved hbinding]
    exact hstems.bound.resolve_left hbinding

/-- A variable that is bound by its unit stems from it. -/
theorem StemsFrom.bindWith (hstems : variable_.StemsFrom unit) :
    (variable_.bindWith unit.resolve).StemsFrom unit where
  offered := by
    rw [name_bindWith, method_bindWith, type_bindWith]
    exact hstems.offered
  bound := by
    rw [method_bindWith, type_bindWith]
    exact .inr hstems.binding_bindWith

/-- What the variable is bound to is a method of the unit. -/
theorem StemsFrom.resolve_of_ready (hstems : variable_.StemsFrom unit)
    (hready : variable_.binding = .ready callable) :
    unit.resolve variable_.method variable_.type = .ok callable := by
  have hbound := hstems.bound.resolve_left (by simp [hready])
  rw [hready] at hbound
  cases hresolve : unit.resolve variable_.method variable_.type with
  | error error =>
    rw [hresolve] at hbound
    cases hbound
  | ok found =>
    rw [hresolve] at hbound
    cases hbound
    rfl

end Variable

/-- What a unit resolves a method to is its own and the one that it provides. -/
theorem ProviderUnit.owner_of_resolve {unit : ProviderUnit} {method : String} {type : TypeTag}
    {callable : Callable} (hresolve : unit.resolve method type = .ok callable) :
    callable.owner = unit.tag ∧ unit.provider.method method type = .ok callable.method := by
  unfold resolve at hresolve
  cases hmethod : unit.provider.method method type with
  | error error =>
    rw [hmethod] at hresolve
    cases hresolve
  | ok code =>
    rw [hmethod] at hresolve
    cases hresolve
    exact ⟨rfl, rfl⟩

/-! ## Every variable -/

namespace Registry

/-- Every variable stems from the unit of its module. -/
def Stemming (registry : Registry) : Prop :=
  ∀ id variable_, registry.directory.get? id = some variable_ →
    ∃ module_, registry.get? variable_.module_ = some module_ ∧ variable_.StemsFrom module_.unit

variable {registry before after : Registry} {unloads : Bool} {prepared : Prepared}

/-- An act leaves every variable stemming from the unit of its module. -/
theorem Stemming.act (hstemming : before.Stemming) (hsound : before.Sound)
    (hact : Act unloads before after) : after.Stemming := by
  intro id variable_ hget
  cases hact with
  | provided name provider => exact hstemming id variable_ hget
  | counted module_ change =>
    obtain ⟨module_, hmodule, hstems⟩ := hstemming id variable_ hget
    obtain ⟨found, hfound, hsame⟩ := recount_of_get? hmodule
    refine ⟨found, hfound, ?_⟩
    rw [hsame]
    exact hstems
  | @bound other asked module_ hvariable hmodule =>
    have hmodules (owner : ModuleId) :
        (before.bind module_.unit other).get? owner = before.get? owner := by
      rw [Registry.get?, modules_bind]
      rfl
    rw [directory_bind, Directory.get?_resolve] at hget
    rw [hmodules]
    split at hget
    · next heq =>
      subst heq
      obtain ⟨found, hfound, rfl⟩ := Option.map_eq_some_iff.mp hget
      rw [hvariable] at hfound
      cases hfound
      obtain ⟨owner, howner, hstems⟩ := hstemming other asked hvariable
      rw [hmodule] at howner
      cases howner
      rw [Variable.module_bindWith]
      exact ⟨module_, hmodule, hstems.bindWith⟩
    · exact hstemming id variable_ hget
  | sampled other arg now checksum =>
    rw [Directory.get?_recordSample] at hget
    split at hget
    · next heq =>
      obtain ⟨found, hfound, rfl⟩ := Option.map_eq_some_iff.mp hget
      obtain ⟨module_, hmodule, hstems⟩ := hstemming id found hfound
      exact ⟨module_, hmodule, hstems.of_profile_eq Variable.profile_record rfl⟩
    · exact hstemming id variable_ hget
  | unloaded module_ hmay =>
    obtain ⟨hvariable, hne⟩ := hsound.get?_directory_unload_iff.mp hget
    obtain ⟨owner, howner, hstems⟩ := hstemming id variable_ hvariable
    exact ⟨owner, by rw [get?_unload, if_neg hne.symm, howner], hstems⟩

/-- What a module brings stems from its unit, as long as the unit made the offers. -/
theorem Stemming.install (hstemming : registry.Stemming) (hsound : registry.Sound)
    (hmakes : prepared.unit.provider.Makes prepared.offers) :
    (registry.install prepared).1.Stemming := by
  intro id variable_ hget
  rcases hsound.get?_directory_of_install hget with hold | ⟨offer, hoffer, timeout, rfl⟩
  · obtain ⟨module_, hmodule, hstems⟩ := hstemming id variable_ hold
    exact ⟨module_, hsound.get?_install_of_get? hmodule, hstems⟩
  · obtain ⟨module_, hmodule, _⟩ := hsound.install.owner hget
    refine ⟨module_, hmodule, ?_, .inl rfl⟩
    rcases resident_of_install hmodule with hold | ⟨_, rfl⟩
    · have hnone := hsound.get?_nextId
      rw [show registry.get? registry.nextId = some module_ from hold] at hnone
      cases hnone
    · exact ⟨offer, (hmakes offer hoffer).1, rfl, rfl, rfl⟩

end Registry

namespace Stock

variable {alone unloads : Bool} {before after : Stock}

/-- Every variable stems from the unit of its module, and so will those of what is prepared. -/
structure Lineage (stock : Stock) : Prop where
  stemming : stock.registry.Stemming
  makes : ∀ prepared, .prepared prepared ∈ stock.holdings →
    prepared.unit.provider.Makes prepared.offers

/-- A deed leaves every prepared unit the maker of what it offers. -/
theorem Deed.makes (hdeed : Deed alone unloads before after)
    (hmakes : ∀ prepared, .prepared prepared ∈ before.holdings →
      prepared.unit.provider.Makes prepared.offers) :
    ∀ prepared, .prepared prepared ∈ after.holdings →
      prepared.unit.provider.Makes prepared.offers := by
  intro prepared hmem
  cases hdeed with
  | acted => exact hmakes prepared hmem
  | opened =>
    rcases List.mem_cons.mp hmem with h | hmem
    · cases h
    · exact hmakes prepared hmem
  | entered | offered =>
    rcases List.mem_cons.mp hmem with h | hmem
    · cases h
    · exact hmakes prepared (List.mem_cons_of_mem _ hmem)
  | returned kept _ hkept =>
    rcases List.mem_cons.mp hmem with h | hmem
    · cases h
      exact hkept
    · exact hmakes prepared (List.mem_cons_of_mem _ hmem)
  | dropped | discarded | installed => exact hmakes prepared (List.mem_cons_of_mem _ hmem)
  | shuffled hperm => exact hmakes prepared (hperm.mem_iff.mpr hmem)

/-- A deed leaves every variable, now and later, stemming from the unit of its module. -/
theorem Lineage.deed (hlineage : before.Lineage) (hsound : before.registry.Sound)
    (hdeed : Deed alone unloads before after) : after.Lineage := by
  refine ⟨?_, hdeed.makes hlineage.makes⟩
  have hstemming := hlineage.stemming
  cases hdeed with
  | acted hact => exact hstemming.act hsound hact
  | installed prepared =>
    exact hstemming.install hsound (hlineage.makes prepared List.mem_cons_self)
  | _ => exact hstemming

end Stock

/-! ## Wherever the whole can come -/

namespace Whole

variable {rules : Permit} {whole after : Whole} {flight : Flight}

/-- Wherever the daemon can come, variables stem from their units, now and later. -/
theorem Reachable.lineage (hreach : Reachable rules whole) : whole.stock.Lineage := by
  refine hreach.kept Stock.Lineage (fun layout settings last => ?_)
    (fun _ _ _ _ _ _ hkept => ⟨hkept.stemming, hkept.makes⟩)
    fun unloads before after hbalanced hkept hdeed => hkept.deed hbalanced.registry hdeed
  refine ⟨fun id variable_ hget => ?_, fun prepared hmem => ?_⟩
  · cases hget
  · cases hmem

/-- Wherever the daemon can come, every variable stems from the unit of its module. -/
theorem Reachable.stemming (hreach : Reachable rules whole) : whole.world.registry.Stemming :=
  hreach.lineage.stemming

/-- The tick in flight and those that were applied. -/
def flights (whole : Whole) : List Flight :=
  whole.run.flight.toList ++ whole.run.history.map Completion.flight

/-- A flight is in the air or belongs to a tick that was applied. -/
theorem mem_flights_iff : flight ∈ whole.flights ↔
    whole.run.flight = some flight ∨ ∃ completion ∈ whole.run.history,
      completion.flight = flight := by
  rw [flights, List.mem_append, Option.mem_toList, List.mem_map]

/-- A flight after a step was there before, was planned in it, or had its next job called in it. -/
theorem Step.mem_flights (hstep : Step rules whole after) (hmem : flight ∈ after.flights) :
    flight ∈ whole.flights ∨
      (after.run = whole.run.takeOff ∧
        flight = ⟨whole.run.world.state, whole.run.world.host.now, []⟩) ∨
      ∃ earlier job, whole.run.flight = some earlier ∧
        earlier.plan.jobs[earlier.calls.length]? = some job ∧ after = whole.call earlier job ∧
        flight = earlier.answered whole.world job := by
  rw [mem_flights_iff] at hmem ⊢
  cases hstep with
  | plan hidle =>
    rcases hmem with hflight | hhistory
    · cases hflight
      exact .inr (.inl ⟨rfl, rfl⟩)
    · exact .inl (.inr hhistory)
  | @call earlier job hearlier hjob =>
    rcases hmem with hflight | hhistory
    · cases hflight
      exact .inr (.inr ⟨earlier, job, hearlier, hjob, rfl, rfl⟩)
    · exact .inl (.inr hhistory)
  | apply hflight hdone =>
    rcases hmem with hnone | ⟨completion, hmem, rfl⟩
    · cases hnone
    · rcases List.mem_cons.mp hmem with rfl | hmem
      · exact .inl (.inl hflight)
      · exact .inl (.inr ⟨completion, hmem, rfl⟩)
  | abandon =>
    rcases hmem with hnone | hhistory
    · cases hnone
    · exact .inl (.inr hhistory)
  | _ => exact .inl hmem

/-- What holds of the state wherever the whole can come holds of the states in which ticks were
planned. -/
theorem Reachable.before_flight (hreach : Reachable rules whole) (kept : State → Prop)
    (hkept : ∀ {other : Whole}, Reachable rules other → kept other.world.state)
    (hmem : flight ∈ whole.flights) : kept flight.before := by
  induction hreach generalizing flight with
  | start =>
    rw [mem_flights_iff] at hmem
    rcases hmem with h | ⟨_, h, _⟩ <;> cases h
  | @step whole after hreach hstep ih =>
    rcases hstep.mem_flights hmem with hbefore | ⟨_, rfl⟩ | ⟨earlier, job, hearlier, _, _, rfl⟩
    · exact ih hbefore
    · exact hkept hreach
    · have hkeeps : kept earlier.before := ih (mem_flights_iff.mpr (.inl hearlier))
      exact hkeeps

/-- Every call of a tick was made for the job at its place. -/
theorem Reachable.faithful (hreach : Reachable rules whole) (hmem : flight ∈ whole.flights) :
    flight.Faithful := by
  have hsound := hreach.toRun.sound
  rcases mem_flights_iff.mp hmem with hflight | ⟨completion, hcompletion, rfl⟩
  · exact (hsound.flight hflight).faithful
  · exact (hsound.history hcompletion).2.1.faithful

end Whole

/-! ## What jobs call -/

namespace State

variable {state : State} {id : VariableId} {variable_ : Variable} {module_ : Module}
  {callable : Callable}

/-- A variable leads to what the unit of its module makes of its method. -/
theorem callableFor_of_stems (hvariable : state.directory.get? id = some variable_)
    (hmodule : state.registry.get? variable_.module_ = some module_)
    (hstems : variable_.StemsFrom module_.unit) : state.callableFor id =
      (module_.unit.resolve variable_.method variable_.type).toOption := by
  have hunit : state.registry.unitOf variable_.module_ = some module_.unit := by
    rw [Registry.unitOf, hmodule, Option.map_some]
  rw [callableFor, hvariable]
  simp only [Option.bind_eq_bind, Option.bind_some, hunit]
  rw [hstems.binding_bindWith]
  cases module_.unit.resolve variable_.method variable_.type <;> rfl

/-- Whatever a variable leads to is the method that the provider of its module has for it. -/
theorem method_of_callableFor (hstemming : state.registry.Stemming)
    (hcallable : state.callableFor id = some callable) : ∃ variable_ module_,
      state.directory.get? id = some variable_ ∧
      state.registry.get? variable_.module_ = some module_ ∧
      variable_.StemsFrom module_.unit ∧
      module_.unit.provider.method variable_.method variable_.type = .ok callable.method := by
  cases hvariable : state.directory.get? id with
  | none =>
    rw [callableFor, hvariable] at hcallable
    cases hcallable
  | some variable_ =>
    obtain ⟨module_, hmodule, hstems⟩ := hstemming id variable_ hvariable
    refine ⟨variable_, module_, rfl, hmodule, hstems, ?_⟩
    rw [callableFor_of_stems hvariable hmodule hstems] at hcallable
    cases hresolve : module_.unit.resolve variable_.method variable_.type with
    | error error =>
      rw [hresolve] at hcallable
      cases hcallable
    | ok found =>
      rw [hresolve] at hcallable
      cases hcallable
      exact (ProviderUnit.owner_of_resolve hresolve).2

end State

end MetricsDaemon
