import MetricsDaemon.Proofs.Receding
import MetricsDaemon.Proofs.Whole

/-!
# What a layout remembers

A layout is told the number of every variable that is registered, and it is never told that
one is gone. So it leads from every name that is registered to its variable, and from every
other name that was registered once to a number that is nobody's any more. Such a number is
never given out again: a name may lead nowhere, but it never leads astray.
-/

namespace MetricsDaemon

namespace Layout

/-- What a layout knows of a directory, if it listens at all: where every registered name leads, no
variable under the name of another, and no number that was not given out. -/
structure Remembers (layout : Layout) (directory : Directory) : Prop where
  listens : layout ≠ .everything
  registered : ∀ {name id}, directory.idOf? name = some id → layout.bound? name = some id
  named : ∀ {name id variable_}, layout.bound? name = some id →
    directory.get? id = some variable_ → variable_.name = name
  issued : ∀ {name id}, layout.bound? name = some id → id.number ≤ directory.lastId

variable {layout : Layout} {before after : Directory} {name other : String} {id : VariableId}

/-- After a name was bound it leads to its variable, and the others lead where they led. -/
theorem bound?_bind (hlistens : layout ≠ .everything) :
    (layout.bind name id).bound? other = if name = other then some id else layout.bound? other := by
  cases layout with
  | everything => exact absurd rfl hlistens
  | template names bound => exact Table.get?_put ..

/-- A layout that mentions names still does when one is bound. -/
theorem bind_ne_everything (hlistens : layout ≠ .everything) :
    layout.bind name id ≠ .everything := by
  cases layout with
  | everything => exact hlistens
  | template names bound => nofun

/-- A layout that was just read leads nowhere. -/
theorem remembers_parse (text : String) : (parse text).Remembers .empty where
  listens := nofun
  registered h := by cases h
  named h := by cases h
  issued h := by cases h

/-- Variables may leave unnoticed. -/
theorem Remembers.recede (hremembers : layout.Remembers before) (hbefore : before.Sound)
    (hafter : after.Sound) (hlast : before.lastId ≤ after.lastId)
    (hstayed : ∀ {id variable_}, after.get? id = some variable_ →
      ∃ found, before.get? id = some found ∧ found.name = variable_.name) :
    layout.Remembers after where
  listens := hremembers.listens
  registered := by
    intro name id hname
    obtain ⟨variable_, hget, rfl⟩ := hafter.named.mp hname
    obtain ⟨found, hfound, hsame⟩ := hstayed hget
    exact hremembers.registered (hbefore.named.mpr ⟨found, hfound, hsame⟩)
  named := by
    intro name id variable_ hbound hget
    obtain ⟨found, hfound, hsame⟩ := hstayed hget
    exact hsame.symm.trans (hremembers.named hbound hfound)
  issued hbound := Nat.le_trans (hremembers.issued hbound) hlast

/-- A name leads nowhere exactly if it is not registered. -/
theorem Remembers.get?_eq_none_iff (hremembers : layout.Remembers before) (hsound : before.Sound)
    (hbound : layout.bound? name = some id) :
    before.get? id = none ↔ before.idOf? name = none := by
  constructor
  · intro hgone
    cases hname : before.idOf? name with
    | none => rfl
    | some current =>
      have hcurrent := hremembers.registered hname
      rw [hbound] at hcurrent
      cases hcurrent
      obtain ⟨variable_, hget, _⟩ := hsound.named.mp hname
      rw [hgone] at hget
      cases hget
  · intro hfree
    cases hget : before.get? id with
    | none => rfl
    | some variable_ =>
      have hname := hsound.idOf?_name hget
      rw [hremembers.named hbound hget, hfree] at hname
      cases hname

end Layout

/-! ## Installing -/

namespace Installation

/-- The layout leads from every name that is registered to its variable, and from every other name
where it led when the installation began. -/
structure Tells (start : Layout) (installation : Installation) : Prop where
  listens : installation.layout ≠ .everything
  bound : ∀ name, installation.layout.bound? name =
    (installation.directory.idOf? name).or (start.bound? name)

variable {start : Layout} {installation : Installation} {settings : Settings} {id : ModuleId}
  {offer : Offer}

/-- An installation tells the layout of every variable that it registers. -/
theorem Tells.register (htells : Tells start installation) :
    Tells start (register settings id installation offer) := by
  cases hname : installation.directory.idOf? offer.name with
  | some taken =>
    rw [register_of_taken hname]
    exact htells
  | none =>
    rw [register_of_free hname]
    refine ⟨Layout.bind_ne_everything htells.listens, fun name => ?_⟩
    rw [Layout.bound?_bind htells.listens, Directory.idOf?_extend]
    split
    · rfl
    · exact htells.bound name

/-- An installation tells the layout of all variables that it registers. -/
theorem Tells.registerAll {offers : List Offer} (htells : Tells start installation) :
    Tells start (registerAll settings id installation offers) := by
  induction offers generalizing installation with
  | nil => exact htells
  | cons offer rest ih => exact ih htells.register

end Installation

namespace Registry

variable {registry before middle after : Registry} {prepared : Prepared} {unloads : Bool}

/-- The installation of a module tells the layout of its variables. -/
theorem tells_installation (hremembers : registry.layout.Remembers registry.directory)
    (prepared : Prepared) :
    Installation.Tells registry.layout (registry.installation prepared) := by
  rw [installation_eq]
  refine .registerAll ⟨hremembers.listens, fun name => ?_⟩
  cases hname : registry.directory.idOf? name with
  | none => rfl
  | some id => exact hremembers.registered hname

/-- While a module is installed, the layout knows its variables like those that were there. -/
theorem remembers_installation (hsound : registry.Sound)
    (hremembers : registry.layout.Remembers registry.directory) (prepared : Prepared) :
    (registry.installation prepared).layout.Remembers
      (registry.installation prepared).directory := by
  have htells := tells_installation hremembers prepared
  have hextends := hsound.extends_installation prepared
  refine ⟨htells.listens, ?_, ?_, ?_⟩
  · intro name id hname
    rw [htells.bound, hname, Option.some_or]
  · intro name id variable_ hbound hget
    rw [htells.bound] at hbound
    rcases Option.or_eq_some_iff.mp hbound with hname | ⟨hfree, hold⟩
    · obtain ⟨found, hfound, hsame⟩ := hextends.directory.named.mp hname
      rw [hget] at hfound
      cases hfound
      exact hsame
    · rcases hextends.new hget with hbefore | hnew
      · exact hremembers.named hold hbefore
      · have hlate := (hextends.registered hnew).1
        exact absurd (hremembers.issued hold) (Nat.not_le.mpr hlate)
  · intro name id hbound
    rw [htells.bound] at hbound
    rcases Option.or_eq_some_iff.mp hbound with hname | ⟨hfree, hold⟩
    · obtain ⟨found, hfound, _⟩ := hextends.directory.named.mp hname
      exact hextends.directory.le_lastId hfound
    · exact Nat.le_trans (hremembers.issued hold) hextends.last

/-- Where a name leads once a module was installed, whether or not the module stayed: to the
variable that had the name when all offers were registered, or where it led before. -/
theorem bound?_install (hremembers : registry.layout.Remembers registry.directory)
    (hloaded : registry.isLoaded prepared.unit.name = false) (name : String) :
    (registry.install prepared).1.layout.bound? name =
      ((registry.installation prepared).directory.idOf? name).or (registry.layout.bound? name) := by
  rw [layout_install, if_neg (by simp [hloaded])]
  exact (tells_installation hremembers prepared).bound name

/-- After an installation the layout leads from every registered name to its variable. -/
theorem remembers_install (hsound : registry.Sound)
    (hremembers : registry.layout.Remembers registry.directory) (prepared : Prepared) :
    (registry.install prepared).1.layout.Remembers (registry.install prepared).1.directory := by
  have hinstallation := remembers_installation hsound hremembers prepared
  have hextends := hsound.extends_installation prepared
  rcases registry.install_cases prepared with h | h | ⟨_, h⟩
  · rw [h]
    exact hremembers
  · rw [h]
    have hlayout : (registry.reject prepared).layout = (registry.installation prepared).layout :=
      rfl
    have hlast : (registry.reject prepared).directory.lastId =
        (registry.installation prepared).directory.lastId := Directory.lastId_removeAll _
    rw [hlayout]
    refine hinstallation.recede hextends.directory hsound.reject.directory hlast.ge ?_
    intro id variable_ hget
    rw [hsound.get?_directory_reject] at hget
    exact ⟨variable_, hextends.old hget, rfl⟩
  · rw [h]
    exact hinstallation

/-- How a registry goes on: where the layout leads from a name is only ever replaced by a newer
number, and no number comes back. -/
structure Renews (before after : Registry) : Prop where
  last : before.directory.lastId ≤ after.directory.lastId
  bound : ∀ {name id}, before.layout.bound? name = some id →
    ∃ newer, after.layout.bound? name = some newer ∧ id.number ≤ newer.number
  gone : ∀ {id}, id.number ≤ before.directory.lastId → before.directory.get? id = none →
    after.directory.get? id = none

/-- Nothing is renewed where the directory and the layout stay as they are. -/
theorem Renews.of_tables_eq (hdirectory : after.directory = before.directory)
    (hlayout : after.layout = before.layout) : before.Renews after where
  last := by rw [hdirectory]
  bound hbound := ⟨_, by rwa [hlayout], Nat.le_refl _⟩
  gone _ hgone := by rwa [hdirectory]

/-- Nothing is renewed where nothing happens. -/
theorem Renews.refl (registry : Registry) : registry.Renews registry := .of_tables_eq rfl rfl

/-- What is renewed twice in a row is renewed. -/
theorem Renews.trans (hfirst : before.Renews middle) (hlast : middle.Renews after) :
    before.Renews after where
  last := Nat.le_trans hfirst.last hlast.last
  bound hbound := by
    obtain ⟨between, hbetween, hle⟩ := hfirst.bound hbound
    obtain ⟨newer, hnewer, hle'⟩ := hlast.bound hbetween
    exact ⟨newer, hnewer, Nat.le_trans hle hle'⟩
  gone hle hgone := hlast.gone (Nat.le_trans hle hfirst.last) (hfirst.gone hle hgone)

/-- An act renews no name. -/
theorem Act.renews (hact : Act unloads before after) (hsound : before.Sound) :
    before.Renews after where
  last := hact.lastId_directory.ge
  bound hbound := ⟨_, by rwa [hact.layout], Nat.le_refl _⟩
  gone := by
    intro id _ hgone
    cases hget : after.directory.get? id with
    | none => rfl
    | some variable_ =>
      obtain ⟨found, hfound, _⟩ := hact.registered (fun _ => hsound) hget
      rw [hgone] at hfound
      cases hfound

/-- An installation renews the names that it registers. -/
theorem renews_install (hsound : registry.Sound)
    (hremembers : registry.layout.Remembers registry.directory) (prepared : Prepared) :
    registry.Renews (registry.install prepared).1 where
  last := hsound.keeps_install.last
  bound := by
    intro name id hbound
    cases hloaded : registry.isLoaded prepared.unit.name with
    | true =>
      rw [layout_install, if_pos hloaded]
      exact ⟨id, hbound, Nat.le_refl _⟩
    | false =>
      have hextends := hsound.extends_installation prepared
      rw [bound?_install hremembers hloaded]
      cases hname : (registry.installation prepared).directory.idOf? name with
      | none => exact ⟨id, hbound, Nat.le_refl _⟩
      | some newer =>
        refine ⟨newer, rfl, ?_⟩
        obtain ⟨variable_, hget, rfl⟩ := hextends.directory.named.mp hname
        rcases hextends.new hget with hold | hnew
        · have hsame := hremembers.registered (hsound.directory.idOf?_name hold)
          rw [hbound] at hsame
          cases hsame
          exact Nat.le_refl _
        · have hlate := (hextends.registered hnew).1
          exact Nat.le_of_lt (Nat.lt_of_le_of_lt (hremembers.issued hbound) hlate)
  gone := by
    intro id hle hgone
    cases hget : (registry.install prepared).1.directory.get? id with
    | none => rfl
    | some variable_ =>
      obtain ⟨found, hfound, _⟩ := hsound.keeps_install.kept hget hle
      rw [hgone] at hfound
      cases hfound

end Registry

namespace Stock

variable {alone unloads : Bool} {before after : Stock}

/-- Every deed goes on from what the layout remembers. -/
theorem Deed.remembers (hdeed : Deed alone unloads before after) (hsound : before.registry.Sound)
    (hremembers : before.registry.layout.Remembers before.registry.directory) :
    after.registry.layout.Remembers after.registry.directory ∧
      before.registry.Renews after.registry := by
  cases hdeed with
  | acted hact =>
    refine ⟨?_, hact.renews hsound⟩
    dsimp only at hremembers ⊢
    rw [hact.layout]
    exact hremembers.recede hsound.directory (hsound.act hact).directory hact.lastId_directory.ge
      (hact.recedes fun _ => hsound).registered
  | installed prepared =>
    exact ⟨Registry.remembers_install hsound hremembers prepared,
      Registry.renews_install hsound hremembers prepared⟩
  | _ => exact ⟨hremembers, .of_tables_eq rfl rfl⟩

end Stock

/-! ## Wherever the whole can come -/

namespace Whole

variable {rules : Permit} {whole after : Whole}

/-- A layout that leads to what is registered still does after any number of steps, and what it knew
is renewed at most. -/
theorem Reachable.remembers (hreach : Reachable rules whole)
    (hremembers : whole.world.registry.layout.Remembers whole.world.registry.directory)
    (hsteps : Steps rules whole after) :
    after.world.registry.layout.Remembers after.world.registry.directory ∧
      whole.world.registry.Renews after.world.registry := by
  induction hsteps with
  | refl => exact ⟨hremembers, .refl _⟩
  | tail hsteps hstep ih =>
    refine (hreach.steps hsteps).kept_step hstep
      (fun stock => stock.registry.layout.Remembers stock.registry.directory ∧
        whole.world.registry.Renews stock.registry)
      (fun _ _ _ _ _ _ hkept => ⟨hkept.1, hkept.2.trans (.of_tables_eq rfl rfl)⟩) ?_ ih
    intro unloads before later hbalanced hkept hdeed
    have hlater := hdeed.remembers hbalanced.registry hkept.1
    exact ⟨hlater.1, hkept.2.trans hlater.2⟩

/-- Where the layout leads. -/
structure Recalls (rules : Permit) (whole : Whole) : Prop where
  /-- A name that is registered leads to its variable. -/
  registered : ∀ name id, whole.world.registry.directory.idOf? name = some id →
    whole.world.registry.layout.bound? name = some id
  /-- No name leads to a variable of another name. -/
  named : ∀ name id variable_, whole.world.registry.layout.bound? name = some id →
    whole.world.registry.directory.get? id = some variable_ → variable_.name = name
  /-- A name leads to a variable that is gone exactly if it is not registered any more. -/
  gone : ∀ name id, whole.world.registry.layout.bound? name = some id →
    (whole.world.registry.directory.get? id = none ↔
      whole.world.registry.directory.idOf? name = none)
  /-- Whatever happens later, a name that led somewhere leads there or to a newer number, and a
  number that is nobody's any more stays so. -/
  lasting : ∀ name id, whole.world.registry.layout.bound? name = some id →
    ∀ after, Steps rules whole after →
      (∃ newer, after.world.registry.layout.bound? name = some newer ∧
        id.number ≤ newer.number) ∧
      (whole.world.registry.directory.get? id = none →
        after.world.registry.directory.get? id = none)

/-- Whatever was loaded, unloaded or turned down since a daemon began with the text of a layout: the
layout leads from every registered name to its variable, and from no name to a variable of another;
but it never forgets a name. -/
theorem layout_keeps_bindings {world : World} {text : String} {settings : Settings}
    (hstate : world.state = .new (.new (.parse text) settings))
    (hsteps : Steps rules ⟨⟨world, none, []⟩, [], []⟩ whole) : whole.Recalls rules := by
  have hstart : Reachable rules ⟨⟨world, none, []⟩, [], []⟩ := .start world _ settings hstate
  have hregistry : world.registry = .new (.parse text) settings := by
    rw [World.registry, hstate]
    rfl
  have hbegins : world.registry.layout.Remembers world.registry.directory := by
    rw [hregistry]
    exact Layout.remembers_parse text
  have hremembers := (hstart.remembers hbegins hsteps).1
  have hreach := hstart.steps hsteps
  have hsound : whole.world.registry.Sound := hreach.balanced.registry
  refine ⟨fun _ _ => hremembers.registered, fun _ _ _ => hremembers.named,
    fun _ _ => hremembers.get?_eq_none_iff hsound.directory, ?_⟩
  intro name id hbound after hlater
  have hrenews := (hreach.remembers hremembers hlater).2
  exact ⟨hrenews.bound hbound, hrenews.gone (hremembers.issued hbound)⟩

end Whole

/-! ## A name that nobody has any more -/

namespace Sample

/-- Modules may be loaded, and swept when nobody holds them. -/
def housekeeping : Permit := ⟨true, true, false⟩

/-- A world whose layout shows the door. -/
def poster : World := empty.world.withState (.new (.new (.parse "$door") .default))

/-- The module with the door is resident. -/
def hung : World := ((poster.withRegistry
  (poster.registry.registerBuiltin "office" office)).load (.builtin "office")).1

/-- Nobody held the module, so it left. -/
def stripped : World := hung.withState hung.state.unloadIdle.1

/-- The daemon can come to where its module is loaded. -/
theorem steps_hung : Whole.Steps housekeeping ⟨⟨poster, none, []⟩, [], []⟩
    ⟨⟨hung, none, []⟩, [], []⟩ := by
  have hprovided : Whole.Step housekeeping ⟨⟨poster, none, []⟩, [], []⟩
      ⟨⟨poster.withRegistry (poster.registry.registerBuiltin "office" office), none, []⟩,
        [], []⟩ := .outside _ (.provided "office" office)
  exact (Relation.ReflTransGen.single hprovided).tail (.outside _ (.loaded _ rfl))

/-- The daemon can come to where its module was swept. -/
theorem steps_stripped : Whole.Steps housekeeping ⟨⟨poster, none, []⟩, [], []⟩
    ⟨⟨stripped, none, []⟩, [], []⟩ := steps_hung.tail (.outside _ (.swept rfl))

end Sample

/-- The layout of a daemon that swept its only module. -/
theorem layout_keeps_bindings_stripped :
    Sample.poster.state = .new (.new (.parse "$door") .default) ∧
    Whole.Recalls Sample.housekeeping ⟨⟨Sample.stripped, none, []⟩, [], []⟩ :=
  ⟨rfl, Whole.layout_keeps_bindings
    (show Sample.poster.state = .new (.new (.parse "$door") .default) from rfl)
    Sample.steps_stripped⟩

/-- A layout may lead to a variable that is gone: once the only module left, the name of its
variable still leads to the number that the variable had. -/
theorem bound_though_gone :
    ¬∀ (rules : Permit) (world : World) (text : String) (settings : Settings) (whole : Whole),
      world.state = .new (.new (.parse text) settings) →
      Whole.Steps rules ⟨⟨world, none, []⟩, [], []⟩ whole →
      ∀ name id, whole.world.registry.layout.bound? name = some id →
        ∃ variable_, whole.world.registry.directory.get? id = some variable_ ∧
          variable_.name = name := by
  intro hleads
  have hbound : Sample.stripped.registry.layout.bound? "door" = some ⟨1⟩ := rfl
  have hgone : Sample.stripped.registry.directory.get? ⟨1⟩ = none := rfl
  obtain ⟨variable_, hget, _⟩ := hleads Sample.housekeeping Sample.poster "$door" .default
    ⟨⟨Sample.stripped, none, []⟩, [], []⟩ rfl Sample.steps_stripped "door" ⟨1⟩ hbound
  have hnobody := hgone.symm.trans hget
  cases hnobody

end MetricsDaemon
