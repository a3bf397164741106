import Mathlib.Data.List.Basic
import Mathlib.Data.List.Nodup
import MetricsDaemon.Registry.Install
import MetricsDaemon.Session
import MetricsDaemon.Settings.Reader

/-!
# The order of the sections

A question names a section in any case, and the first section that bears the name decides.
In which order the sections are walked is left open. So an answer is settled exactly if all
sections of the name would give the same answer, each on its own: it is if no two names differ
only in case, and otherwise it need not be.
-/

namespace MetricsDaemon

namespace Settings

variable {α : Type} {settings other : Settings} {section_ key : String} {ask : Settings → α}
  {entry : String × Json} {order : List (String × Json)}

/-! ## Questions and orders -/

/-- The settings with these sections, in this order. -/
def withOrder (settings : Settings) (order : List (String × Json)) : Settings :=
  { settings with sections := ⟨order⟩ }

/-- Whether a section bears a name, in any case. -/
def Bears (section_ : String) (entry : String × Json) : Prop :=
  Text.lowercaseAscii entry.1 = Text.lowercaseAscii section_

/-- The answer to a question is the same whatever the order of the sections is. -/
def Steady (settings : Settings) (ask : Settings → α) : Prop :=
  ∀ order : List (String × Json), order.Perm settings.sections.entries →
    ask (settings.withOrder order) = ask settings

/-- All sections of a name would give the same answer to a question, each on its own. -/
def Unanimous (settings : Settings) (section_ : String) (ask : Settings → α) : Prop :=
  ∀ first ∈ settings.sections.entries, ∀ second ∈ settings.sections.entries,
    Bears section_ first → Bears section_ second →
      ask (settings.withOrder [first]) = ask (settings.withOrder [second])

/-- The question is one for an entry of a section: the answer depends on what is found there
alone. -/
def AsksFor (section_ key : String) (ask : Settings → α) : Prop :=
  ∀ settings other : Settings, settings.lookup section_ key = other.lookup section_ key →
    ask settings = ask other

/-- The section that decides. -/
def deciding? (settings : Settings) (section_ : String) : Option (String × Json) :=
  settings.sections.entries.find? fun entry =>
    Text.lowercaseAscii entry.1 == Text.lowercaseAscii section_

/-- The section that decides is one of the settings and bears the name. -/
theorem deciding?_eq_some (hfind : settings.deciding? section_ = some entry) :
    entry ∈ settings.sections.entries ∧ Bears section_ entry := by
  have hbears := List.find?_some hfind
  exact ⟨List.mem_of_find?_eq_some hfind, beq_iff_eq.mp hbears⟩

/-- No section decides exactly when none bears the name. -/
theorem deciding?_eq_none_iff :
    settings.deciding? section_ = none ↔
      ∀ entry ∈ settings.sections.entries, ¬Bears section_ entry := by
  simp [deciding?, List.find?_eq_none, Bears]

/-- A section that bears the name decides when it comes first. -/
theorem deciding?_cons (hbears : Bears section_ entry) (rest : List (String × Json)) :
    (settings.withOrder (entry :: rest)).deciding? section_ = some entry :=
  List.find?_cons_of_pos (beq_iff_eq.mpr hbears)

/-- Only the section that decides matters. -/
theorem lookup_congr (hsame : settings.deciding? section_ = other.deciding? section_) :
    settings.lookup section_ key = other.lookup section_ key := by
  unfold lookup
  rw [← deciding?, ← deciding?, hsame]

/-- Settings in which the same section decides give a question the same answer. -/
theorem AsksFor.congr (hasks : AsksFor section_ key ask)
    (hsame : settings.deciding? section_ = other.deciding? section_) : ask settings = ask other :=
  hasks settings other (lookup_congr hsame)

/-- The answer is that of the section that decides. -/
theorem AsksFor.eq_of_deciding? (hasks : AsksFor section_ key ask)
    (hfind : settings.deciding? section_ = some entry) :
    ask settings = ask (other.withOrder [entry]) :=
  hasks.congr (hfind.trans (deciding?_cons (deciding?_eq_some hfind).2 []).symm)

/-- Whichever section bears the name can come to decide. -/
theorem Steady.eq_of_bears (hsteady : settings.Steady ask) (hasks : AsksFor section_ key ask)
    (hmem : entry ∈ settings.sections.entries) (hbears : Bears section_ entry) :
    ask (settings.withOrder [entry]) = ask settings := by
  obtain ⟨before, after, hsplit⟩ := List.append_of_mem hmem
  have hfirst : (entry :: (before ++ after)).Perm settings.sections.entries :=
    hsplit ▸ List.perm_middle.symm
  rw [← hsteady _ hfirst]
  exact (hasks.eq_of_deciding? (deciding?_cons hbears _)).symm

/-- An answer does not depend on the order exactly if all sections of the name agree on it. -/
theorem AsksFor.steady_iff (hasks : AsksFor section_ key ask) :
    settings.Steady ask ↔ settings.Unanimous section_ ask := by
  constructor
  · intro hsteady first hfirst second hsecond hbears hbears'
    rw [hsteady.eq_of_bears hasks hfirst hbears, hsteady.eq_of_bears hasks hsecond hbears']
  · intro hall order hperm
    cases hfind : settings.deciding? section_ with
    | none =>
      refine hasks.congr ((deciding?_eq_none_iff.mpr fun entry hmem => ?_).trans hfind.symm)
      exact deciding?_eq_none_iff.mp hfind entry (hperm.subset hmem)
    | some second =>
      obtain ⟨hsecond, hbears'⟩ := deciding?_eq_some hfind
      cases hother : (settings.withOrder order).deciding? section_ with
      | none =>
        have hunborne := deciding?_eq_none_iff.mp hother second (hperm.symm.subset hsecond)
        exact absurd hbears' hunborne
      | some first =>
        obtain ⟨hfirst, hbears⟩ := deciding?_eq_some hother
        rw [hasks.eq_of_deciding? hother, hasks.eq_of_deciding? hfind]
        exact hall first (hperm.subset hfirst) second hsecond hbears hbears'

/-! ## The questions -/

/-- Asking for a text is a question for an entry of a section. -/
theorem asksFor_getString (section_ key fallback : String) :
    AsksFor section_ key (·.getString section_ key fallback) := by
  intro settings other hlookup
  simp only [getString, hlookup]

/-- Asking for a whole number is a question for an entry of a section. -/
theorem asksFor_getInt (section_ key : String) (fallback : Int) :
    AsksFor section_ key (·.getInt section_ key fallback) := by
  intro settings other hlookup
  simp only [getInt, hlookup]

/-- Asking for a number is a question for an entry of a section. -/
theorem asksFor_getDouble (section_ key : String) (fallback : Number.Binary) :
    AsksFor section_ key (·.getDouble section_ key fallback) := by
  intro settings other hlookup
  simp only [getDouble, hlookup]

/-- Asking for a truth value is a question for an entry of a section. -/
theorem asksFor_getBool (section_ key : String) (fallback : Bool) :
    AsksFor section_ key (·.getBool section_ key fallback) := by
  intro settings other hlookup
  simp only [getBool, hlookup]

/-- What a client asks about the settings is a question for an entry of a section. -/
theorem asksFor_configReply (section_ key : String) (type_ : ConfigType) :
    AsksFor section_ key (configReply · section_ key type_) := by
  intro settings other hlookup
  cases type_ with
  | string => simp only [configReply, asksFor_getString _ _ _ settings other hlookup]
  | int => simp only [configReply, asksFor_getInt _ _ _ settings other hlookup]
  | double => simp only [configReply, asksFor_getDouble _ _ _ settings other hlookup]
  | bool => simp only [configReply, asksFor_getBool _ _ _ settings other hlookup]

/-- The timeout of an offer is a question for an entry of the section of overrides. -/
theorem asksFor_timeoutFor (offer : Offer) :
    AsksFor overridesSection offer.name (·.timeoutFor offer) := by
  intro settings other hlookup
  simp only [timeoutFor, asksFor_getInt _ _ _ settings other hlookup]

end Settings

/-! ## Installing -/

namespace Registry

variable {registry : Registry} {prepared : Prepared} {settings : Settings}

/-- An installation asks the settings for the timeouts of the offers alone. -/
theorem beginInstall_congr (hsame : ∀ offer ∈ prepared.offers,
      settings.timeoutFor offer = registry.settings.timeoutFor offer) (id : ModuleId) :
    ({ registry with settings := settings } : Registry).beginInstall prepared id =
      registry.beginInstall prepared id := by
  unfold beginInstall
  refine List.foldl_ext _ _ _ fun installation offer hmem => ?_
  simp only [Installation.register, hsame offer hmem]

/-- An installation depends on the settings only through the timeouts of what is offered. -/
theorem install_congr (hsame : ∀ offer ∈ prepared.offers,
      settings.timeoutFor offer = registry.settings.timeoutFor offer) :
    ({ registry with settings := settings } : Registry).install prepared =
      ({ (registry.install prepared).1 with settings := settings },
        (registry.install prepared).2) := by
  have hloaded : ({ registry with settings := settings } : Registry).isLoaded prepared.unit.name =
      registry.isLoaded prepared.unit.name := rfl
  simp only [install, beginInstall_congr hsame, hloaded]
  split
  · rfl
  · split <;> rfl

end Registry

/-! ## What is settled -/

namespace Settings

variable {α : Type} {settings : Settings} {section_ : String} {ask : Settings → α}

/-- No two names of sections differ only in the case of ASCII letters. -/
def NamesApart (settings : Settings) : Prop :=
  (settings.sections.keys.map Text.lowercaseAscii).Nodup

/-- Where the names of sections are apart in every case, the sections of a name are unanimous about
every question. -/
theorem NamesApart.unanimous (hapart : settings.NamesApart) : settings.Unanimous section_ ask := by
  intro first hfirst second hsecond hbears hbears'
  rw [NamesApart, Table.keys, List.map_map] at hapart
  rw [List.inj_on_of_nodup_map hapart hfirst hsecond (hbears.trans hbears'.symm)]

/-- What the order of the sections can change, and what it cannot. -/
structure Steadiness (settings : Settings) : Prop where
  string : ∀ section_ key fallback, settings.Steady (·.getString section_ key fallback) ↔
    settings.Unanimous section_ (·.getString section_ key fallback)
  int : ∀ section_ key fallback, settings.Steady (·.getInt section_ key fallback) ↔
    settings.Unanimous section_ (·.getInt section_ key fallback)
  double : ∀ section_ key fallback, settings.Steady (·.getDouble section_ key fallback) ↔
    settings.Unanimous section_ (·.getDouble section_ key fallback)
  bool : ∀ section_ key fallback, settings.Steady (·.getBool section_ key fallback) ↔
    settings.Unanimous section_ (·.getBool section_ key fallback)
  /-- What a client is told. -/
  reply : ∀ section_ key type_, settings.Steady (configReply · section_ key type_) ↔
    settings.Unanimous section_ (configReply · section_ key type_)
  timeout : ∀ offer, settings.Steady (·.timeoutFor offer) ↔
    settings.Unanimous overridesSection (·.timeoutFor offer)
  /-- A module whose timeouts are settled is installed alike. -/
  installs : ∀ (registry : Registry) (prepared : Prepared) (order : List (String × Json)),
    registry.settings = settings → order.Perm settings.sections.entries →
    (∀ offer ∈ prepared.offers, settings.Unanimous overridesSection (·.timeoutFor offer)) →
      ({ registry with settings := settings.withOrder order } : Registry).install prepared =
        ({ (registry.install prepared).1 with settings := settings.withOrder order },
          (registry.install prepared).2)
  /-- Of names that differ in more than their case, only one section can decide. -/
  apart : settings.NamesApart → ∀ {α : Type} (section_ : String) (ask : Settings → α),
    settings.Unanimous section_ ask

/-- An answer is the same for every order of the sections exactly if all sections of the name would
give it; it always is if no two names differ only in case. -/
theorem steady_iff_sections_agree (settings : Settings) : settings.Steadiness where
  string section_ key fallback := (asksFor_getString section_ key fallback).steady_iff
  int section_ key fallback := (asksFor_getInt section_ key fallback).steady_iff
  double section_ key fallback := (asksFor_getDouble section_ key fallback).steady_iff
  bool section_ key fallback := (asksFor_getBool section_ key fallback).steady_iff
  reply section_ key type_ := (asksFor_configReply section_ key type_).steady_iff
  timeout offer := (asksFor_timeoutFor offer).steady_iff
  installs := by
    rintro registry prepared order rfl hperm hall
    refine Registry.install_congr fun offer hmem => ?_
    exact (asksFor_timeoutFor offer).steady_iff.mpr (hall offer hmem) order hperm
  apart hapart _ _ _ := hapart.unanimous

/-- An answer can depend on the order: of a number and an object with one name in two cases, the
first decides. -/
theorem getInt_depends_on_order :
    ¬∀ (text : String) (settings : Settings), parse? text = some settings →
      ∀ section_ key fallback, settings.Steady (·.getInt section_ key fallback) := by
  intro hsteady
  have hanswers : (parse? "\x7b\"MPD\":0,\"mpd\":\x7b\"port\":6600\x7d\x7d").map (fun settings =>
      (settings.getInt "mpd" "port" 1,
        (settings.withOrder settings.sections.entries.reverse).getInt "mpd" "port" 1)) =
      some (1, 6600) := by decide +kernel
  obtain ⟨settings, hparse, hboth⟩ := Option.map_eq_some_iff.mp hanswers
  obtain ⟨hfirst, hlast⟩ := Prod.mk.inj hboth
  have hsame : (settings.withOrder settings.sections.entries.reverse).getInt "mpd" "port" 1 =
      settings.getInt "mpd" "port" 1 :=
    hsteady _ settings hparse "mpd" "port" 1 _ (List.reverse_perm _)
  rw [hfirst, hlast] at hsame
  exact absurd hsame (by decide)

end Settings

end MetricsDaemon
