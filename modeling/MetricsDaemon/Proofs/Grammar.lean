import MetricsDaemon.Command
import MetricsDaemon.Proofs.Trimming

/-!
# Well-formed commands

A line is cut at spaces and colons from the left, at its last colon from the right, and
trimmed in between. What comes out is a command whose parts stay as they are when it is
written down and read again, and every command with such parts can be written down.
-/

namespace MetricsDaemon.Command

open Text (StartsBare EndsBare)

/-! ## Well-formedness -/

/-- An id that is read back: it is not empty, has no colon, and no white space in front. -/
def IsId (id : List Char) : Prop := id ≠ [] ∧ ':' ∉ id ∧ StartsBare id

/-- An argument that is read back: it is not empty and has no white space at either end. -/
def IsArg (arg : List Char) : Prop := arg ≠ [] ∧ StartsBare arg ∧ EndsBare arg

/-- A name with its argument that are read back: the name is not empty and has no space, and
nothing that ends the line is white space. -/
def IsTarget (name : List Char) (arg : Option (List Char)) : Prop :=
  name ≠ [] ∧ ' ' ∉ name ∧ (∀ a ∈ arg, IsArg a) ∧ (arg = none → EndsBare name)

/-- A command that is read back as it is written. -/
def IsWellFormed : Command → Prop
  | .subscribe id name arg _ => IsId id.toList ∧ IsTarget name.toList (arg.map String.toList)
  | .bye => True
  | .config id module_ key _ =>
      IsId id.toList ∧ (module_ ≠ "" ∧ ':' ∉ module_.toList) ∧ key ≠ ""

instance : DecidablePred IsId := fun _ => inferInstanceAs (Decidable (_ ∧ _))

instance : DecidablePred IsArg := fun _ => inferInstanceAs (Decidable (_ ∧ _))

instance (name : List Char) (arg : Option (List Char)) : Decidable (IsTarget name arg) :=
  inferInstanceAs (Decidable (_ ∧ _))

instance : DecidablePred IsWellFormed
  | .subscribe .. => inferInstanceAs (Decidable (_ ∧ _))
  | .bye => inferInstanceAs (Decidable True)
  | .config .. => inferInstanceAs (Decidable (_ ∧ _))

/-! ## What is read -/

variable {id name rest args line word : List Char} {arg : Option (List Char)} {once : Bool}
  {command : Command}

/-- How a name and its argument are written. -/
def target (name : List Char) (arg : Option (List Char)) : List Char :=
  name ++ (arg.map (' ' :: ·)).getD []

/-- How the words behind the first are read as a subscription. -/
theorem parseSubscribe_eq_ok_iff :
    parseSubscribe once args = .ok command ↔
      ∃ id rest, Text.dropLeading args = id ++ ':' :: rest ∧ ':' ∉ id ∧ id ≠ [] ∧
        (parseTarget rest).1 ≠ [] ∧
        command = .subscribe (String.ofList id) (String.ofList (parseTarget rest).1)
          (parseTarget rest).2 once := by
  unfold parseSubscribe
  constructor
  · intro hparse
    split at hparse
    · cases hparse
    · next id rest hcut =>
      obtain ⟨hsplit, hcolon⟩ := Text.cutFirst_eq_some hcut
      dsimp only at hparse
      split at hparse
      · cases hparse
      · next hsome =>
        rw [not_or] at hsome
        cases hparse
        exact ⟨id, rest, hsplit, hcolon, hsome.1, hsome.2, rfl⟩
  · rintro ⟨id, rest, hsplit, hcolon, hid, hname, rfl⟩
    rw [hsplit, Text.cutFirst_append rest hcolon]
    exact if_neg (not_or.mpr ⟨hid, hname⟩)

/-- How the words behind the first are read as a question for a configuration value. -/
theorem parseConfig_eq_ok_iff :
    parseConfig args = .ok command ↔
      ∃ id module_ key digit type_,
        Text.strip args = id ++ ':' :: (module_ ++ ':' :: (key ++ ':' :: digit)) ∧
        ':' ∉ id ∧ ':' ∉ module_ ∧ ':' ∉ digit ∧ id ≠ [] ∧ module_ ≠ [] ∧ key ≠ [] ∧
        ConfigType.parse digit = .ok type_ ∧
        command = .config (String.ofList id) (String.ofList module_) (String.ofList key) type_ := by
  constructor
  · intro hparse
    unfold parseConfig at hparse
    split at hparse
    · cases hparse
    · next id module_ key digit hsplit =>
      cases htype : ConfigType.parse digit with
      | error error =>
        rw [htype] at hparse
        cases hparse
      | ok type_ =>
        rw [htype] at hparse
        cases hparse
        simp only [splitConfig, Option.bind_eq_bind, Option.bind_eq_some_iff] at hsplit
        obtain ⟨⟨front, rest⟩, hfront, ⟨middle, rest'⟩, hmiddle, ⟨back, last⟩, hback, hsplit⟩ :=
          hsplit
        dsimp only at hmiddle hback hsplit
        split at hsplit
        · cases hsplit
        · next hsome =>
          cases hsplit
          simp only [not_or] at hsome
          obtain ⟨hargs, hid⟩ := Text.cutFirst_eq_some hfront
          obtain ⟨hrest, hmodule⟩ := Text.cutFirst_eq_some hmiddle
          obtain ⟨hrest', hdigit⟩ := Text.cutLast_eq_some hback
          rw [hrest, hrest'] at hargs
          exact ⟨id, module_, key, digit, type_, hargs, hid, hmodule, hdigit, hsome.1, hsome.2.1,
            hsome.2.2, htype, rfl⟩
  · rintro ⟨id, module_, key, digit, type_, hargs, hid, hmodule, hdigit, hid', hmodule', hkey,
      htype, rfl⟩
    have hsplit : splitConfig args = some (id, module_, key, digit) := by
      simp [splitConfig, hargs, Text.cutFirst_append _ hid, Text.cutFirst_append _ hmodule,
        Text.cutLast_append hdigit, hid', hmodule', hkey]
    rw [parseConfig, hsplit]
    simp [htype, Except.map]

/-- What the end of a trimmed line is read as is a name with its argument that are read back. -/
theorem isTarget_parseTarget (hend : EndsBare rest) (hname : (parseTarget rest).1 ≠ []) :
    IsTarget (parseTarget rest).1 ((parseTarget rest).2.map String.toList) := by
  unfold parseTarget at hname ⊢
  cases hcut : Text.cutFirst ' ' rest with
  | some parts =>
    obtain ⟨name, raw⟩ := parts
    obtain ⟨rfl, hspace⟩ := Text.cutFirst_eq_some hcut
    simp only [hcut] at hname ⊢
    have hback : EndsBare (' ' :: raw) := hend.of_isSuffix (List.suffix_append name _)
    have harg : Text.strip raw ≠ [] := by
      intro hnil
      have hblank := Text.strip_eq_nil_iff.mp hnil
      have hall : ∀ c ∈ ' ' :: raw, Text.isBlank c = true :=
        List.forall_mem_cons.mpr ⟨by decide, hblank⟩
      cases hback.eq_nil hall
    simp only [parseArg, if_neg harg, Option.map_some, String.toList_ofList]
    refine ⟨hname, hspace, ?_, nofun⟩
    rintro arg ⟨⟩
    exact ⟨harg, Text.startsBare_strip raw, Text.endsBare_strip raw⟩
  | none =>
    simp only [hcut] at hname ⊢
    refine ⟨hname, ?_, nofun, fun _ => Text.endsBare_dropTrailing rest⟩
    exact fun hmem =>
      Text.cutFirst_eq_none_iff.mp hcut ((Text.dropTrailing_sublist rest).subset hmem)

/-- Whatever is parsed as a subscription is well-formed. -/
theorem isWellFormed_of_parseSubscribe (hend : EndsBare args)
    (hparse : parseSubscribe once args = .ok command) : command.IsWellFormed := by
  obtain ⟨id, rest, hsplit, hcolon, hid, hname, rfl⟩ := parseSubscribe_eq_ok_iff.mp hparse
  have hstart : StartsBare id :=
    (hsplit ▸ Text.startsBare_dropLeading args).of_isPrefix (List.prefix_append id _)
  have hrest : EndsBare rest := by
    refine hend.of_isSuffix (((List.suffix_cons ':' rest).trans ?_).trans
      (List.dropWhile_suffix Text.isBlank))
    exact ⟨id, hsplit.symm⟩
  simp only [IsWellFormed, String.toList_ofList]
  exact ⟨⟨hid, hcolon, hstart⟩, isTarget_parseTarget hrest hname⟩

/-- Whatever is parsed as a question for a setting is well-formed. -/
theorem isWellFormed_of_parseConfig (hparse : parseConfig args = .ok command) :
    command.IsWellFormed := by
  obtain ⟨id, module_, key, digit, type_, hargs, hid, hmodule, -, hid', hmodule', hkey, -, rfl⟩ :=
    parseConfig_eq_ok_iff.mp hparse
  have hstart : StartsBare id :=
    (hargs ▸ Text.startsBare_strip args).of_isPrefix (List.prefix_append id _)
  simp only [IsWellFormed, String.toList_ofList, ne_eq, String.ofList_eq_empty_iff]
  exact ⟨⟨hid', hid, hstart⟩, ⟨hmodule', hmodule⟩, hkey⟩

/-- Whatever is parsed from a first word and its arguments is well-formed. -/
theorem isWellFormed_of_parseWords {args : Option (List Char)} (hend : ∀ a ∈ args, EndsBare a)
    (hparse : parseWords word args = .ok command) : command.IsWellFormed := by
  unfold parseWords at hparse
  split at hparse
  · split at hparse
    · cases hparse
    · exact isWellFormed_of_parseSubscribe (hend _ rfl) hparse
  · split at hparse
    · cases hparse
      trivial
    · split at hparse
      · split at hparse
        · cases hparse
        · exact isWellFormed_of_parseConfig hparse
      · cases hparse

/-- What a trimmed line is read as is well-formed. -/
theorem isWellFormed_of_parse {line : String}
    (hparse : parse (Text.trimEnd line) = .ok command) : command.IsWellFormed := by
  rw [parse, Text.trimEnd, String.toList_ofList] at hparse
  have hend := Text.endsBare_dropTrailing line.toList
  split at hparse
  · next word args hcut =>
    obtain ⟨hsplit, -⟩ := Text.cutFirst_eq_some hcut
    refine isWellFormed_of_parseWords ?_ hparse
    rintro _ ⟨⟩
    rw [hsplit] at hend
    exact hend.of_isSuffix ((List.suffix_cons ' ' args).trans (List.suffix_append word _))
  · exact isWellFormed_of_parseWords (by simp) hparse

/-! ## What is written -/

/-- A name and its argument are read as they are written. -/
theorem parseTarget_target (htarget : IsTarget name arg) :
    parseTarget (target name arg) = (name, arg.map String.ofList) := by
  obtain ⟨-, hspace, harg, hname⟩ := htarget
  cases arg with
  | some arg =>
    obtain ⟨hsome, hstart, hend⟩ := harg arg rfl
    rw [target, Option.map_some, Option.getD_some, parseTarget, Text.cutFirst_append arg hspace]
    simp [parseArg, Text.strip_eq_self hstart hend, hsome]
  | none =>
    rw [target, Option.map_none, Option.getD_none, List.append_nil, parseTarget,
      Text.cutFirst_eq_none_iff.mpr hspace]
    simp [Text.dropTrailing_eq_self_iff.mpr (hname rfl)]

/-- An id and a target, joined by a colon, are parsed as a subscription to them. -/
theorem parseSubscribe_target (hid : IsId id) (htarget : IsTarget name arg) :
    parseSubscribe once (id ++ ':' :: target name arg) =
      .ok (.subscribe (String.ofList id) (String.ofList name) (arg.map String.ofList) once) := by
  obtain ⟨hsome, hcolon, hstart⟩ := hid
  have hargs : Text.dropLeading (id ++ ':' :: target name arg) = id ++ ':' :: target name arg :=
    Text.dropLeading_eq_self_iff.mpr ((Text.startsBare_append hsome).mpr hstart)
  refine parseSubscribe_eq_ok_iff.mpr ⟨id, target name arg, hargs, hcolon, hsome, ?_, ?_⟩
  · rw [parseTarget_target htarget]
    exact htarget.1
  · rw [parseTarget_target htarget]

/-- The four parts of a question for a setting, joined by colons, are parsed as that question. -/
theorem parseConfig_text {module_ key : List Char} (hid : IsId id)
    (hmodule : module_ ≠ [] ∧ ':' ∉ module_) (hkey : key ≠ []) (type_ : ConfigType) :
    parseConfig (id ++ ':' :: (module_ ++ ':' :: (key ++ ':' :: [type_.digit]))) =
      .ok (.config (String.ofList id) (String.ofList module_) (String.ofList key) type_) := by
  obtain ⟨hsome, hcolon, hstart⟩ := hid
  have hdigit : ':' ∉ [type_.digit] ∧ EndsBare [type_.digit] ∧
      ConfigType.parse [type_.digit] = .ok type_ := by
    cases type_ <;> decide
  refine parseConfig_eq_ok_iff.mpr ⟨id, module_, key, [type_.digit], type_,
    Text.strip_eq_self ?_ ?_, hcolon, hmodule.2, hdigit.1, hsome, hmodule.1, hkey, hdigit.2.2, rfl⟩
  · exact (Text.startsBare_append hsome).mpr hstart
  · have hfront : id ++ ':' :: (module_ ++ ':' :: (key ++ ':' :: [type_.digit])) =
        (id ++ ':' :: (module_ ++ ':' :: (key ++ [':']))) ++ [type_.digit] := by simp
    rw [hfront, Text.endsBare_append (by simp)]
    exact hdigit.2.1

/-- The first word of a subscription. -/
def subscribeWord (once : Bool) : List Char :=
  if once then ['v', 'a', 'r', 'o', 'n', 'c', 'e'] else ['v', 'a', 'r']

/-- The first word of a subscription leads to the parser of subscriptions. -/
theorem parseWords_subscribeWord (once : Bool) (args : List Char) :
    parseWords (subscribeWord once) (some args) = parseSubscribe once args := by
  cases once <;> rfl

/-- A subscription is written as its first word, its id and its target. -/
theorem toList_render_subscribe (id name : String) (arg : Option String) (once : Bool) :
    (render (.subscribe id name arg once)).toList =
      subscribeWord once ++ ' ' ::
        (id.toList ++ ':' :: target name.toList (arg.map String.toList)) := by
  cases once <;> cases arg <;> simp [render, target, subscribeWord]

/-- A question for a setting is written as its first word and its four parts. -/
theorem toList_render_config (id module_ key : String) (type_ : ConfigType) :
    (render (.config id module_ key type_)).toList =
      ['c', 'f', 'g'] ++ ' ' ::
        (id.toList ++ ':' :: (module_.toList ++ ':' :: (key.toList ++ ':' :: [type_.digit]))) := by
  simp [render]

/-- A well-formed command is read as it is written. -/
theorem parse_render (hwell : command.IsWellFormed) : parse command.render = .ok command := by
  cases command with
  | subscribe id name arg once =>
    obtain ⟨hid, htarget⟩ := hwell
    have hword : ' ' ∉ subscribeWord once := by cases once <;> decide
    rw [parse, toList_render_subscribe, Text.cutFirst_append _ hword]
    dsimp only
    rw [parseWords_subscribeWord, parseSubscribe_target hid htarget]
    simp [Function.comp_def]
  | bye => rfl
  | config id module_ key type_ =>
    obtain ⟨hid, ⟨hmodule, hcolon⟩, hkey⟩ := hwell
    rw [parse, toList_render_config, Text.cutFirst_append _ (by decide)]
    change parseConfig _ = _
    rw [parseConfig_text hid ⟨by simpa using hmodule, hcolon⟩ (by simpa using hkey)]
    simp

/-- The reader undoes the syntax: a well-formed command is read as it is written, and what is read
from a trimmed line is well-formed, so it is read again when it is written. -/
theorem parse_inverts_render :
    (∀ command : Command, command.IsWellFormed → parse command.render = .ok command) ∧
    ∀ (line : String) (command : Command), parse (Text.trimEnd line) = .ok command →
      command.IsWellFormed ∧ parse command.render = .ok command := by
  refine ⟨fun command hwell => parse_render hwell, fun line command hparse => ?_⟩
  have hwell := isWellFormed_of_parse hparse
  exact ⟨hwell, parse_render hwell⟩

/-- Colons belong to the key, and blanks around an argument to nothing. -/
theorem parse_inverts_render_padded :
    (IsWellFormed (.config "7" "sys" "disk: sda" .int) ∧
      parse (render (.config "7" "sys" "disk: sda" .int)) =
        .ok (.config "7" "sys" "disk: sda" .int)) ∧
    (parse (Text.trimEnd "varonce \t7:load\t  a: b \t") =
        .ok (.subscribe "7" "load\t" (some "a: b") true) ∧
      IsWellFormed (.subscribe "7" "load\t" (some "a: b") true) ∧
      parse (render (.subscribe "7" "load\t" (some "a: b") true)) =
        .ok (.subscribe "7" "load\t" (some "a: b") true)) := by
  have hwell : IsWellFormed (.config "7" "sys" "disk: sda" .int) := by decide
  have hparse : parse (Text.trimEnd "varonce \t7:load\t  a: b \t") =
      .ok (.subscribe "7" "load\t" (some "a: b") true) := by decide
  exact ⟨⟨hwell, parse_inverts_render.1 _ hwell⟩, hparse, parse_inverts_render.2 _ _ hparse⟩

end MetricsDaemon.Command
