import MetricsDaemon.Proofs.InFlight
import MetricsDaemon.Proofs.Replies
import MetricsDaemon.Proofs.Sharing

/-!
# Lines that carry values

A line for a subscription is the id that the client gave, the number of the variable's
type, and the value, with a colon between each two. Neither the id nor the number has a
colon in it, so the first two colons tell the parts apart, whatever the value is; and the
value has no line feed any more.
-/

namespace MetricsDaemon

open Relation (ReflTransGen)

/-! ## One line -/

namespace Text

variable {first second third : List Char}

/-- The parts of a text before its first colon, from there to the second, and behind that. -/
def fields (text : List Char) : Option (List Char × List Char × List Char) :=
  (cutFirst ':' text).bind fun front =>
    (cutFirst ':' front.2).map fun back => (front.1, back.1, back.2)

/-- Three parts that are joined by colons are found again, when neither of the first two holds a
colon. -/
theorem fields_append (hfirst : ':' ∉ first) (hsecond : ':' ∉ second) :
    fields (first ++ ':' :: (second ++ ':' :: third)) = some (first, second, third) := by
  rw [fields, cutFirst_append _ hfirst, Option.bind_some, cutFirst_append _ hsecond]
  rfl

end Text

namespace Number

/-- No two numbers have the same digits. -/
theorem natDigits_injective : Function.Injective natDigits := by
  intro m n hdigits
  have hvalues := congrArg (fun digits => Nat.ofDigitChars 10 digits 0) hdigits
  simpa only [natDigits, Nat.ofDigitChars_ten_toDigits] using hvalues

/-- Numbers are shown as the library shows them. -/
theorem showNat_eq_repr (n : Nat) : showNat n = n.repr := Nat.repr_eq_ofList_toDigits.symm

end Number

/-- No two types have the same bits. -/
theorem TypeTag.bits_injective : Function.Injective TypeTag.bits := by
  intro first second hbits
  rw [← ofBits_bits first, hbits, ofBits_bits]

namespace Value

/-- How a value is spelled on the wire: a text letter by letter, with a space for each carriage
return and each line feed, and a level in decimal digits. -/
def IsSpelled : Value → List Char → Prop
  | .text s, letters =>
      List.Forall₂ (fun c d => d = if c = '\r' ∨ c = '\n' then ' ' else c) s.toList letters
  | .level n, letters => letters = n.toNat.repr.toList

/-- The wire form of a value is how the value is spelled on the wire. -/
theorem isSpelled_wire (value : Value) : value.IsSpelled value.wire.toList := by
  cases value with
  | text s =>
    rw [wire, String.toList_ofList, IsSpelled, List.forall₂_map_right_iff, List.forall₂_same]
    exact fun c _ => rfl
  | level n => rw [wire, Number.showNat_eq_repr, IsSpelled]

/-- The wire form of a value holds no line feed. -/
theorem not_mem_wire (value : Value) : '\n' ∉ value.wire.toList := by
  cases value with
  | text s =>
    rw [wire, String.toList_ofList]
    intro hmem
    obtain ⟨c, _, hflat⟩ := List.mem_map.mp hmem
    unfold flattenChar at hflat
    split at hflat
    · cases hflat
    · next hplain => exact hplain (.inr hflat)
  | level n =>
    rw [wire, Number.showNat, String.toList_ofList]
    exact Number.not_mem_natDigits rfl

end Value

/-- How the reader of a line takes it apart: it ends in a line end, has no other line feed, and is
cut at its first two colons. -/
def Carries (line id : String) (type : TypeTag) (value : Value) : Prop :=
  ∃ body : String, '\n' ∉ body.toList ∧ line = body ++ lineEnd ∧
    Text.fields body.toList = some (id.toList, type.bits.repr.toList, value.wire.toList)

variable {line id other : String} {type type' : TypeTag} {value value' : Value}

/-- A pushed line carries its id, its type and its value to whoever reads it. -/
theorem carries_pushLine (hcolon : ':' ∉ id.toList) (hfeed : '\n' ∉ id.toList) (type : TypeTag)
    (value : Value) : Carries (pushLine id type value) id type value := by
  have hdigits {c : Char} (hc : c.isDigit = false) : c ∉ Nat.toDigits 10 type.bits :=
    Number.not_mem_natDigits hc
  have hbody : (id ++ ":" ++ Number.showNat type.bits ++ ":" ++ value.wire).toList =
      id.toList ++ ':' :: (Nat.toDigits 10 type.bits ++ ':' :: value.wire.toList) := by
    simp [Number.showNat, Number.natDigits]
  refine ⟨_, ?_, rfl, ?_⟩
  · rw [hbody]
    simp [hfeed, hdigits, value.not_mem_wire]
  · rw [hbody, Nat.toList_repr]
    exact Text.fields_append hcolon (hdigits rfl)

/-- One line is not read in two ways. -/
theorem Carries.unique (hline : Carries line id type value)
    (hother : Carries line other type' value') :
    id = other ∧ type = type' ∧ value.wire = value'.wire := by
  obtain ⟨body, _, hbody, hfields⟩ := hline
  obtain ⟨body', _, hbody', hfields'⟩ := hother
  have hsame : body = body' := by
    rw [hbody, ← String.toList_inj, String.toList_append, String.toList_append,
      List.append_left_inj, String.toList_inj] at hbody'
    exact hbody'
  rw [← hsame, hfields, Option.some.injEq, Prod.mk.injEq, Prod.mk.injEq, Nat.toList_repr,
    Nat.toList_repr] at hfields'
  obtain ⟨hid, hbits, hwire⟩ := hfields'
  exact ⟨String.toList_inj.mp hid, TypeTag.bits_injective (Number.natDigits_injective hbits),
    String.toList_inj.mp hwire⟩

/-! ## What a client asks for -/

/-- A client asks for it in a line of the bytes that it sends. -/
def Request.IsSent (request : Request) : Prop :=
  ∃ (session : Session) (chunks : List (List UInt8)) (line : String),
    line ∈ LineSplitter.start.linesOf chunks ∧ (session.judge line).2 = .subscribe request

/-- A line that a session takes for a request was parsed as the subscription to it. -/
theorem Session.parse_of_judge {session : Session} {request : Request}
    (hjudge : (session.judge line).2 = .subscribe request) :
    Command.parse (Text.trimEnd line) =
      .ok (.subscribe request.clientId request.name request.arg request.once) := by
  have hjudged := session.judged_judge line
  rw [hjudge] at hjudged
  cases hjudged with
  | asked hparse hquoted => exact hparse

/-- The id that a client sends holds neither a colon nor a line feed. -/
theorem Request.IsSent.not_mem {request : Request} (hsent : request.IsSent) :
    ':' ∉ request.clientId.toList ∧ '\n' ∉ request.clientId.toList := by
  obtain ⟨session, chunks, line, hline, hjudge⟩ := hsent
  exact Command.not_mem_of_linesOf hline (Session.parse_of_judge hjudge) rfl

/-- A new subscription has the id that its request gave. -/
theorem State.clientId_subscribe {state : State} {request : Request} {id : SubscriptionId}
    {subscription : Subscription} (hok : (state.subscribe request).2 = .ok id)
    (hget : (state.subscribe request).1.subscriptions.get? id = some subscription) :
    subscription.interest.clientId = request.clientId := by
  obtain ⟨variable_, unit, _, rfl, hadded⟩ := subscribe_ok hok
  rw [hadded, addSubscription_fst, subscriptions_bindMethod] at hget
  dsimp only at hget
  rw [Subscriptions.get?_insert, if_pos rfl] at hget
  cases hget
  rfl

/-! ## Every line -/

namespace Whole

variable {rules : Permit} {whole after : Whole} {slot : Nat} {request : Request}
  {id : SubscriptionId} {subscription : Subscription} {completion : Completion}

/-- The subscription that a load ended in has the id that the client gave. -/
theorem Reachable.clientId_of_grants (hreach : Reachable rules whole)
    (hgrants : whole.Grants slot request id)
    (hget : whole.world.state.subscriptions.get? id = some subscription) :
    subscription.interest.clientId = request.clientId := by
  induction hreach generalizing subscription with
  | start world layout settings hstate => cases hgrants
  | @step whole after hreach hstep ih =>
    rcases hstep.grants_cases hgrants with hold | ⟨phase, _, hgoing, hreached, rfl⟩
    · have hle := hreach.granted.numbered hold
      obtain ⟨earlier, hearlier, hinterest⟩ := (hreach.toRun.succeeds hstep.runs).same hget hle
      rw [hinterest]
      exact ih hold hearlier
    · obtain ⟨middle, _, hok, hafter⟩ :=
        (whole.world.loadStep_stepLoad request phase).subscribes rules.forces hgoing hreached
      have hworld : (whole.proceed slot request phase).world.state =
          (whole.world.stepLoad request phase).1.state := rfl
      rw [hworld, hafter] at hget
      exact State.clientId_subscribe hok hget

/-- Every tick that was applied met the state of a moment in the past. -/
theorem Reachable.exists_met (hreach : Reachable rules whole)
    (hmem : completion ∈ whole.run.history) :
    ∃ earlier, Reachable rules earlier ∧ Steps rules earlier whole ∧
      earlier.world.state = completion.met := by
  induction hreach with
  | start world layout settings hstate => cases hmem
  | @step whole after hreach hstep ih =>
    have hpast (hold : completion ∈ whole.run.history) :
        ∃ earlier, Reachable rules earlier ∧ Steps rules earlier after ∧
          earlier.world.state = completion.met := by
      obtain ⟨earlier, hearlier, hsteps, hmet⟩ := ih hold
      exact ⟨earlier, hearlier, hsteps.tail hstep, hmet⟩
    cases hstep with
    | @apply flight hflight hdone =>
      rcases List.mem_cons.mp hmem with rfl | hold
      · exact ⟨whole, hreach, .single (.apply hflight hdone), rfl⟩
      · exact hpast hold
    | _ => exact hpast hmem

/-- The last number of a subscription that was given out never goes back. -/
theorem Reachable.lastId_le (hreach : Reachable rules whole) (hsteps : Steps rules whole after) :
    whole.world.state.subscriptions.lastId ≤ after.world.state.subscriptions.lastId := by
  induction hsteps with
  | refl => exact Nat.le_refl _
  | tail hsteps hstep ih =>
    exact Nat.le_trans ih ((hreach.steps hsteps).toRun.succeeds hstep.runs).last

/-- A load that has ended well had done so before, or its subscription has a later number than all
that were made before. -/
theorem Reachable.grants_or_lt (hreach : Reachable rules whole) (hsteps : Steps rules whole after)
    (hgrants : after.Grants slot request id) :
    whole.Grants slot request id ∨ whole.world.state.subscriptions.lastId < id.number := by
  induction hsteps with
  | refl => exact .inl hgrants
  | @tail middle after hsteps hstep ih =>
    rcases hstep.grants_cases hgrants with hold | ⟨phase, _, hgoing, hreached, _⟩
    · exact ih hold
    · have hmiddle := hreach.steps hsteps
      have hfresh := ((middle.world.loadStep_stepLoad request phase).granted hmiddle.sound hgoing
        hreached).1
      exact .inr (Nat.lt_of_le_of_lt (hreach.lastId_le hsteps) hfresh)

/-- A line that a tick queued for the subscription of a load carries a value of that tick. -/
theorem Reachable.carries {push : Push} (hreach : Reachable rules whole) (hsent : request.IsSent)
    (hgrants : whole.Grants slot request push.subscription)
    (hmem : completion ∈ whole.run.history) (hpush : push ∈ completion.applied.pushes) :
    ∃ subscription variable_ call value,
      completion.met.subscriptions.get? push.subscription = some subscription ∧
      completion.flight.planned.directory.get? subscription.interest.variable_ = some variable_ ∧
      call ∈ completion.flight.calls ∧ call.value = some value ∧
      Carries push.line request.clientId variable_.type value := by
  obtain ⟨hmet, htracks, _⟩ := hreach.toRun.sound.history hmem
  obtain ⟨subscription, variable_, call, value, _, hget, _, _, hvariable, hcall, _, _, hvalue,
    hline⟩ := Completion.delivers_of_mem hmet htracks hpush
  obtain ⟨earlier, hearlier, hsteps, hstate⟩ := hreach.exists_met hmem
  have hclient : subscription.interest.clientId = request.clientId := by
    rw [← hstate] at hget
    rcases hearlier.grants_or_lt hsteps hgrants with hold | hlt
    · exact hearlier.clientId_of_grants hold hget
    · have hle := hearlier.sound.booked.table.le_lastId hget
      omega
  refine ⟨subscription, variable_, call, value, hget, hvariable, hcall, hvalue, ?_⟩
  rw [hline, hclient]
  exact carries_pushLine hsent.not_mem.1 hsent.not_mem.2 _ _

/-- Whatever bytes the client of a request sent: a line with its id, for a variable of any type with
any value, is taken apart into just these; the queues get the lines of the ticks and nothing else,
and every line that a tick queues for the subscription of the request is one, with the type of the
variable and a value that its module gave in that tick; and no two lines are the same, for this
client or another, that differ in the id, the type, or the letters of the value. -/
theorem Reachable.pushed_line_decodes (hreach : Reachable rules whole) (hsent : request.IsSent) :
    (∀ type value, Carries (pushLine request.clientId type value) request.clientId type value ∧
      value.IsSpelled value.wire.toList) ∧
    (∀ completion ∈ whole.run.history, completion.Enqueues ∧
      ∀ slot push, whole.Grants slot request push.subscription →
        push ∈ completion.applied.pushes → ∃ subscription variable_ call value,
          completion.met.subscriptions.get? push.subscription = some subscription ∧
          completion.flight.planned.directory.get? subscription.interest.variable_ =
            some variable_ ∧
          call ∈ completion.flight.calls ∧ call.value = some value ∧
          Carries push.line request.clientId variable_.type value) ∧
    (∀ other : Request, other.IsSent → ∀ type value type' value',
      pushLine request.clientId type value = pushLine other.clientId type' value' →
        request.clientId = other.clientId ∧ type = type' ∧ value.wire = value'.wire) := by
  have hcarries {request : Request} (hsent : request.IsSent) (type : TypeTag) (value : Value) :
      Carries (pushLine request.clientId type value) request.clientId type value :=
    carries_pushLine hsent.not_mem.1 hsent.not_mem.2 type value
  refine ⟨fun type value => ⟨hcarries hsent type value, value.isSpelled_wire⟩,
    fun completion hmem => ⟨hreach.toRun.enqueues hmem,
      fun slot push hgrants hpush => hreach.carries hsent hgrants hmem hpush⟩, ?_⟩
  intro other hother type value type' value' hline
  have hfirst := hcarries hsent type value
  rw [hline] at hfirst
  exact hfirst.unique (hcarries hother type' value')

end Whole

namespace Sample

/-- A module whose value would read as a line of its own. -/
def porch : Provider :=
  Script.provider
    { name := "porch"
      offers := [Declared.variableOf "note" 0 0]
      methods := [("note", .none, .sequence [⟨[], some (.text "shut\r\nGOOD:1")⟩])]
      hook := none
      openPanics := false
      teardownPanics := false }

/-- What the client asks for in its bytes. -/
def inquiry : Request := ⟨⟨1⟩, "a", "note", none, false⟩

/-- The subscription of the inquiry was made. -/
def informed : Whole :=
  [0, 0].foldl turn
    ⟨⟨supply (empty.world.withState visited) porch, none, []⟩, [(inquiry, .asked)], []⟩

/-- The flight of the first tick, before its call. -/
def outing : Flight := ⟨informed.world.state, informed.world.host.now, []⟩

/-- The only job of the first tick. -/
def reading : Job :=
  { variable_ := ⟨1⟩
    type := .plain
    arg := none
    callable := ⟨⟨⟨1⟩, "porch", .scripted⟩, "note",
      Script.method .none (.sequence [⟨[], some (.text "shut\r\nGOOD:1")⟩])⟩ }

/-- The first tick was planned, and its job called. -/
def polled : Whole := Whole.call { informed with run := informed.run.takeOff } outing reading

/-- The first tick was applied. -/
def told : Whole :=
  { polled with run := polled.run.land (outing.answered informed.run.takeOff.world reading) }

/-- The first tick, as it was applied. -/
def telling : Completion :=
  polled.run.completion (outing.answered informed.run.takeOff.world reading)

/-- The inquiry can be sent in the bytes of a line. -/
theorem isSent_inquiry : inquiry.IsSent :=
  ⟨client, [Text.utf8 "var a:note\r\n"], "var a:note", .head _, rfl⟩

/-- The daemon comes to where the first tick was applied. -/
theorem reachable_told : Whole.Reachable strict told := by
  have hstart : Whole.Reachable strict ⟨empty, [], []⟩ := .start _ .everything .default rfl
  have hvisited : Whole.Reachable strict ⟨⟨empty.world.withState visited, none, []⟩, [], []⟩ :=
    hstart.step (.outside _ (.connected ⟨1⟩ 1 Outbox.defaultCapacity rfl))
  have hinformed : Whole.Reachable strict informed :=
    reachable_turns _ ((reachable_supply porch hvisited).step (.ask inquiry))
  have hplanned : Whole.Reachable strict { informed with run := informed.run.takeOff } :=
    hinformed.step (.plan rfl)
  have hpolled : Whole.Reachable strict polled :=
    hplanned.step (.call rfl (by with_unfolding_all rfl))
  exact hpolled.step (.apply rfl (by with_unfolding_all rfl))

end Sample

/-- The line feed in the value is gone, and the colon in it makes no difference. -/
theorem pushed_line_decodes_told :
    ∃ completion ∈ Sample.told.run.history,
      completion.applied.pushes = [⟨⟨1⟩, ⟨1⟩, "a:0:shut  GOOD:1\r\n"⟩] ∧
      (Sample.told.world.state.outboxes.get? ⟨1⟩).map Outbox.lines =
        some ["a:0:shut  GOOD:1\r\n"] ∧
      completion.Enqueues ∧
      (∃ type value, (∃ call ∈ completion.flight.calls, call.value = some value) ∧
        Carries "a:0:shut  GOOD:1\r\n" "a" type value) ∧
      Carries "a:0:shut  GOOD:1\r\n" "a" .plain (.text "shut\r\nGOOD:1") := by
  obtain ⟨hparts, hqueued, _⟩ :=
    Whole.Reachable.pushed_line_decodes Sample.reachable_told Sample.isSent_inquiry
  have hmem : Sample.telling ∈ Sample.told.run.history := List.mem_cons_self
  have hpushes : Sample.telling.applied.pushes = [⟨⟨1⟩, ⟨1⟩, "a:0:shut  GOOD:1\r\n"⟩] := by
    with_unfolding_all rfl
  obtain ⟨henqueues, hcarried⟩ := hqueued _ hmem
  obtain ⟨_, _, call, value, _, _, hcall, hvalue, hcarries⟩ :=
    hcarried 0 ⟨⟨1⟩, ⟨1⟩, "a:0:shut  GOOD:1\r\n"⟩ (by with_unfolding_all rfl)
      (hpushes ▸ List.mem_cons_self)
  exact ⟨_, hmem, hpushes, by with_unfolding_all rfl, henqueues,
    ⟨_, value, ⟨call, hcall, hvalue⟩, hcarries⟩, (hparts .plain (.text "shut\r\nGOOD:1")).1⟩

end MetricsDaemon
