import MetricsDaemon.Command
import MetricsDaemon.World.OnDemand

/-!
# Sessions

What one client may say and what it is answered. Where a password is configured nothing
but the right password gets an answer other than a refusal; afterwards every line is a
command with at most one line of reply.
-/

namespace MetricsDaemon

/-- What becomes of a line. -/
inductive Response where
  | silent
  | reply (text : String)
  /-- The reply is the last one. -/
  | farewell (text : String)
  deriving DecidableEq, Repr

/-- The conversation with one client. -/
structure Session where
  connection : ConnectionId
  authenticated : Bool
  password : Option String
  settings : Settings

/-- The answers of a session. -/
inductive Reply where
  | welcome
  | refused
  | good
  | error
  | bye
  /-- A configuration value. -/
  | config (id value : String)
  deriving DecidableEq, Repr

/-- The text of an answer. -/
def Reply.text : Reply → String
  | .welcome => "SUP"
  | .refused => "STFU"
  | .good => "GOOD"
  | .error => "ERROR"
  | .bye => "PEACE"
  | .config id value => "cfg:" ++ id ++ ":" ++ value

/-- A configuration value as an answer carries it. -/
def configReply (settings : Settings) (module_ key : String) : ConfigType → String
  | .string => "\"" ++ settings.getString module_ key "" ++ "\""
  | .int => Number.showInt (settings.getInt module_ key 0)
  | .double => Number.showDouble (settings.getDouble module_ key (.zero false))
  | .bool => if settings.getBool module_ key false then "1" else "0"

namespace Session

/-- A session that has not begun. -/
def new (connection : ConnectionId) (settings : Settings) : Session :=
  ⟨connection, false, settings.requiredPassword, settings⟩

/-- The word before a password. -/
def passwordMark : List Char := ['p', 'a', 's', 's', ':']

/-- The password that a line offers. -/
def offeredPassword? (line : String) : Option String :=
  if passwordMark.isPrefixOf line.toList then
    some (String.ofList (Text.strip (line.toList.drop passwordMark.length)))
  else none

/-- What a line leads to: an answer that needs nothing but the session, or a subscription whose
result is the answer. -/
inductive Verdict where
  | respond (response : Response)
  | subscribe (request : Request)
  deriving DecidableEq, Repr

/-- Answer with a reply. -/
def Verdict.reply (reply : Reply) : Verdict := .respond (.reply reply.text)

/-- What a command leads to. -/
def judgeCommand (session : Session) : Command → Verdict
  | .subscribe id name arg once => .subscribe ⟨session.connection, id, name, arg, once⟩
  | .bye => .respond (.farewell Reply.bye.text)
  | .config id module_ key type_ =>
      .reply (.config id (configReply session.settings module_ key type_))

/-- What a line of an authenticated client leads to. -/
def judgeKnown (session : Session) (line : String) : Verdict :=
  match Command.parse (Text.trimEnd line) with
  | .error _ => .reply .error
  | .ok command => session.judgeCommand command

/-- What a line of a client that is not authenticated yet leads to. Without a password the first
line authenticates the client and is a command already. -/
def judgeStranger (session : Session) (line : String) : Session × Verdict :=
  match session.password with
  | none => ({ session with authenticated := true }, session.judgeKnown line)
  | some password =>
      match offeredPassword? line with
      | none => (session, .respond .silent)
      | some offered =>
          if offered = password then ({ session with authenticated := true }, .reply .welcome)
          else (session, .reply .refused)

/-- What a line without its terminator leads to; blank lines are ignored. -/
def judge (session : Session) (line : String) : Session × Verdict :=
  if Text.strip line.toList = [] then (session, .respond .silent)
  else if session.authenticated then (session, session.judgeKnown line)
  else session.judgeStranger line

/-- The answer to a subscription. -/
def subscriptionReply : Except SubscriptionError SubscriptionId → Reply
  | .ok _ => .good
  | .error _ => .error

/-- Carry out a verdict while nobody else does anything. -/
def carryOut (world : World) : Verdict → World × Response
  | .respond response => (world, response)
  | .subscribe request =>
      let subscribed := world.subscribeLoading request
      (subscribed.1, .reply (subscriptionReply subscribed.2).text)

/-- Answer a line while nobody else does anything. -/
def answer (session : Session) (world : World) (line : String) : World × Session × Response :=
  let judged := session.judge line
  let done := carryOut world judged.2
  (done.1, judged.1, done.2)

end Session

end MetricsDaemon
