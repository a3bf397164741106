import MetricsDaemon.Handle
import MetricsDaemon.Table

/-!
# Subscriptions

Who wants which variable, with what argument, and how far each subscription has come.
Numbers grow, so the order of the table is the order in which subscriptions were made.
-/

namespace MetricsDaemon

/-- What a new subscription asks for. -/
structure Interest where
  /-- The name that the client gave the subscription; it comes back in every push. -/
  clientId : String
  connection : ConnectionId
  variable_ : VariableId
  module_ : ModuleId
  arg : Option String
  /-- Whether the subscription ends with its first push. -/
  once : Bool
  deriving DecidableEq, Repr

/-- A live subscription. -/
structure Subscription where
  id : SubscriptionId
  interest : Interest
  /-- Whether the subscription was never served, so that the next value is pushed in any case. -/
  first : Bool
  /-- Whether the subscription is about to be removed. -/
  pending : Bool
  deriving DecidableEq, Repr

/-- All live subscriptions. -/
structure Subscriptions where
  entries : Table SubscriptionId Subscription
  /-- The number that was given out last. -/
  lastId : Nat

namespace Subscriptions

/-- No subscriptions. -/
def empty : Subscriptions := ⟨.empty, 0⟩

/-- The subscription with a number. -/
def get? (subscriptions : Subscriptions) (id : SubscriptionId) : Option Subscription :=
  subscriptions.entries.get? id

/-- Every subscription in the order in which they were made. -/
def toList (subscriptions : Subscriptions) : List Subscription := subscriptions.entries.values

/-- The number of subscriptions. -/
def size (subscriptions : Subscriptions) : Nat := subscriptions.entries.size

/-- Add a subscription under the next number. -/
def insert (subscriptions : Subscriptions) (interest : Interest) :
    Subscriptions × SubscriptionId :=
  let id : SubscriptionId := ⟨subscriptions.lastId + 1⟩
  (⟨subscriptions.entries.put id ⟨id, interest, true, false⟩, id.number⟩, id)

/-- Forget a subscription. -/
def erase (subscriptions : Subscriptions) (id : SubscriptionId) : Subscriptions :=
  { subscriptions with entries := subscriptions.entries.erase id }

/-- Change a subscription, if there is one. -/
def modify (subscriptions : Subscriptions) (id : SubscriptionId)
    (change : Subscription → Subscription) : Subscriptions :=
  { subscriptions with entries := subscriptions.entries.modify id change }

/-- The subscriptions that are about to be removed. -/
def leaving (subscriptions : Subscriptions) : List SubscriptionId :=
  (subscriptions.toList.filter Subscription.pending).map Subscription.id

/-- How many subscriptions hold a module. -/
def countOn (subscriptions : Subscriptions) (id : ModuleId) : Nat :=
  subscriptions.toList.countP fun subscription => subscription.interest.module_ == id

end Subscriptions

end MetricsDaemon
