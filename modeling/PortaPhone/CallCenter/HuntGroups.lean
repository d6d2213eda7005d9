import Mathlib
import PortaPhone.Lib.Dict
import PortaPhone.Lib.Requests
import PortaPhone.SignIn.Account
/-!
# Call queues of an agent (`portaswitch/adapter.py`)

| here | there |
| --- | --- |
| `isCallQueue`, `isHuntgroupMember`, `getCallQueue` | the functions of these names (`serializer.py:234`, `:260`, `:285`) |
| `updateSubscription`  | `_update_subscription` (`:2826`) with `update_huntgroups_subscription` (`api/admin.py:235`) |
| `readHuntgroups`, `loadAgentQueues` | `_read_huntgroups` (`:2564`), `_load_agent_queues` (`:2550`) |
| `setCallQueueLogin`, `setAllCallQueuesLogin` | `set_call_queue_login` (`:2730`), `set_all_call_queues_login` (`:2775`) |

A hunt group is a call queue if it has one assigned. The counters of waiting callers are a request of their own here.
-/

namespace PortaPhone.CallCenter

open Contacts (Attr Raised)
open Requests
open SignIn (Failure WebTritError)

/-! ## Hunt groups -/

structure Extension where
  accountId : Attr String := .absent
  type : Attr String := .absent
  huntActive : Attr String := .absent
deriving DecidableEq, Repr

/-- `assignedCallqueue` is the `i_c_queue` in it. -/
structure HuntGroup where
  id : String
  name : Attr String := .absent
  assignedCallqueue : Attr (Attr Int) := .absent
  assignedExtensions : Attr (List Extension) := .absent
deriving DecidableEq, Repr

/-- `PortaSwitchExtensionType.ACCOUNT`. -/
def extensionTypeAccount : String := "Account"

def isCallQueue (huntgroup : HuntGroup) : Bool := (huntgroup.assignedCallqueue.get?.bind (·.number?)).isSome

/-- `_huntgroup_account_members`. -/
def accountMembers (huntgroup : HuntGroup) : List Extension :=
  huntgroup.assignedExtensions.rowsOrEmpty.filter fun ext =>
    ext.accountId.text?.isSome && ext.type.getD extensionTypeAccount = some extensionTypeAccount

def isHuntgroupMember (huntgroup : HuntGroup) (agentAccountId : String) : Bool :=
  (accountMembers huntgroup).any fun ext => ext.accountId.get? = some agentAccountId

structure CallQueue where
  id : String
  name : String
  loggedIn : Bool
  agentsTotal : Nat
  agentsLoggedIn : Nat
  callersWaiting : Option Nat
deriving DecidableEq, Repr

def getCallQueue (huntgroup : HuntGroup) (agentAccountId : String) (callersWaiting : Option Nat) : CallQueue where
  id := huntgroup.id
  name := huntgroup.name.text?.getD huntgroup.id
  loggedIn := ((accountMembers huntgroup).find? fun ext => ext.accountId.get? = some agentAccountId).any
    fun own => own.huntActive.get? = some "Y"
  agentsTotal := (accountMembers huntgroup).length
  agentsLoggedIn := (accountMembers huntgroup).countP fun ext => ext.huntActive.get? = some "Y"
  callersWaiting

/-! ## The switch -/

/-- The account of the caller. -/
structure AccountContext where
  iAccount : Int
  iCustomer : Int
  id : String
deriving DecidableEq, Repr

/-- `total` is what `int` makes of it. -/
structure HuntGroupPage where
  huntgroupList : Attr (List HuntGroup) := .absent
  total : Attr (Except Raised Int) := .absent

inductive Request
  | accountInfo
  | huntgroupList (iCustomer : Int) (limit offset : Nat)
  | updateSubscription (iAccount : Int) (subscribe unsubscribe : List String)
  | callersWaiting (iCustomer : Int)
deriving DecidableEq, Repr

structure Switch where
  accountInfo : List Request → Except Failure AccountContext
  huntgroupList : Int → Nat → Nat → List Request → Except Failure HuntGroupPage
  updateSubscription : Int → List String → List String → List Request → Except Failure Unit
  callersWaiting : Int → List Request → Except Failure (Option (Dict String Nat))

abbrev Call (α : Type) := Sends Request Failure α

def notFoundCallQueueError (queueId : String) : WebTritError where
  statusCode := 404
  message := "The user is not an agent of a call queue with such id: " ++ queueId
  code := some "call_queue_not_found"

def accessTokenExpiredError : WebTritError := ⟨401, "Access token expired", some "access_token_expired", none⟩

def expiredTokenFaults : List String := ["Client.Session.check_auth.failed_to_process_access_token"]

/-- `_call_center_error` of what is raised. -/
def callCenterError : Failure → Failure
  | .webTrit error =>
    if error.faultCode.any (· ∈ expiredTokenFaults) then .webTrit accessTokenExpiredError else .webTrit error
  | failure => failure

/-! ## The adapter -/

def huntgroupPageLimit : Nat := 500
def huntgroupMaxPages : Nat := 20

/-- `total is not None and n >= int(total)`. -/
def reached (n : Nat) : Attr (Except Raised Int) → Except Failure Bool
  | .val (.ok total) => .ok (total ≤ (n : Int))
  | .val (.error e) => .error (.raised e)
  | _ => .ok false

section Adapter

variable (switch : Switch)

/-- The pages from `offset` on, `pages` of them at most. -/
def readPages (iCustomer : Int) : Nat → Nat → List HuntGroup → Call (List HuntGroup)
  | 0, _, huntgroups => pure huntgroups
  | pages + 1, offset, huntgroups => do
    let response ← Sends.send (.huntgroupList iCustomer huntgroupPageLimit offset)
      (switch.huntgroupList iCustomer huntgroupPageLimit offset)
    let page := response.huntgroupList.rowsOrEmpty
    if page.length < huntgroupPageLimit then return huntgroups ++ page
    if ← Sends.lift (reached (huntgroups ++ page).length response.total) then return huntgroups ++ page
    readPages iCustomer pages (offset + huntgroupPageLimit) (huntgroups ++ page)

def readHuntgroups (iCustomer : Int) : Call (List HuntGroup) := readPages switch iCustomer huntgroupMaxPages 0 []

def loadAgentQueues (account : AccountContext) : Call (List HuntGroup) := do
  let huntgroups ← readHuntgroups switch account.iCustomer
  return huntgroups.filter fun huntgroup => isCallQueue huntgroup && isHuntgroupMember huntgroup account.id

def subscription (account : AccountContext) (queueIds : List String) (loggedIn : Bool) : Request :=
  if loggedIn then .updateSubscription account.iAccount queueIds []
  else .updateSubscription account.iAccount [] queueIds

def updateSubscription (account : AccountContext) (queueIds : List String) (loggedIn : Bool) : Call Unit :=
  Sends.send (subscription account queueIds loggedIn)
    (if loggedIn then switch.updateSubscription account.iAccount queueIds []
      else switch.updateSubscription account.iAccount [] queueIds)

def loadAccountContext : Call AccountContext := Sends.send .accountInfo switch.accountInfo

def fetchCallersWaiting (iCustomer : Int) : Call (Option (Dict String Nat)) :=
  Sends.send (.callersWaiting iCustomer) (switch.callersWaiting iCustomer)

def buildQueues (huntgroups : List HuntGroup) (agentAccountId : String) (waiting : Option (Dict String Nat)) :
    List CallQueue :=
  huntgroups.map fun huntgroup =>
    getCallQueue huntgroup agentAccountId (waiting.map fun waiting => (waiting.get? huntgroup.id).getD 0)

/-- What follows on the update: the queues with their state after it. -/
def queuesAfter (account : AccountContext) : Call (List CallQueue) := do
  let huntgroups ← loadAgentQueues switch account
  let waiting ← fetchCallersWaiting switch account.iCustomer
  return buildQueues huntgroups account.id waiting

def setCallQueueLogin (queueId : String) (loggedIn : Bool) : Call CallQueue := Sends.mapError callCenterError do
  let account ← loadAccountContext switch
  let huntgroups ← loadAgentQueues switch account
  if !huntgroups.any (·.id = queueId) then Sends.raise (.webTrit (notFoundCallQueueError queueId))
  else
    updateSubscription switch account [queueId] loggedIn
    let queues ← queuesAfter switch account
    match queues.find? (·.id = queueId) with
    | none => Sends.raise (.webTrit (notFoundCallQueueError queueId))
    | some queue => return queue

def setAllCallQueuesLogin (loggedIn : Bool) : Call (List CallQueue) := Sends.mapError callCenterError do
  let account ← loadAccountContext switch
  let huntgroups ← loadAgentQueues switch account
  if huntgroups = [] then
    let waiting ← fetchCallersWaiting switch account.iCustomer
    return buildQueues huntgroups account.id waiting
  else
    updateSubscription switch account (huntgroups.map (·.id)) loggedIn
    queuesAfter switch account

end Adapter

end PortaPhone.CallCenter
