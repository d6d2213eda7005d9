import PortaPhone.CallCenter.HuntGroups
/-!
# Which queues a call logs in to

The subscription update is sent with the rights of the admin realm, which may touch any hunt group. `call_queue_login`:
it is sent only for call queues that the caller is a member of, for the one that is named or for all of them. The pages
are slices of one list as long as no further update is sent, since an update changes the rows.
-/

namespace PortaPhone.CallCenter

open Contacts (Attr Raised)
open Requests
open SignIn (Failure)

/-- A call queue of the agent: an account of the hunt group has the agent's id. -/
structure QueueOf (agentAccountId : String) (huntgroup : HuntGroup) : Prop where
  queue : ∃ iCQueue, huntgroup.assignedCallqueue = .val (.val iCQueue) ∧ iCQueue ≠ 0
  member : ∃ extensions ext, huntgroup.assignedExtensions = .val extensions ∧ ext ∈ extensions ∧
    ext.accountId = .val agentAccountId ∧ agentAccountId ≠ "" ∧
      (ext.type = .absent ∨ ext.type = .val extensionTypeAccount)

def Request.isUpdate : Request → Bool
  | .updateSubscription _ _ _ => true
  | _ => false

/-- The queues that an update is for. -/
def Request.queueIds : Request → List String
  | .updateSubscription _ subscribe unsubscribe => subscribe ++ unsubscribe
  | _ => []

/-- The updates that have been sent. -/
def updates (log : List Request) : List Request := log.filter Request.isUpdate

/-- After the updates `sent` the hunt groups of the customer are slices of one list; a total counts all of them. -/
def Serves (switch : Switch) (iCustomer : Int) (groups : List HuntGroup) (sent : List Request) : Prop :=
  ∀ log, updates log = sent → ∀ limit offset, ∃ answer, switch.huntgroupList iCustomer limit offset log = .ok answer ∧
    answer.huntgroupList.rowsOrEmpty = (groups.drop offset).take limit ∧
    ((∃ total, answer.total = .val (.ok total) ∧ (groups.length : Int) ≤ total) ∨ answer.total.get? = none)

def NamesOwnQueue (account : AccountContext) (groups : List HuntGroup) (queueId : String) : Prop :=
  ∃ group ∈ groups, group.id = queueId ∧ QueueOf account.id group

/-- Every hunt group that the request names is a queue of the caller. -/
def ForOwnQueues (account : AccountContext) (groups : List HuntGroup) (request : Request) : Prop :=
  ∀ id ∈ request.queueIds, NamesOwnQueue account groups id ∧ ∀ group ∈ groups, group.id = id → QueueOf account.id group

variable {switch : Switch} {account : AccountContext} {groups : List HuntGroup} {sent : List Request}

/-! ## Queues and members -/

theorem isCallQueue_iff (huntgroup : HuntGroup) :
    isCallQueue huntgroup = true ↔ ∃ iCQueue, huntgroup.assignedCallqueue = .val (.val iCQueue) ∧ iCQueue ≠ 0 := by
  unfold isCallQueue
  cases huntgroup.assignedCallqueue with
  | absent => simp [Attr.get?]
  | null => simp [Attr.get?]
  | val queue =>
    cases queue with
    | absent => simp [Attr.get?, Attr.number?]
    | null => simp [Attr.get?, Attr.number?]
    | val iCQueue =>
      by_cases hzero : iCQueue = 0
      · simp [Attr.get?, Attr.number?, hzero]
      · simp [Attr.get?, Attr.number?, hzero]

theorem accountId_iff {a : Attr String} {id : String} :
    a.text?.isSome = true ∧ a.get? = some id ↔ a = .val id ∧ id ≠ "" := by
  cases a with
  | absent => simp [Attr.get?, Attr.text?]
  | null => simp [Attr.get?, Attr.text?]
  | val s =>
    constructor
    · rintro ⟨htext, hget⟩
      obtain rfl : s = id := by simpa [Attr.get?] using hget
      exact ⟨rfl, by simpa [Attr.text?, Attr.get?] using htext⟩
    · rintro ⟨hs, hne⟩
      obtain rfl : s = id := by simpa using hs
      simp [Attr.text?, Attr.get?, hne]

theorem type_iff {a : Attr String} :
    a.getD extensionTypeAccount = some extensionTypeAccount ↔ a = .absent ∨ a = .val extensionTypeAccount := by
  cases a with
  | absent => simp [Attr.getD]
  | null => simp [Attr.getD]
  | val s => simp [Attr.getD]

theorem isHuntgroupMember_iff (huntgroup : HuntGroup) (agentAccountId : String) :
    isHuntgroupMember huntgroup agentAccountId = true ↔
      ∃ extensions ext, huntgroup.assignedExtensions = .val extensions ∧ ext ∈ extensions ∧
        ext.accountId = .val agentAccountId ∧ agentAccountId ≠ "" ∧
        (ext.type = .absent ∨ ext.type = .val extensionTypeAccount) := by
  simp only [isHuntgroupMember, accountMembers, List.any_eq_true, List.mem_filter, Bool.and_eq_true, decide_eq_true_eq,
    type_iff]
  constructor
  · rintro ⟨ext, ⟨hext, htext, htype⟩, hget⟩
    obtain ⟨hid, hne⟩ := accountId_iff.1 ⟨htext, hget⟩
    cases hrows : huntgroup.assignedExtensions with
    | absent => simp [hrows, Attr.rowsOrEmpty] at hext
    | null => simp [hrows, Attr.rowsOrEmpty] at hext
    | val extensions =>
      rw [hrows] at hext
      exact ⟨extensions, ext, rfl, hext, hid, hne, htype⟩
  · rintro ⟨extensions, ext, hrows, hext, hid, hne, htype⟩
    obtain ⟨htext, hget⟩ := accountId_iff.2 ⟨hid, hne⟩
    refine ⟨ext, ⟨?_, htext, htype⟩, hget⟩
    rw [hrows]
    exact hext

theorem queueOf_iff (huntgroup : HuntGroup) (agentAccountId : String) :
    (isCallQueue huntgroup && isHuntgroupMember huntgroup agentAccountId) = true ↔
      QueueOf agentAccountId huntgroup := by
  rw [Bool.and_eq_true, isCallQueue_iff, isHuntgroupMember_iff]
  exact ⟨fun h => ⟨h.1, h.2⟩, fun h => ⟨h.queue, h.member⟩⟩

/-! ## The pages -/

theorem readPages_quiet (iCustomer : Int) (pages : Nat) :
    ∀ offset huntgroups, Quiet Request.isUpdate (readPages switch iCustomer pages offset huntgroups) := by
  induction pages with
  | zero => exact fun _ _ => quiet_pure _
  | succ pages ih =>
    intro offset huntgroups
    apply (quiet_send rfl _).bind
    intro response
    dsimp only
    split
    · exact quiet_pure _
    · apply (quiet_lift _).bind
      intro last
      split
      · exact quiet_pure _
      · exact ih _ _

/-- Whatever the switch answers. -/
theorem readPages_atMost (iCustomer : Int) (pages : Nat) :
    ∀ offset huntgroups, AtMost pages (readPages switch iCustomer pages offset huntgroups) := by
  induction pages with
  | zero => exact fun _ _ => atMost_pure _ _
  | succ pages ih =>
    intro offset huntgroups
    have hsteps : AtMost (1 + (0 + pages)) (readPages switch iCustomer (pages + 1) offset huntgroups) := by
      apply (atMost_send _ _).bind
      intro response
      dsimp only
      split
      · exact atMost_pure _ _
      · apply (atMost_lift _).bind
        intro last
        split
        · exact atMost_pure _ _
        · exact ih _ _
    refine hsteps.mono ?_
    omega

theorem updates_append_list (log : List Request) (iCustomer : Int) (limit offset : Nat) :
    updates (log ++ [.huntgroupList iCustomer limit offset]) = updates log := by
  simp [updates, Request.isUpdate]

/-- What `reached` makes of a total that counts all groups, or of none. -/
theorem reached_serves {n count : Nat} {total : Attr (Except Raised Int)}
    (htotal : (∃ t, total = .val (.ok t) ∧ (count : Int) ≤ t) ∨ total.get? = none) :
    ∃ last, reached n total = .ok last ∧ (last = true → count ≤ n) := by
  rcases htotal with ⟨t, rfl, hle⟩ | hnone
  · refine ⟨decide (t ≤ (n : Int)), rfl, fun hlast => ?_⟩
    have ht : t ≤ (n : Int) := of_decide_eq_true hlast
    omega
  · cases total with
    | absent => exact ⟨false, rfl, by simp⟩
    | null => exact ⟨false, rfl, by simp⟩
    | val x => cases hnone

/-- The groups before `offset` have been read, and the pages that are left hold the others. -/
theorem readPages_serves (hserves : Serves switch account.iCustomer groups sent) (pages : Nat) :
    ∀ offset log, updates log = sent → offset ≤ groups.length → groups.length ≤ offset + pages * huntgroupPageLimit →
      (readPages switch account.iCustomer pages offset (groups.take offset) log).1 = .ok groups := by
  induction pages with
  | zero =>
    intro offset log _ hwithin hrest
    have hall : groups.length ≤ offset := by omega
    rw [readPages, run_pure, List.take_of_length_le hall]
  | succ pages ih =>
    intro offset log hlog hwithin hrest
    obtain ⟨answer, hanswer, hrows, htotal⟩ := hserves log hlog huntgroupPageLimit offset
    have hnext : groups.take offset ++ (groups.drop offset).take huntgroupPageLimit =
        groups.take (offset + huntgroupPageLimit) := List.take_add.symm
    have hlen : ((groups.drop offset).take huntgroupPageLimit).length =
        min huntgroupPageLimit (groups.length - offset) := by
      rw [List.length_take, List.length_drop]
    have hsent : Sends.send (.huntgroupList account.iCustomer huntgroupPageLimit offset)
        (switch.huntgroupList account.iCustomer huntgroupPageLimit offset) log =
          (.ok answer, log ++ [.huntgroupList account.iCustomer huntgroupPageLimit offset]) := by
      rw [run_send, hanswer]
    rw [readPages, run_bind_ok hsent]
    simp only [hrows, hnext]
    by_cases hshort : ((groups.drop offset).take huntgroupPageLimit).length < huntgroupPageLimit
    · rw [if_pos hshort]
      have hall : groups.length ≤ offset + huntgroupPageLimit := by omega
      rw [run_pure, List.take_of_length_le hall]
    · rw [if_neg hshort]
      obtain ⟨last, hlast, hdone⟩ := reached_serves (n := (groups.take (offset + huntgroupPageLimit)).length) htotal
      rw [run_bind_ok (by rw [run_lift, hlast])]
      have hfull : offset + huntgroupPageLimit ≤ groups.length := by omega
      by_cases hstop : last = true
      · have hall := hdone hstop
        rw [List.length_take] at hall
        rw [if_pos hstop, run_pure, List.take_of_length_le (by omega)]
      · rw [if_neg hstop]
        refine ih _ _ ?_ hfull ?_
        · rw [updates_append_list, hlog]
        · rw [Nat.succ_mul] at hrest
          omega

theorem readHuntgroups_serves (hserves : Serves switch account.iCustomer groups sent) {log : List Request}
    (hlog : updates log = sent) (hlen : groups.length ≤ huntgroupMaxPages * huntgroupPageLimit) :
    (readHuntgroups switch account.iCustomer log).1 = .ok groups := by
  have hread := readPages_serves hserves huntgroupMaxPages 0 log hlog (Nat.zero_le _) (by omega)
  rwa [List.take_zero] at hread

/-! ## The two calls -/

def ownQueues (account : AccountContext) (groups : List HuntGroup) : List HuntGroup :=
  groups.filter fun huntgroup => isCallQueue huntgroup && isHuntgroupMember huntgroup account.id

theorem mem_ownQueues {group : HuntGroup} :
    group ∈ ownQueues account groups ↔ group ∈ groups ∧ QueueOf account.id group := by
  rw [ownQueues, List.mem_filter, queueOf_iff]

theorem namesOwnQueue_iff {queueId : String} :
    NamesOwnQueue account groups queueId ↔ queueId ∈ (ownQueues account groups).map (·.id) := by
  simp only [NamesOwnQueue, List.mem_map, mem_ownQueues]
  constructor
  · rintro ⟨group, hgroup, hid, hown⟩
    exact ⟨group, ⟨hgroup, hown⟩, hid⟩
  · rintro ⟨group, ⟨hgroup, hown⟩, hid⟩
    exact ⟨group, hgroup, hid, hown⟩

theorem loadAgentQueues_quiet (account : AccountContext) : Quiet Request.isUpdate (loadAgentQueues switch account) :=
  (readPages_quiet _ _ _ _).bind fun _ => quiet_pure _

theorem loadAgentQueues_serves (hserves : Serves switch account.iCustomer groups sent) {log : List Request}
    (hlog : updates log = sent) (hlen : groups.length ≤ huntgroupMaxPages * huntgroupPageLimit) :
    ∃ log', loadAgentQueues switch account log = (.ok (ownQueues account groups), log') ∧ updates log' = sent := by
  have hread : readHuntgroups switch account.iCustomer log =
      (.ok groups, (readHuntgroups switch account.iCustomer log).2) :=
    Prod.ext (readHuntgroups_serves hserves hlog hlen) rfl
  refine ⟨(readHuntgroups switch account.iCustomer log).2, ?_, ?_⟩
  · rw [loadAgentQueues, run_bind_ok hread]
    rfl
  · rw [← hlog]
    exact readPages_quiet _ _ _ _ log

theorem queuesAfter_quiet (account : AccountContext) : Quiet Request.isUpdate (queuesAfter switch account) :=
  (loadAgentQueues_quiet account).bind fun _ => (quiet_send rfl _).bind fun _ => quiet_pure _

theorem subscription_isUpdate (queueIds : List String) (loggedIn : Bool) :
    (subscription account queueIds loggedIn).isUpdate = true := by
  cases loggedIn <;> rfl

theorem subscription_queueIds (queueIds : List String) (loggedIn : Bool) :
    (subscription account queueIds loggedIn).queueIds = queueIds := by
  cases loggedIn <;> simp [subscription, Request.queueIds]

/-- An update and what follows on it. -/
theorem updates_updateSubscription {α : Type} {f : Unit → Call α} (hquiet : ∀ a, Quiet Request.isUpdate (f a))
    (queueIds : List String) (loggedIn : Bool) (log : List Request) :
    updates ((updateSubscription switch account queueIds loggedIn >>= f) log).2 =
      updates log ++ [subscription account queueIds loggedIn] := by
  have hsent : (updateSubscription switch account queueIds loggedIn log).2 =
      log ++ [subscription account queueIds loggedIn] := rfl
  have hupdates : updates (log ++ [subscription account queueIds loggedIn]) =
      updates log ++ [subscription account queueIds loggedIn] := by
    simp [updates, subscription_isUpdate]
  rw [← hupdates, ← hsent]
  rcases bind_cases (updateSubscription switch account queueIds loggedIn) f log with ⟨a, -, hrun⟩ | ⟨e, -, hrun⟩
  · rw [hrun]
    exact hquiet a _
  · rw [hrun]

theorem forOwnQueues_subscription {queueIds : List String} (hids : (groups.map (·.id)).Nodup)
    (hown : ∀ id ∈ queueIds, NamesOwnQueue account groups id) (loggedIn : Bool) :
    ForOwnQueues account groups (subscription account queueIds loggedIn) := by
  intro id hid
  rw [subscription_queueIds] at hid
  refine ⟨hown id hid, fun group hgroup hsame => ?_⟩
  obtain ⟨own, hmem, hownid, hqueue⟩ := hown id hid
  rwa [List.inj_on_of_nodup_map hids hgroup hmem (hsame.trans hownid.symm)]

/-- Both calls read the account first and then the agent's queues. -/
theorem account_and_queues {log : List Request} (haccount : switch.accountInfo log = .ok account)
    (hserves : Serves switch account.iCustomer groups (updates log))
    (hlen : groups.length ≤ huntgroupMaxPages * huntgroupPageLimit) :
    ∃ log₁ log₂, loadAccountContext switch log = (.ok account, log₁) ∧
      loadAgentQueues switch account log₁ = (.ok (ownQueues account groups), log₂) ∧ updates log₂ = updates log := by
  have hlog : updates (log ++ [Request.accountInfo]) = updates log := by
    simp [updates, Request.isUpdate]
  obtain ⟨log₂, hqueues, hlog₂⟩ := loadAgentQueues_serves hserves hlog hlen
  refine ⟨log ++ [.accountInfo], log₂, ?_, hqueues, hlog₂⟩
  rw [loadAccountContext, run_send, haccount]

theorem setCallQueueLogin_own {log : List Request} (haccount : switch.accountInfo log = .ok account)
    (hserves : Serves switch account.iCustomer groups (updates log))
    (hlen : groups.length ≤ huntgroupMaxPages * huntgroupPageLimit) {queueId : String}
    (hown : NamesOwnQueue account groups queueId) (loggedIn : Bool) :
    updates (setCallQueueLogin switch queueId loggedIn log).2 =
      updates log ++ [subscription account [queueId] loggedIn] := by
  obtain ⟨log₁, log₂, hfirst, hqueues, hlog₂⟩ := account_and_queues haccount hserves hlen
  have hany : (ownQueues account groups).any (·.id = queueId) = true := by
    obtain ⟨group, hgroup, hid, hqueue⟩ := hown
    exact List.any_eq_true.2 ⟨group, mem_ownQueues.2 ⟨hgroup, hqueue⟩, decide_eq_true hid⟩
  rw [setCallQueueLogin, run_mapError]
  dsimp only
  rw [run_bind_ok hfirst, run_bind_ok hqueues, if_neg (by simp [hany]), updates_updateSubscription, hlog₂]
  intro _
  apply (queuesAfter_quiet account).bind
  intro queues
  split
  · exact quiet_raise _
  · exact quiet_pure _

theorem setCallQueueLogin_other {log : List Request} (haccount : switch.accountInfo log = .ok account)
    (hserves : Serves switch account.iCustomer groups (updates log))
    (hlen : groups.length ≤ huntgroupMaxPages * huntgroupPageLimit) {queueId : String}
    (hother : ¬ NamesOwnQueue account groups queueId) (loggedIn : Bool) :
    updates (setCallQueueLogin switch queueId loggedIn log).2 = updates log ∧
      (setCallQueueLogin switch queueId loggedIn log).1 = .error (.webTrit (notFoundCallQueueError queueId)) := by
  obtain ⟨log₁, log₂, hfirst, hqueues, hlog₂⟩ := account_and_queues haccount hserves hlen
  have hany : (ownQueues account groups).any (·.id = queueId) = false := by
    rw [List.any_eq_false]
    intro group hgroup hid
    obtain ⟨hmem, hqueue⟩ := mem_ownQueues.1 hgroup
    exact hother ⟨group, hmem, of_decide_eq_true hid, hqueue⟩
  rw [setCallQueueLogin, run_mapError]
  dsimp only
  rw [run_bind_ok hfirst, run_bind_ok hqueues, if_pos (by simp [hany]), run_raise]
  exact ⟨hlog₂, rfl⟩

theorem setAllCallQueuesLogin_updates {log : List Request} (haccount : switch.accountInfo log = .ok account)
    (hserves : Serves switch account.iCustomer groups (updates log))
    (hlen : groups.length ≤ huntgroupMaxPages * huntgroupPageLimit) (loggedIn : Bool) :
    updates (setAllCallQueuesLogin switch loggedIn log).2 = updates log ++
      if ownQueues account groups = [] then []
      else [subscription account ((ownQueues account groups).map (·.id)) loggedIn] := by
  obtain ⟨log₁, log₂, hfirst, hqueues, hlog₂⟩ := account_and_queues haccount hserves hlen
  rw [setAllCallQueuesLogin, run_mapError]
  dsimp only
  rw [run_bind_ok hfirst, run_bind_ok hqueues]
  by_cases hnone : ownQueues account groups = []
  · rw [if_pos hnone, if_pos hnone, List.append_nil, ← hlog₂]
    have hquiet : Quiet Request.isUpdate (fetchCallersWaiting switch account.iCustomer >>= fun waiting =>
        (pure (buildQueues (ownQueues account groups) account.id waiting) : Call (List CallQueue))) :=
      (quiet_send rfl _).bind fun _ => quiet_pure _
    exact hquiet log₂
  · rw [if_neg hnone, if_neg hnone, updates_updateSubscription (fun _ => queuesAfter_quiet account), hlog₂]

/-- What the calls send, and how the hunt groups are read. -/
theorem call_queue_login (log : List Request) (loggedIn : Bool) (haccount : switch.accountInfo log = .ok account)
    (hserves : Serves switch account.iCustomer groups (updates log)) (hids : (groups.map (·.id)).Nodup)
    (hlen : groups.length ≤ huntgroupMaxPages * huntgroupPageLimit) :
    (∀ queueId, ∃ sent, updates (setCallQueueLogin switch queueId loggedIn log).2 = updates log ++ sent ∧
      (∀ request ∈ sent, ForOwnQueues account groups request) ∧
      (NamesOwnQueue account groups queueId → sent = [subscription account [queueId] loggedIn]) ∧
      (¬ NamesOwnQueue account groups queueId → sent = [] ∧
        (setCallQueueLogin switch queueId loggedIn log).1 = .error (.webTrit (notFoundCallQueueError queueId)))) ∧
    (∃ queueIds sent, updates (setAllCallQueuesLogin switch loggedIn log).2 = updates log ++ sent ∧
      (∀ request ∈ sent, ForOwnQueues account groups request) ∧
      queueIds.Nodup ∧ (∀ id, id ∈ queueIds ↔ NamesOwnQueue account groups id) ∧
      sent = if queueIds = [] then [] else [subscription account queueIds loggedIn]) ∧
    (readHuntgroups switch account.iCustomer log).1 = .ok groups ∧
    ∀ (anySwitch : Switch) (iCustomer : Int), AtMost huntgroupMaxPages (readHuntgroups anySwitch iCustomer) := by
  refine ⟨fun queueId => ?_, ?_, readHuntgroups_serves hserves rfl hlen, fun _ _ => readPages_atMost _ _ _ _⟩
  · by_cases hown : NamesOwnQueue account groups queueId
    · refine ⟨[subscription account [queueId] loggedIn], setCallQueueLogin_own haccount hserves hlen hown loggedIn, ?_,
        fun _ => rfl, fun hother => absurd hown hother⟩
      intro request hrequest
      obtain rfl := List.mem_singleton.1 hrequest
      refine forOwnQueues_subscription hids (fun id hid => ?_) loggedIn
      rwa [List.mem_singleton.1 hid]
    · obtain ⟨hsent, hresult⟩ := setCallQueueLogin_other haccount hserves hlen hown loggedIn
      exact ⟨[], by rw [hsent, List.append_nil], by simp, fun h => absurd h hown, fun _ => ⟨rfl, hresult⟩⟩
  · refine ⟨(ownQueues account groups).map (·.id), _,
      setAllCallQueuesLogin_updates haccount hserves hlen loggedIn, ?_, ?_,
      fun id => namesOwnQueue_iff.symm, ?_⟩
    · intro request hrequest
      split at hrequest
      · cases hrequest
      · obtain rfl := List.mem_singleton.1 hrequest
        exact forOwnQueues_subscription hids (fun id hid => namesOwnQueue_iff.2 hid) loggedIn
    · exact hids.sublist (List.filter_sublist.map _)
    · simp only [List.map_eq_nil_iff]

/-! A queue of the caller, a queue of somebody else and a hunt group without a queue. -/

def sampleCaller : AccountContext := ⟨7, 3, "100"⟩

def sampleGroups : List HuntGroup := [
  { id := "701", assignedCallqueue := .val (.val 1), assignedExtensions := .val [{ accountId := .val "100" }] },
  { id := "702", assignedCallqueue := .val (.val 2), assignedExtensions := .val [{ accountId := .val "200" }] },
  { id := "703", assignedExtensions := .val [{ accountId := .val "100" }] }]

def sampleSwitch : Switch where
  accountInfo _ := .ok sampleCaller
  huntgroupList _ limit offset _ := .ok { huntgroupList := .val ((sampleGroups.drop offset).take limit) }
  updateSubscription _ _ _ _ := .ok ()
  callersWaiting _ _ := .ok none

theorem sampleSwitch_serves (sent : List Request) : Serves sampleSwitch 3 sampleGroups sent := by
  intro log _ limit offset
  exact ⟨_, rfl, rfl, .inr rfl⟩

theorem call_queue_login_sample : ∃ queueIds, (∀ id, id ∈ queueIds ↔ NamesOwnQueue sampleCaller sampleGroups id) ∧
    updates (setAllCallQueuesLogin sampleSwitch false []).2 =
      if queueIds = [] then [] else [subscription sampleCaller queueIds false] := by
  have hserves : Serves sampleSwitch sampleCaller.iCustomer sampleGroups (updates []) := sampleSwitch_serves _
  obtain ⟨-, ⟨queueIds, sent, hupdates, -, -, hids, hsent⟩, -⟩ :=
    call_queue_login [] false rfl hserves (by decide) (by decide)
  exact ⟨queueIds, hids, by rw [hupdates, hsent]; rfl⟩

example : (setAllCallQueuesLogin sampleSwitch true []).2 = [.accountInfo, .huntgroupList 3 500 0,
    .updateSubscription 7 ["701"] [], .huntgroupList 3 500 0, .callersWaiting 3] := rfl

end PortaPhone.CallCenter
