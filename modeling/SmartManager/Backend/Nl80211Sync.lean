/-
# `SmartManager.Backend.Nl80211Sync` — the receive loop of a synchronous nl80211 request
(`backend/nl80211.c`: `sync_callback`, `sync_finish_handler`, `ack_handler`, `error_handler`,
`backend_nl80211_sync_command`; `engine/engine.c`: `mmsm_internal_request`, `mmsm_request`).

After sending the request, `backend_nl80211_sync_command` calls `nl_recvmsgs` while
`running > 0`.  Each call hands the messages it reads to the callbacks the command installed:
`sync_callback` appends an entry holding the walk of a message's attributes to `*result`;
`sync_finish_handler` (`NLMSG_DONE`) and `ack_handler` set `running` to `0`;
`error_handler` sets it to the kernel's error when that is positive and to `-EPROTO` otherwise.
The finish callback returns `NL_SKIP`, so the call goes on with the messages after `NLMSG_DONE`.
The ack and error callbacks return `NL_STOP`, which ends the call there.  The command reports
`MMSM_UNKNOWN_ERROR` when `running` ends negative.

Which messages one `nl_recvmsgs` call reads is libnl's and the kernel's business.  The model
takes it as data: a list of calls, each the list of messages whose callbacks it runs.  Every
result below holds for every such split.  A run that uses up the calls while `running` is still
positive is `none`: the command is still blocked in the loop.

* `syncRecvLoop_eq_some_iff` characterizes the loop exactly: which calls it consumes, and that
  its result holds one entry per valid message handled, in order.
* `runningAfter_neg_iff` says the outcome is decided by the last status message handled.
* `mmsmRequest_nl80211_forests` gives the whole request: for every way the reads split a reply
  of framed attribute trees, `mmsm_request` returns the trees' items.  It returns `NULL` after
  an error message.
* `mmsmFindByNestedIntkeys_receive` says what `mmsm_find_by_nested_intkeys` finds in the entries
  of a receive: the payload the path names in the first message of the command.
-/
import SmartManager.Backend.Nl80211Request

namespace SmartManager.Backend

open SmartManager.Data

/-! ## §1 — the callbacks -/

/-- `EPROTO` on Linux. -/
def eproto : Int := 71

/-- A message `nl_recvmsgs` hands to the command's callbacks: a generic netlink message
(`NL_CB_VALID`), `NLMSG_DONE` (`NL_CB_FINISH`), an `NLMSG_ERROR` with error `0`
(`NL_CB_ACK`), or one with a non-zero error (the error callback). -/
inductive SyncMsg where
  | valid (msg : GenlMsg)
  | done
  | ack
  | error (code : Int)

/-- What a callback returns to libnl: `NL_OK`, `NL_SKIP` or `NL_STOP`. -/
inductive NlAction where
  | ok
  | skip
  | stop
  deriving DecidableEq, Repr

/-- What the callbacks share with the loop: `running` and `*result`. -/
structure SyncState where
  running : Int
  result : List MmsmDataItem

/-- The entry `sync_callback` appends for a message: a zeroed item whose sub-values are the walk
of the message's attributes. -/
def syncEntry (msg : GenlMsg) : MmsmDataItem :=
  { mmsmDataItemAlloc with mmsmSubValues := navigateAttrs msg.attrs msg.attrs.length }

/-- `sync_callback`: the entry goes at the end of `*result`. -/
def syncCallback (result : List MmsmDataItem) (msg : GenlMsg) : List MmsmDataItem :=
  result ++ [syncEntry msg]

/-- What `error_handler` stores in `running`. -/
def errorHandlerRet (error : Int) : Int := if 0 < error then error else -eproto

/-- The callback libnl runs for one message: the state it leaves and what it returns. -/
def syncDispatch (st : SyncState) : SyncMsg → SyncState × NlAction
  | .valid msg => (⟨st.running, syncCallback st.result msg⟩, .ok)
  | .done => (⟨0, st.result⟩, .skip)
  | .ack => (⟨0, st.result⟩, .stop)
  | .error e => (⟨errorHandlerRet e, st.result⟩, .stop)

/-! ## §2 — `nl_recvmsgs` and the loop -/

/-- One `nl_recvmsgs(sock, nlcb)` over the messages it reads: their callbacks in order, up to
the first that returns `NL_STOP`. -/
def nlRecvmsgs (st : SyncState) : List SyncMsg → SyncState
  | [] => st
  | m :: ms => if (syncDispatch st m).2 = .stop then (syncDispatch st m).1
    else nlRecvmsgs (syncDispatch st m).1 ms

/-- `while (running > 0) nl_recvmsgs(sock, nlcb);` over the calls the loop can make: the state
when it leaves, or `none` while it is still waiting. -/
def syncRecvLoop (st : SyncState) : List (List SyncMsg) → Option SyncState
  | [] => if 0 < st.running then none else some st
  | call :: calls => if 0 < st.running then syncRecvLoop (nlRecvmsgs st call) calls else some st

/-- How one `backend_nl80211_sync_command` goes: `nlmsg_alloc`, the socket connect and
`nl_cb_alloc` succeed or not, and the messages each `nl_recvmsgs` call reads. -/
structure SyncEnv where
  msgAllocOk : Bool
  connectOk : Bool
  cbAllocOk : Bool
  calls : List (List SyncMsg)

/-- `backend_nl80211_sync_command(intf, command, result)` from the allocations on: the code and
the chain in `*result`.  The message it sends is `backendNl80211SyncCommandMsg`; a failed send
is only logged, and the loop waits all the same. -/
def backendNl80211SyncCommand (env : SyncEnv) : Option (MmsmErrorCode × List MmsmDataItem) :=
  if env.msgAllocOk && env.connectOk && env.cbAllocOk then
    (syncRecvLoop ⟨1, []⟩ env.calls).map fun st =>
      (if st.running < 0 then .unknownError else .success, st.result)
  else some (.unknownError, [])

/-- `mmsm_internal_request(intf, command)` with what `req_blocking` returned: the response, or
`NULL` when it failed.  The partial response of a failed request is dropped. -/
def mmsmInternalRequest (out : MmsmErrorCode × List MmsmDataItem) : List MmsmDataItem :=
  if out.1 = .success then out.2 else []

/-- `mmsm_request(intf, …)`: the chain `process_request_args` builds (`none` for `NULL`, which
is only logged), then the blocking request on it.  `none` while the request has not returned. -/
def mmsmRequest (command : Option (List MmsmDataItem))
    (reqBlocking : List MmsmDataItem → Option (MmsmErrorCode × List MmsmDataItem)) :
    Option (List MmsmDataItem) :=
  match command with
  | none => some []
  | some cmd => (reqBlocking cmd).map mmsmInternalRequest

/-! ## §3 — what a call handles -/

/-- The value a status message stores in `running`; `none` for a valid message. -/
def SyncMsg.status? : SyncMsg → Option Int
  | .valid _ => none
  | .done => some 0
  | .ack => some 0
  | .error e => some (errorHandlerRet e)

/-- The message's callback returns `NL_STOP`. -/
def SyncMsg.stops : SyncMsg → Bool
  | .ack => true
  | .error _ => true
  | _ => false

/-- The messages a call runs callbacks on: those it reads, up to the first that stops it. -/
def handled : List SyncMsg → List SyncMsg
  | [] => []
  | m :: ms => if m.stops then [m] else m :: handled ms

/-- `running` after the status messages among `ms`, from `r`. -/
def runningAfter (r : Int) (ms : List SyncMsg) : Int := ms.foldl (fun r m => m.status?.getD r) r

/-- The entries of the valid messages among `ms`, in order. -/
def validEntries (ms : List SyncMsg) : List MmsmDataItem :=
  ms.filterMap fun m => match m with
    | .valid g => some (syncEntry g)
    | _ => none

theorem syncDispatch_fst (st : SyncState) (m : SyncMsg) :
    (syncDispatch st m).1 = ⟨m.status?.getD st.running, st.result ++ validEntries [m]⟩ := by
  cases m <;> simp [syncDispatch, syncCallback, validEntries, SyncMsg.status?]

theorem syncDispatch_snd_eq_stop (st : SyncState) (m : SyncMsg) :
    (syncDispatch st m).2 = .stop ↔ m.stops = true := by
  cases m <;> simp [syncDispatch, SyncMsg.stops]

theorem runningAfter_append (r : Int) (a b : List SyncMsg) :
    runningAfter r (a ++ b) = runningAfter (runningAfter r a) b := List.foldl_append _ _ _ _

theorem validEntries_append (a b : List SyncMsg) :
    validEntries (a ++ b) = validEntries a ++ validEntries b := List.filterMap_append _ _ _

/-- **One call.** `nl_recvmsgs` leaves `running` as the status messages it handled set it, and
appends the entries of the valid messages it handled, in order. -/
theorem nlRecvmsgs_eq (st : SyncState) (call : List SyncMsg) :
    nlRecvmsgs st call = ⟨runningAfter st.running (handled call),
      st.result ++ validEntries (handled call)⟩ := by
  induction call generalizing st with
  | nil => simp [nlRecvmsgs, handled, runningAfter, validEntries]
  | cons m ms ih =>
    have hm : validEntries (m :: handled ms) = validEntries [m] ++ validEntries (handled ms) :=
      validEntries_append [m] _
    rw [nlRecvmsgs, handled]
    by_cases hs : m.stops
    · rw [if_pos ((syncDispatch_snd_eq_stop _ _).2 hs), if_pos hs, syncDispatch_fst]
      rfl
    · rw [if_neg (mt (syncDispatch_snd_eq_stop _ _).1 hs), if_neg hs, ih, syncDispatch_fst, hm,
        List.append_assoc]
      rfl

/-! ## §4 — the run of the loop -/

/-- The messages the first calls handled. -/
def handledCalls (calls : List (List SyncMsg)) : List SyncMsg := calls.flatMap handled

/-- **The receive loop, exactly.** From a running state, the loop returns exactly when some
call, the `k`-th, is the first after which `running` is no longer positive.  It then holds the
entries of every valid message the first `k + 1` calls handled, in order, each once. -/
theorem syncRecvLoop_eq_some_iff : ∀ (calls : List (List SyncMsg)) (st st' : SyncState),
    0 < st.running →
    (syncRecvLoop st calls = some st' ↔
      ∃ k < calls.length,
        (∀ j < k, 0 < runningAfter st.running (handledCalls (calls.take (j + 1)))) ∧
        runningAfter st.running (handledCalls (calls.take (k + 1))) ≤ 0 ∧
        st' = ⟨runningAfter st.running (handledCalls (calls.take (k + 1))),
          st.result ++ validEntries (handledCalls (calls.take (k + 1)))⟩)
  | [], st, st', h => by simp [syncRecvLoop, h]
  | c :: cs, st, st', h => by
    have htake : ∀ j, handledCalls ((c :: cs).take (j + 1)) = handled c ++ handledCalls (cs.take j) :=
      fun j => by rw [List.take_succ_cons, handledCalls, List.flatMap_cons]; rfl
    simp only [htake, runningAfter_append, validEntries_append, List.length_cons]
    rw [syncRecvLoop, if_pos h, nlRecvmsgs_eq]
    by_cases h₁ : 0 < runningAfter st.running (handled c)
    · rw [syncRecvLoop_eq_some_iff cs _ st' h₁]
      constructor
      · rintro ⟨k, hk, hpos, hle, rfl⟩
        refine ⟨k + 1, by omega, fun j hj => ?_, hle, by simp [List.append_assoc]⟩
        cases j with
        | zero => simpa [handledCalls, runningAfter] using h₁
        | succ j => exact hpos j (by omega)
      · rintro ⟨k, hk, hpos, hle, rfl⟩
        cases k with
        | zero => exact absurd hle (by simpa [handledCalls, runningAfter] using h₁)
        | succ k =>
          exact ⟨k, by omega, fun j hj => hpos (j + 1) (by omega), hle,
            by simp [List.append_assoc]⟩
    · have hstop : ∀ st₁ : SyncState, ¬0 < st₁.running → syncRecvLoop st₁ cs = some st₁ :=
        fun st₁ hst => by cases cs <;> simp [syncRecvLoop, hst]
      rw [hstop _ h₁]
      constructor
      · rintro ⟨⟩
        exact ⟨0, by omega, fun j hj => absurd hj (Nat.not_lt_zero _),
          by simpa [handledCalls, runningAfter] using h₁,
          by simp [handledCalls, runningAfter, validEntries]⟩
      · rintro ⟨k, hk, hpos, hle, rfl⟩
        cases k with
        | zero => simp [handledCalls, runningAfter, validEntries]
        | succ k => exact absurd (hpos 0 (by omega)) (by simpa [handledCalls, runningAfter] using h₁)

/-! ## §5 — the outcome -/

/-- A run of messages without a status message leaves `running` alone. -/
theorem runningAfter_of_status_none {ms : List SyncMsg} (h : ∀ m ∈ ms, m.status? = none)
    (r : Int) : runningAfter r ms = r := by
  induction ms generalizing r with
  | nil => rfl
  | cons m ms ih =>
    rw [runningAfter, List.foldl_cons, h m (List.mem_cons_self _ _)]
    exact ih (fun m' hm' => h m' (List.mem_cons_of_mem _ hm')) r

/-- Either no message of `ms` is a status message, or one is the last. -/
theorem status_none_or_last : ∀ ms : List SyncMsg, (∀ m ∈ ms, m.status? = none) ∨
    ∃ pre m post v, ms = pre ++ m :: post ∧ m.status? = some v ∧ ∀ m' ∈ post, m'.status? = none
  | [] => .inl fun _ h => absurd h (List.not_mem_nil _)
  | m :: ms => by
    rcases status_none_or_last ms with h | ⟨pre, m', post, v, rfl, hv, hpost⟩
    · cases hm : m.status? with
      | none => exact .inl (List.forall_mem_cons.2 ⟨hm, h⟩)
      | some v => exact .inr ⟨[], m, ms, v, rfl, hm, h⟩
    · exact .inr ⟨m :: pre, m', post, v, rfl, hv, hpost⟩

theorem runningAfter_last {pre post : List SyncMsg} {m : SyncMsg} {v : Int} (hv : m.status? = some v)
    (hpost : ∀ m' ∈ post, m'.status? = none) (r : Int) :
    runningAfter r (pre ++ m :: post) = v := by
  rw [runningAfter_append, ← List.singleton_append, runningAfter_append,
    runningAfter_of_status_none hpost]
  simp [runningAfter, hv]

theorem errorHandlerRet_neg_iff (e : Int) : errorHandlerRet e < 0 ↔ e ≤ 0 := by
  unfold errorHandlerRet eproto; split <;> omega

/-- **The last status message decides.** After a run of messages, `running` is negative exactly
when the last status message among them is an error with a non-positive code: a later
`NLMSG_DONE` or ack clears an error, and a positive error code counts as still running. -/
theorem runningAfter_neg_iff (ms : List SyncMsg) :
    runningAfter 1 ms < 0 ↔
      ∃ pre e post, ms = pre ++ .error e :: post ∧ e ≤ 0 ∧ ∀ m ∈ post, m.status? = none := by
  constructor
  · intro hneg
    rcases status_none_or_last ms with h | ⟨pre, m, post, v, rfl, hv, hpost⟩
    · rw [runningAfter_of_status_none h] at hneg; omega
    · rw [runningAfter_last hv hpost] at hneg
      cases m with
      | error e =>
        cases hv
        exact ⟨pre, e, post, rfl, (errorHandlerRet_neg_iff e).1 hneg, hpost⟩
      | _ => cases hv <;> omega
  · rintro ⟨pre, e, post, rfl, he, hpost⟩
    rw [runningAfter_last (m := .error e) (v := errorHandlerRet e) rfl hpost]
    exact (errorHandlerRet_neg_iff e).2 he

/-- **`backend_nl80211_sync_command`, exactly.** With its allocations and connect done, the
command returns exactly when some call, the `k`-th, is the first after which `running` is no
longer positive.  Its result then holds the entries of every valid message the first `k + 1`
calls handled, in order, each once.  It reports `MMSM_UNKNOWN_ERROR` exactly when the last status
message handled is an error with a non-positive code, and `MMSM_SUCCESS` otherwise. -/
theorem backendNl80211SyncCommand_eq_some_iff (env : SyncEnv)
    (hok : env.msgAllocOk = true ∧ env.connectOk = true ∧ env.cbAllocOk = true)
    (err : MmsmErrorCode) (result : List MmsmDataItem) :
    backendNl80211SyncCommand env = some (err, result) ↔
      ∃ k < env.calls.length,
        (∀ j < k, 0 < runningAfter 1 (handledCalls (env.calls.take (j + 1)))) ∧
        runningAfter 1 (handledCalls (env.calls.take (k + 1))) ≤ 0 ∧
        result = validEntries (handledCalls (env.calls.take (k + 1))) ∧
        err ≠ .commandFailed ∧
        (err = .unknownError ↔ ∃ pre e post, handledCalls (env.calls.take (k + 1)) =
          pre ++ .error e :: post ∧ e ≤ 0 ∧ ∀ m ∈ post, m.status? = none) := by
  obtain ⟨h₁, h₂, h₃⟩ := hok
  simp only [backendNl80211SyncCommand, h₁, h₂, h₃, Bool.and_self, ite_true, Option.map_eq_some',
    Prod.mk.injEq]
  constructor
  · rintro ⟨st, hst, herr, rfl⟩
    obtain ⟨k, hk, hpos, hle, rfl⟩ := (syncRecvLoop_eq_some_iff _ _ _ (by decide)).1 hst
    dsimp only at herr
    refine ⟨k, hk, hpos, hle, by simp, by split at herr <;> (subst herr; decide), ?_⟩
    rw [← runningAfter_neg_iff, ← herr]
    split <;> simp <;> omega
  · rintro ⟨k, hk, hpos, hle, rfl, hcf, herr⟩
    refine ⟨_, (syncRecvLoop_eq_some_iff _ _ _ (by decide)).2 ⟨k, hk, hpos, hle, rfl⟩, ?_, by simp⟩
    rw [← runningAfter_neg_iff] at herr
    dsimp only
    split
    · exact (herr.2 ‹_›).symm
    · cases err <;> simp_all
      omega

/-- A reply read in two calls: a message, then the error `-EINVAL`. -/
def einvalReply : SyncEnv := ⟨true, true, true, [[.valid ⟨3, []⟩], [.error (-22)]]⟩

theorem backendNl80211SyncCommand_einvalReply :
    (einvalReply.msgAllocOk = true ∧ einvalReply.connectOk = true ∧ einvalReply.cbAllocOk = true) ∧
    (backendNl80211SyncCommand einvalReply = some (.unknownError, [syncEntry ⟨3, []⟩]) ↔
      ∃ k < einvalReply.calls.length,
        (∀ j < k, 0 < runningAfter 1 (handledCalls (einvalReply.calls.take (j + 1)))) ∧
        runningAfter 1 (handledCalls (einvalReply.calls.take (k + 1))) ≤ 0 ∧
        [syncEntry ⟨3, []⟩] = validEntries (handledCalls (einvalReply.calls.take (k + 1))) ∧
        MmsmErrorCode.unknownError ≠ .commandFailed ∧
        (MmsmErrorCode.unknownError = .unknownError ↔ ∃ pre e post,
          handledCalls (einvalReply.calls.take (k + 1)) = pre ++ .error e :: post ∧ e ≤ 0 ∧
            ∀ m ∈ post, m.status? = none)) :=
  ⟨⟨rfl, rfl, rfl⟩, backendNl80211SyncCommand_eq_some_iff einvalReply ⟨rfl, rfl, rfl⟩ _ _⟩

/-! ## §6 — a whole reply, however the reads split it -/

theorem SyncMsg.stops_of_status_none {m : SyncMsg} (h : m.status? = none) : m.stops = false := by
  cases m <;> simp_all [SyncMsg.status?, SyncMsg.stops]

theorem validEntries_of_status_some {m : SyncMsg} {v : Int} (h : m.status? = some v) :
    validEntries [m] = [] := by
  cases m <;> simp_all [SyncMsg.status?, validEntries]

/-- A call reading messages that do not stop it handles all of them and what follows. -/
theorem handled_append_of_status_none {ms : List SyncMsg} (h : ∀ m ∈ ms, m.status? = none)
    (rest : List SyncMsg) : handled (ms ++ rest) = ms ++ handled rest := by
  induction ms with
  | nil => rfl
  | cons m ms ih =>
    rw [List.cons_append, handled, if_neg (by simp [SyncMsg.stops_of_status_none
      (h m (List.mem_cons_self _ _))]), ih fun m' hm' => h m' (List.mem_cons_of_mem _ hm')]
    rfl

theorem handled_of_status_none {ms : List SyncMsg} (h : ∀ m ∈ ms, m.status? = none) :
    handled ms = ms := by
  simpa [handled] using handled_append_of_status_none h []

theorem mem_of_mem_handled {m : SyncMsg} : ∀ {ms : List SyncMsg}, m ∈ handled ms → m ∈ ms
  | [], h => h
  | m' :: ms, h => by
    rw [handled] at h
    split at h
    · exact List.mem_singleton.1 h ▸ List.mem_cons_self _ _
    · rcases List.mem_cons.1 h with rfl | h
      · exact List.mem_cons_self _ _
      · exact List.mem_cons_of_mem _ (mem_of_mem_handled h)

theorem runningAfter_pos {ms : List SyncMsg} (h : ∀ m ∈ ms, ∀ v, m.status? = some v → 0 < v) :
    ∀ {r : Int}, 0 < r → 0 < runningAfter r ms := by
  induction ms with
  | nil => exact id
  | cons m ms ih =>
    intro r hr
    rw [runningAfter, List.foldl_cons]
    refine ih (fun m' hm' => h m' (List.mem_cons_of_mem _ hm')) ?_
    cases hm : m.status? with
    | none => exact hr
    | some v => exact h m (List.mem_cons_self _ _) v hm

/-- **A reply that ends.** However the calls split valid messages followed by a status message
that leaves `running` non-positive, the loop returns after the call that reads it, with the
entries of all the valid messages. -/
theorem syncRecvLoop_reply {fin : SyncMsg} {v : Int} (hfin : fin.status? = some v) (hv : v ≤ 0) :
    ∀ (calls : List (List SyncMsg)) (st : SyncState) (pre : List SyncMsg), 0 < st.running →
      (∀ m ∈ pre, m.status? = none) → calls.flatten = pre ++ [fin] →
      syncRecvLoop st calls = some ⟨v, st.result ++ validEntries pre⟩
  | [], _, pre, _, _, hcalls => by simp at hcalls
  | c :: cs, st, pre, h, hpre, hcalls => by
    have hquiet : ∀ {l : List SyncMsg}, (∀ m ∈ l, m.status? = none) →
        nlRecvmsgs st l = ⟨st.running, st.result ++ validEntries l⟩ := fun hl => by
      rw [nlRecvmsgs_eq, handled_of_status_none hl, runningAfter_of_status_none hl]
    rw [syncRecvLoop, if_pos h]
    rw [List.flatten_cons, List.append_eq_append_iff] at hcalls
    rcases hcalls with ⟨a', rfl, hcs⟩ | ⟨c', rfl, hc'⟩
    · rw [hquiet fun m hm => hpre m (List.mem_append_left _ hm),
        syncRecvLoop_reply hfin hv cs ⟨st.running, st.result ++ validEntries c⟩ a' h
          (fun m hm => hpre m (List.mem_append_right _ hm)) hcs,
        validEntries_append, List.append_assoc]
    · rcases List.cons_eq_append_iff.1 hc' with ⟨rfl, hcs⟩ | ⟨a', rfl, hnil⟩
      · rw [List.append_nil, hquiet hpre,
          syncRecvLoop_reply hfin hv cs ⟨st.running, st.result ++ validEntries pre⟩ [] h
            (fun _ h => absurd h (List.not_mem_nil _)) hcs]
        simp [validEntries]
      obtain ⟨rfl, -⟩ := List.append_eq_nil.1 hnil.symm
      have hend : ∀ res, syncRecvLoop ⟨v, res⟩ cs = some ⟨v, res⟩ := fun res => by
        cases cs <;> simp [syncRecvLoop, not_lt.2 hv]
      have hone : handled [fin] = [fin] := by rw [handled]; split <;> rfl
      rw [nlRecvmsgs_eq, handled_append_of_status_none hpre, hone,
        runningAfter_last hfin (fun _ h => absurd h (List.not_mem_nil _)), hend]
      simp [validEntries_append, validEntries_of_status_some hfin]

/-- A reply whose status messages all leave `running` positive never ends the loop. -/
theorem syncRecvLoop_none_of_pos : ∀ (calls : List (List SyncMsg)) (st : SyncState),
    0 < st.running → (∀ m ∈ calls.flatten, ∀ v, m.status? = some v → 0 < v) →
    syncRecvLoop st calls = none
  | [], st, h, _ => by simp [syncRecvLoop, h]
  | c :: cs, st, h, hpos => by
    rw [syncRecvLoop, if_pos h, nlRecvmsgs_eq]
    exact syncRecvLoop_none_of_pos cs _
      (runningAfter_pos (fun m hm => hpos m (List.mem_append_left _ (mem_of_mem_handled hm))) h)
      (fun m hm => hpos m (List.mem_append_right _ hm))

/-- The entries of messages framing attribute trees hold the trees. -/
theorem validEntries_forests (c : UInt8) :
    ∀ forests : List (List NlAttrTree), (∀ ts ∈ forests, ForestFramed ts ∧ ForestLeavesFlat ts) →
      validEntries (forests.map fun ts => SyncMsg.valid ⟨c, encodeForest ts⟩) =
        forests.map fun ts => { mmsmDataItemAlloc with mmsmSubValues := forestToItems ts }
  | [], _ => rfl
  | ts :: forests, hf => by
    have ⟨hfr, hfl⟩ := hf ts (List.mem_cons_self _ _)
    rw [List.map_cons, ← List.singleton_append, validEntries_append,
      validEntries_forests c forests fun ts' h => hf ts' (List.mem_cons_of_mem _ h)]
    simp [validEntries, syncEntry, navigateAttrs_encodeForest ts hfr hfl]

/-- A request whose reply is messages that set no status, then one that sets `running` to
`v ≤ 0`, returns the entries of the valid messages, or `NULL` when `v < 0`. -/
theorem mmsmRequest_nl80211_of_reply {command : Option (List MmsmDataItem)} (hcmd : command.isSome)
    {calls : List (List SyncMsg)} {pre : List SyncMsg} {fin : SyncMsg} {v : Int}
    (hpre : ∀ m ∈ pre, m.status? = none) (hfin : fin.status? = some v) (hv : v ≤ 0)
    (hcalls : calls.flatten = pre ++ [fin]) :
    mmsmRequest command (fun _ => backendNl80211SyncCommand ⟨true, true, true, calls⟩) =
      some (if v < 0 then [] else validEntries pre) := by
  obtain ⟨cmd, rfl⟩ := Option.isSome_iff_exists.1 hcmd
  simp only [mmsmRequest, backendNl80211SyncCommand, Bool.and_self, ite_true,
    syncRecvLoop_reply hfin hv calls ⟨1, []⟩ pre (by decide) hpre hcalls, Option.map_some',
    List.nil_append]
  split <;> rfl

/-- **An nl80211 request, end to end.** Take a request whose arguments the processor accepts,
and a kernel that answers with messages whose attributes frame attribute trees, then one status
message.  For every way the `nl_recvmsgs` calls split that reply, `mmsm_request` returns one
entry per message, in order, whose sub-values are the message's trees, when the reply ends with
`NLMSG_DONE` or an ack.  It returns `NULL` when the reply ends with an error of non-positive
code, and never returns when the code is positive. -/
theorem mmsmRequest_nl80211_forests (cmd : UInt32) (flags : Int)
    (args : List (Int × NlaArgValue)) (hargs : (backendNl80211ProcessRequestArgs cmd flags args).isSome)
    (c : UInt8) (forests : List (List NlAttrTree))
    (hf : ∀ ts ∈ forests, ForestFramed ts ∧ ForestLeavesFlat ts)
    (calls : List (List SyncMsg)) (fin : SyncMsg)
    (hcalls : calls.flatten = forests.map (fun ts => SyncMsg.valid ⟨c, encodeForest ts⟩) ++ [fin]) :
    let req := mmsmRequest (backendNl80211ProcessRequestArgs cmd flags args)
      (fun _ => backendNl80211SyncCommand ⟨true, true, true, calls⟩)
    ((fin = .done ∨ fin = .ack) →
      req = some (forests.map fun ts => { mmsmDataItemAlloc with mmsmSubValues := forestToItems ts })) ∧
    (∀ e ≤ 0, fin = .error e → req = some []) ∧
    (∀ e, 0 < e → fin = .error e → req = none) := by
  intro req
  have hquiet : ∀ m ∈ forests.map (fun ts => SyncMsg.valid ⟨c, encodeForest ts⟩), m.status? = none :=
    fun m hm => by obtain ⟨ts, -, rfl⟩ := List.mem_map.1 hm; rfl
  have hends := fun {v} (hfin : fin.status? = some v) (hv : v ≤ 0) =>
    (mmsmRequest_nl80211_of_reply hargs hquiet hfin hv hcalls).trans
      (by rw [validEntries_forests c forests hf])
  refine ⟨fun hfin => ?_, fun e he hfin => ?_, fun e he hfin => ?_⟩
  · exact (hends (v := 0) (by rcases hfin with rfl | rfl <;> rfl) le_rfl).trans (by rw [if_neg (lt_irrefl 0)])
  · have hneg := (errorHandlerRet_neg_iff e).2 he
    exact (hends (by rw [hfin]; rfl) hneg.le).trans (by rw [if_pos hneg])
  · obtain ⟨command, hcmd⟩ := Option.isSome_iff_exists.1 hargs
    simp only [req, hcmd, mmsmRequest, backendNl80211SyncCommand, Bool.and_self, ite_true]
    rw [syncRecvLoop_none_of_pos calls ⟨1, []⟩ (by decide) fun m hm v hv => ?_]
    · rfl
    rw [hcalls] at hm
    rcases List.mem_append.1 hm with hm | hm
    · rw [hquiet m hm] at hv; cases hv
    · rw [List.mem_singleton.1 hm, hfin] at hv
      cases hv
      simp [errorHandlerRet, he]

/-- A reply of one message holding one attribute, then `NLMSG_DONE`, read in two calls. -/
theorem mmsmRequest_nl80211_forests_leaf :
    (backendNl80211ProcessRequestArgs 5 0 []).isSome ∧
    (∀ ts ∈ [[NlAttrTree.leaf 1 [7]]], ForestFramed ts ∧ ForestLeavesFlat ts) ∧
    ([[.valid ⟨3, encodeForest [.leaf 1 [7]]⟩], [.done]] : List (List SyncMsg)).flatten =
      [[NlAttrTree.leaf 1 [7]]].map (fun ts => SyncMsg.valid ⟨3, encodeForest ts⟩) ++ [.done] ∧
    let req := mmsmRequest (backendNl80211ProcessRequestArgs 5 0 [])
      (fun _ => backendNl80211SyncCommand
        ⟨true, true, true, [[.valid ⟨3, encodeForest [.leaf 1 [7]]⟩], [.done]]⟩)
    ((SyncMsg.done = .done ∨ SyncMsg.done = .ack) → req = some ([[NlAttrTree.leaf 1 [7]]].map
      fun ts => { mmsmDataItemAlloc with mmsmSubValues := forestToItems ts })) ∧
    (∀ e ≤ 0, SyncMsg.done = .error e → req = some []) ∧
    (∀ e, 0 < e → SyncMsg.done = .error e → req = none) :=
  have hf : ∀ ts ∈ [[NlAttrTree.leaf 1 [7]]], ForestFramed ts ∧ ForestLeavesFlat ts := by
    simp only [List.mem_singleton, forall_eq, ForestFramed, NlAttrTree.Framed, ForestLeavesFlat,
      NlAttrTree.LeavesFlat, and_true]
    exact ⟨by decide, attrLooksNested_of_nlaLenField (by decide) (.inr (by decide))⟩
  ⟨rfl, hf, rfl, mmsmRequest_nl80211_forests 5 0 [] rfl 3 _ hf _ _ rfl⟩

/-! ## §7 — nested lookups in a reply -/

/-- The children of a tree; a leaf has none. -/
def NlAttrTree.children : NlAttrTree → List NlAttrTree
  | .leaf _ _ => []
  | .nest _ cs => cs

/-- What a path of attribute types names in a forest: at each level the first tree of the type,
descending into its children; at the end its payload, or nothing when that is empty. -/
def forestLookup (ts : List NlAttrTree) (k : UInt32) : List UInt32 → Option (List UInt8)
  | [] => (ts.find? fun t => t.attrType == k.toNat).bind fun t =>
      if t.payload.length = 0 then none else some t.payload
  | k' :: ks => (ts.find? fun t => t.attrType == k.toNat).bind fun t =>
      forestLookup t.children k' ks

@[simp] theorem NlAttrTree.toItem_mmsmKey (t : NlAttrTree) :
    t.toItem.mmsmKey = .u32 (UInt32.ofNat t.attrType) := by
  cases t <;> rfl

@[simp] theorem NlAttrTree.toItem_mmsmValue (t : NlAttrTree) :
    t.toItem.mmsmValue = if t.payload.length = 0 then none else some t.payload := by
  cases t <;> rfl

@[simp] theorem NlAttrTree.toItem_mmsmSubValues (t : NlAttrTree) :
    t.toItem.mmsmSubValues = forestToItems t.children := by
  cases t <;> rfl

theorem ForestFramed.of_mem : ∀ {ts : List NlAttrTree}, ForestFramed ts → ∀ {t}, t ∈ ts → t.Framed
  | _ :: _, ⟨ht, _⟩, _, .head _ => ht
  | _ :: _, ⟨_, hts⟩, _, .tail _ h => ForestFramed.of_mem hts h

theorem NlAttrTree.Framed.children {t : NlAttrTree} (h : t.Framed) : ForestFramed t.children := by
  cases t with
  | leaf => trivial
  | nest _ _ => exact h.2.2

/-- An attribute type is below `2 ^ 14`, so its key is the type itself. -/
theorem uint32_ofNat_eq_iff {n : Nat} (hn : n < 2 ^ 14) (k : UInt32) :
    UInt32.ofNat n = k ↔ n = k.toNat := by
  have hmod : (UInt32.ofNat n).toNat = n := show n % 2 ^ 32 = _ from Nat.mod_eq_of_lt (by omega)
  exact ⟨fun h => hmod.symm.trans (congrArg UInt32.toNat h), fun h => UInt32.toNat.inj (hmod.trans h)⟩

/-- A key search among the items of a framed forest finds the first tree of the type. -/
theorem mmsmFindKey_forestToItems (k : UInt32) : ∀ ts : List NlAttrTree, ForestFramed ts →
    mmsmFindKey (forestToItems ts) (.u32 k) =
      (ts.find? fun t => t.attrType == k.toNat).map NlAttrTree.toItem
  | [], _ => rfl
  | t :: ts, ⟨ht, hts⟩ => by
    have hkey : MmsmKey.u32 (UInt32.ofNat t.attrType) = .u32 k ↔ t.attrType = k.toNat := by
      rw [MmsmKey.u32.injEq]; exact uint32_ofNat_eq_iff (NlAttrTree.framed_bounds ht).1 k
    rw [forestToItems, mmsmFindKey_cons, List.find?_cons, NlAttrTree.toItem_mmsmKey]
    by_cases h : t.attrType = k.toNat
    · rw [if_pos (hkey.2 h), beq_iff_eq.2 h]
      rfl
    · rw [if_neg (mt hkey.1 h), beq_false_of_ne h, mmsmFindKey_forestToItems k ts hts]

/-- Among the items the walk makes of flat attributes, a key search finds the value of the first
attribute of the type. -/
theorem mmsmFindValueByIntkey_encodeAttrs (attrs : List NlAttr) (k : UInt32) :
    mmsmFindValueByIntkey (navigateAttrs (encodeAttrs attrs) (encodeAttrs attrs).length) k =
      (attrs.find? fun a => a.attrType == k.toNat).bind fun a =>
        if a.payload.length = 0 then none else some a.payload := by
  rw [navigateAttrs_encodeAttrs, mmsmFindValueByIntkey]
  induction attrs with
  | nil => rfl
  | cons a attrs ih =>
    have hkey : (walkedItem a.attrType a.payload).mmsmKey = .u32 k ↔ a.attrType = k.toNat := by
      show MmsmKey.u32 _ = _ ↔ _
      rw [MmsmKey.u32.injEq]; exact uint32_ofNat_eq_iff a.type_lt k
    rw [List.map_cons, mmsmFindKey_cons, List.find?_cons]
    by_cases h : a.attrType = k.toNat
    · rw [if_pos (hkey.2 h), beq_iff_eq.2 h]
      rfl
    · rw [if_neg (mt hkey.1 h), beq_false_of_ne h]
      exact ih

/-- **Nested lookups refine the tree.**  Following a path of keys through the items of a framed
forest finds what the path names in the forest. -/
theorem mmsmFindByNestedIntkeys_forestToItems : ∀ (ks : List UInt32) (ts : List NlAttrTree)
    (k : UInt32), ForestFramed ts → mmsmFindByNestedIntkeys (forestToItems ts) k ks = forestLookup ts k ks
  | [], ts, k, hf => by
    rw [mmsmFindByNestedIntkeys, forestLookup, mmsmFindKey_forestToItems k ts hf]
    cases ts.find? fun t => t.attrType == k.toNat <;> simp
  | k' :: ks, ts, k, hf => by
    rw [mmsmFindByNestedIntkeys, forestLookup, mmsmFindKey_forestToItems k ts hf]
    cases h : ts.find? fun t => t.attrType == k.toNat with
    | none => rfl
    | some t =>
      rw [Option.map_some', Option.some_bind, Option.some_bind, NlAttrTree.toItem_mmsmSubValues]
      exact mmsmFindByNestedIntkeys_forestToItems ks t.children k'
        (hf.of_mem (List.mem_of_find?_eq_some h)).children

/-- **`mmsm_find_by_nested_intkeys` over a receive.**  Take the entries `nlCallback` builds for
messages whose attributes frame trees with flat leaves.  Looking up a command and a path of
attribute types finds the payload the path names in the first message of that command, and
nothing when no message has the command: later messages of the same command are never
searched. -/
theorem mmsmFindByNestedIntkeys_receive (msgs : List (UInt8 × List NlAttrTree))
    (hf : ∀ m ∈ msgs, ForestFramed m.2 ∧ ForestLeavesFlat m.2) (cmd k : UInt32) (ks : List UInt32) :
    mmsmFindByNestedIntkeys (msgs.map fun m => nlCallbackEntry ⟨m.1, encodeForest m.2⟩) cmd (k :: ks) =
      (msgs.find? fun m => m.1.toUInt32 == cmd).bind fun m => forestLookup m.2 k ks := by
  induction msgs with
  | nil => rfl
  | cons m msgs ih =>
    have ⟨hfr, hfl⟩ := hf m (List.mem_cons_self _ _)
    have ih := ih fun m' h => hf m' (List.mem_cons_of_mem _ h)
    rw [mmsmFindByNestedIntkeys] at ih ⊢
    rw [List.map_cons, mmsmFindKey_cons, List.find?_cons]
    by_cases h : m.1.toUInt32 = cmd
    · simp [h, nlCallbackEntry_encodeForest _ hfr hfl, mmsmFindByNestedIntkeys_forestToItems ks m.2 k hfr]
    · have hk : (nlCallbackEntry ⟨m.1, encodeForest m.2⟩).mmsmKey ≠ .u32 cmd := by
        simp [nlCallbackEntry, h]
      rw [if_neg hk, ih, beq_false_of_ne h]

/-- A vendor event whose `VENDOR_DATA` nests one attribute, searched for that attribute. -/
theorem mmsmFindByNestedIntkeys_receive_vendorData :
    (∀ m ∈ [((103 : UInt8), [NlAttrTree.nest 197 [.leaf 0 [7]]])],
      ForestFramed m.2 ∧ ForestLeavesFlat m.2) ∧
    mmsmFindByNestedIntkeys ([((103 : UInt8), [NlAttrTree.nest 197 [.leaf 0 [7]]])].map
        fun m => nlCallbackEntry ⟨m.1, encodeForest m.2⟩) 103 [197, 0] =
      ([((103 : UInt8), [NlAttrTree.nest 197 [.leaf 0 [7]]])].find? fun m => m.1.toUInt32 == 103).bind
        fun m => forestLookup m.2 197 [0] :=
  have hf : ∀ m ∈ [((103 : UInt8), [NlAttrTree.nest 197 [.leaf 0 [7]]])],
      ForestFramed m.2 ∧ ForestLeavesFlat m.2 := by
    simp only [List.mem_singleton, forall_eq, ForestFramed, NlAttrTree.Framed, ForestLeavesFlat,
      NlAttrTree.LeavesFlat, and_true]
    exact ⟨⟨by decide, by decide, by decide⟩, attrLooksNested_of_nlaLenField (by decide) (.inr (by decide))⟩
  ⟨hf, mmsmFindByNestedIntkeys_receive _ hf 103 197 [0]⟩

/-- That search finds the nested payload. -/
example : forestLookup [NlAttrTree.nest 197 [.leaf 0 [7]]] 197 [0] = some [7] := by decide

end SmartManager.Backend
