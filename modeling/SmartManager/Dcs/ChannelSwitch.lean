/-
# `SmartManager.Dcs.ChannelSwitch` — the channel switch and its notification
(`do_channel_switch`, `ecsa_done_callback`, `modules/dcs/dcs.c`).

`do_channel_switch` sends hostapd a `CHAN_SWITCH` command, marks the switch in progress and waits
on `csa.done`.  `ecsa_done_callback`, run by the nl80211 thread for a `CH_SWITCH_NOTIFY`, records
the notified 5 GHz frequency, re-reads the current channel from `STATUS` (up to three times,
sleeping a second with the mutex released after each `-EAGAIN`), and signals when a switch is in
progress.  The waiting thread then compares the notified frequency with the 5 GHz frequency
`STATUS` reported.

Each step below is one critical section of `csa.mutex`; the wait ends by a signal, a spurious
wakeup or the timeout.  `in_progress` is true exactly while the scan thread waits (`CsaInv`), so
it is false whenever `do_channel_switch` has returned.  But success only means that the notified
frequency is the one `STATUS` reports (`doChannelSwitchWake_eq_zero_iff`), never that the AP is on
the requested channel: a notification for the channel the AP is already on ends a pending switch
with success (`csaRun_switch_to_other_channel`).  The callback rewrites the current channel and
its primary parameters from any notification while the scan list stays as `init_scan_list` built
it (`csaRun_currentOnly`), so after a switch DCS did not request the scan list no longer matches
the current channel, and a switch to one of its channels fails an assertion
(`csaRun_external_switch`).

The wait itself is `TU_TO_SEC(beacon_interval * dtim_period * dtims_for_csa)` seconds plus a
grace period, formed in `int`: exact while the products fit (`chanSwitchTime_of_fits`), undefined
once they reach `2^31`, which a beacon interval and DTIM period `STATUS` reports can do with a
small `dtims_for_csa` (`chanSwitchTime_overflow`).
-/
import SmartManager.Dcs.Events
import SmartManager.Dcs.ScanThread

namespace SmartManager.Dcs

open SmartManager.Data SmartManager.Backend SmartManager.Libc

/-! ## §1 — state and actions -/

/-- `ENODATA`, `EBADR`, `ETIMEDOUT`, `EPROTO` (Linux). -/
def eNoData : Int := 61
def eBadr : Int := 53
def eTimedOut : Int := 110
def eProto : Int := 71

/-- `MAX_CHANNEL_UPDATE_RETRIES`. -/
def maxChannelUpdateRetries : Nat := 3

/-- The `csa` part of `struct dcs`. -/
structure CsaState where
  inProgress : Bool
  freq5g : UInt32
  deriving DecidableEq, Repr

/-- Where `do_channel_switch` is: not running, waiting on `csa.done` for a switch to `target`, or
returned. -/
inductive SwitchPc where
  | idle
  | waiting (target : Nat)
  | returned (target : Nat) (ret : Int)
  deriving DecidableEq, Repr

/-- Where `ecsa_done_callback` is: not running, or asleep with the mutex released after `retries`
updates returned `-EAGAIN`. -/
inductive CallbackPc where
  | idle
  | sleeping (retries : Nat)
  deriving DecidableEq, Repr

/-- The shared context, the CSA state, the two threads, and a ghost flag for a signal sent since
the wait began. -/
structure CsaSystem where
  ctx : DcsContext
  csa : CsaState
  sw : SwitchPc
  cb : CallbackPc
  signalled : Bool
  deriving DecidableEq, Repr

/-- The system as `dcs_create` leaves it (`calloc` zeroed the CSA state). -/
def CsaSystem.start (ctx : DcsContext) : CsaSystem := ⟨ctx, ⟨false, 0⟩, .idle, .idle, false⟩

/-- A step of either thread. -/
inductive CsaAction where
  /-- `do_channel_switch(target)` up to the wait, hostapd answering the command with `reply`. -/
  | switchStart (target : Nat) (reply : List MmsmDataItem)
  /-- Its wait ends, by the timeout or otherwise. -/
  | switchWake (timedOut : Bool)
  /-- The scan thread goes on after `do_channel_switch` returned. -/
  | switchDone
  /-- `ecsa_done_callback` on a received chain, up to its first update, `STATUS` answering
  `status`. -/
  | notify (result status : List MmsmDataItem)
  /-- The callback wakes from its sleep and tries again. -/
  | retry (status : List MmsmDataItem)

/-! ## §2 — `ecsa_done_callback` -/

/-- The end of the callback after its last update returned `ret`: a failed update forgets the
notified frequency; a switch in progress is signalled. -/
def ecsaFinish (s : CsaSystem) (ret : Int) : CsaSystem :=
  let csa := if ret ≠ 0 then { s.csa with freq5g := 0 } else s.csa
  { s with csa, cb := .idle, signalled := s.signalled || csa.inProgress }

/-- One update of the callback's loop, `retries` updates having returned `-EAGAIN`: another
`-EAGAIN` sends it to sleep, anything else ends it. -/
def ecsaAttempt (s : CsaSystem) (retries : Nat) (status : List MmsmDataItem) : CsaSystem :=
  let r := updateCurrentChannel s.ctx status
  if r.1 = -eAgain then { s with ctx := r.2, cb := .sleeping (retries + 1) }
  else ecsaFinish { s with ctx := r.2 } r.1

/-- The callback from its lock: the head assertion and the notified frequency, then the first
update. -/
def ecsaDoneCallbackStart (s : CsaSystem) (result status : List MmsmDataItem) :
    Except DcsFault CsaSystem :=
  (ecsaNotifiedFreq result).map fun f => ecsaAttempt { s with csa.freq5g := f } 0 status

/-- The callback after a sleep: another update while fewer than `MAX_CHANNEL_UPDATE_RETRIES` have
been made, the end with `-EAGAIN` after that. -/
def ecsaDoneCallbackResume (s : CsaSystem) (retries : Nat) (status : List MmsmDataItem) :
    CsaSystem :=
  if retries < maxChannelUpdateRetries then ecsaAttempt s retries status
  else ecsaFinish s (-eAgain)

/-! ## §3 — `do_channel_switch` -/

/-- The `exit` label of `do_channel_switch`: the switch is over and the notified frequency is
forgotten. -/
def switchExit (s : CsaSystem) (target : Nat) (ret : Int) : CsaSystem :=
  { s with csa := ⟨false, 0⟩, sw := .returned target ret }

/-- `do_channel_switch` up to the wait.  With CSA disabled it returns `0` at once.  Otherwise it
builds the `CHAN_SWITCH` command, whose primary centre can fail its assertions, and sends it; a
`NULL` reply or one whose first key is not `OK` ends the switch, anything else starts the wait. -/
def doChannelSwitchStart (s : CsaSystem) (target : Nat) (reply : List MmsmDataItem) :
    Except DcsFault CsaSystem :=
  if !s.ctx.config.csaEnabled then .ok { s with sw := .returned target 0 } else
  (calculateNewPrimChCenterFreq s.ctx (s.ctx.channelAt target).ch).map fun _ =>
    match reply with
    | [] => switchExit s target (-eNoData)
    | r :: _ =>
      if r.mmsmKey = .string "OK" then
        { s with csa.inProgress := true, sw := .waiting target, signalled := false }
      else switchExit s target (-eBadr)

/-- The end of the wait: `-ETIMEDOUT` on the timeout, otherwise `0` when the notified frequency
is the 5 GHz frequency `STATUS` reported and `-EPROTO` when it is not. -/
def doChannelSwitchWake (s : CsaSystem) (target : Nat) (timedOut : Bool) : CsaSystem :=
  switchExit { s with signalled := false } target <|
    if timedOut then -eTimedOut else if s.csa.freq5g = s.ctx.current5gFreq then 0 else -eProto

/-- One step; `none` when the acting thread is not at that point. -/
def csaStep (s : CsaSystem) : CsaAction → Option (Except DcsFault CsaSystem)
  | .switchStart target reply => match s.sw with
    | .idle => some (doChannelSwitchStart s target reply)
    | _ => none
  | .switchWake timedOut => match s.sw with
    | .waiting target => some (.ok (doChannelSwitchWake s target timedOut))
    | _ => none
  | .switchDone => match s.sw with
    | .returned _ _ => some (.ok { s with sw := .idle })
    | _ => none
  | .notify result status => match s.cb with
    | .idle => some (ecsaDoneCallbackStart s result status)
    | _ => none
  | .retry status => match s.cb with
    | .sleeping retries => some (.ok (ecsaDoneCallbackResume s retries status))
    | _ => none

/-- A run: the steps in turn, stopping at the first that is not enabled or stops the process. -/
def csaRun (s : CsaSystem) : List CsaAction → Option (Except DcsFault CsaSystem)
  | [] => some (.ok s)
  | act :: acts =>
    match csaStep s act with
    | some (.ok s') => csaRun s' acts
    | r => r

/-! ## §4 — what a step can do -/

/-- **What a step can do**: each enabled action, at the point of its thread it needs. -/
theorem csaStep_cases {s s' : CsaSystem} {act : CsaAction} (h : csaStep s act = some (.ok s')) :
    (s.sw = .idle ∧ ∃ target reply, doChannelSwitchStart s target reply = .ok s') ∨
    (∃ target timedOut, s.sw = .waiting target ∧ s' = doChannelSwitchWake s target timedOut) ∨
    (∃ target ret, s.sw = .returned target ret ∧ s' = { s with sw := .idle }) ∨
    (s.cb = .idle ∧ ∃ result status, ecsaDoneCallbackStart s result status = .ok s') ∨
    (∃ retries status, s.cb = .sleeping retries ∧
      s' = ecsaDoneCallbackResume s retries status) := by
  cases act with
  | switchStart target reply =>
    simp only [csaStep] at h
    split at h
    · exact .inl ⟨‹_›, target, reply, Option.some.inj h⟩
    · cases h
  | switchWake timedOut =>
    simp only [csaStep] at h
    split at h
    · cases h; exact .inr (.inl ⟨_, timedOut, ‹_›, rfl⟩)
    · cases h
  | switchDone =>
    simp only [csaStep] at h
    split at h
    · cases h; exact .inr (.inr (.inl ⟨_, _, ‹_›, rfl⟩))
    · cases h
  | notify result status =>
    simp only [csaStep] at h
    split at h
    · exact .inr (.inr (.inr (.inl ⟨‹_›, result, status, Option.some.inj h⟩)))
    · cases h
  | retry status =>
    simp only [csaStep] at h
    split at h
    · cases h; exact .inr (.inr (.inr (.inr ⟨_, status, ‹_›, rfl⟩)))
    · cases h

/-- `do_channel_switch` up to the wait either returns at once, or ends the switch at `exit`, or
starts the wait with `in_progress` set. -/
theorem doChannelSwitchStart_ok {s s' : CsaSystem} {target : Nat} {reply : List MmsmDataItem}
    (h : doChannelSwitchStart s target reply = .ok s') :
    s' = { s with sw := .returned target 0 } ∨ (∃ ret, s' = switchExit s target ret) ∨
      s' = { s with csa.inProgress := true, sw := .waiting target, signalled := false } := by
  unfold doChannelSwitchStart at h
  split_ifs at h
  · cases h; exact .inl rfl
  · cases hc : calculateNewPrimChCenterFreq s.ctx (s.ctx.channelAt target).ch with
    | error e => rw [hc] at h; cases h
    | ok c =>
      rw [hc] at h
      cases Except.ok.inj h
      split
      · exact .inr (.inl ⟨_, rfl⟩)
      · split_ifs
        exacts [.inr (.inr rfl), .inr (.inl ⟨_, rfl⟩)]

/-- The callback from its lock records the notified frequency and makes its first update. -/
theorem ecsaDoneCallbackStart_ok {s s' : CsaSystem} {result status : List MmsmDataItem}
    (h : ecsaDoneCallbackStart s result status = .ok s') :
    ∃ f, s' = ecsaAttempt { s with csa.freq5g := f } 0 status := by
  unfold ecsaDoneCallbackStart at h
  cases hf : ecsaNotifiedFreq result with
  | error e => rw [hf] at h; cases h
  | ok f => rw [hf] at h; exact ⟨f, (Except.ok.inj h).symm⟩

/-- A property every step keeps holds along every run. -/
theorem csaRun_induction {P : CsaSystem → Prop}
    (hstep : ∀ {s s' : CsaSystem} {act : CsaAction}, P s → csaStep s act = some (.ok s') → P s') :
    ∀ (acts : List CsaAction) {s s' : CsaSystem}, P s → csaRun s acts = some (.ok s') → P s'
  | [], s, s', hs, h => by cases h; exact hs
  | act :: acts, s, s', hs, h => by
    simp only [csaRun] at h
    cases hact : csaStep s act with
    | none => rw [hact] at h; cases h
    | some r =>
      rw [hact] at h
      cases r with
      | error e => cases h
      | ok s₁ => exact csaRun_induction hstep acts (hstep hs hact) h

/-! ## §5 — `in_progress` is set exactly while the scan thread waits -/

/-- **The CSA invariant**: `in_progress` is set exactly while `do_channel_switch` waits, and a
signal is pending only then. -/
structure CsaInv (s : CsaSystem) : Prop where
  inProgress : s.csa.inProgress = true ↔ ∃ t, s.sw = .waiting t
  signalled : s.signalled = true → ∃ t, s.sw = .waiting t

theorem CsaInv.start (ctx : DcsContext) : CsaInv (CsaSystem.start ctx) :=
  ⟨by simp [CsaSystem.start], by simp [CsaSystem.start]⟩

/-- The invariant does not read the context. -/
theorem CsaInv.withCtx {s : CsaSystem} (hs : CsaInv s) (ctx : DcsContext) :
    CsaInv { s with ctx } := ⟨hs.inProgress, hs.signalled⟩

theorem ecsaFinish_inv {s : CsaSystem} (hs : CsaInv s) (ret : Int) : CsaInv (ecsaFinish s ret) := by
  refine ⟨?_, fun h => ?_⟩
  · simpa [ecsaFinish, apply_ite CsaState.inProgress] using hs.inProgress
  · simp only [ecsaFinish, Bool.or_eq_true, apply_ite CsaState.inProgress, ite_self] at h
    exact h.elim hs.signalled hs.inProgress.1

theorem ecsaAttempt_inv {s : CsaSystem} (hs : CsaInv s) (retries : Nat)
    (status : List MmsmDataItem) : CsaInv (ecsaAttempt s retries status) := by
  unfold ecsaAttempt
  dsimp only
  split_ifs
  · exact ⟨hs.inProgress, hs.signalled⟩
  · exact ecsaFinish_inv (hs.withCtx _) _

/-- **Every step keeps the CSA invariant.** -/
theorem csaStep_inv {s s' : CsaSystem} {act : CsaAction} (hs : CsaInv s)
    (h : csaStep s act = some (.ok s')) : CsaInv s' := by
  rcases csaStep_cases h with ⟨hpc, _, _, h⟩ | ⟨_, _, -, rfl⟩ | ⟨_, _, hpc, rfl⟩ |
    ⟨-, _, _, h⟩ | ⟨_, _, -, rfl⟩
  · have hip : s.csa.inProgress = false := by simpa [hpc] using hs.inProgress.not
    have hsig : s.signalled = false := by simpa [hpc] using mt hs.signalled
    rcases doChannelSwitchStart_ok h with rfl | ⟨_, rfl⟩ | rfl
    · exact ⟨by simp [hip], by simp [hsig]⟩
    · exact ⟨by simp [switchExit], by simp [switchExit, hsig]⟩
    · exact ⟨by simp, by simp⟩
  · exact ⟨by simp [doChannelSwitchWake, switchExit], by simp [doChannelSwitchWake, switchExit]⟩
  · exact ⟨by simpa [hpc] using hs.inProgress, by simpa [hpc] using hs.signalled⟩
  · obtain ⟨f, rfl⟩ := ecsaDoneCallbackStart_ok h
    exact ecsaAttempt_inv (show CsaInv { s with csa.freq5g := f } from
      ⟨hs.inProgress, hs.signalled⟩) _ _
  · unfold ecsaDoneCallbackResume
    split_ifs
    exacts [ecsaAttempt_inv hs _ _, ecsaFinish_inv hs _]

/-- **Along every run, `in_progress` is set exactly while the scan thread waits.** -/
theorem csaRun_inv (acts : List CsaAction) {s s' : CsaSystem} (hs : CsaInv s)
    (h : csaRun s acts = some (.ok s')) : CsaInv s' :=
  csaRun_induction csaStep_inv acts hs h

/-- Once `do_channel_switch` has returned, `in_progress` is down. -/
theorem CsaInv.not_inProgress {s : CsaSystem} (hs : CsaInv s) {t : Nat} {ret : Int}
    (h : s.sw = .returned t ret) : s.csa.inProgress = false := by
  simpa [h] using hs.inProgress

/-- **What a successful switch means**: the wait returns `0` exactly when it did not time out
and the notified frequency is the 5 GHz frequency `STATUS` reported.  The target is not
consulted. -/
theorem doChannelSwitchWake_eq_zero_iff (s : CsaSystem) (target : Nat) (timedOut : Bool) :
    (doChannelSwitchWake s target timedOut).sw = .returned target 0 ↔
      timedOut = false ∧ s.csa.freq5g = s.ctx.current5gFreq := by
  cases timedOut <;> by_cases h : s.csa.freq5g = s.ctx.current5gFreq <;>
    simp [doChannelSwitchWake, switchExit, h, eTimedOut, eProto]

/-! ## §6 — the context along a run -/

@[simp] theorem ecsaFinish_ctx (s : CsaSystem) (ret : Int) : (ecsaFinish s ret).ctx = s.ctx := rfl

theorem ecsaAttempt_currentOnly (s : CsaSystem) (retries : Nat) (status : List MmsmDataItem) :
    CurrentOnly s.ctx (ecsaAttempt s retries status).ctx := by
  unfold ecsaAttempt
  dsimp only
  split_ifs <;> exact updateCurrentChannel_currentOnly s.ctx status

/-- **Only the callback writes the context, and only the current channel's fields**: the scan
list and the table stay as they were along a step. -/
theorem csaStep_currentOnly {s s' : CsaSystem} {act : CsaAction}
    (h : csaStep s act = some (.ok s')) : CurrentOnly s.ctx s'.ctx := by
  rcases csaStep_cases h with ⟨-, _, _, h⟩ | ⟨_, _, -, rfl⟩ | ⟨_, _, -, rfl⟩ | ⟨-, _, _, h⟩ |
    ⟨_, _, -, rfl⟩
  · rcases doChannelSwitchStart_ok h with rfl | ⟨_, rfl⟩ | rfl <;> exact .refl _
  · exact .refl _
  · exact .refl _
  · obtain ⟨f, rfl⟩ := ecsaDoneCallbackStart_ok h
    exact ecsaAttempt_currentOnly _ _ _
  · unfold ecsaDoneCallbackResume
    split_ifs
    exacts [ecsaAttempt_currentOnly _ _ _, .refl _]

/-- Along every run the scan list and the table stay as `init_scan_list` left them. -/
theorem csaRun_currentOnly (acts : List CsaAction) {s s' : CsaSystem}
    (h : csaRun s acts = some (.ok s')) : CurrentOnly s.ctx s'.ctx :=
  @csaRun_induction (fun t => CurrentOnly s.ctx t.ctx) (fun hs hact => hs.trans
    (csaStep_currentOnly hact)) acts s s' (.refl _) h

/-! ## §7 — runs -/

/-- hostapd's reply `OK` to a command. -/
def okReply : List MmsmDataItem := [mmsmDataItemAlloc.setKeyStr "OK"]

/-- **A pending switch succeeds without the AP moving.**  The AP is on the first channel of
`twoChannelContext` and DCS asks for the second; hostapd accepts.  A notification carrying the
5 GHz frequency of the first channel, which the AP is still on, then arrives (a late one from an
earlier switch to that channel, or an unsolicited one); `STATUS` reports the first channel, the
callback signals, and the switch returns `0` with the current channel still the first. -/
theorem csaRun_switch_to_other_channel :
    ∃ s₁ s₂, csaRun (CsaSystem.start twoChannelContext)
        [.switchStart 1 okReply, .notify [nlCallbackEntry (chSwitchNotifyMsg 5180)] statusOn902500] =
          some (.ok s₁) ∧ s₁.signalled = true ∧
      csaRun s₁ [.switchWake false] = some (.ok s₂) ∧
      s₂.sw = .returned 1 0 ∧ s₂.csa.inProgress = false ∧ s₂.ctx.currentChannel = some 0 := by
  -- `in_progress` is down as on every run from the start: only the target goes unchecked
  have hip {s₁ s₂ : CsaSystem} (h₁ : csaRun (CsaSystem.start twoChannelContext)
      [.switchStart 1 okReply, .notify [nlCallbackEntry (chSwitchNotifyMsg 5180)] statusOn902500] =
        some (.ok s₁)) (h₂ : csaRun s₁ [.switchWake false] = some (.ok s₂)) :
      s₂.sw = .returned 1 0 → s₂.csa.inProgress = false :=
    (csaRun_inv _ (csaRun_inv _ (.start _) h₁) h₂).not_inProgress
  rw [chSwitchNotifyMsg_entry (by decide)] at hip ⊢
  exact ⟨_, _, rfl, rfl, rfl, rfl, hip rfl rfl rfl, rfl⟩

/-- Two 1 MHz channels, at 902.5 and 903.5 MHz, and a 2 MHz channel at 903 MHz. -/
def mixedWidthTable : List MorseCmdChannelInfo := [⟨902500, 1, 1⟩, ⟨903500, 1, 3⟩, ⟨903000, 2, 2⟩]

/-- hostapd's `STATUS` for an AP on the 2 MHz channel with a 2 MHz primary. -/
def statusOn903000 : List MmsmDataItem :=
  [statusLine "s1g_freq" "903000", statusLine "freq" "5200", statusLine "s1g_bw" "2",
    statusLine "s1g_prim_chwidth" "2", statusLine "s1g_prim_1mhz_chan_index" "0",
    statusLine "beacon_int" "100", statusLine "dtim_period" "1"]

/-- **After a switch DCS did not request, the scan list no longer fits the current channel.**
`dcs_create` starts with the AP on the 1 MHz channel at 902.5 MHz and scans the two 1 MHz
channels.  The AP is then moved to the 2 MHz channel; the callback makes it the current channel
with a 2 MHz primary, and the scan list keeps its 1 MHz channels.  A switch to one of them fails
the assertion on the primary centre, and the scan thread gets there after three rounds. -/
theorem csaRun_external_switch :
    ∃ t s, dcsCreateLive ⟨true⟩ (.ewma 10 50 3) mixedWidthTable statusOn902500 = .ok (some t) ∧
      t.ctx.scanList = [0, 1] ∧
      csaRun (CsaSystem.start t.ctx)
        [.notify [nlCallbackEntry (chSwitchNotifyMsg 5200)] statusOn903000] = some (.ok s) ∧
      s.ctx.scanList = [0, 1] ∧ s.ctx.currentChannel = some 2 ∧
      (s.ctx.channelAt 0).ch.bandwidthMhz ≠ (s.ctx.channelAt 2).ch.bandwidthMhz ∧
      csaStep s (.switchStart 0 okReply) = some (.error .assertion) ∧
      scanRun { t with ctx := s.ctx } (List.replicate 6 ⟨some 50, 0⟩) = .error .assertion := by
  -- the callback writes only the current channel: the scan list stays as `dcs_create` built it
  have hscan {t : ScanThread} {s : CsaSystem}
      (_ : dcsCreateLive ⟨true⟩ (.ewma 10 50 3) mixedWidthTable statusOn902500 = .ok (some t))
      (h : csaRun (CsaSystem.start t.ctx)
        [.notify [nlCallbackEntry (chSwitchNotifyMsg 5200)] statusOn903000] = some (.ok s)) :
      s.ctx.scanList = t.ctx.scanList :=
    (csaRun_currentOnly _ h).scanList_eq
  rw [chSwitchNotifyMsg_entry (by decide)] at hscan ⊢
  exact ⟨_, _, rfl, rfl, rfl, hscan rfl rfl, rfl, by decide, rfl, rfl⟩

/-! ## §8 — the length of the wait -/

/-- `DCS_CHAN_SWITCH_GRACE_SECS`. -/
def dcsChanSwitchGraceSecs : Int := 5

/-- The wait of `do_channel_switch` in seconds, `TU_TO_SEC(beacon_interval * dtim_period *
dtims_for_csa) + DCS_CHAN_SWITCH_GRACE_SECS` with `TU_TO_SEC(v) = v * 1024 / 1000000`.  The
`uint16_t` and `uint8_t` fields promote to `int` (their product, at most `65535 * 255`, fits),
`dtims_for_csa` is the configuration's `int`, and the result is stored in a `uint32_t`; `none`
when a product overflows `int`. -/
def chanSwitchTime (ctx : DcsContext) (dtimsForCsa : Int) : Option UInt32 := do
  let tu ← intMul (ctx.beaconInterval.toNat * ctx.dtimPeriod.toNat) dtimsForCsa
  let us ← intMul tu 1024
  pure (u32OfInt (us.tdiv 1000000 + dcsChanSwitchGraceSecs))

/-- When the products fit an `int`, the wait is the exact one, at least the grace period. -/
theorem chanSwitchTime_of_fits {ctx : DcsContext} {d : Int} (hd : 0 ≤ d)
    (h : (ctx.beaconInterval.toNat * ctx.dtimPeriod.toNat : Int) * d * 1024 < 2 ^ 31) :
    chanSwitchTime ctx d =
      some (u32OfInt ((ctx.beaconInterval.toNat * ctx.dtimPeriod.toNat : Int) * d * 1024 / 1000000 +
        dcsChanSwitchGraceSecs)) := by
  have h0 : (0 : Int) ≤ ctx.beaconInterval.toNat * ctx.dtimPeriod.toNat * d := by positivity
  have e₁ : intMul (ctx.beaconInterval.toNat * ctx.dtimPeriod.toNat) d =
      some ((ctx.beaconInterval.toNat * ctx.dtimPeriod.toNat : Int) * d) :=
    intMul_of_mem (by omega) (by omega)
  have e₂ : intMul ((ctx.beaconInterval.toNat * ctx.dtimPeriod.toNat : Int) * d) 1024 =
      some ((ctx.beaconInterval.toNat * ctx.dtimPeriod.toNat : Int) * d * 1024) :=
    intMul_of_mem (by omega) h
  simp only [chanSwitchTime, e₁, e₂, Option.bind_eq_bind, Option.some_bind]
  rw [Int.tdiv_eq_ediv (by omega) (by norm_num)]
  rfl

/-- **The wait overflows `int`.**  Whenever `beacon_interval · dtim_period · dtims_for_csa · 1024`
reaches `2^31`, a product of `TU_TO_SEC` overflows `int`, whose behaviour C leaves undefined,
and `do_channel_switch` computes no wait. -/
theorem chanSwitchTime_overflow {ctx : DcsContext} {d : Int}
    (h : 2 ^ 31 ≤ (ctx.beaconInterval.toNat * ctx.dtimPeriod.toNat : Int) * d * 1024) :
    chanSwitchTime ctx d = none := by
  simp only [chanSwitchTime]
  cases h₁ : intMul (ctx.beaconInterval.toNat * ctx.dtimPeriod.toNat) d with
  | none => rfl
  | some tu =>
    obtain rfl := intMul_eq_some h₁
    simp only [Option.bind_eq_bind, Option.some_bind, intMul_of_le h, Option.none_bind]

/-- hostapd's `STATUS` on 902.5 MHz with a beacon interval of 1000 TU and a DTIM period of 255. -/
def statusBeacon1000 : List MmsmDataItem :=
  [statusLine "s1g_freq" "902500", statusLine "freq" "5180", statusLine "s1g_bw" "1",
    statusLine "s1g_prim_chwidth" "1", statusLine "s1g_prim_1mhz_chan_index" "0",
    statusLine "beacon_int" "1000", statusLine "dtim_period" "255"]

/-- `update_current_channel` stores a beacon interval of 1000 and a DTIM period of 255, and with
`dtims_for_csa = 10` the wait overflows. -/
theorem chanSwitchTime_beacon_1000 :
    (updateCurrentChannel twoChannelContext statusBeacon1000).1 = 0 ∧
      (updateCurrentChannel twoChannelContext statusBeacon1000).2.beaconInterval = 1000 ∧
      (updateCurrentChannel twoChannelContext statusBeacon1000).2.dtimPeriod = 255 ∧
      2 ^ 31 ≤ ((updateCurrentChannel twoChannelContext statusBeacon1000).2.beaconInterval.toNat *
        (updateCurrentChannel twoChannelContext statusBeacon1000).2.dtimPeriod.toNat : Int) * 10 * 1024 ∧
      chanSwitchTime (updateCurrentChannel twoChannelContext statusBeacon1000).2 10 = none :=
  ⟨rfl, rfl, rfl, by decide, chanSwitchTime_overflow (by decide)⟩

end SmartManager.Dcs
