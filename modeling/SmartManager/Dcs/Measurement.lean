/-
# `SmartManager.Dcs.Measurement` — the measurement slot (`get_channel_measurement`,
`get_channel_measurement_from_chip`, `measurement_done_callback`, `modules/dcs/dcs.c`).

In live mode the scan thread allocates a zeroed `channel_measurement`, publishes it in
`scan.result`, sends the OCS_DRIVER request and waits on `scan.done` for at most
`WAIT_TIMEOUT_SEC`.  On the nl80211 thread the callback fills the published allocation from an
OCS_DONE event, or frees it and clears the slot when the event carries no record, and signals.

Each step below is one critical section of `scan.mutex`: the scan thread holds the mutex from
`get_channel_measurement`'s lock to its unlock except while it waits, the callback from its lock
to its unlock, so an interleaving of the two threads is a sequence of these steps.  The wait ends
by a signal, by a spurious wakeup or by the timeout.  Which request an OCS_DONE event answers is
not in the event; it is ghost state here, as are the log of `free` calls and the measurements the
thread processed.

The slot is `NULL` whenever no request is pending (`MeasInv`), so the assertion at the start of
`get_channel_measurement` holds.  But the thread returns its own pointer whenever the wait does
not time out: after a callback that invalidated the slot it returns freed memory, which is
processed and freed a second time, and after a spurious wakeup the zeroed allocation
(`measRun_invalidated_slot`); and a completion that arrives after its request timed out fills
the next request's allocation (`measRun_late_completion`).
-/
import SmartManager.Dcs.Events

namespace SmartManager.Dcs

open SmartManager.Data SmartManager.Backend

/-! ## §1 — state and actions -/

/-- What the callback copied into a measurement: the OCS_DONE record it read `metric`, `noise`,
`time_listen` and `time_rx` from (its layout is declared in the absent `morse_commands.h`, so it
is kept as bytes), and the request the event answered, which the code does not know. -/
structure OcsFill where
  record : List UInt8
  answers : Nat
  deriving DecidableEq, Repr

/-- Where the scan thread is: outside `get_channel_measurement`; waiting on `scan.done` for
request `req` on channel `ch`, its local `meas` being allocation `a`; or returned from
`get_channel_measurement` with a measurement (`none` is `NULL`) it has still to process. -/
inductive ScanPc where
  | idle
  | waiting (req ch a : Nat)
  | returned (ch : Nat) (meas : Option Nat)
  deriving DecidableEq, Repr

/-- The slot, the allocations and the ghost records.  An allocation is named by its index in
`cells`; a cell is `none` while it holds the zeroes `calloc` gave it. -/
structure MeasState where
  cells : List (Option OcsFill)
  released : List Nat
  slot : Option Nat
  requests : List Nat
  pc : ScanPc
  processed : List (Nat × Nat × Option OcsFill)
  signalled : Bool
  deriving DecidableEq, Repr

/-- The state before the first measurement. -/
def MeasState.init : MeasState := ⟨[], [], none, [], .idle, [], false⟩

/-- How far `get_channel_measurement_from_chip` gets before it waits. -/
inductive RequestOutcome where
  | allocFailed
  | requestFailed
  | sent
  deriving DecidableEq, Repr

/-- A step of either thread. -/
inductive MeasAction where
  /-- The scan thread measures channel `ch`, up to the wait. -/
  | request (ch : Nat) (outcome : RequestOutcome)
  /-- Its wait ends, by the timeout or otherwise. -/
  | wake (timedOut : Bool)
  /-- It processes and frees the measurement it got, or counts the failure. -/
  | consume
  /-- The nl80211 thread runs `measurement_done_callback` on a received chain; `answers` is the
  request the event answers. -/
  | event (result : List MmsmDataItem) (answers : Nat)

/-! ## §2 — the steps -/

/-- `get_channel_measurement` up to the wait: the assertion that no measurement is in flight,
then `calloc`, the slot, and the OCS_DRIVER request; on a failure the allocation is freed and the
slot cleared. -/
def getChannelMeasurementStart (s : MeasState) (ch : Nat) : RequestOutcome →
    Except DcsFault MeasState
  | o => if s.slot ≠ none then .error .assertion else
    match o with
    | .allocFailed => .ok { s with pc := .returned ch none }
    | .requestFailed =>
      .ok { s with cells := s.cells ++ [none], released := s.released ++ [s.cells.length],
                   pc := .returned ch none }
    | .sent =>
      .ok { s with cells := s.cells ++ [none], slot := some s.cells.length,
                   requests := s.requests ++ [ch],
                   pc := .waiting s.requests.length ch s.cells.length, signalled := false }

/-- The end of the wait and the rest of `get_channel_measurement`: on the timeout the thread
frees its allocation and returns `NULL`, otherwise it returns its allocation; the slot is
cleared either way. -/
def getChannelMeasurementWake (s : MeasState) (ch a : Nat) (timedOut : Bool) : MeasState :=
  if timedOut then
    { s with released := s.released ++ [a], slot := none, pc := .returned ch none }
  else { s with slot := none, pc := .returned ch (some a), signalled := false }

/-- `measurement_schedule_thread_fn` on what `get_channel_measurement` returned: a measurement
is processed (its contents read) and freed. -/
def consumeMeasurement (s : MeasState) (ch : Nat) : Option Nat → MeasState
  | none => { s with pc := .idle }
  | some a => { s with processed := s.processed ++ [(ch, a, s.cells.getD a none)],
                       released := s.released ++ [a], pc := .idle }

/-- `measurement_done_callback`: an event that is not OCS_DONE is not its; with an empty slot the
completion came after its request timed out and is dropped; an event without a record frees the
slot's allocation and clears the slot; otherwise the allocation is filled.  The last two signal.
-/
def measurementDoneCallback (s : MeasState) (result : List MmsmDataItem) (answers : Nat) :
    MeasState :=
  if !isMorseOcsDoneVendorEvent result then s else
  match s.slot with
  | none => s
  | some a =>
    match getOcsDoneFromVendorEvent result with
    | none => { s with released := s.released ++ [a], slot := none, signalled := true }
    | some r => { s with cells := s.cells.set a (some ⟨r, answers⟩), signalled := true }

/-- One step; `none` when the acting thread is not at that point. -/
def measStep (s : MeasState) : MeasAction → Option (Except DcsFault MeasState)
  | .request ch o => match s.pc with
    | .idle => some (getChannelMeasurementStart s ch o)
    | _ => none
  | .wake timedOut => match s.pc with
    | .waiting _ ch a => some (.ok (getChannelMeasurementWake s ch a timedOut))
    | _ => none
  | .consume => match s.pc with
    | .returned ch r => some (.ok (consumeMeasurement s ch r))
    | _ => none
  | .event result answers => some (.ok (measurementDoneCallback s result answers))

/-- A run: the steps in turn, stopping at the first that is not enabled or that stops the
process. -/
def measRun (s : MeasState) : List MeasAction → Option (Except DcsFault MeasState)
  | [] => some (.ok s)
  | act :: acts =>
    match measStep s act with
    | some (.ok s') => measRun s' acts
    | r => r

/-! ## §3 — the slot is `NULL` whenever no request is pending -/

/-- **The slot invariant**: a non-`NULL` slot is the allocation of the request being waited
for. -/
def MeasInv (s : MeasState) : Prop :=
  ∀ a, s.slot = some a → ∃ req ch, s.pc = .waiting req ch a

theorem MeasInv.init : MeasInv MeasState.init := fun _ h => by cases h

/-- In a state of the invariant the assertion of `get_channel_measurement` holds. -/
theorem MeasInv.slot_eq_none {s : MeasState} (hs : MeasInv s) (hpc : s.pc = .idle) :
    s.slot = none := by
  cases h : s.slot with
  | none => rfl
  | some a => obtain ⟨_, _, h'⟩ := hs a h; rw [hpc] at h'; cases h'

theorem measurementDoneCallback_inv {s : MeasState} (hs : MeasInv s) (result : List MmsmDataItem)
    (answers : Nat) : MeasInv (measurementDoneCallback s result answers) := by
  unfold measurementDoneCallback
  split
  · exact hs
  · split
    · exact hs
    · split
      · intro a h; cases h
      · exact hs

/-- **A step keeps the invariant, and never stops the process.** -/
theorem measStep_inv {s : MeasState} {act : MeasAction} {r : Except DcsFault MeasState}
    (hs : MeasInv s) (h : measStep s act = some r) : ∃ s', r = .ok s' ∧ MeasInv s' := by
  cases act with
  | request ch o =>
    simp only [measStep] at h
    split at h
    · cases h
      rename_i hpc
      have hslot := hs.slot_eq_none hpc
      cases o <;>
        simp only [getChannelMeasurementStart, hslot, ne_eq, not_true_eq_false, ite_false] <;>
        refine ⟨_, rfl, fun a ha => ?_⟩ <;> simp_all
    · cases h
  | wake timedOut =>
    simp only [measStep] at h
    split at h
    · cases h
      refine ⟨_, rfl, fun a ha => ?_⟩
      cases timedOut <;> simp [getChannelMeasurementWake] at ha
    · cases h
  | consume =>
    simp only [measStep] at h
    split at h
    · cases h
      rename_i ch r hpc
      refine ⟨_, rfl, fun a ha => ?_⟩
      cases r <;> simp only [consumeMeasurement] at ha <;>
        obtain ⟨_, _, h'⟩ := hs a ha <;> rw [hpc] at h' <;> cases h'
    · cases h
  | event result answers =>
    cases h
    exact ⟨_, rfl, measurementDoneCallback_inv hs result answers⟩

/-- **Along every interleaving the slot is `NULL` whenever no request is pending**, and no step
stops the process: a run from the initial state that does not block ends in a state of the
invariant. -/
theorem measRun_inv : ∀ (acts : List MeasAction) {s : MeasState} {r : Except DcsFault MeasState},
    MeasInv s → measRun s acts = some r → ∃ s', r = .ok s' ∧ MeasInv s'
  | [], s, r, hs, h => by cases h; exact ⟨s, rfl, hs⟩
  | act :: acts, s, r, hs, h => by
    simp only [measRun] at h
    cases hstep : measStep s act with
    | none => rw [hstep] at h; cases h
    | some r' =>
      obtain ⟨s', rfl, hs'⟩ := measStep_inv hs hstep
      rw [hstep] at h
      exact measRun_inv acts hs' h

/-! ## §4 — what the scan thread gets -/

/-- **A measurement is returned after it was freed, or before it was filled.**  On an OCS_DONE
event without a record the callback frees the published allocation, clears the slot and
signals; the woken thread returns its own pointer, which is processed and freed a second time.
After a spurious wakeup the thread returns the zeroed allocation and processes it. -/
theorem measRun_invalidated_slot :
    (∃ s₁ s₂, measRun MeasState.init [.request 7 .sent,
        .event [nlCallbackEntry (morseVendorEventMsg morseVendorEventOcsDone none)] 0] =
          some (.ok s₁) ∧ s₁.slot = none ∧ s₁.released = [0] ∧ s₁.signalled = true ∧
        measRun s₁ [.wake false, .consume] = some (.ok s₂) ∧
        s₂.processed = [(7, 0, none)] ∧ s₂.released = [0, 0]) ∧
    (∃ s, measRun MeasState.init [.request 7 .sent, .wake false, .consume] = some (.ok s) ∧
        s.processed = [(7, 0, none)] ∧ s.released = [0]) := by
  rw [morseVendorEventMsg_entry (by decide) (by simp)]
  exact ⟨⟨_, _, rfl, rfl, rfl, rfl, rfl, rfl, rfl⟩, ⟨_, rfl, rfl, rfl⟩⟩

/-- **A late completion is attributed to the next request.**  The request for channel 1 times
out; the request for channel 2 is sent; the OCS_DONE event that answers the first request then
arrives, fills the second request's allocation and wakes the thread, which processes it as
channel 2's measurement. -/
theorem measRun_late_completion :
    ∃ s, measRun MeasState.init [.request 1 .sent, .wake true, .consume, .request 2 .sent,
        .event [nlCallbackEntry (morseVendorEventMsg morseVendorEventOcsDone (some [1, 0, 0, 0]))]
          0, .wake false, .consume] = some (.ok s) ∧
      s.requests = [1, 2] ∧ s.processed = [(2, 1, some ⟨[1, 0, 0, 0], 0⟩)] := by
  rw [morseVendorEventMsg_entry (by decide) (by decide)]
  exact ⟨_, rfl, rfl, rfl⟩

end SmartManager.Dcs
