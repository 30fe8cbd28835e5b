/-
# `SmartManager.Engine.Polling` — the polling monitor thread (`engine/engine.c`)

`polling_monitor_thread_fn` reads the clock, walks the list of polling monitors from its head, and
fires the first monitor whose `next_time` is before the reading: that monitor's `next_time`
becomes the reading plus its period, its request is sent and its callback run, and the thread
starts over from the head with a new reading.  When no monitor is due, it waits until the earliest
`next_time`.  `mmsm_monitor_polling` pushes each new monitor at the head of the list, due at once.

A run is a sequence of clock readings, one per pass of the loop.  The request, the callback and
the wait only decide how far the clock has moved by the next reading, so the readings are any
sequence the clock can give.  A pass fires at most one monitor, the first due one
(`pollingScan_fired`), and waits only when none is due (`pollingScan_wait`).  A head monitor whose
request and callback take longer than its period is due again at every pass: it fires at every
pass, and a monitor behind it stays due and never fires (`pollingRun_head_starves`).

`struct timespec` is modelled with unbounded fields: `time_t` and `long` do not wrap at the times
the clock gives.  The readings of `CLOCK_REALTIME` have their nanoseconds in `[0, 10^9)`
(`Timespec.Normal`); a new monitor's `tv_nsec` is whatever `malloc` left, so `next_time` need not
be normal.  The backend, the command, the callback and its context are passed through unread.
-/
import SmartManager.Data.MmsmData

namespace SmartManager.Engine

open SmartManager.Data

/-! ## §1 — `struct timespec` -/

/-- `struct timespec`. -/
structure Timespec where
  tvSec : Int
  tvNsec : Int
  deriving DecidableEq, Repr

/-- A reading of the clock: its nanoseconds are below one second. -/
def Timespec.Normal (t : Timespec) : Prop := 0 ≤ t.tvNsec ∧ t.tvNsec < 1000000000

instance : DecidablePred Timespec.Normal :=
  fun t => inferInstanceAs (Decidable (0 ≤ t.tvNsec ∧ t.tvNsec < 1000000000))

/-- `timespec_add_ms`: the whole seconds and the rest in nanoseconds, then the carry. -/
def timespecAddMs (ts : Timespec) (milliseconds : UInt32) : Timespec :=
  let tvSec := ts.tvSec + (milliseconds.toNat / 1000 : Nat)
  let tvNsec := ts.tvNsec + (milliseconds.toNat % 1000 * 1000000 : Nat)
  ⟨tvSec + tvNsec / 1000000000, tvNsec % 1000000000⟩

/-- `timespec_is_less_than`: the nanoseconds decide only between equal seconds. -/
def timespecIsLessThan (lhs rhs : Timespec) : Bool :=
  if lhs.tvSec = rhs.tvSec then lhs.tvNsec < rhs.tvNsec else lhs.tvSec < rhs.tvSec

theorem timespecIsLessThan_iff (lhs rhs : Timespec) :
    timespecIsLessThan lhs rhs ↔
      lhs.tvSec < rhs.tvSec ∨ lhs.tvSec = rhs.tvSec ∧ lhs.tvNsec < rhs.tvNsec := by
  unfold timespecIsLessThan
  split_ifs with h <;> simp [h]

/-- Adding a period to a reading never moves it back. -/
theorem timespecAddMs_not_lt {t : Timespec} (ht : t.Normal) (ms : UInt32) :
    ¬timespecIsLessThan (timespecAddMs t ms) t := by
  obtain ⟨h0, h1⟩ := ht
  rw [timespecIsLessThan_iff]
  simp only [timespecAddMs]
  omega

/-! ## §2 — the monitors and one pass of the thread -/

/-- `polling_monitor_t`, with what the thread reads: the period and the time the next request is
due. -/
structure PollingMonitor where
  frequencyMs : UInt32
  nextTime : Timespec
  deriving DecidableEq, Repr

/-- `mmsm_monitor_polling`: `MMSM_UNKNOWN_ERROR` with the list unchanged when `malloc` or the
backend's argument processing fails (`ok = false`); otherwise the new monitor goes at the head of
the list with `next_time.tv_sec = 0`, and `tv_nsec` is what `malloc` left there. -/
def mmsmMonitorPolling (monitors : List PollingMonitor) (frequencyMs : UInt32) (tvNsec : Int)
    (ok : Bool) : MmsmErrorCode × List PollingMonitor :=
  if ok then (.success, ⟨frequencyMs, ⟨0, tvNsec⟩⟩ :: monitors) else (.unknownError, monitors)

/-- What one pass of the loop does: fire the monitor at an index, the list updated, or wait until
a deadline (`NULL`: until signalled). -/
inductive PollingPass where
  | fired (i : Nat) (monitors : List PollingMonitor)
  | wait (nextExpires : Option Timespec)
  deriving DecidableEq, Repr

/-- The `for` loop of one pass at the reading `now`, with the earliest `next_time` seen so far:
the first due monitor gets `now` plus its period as `next_time` and fires, and the loop breaks;
past the end, the thread waits for the earliest `next_time`. -/
def pollingScanFrom (now : Timespec) : Option Timespec → List PollingMonitor → PollingPass
  | nextExpires, [] => .wait nextExpires
  | nextExpires, m :: ms =>
    let nextExpires := match nextExpires with
      | some t => if timespecIsLessThan m.nextTime t then some m.nextTime else some t
      | none => some m.nextTime
    if timespecIsLessThan m.nextTime now then
      .fired 0 ({ m with nextTime := timespecAddMs now m.frequencyMs } :: ms)
    else
      match pollingScanFrom now nextExpires ms with
      | .fired i ms' => .fired (i + 1) (m :: ms')
      | .wait t => .wait t

/-- One pass of `polling_monitor_thread_fn` at the reading `now`. -/
def pollingScan (now : Timespec) (monitors : List PollingMonitor) : PollingPass :=
  pollingScanFrom now none monitors

/-- **A pass fires the first due monitor**, and moves its `next_time` only. -/
theorem pollingScan_fired {now : Timespec} :
    ∀ {e : Option Timespec} {ms ms' : List PollingMonitor} {i : Nat},
      pollingScanFrom now e ms = .fired i ms' →
      ∃ m, ms[i]? = some m ∧ timespecIsLessThan m.nextTime now ∧
        (∀ j < i, ∀ m', ms[j]? = some m' → ¬timespecIsLessThan m'.nextTime now) ∧
        ms' = ms.set i { m with nextTime := timespecAddMs now m.frequencyMs }
  | _, [], _, _, h => by cases h
  | e, m :: ms, ms', i, h => by
    simp only [pollingScanFrom] at h
    split_ifs at h with hdue
    · cases h
      exact ⟨m, List.getElem?_cons_zero, hdue, fun j hj => absurd hj (Nat.not_lt_zero j), rfl⟩
    · split at h
      · rename_i i' ms₁ h₁
        cases h
        obtain ⟨m₁, hget, hdue₁, hfirst, rfl⟩ := pollingScan_fired h₁
        refine ⟨m₁, by simpa using hget, hdue₁, fun j hj m' hm' => ?_, rfl⟩
        cases j with
        | zero =>
          simp only [List.getElem?_cons_zero, Option.some.injEq] at hm'
          exact hm' ▸ hdue
        | succ j => exact hfirst j (by omega) m' (by simpa using hm')
      · cases h

/-- **A pass waits only when no monitor is due.** -/
theorem pollingScan_wait {now : Timespec} :
    ∀ {e t : Option Timespec} {ms : List PollingMonitor}, pollingScanFrom now e ms = .wait t →
      ∀ m ∈ ms, ¬timespecIsLessThan m.nextTime now
  | _, _, [], _ => fun _ h => nomatch h
  | _, _, m :: ms, h => by
    simp only [pollingScanFrom] at h
    split_ifs at h with hdue
    split at h
    · cases h
    · rename_i t' h₁
      cases h
      rw [List.forall_mem_cons]
      exact ⟨hdue, pollingScan_wait h₁⟩

/-! ## §3 — runs of the thread -/

/-- A run of the thread over clock readings, one per pass: the index of the monitor each pass
fires, `none` for a pass that waits. -/
def pollingRun : List PollingMonitor → List Timespec → List (Option Nat)
  | _, [] => []
  | monitors, now :: readings =>
    match pollingScan now monitors with
    | .fired i monitors' => some i :: pollingRun monitors' readings
    | .wait _ => none :: pollingRun monitors readings

/-- A pass at which the head monitor is due fires it. -/
theorem pollingScan_head {a : PollingMonitor} {rest : List PollingMonitor} {now : Timespec}
    (h : timespecIsLessThan a.nextTime now) :
    pollingScan now (a :: rest) =
      .fired 0 ({ a with nextTime := timespecAddMs now a.frequencyMs } :: rest) := by
  simp [pollingScan, pollingScanFrom, h]

/-- **The head monitor starves the others.**  When the head monitor is due and the clock moves by
more than its period between passes (its request and callback take that long), every pass fires
the head monitor, and every monitor behind it that was due stays due at every reading and never
fires. -/
theorem pollingRun_head_starves (a : PollingMonitor) (rest : List PollingMonitor) (now : Timespec)
    (readings : List Timespec) (hclock : ∀ r ∈ now :: readings, r.Normal)
    (hdue : timespecIsLessThan a.nextTime now)
    (hslow : List.Chain (fun r r' => timespecIsLessThan (timespecAddMs r a.frequencyMs) r') now
      readings) :
    pollingRun (a :: rest) (now :: readings) = List.replicate (readings.length + 1) (some 0) ∧
      ∀ b ∈ rest, timespecIsLessThan b.nextTime now →
        ∀ r ∈ readings, timespecIsLessThan b.nextTime r := by
  induction readings generalizing a now with
  | nil => simp [pollingRun, pollingScan_head hdue]
  | cons r readings ih =>
    obtain ⟨hstep, hslow⟩ := List.chain_cons.1 hslow
    -- a reading after the head's new `next_time` is after every time before `now`
    have hlt : ∀ x, timespecIsLessThan x now → timespecIsLessThan x r := fun x hx => by
      have hmono := timespecAddMs_not_lt (hclock now (List.mem_cons_self _ _)) a.frequencyMs
      rw [timespecIsLessThan_iff] at hx hmono hstep ⊢
      omega
    obtain ⟨hrun, hstay⟩ := ih { a with nextTime := timespecAddMs now a.frequencyMs } r
      (fun x hx => hclock x (List.mem_cons_of_mem _ hx)) hstep hslow
    refine ⟨by rw [pollingRun, pollingScan_head hdue]; dsimp only; rw [hrun]; rfl,
      fun b hb hbnow x hx => ?_⟩
    rcases List.mem_cons.1 hx with rfl | hx
    · exact hlt _ hbnow
    · exact hstay b hb (hlt _ hbnow) x hx

/-- Two monitors registered one after the other, the second with a 10 ms period: at readings 20 ms
apart, the second fires at every pass, and the first, due from the first pass on, never fires. -/
theorem pollingRun_10ms_head_monitor :
    (mmsmMonitorPolling (mmsmMonitorPolling [] 1000 0 true).2 10 0 true).2 =
        [⟨10, ⟨0, 0⟩⟩, ⟨1000, ⟨0, 0⟩⟩] ∧
      timespecIsLessThan ⟨0, 0⟩ ⟨1, 0⟩ ∧
      (pollingRun [⟨10, ⟨0, 0⟩⟩, ⟨1000, ⟨0, 0⟩⟩] [⟨1, 0⟩, ⟨1, 20000000⟩, ⟨1, 40000000⟩] =
          List.replicate 3 (some 0) ∧
        ∀ b ∈ [(⟨1000, ⟨0, 0⟩⟩ : PollingMonitor)], timespecIsLessThan b.nextTime ⟨1, 0⟩ →
          ∀ r ∈ [(⟨1, 20000000⟩ : Timespec), ⟨1, 40000000⟩], timespecIsLessThan b.nextTime r) :=
  ⟨rfl, rfl, pollingRun_head_starves ⟨10, ⟨0, 0⟩⟩ [⟨1000, ⟨0, 0⟩⟩] ⟨1, 0⟩ _ (by decide) rfl
    (.cons rfl (.cons rfl .nil))⟩

end SmartManager.Engine
