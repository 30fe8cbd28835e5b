/-
# `SmartManager.Dcs.ScanThread` — the loop of `measurement_schedule_thread_fn`
(`modules/dcs/dcs.c`).

The scan thread walks a cursor along the scan list.  Each iteration obtains a measurement for
the cursor channel.  A measurement is handed to the algorithm and logged, and the cursor
advances; a failure counts an attempt, and the third consecutive failure removes the channel from
the scan list and advances the cursor.  When the cursor runs off the end of the list the round is
over: the algorithm evaluates the channels, a switch to a new channel it names is attempted, and
the cursor restarts at the head of the list.

What the environment decides is an input of the iteration: the measurement (its metric, or
`NULL`) and what `do_channel_switch` returns.  An iteration returns the calls it makes
(`ScanCall`) with the state it leaves (`scanIterationCalls`), so the calls of a run
(`scanRunCalls`) are those its iterations made; `scanIteration` is the state alone.  The switch itself and the callbacks that run on
other threads are modelled in `SmartManager.Dcs.Measurement` and `SmartManager.Dcs.ChannelSwitch`.

The cursor is a channel of the scan list, or `NULL` with an empty scan list (`ScanInv`), and the
scan list only loses channels (`scanRun_sublist`).  So the thread uses a `NULL` channel exactly
when the scan list has become empty (`ScanInv.channel_eq_none_iff`), and the three-failure
rule can empty it (`scanRun_single_fails`).
-/
import SmartManager.Dcs.Algo

namespace SmartManager.Dcs

open SmartManager.Data

/-! ## §1 — the list operations -/

/-- `list_get_next_item_or_null`: the entry after `i` in the list, `NULL` after the last. -/
def listGetNextItemOrNull : List Nat → Nat → Option Nat
  | [], _ => none
  | a :: l, i => if a = i then l.head? else listGetNextItemOrNull l i

/-- The entry after `i` stays in the list when `i` is removed from it. -/
theorem listGetNextItemOrNull_mem_erase {l : List Nat} {i n : Nat}
    (h : listGetNextItemOrNull l i = some n) : n ∈ l.erase i := by
  induction l with
  | nil => cases h
  | cons a l ih =>
    simp only [listGetNextItemOrNull] at h
    split at h
    · subst a
      simpa using List.mem_of_mem_head? h
    · rw [List.erase_cons_tail (by simpa using ‹¬a = i›)]
      exact List.mem_cons_of_mem _ (ih h)

theorem listGetNextItemOrNull_mem {l : List Nat} {i n : Nat}
    (h : listGetNextItemOrNull l i = some n) : n ∈ l :=
  List.mem_of_mem_erase (listGetNextItemOrNull_mem_erase h)

/-! ## §2 — one iteration -/

/-- The scan thread at the top of its loop: the context it shares, the algorithm, the cursor
(`none` is `NULL`) and the count of consecutive failed attempts. -/
structure ScanThread where
  ctx : DcsContext
  algo : AlgoState
  channel : Option Nat
  attemptCount : Nat
  deriving DecidableEq, Repr

/-- What one iteration receives from outside: the metric of the measurement obtained (`none`
for `NULL`), and what `do_channel_switch` returns when it sends a switch. -/
structure ScanInput where
  meas : Option UInt8
  switchRet : Int
  deriving DecidableEq, Repr

/-- `MAX_CHANNEL_MEASURE_RETRIES`. -/
def maxChannelMeasureRetries : Nat := 3

/-- A call the scan loop makes, with what it passes: `dcs_algo_ops_process_measurement` on a
channel with the metric measured, a `get_channel_measurement` that returned `NULL` (the attempt
it counts), `list_remove` of a channel, `dcs_algo_ops_evaluate_channels` on the context and then
the candidate it returned (`evaluated`, absent when the evaluation faults), `do_channel_switch` to
that candidate, and `dcs_algo_ops_post_csa_hook` after a switch that returned `0`. -/
inductive ScanCall where
  | processMeasurement (ch : Nat) (metric : UInt8)
  | measurementFailed (ch : Nat)
  | remove (ch : Nat)
  | evaluateChannels (ctx : DcsContext)
  | evaluated (candidate : Option Nat)
  | doChannelSwitch (c : Nat)
  | postCsaHook (c : Nat)
  deriving DecidableEq, Repr

/-- The measurement half of an iteration, with the calls it makes: a measurement is processed and
logged (the row dereferences the current channel) and the cursor advances; a failure is counted,
and the third removes the channel and advances the cursor. -/
def scanMeasureCalls (s : ScanThread) (ch : Nat) :
    Option UInt8 → List ScanCall × Except DcsFault ScanThread
  | some metric =>
    let ctx := dcsAlgoOpsProcessMeasurement s.algo s.ctx metric ch
    ([.processMeasurement ch metric],
      if ctx.currentChannel = none then .error .nullPointer
      else .ok { s with ctx, channel := listGetNextItemOrNull ctx.scanList ch, attemptCount := 0 })
  | none =>
    if s.attemptCount + 1 ≥ maxChannelMeasureRetries then
      ([.measurementFailed ch, .remove ch],
        .ok { s with ctx := { s.ctx with scanList := s.ctx.scanList.erase ch },
                     channel := listGetNextItemOrNull s.ctx.scanList ch, attemptCount := 0 })
    else ([.measurementFailed ch], .ok { s with attemptCount := s.attemptCount + 1 })

/-- The state the measurement half leaves. -/
def scanMeasure (s : ScanThread) (ch : Nat) (meas : Option UInt8) : Except DcsFault ScanThread :=
  (scanMeasureCalls s ch meas).2

/-- `do_channel_switch` as the scan thread sees it: `0` at once with CSA disabled; otherwise the
primary centre is computed for the command, which can fail its assertions, and the switch returns
what the environment gives. -/
def doChannelSwitchRet (ctx : DcsContext) (target : Nat) (ret : Int) : Except DcsFault Int :=
  if ctx.config.csaEnabled then
    (calculateNewPrimChCenterFreq ctx (ctx.channelAt target).ch).map fun _ => ret
  else pure 0

/-- The switch at the end of a round, with its calls: to a channel the algorithm names, when it
is not the current one, with the hook run when `do_channel_switch` returns `0`. -/
def scanSwitchCalls (algo : AlgoState) (ctx : DcsContext) (cand : Option Nat) (switchRet : Int) :
    List ScanCall × Except DcsFault (AlgoState × DcsContext) :=
  match cand with
  | some c =>
    if some c ≠ ctx.currentChannel then
      match doChannelSwitchRet ctx c switchRet with
      | .error e => ([.doChannelSwitch c], .error e)
      | .ok ret =>
        if ret = 0 then ([.doChannelSwitch c, .postCsaHook c], .ok (dcsAlgoOpsPostCsaHook algo ctx))
        else ([.doChannelSwitch c], .ok (algo, ctx))
    else ([], .ok (algo, ctx))
  | none => ([], .ok (algo, ctx))

/-- The algorithm and the context the switch leaves. -/
def scanSwitch (algo : AlgoState) (ctx : DcsContext) (cand : Option Nat) (switchRet : Int) :
    Except DcsFault (AlgoState × DcsContext) :=
  (scanSwitchCalls algo ctx cand switchRet).2

/-- The end of a round, with its calls: evaluate, switch, and restart the cursor at the head of
the scan list.  An evaluation that faults does not return. -/
def scanEndOfRoundCalls (s : ScanThread) (switchRet : Int) :
    List ScanCall × Except DcsFault ScanThread :=
  match dcsAlgoOpsEvaluateChannels s.algo s.ctx with
  | .error e => ([.evaluateChannels s.ctx], .error e)
  | .ok (cand, algo, ctx) =>
    (.evaluateChannels s.ctx :: .evaluated cand :: (scanSwitchCalls algo ctx cand switchRet).1,
      (scanSwitchCalls algo ctx cand switchRet).2.map fun (algo, ctx) =>
        { s with ctx, algo, channel := ctx.scanList.head? })

/-- The state the end of a round leaves. -/
def scanEndOfRound (s : ScanThread) (switchRet : Int) : Except DcsFault ScanThread :=
  (scanEndOfRoundCalls s switchRet).2

/-- One iteration of the loop of `measurement_schedule_thread_fn`, with the calls it makes.
`get_channel_measurement` dereferences the channel it is given, in live mode for the request and
in replay mode for the frequency it pops. -/
def scanIterationCalls (s : ScanThread) (inp : ScanInput) :
    List ScanCall × Except DcsFault ScanThread :=
  match s.channel with
  | none => ([], .error .nullPointer)
  | some ch =>
    match scanMeasureCalls s ch inp.meas with
    | (calls, .error e) => (calls, .error e)
    | (calls, .ok s₁) =>
      if s₁.channel = none then
        (calls ++ (scanEndOfRoundCalls s₁ inp.switchRet).1, (scanEndOfRoundCalls s₁ inp.switchRet).2)
      else (calls, .ok s₁)

/-- The state an iteration leaves. -/
def scanIteration (s : ScanThread) (inp : ScanInput) : Except DcsFault ScanThread :=
  (scanIterationCalls s inp).2

/-- A run of the loop over a sequence of inputs. -/
def scanRun (s : ScanThread) (inputs : List ScanInput) : Except DcsFault ScanThread :=
  inputs.foldlM scanIteration s

/-- The calls of a run, up to the iteration that faults. -/
def scanRunCalls : ScanThread → List ScanInput → List ScanCall
  | _, [] => []
  | s, inp :: inputs => (scanIterationCalls s inp).1 ++
      match scanIteration s inp with
      | .ok s' => scanRunCalls s' inputs
      | .error _ => []

/-- The measurement half, read without its calls. -/
theorem scanMeasure_eq (s : ScanThread) (ch : Nat) (meas : Option UInt8) :
    scanMeasure s ch meas = match meas with
      | some metric =>
        let ctx := dcsAlgoOpsProcessMeasurement s.algo s.ctx metric ch
        if ctx.currentChannel = none then .error .nullPointer
        else .ok { s with ctx, channel := listGetNextItemOrNull ctx.scanList ch, attemptCount := 0 }
      | none =>
        if s.attemptCount + 1 ≥ maxChannelMeasureRetries then
          .ok { s with ctx := { s.ctx with scanList := s.ctx.scanList.erase ch },
                       channel := listGetNextItemOrNull s.ctx.scanList ch, attemptCount := 0 }
        else .ok { s with attemptCount := s.attemptCount + 1 } := by
  cases meas <;> simp only [scanMeasure, scanMeasureCalls]
  split_ifs <;> rfl

/-- The switch, read without its calls. -/
theorem scanSwitch_eq (algo : AlgoState) (ctx : DcsContext) (cand : Option Nat) (r : Int) :
    scanSwitch algo ctx cand r = match cand with
      | some c =>
        if some c ≠ ctx.currentChannel then
          (doChannelSwitchRet ctx c r).map fun ret =>
            if ret = 0 then dcsAlgoOpsPostCsaHook algo ctx else (algo, ctx)
        else .ok (algo, ctx)
      | none => .ok (algo, ctx) := by
  unfold scanSwitch scanSwitchCalls
  split
  · split_ifs
    · cases doChannelSwitchRet ctx _ r with
      | error e => rfl
      | ok ret => by_cases h0 : ret = 0 <;> simp [h0, Except.map]
    · rfl
  · rfl

/-- The end of a round, read without its calls. -/
theorem scanEndOfRound_eq (s : ScanThread) (r : Int) :
    scanEndOfRound s r = (dcsAlgoOpsEvaluateChannels s.algo s.ctx).bind fun (cand, algo, ctx) =>
      (scanSwitch algo ctx cand r).map fun (algo, ctx) =>
        { s with ctx, algo, channel := ctx.scanList.head? } := by
  unfold scanEndOfRound scanEndOfRoundCalls scanSwitch
  cases dcsAlgoOpsEvaluateChannels s.algo s.ctx <;> rfl

/-- An iteration, read without its calls: the measurement half, then the end of a round once
the cursor has run off the end of the scan list. -/
theorem scanIteration_eq (s : ScanThread) (inp : ScanInput) :
    scanIteration s inp = match s.channel with
      | none => .error .nullPointer
      | some ch => (scanMeasure s ch inp.meas).bind fun s₁ =>
          if s₁.channel = none then scanEndOfRound s₁ inp.switchRet else .ok s₁ := by
  unfold scanIteration scanIterationCalls scanMeasure scanEndOfRound
  split
  · rfl
  · rename_i ch _
    cases scanMeasureCalls s ch inp.meas with
    | mk calls r => cases r with
      | error e => rfl
      | ok s₁ => simp only [Except.bind]; split_ifs <;> rfl

/-- The thread as `measurement_schedule_thread_fn` starts: the cursor at the head of the scan
list. -/
def ScanThread.start (ctx : DcsContext) (algo : AlgoState) : ScanThread :=
  ⟨ctx, algo, ctx.scanList.head?, 0⟩

/-! ## §3 — what an iteration changes -/

/-- The frame of an iteration: the scan list only loses channels, and the table's channels, the
current channel and the configuration stay as they were. -/
structure ScanFrame (s s' : ScanThread) : Prop where
  sublist : s'.ctx.scanList.Sublist s.ctx.scanList
  channels : s'.ctx.allChannels.map (·.ch) = s.ctx.allChannels.map (·.ch)
  current : s'.ctx.currentChannel = s.ctx.currentChannel
  config : s'.ctx.config = s.ctx.config
  width : s'.ctx.currentPrimaryChWidth = s.ctx.currentPrimaryChWidth
  index : s'.ctx.currentPrim1mhzChIndex = s.ctx.currentPrim1mhzChIndex

theorem ScanFrame.refl (s : ScanThread) : ScanFrame s s :=
  ⟨List.Sublist.refl _, rfl, rfl, rfl, rfl, rfl⟩

theorem ScanFrame.trans {s₁ s₂ s₃ : ScanThread} (h₁ : ScanFrame s₁ s₂) (h₂ : ScanFrame s₂ s₃) :
    ScanFrame s₁ s₃ :=
  ⟨h₂.sublist.trans h₁.sublist, h₂.channels.trans h₁.channels, h₂.current.trans h₁.current,
    h₂.config.trans h₁.config, h₂.width.trans h₁.width, h₂.index.trans h₁.index⟩

/-- A context that differs only in metrics frames the thread. -/
theorem ScanFrame.of_metricsOnly {s : ScanThread} {ctx : DcsContext} (h : MetricsOnly s.ctx ctx)
    (algo : AlgoState) (ch : Option Nat) (n : Nat) : ScanFrame s ⟨ctx, algo, ch, n⟩ := by
  obtain ⟨chans, rfl, hch⟩ := h
  exact ⟨List.Sublist.refl _, hch, rfl, rfl, rfl, rfl⟩

theorem dcsAlgoOpsProcessMeasurement_metricsOnly (algo : AlgoState) (ctx : DcsContext)
    (metric : UInt8) (i : Nat) : MetricsOnly ctx (dcsAlgoOpsProcessMeasurement algo ctx metric i) := by
  cases algo <;> exact .setMetric _ _ _

theorem scanSwitch_metricsOnly {algo algo' : AlgoState} {ctx ctx' : DcsContext} {cand : Option Nat}
    {r : Int} (h : scanSwitch algo ctx cand r = .ok (algo', ctx')) : MetricsOnly ctx ctx' := by
  rw [scanSwitch_eq] at h
  split at h
  · rename_i c
    split_ifs at h
    · cases hd : doChannelSwitchRet ctx c r with
      | error e => simp [hd, Except.map] at h
      | ok ret =>
        simp only [hd, Except.map, Except.ok.injEq] at h
        split_ifs at h
        · have := dcsAlgoOpsPostCsaHook_metricsOnly algo ctx
          rwa [h] at this
        · cases h; exact .refl ctx
    · cases h; exact .refl ctx
  · cases h; exact .refl ctx

/-- **What the measurement half can do**, with its calls: process the measurement, which changes
only metrics, and step the cursor; count the third failure, remove the channel and step the cursor
past it; or count an earlier failure and stay.  Only a processed measurement can fault. -/
theorem scanMeasureCalls_cases {s : ScanThread} {c : Nat} {meas : Option UInt8}
    {calls : List ScanCall} {r : Except DcsFault ScanThread}
    (h : scanMeasureCalls s c meas = (calls, r)) :
    (∃ m, meas = some m ∧ calls = [.processMeasurement c m] ∧ ∀ s₁, r = .ok s₁ →
      MetricsOnly s.ctx s₁.ctx ∧ s₁.channel = listGetNextItemOrNull s.ctx.scanList c ∧
        s₁.attemptCount = 0) ∨
    (meas = none ∧ maxChannelMeasureRetries ≤ s.attemptCount + 1 ∧
      calls = [.measurementFailed c, .remove c] ∧
      r = .ok { s with ctx := { s.ctx with scanList := s.ctx.scanList.erase c },
                       channel := listGetNextItemOrNull s.ctx.scanList c, attemptCount := 0 }) ∨
    (meas = none ∧ s.attemptCount + 1 < maxChannelMeasureRetries ∧ calls = [.measurementFailed c] ∧
      r = .ok { s with attemptCount := s.attemptCount + 1 }) := by
  cases meas with
  | some m =>
    simp only [scanMeasureCalls, Prod.mk.injEq] at h
    obtain ⟨rfl, rfl⟩ := h
    refine .inl ⟨m, rfl, rfl, fun s₁ h₁ => ?_⟩
    split_ifs at h₁
    cases h₁
    have hm := dcsAlgoOpsProcessMeasurement_metricsOnly s.algo s.ctx m c
    exact ⟨hm, by rw [hm.scanList], rfl⟩
  | none =>
    simp only [scanMeasureCalls] at h
    split_ifs at h with hge <;> obtain ⟨rfl, rfl⟩ := Prod.mk.inj h
    · exact .inr (.inl ⟨rfl, hge, rfl, rfl⟩)
    · exact .inr (.inr ⟨rfl, by omega, rfl, rfl⟩)

/-- **What the measurement half can do**, read without its calls. -/
theorem scanMeasure_cases {s s₁ : ScanThread} {c : Nat} {meas : Option UInt8}
    (h : scanMeasure s c meas = .ok s₁) :
    (meas.isSome ∧ MetricsOnly s.ctx s₁.ctx ∧
      s₁.channel = listGetNextItemOrNull s.ctx.scanList c ∧ s₁.attemptCount = 0) ∨
    (meas = none ∧ maxChannelMeasureRetries ≤ s.attemptCount + 1 ∧
      s₁.ctx = { s.ctx with scanList := s.ctx.scanList.erase c } ∧
      s₁.channel = listGetNextItemOrNull s.ctx.scanList c ∧ s₁.attemptCount = 0) ∨
    (meas = none ∧ s.attemptCount + 1 < maxChannelMeasureRetries ∧
      s₁.ctx = s.ctx ∧ s₁.channel = s.channel ∧ s₁.attemptCount = s.attemptCount + 1) := by
  rcases scanMeasureCalls_cases (Prod.ext rfl h :
      scanMeasureCalls s c meas = ((scanMeasureCalls s c meas).1, .ok s₁)) with
    ⟨m, rfl, -, hs⟩ | ⟨hm, hge, -, hr⟩ | ⟨hm, hlt, -, hr⟩
  · exact .inl ⟨rfl, hs s₁ rfl⟩
  · cases hr; exact .inr (.inl ⟨hm, hge, rfl, rfl, rfl⟩)
  · cases hr; exact .inr (.inr ⟨hm, hlt, rfl, rfl, rfl⟩)

/-- **What the end of a round can do**: change only metrics, and put the cursor at the head of
the scan list with the failure count kept. -/
theorem scanEndOfRound_cases {s s' : ScanThread} {r : Int} (h : scanEndOfRound s r = .ok s') :
    MetricsOnly s.ctx s'.ctx ∧ s'.channel = s.ctx.scanList.head? ∧
      s'.attemptCount = s.attemptCount := by
  rw [scanEndOfRound_eq] at h
  cases he : dcsAlgoOpsEvaluateChannels s.algo s.ctx with
  | error e => rw [he] at h; cases h
  | ok v =>
    obtain ⟨cand, algo, ctx⟩ := v
    have hm := (dcsAlgoOpsEvaluateChannels_ok he).1
    rw [he] at h
    cases hs : scanSwitch algo ctx cand r with
    | error e => simp [Except.bind, hs, Except.map] at h
    | ok w =>
      obtain ⟨algo', ctx'⟩ := w
      simp only [Except.bind, hs, Except.map, Except.ok.injEq] at h
      subst h
      have hm' := hm.trans (scanSwitch_metricsOnly hs)
      exact ⟨hm', by simp only [hm'.scanList], rfl⟩

/-- The measurement half keeps the cursor in the scan list and only drops the measured channel
from it. -/
theorem scanMeasure_ok {s s' : ScanThread} {ch : Nat} {meas : Option UInt8}
    (hch : s.channel = some ch) (hmem : ch ∈ s.ctx.scanList) (h : scanMeasure s ch meas = .ok s') :
    ScanFrame s s' ∧ ∀ i, s'.channel = some i → i ∈ s'.ctx.scanList := by
  obtain ⟨ctx', algo', ch', n'⟩ := s'
  rcases scanMeasure_cases h with ⟨-, hm, hch', -⟩ | ⟨-, -, hctx, hch', -⟩ | ⟨-, -, hctx, hch', -⟩
  · refine ⟨ScanFrame.of_metricsOnly hm _ _ _, fun i hi => ?_⟩
    rw [hm.scanList]
    exact listGetNextItemOrNull_mem (hch'.symm.trans hi)
  · subst hctx
    exact ⟨⟨List.erase_sublist _ _, rfl, rfl, rfl, rfl, rfl⟩,
      fun i hi => listGetNextItemOrNull_mem_erase (hch'.symm.trans hi)⟩
  · subst hctx
    refine ⟨⟨List.Sublist.refl _, rfl, rfl, rfl, rfl, rfl⟩, fun i hi => ?_⟩
    cases (hi.symm.trans hch').trans hch
    exact hmem

theorem scanEndOfRound_ok {s s' : ScanThread} {r : Int} (h : scanEndOfRound s r = .ok s') :
    ScanFrame s s' ∧ s'.channel = s'.ctx.scanList.head? := by
  obtain ⟨hm, hch, -⟩ := scanEndOfRound_cases h
  exact ⟨ScanFrame.of_metricsOnly hm _ _ _, by rw [hch, hm.scanList]⟩

/-! ## §4 — the cursor invariant over whole runs -/

/-- **The cursor invariant**: the cursor is a channel of the scan list, and it is `NULL` only on
an empty scan list. -/
structure ScanInv (s : ScanThread) : Prop where
  mem : ∀ i, s.channel = some i → i ∈ s.ctx.scanList
  null : s.channel = none → s.ctx.scanList = []

theorem ScanInv.start (ctx : DcsContext) (algo : AlgoState) :
    ScanInv (ScanThread.start ctx algo) :=
  ⟨fun _ h => List.mem_of_mem_head? h, fun h => List.head?_eq_none_iff.1 h⟩

/-- In a state of the invariant `get_channel_measurement` is handed `NULL` exactly when the scan
list is empty. -/
theorem ScanInv.channel_eq_none_iff {s : ScanThread} (hs : ScanInv s) :
    s.channel = none ↔ s.ctx.scanList = [] := by
  refine ⟨hs.null, fun h => ?_⟩
  cases hc : s.channel with
  | none => rfl
  | some i => simpa [h] using hs.mem i hc

/-- **An iteration keeps the invariant** and its frame. -/
theorem scanIteration_ok {s s' : ScanThread} {inp : ScanInput} (hs : ScanInv s)
    (h : scanIteration s inp = .ok s') : ScanFrame s s' ∧ ScanInv s' := by
  rw [scanIteration_eq] at h
  split at h
  · cases h
  · rename_i ch hc
    cases hm : scanMeasure s ch inp.meas with
    | error e => rw [hm] at h; cases h
    | ok s₁ =>
      obtain ⟨hf₁, hmem₁⟩ := scanMeasure_ok hc (hs.mem ch hc) hm
      rw [hm] at h
      simp only [Except.bind] at h
      split_ifs at h with hnone
      · obtain ⟨hf₂, hhead⟩ := scanEndOfRound_ok h
        refine ⟨hf₁.trans hf₂, fun i hi => ?_, fun hi => ?_⟩
        · rw [hhead] at hi; exact List.mem_of_mem_head? hi
        · rw [hhead] at hi; exact List.head?_eq_none_iff.1 hi
      · cases h
        exact ⟨hf₁, hmem₁, fun h => absurd h hnone⟩

/-- **A run keeps the invariant**: the cursor stays in the scan list, which only loses channels,
while the table's channels, the current channel and the configuration stay as they were. -/
theorem scanRun_ok : ∀ (inputs : List ScanInput) {s s' : ScanThread}, ScanInv s →
    scanRun s inputs = .ok s' → ScanFrame s s' ∧ ScanInv s'
  | [], s, s', hs, h => by cases h; exact ⟨.refl s, hs⟩
  | inp :: inputs, s, s', hs, h => by
    simp only [scanRun, List.foldlM_cons] at h
    cases h₁ : scanIteration s inp with
    | error e => rw [h₁] at h; cases h
    | ok s₁ =>
      rw [h₁] at h
      obtain ⟨hf, hi⟩ := scanIteration_ok hs h₁
      obtain ⟨hf', hi'⟩ := scanRun_ok inputs hi h
      exact ⟨hf.trans hf', hi'⟩

/-- The scan list after any run is a sublist of the one the thread started with. -/
theorem scanRun_sublist {ctx : DcsContext} {algo : AlgoState} {inputs : List ScanInput}
    {s' : ScanThread} (h : scanRun (ScanThread.start ctx algo) inputs = .ok s') :
    s'.ctx.scanList.Sublist ctx.scanList :=
  (scanRun_ok inputs (ScanInv.start ctx algo) h).1.sublist

/-- Three failed measurements of the only channel of the scan list remove it, and the
evaluation that ends the round dereferences `NULL`, whichever algorithm runs. -/
theorem scanRun_single_fails {ctx : DcsContext} {i : Nat} (h : ctx.scanList = [i])
    (algo : AlgoState) (r₁ r₂ r₃ : Int) :
    scanRun (ScanThread.start ctx algo) [⟨none, r₁⟩, ⟨none, r₂⟩, ⟨none, r₃⟩] =
      .error .nullPointer := by
  have hnil : ({ ctx with scanList := [] } : DcsContext).scanList = [] := rfl
  simp [scanRun, ScanThread.start, h, scanIteration, scanIterationCalls, scanMeasureCalls,
    maxChannelMeasureRetries, listGetNextItemOrNull, scanEndOfRoundCalls, Except.bind, bind,
    dcsAlgoOpsEvaluateChannels_nil _ hnil]

/-! ## §5 — from `dcs_create` to a `NULL` channel -/

/-- What `dcs_create` does once `initialise_channels` has built the channels: the algorithm's
initialisation (`none` when it fails, and `dcs_create` returns `NULL`), then `init_scan_thread`,
which asserts that the scan list is not empty and starts the scan thread. -/
def dcsStartScan (algoCfg : AlgoConfig) (ctx : DcsContext) : Except DcsFault (Option ScanThread) :=
  match dcsAlgoInitialise algoCfg ctx with
  | none => .ok none
  | some (algo, ctx) =>
    if ctx.scanList = [] then .error .assertion else .ok (some (ScanThread.start ctx algo))

/-- `dcs_create` in live mode, from `initialise_channels` to the start of the scan thread;
`none` when `dcs_create` returns `NULL`. -/
def dcsCreateLive (config : DcsConfig) (algoCfg : AlgoConfig)
    (driverChannels : List MorseCmdChannelInfo) (status : List MmsmDataItem) :
    Except DcsFault (Option ScanThread) :=
  (initialiseChannelsFromDriver config driverChannels status).bind fun
    | none => .ok none
    | some ctx => dcsStartScan algoCfg ctx

/-- The thread `dcsStartScan` starts runs on the channels it was given, with a non-empty scan
list, from a state of the invariant. -/
theorem dcsStartScan_ok {algoCfg : AlgoConfig} {ctx : DcsContext} {s : ScanThread}
    (h : dcsStartScan algoCfg ctx = .ok (some s)) :
    MetricsOnly ctx s.ctx ∧ s = ScanThread.start s.ctx s.algo ∧ s.ctx.scanList ≠ [] := by
  unfold dcsStartScan at h
  split at h
  · cases h
  · rename_i algo ctx' hinit
    split_ifs at h with hne
    cases h
    exact ⟨dcsAlgoInitialise_metricsOnly hinit, rfl, hne⟩

/-- The thread `dcs_create` starts runs on the channels `initialise_channels` found, with a
non-empty scan list, from a state of the invariant. -/
theorem dcsCreateLive_ok {config : DcsConfig} {algoCfg : AlgoConfig}
    {driverChannels : List MorseCmdChannelInfo} {status : List MmsmDataItem} {s : ScanThread}
    (h : dcsCreateLive config algoCfg driverChannels status = .ok (some s)) :
    ∃ ctx, initialiseChannelsFromDriver config driverChannels status = .ok (some ctx) ∧
      MetricsOnly ctx s.ctx ∧ s = ScanThread.start s.ctx s.algo ∧ s.ctx.scanList ≠ [] := by
  unfold dcsCreateLive at h
  cases hi : initialiseChannelsFromDriver config driverChannels status with
  | error e => rw [hi] at h; cases h
  | ok o =>
    rw [hi] at h
    cases o with
    | none => cases h
    | some ctx => exact ⟨ctx, rfl, dcsStartScan_ok h⟩

/-- A single 1 MHz channel at 902.5 MHz. -/
def singleChannelTable : List MorseCmdChannelInfo := [⟨902500, 1, 1⟩]

/-- hostapd's `STATUS` for an AP on that channel. -/
def statusOn902500 : List MmsmDataItem :=
  [statusLine "s1g_freq" "902500", statusLine "freq" "5180", statusLine "s1g_bw" "1",
    statusLine "s1g_prim_chwidth" "1", statusLine "s1g_prim_1mhz_chan_index" "0",
    statusLine "beacon_int" "100", statusLine "dtim_period" "1"]

/-- **The scan thread can dereference a `NULL` channel.**  On a table of one channel,
`dcs_create` builds a scan list of that channel and starts the scan thread, whatever algorithm it
initialises; three failed measurements then remove the channel, and the evaluation that ends the
round dereferences `NULL`. -/
theorem dcsCreate_single_channel_null {algoCfg : AlgoConfig} {s : ScanThread}
    (h : dcsCreateLive ⟨true⟩ algoCfg singleChannelTable statusOn902500 = .ok (some s))
    (r₁ r₂ r₃ : Int) :
    scanRun s [⟨none, r₁⟩, ⟨none, r₂⟩, ⟨none, r₃⟩] = .error .nullPointer := by
  obtain ⟨ctx, hinit, ⟨chans, hctx, -⟩, hs, -⟩ := dcsCreateLive_ok h
  have hl : ctx.scanList = [0] := by
    have h0 : (initialiseChannelsFromDriver ⟨true⟩ singleChannelTable statusOn902500).map
        (Option.map DcsContext.scanList) = .ok (some [0]) := rfl
    rw [hinit] at h0
    simpa [Except.map] using h0
  rw [hs]
  exact scanRun_single_fails (by rw [hctx]; exact hl) _ _ _ _

/-- With EWMA (threshold 10 %, smoothing 50, a switch after three rounds) `dcs_create` starts the
thread, and three failures stop it. -/
theorem dcsCreate_single_channel_null_ewma :
    ∃ s, dcsCreateLive ⟨true⟩ (.ewma 10 50 3) singleChannelTable statusOn902500 =
        .ok (some s) ∧ scanRun s [⟨none, 0⟩, ⟨none, 0⟩, ⟨none, 0⟩] = .error .nullPointer :=
  have ⟨s, hs⟩ : ∃ s, dcsCreateLive ⟨true⟩ (.ewma 10 50 3) singleChannelTable
      statusOn902500 = .ok (some s) := ⟨_, rfl⟩
  ⟨s, hs, dcsCreate_single_channel_null hs 0 0 0⟩

end SmartManager.Dcs
