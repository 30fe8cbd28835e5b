/-
# `SmartManager.Dcs.Algo` — the best-channel helper and the two decision algorithms
(`modules/dcs/algo.c`, `algo.h`, `algorithms/ewma.c`, `algorithms/sample_and_hold.c`).

The algorithms keep their scores in the metric of each table entry and are consulted by the scan
thread through the `algo_ops` table: `process_measurement` after every measurement,
`evaluate_channels` at the end of a scan round, `post_csa_hook` after a switch.  Both
`evaluate_channels` start from `dcs_algo_get_channel_with_highest_score`, which returns `NULL`
exactly on an empty scan list (`dcsAlgoGetChannelWithHighestScore_ok`), and both dereference
what it returned, so on an empty scan list both stop the process
(`dcsAlgoOpsEvaluateChannels_nil`).

Scores are `uint32_t` and wrap; the `int` counters are taken not to overflow.  Log statements
are left out: their arguments are evaluated only when the log level admits them.
-/
import SmartManager.Dcs.Context

namespace SmartManager.Dcs

open SmartManager.Libc

/-! ## §1 — table entries -/

/-- A zeroed entry, read for an index outside the table (the scan list only holds indices of
the table). -/
def DcsChannel.zero : DcsChannel := ⟨⟨0, 0, 0⟩, ⟨0, 0, 0⟩⟩

/-- `all_channels[i]`. -/
def DcsContext.channelAt (ctx : DcsContext) (i : Nat) : DcsChannel :=
  ctx.allChannels.getD i .zero

/-- The context with the metric of `all_channels[i]` replaced. -/
def DcsContext.setMetric (ctx : DcsContext) (i : Nat) (m : ChannelMetric) : DcsContext :=
  { ctx with allChannels := ctx.allChannels.modify (fun c => { c with metric := m }) i }

@[simp] theorem DcsContext.setMetric_scanList (ctx : DcsContext) (i : Nat) (m : ChannelMetric) :
    (ctx.setMetric i m).scanList = ctx.scanList := rfl

@[simp] theorem DcsContext.setMetric_currentChannel (ctx : DcsContext) (i : Nat)
    (m : ChannelMetric) : (ctx.setMetric i m).currentChannel = ctx.currentChannel := rfl

@[simp] theorem DcsContext.setMetric_config (ctx : DcsContext) (i : Nat) (m : ChannelMetric) :
    (ctx.setMetric i m).config = ctx.config := rfl

theorem DcsContext.setMetric_length (ctx : DcsContext) (i : Nat) (m : ChannelMetric) :
    (ctx.setMetric i m).allChannels.length = ctx.allChannels.length :=
  List.length_modify _ _ _

/-- An entry of the table reads back with the metric stored in it. -/
theorem DcsContext.channelAt_setMetric_self {ctx : DcsContext} {i : Nat}
    (h : i < ctx.allChannels.length) (m : ChannelMetric) :
    (ctx.setMetric i m).channelAt i = { ctx.channelAt i with metric := m } := by
  simp [DcsContext.channelAt, DcsContext.setMetric, List.getD_eq_getElem?_getD,
    List.getElem?_modify, h]

/-- A metric update leaves every entry's channel parameters, and the number of entries, as they
were. -/
theorem DcsContext.setMetric_ch (ctx : DcsContext) (i : Nat) (m : ChannelMetric) :
    (ctx.setMetric i m).allChannels.map (·.ch) = ctx.allChannels.map (·.ch) := by
  simp only [DcsContext.setMetric]
  induction ctx.allChannels generalizing i with
  | nil => simp
  | cons c cs ih => cases i <;> simp_all [List.modify]

/-- `dcs_algo_reset_accumulated_scores`: every channel of the scan list gets the score
`reset_val` (an `int` stored in a `uint32_t`) and no samples. -/
def dcsAlgoResetAccumulatedScores (ctx : DcsContext) (resetVal : Int) : DcsContext :=
  ctx.scanList.foldl (fun ctx i => ctx.setMetric i
    { (ctx.channelAt i).metric with accumulatedScore := u32OfInt resetVal, nSamples := 0 }) ctx

/-- `ctx'` differs from `ctx` at most in the metrics of its table entries. -/
def MetricsOnly (ctx ctx' : DcsContext) : Prop :=
  ∃ chans, ctx' = { ctx with allChannels := chans } ∧
    chans.map (·.ch) = ctx.allChannels.map (·.ch)

theorem MetricsOnly.refl (ctx : DcsContext) : MetricsOnly ctx ctx := ⟨ctx.allChannels, rfl, rfl⟩

theorem MetricsOnly.trans {ctx₁ ctx₂ ctx₃ : DcsContext} (h₁ : MetricsOnly ctx₁ ctx₂)
    (h₂ : MetricsOnly ctx₂ ctx₃) : MetricsOnly ctx₁ ctx₃ := by
  obtain ⟨c₁, rfl, h₁⟩ := h₁
  obtain ⟨c₂, rfl, h₂⟩ := h₂
  exact ⟨c₂, rfl, h₂.trans h₁⟩

theorem MetricsOnly.scanList {ctx ctx' : DcsContext} (h : MetricsOnly ctx ctx') :
    ctx'.scanList = ctx.scanList := by
  obtain ⟨_, rfl, _⟩ := h; rfl

theorem MetricsOnly.setMetric (ctx : DcsContext) (i : Nat) (m : ChannelMetric) :
    MetricsOnly ctx (ctx.setMetric i m) := ⟨_, rfl, ctx.setMetric_ch i m⟩

/-- Metric updates along a list of indices change only metrics. -/
theorem MetricsOnly.foldl_setMetric (f : DcsContext → Nat → ChannelMetric) :
    ∀ (l : List Nat) (ctx : DcsContext),
      MetricsOnly ctx (l.foldl (fun ctx i => ctx.setMetric i (f ctx i)) ctx)
  | [], ctx => .refl ctx
  | i :: l, ctx => (MetricsOnly.setMetric ctx i _).trans (MetricsOnly.foldl_setMetric f l _)

theorem MetricsOnly.reset (ctx : DcsContext) (resetVal : Int) :
    MetricsOnly ctx (dcsAlgoResetAccumulatedScores ctx resetVal) :=
  MetricsOnly.foldl_setMetric _ _ _

/-! ## §2 — `dcs_algo_get_channel_with_highest_score` -/

/-- `dcs_algo_calculate_threshold`, in `uint32_t` arithmetic. -/
def dcsAlgoCalculateThreshold (currentScore : UInt32) (thresholdPercentage : UInt8) : UInt32 :=
  currentScore * (100 + thresholdPercentage.toUInt32) / 100

/-- The threshold is the exact one reduced modulo `2^32` before the division. -/
theorem dcsAlgoCalculateThreshold_toNat (currentScore : UInt32) (thresholdPercentage : UInt8) :
    (dcsAlgoCalculateThreshold currentScore thresholdPercentage).toNat =
      currentScore.toNat * (100 + thresholdPercentage.toNat) % 2 ^ 32 / 100 := by
  have hp : thresholdPercentage.toNat < 2 ^ 8 := thresholdPercentage.toBitVec.isLt
  have h100 : (100 + thresholdPercentage.toUInt32).toNat = 100 + thresholdPercentage.toNat := by
    rw [uint32_toNat_add]; show (100 + thresholdPercentage.toNat) % 2 ^ 32 = _; omega
  rw [dcsAlgoCalculateThreshold, UInt32.toNat_div, uint32_toNat_mul, h100]; rfl

/-- The tie-break distance `current->ch.frequency_khz - c->ch.frequency_khz`: a `uint32_t`
difference stored in an `int32_t`. -/
def freqDistance (cur c : UInt32) : Int := toInt32 (cur - c).toNat

/-- One iteration of the helper's loop: the first channel is taken, a higher score replaces the
best, and a tie goes to the channel farther from the current one, or to the current one itself,
unless the best already is the current channel.  Only a tie dereferences the current channel. -/
def highestScoreStep (ctx : DcsContext) (best : Option Nat) (next : Nat) :
    Except DcsFault (Option Nat) :=
  match best with
  | none => pure (some next)
  | some b =>
    let sNext := (ctx.channelAt next).metric.accumulatedScore
    let sBest := (ctx.channelAt b).metric.accumulatedScore
    if sNext > sBest then pure (some next)
    else if sNext = sBest then
      match ctx.currentChannel with
      | none => throw .nullPointer
      | some cur =>
        let f := (ctx.channelAt cur).ch.frequencyKhz
        let diffNext := freqDistance f (ctx.channelAt next).ch.frequencyKhz
        let diffBest := freqDistance f (ctx.channelAt b).ch.frequencyKhz
        if diffBest = 0 then pure (some b)
        else if diffNext.natAbs > diffBest.natAbs ∨ diffNext = 0 then pure (some next)
        else pure (some b)
    else pure (some b)

/-- `dcs_algo_get_channel_with_highest_score`: the loop over the scan list, `none` for `NULL`. -/
def dcsAlgoGetChannelWithHighestScore (ctx : DcsContext) : Except DcsFault (Option Nat) :=
  ctx.scanList.foldlM (highestScoreStep ctx) none

/-- A step keeps the best it had or takes the channel it visits. -/
theorem highestScoreStep_ok {ctx : DcsContext} {best r : Option Nat} {next : Nat}
    (h : highestScoreStep ctx best next = .ok r) :
    r = some next ∨ (r = best ∧ best ≠ none) := by
  unfold highestScoreStep at h
  split at h
  · cases h; exact .inl rfl
  · dsimp only at h
    split_ifs at h
    · cases h; exact .inl rfl
    · split at h
      · cases h
      · split_ifs at h <;> cases h <;> simp
    · cases h; simp

/-- The fold of the helper's loop: `NULL` only when it started from `NULL` over an empty list,
and otherwise a channel it started from or visited. -/
theorem foldlM_highestScoreStep (ctx : DcsContext) :
    ∀ (l : List Nat) (best r : Option Nat), l.foldlM (highestScoreStep ctx) best = .ok r →
      (r = none → best = none ∧ l = []) ∧ ∀ i, r = some i → best = some i ∨ i ∈ l
  | [], best, r, h => by
    cases h
    exact ⟨fun h => ⟨h, rfl⟩, fun i h => .inl h⟩
  | next :: l, best, r, h => by
    rw [List.foldlM_cons] at h
    cases hs : highestScoreStep ctx best next with
    | error e => rw [hs] at h; cases h
    | ok b' =>
      rw [hs] at h
      obtain ⟨ih0, ihm⟩ := foldlM_highestScoreStep ctx l b' r h
      refine ⟨fun hr => ?_, fun i hi => ?_⟩
      · rcases highestScoreStep_ok hs with rfl | ⟨rfl, hb⟩
        · exact absurd (ih0 hr).1 (by simp)
        · exact absurd (ih0 hr).1 hb
      · rcases ihm i hi with rfl | hm
        · rcases highestScoreStep_ok hs with h' | ⟨rfl, -⟩
          · exact .inr (by simp_all)
          · exact .inl rfl
        · exact .inr (List.mem_cons_of_mem _ hm)

/-- **The helper returns `NULL` exactly on an empty scan list**, and otherwise a channel of the
scan list. -/
theorem dcsAlgoGetChannelWithHighestScore_ok {ctx : DcsContext} {r : Option Nat}
    (h : dcsAlgoGetChannelWithHighestScore ctx = .ok r) :
    (r = none ↔ ctx.scanList = []) ∧ ∀ i, r = some i → i ∈ ctx.scanList := by
  obtain ⟨h0, hm⟩ := foldlM_highestScoreStep ctx _ _ _ h
  refine ⟨⟨fun hr => (h0 hr).2, fun hl => ?_⟩, fun i hi => (hm i hi).resolve_left (by simp)⟩
  simp only [dcsAlgoGetChannelWithHighestScore, hl, List.foldlM_nil] at h
  exact (Except.ok.inj h).symm

theorem dcsAlgoGetChannelWithHighestScore_nil {ctx : DcsContext} (h : ctx.scanList = []) :
    dcsAlgoGetChannelWithHighestScore ctx = .ok none := by
  simp [dcsAlgoGetChannelWithHighestScore, h]; rfl

/-! ## §3 — EWMA (`algorithms/ewma.c`) -/

/-- `struct ewma_context`. -/
structure EwmaContext where
  ewmaAlpha : UInt8
  thresholdPercentage : UInt8
  roundsForCsa : Int
  roundsWithABetterChannel : Int
  deriving DecidableEq, Repr

/-- `apply_ewma`: `(alpha * new + (100 - alpha) * last) / 100` in `uint32_t`, returned as a
`uint16_t`. -/
def applyEwma (alpha : UInt8) (newScore lastScore : UInt32) : UInt16 :=
  ((alpha.toUInt32 * newScore + u32OfInt (100 - alpha.toNat) * lastScore) / 100).toUInt16

/-- `ewma_op_process_measurement`. -/
def ewmaOpProcessMeasurement (ewma : EwmaContext) (ctx : DcsContext) (metric : UInt8)
    (i : Nat) : DcsContext :=
  let m := (ctx.channelAt i).metric
  ctx.setMetric i { m with
    nSamples := m.nSamples + 1
    accumulatedScore := (applyEwma ewma.ewmaAlpha metric.toUInt32 m.accumulatedScore).toUInt32 }

/-- The decision of `ewma_op_evaluate_channels` once the current channel and the candidate are
known: the candidate is compared with the current channel's threshold and credited with a round
as best, and it is returned once it has been better for `rounds_for_csa` rounds. -/
def ewmaDecide (ewma : EwmaContext) (ctx : DcsContext) (cur cand : Nat) :
    Option Nat × EwmaContext × DcsContext :=
  let threshold := dcsAlgoCalculateThreshold (ctx.channelAt cur).metric.accumulatedScore
    ewma.thresholdPercentage
  let rounds :=
    if cand = cur then 0
    else if (ctx.channelAt cand).metric.accumulatedScore > threshold then
      ewma.roundsWithABetterChannel + 1
    else ewma.roundsWithABetterChannel
  let m := (ctx.channelAt cand).metric
  (if ewma.roundsForCsa ≠ 0 ∧ rounds ≥ ewma.roundsForCsa then some cand else none,
    { ewma with roundsWithABetterChannel := rounds },
    ctx.setMetric cand { m with roundsAsBest := m.roundsAsBest + 1 })

/-- `ewma_op_evaluate_channels`: the threshold dereferences the current channel, the comparison
the candidate. -/
def ewmaOpEvaluateChannels (ewma : EwmaContext) (ctx : DcsContext) :
    Except DcsFault (Option Nat × EwmaContext × DcsContext) :=
  (dcsAlgoGetChannelWithHighestScore ctx).bind fun candidate =>
    match ctx.currentChannel, candidate with
    | some cur, some cand => .ok (ewmaDecide ewma ctx cur cand)
    | _, _ => .error .nullPointer

/-- `ewma_op_post_csa_hook`. -/
def ewmaOpPostCsaHook (ewma : EwmaContext) : EwmaContext :=
  { ewma with roundsWithABetterChannel := 0 }

/-! ## §4 — sample and hold (`algorithms/sample_and_hold.c`) -/

/-- `struct sample_and_hold`. -/
structure SampleAndHold where
  roundsForEval : Int
  thresholdPercentage : UInt8
  numFullScans : Int
  deriving DecidableEq, Repr

/-- `sample_hold_op_process_measurement`. -/
def sampleHoldOpProcessMeasurement (ctx : DcsContext) (metric : UInt8) (i : Nat) : DcsContext :=
  let m := (ctx.channelAt i).metric
  ctx.setMetric i { m with
    accumulatedScore := m.accumulatedScore + metric.toUInt32
    nSamples := m.nSamples + 1 }

/-- The decision of `sample_hold_op_evaluate_channels` once the best channel is known: it is
credited with a round; every `rounds_for_eval` rounds (C's `%`, which traps on a zero divisor)
it is returned if it beats the current channel's threshold, and the scores are reset
otherwise. -/
def sampleHoldDecide (sh : SampleAndHold) (ctx : DcsContext) (best : Nat) :
    Except DcsFault (Option Nat × SampleAndHold × DcsContext) :=
  let m := (ctx.channelAt best).metric
  let ctx := ctx.setMetric best { m with roundsAsBest := m.roundsAsBest + 1 }
  let sh := { sh with numFullScans := sh.numFullScans + 1 }
  if sh.roundsForEval = 0 then .error .divideByZero
  else if sh.numFullScans.tmod sh.roundsForEval ≠ 0 then .ok (none, sh, ctx)
  else match ctx.currentChannel with
    | none => .error .nullPointer
    | some cur =>
      if (ctx.channelAt best).metric.accumulatedScore >
          dcsAlgoCalculateThreshold (ctx.channelAt cur).metric.accumulatedScore
            sh.thresholdPercentage then .ok (some best, sh, ctx)
      else .ok (none, sh, dcsAlgoResetAccumulatedScores ctx 0)

/-- `sample_hold_op_evaluate_channels`: the best channel is dereferenced first. -/
def sampleHoldOpEvaluateChannels (sh : SampleAndHold) (ctx : DcsContext) :
    Except DcsFault (Option Nat × SampleAndHold × DcsContext) :=
  (dcsAlgoGetChannelWithHighestScore ctx).bind fun
    | some best => sampleHoldDecide sh ctx best
    | none => .error .nullPointer

/-! ## §5 — the `algo_ops` table -/

/-- The algorithm `dcs_algo_initialise` selected, with its private context. -/
inductive AlgoState where
  | ewma (e : EwmaContext)
  | sampleAndHold (s : SampleAndHold)
  deriving DecidableEq, Repr

/-- `dcs_algo_ops_process_measurement`. -/
def dcsAlgoOpsProcessMeasurement (algo : AlgoState) (ctx : DcsContext) (metric : UInt8)
    (i : Nat) : DcsContext :=
  match algo with
  | .ewma e => ewmaOpProcessMeasurement e ctx metric i
  | .sampleAndHold _ => sampleHoldOpProcessMeasurement ctx metric i

/-- `dcs_algo_ops_evaluate_channels`. -/
def dcsAlgoOpsEvaluateChannels (algo : AlgoState) (ctx : DcsContext) :
    Except DcsFault (Option Nat × AlgoState × DcsContext) :=
  match algo with
  | .ewma e => (ewmaOpEvaluateChannels e ctx).map fun (c, e, ctx) => (c, .ewma e, ctx)
  | .sampleAndHold s =>
    (sampleHoldOpEvaluateChannels s ctx).map fun (c, s, ctx) => (c, .sampleAndHold s, ctx)

/-- `dcs_algo_ops_post_csa_hook`. -/
def dcsAlgoOpsPostCsaHook (algo : AlgoState) (ctx : DcsContext) : AlgoState × DcsContext :=
  match algo with
  | .ewma e => (.ewma (ewmaOpPostCsaHook e), ctx)
  | .sampleAndHold s => (.sampleAndHold s, dcsAlgoResetAccumulatedScores ctx 0)

/-- The settings `dcs_algo_initialise` passes to the algorithm the configuration names. -/
inductive AlgoConfig where
  | ewma (thresholdPercentage ewmaAlpha roundsForCsa : Int)
  | sampleAndHold (roundsForEval thresholdPercentage : Int)
  deriving DecidableEq, Repr

/-- `dcs_algo_initialise` once the algorithm is found (`ewma_op_init`, `sample_hold_op_init`):
EWMA checks its smoothing coefficient and round count and resets the scan list's scores to
`METRIC_INIT_VALUE`; `none` when the initialisation reports an error. -/
def dcsAlgoInitialise (cfg : AlgoConfig) (ctx : DcsContext) : Option (AlgoState × DcsContext) :=
  match cfg with
  | .ewma pct alpha rounds =>
    if alpha > 100 ∨ alpha < 1 ∨ rounds ≤ 0 then none
    else some (.ewma ⟨u8OfInt alpha, u8OfInt pct, rounds, 0⟩, dcsAlgoResetAccumulatedScores ctx 100)
  | .sampleAndHold rounds pct => some (.sampleAndHold ⟨rounds, u8OfInt pct, 0⟩, ctx)

theorem dcsAlgoInitialise_metricsOnly {cfg : AlgoConfig} {ctx ctx' : DcsContext}
    {algo : AlgoState} (h : dcsAlgoInitialise cfg ctx = some (algo, ctx')) :
    MetricsOnly ctx ctx' := by
  unfold dcsAlgoInitialise at h
  split at h
  · split_ifs at h
    cases h
    exact .reset ctx 100
  · cases h
    exact .refl ctx

/-- **Both algorithms dereference `NULL` on an empty scan list.** -/
theorem dcsAlgoOpsEvaluateChannels_nil (algo : AlgoState) {ctx : DcsContext}
    (h : ctx.scanList = []) : dcsAlgoOpsEvaluateChannels algo ctx = .error .nullPointer := by
  cases algo with
  | ewma e =>
    simp only [dcsAlgoOpsEvaluateChannels, ewmaOpEvaluateChannels,
      dcsAlgoGetChannelWithHighestScore_nil h, Except.bind]
    split
    · simp_all
    · rfl
  | sampleAndHold sh =>
    simp only [dcsAlgoOpsEvaluateChannels, sampleHoldOpEvaluateChannels,
      dcsAlgoGetChannelWithHighestScore_nil h, Except.bind]
    rfl

theorem ewmaDecide_metricsOnly (ewma : EwmaContext) (ctx : DcsContext) (cur cand : Nat) :
    MetricsOnly ctx (ewmaDecide ewma ctx cur cand).2.2 := MetricsOnly.setMetric _ _ _

theorem sampleHoldDecide_metricsOnly {sh sh' : SampleAndHold} {ctx ctx' : DcsContext}
    {best : Nat} {c : Option Nat} (h : sampleHoldDecide sh ctx best = .ok (c, sh', ctx')) :
    MetricsOnly ctx ctx' ∧ (c = none ∨ c = some best) := by
  unfold sampleHoldDecide at h
  dsimp only at h
  split_ifs at h
  · simp only [Except.ok.injEq, Prod.mk.injEq] at h
    obtain ⟨rfl, -, rfl⟩ := h
    exact ⟨.setMetric _ _ _, .inl rfl⟩
  · split at h
    · cases h
    · split_ifs at h <;> simp only [Except.ok.injEq, Prod.mk.injEq] at h <;>
        obtain ⟨rfl, -, rfl⟩ := h
      · exact ⟨.setMetric _ _ _, .inr rfl⟩
      · exact ⟨(MetricsOnly.setMetric _ _ _).trans (.reset _ _), .inl rfl⟩

/-- **What an evaluation returns**: a context that differs only in metrics, and either no channel
or a channel of the scan list. -/
theorem dcsAlgoOpsEvaluateChannels_ok {algo algo' : AlgoState} {ctx ctx' : DcsContext}
    {c : Option Nat} (h : dcsAlgoOpsEvaluateChannels algo ctx = .ok (c, algo', ctx')) :
    MetricsOnly ctx ctx' ∧ ∀ i, c = some i → i ∈ ctx.scanList := by
  cases hc : dcsAlgoGetChannelWithHighestScore ctx with
  | error e =>
    cases algo <;>
      simp only [dcsAlgoOpsEvaluateChannels, ewmaOpEvaluateChannels, sampleHoldOpEvaluateChannels,
        hc] at h <;> cases h
  | ok cand =>
    have hmem := (dcsAlgoGetChannelWithHighestScore_ok hc).2
    cases algo with
    | ewma e =>
      simp only [dcsAlgoOpsEvaluateChannels, ewmaOpEvaluateChannels, hc, Except.bind] at h
      split at h
      · simp only [Except.map, Except.ok.injEq, Prod.mk.injEq] at h
        obtain ⟨rfl, -, rfl⟩ := h
        refine ⟨ewmaDecide_metricsOnly _ _ _ _, fun i hi => hmem i ?_⟩
        simp only [ewmaDecide] at hi
        split at hi <;> simp_all
      · cases h
    | sampleAndHold sh =>
      simp only [dcsAlgoOpsEvaluateChannels, sampleHoldOpEvaluateChannels, hc, Except.bind] at h
      split at h
      · rename_i best
        cases hd : sampleHoldDecide sh ctx best with
        | error e => simp [hd, Except.map] at h
        | ok r =>
          obtain ⟨c₀, sh₀, ctx₀⟩ := r
          simp only [hd, Except.map, Except.ok.injEq, Prod.mk.injEq] at h
          obtain ⟨rfl, -, rfl⟩ := h
          obtain ⟨hm, hc'⟩ := sampleHoldDecide_metricsOnly hd
          exact ⟨hm, fun i hi => hmem i (by rcases hc' with h' | h' <;> simp_all)⟩
      · cases h

/-- A post-switch hook changes only metrics. -/
theorem dcsAlgoOpsPostCsaHook_metricsOnly (algo : AlgoState) (ctx : DcsContext) :
    MetricsOnly ctx (dcsAlgoOpsPostCsaHook algo ctx).2 := by
  cases algo
  · exact .refl ctx
  · exact .reset ctx 0

end SmartManager.Dcs
