/-
# `SmartManager.Dcs.AlgoRuns` — the decision algorithms over whole runs of the scan thread

What the two algorithms decide once the scan thread has driven them for many rounds
(`algorithms/ewma.c`, `algorithms/sample_and_hold.c`, and `measurement_schedule_thread_fn` in
`dcs.c`):

* `sample_hold_op_init` takes `rounds_for_eval` from the configuration without a range check,
  and `sample_hold_op_evaluate_channels` reduces `num_full_scans` modulo it, so with `0` the
  first round that ends divides by zero (`scanIteration_sampleHold_divideByZero`);
* sample-and-hold scores only grow while no evaluation is due, so over a long enough run the
  `uint32_t` product in `dcs_algo_calculate_threshold` wraps (`sampleHoldRounds_score`).
-/
import SmartManager.Dcs.ScanThread

namespace SmartManager.Dcs

open SmartManager.Libc SmartManager.Data

/-! ## §1 — the best-channel helper with a current channel -/

/-- With a current channel a step of the helper's loop never faults. -/
theorem highestScoreStep_isOk {ctx : DcsContext} (hcur : ctx.currentChannel ≠ none)
    (best : Option Nat) (next : Nat) : ∃ r, highestScoreStep ctx best next = .ok r := by
  unfold highestScoreStep
  split
  · exact ⟨_, rfl⟩
  · dsimp only
    split_ifs
    · exact ⟨_, rfl⟩
    · split
      · exact absurd ‹_› hcur
      · split_ifs <;> exact ⟨_, rfl⟩
    · exact ⟨_, rfl⟩

theorem foldlM_highestScoreStep_isOk {ctx : DcsContext} (hcur : ctx.currentChannel ≠ none) :
    ∀ (l : List Nat) (best : Option Nat), ∃ r, l.foldlM (highestScoreStep ctx) best = .ok r
  | [], best => ⟨best, rfl⟩
  | x :: l, best => by
    obtain ⟨b, hb⟩ := highestScoreStep_isOk hcur best x
    rw [List.foldlM_cons, hb]
    exact foldlM_highestScoreStep_isOk hcur l b

/-- **With a current channel the helper returns a channel of every non-empty scan list.** -/
theorem dcsAlgoGetChannelWithHighestScore_some {ctx : DcsContext}
    (hcur : ctx.currentChannel ≠ none) (hne : ctx.scanList ≠ []) :
    ∃ b, dcsAlgoGetChannelWithHighestScore ctx = .ok (some b) := by
  obtain ⟨r, hr⟩ := foldlM_highestScoreStep_isOk hcur ctx.scanList none
  cases r with
  | none => exact absurd ((dcsAlgoGetChannelWithHighestScore_ok hr).1.1 rfl) hne
  | some b => exact ⟨b, hr⟩

/-! ## §2 — sample and hold with `rounds_for_eval = 0` -/

/-- The measurement half of an iteration leaves the algorithm as it was. -/
theorem scanMeasure_algo {s s₁ : ScanThread} {ch : Nat} {meas : Option UInt8}
    (h : scanMeasure s ch meas = .ok s₁) : s₁.algo = s.algo := by
  rw [scanMeasure_eq] at h
  split at h
  · dsimp only at h
    split_ifs at h
    cases h; rfl
  · split_ifs at h <;> cases h <;> rfl

/-- **Sample-and-hold with `rounds_for_eval = 0` divides by zero at the end of a round.**
`sample_hold_op_init` accepts the value (`dcsAlgoInitialise` never rejects sample-and-hold), and
every iteration that ends a round with a current channel and a non-empty scan list reaches
`num_full_scans % rounds_for_eval` with a zero divisor. -/
theorem scanIteration_sampleHold_divideByZero {s s₁ : ScanThread} {ch : Nat} {inp : ScanInput}
    {sh : SampleAndHold} (halgo : s.algo = .sampleAndHold sh) (h0 : sh.roundsForEval = 0)
    (hch : s.channel = some ch) (hm : scanMeasure s ch inp.meas = .ok s₁)
    (hend : s₁.channel = none) (hne : s₁.ctx.scanList ≠ []) (hcur : s₁.ctx.currentChannel ≠ none) :
    scanIteration s inp = .error .divideByZero := by
  obtain ⟨b, hb⟩ := dcsAlgoGetChannelWithHighestScore_some hcur hne
  have halgo₁ : s₁.algo = .sampleAndHold sh := (scanMeasure_algo hm).trans halgo
  simp only [scanIteration_eq, hch, hm, hend, Except.bind, if_true, scanEndOfRound_eq, halgo₁,
    dcsAlgoOpsEvaluateChannels, sampleHoldOpEvaluateChannels, hb, sampleHoldDecide, h0]
  rfl

/-- With `rounds_for_eval = 0` and a one-channel table, `dcs_create` starts the scan thread, and
the first measurement ends the first round with a division by zero. -/
theorem dcsCreate_sampleHold_zero_rounds :
    ∃ s, dcsCreateLive ⟨true⟩ (.sampleAndHold 0 10) singleChannelTable statusOn902500 =
        .ok (some s) ∧ scanIteration s ⟨some 200, 0⟩ = .error .divideByZero :=
  ⟨_, rfl, scanIteration_sampleHold_divideByZero rfl rfl rfl rfl rfl (by decide) (by decide)⟩

/-! ## §3 — sample-and-hold scores over long runs -/

/-- A sample-and-hold thread on a scan list of the one channel `i`, which is the current one,
at the top of its loop: `rounds_for_eval = R`, threshold `p`, `n` full scans done, and `i`'s score
`score`. -/
structure SampleHoldSingle (s : ScanThread) (i : Nat) (R : Int) (p : UInt8) (n : Int)
    (score : UInt32) : Prop where
  scanList : s.ctx.scanList = [i]
  channel : s.channel = some i
  current : s.ctx.currentChannel = some i
  valid : i < s.ctx.allChannels.length
  algo : s.algo = .sampleAndHold ⟨R, p, n⟩
  score : (s.ctx.channelAt i).metric.accumulatedScore = score

/-- An evaluation of a one-channel scan list that does not reset the scores: no evaluation is
due, or the channel beats its own threshold. -/
theorem sampleHoldOpEvaluateChannels_single {ctx : DcsContext} {i : Nat} {R : Int} {p : UInt8}
    {n : Int} (hl : ctx.scanList = [i]) (hcur : ctx.currentChannel = some i)
    (hv : i < ctx.allChannels.length) (hR : R ≠ 0)
    (hkeep : (n + 1).tmod R ≠ 0 ∨ dcsAlgoCalculateThreshold (ctx.channelAt i).metric.accumulatedScore p <
      (ctx.channelAt i).metric.accumulatedScore) :
    ∃ c, (c = none ∨ c = some i) ∧ sampleHoldOpEvaluateChannels ⟨R, p, n⟩ ctx =
      .ok (c, ⟨R, p, n + 1⟩, ctx.setMetric i
        { (ctx.channelAt i).metric with roundsAsBest := (ctx.channelAt i).metric.roundsAsBest + 1 }) := by
  have hb : dcsAlgoGetChannelWithHighestScore ctx = .ok (some i) := by
    simp [dcsAlgoGetChannelWithHighestScore, hl]; rfl
  simp only [sampleHoldOpEvaluateChannels, hb, Except.bind, sampleHoldDecide, hR, if_false,
    DcsContext.setMetric_currentChannel, hcur, DcsContext.channelAt_setMetric_self hv]
  split_ifs with h₁ h₂
  · exact ⟨none, .inl rfl, rfl⟩
  · exact ⟨some i, .inr rfl, rfl⟩
  · exact absurd (hkeep.resolve_left (by simpa using h₁)) h₂

/-- A switch to nothing or to the current channel changes nothing. -/
theorem scanSwitch_current {algo : AlgoState} {ctx : DcsContext} {c : Option Nat} {i : Nat}
    (hcur : ctx.currentChannel = some i) (hc : c = none ∨ c = some i) (r : Int) :
    scanSwitch algo ctx c r = .ok (algo, ctx) := by
  rcases hc with rfl | rfl
  · rfl
  · simp [scanSwitch_eq, hcur]

/-- **One round of a one-channel sample-and-hold thread**: a measurement of metric `m` adds `m`
to the score, and the evaluation that ends the round keeps it unless it resets the scores. -/
theorem scanIteration_sampleHoldSingle {s : ScanThread} {i : Nat} {R : Int} {p : UInt8} {n : Int}
    {score : UInt32} (hs : SampleHoldSingle s i R p n score) (hR : R ≠ 0) (m : UInt8) (r : Int)
    (hkeep : (n + 1).tmod R ≠ 0 ∨
      dcsAlgoCalculateThreshold (score + m.toUInt32) p < score + m.toUInt32) :
    ∃ s', scanIteration s ⟨some m, r⟩ = .ok s' ∧
      SampleHoldSingle s' i R p (n + 1) (score + m.toUInt32) := by
  obtain ⟨hl, hch, hcur, hv, halgo, hsc⟩ := hs
  set ctx₁ := s.ctx.setMetric i { (s.ctx.channelAt i).metric with
    accumulatedScore := (s.ctx.channelAt i).metric.accumulatedScore + m.toUInt32
    nSamples := (s.ctx.channelAt i).metric.nSamples + 1 } with hctx₁
  have hl₁ : ctx₁.scanList = [i] := hl
  have hcur₁ : ctx₁.currentChannel = some i := hcur
  have hv₁ : i < ctx₁.allChannels.length := by rw [hctx₁, DcsContext.setMetric_length]; exact hv
  have hsc₁ : (ctx₁.channelAt i).metric.accumulatedScore = score + m.toUInt32 := by
    rw [hctx₁, DcsContext.channelAt_setMetric_self hv, hsc]
  obtain ⟨c, hc, he⟩ := sampleHoldOpEvaluateChannels_single hl₁ hcur₁ hv₁ hR (by rwa [hsc₁])
  set ctx₂ := ctx₁.setMetric i
    { (ctx₁.channelAt i).metric with roundsAsBest := (ctx₁.channelAt i).metric.roundsAsBest + 1 }
  refine ⟨⟨ctx₂, .sampleAndHold ⟨R, p, n + 1⟩, some i, 0⟩, ?_, hl₁, rfl, hcur₁,
    by rw [DcsContext.setMetric_length]; exact hv₁, rfl, ?_⟩
  · have hcur₂ : ctx₂.currentChannel = some i := hcur₁
    have hl₂ : ctx₂.scanList = [i] := hl₁
    simp only [scanIteration_eq, hch, scanMeasure_eq, halgo, dcsAlgoOpsProcessMeasurement,
      sampleHoldOpProcessMeasurement, ← hctx₁, hcur₁, Option.some_ne_none, if_false, hl₁,
      listGetNextItemOrNull, if_true, List.head?_nil, pure, Except.pure, Except.bind,
      scanEndOfRound_eq, dcsAlgoOpsEvaluateChannels, he, Except.map, scanSwitch_current hcur₂ hc, hl₂,
      List.head?_cons]
  · rw [DcsContext.channelAt_setMetric_self hv₁, hsc₁]

/-- **Scores grow while no evaluation is due**: `k` rounds before the next evaluation add
`k · m` to the score, with no reset. -/
theorem scanRun_sampleHoldSingle {R : Int} {p m : UInt8} (r : Int) (hR : 0 < R) :
    ∀ (k : Nat) {s : ScanThread} {i : Nat} {n : Int} {score : UInt32},
      SampleHoldSingle s i R p n score → 0 ≤ n → n + k < R →
      ∃ s', scanRun s (List.replicate k ⟨some m, r⟩) = .ok s' ∧
        SampleHoldSingle s' i R p (n + k) (score + UInt32.ofNat (m.toNat * k))
  | 0, s, _, _, score, hs, _, _ => by
    have h0 : score + UInt32.ofNat (m.toNat * 0) = score := by
      have : score.toNat < 2 ^ 32 := score.toBitVec.isLt
      rw [uint32_eq_iff_toNat_eq, uint32_toNat_add, uint32_toNat_ofNat, Nat.mul_zero]
      omega
    exact ⟨s, rfl, by rw [h0, Nat.cast_zero, Int.add_zero]; exact hs⟩
  | k + 1, s, i, n, score, hs, hn, hk => by
    have htmod : (n + 1).tmod R ≠ 0 := by rw [Int.tmod_eq_of_lt (by omega) (by omega)]; omega
    obtain ⟨s₁, h₁, hs₁⟩ := scanIteration_sampleHoldSingle hs hR.ne' m r (.inl htmod)
    obtain ⟨s', h', hs'⟩ := scanRun_sampleHoldSingle r hR k hs₁ (by omega) (by omega)
    refine ⟨s', by simpa only [scanRun, List.replicate_succ, List.foldlM_cons, h₁] using h', ?_⟩
    have hsc : score + m.toUInt32 + UInt32.ofNat (m.toNat * k) =
        score + UInt32.ofNat (m.toNat * (k + 1)) := by
      rw [uint32_eq_iff_toNat_eq]
      simp only [uint32_toNat_add, uint32_toNat_ofNat, uint8_toNat_toUInt32, Nat.mul_succ]
      omega
    rw [show n + (k + 1 : Nat) = n + 1 + k by push_cast; ring, ← hsc]
    exact hs'

/-- **The threshold of sample-and-hold wraps.**  A one-channel thread that starts from a zero
score and gets the metric `m` in every round reaches its first evaluation, after
`rounds_for_eval = R` rounds, with the score `m · R`.  The evaluation compares the channel with
itself: `100 · S > (100 + p) · S` never holds, so the exact test resets the scores.  Whenever
`m · R · (100 + p)` wraps below `100 · m · R` modulo `2^32`, the `uint32_t` test
`S > dcs_algo_calculate_threshold(S, p)` passes instead, and the run keeps the score. -/
theorem sampleHoldRun_threshold_wraps {s : ScanThread} {i : Nat} {R : Int} {p m : UInt8} (r : Int)
    (hs : SampleHoldSingle s i R p 0 0) (hR : 0 < R) (hfit : m.toNat * R.toNat < 2 ^ 32)
    (hwrap : m.toNat * R.toNat * (100 + p.toNat) % 2 ^ 32 / 100 < m.toNat * R.toNat) :
    2 ^ 32 ≤ m.toNat * R.toNat * (100 + p.toNat) ∧
      ∃ s', scanRun s (List.replicate R.toNat ⟨some m, r⟩) = .ok s' ∧
        SampleHoldSingle s' i R p R (UInt32.ofNat (m.toNat * R.toNat)) := by
  refine ⟨?_, ?_⟩
  · have h100 : m.toNat * R.toNat * 100 ≤ m.toNat * R.toNat * (100 + p.toNat) :=
      Nat.mul_le_mul_left _ (Nat.le_add_right _ _)
    by_contra h
    rw [Nat.mod_eq_of_lt (by omega)] at hwrap
    omega
  · obtain ⟨s₁, h₁, hs₁⟩ := scanRun_sampleHoldSingle r hR (R.toNat - 1) hs le_rfl (by omega)
    have hm : m.toNat < 2 ^ 8 := m.toBitVec.isLt
    have hS : 0 + UInt32.ofNat (m.toNat * (R.toNat - 1)) + m.toUInt32 =
        UInt32.ofNat (m.toNat * R.toNat) := by
      obtain ⟨K, hK⟩ : ∃ K, R.toNat = K + 1 := ⟨R.toNat - 1, by omega⟩
      rw [hK, Nat.mul_succ] at hfit
      have h0 : (0 : UInt32).toNat = 0 := rfl
      rw [hK, Nat.add_sub_cancel, uint32_eq_iff_toNat_eq]
      simp only [uint32_toNat_add, uint32_toNat_ofNat, uint8_toNat_toUInt32, Nat.mul_succ, h0]
      omega
    have hkeep : dcsAlgoCalculateThreshold (UInt32.ofNat (m.toNat * R.toNat)) p <
        UInt32.ofNat (m.toNat * R.toNat) := by
      rw [uint32_lt_iff_toNat_lt, dcsAlgoCalculateThreshold_toNat, uint32_toNat_ofNat,
        Nat.mod_eq_of_lt hfit]
      exact hwrap
    obtain ⟨s', h', hs'⟩ := scanIteration_sampleHoldSingle hs₁ hR.ne' m r (.inr (by rwa [hS]))
    refine ⟨s', ?_, ?_⟩
    · have h₁' : (List.replicate (R.toNat - 1) ⟨some m, r⟩).foldlM scanIteration s = .ok s₁ := h₁
      rw [show R.toNat = R.toNat - 1 + 1 by omega, List.replicate_succ', scanRun,
        List.foldlM_append, h₁']
      simp only [List.foldlM_cons, List.foldlM_nil, bind, Except.bind, h']
      rfl
    · have hn : (0 : Int) + ((R.toNat - 1 : Nat) : Int) + 1 = R := by omega
      rwa [hn, hS] at hs'

/-- With `rounds_for_eval = 50000`, the threshold 255 and the metric 255 in every round, the
first evaluation sees the score 12,750,000, whose product with 355 wraps to 231,282,704: the
threshold is 2,312,827 and the scores are kept. -/
theorem sampleHoldRun_50000_rounds :
    ∃ s, dcsCreateLive ⟨true⟩ (.sampleAndHold 50000 255) singleChannelTable statusOn902500 =
        .ok (some s) ∧ SampleHoldSingle s 0 50000 255 0 0 ∧ (0 : Int) < 50000 ∧
      (255 : UInt8).toNat * (50000 : Int).toNat < 2 ^ 32 ∧
      (255 : UInt8).toNat * (50000 : Int).toNat * (100 + (255 : UInt8).toNat) % 2 ^ 32 / 100 <
        (255 : UInt8).toNat * (50000 : Int).toNat ∧
      (2 ^ 32 ≤ (255 : UInt8).toNat * (50000 : Int).toNat * (100 + (255 : UInt8).toNat) ∧
        ∃ s', scanRun s (List.replicate (50000 : Int).toNat ⟨some 255, 0⟩) = .ok s' ∧
          SampleHoldSingle s' 0 50000 255 50000
            (UInt32.ofNat ((255 : UInt8).toNat * (50000 : Int).toNat))) :=
  ⟨_, rfl, ⟨rfl, rfl, rfl, by decide, rfl, rfl⟩, by decide, by decide, by decide,
    sampleHoldRun_threshold_wraps 0 ⟨rfl, rfl, rfl, by decide, rfl, rfl⟩ (by decide) (by decide)
      (by decide)⟩

end SmartManager.Dcs
