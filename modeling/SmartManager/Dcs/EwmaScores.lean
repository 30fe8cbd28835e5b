/-
# `SmartManager.Dcs.EwmaScores` — EWMA scores stay between the values they average
(`algorithms/ewma.c`, with `measurement_schedule_thread_fn` in `dcs.c`)

`apply_ewma` computes `(alpha · new + (100 − alpha) · last) / 100` in `uint32_t` and returns it as
a `uint16_t`.  With `alpha` at most 100 and both inputs at most 255 nothing wraps and nothing is
truncated (`applyEwma_toNat`), and the floor of the weighted mean lies between its two inputs
(`applyEwma_between`).  EWMA changes a score only in `process_measurement`: the evaluation at the
end of a round credits the best channel with a round, and the hook after a switch resets only
the round counter (`scanIteration_ewma_scoreOf`).

So over every run of the scan thread a channel's score stays in every interval, below 256, that
holds its score at the start and every metric the run's `process_measurement` calls hand it
(`scanRun_ewma_between`, with the metrics read off the calls, `scanRunProcessed`).  From the start
`dcs_create` gives an EWMA thread (`dcsStartScan`), whose `ewma_op_init` gives the scan list's
channels the score `METRIC_INIT_VALUE = 100`, a scan-list channel's score lies between the least
and the greatest of 100 and the metrics applied to it (`ewmaRun_scores_between`).
-/
import SmartManager.Dcs.AlgoRuns
import SmartManager.Dcs.ScanRounds

namespace SmartManager.Dcs

open SmartManager.Libc SmartManager.Data

/-! ## §1 — one application of `apply_ewma` -/

theorem uint32_toNat_toUInt16 (x : UInt32) : x.toUInt16.toNat = x.toNat % 2 ^ 16 := by
  simp [UInt32.toUInt16, UInt16.toNat, Nat.toUInt16, UInt16.ofNat, Fin.ofNat]

theorem uint16_toNat_toUInt32 (x : UInt16) : x.toUInt32.toNat = x.toNat := by
  simp [UInt16.toUInt32, UInt32.toNat]

/-- With `alpha ≤ 100` and inputs below 256, `apply_ewma` is the exact floor of the weighted
mean: the `uint32_t` sum does not wrap and the `uint16_t` result does not truncate. -/
theorem applyEwma_toNat {alpha : UInt8} {n l : UInt32} (ha : alpha.toNat ≤ 100)
    (hn : n.toNat ≤ 255) (hl : l.toNat ≤ 255) :
    (applyEwma alpha n l).toNat = (alpha.toNat * n.toNat + (100 - alpha.toNat) * l.toNat) / 100 := by
  have hc : (u32OfInt (100 - alpha.toNat)).toNat = 100 - alpha.toNat := by
    rw [u32OfInt, uint32_toNat_ofNat]; omega
  have h₁ : alpha.toNat * n.toNat ≤ 100 * 255 := Nat.mul_le_mul ha hn
  have h₂ : (100 - alpha.toNat) * l.toNat ≤ 100 * 255 := Nat.mul_le_mul (Nat.sub_le _ _) hl
  rw [applyEwma, uint32_toNat_toUInt16, UInt32.toNat_div, uint32_toNat_add, uint32_toNat_mul,
    uint32_toNat_mul, uint8_toNat_toUInt32, hc, show (100 : UInt32).toNat = 100 from rfl]
  generalize alpha.toNat * n.toNat = A at h₁ ⊢
  generalize (100 - alpha.toNat) * l.toNat = B at h₂ ⊢
  omega

/-- **The floor of a weighted mean lies between the two values averaged.** -/
theorem applyEwma_between {alpha : UInt8} {n l : UInt32} (ha : alpha.toNat ≤ 100)
    (hn : n.toNat ≤ 255) (hl : l.toNat ≤ 255) :
    min n.toNat l.toNat ≤ (applyEwma alpha n l).toNat ∧
      (applyEwma alpha n l).toNat ≤ max n.toNat l.toNat := by
  rw [applyEwma_toNat ha hn hl]
  have hsum : ∀ k, alpha.toNat * k + (100 - alpha.toNat) * k = 100 * k := fun k => by
    rw [← Nat.add_mul, Nat.add_sub_cancel' ha]
  constructor
  · refine (Nat.le_div_iff_mul_le (by decide)).2 ?_
    calc min n.toNat l.toNat * 100
        = alpha.toNat * min n.toNat l.toNat + (100 - alpha.toNat) * min n.toNat l.toNat := by
          rw [hsum, Nat.mul_comm]
      _ ≤ alpha.toNat * n.toNat + (100 - alpha.toNat) * l.toNat :=
          Nat.add_le_add (Nat.mul_le_mul_left _ (min_le_left _ _))
            (Nat.mul_le_mul_left _ (min_le_right _ _))
  · refine Nat.div_le_of_le_mul ?_
    calc alpha.toNat * n.toNat + (100 - alpha.toNat) * l.toNat
        ≤ alpha.toNat * max n.toNat l.toNat + (100 - alpha.toNat) * max n.toNat l.toNat :=
          Nat.add_le_add (Nat.mul_le_mul_left _ (le_max_left _ _))
            (Nat.mul_le_mul_left _ (le_max_right _ _))
      _ = 100 * max n.toNat l.toNat := hsum _

/-! ## §2 — what an iteration does to the scores -/

/-- The score of table entry `i`. -/
def DcsContext.scoreOf (ctx : DcsContext) (i : Nat) : UInt32 :=
  (ctx.channelAt i).metric.accumulatedScore

theorem DcsContext.scoreOf_setMetric (ctx : DcsContext) (j : Nat) (m : ChannelMetric) (i : Nat) :
    (ctx.setMetric j m).scoreOf i =
      if i = j ∧ i < ctx.allChannels.length then m.accumulatedScore else ctx.scoreOf i := by
  simp only [DcsContext.scoreOf, DcsContext.channelAt, DcsContext.setMetric,
    List.getD_eq_getElem?_getD, List.getElem?_modify]
  by_cases hij : i = j
  · subst hij
    by_cases hlt : i < ctx.allChannels.length
    · simp [hlt, List.getElem?_eq_getElem hlt]
    · simp [hlt, List.getElem?_eq_none (Nat.le_of_not_lt hlt)]
  · simp [hij, Ne.symm hij]

theorem DcsContext.scoreOf_congr {ctx ctx' : DcsContext} (h : ctx'.allChannels = ctx.allChannels) :
    ctx'.scoreOf = ctx.scoreOf := by
  funext i; simp [DcsContext.scoreOf, DcsContext.channelAt, h]

/-- The evaluation of EWMA credits a round and keeps every score. -/
theorem ewmaDecide_scoreOf (e : EwmaContext) (ctx : DcsContext) (cur cand i : Nat) :
    (ewmaDecide e ctx cur cand).2.2.scoreOf i = ctx.scoreOf i := by
  simp only [ewmaDecide, DcsContext.scoreOf_setMetric]
  split_ifs with h
  · rw [h.1]; rfl
  · rfl

/-- **What EWMA's evaluation can do**: return a candidate and keep its smoothing coefficient
and every score. -/
theorem dcsAlgoOpsEvaluateChannels_ewma {e : EwmaContext} {ctx ctx' : DcsContext}
    {cand : Option Nat} {algo : AlgoState}
    (h : dcsAlgoOpsEvaluateChannels (.ewma e) ctx = .ok (cand, algo, ctx')) :
    (∃ e', algo = .ewma e' ∧ e'.ewmaAlpha = e.ewmaAlpha) ∧ ctx'.scoreOf = ctx.scoreOf := by
  simp only [dcsAlgoOpsEvaluateChannels, ewmaOpEvaluateChannels] at h
  cases hb : dcsAlgoGetChannelWithHighestScore ctx with
  | error err => simp [hb, Except.bind, Except.map] at h
  | ok best =>
    simp only [hb, Except.bind] at h
    split at h
    · simp only [Except.map, Except.ok.injEq, Prod.mk.injEq] at h
      obtain ⟨-, rfl, rfl⟩ := h
      exact ⟨⟨_, rfl, rfl⟩, funext (ewmaDecide_scoreOf e ctx _ _)⟩
    · cases h

/-- The switch of an EWMA thread keeps the context and the smoothing coefficient. -/
theorem scanSwitch_ewma {e : EwmaContext} {ctx ctx' : DcsContext} {cand : Option Nat} {r : Int}
    {algo : AlgoState} (h : scanSwitch (.ewma e) ctx cand r = .ok (algo, ctx')) :
    (∃ e', algo = .ewma e' ∧ e'.ewmaAlpha = e.ewmaAlpha) ∧ ctx' = ctx := by
  rw [scanSwitch_eq] at h
  split at h
  · rename_i c
    split_ifs at h
    · cases hd : doChannelSwitchRet ctx c r with
      | error err => rw [hd] at h; cases h
      | ok ret =>
        rw [hd] at h
        simp only [Except.map, Except.ok.injEq] at h
        split_ifs at h <;>
          simp only [dcsAlgoOpsPostCsaHook, Prod.mk.injEq] at h <;> obtain ⟨rfl, rfl⟩ := h <;>
          exact ⟨⟨_, rfl, rfl⟩, rfl⟩
    · cases h; exact ⟨⟨_, rfl, rfl⟩, rfl⟩
  · cases h; exact ⟨⟨_, rfl, rfl⟩, rfl⟩

/-- The end of a round of an EWMA thread keeps every score. -/
theorem scanEndOfRound_ewma {s s' : ScanThread} {e : EwmaContext} {r : Int}
    (halgo : s.algo = .ewma e) (h : scanEndOfRound s r = .ok s') :
    (∃ e', s'.algo = .ewma e' ∧ e'.ewmaAlpha = e.ewmaAlpha) ∧ s'.ctx.scoreOf = s.ctx.scoreOf := by
  rw [scanEndOfRound_eq] at h
  rw [halgo] at h
  cases hv : dcsAlgoOpsEvaluateChannels (.ewma e) s.ctx with
  | error err => rw [hv] at h; cases h
  | ok v =>
    obtain ⟨cand, algo, ctx⟩ := v
    obtain ⟨⟨e', rfl, he'⟩, hsc⟩ := dcsAlgoOpsEvaluateChannels_ewma hv
    rw [hv] at h
    cases hs : scanSwitch (.ewma e') ctx cand r with
    | error err => simp [Except.bind, hs, Except.map] at h
    | ok w =>
      obtain ⟨algo', ctx'⟩ := w
      simp only [Except.bind, hs, Except.map, Except.ok.injEq] at h
      subst h
      obtain ⟨⟨e'', rfl, he''⟩, rfl⟩ := scanSwitch_ewma hs
      exact ⟨⟨e'', rfl, he''.trans he'⟩, hsc⟩

/-- The measurement half changes the table only by processing the measurement. -/
theorem scanMeasure_allChannels {s s₁ : ScanThread} {c : Nat} {meas : Option UInt8}
    (h : scanMeasure s c meas = .ok s₁) :
    s₁.ctx.allChannels = (meas.elim s.ctx fun metric =>
      dcsAlgoOpsProcessMeasurement s.algo s.ctx metric c).allChannels := by
  rw [scanMeasure_eq] at h
  split at h
  · dsimp only at h
    split_ifs at h
    cases h; rfl
  · split_ifs at h <;> cases h <;> rfl

theorem ewmaOpProcessMeasurement_scoreOf (e : EwmaContext) (ctx : DcsContext) (metric : UInt8)
    (j i : Nat) : (ewmaOpProcessMeasurement e ctx metric j).scoreOf i =
      if i = j ∧ i < ctx.allChannels.length then
        (applyEwma e.ewmaAlpha metric.toUInt32 (ctx.scoreOf j)).toUInt32
      else ctx.scoreOf i :=
  DcsContext.scoreOf_setMetric _ _ _ _

/-- **What one iteration of an EWMA thread does to a score**: it applies `apply_ewma` to the
metric measured on the cursor channel, when there is one, and leaves every other score. -/
theorem scanIteration_ewma_scoreOf {s s' : ScanThread} {inp : ScanInput} {e : EwmaContext}
    (halgo : s.algo = .ewma e) (h : scanIteration s inp = .ok s') :
    (∃ e', s'.algo = .ewma e' ∧ e'.ewmaAlpha = e.ewmaAlpha) ∧
      s'.ctx.scoreOf = match s.channel, inp.meas with
        | some ch, some metric => (ewmaOpProcessMeasurement e s.ctx metric ch).scoreOf
        | _, _ => s.ctx.scoreOf := by
  rw [scanIteration_eq] at h
  cases hch : s.channel with
  | none => rw [hch] at h; cases h
  | some ch =>
    rw [hch] at h
    dsimp only at h
    cases hm : scanMeasure s ch inp.meas with
    | error err => rw [hm] at h; cases h
    | ok s₁ =>
      rw [hm] at h
      have ha₁ : s₁.algo = .ewma e := (scanMeasure_algo hm).trans halgo
      have hsc₁ := DcsContext.scoreOf_congr (scanMeasure_allChannels hm)
      have hsc : s₁.ctx.scoreOf = match some ch, inp.meas with
          | some ch, some metric => (ewmaOpProcessMeasurement e s.ctx metric ch).scoreOf
          | _, _ => s.ctx.scoreOf := by
        rw [hsc₁]; cases inp.meas <;> simp [halgo, dcsAlgoOpsProcessMeasurement]
      simp only [Except.bind] at h
      split_ifs at h
      · obtain ⟨he', hsc'⟩ := scanEndOfRound_ewma ha₁ h
        exact ⟨he', hsc'.trans hsc⟩
      · cases h
        exact ⟨⟨e, ha₁, rfl⟩, hsc⟩

/-! ## §3 — whole runs -/

/-- The metrics a run hands to `process_measurement`, each with the channel it is for: those of
the calls it makes. -/
def scanRunProcessed (s : ScanThread) (inputs : List ScanInput) : List (Nat × UInt8) :=
  (scanRunCalls s inputs).filterMap ScanCall.measurement?

/-- The end of a round hands no metric to `process_measurement`. -/
theorem scanEndOfRoundCalls_measurement (s : ScanThread) (r : Int) :
    (scanEndOfRoundCalls s r).1.filterMap ScanCall.measurement? = [] := by
  obtain ⟨ec, h, hec⟩ := scanEndOfRoundCalls_fst s r
  rw [h, List.filterMap_eq_nil_iff]
  intro x hx
  rcases List.mem_cons.1 hx with rfl | hx
  · rfl
  · simpa [ScanCall.processed?] using (hec.quiet x hx).2.1

/-- An iteration hands `process_measurement` the metric it measured, for the channel under the
cursor, and nothing else. -/
theorem scanIterationCalls_measurement (s : ScanThread) (inp : ScanInput) :
    (scanIterationCalls s inp).1.filterMap ScanCall.measurement? =
      match s.channel, inp.meas with
      | some ch, some m => [(ch, m)]
      | _, _ => [] := by
  unfold scanIterationCalls
  cases s.channel with
  | none => rfl
  | some ch =>
    rcases hc : scanMeasureCalls s ch inp.meas with ⟨calls, r⟩
    have hcalls : calls.filterMap ScanCall.measurement? =
        match some ch, inp.meas with
        | some ch, some m => [(ch, m)]
        | _, _ => [] := by
      rcases scanMeasureCalls_cases hc with ⟨m, hm, rfl, -⟩ | ⟨hm, -, rfl, -⟩ | ⟨hm, -, rfl, -⟩ <;>
        simp [hm, ScanCall.measurement?]
    dsimp only
    rw [hc]
    cases r with
    | error e => exact hcalls
    | ok s₁ =>
      dsimp only
      split_ifs
      · rw [List.filterMap_append, hcalls, scanEndOfRoundCalls_measurement, List.append_nil]
      · exact hcalls

theorem scanRunProcessed_cons (s : ScanThread) (inp : ScanInput) (inputs : List ScanInput) :
    scanRunProcessed s (inp :: inputs) =
      (match s.channel, inp.meas with
        | some ch, some m => [(ch, m)]
        | _, _ => []) ++
      match scanIteration s inp with
      | .ok s' => scanRunProcessed s' inputs
      | .error _ => [] := by
  rw [scanRunProcessed, scanRunCalls, List.filterMap_append, scanIterationCalls_measurement]
  cases scanIteration s inp <;> rfl

/-- One iteration keeps a score in `[lo, hi]` when the metric it processes for the channel, if
any, is in `[lo, hi]`. -/
theorem scanIteration_ewma_between {lo hi : Nat} (hhi : hi ≤ 255) {i : Nat} {s s' : ScanThread}
    {inp : ScanInput} {e : EwmaContext} (halgo : s.algo = .ewma e) (ha : e.ewmaAlpha.toNat ≤ 100)
    (h : scanIteration s inp = .ok s') (hlo : lo ≤ (s.ctx.scoreOf i).toNat)
    (hhi' : (s.ctx.scoreOf i).toNat ≤ hi)
    (hm : ∀ m, s.channel = some i → inp.meas = some m → lo ≤ m.toNat ∧ m.toNat ≤ hi) :
    lo ≤ (s'.ctx.scoreOf i).toNat ∧ (s'.ctx.scoreOf i).toNat ≤ hi := by
  rw [(scanIteration_ewma_scoreOf halgo h).2]
  cases hch : s.channel with
  | none => exact ⟨hlo, hhi'⟩
  | some ch =>
    cases hmeas : inp.meas with
    | none => exact ⟨hlo, hhi'⟩
    | some m =>
      dsimp only
      rw [ewmaOpProcessMeasurement_scoreOf]
      split_ifs with hi
      · obtain ⟨rfl, -⟩ := hi
        obtain ⟨hmlo, hmhi⟩ := hm m hch hmeas
        have hmn : m.toUInt32.toNat ≤ 255 := by
          have := m.toNat_lt_size; rw [uint8_toNat_toUInt32]; omega
        obtain ⟨hb₁, hb₂⟩ := applyEwma_between (l := s.ctx.scoreOf i) ha hmn (by omega)
        rw [uint16_toNat_toUInt32, uint8_toNat_toUInt32] at *
        exact ⟨(le_min hmlo hlo).trans hb₁, hb₂.trans (max_le hmhi hhi')⟩
      · exact ⟨hlo, hhi'⟩

/-- **A score stays in every interval that holds its start and the metrics averaged into it.**
Over every run of an EWMA thread with `alpha ≤ 100`: if channel `i`'s score starts in
`[lo, hi]`, `hi < 256`, and every metric the run processes for `i` is in `[lo, hi]`, then so is
the score after the run. -/
theorem scanRun_ewma_between {lo hi : Nat} (hhi : hi ≤ 255) (i : Nat) :
    ∀ (inputs : List ScanInput) {s s' : ScanThread} {e : EwmaContext}, s.algo = .ewma e →
      e.ewmaAlpha.toNat ≤ 100 → scanRun s inputs = .ok s' →
      lo ≤ (s.ctx.scoreOf i).toNat → (s.ctx.scoreOf i).toNat ≤ hi →
      (∀ p ∈ scanRunProcessed s inputs, p.1 = i → lo ≤ p.2.toNat ∧ p.2.toNat ≤ hi) →
      lo ≤ (s'.ctx.scoreOf i).toNat ∧ (s'.ctx.scoreOf i).toNat ≤ hi
  | [], _, _, _, _, _, h, hlo, hhi', _ => by cases h; exact ⟨hlo, hhi'⟩
  | inp :: inputs, s, s', e, halgo, ha, h, hlo, hhi', hms => by
    cases h₁ : scanIteration s inp with
    | error err => simp [scanRun, h₁] at h; cases h
    | ok s₁ =>
      have hrun : scanRun s₁ inputs = .ok s' := by simpa [scanRun, h₁] using h
      have hproc : scanRunProcessed s (inp :: inputs) =
          (match s.channel, inp.meas with
            | some ch, some metric => [(ch, metric)]
            | _, _ => []) ++ scanRunProcessed s₁ inputs := by
        rw [scanRunProcessed_cons, h₁]
      obtain ⟨⟨e₁, ha₁, he₁⟩, -⟩ := scanIteration_ewma_scoreOf halgo h₁
      have hb := scanIteration_ewma_between hhi halgo ha h₁ hlo hhi' fun m hch hmeas =>
        hms (i, m) (by rw [hproc, hch, hmeas]; exact List.mem_append_left _ (List.mem_singleton_self _))
          rfl
      exact scanRun_ewma_between hhi i inputs ha₁ (he₁ ▸ ha) hrun hb.1 hb.2 fun p hp =>
        hms p (by rw [hproc]; exact List.mem_append_right _ hp)

/-! ## §4 — from the start of the thread -/

/-- `dcs_algo_reset_accumulated_scores` gives every scan-list entry of the table the reset value
and leaves every other score. -/
theorem dcsAlgoResetAccumulatedScores_scoreOf (ctx : DcsContext) (v : Int) (i : Nat) :
    (dcsAlgoResetAccumulatedScores ctx v).scoreOf i =
      if i ∈ ctx.scanList ∧ i < ctx.allChannels.length then u32OfInt v else ctx.scoreOf i := by
  unfold dcsAlgoResetAccumulatedScores
  induction ctx.scanList generalizing ctx with
  | nil => simp
  | cons j l ih =>
    rw [List.foldl_cons, ih, DcsContext.setMetric_length, DcsContext.scoreOf_setMetric]
    rcases eq_or_ne i j with rfl | hij
    · by_cases hlt : i < ctx.allChannels.length <;> simp [hlt]
    · simp [hij]

/-- `dcs_create`'s start of an EWMA scan thread: `ewma_op_init` accepted `alpha` in `[1, 100]`
and a positive `rounds_for_csa`, and the thread starts with the scan list's scores reset to
`METRIC_INIT_VALUE`. -/
theorem dcsStartScan_ewma {pct alpha rounds : Int} {ctx : DcsContext} {s : ScanThread}
    (h : dcsStartScan (.ewma pct alpha rounds) ctx = .ok (some s)) :
    1 ≤ alpha ∧ alpha ≤ 100 ∧ 0 < rounds ∧
      s = ScanThread.start (dcsAlgoResetAccumulatedScores ctx 100)
        (.ewma ⟨u8OfInt alpha, u8OfInt pct, rounds, 0⟩) := by
  simp only [dcsStartScan, dcsAlgoInitialise] at h
  split_ifs at h with hbad
  · cases h
  · dsimp only at h
    split_ifs at h
    cases h
    exact ⟨by omega, by omega, by omega, rfl⟩

/-- **EWMA scores stay between 100 and the metrics applied.**  Take the scan thread `dcs_create`
starts with EWMA and any settings `ewma_op_init` accepts, on channels whose scan list indexes the
table (from the driver or from a log), and any run of it.  Every scan-list channel's score lies
between the least and the greatest of its initial value 100 and the metrics the run applied to
it, so within `[0, 255]`, and the next `apply_ewma` on it is the exact floor of the weighted
mean: its `uint16_t` result truncates nothing. -/
theorem ewmaRun_scores_between {pct alpha rounds : Int} {ctx : DcsContext} {s s' : ScanThread}
    (h : dcsStartScan (.ewma pct alpha rounds) ctx = .ok (some s))
    (hlt : ∀ i ∈ ctx.scanList, i < ctx.allChannels.length) (inputs : List ScanInput) (hrun : scanRun s inputs = .ok s') {i : Nat}
    (hi : i ∈ s.ctx.scanList) :
    let applied := 100 :: ((scanRunProcessed s inputs).filter (·.1 = i)).map (·.2.toNat)
    ∃ lo hi, applied.min? = some lo ∧ applied.max? = some hi ∧
      lo ≤ (s'.ctx.scoreOf i).toNat ∧ (s'.ctx.scoreOf i).toNat ≤ hi ∧ hi ≤ 255 ∧
      ∀ m : UInt8, (applyEwma (u8OfInt alpha) m.toUInt32 (s'.ctx.scoreOf i)).toNat =
        (alpha.toNat * m.toNat + (100 - alpha.toNat) * (s'.ctx.scoreOf i).toNat) / 100 := by
  intro applied
  have happlied : ∀ p ∈ scanRunProcessed s inputs, p.1 = i → p.2.toNat ∈ applied := fun p hp hpi =>
    List.mem_cons_of_mem _ (List.mem_map_of_mem _ (List.mem_filter.2 ⟨hp, by simpa using hpi⟩))
  obtain ⟨ha₁, ha₁₀₀, -, rfl⟩ := dcsStartScan_ewma h
  have hi' : i ∈ ctx.scanList := (MetricsOnly.reset ctx 100).scanList ▸ hi
  have hstart : ((dcsAlgoResetAccumulatedScores ctx 100).scoreOf i).toNat = 100 := by
    rw [dcsAlgoResetAccumulatedScores_scoreOf, if_pos ⟨hi', hlt i hi'⟩]
    rfl
  have halpha : (u8OfInt alpha).toNat = alpha.toNat := by
    have : (u8OfInt alpha).toNat = (alpha % 2 ^ 8).toNat % 2 ^ 8 := rfl
    omega
  obtain ⟨lo, hlo⟩ : ∃ lo, applied.min? = some lo :=
    Option.ne_none_iff_exists'.1 (by simp [applied, List.min?_eq_none_iff])
  obtain ⟨hi, hhi⟩ : ∃ hi, applied.max? = some hi :=
    Option.ne_none_iff_exists'.1 (by simp [applied, List.max?_eq_none_iff])
  rw [List.min?_eq_some_iff'] at hlo
  rw [List.max?_eq_some_iff'] at hhi
  have hle : ∀ v ∈ applied, v ≤ 255 := by
    simp only [applied, List.mem_cons, List.mem_map]
    rintro v (rfl | ⟨p, -, rfl⟩)
    · decide
    · have : p.2.toNat < 2 ^ 8 := p.2.toBitVec.isLt
      omega
  have hb := scanRun_ewma_between (hle hi hhi.1) i inputs rfl (by rw [halpha]; omega) hrun
    (hstart ▸ hlo.2 100 (List.mem_cons_self _ _)) (hstart ▸ hhi.2 100 (List.mem_cons_self _ _))
    fun p hp hpi => ⟨hlo.2 _ (happlied p hp hpi), hhi.2 _ (happlied p hp hpi)⟩
  refine ⟨lo, hi, List.min?_eq_some_iff'.2 hlo, List.max?_eq_some_iff'.2 hhi, hb.1, hb.2,
    hle hi hhi.1, fun m => ?_⟩
  have hm : m.toNat < 2 ^ 8 := m.toBitVec.isLt
  rw [applyEwma_toNat (by rw [halpha]; omega) (by rw [uint8_toNat_toUInt32]; omega)
    (hb.2.trans (hle hi hhi.1)), halpha, uint8_toNat_toUInt32]

/-- A one-channel EWMA thread (`alpha = 50`) from the driver that measures 200 and then 20. -/
theorem ewmaRun_scores_two_metrics :
    ∃ ctx s s', initialiseChannelsFromDriver ⟨true⟩ singleChannelTable statusOn902500 =
        .ok (some ctx) ∧ dcsStartScan (.ewma 10 50 1) ctx = .ok (some s) ∧
      (∀ i ∈ ctx.scanList, i < ctx.allChannels.length) ∧
      scanRun s [⟨some 200, 0⟩, ⟨some 20, 0⟩] = .ok s' ∧ 0 ∈ s.ctx.scanList ∧
      let applied := 100 :: ((scanRunProcessed s [⟨some 200, 0⟩, ⟨some 20, 0⟩]).filter
        (·.1 = 0)).map (·.2.toNat)
      ∃ lo hi, applied.min? = some lo ∧ applied.max? = some hi ∧
        lo ≤ (s'.ctx.scoreOf 0).toNat ∧ (s'.ctx.scoreOf 0).toNat ≤ hi ∧ hi ≤ 255 ∧
        ∀ m : UInt8, (applyEwma (u8OfInt 50) m.toUInt32 (s'.ctx.scoreOf 0)).toNat =
          ((50 : Int).toNat * m.toNat + (100 - (50 : Int).toNat) * (s'.ctx.scoreOf 0).toNat) /
            100 := by
  obtain ⟨ctx, hctx⟩ : ∃ ctx, initialiseChannelsFromDriver ⟨true⟩ singleChannelTable
      statusOn902500 = .ok (some ctx) := ⟨_, rfl⟩
  obtain ⟨s, hs⟩ : ∃ s, dcsStartScan (.ewma 10 50 1) ctx = .ok (some s) := by
    cases hctx; exact ⟨_, rfl⟩
  obtain ⟨s', hs'⟩ : ∃ s', scanRun s [⟨some 200, 0⟩, ⟨some 20, 0⟩] = .ok s' := by
    cases hctx; cases hs; exact ⟨_, rfl⟩
  have hlt : ∀ i ∈ ctx.scanList, i < ctx.allChannels.length := by cases hctx; decide
  have hi : 0 ∈ s.ctx.scanList := by cases hctx; cases hs; decide
  exact ⟨ctx, s, s', hctx, hs, hlt, hs', hi, ewmaRun_scores_between hs hlt _ hs' hi⟩

/-- That run: 100 averaged with 200 gives 150, then with 20 gives 85. -/
example : (match dcsCreateLive ⟨true⟩ (.ewma 10 50 1) singleChannelTable statusOn902500 with
    | .ok (some s) => (scanRun s [⟨some 200, 0⟩, ⟨some 20, 0⟩]).toOption.map (·.ctx.scoreOf 0)
    | _ => none) = some 85 := by decide

end SmartManager.Dcs
