/-
# `SmartManager.Dcs.EwmaHysteresis` — what an EWMA evaluation that returns a channel has seen
(`algorithms/ewma.c`, with `measurement_schedule_thread_fn` in `dcs.c`)

`ewma_op_evaluate_channels` returns its best channel once `rounds_with_a_better_channel` has
reached `rounds_for_csa`.  The counter goes up in an evaluation whose best channel is not the
current one and beats the current channel's threshold, drops to 0 in one whose best channel is
the current one, and is reset by `ewma_op_post_csa_hook`, which the scan loop runs only after a
switch that succeeded.  A failed switch therefore leaves the counter at `rounds_for_csa`, and
the next evaluation returns its best channel whatever its margin over the threshold: the
hysteresis `ewma.c` describes.

The count is stated here over the calls of the run, in the words of that description
(`betterRounds`): the evaluations since the last reset that found a better channel above the
threshold.  Along every run of an EWMA thread the counter is that count (`EwmaTrace.iteration`),
so an evaluation that returns `c` found `c` best and not current, after at least
`rounds_for_csa` such evaluations since the last reset (`ewmaRun_hysteresis`); `c` itself may be
under the threshold in it (`ewmaRun_returns_under_threshold`).
-/
import SmartManager.Dcs.EwmaScores

namespace SmartManager.Dcs

open SmartManager.Libc SmartManager.Data

/-! ## §1 — the count the hysteresis is stated in -/

/-- The current channel and the channel `dcs_algo_get_channel_with_highest_score` names, when an
evaluation of `ctx` has both. -/
def evaluationChannels (ctx : DcsContext) : Option (Nat × Nat) :=
  match ctx.currentChannel, dcsAlgoGetChannelWithHighestScore ctx with
  | some cur, .ok (some best) => some (cur, best)
  | _, _ => none

/-- The evaluation of `ctx` found the current channel best. -/
def currentIsBest (ctx : DcsContext) : Bool :=
  match evaluationChannels ctx with
  | some (cur, best) => best == cur
  | none => false

/-- The evaluation of `ctx` found another channel best, with a score above the current channel's
threshold. -/
def betterAboveThreshold (pct : UInt8) (ctx : DcsContext) : Bool :=
  match evaluationChannels ctx with
  | some (cur, best) => best != cur &&
      decide (dcsAlgoCalculateThreshold (ctx.channelAt cur).metric.accumulatedScore pct <
        (ctx.channelAt best).metric.accumulatedScore)
  | none => false

/-- A call after which the count starts again from 0: an evaluation that found the current
channel best, and the hook after a successful switch. -/
def ScanCall.resetsRounds : ScanCall → Bool
  | .evaluateChannels ctx => currentIsBest ctx
  | .postCsaHook _ => true
  | _ => false

/-- An evaluation that found a better channel above the threshold. -/
def ScanCall.findsBetter (pct : UInt8) : ScanCall → Bool
  | .evaluateChannels ctx => betterAboveThreshold pct ctx
  | _ => false

/-- **The evaluations since the last reset that found a better channel above the threshold**,
among the calls `t` of a run. -/
def betterRounds (pct : UInt8) (t : List ScanCall) : Nat :=
  ((t.reverse.takeWhile fun x => !x.resetsRounds).filter (ScanCall.findsBetter pct)).length

/-- The count after one more call. -/
theorem betterRounds_concat (pct : UInt8) (t : List ScanCall) (x : ScanCall) :
    betterRounds pct (t ++ [x]) =
      if x.resetsRounds then 0 else betterRounds pct t + if x.findsBetter pct then 1 else 0 := by
  unfold betterRounds
  cases hr : x.resetsRounds <;> cases hf : x.findsBetter pct <;>
    simp [List.takeWhile_cons, List.filter_cons, hr, hf]

/-- Calls that neither reset the count nor add to it leave it. -/
theorem betterRounds_append_quiet {pct : UInt8} (t : List ScanCall) :
    ∀ {l : List ScanCall}, (∀ x ∈ l, x.resetsRounds = false ∧ x.findsBetter pct = false) →
      betterRounds pct (t ++ l) = betterRounds pct t := by
  unfold betterRounds
  intro l hl
  rw [List.reverse_append, List.takeWhile_append_of_pos (by simpa using fun x hx => (hl x hx).1),
    List.filter_append, List.filter_eq_nil_iff.2 (by simpa using fun x hx => (hl x hx).2),
    List.nil_append]

/-! ## §2 — the counter of `ewma_op_evaluate_channels` -/

theorem currentIsBest_eq {ctx : DcsContext} {cur best : Nat} (hcur : ctx.currentChannel = some cur)
    (hb : dcsAlgoGetChannelWithHighestScore ctx = .ok (some best)) :
    currentIsBest ctx = (best == cur) := by
  simp [currentIsBest, evaluationChannels, hcur, hb]

/-- **`ewma_op_evaluate_channels` moves its counter as the count moves**, and returns a channel
only when it is the best one and the counter has reached `rounds_for_csa`. -/
theorem ewmaOpEvaluateChannels_ok {e e' : EwmaContext} {ctx ctx' : DcsContext} {cand : Option Nat}
    (h : ewmaOpEvaluateChannels e ctx = .ok (cand, e', ctx')) :
    e' = { e with roundsWithABetterChannel := if currentIsBest ctx then 0 else
        e.roundsWithABetterChannel + if betterAboveThreshold e.thresholdPercentage ctx then 1 else 0 } ∧
      ∀ c, cand = some c → dcsAlgoGetChannelWithHighestScore ctx = .ok (some c) ∧
        e.roundsForCsa ≠ 0 ∧ e.roundsForCsa ≤ e'.roundsWithABetterChannel := by
  unfold ewmaOpEvaluateChannels at h
  cases hb : dcsAlgoGetChannelWithHighestScore ctx with
  | error err => rw [hb] at h; cases h
  | ok best =>
    rw [hb] at h
    cases hcur : ctx.currentChannel with
    | none => simp [hcur, Except.bind] at h
    | some cur =>
      cases best with
      | none => simp [hcur, Except.bind] at h
      | some b =>
        simp only [hcur, Except.bind, ewmaDecide, Except.ok.injEq, Prod.mk.injEq] at h
        obtain ⟨rfl, rfl, -⟩ := h
        have hbest : betterAboveThreshold e.thresholdPercentage ctx = (b != cur && decide
            (dcsAlgoCalculateThreshold (ctx.channelAt cur).metric.accumulatedScore
              e.thresholdPercentage < (ctx.channelAt b).metric.accumulatedScore)) := by
          simp [betterAboveThreshold, evaluationChannels, hcur, hb]
        rw [currentIsBest_eq hcur hb, hbest]
        refine ⟨?_, fun c hc => ?_⟩
        · by_cases hbc : b = cur <;> by_cases hlt : dcsAlgoCalculateThreshold
            (ctx.channelAt cur).metric.accumulatedScore e.thresholdPercentage <
              (ctx.channelAt b).metric.accumulatedScore <;> simp [hbc, hlt]
        · obtain ⟨hr, ⟨⟩⟩ := Option.ite_none_right_eq_some.1 hc
          exact ⟨rfl, hr⟩

/-! ## §3 — the counter along a run -/

/-- The thread runs EWMA with smoothing `α`, threshold `pct` and `rounds_for_csa = R`, and its
counter is the count of the calls `t`. -/
def EwmaTrace (α pct : UInt8) (R : Int) (s : ScanThread) (t : List ScanCall) : Prop :=
  s.algo = .ewma ⟨α, pct, R, betterRounds pct t⟩

section Trace

variable {α pct : UInt8} {R : Int}

/-- The measurement half's calls neither reset the count nor add to it, and leave the algorithm. -/
theorem scanMeasureCalls_quiet (pct : UInt8) {s s₁ : ScanThread} {ch : Nat}
    {meas : Option UInt8} {calls : List ScanCall} (h : scanMeasureCalls s ch meas = (calls, .ok s₁)) :
    s₁.algo = s.algo ∧ ∀ x ∈ calls, (∀ ctx, x ≠ .evaluateChannels ctx) ∧
      x.resetsRounds = false ∧ x.findsBetter pct = false := by
  refine ⟨scanMeasure_algo (by rw [scanMeasure, h]), ?_⟩
  rcases scanMeasureCalls_cases h with ⟨m, -, rfl, -⟩ | ⟨-, -, rfl, -⟩ | ⟨-, -, rfl, -⟩ <;>
    simp [ScanCall.resetsRounds, ScanCall.findsBetter]

/-- An evaluation adds to the counter as to the count, and returns a channel only when it is the
best one and the count has reached `rounds_for_csa`. -/
theorem EwmaTrace.evaluate {s : ScanThread} {t : List ScanCall} (hs : EwmaTrace α pct R s t)
    {cand : Option Nat} {algo : AlgoState} {ctx : DcsContext}
    (h : dcsAlgoOpsEvaluateChannels s.algo s.ctx = .ok (cand, algo, ctx)) :
    algo = .ewma ⟨α, pct, R, betterRounds pct (t ++ [.evaluateChannels s.ctx])⟩ ∧
      ∀ c, cand = some c → dcsAlgoGetChannelWithHighestScore s.ctx = .ok (some c) ∧
        R ≤ betterRounds pct (t ++ [.evaluateChannels s.ctx]) := by
  rw [hs, dcsAlgoOpsEvaluateChannels] at h
  cases he : ewmaOpEvaluateChannels ⟨α, pct, R, betterRounds pct t⟩ s.ctx with
  | error err => rw [he] at h; cases h
  | ok v =>
    rw [he] at h
    cases h
    obtain ⟨hv, hret⟩ := ewmaOpEvaluateChannels_ok he
    have hcount : (betterRounds pct (t ++ [.evaluateChannels s.ctx]) : Int) =
        if currentIsBest s.ctx then 0 else
          (betterRounds pct t : Int) + if betterAboveThreshold pct s.ctx then 1 else 0 := by
      rw [betterRounds_concat]
      split_ifs <;> simp_all [ScanCall.resetsRounds, ScanCall.findsBetter]
    refine ⟨by rw [hv, hcount], fun c hc => ?_⟩
    obtain ⟨hb, -, hR⟩ := hret c hc
    rw [hv] at hR
    exact ⟨hb, by rw [hcount]; exact hR⟩

/-- The switch's calls move the counter as the count: the hook after a successful switch
resets both. -/
theorem scanSwitchCalls_ewma {t : List ScanCall} {ctx ctx' : DcsContext} {cand : Option Nat}
    {r : Int} {sw : List ScanCall} {algo : AlgoState}
    (h : scanSwitchCalls (.ewma ⟨α, pct, R, betterRounds pct t⟩) ctx cand r = (sw, .ok (algo, ctx'))) :
    algo = .ewma ⟨α, pct, R, betterRounds pct (t ++ sw)⟩ := by
  unfold scanSwitchCalls at h
  split at h
  · split_ifs at h
    · split at h
      · cases h
      · split_ifs at h <;> simp only [Prod.mk.injEq, Except.ok.injEq] at h <;>
          obtain ⟨rfl, rfl, -⟩ := h
        · rw [← List.singleton_append, ← List.append_assoc, betterRounds_concat]
          rfl
        · rw [betterRounds_append_quiet t (by simp [ScanCall.resetsRounds, ScanCall.findsBetter])]
    · simp only [Prod.mk.injEq, Except.ok.injEq] at h
      obtain ⟨rfl, rfl, -⟩ := h
      rw [List.append_nil]
  · simp only [Prod.mk.injEq, Except.ok.injEq] at h
    obtain ⟨rfl, rfl, -⟩ := h
    rw [List.append_nil]

/-- The end of a round moves the counter as the count. -/
theorem EwmaTrace.endOfRound {s s' : ScanThread} {t ecalls : List ScanCall} {r : Int}
    (hs : EwmaTrace α pct R s t) (h : scanEndOfRoundCalls s r = (ecalls, .ok s')) :
    EwmaTrace α pct R s' (t ++ ecalls) := by
  unfold scanEndOfRoundCalls at h
  split at h
  · cases h
  · next cand algo ctx hev =>
    obtain ⟨halgo, -⟩ := hs.evaluate hev
    rcases hsw : scanSwitchCalls algo ctx cand r with ⟨sw, _ | ⟨algo₂, ctx₂⟩⟩
    · rw [hsw] at h; simp [Except.map] at h
    rw [hsw] at h
    simp only [Except.map, Prod.mk.injEq, Except.ok.injEq] at h
    obtain ⟨rfl, rfl⟩ := h
    -- the returned candidate neither resets the count nor adds to it
    have hV : betterRounds pct (t ++ [.evaluateChannels s.ctx, .evaluated cand]) =
        betterRounds pct (t ++ [.evaluateChannels s.ctx]) := by
      rw [← List.singleton_append, ← List.append_assoc, betterRounds_concat]; rfl
    rw [halgo, ← hV] at hsw
    simpa [EwmaTrace] using scanSwitchCalls_ewma hsw

theorem scanIterationCalls_of_measure {s s₁ : ScanThread} {inp : ScanInput} {ch : Nat}
    {calls : List ScanCall} (hch : s.channel = some ch)
    (hc : scanMeasureCalls s ch inp.meas = (calls, .ok s₁)) :
    scanIterationCalls s inp = if s₁.channel = none then
        (calls ++ (scanEndOfRoundCalls s₁ inp.switchRet).1, (scanEndOfRoundCalls s₁ inp.switchRet).2)
      else (calls, .ok s₁) := by
  simp only [scanIterationCalls, hch, hc]

/-- **An iteration keeps the counter the count of the calls**, its own calls included. -/
theorem EwmaTrace.iteration {s s' : ScanThread} {t : List ScanCall} {inp : ScanInput}
    (hs : EwmaTrace α pct R s t) (h : scanIteration s inp = .ok s') :
    EwmaTrace α pct R s' (t ++ (scanIterationCalls s inp).1) := by
  rw [scanIteration] at h
  cases hch : s.channel with
  | none => simp [scanIterationCalls, hch] at h
  | some ch =>
    rcases hc : scanMeasureCalls s ch inp.meas with ⟨calls, _ | s₁⟩
    · simp [scanIterationCalls, hch, hc] at h
    obtain ⟨halgo, hq⟩ := scanMeasureCalls_quiet pct hc
    have hs₁ : EwmaTrace α pct R s₁ (t ++ calls) := by
      rw [EwmaTrace, halgo, hs, betterRounds_append_quiet t fun x hx => (hq x hx).2]
    rw [scanIterationCalls_of_measure hch hc] at h ⊢
    split_ifs at h ⊢
    · rw [← List.append_assoc]
      exact hs₁.endOfRound (Prod.ext rfl h)
    · cases h
      exact hs₁

/-- Where an evaluation stands in an iteration's calls: after the measurement half's calls, in an
iteration that ends the round, which leaves what the end of the round leaves. -/
theorem scanIterationCalls_evaluate {s : ScanThread} {inp : ScanInput} {pre post : List ScanCall}
    {ctx' : DcsContext} (h : (scanIterationCalls s inp).1 = pre ++ .evaluateChannels ctx' :: post) :
    ∃ ch s₁, scanMeasureCalls s ch inp.meas = (pre, .ok s₁) ∧ ctx' = s₁.ctx ∧
      (scanEndOfRoundCalls s₁ inp.switchRet).1 = .evaluateChannels s₁.ctx :: post ∧
      scanIteration s inp = scanEndOfRound s₁ inp.switchRet := by
  have hnone : ∀ calls : List ScanCall, (∀ x ∈ calls, ∀ ctx, x ≠ .evaluateChannels ctx) →
      calls ≠ pre ++ .evaluateChannels ctx' :: post := fun calls hq hc =>
    hq _ (hc ▸ List.mem_append_right _ (List.mem_cons_self _ _)) ctx' rfl
  cases hch : s.channel with
  | none => simp [scanIterationCalls, hch] at h
  | some ch =>
    rcases hc : scanMeasureCalls s ch inp.meas with ⟨calls, _ | s₁⟩
    · simp only [scanIterationCalls, hch, hc] at h
      exact absurd h (hnone calls (by
        rcases scanMeasureCalls_cases hc with ⟨m, -, rfl, -⟩ | ⟨-, -, rfl, -⟩ | ⟨-, -, rfl, -⟩ <;>
          simp))
    obtain ⟨-, hq⟩ := scanMeasureCalls_quiet 0 hc
    rw [scanIterationCalls_of_measure hch hc] at h
    rw [scanIteration, scanIterationCalls_of_measure hch hc]
    split_ifs at h ⊢
    · obtain ⟨ec, heor, hec⟩ := scanEndOfRoundCalls_fst s₁ inp.switchRet
      dsimp only at h
      rw [heor] at h
      obtain ⟨pre', rfl, hpost⟩ := append_eq_evaluate (fun x hx => (hq x hx).1) h
      cases pre' with
      | nil =>
        simp only [List.nil_append, List.cons.injEq, ScanCall.evaluateChannels.injEq] at hpost
        obtain ⟨rfl, rfl⟩ := hpost
        exact ⟨ch, s₁, by rwa [List.append_nil], rfl, heor, rfl⟩
      | cons y pre' =>
        simp only [List.cons_append, List.cons.injEq] at hpost
        exact absurd (hpost.2 ▸ List.mem_append_right _ (List.mem_cons_self _ _))
          (fun hm => (hec.quiet _ hm).1 ctx' rfl)
    · exact absurd h (hnone calls fun x hx => (hq x hx).1)

/-- **A returned channel was found best and not current, after `rounds_for_csa` counted
evaluations**: an iteration of an EWMA thread whose evaluation returns `c`. -/
theorem EwmaTrace.iteration_returns {s : ScanThread} {t : List ScanCall} {inp : ScanInput}
    (hs : EwmaTrace α pct R s t) (hR : 0 < R) {pre post : List ScanCall} {ctx' : DcsContext}
    {c : Nat} (h : (scanIterationCalls s inp).1 =
      pre ++ .evaluateChannels ctx' :: .evaluated (some c) :: post) :
    ctx'.currentChannel ≠ some c ∧ dcsAlgoGetChannelWithHighestScore ctx' = .ok (some c) ∧
      R ≤ betterRounds pct (t ++ pre ++ [.evaluateChannels ctx']) := by
  obtain ⟨ch, s₁, hc, rfl, heor, -⟩ := scanIterationCalls_evaluate h
  obtain ⟨halgo, hq⟩ := scanMeasureCalls_quiet pct hc
  have hs₁ : EwmaTrace α pct R s₁ (t ++ pre) := by
    rw [EwmaTrace, halgo, hs, betterRounds_append_quiet t fun x hx => (hq x hx).2]
  unfold scanEndOfRoundCalls at heor
  cases hev : dcsAlgoOpsEvaluateChannels s₁.algo s₁.ctx with
  | error err => rw [hev] at heor; simp at heor
  | ok v =>
    obtain ⟨cand, algo, ctx⟩ := v
    rw [hev] at heor
    simp only [List.cons.injEq, ScanCall.evaluated.injEq, true_and] at heor
    obtain ⟨-, hret⟩ := hs₁.evaluate hev
    obtain ⟨hb, hcount⟩ := hret c heor.1
    refine ⟨fun hcur => ?_, hb, hcount⟩
    -- the current channel best resets the count, which `rounds_for_csa > 0` then exceeds
    rw [betterRounds_concat, if_pos (by simp [ScanCall.resetsRounds, currentIsBest_eq hcur hb])]
      at hcount
    omega

/-- An iteration whose calls end with an evaluation faults in it. -/
theorem scanIteration_of_evaluate_last {s : ScanThread} {inp : ScanInput} {pre : List ScanCall}
    {ctx' : DcsContext} (h : (scanIterationCalls s inp).1 = pre ++ [.evaluateChannels ctx']) :
    ∃ e, scanIteration s inp = .error e := by
  obtain ⟨ch, s₁, -, -, heor, hit⟩ := scanIterationCalls_evaluate h
  unfold scanEndOfRoundCalls at heor
  split at heor
  · next e he => exact ⟨e, by simp only [hit, scanEndOfRound, scanEndOfRoundCalls, he]⟩
  · simp at heor

/-- **Every channel an EWMA thread's evaluations return was found best and not current, after
`rounds_for_csa` counted evaluations**, along every run from a counter that is the count. -/
theorem EwmaTrace.run_returns (hR : 0 < R) :
    ∀ (inputs : List ScanInput) (s : ScanThread) (t : List ScanCall), EwmaTrace α pct R s t →
      ∀ pre ctx' c post,
        scanRunCalls s inputs = pre ++ .evaluateChannels ctx' :: .evaluated (some c) :: post →
        ctx'.currentChannel ≠ some c ∧ dcsAlgoGetChannelWithHighestScore ctx' = .ok (some c) ∧
          R ≤ betterRounds pct (t ++ pre ++ [.evaluateChannels ctx'])
  | [], _, _, _, pre, _, _, _, h => by simp [scanRunCalls] at h
  | inp :: inputs, s, t, hs, pre, ctx', c, post, h => by
    rw [scanRunCalls] at h
    rcases List.append_eq_append_iff.1 h with ⟨a', rfl, hrest⟩ | ⟨c', hcalls, hrest⟩
    · -- the evaluation lies in the later iterations
      cases hit : scanIteration s inp with
      | error e => rw [hit] at hrest; simp at hrest
      | ok s' =>
        rw [hit] at hrest
        have := EwmaTrace.run_returns hR inputs s' _ (hs.iteration hit) a' ctx' c post hrest
        simpa [List.append_assoc] using this
    · rcases c' with _ | ⟨x, _ | ⟨y, c'⟩⟩
      · -- the evaluation opens the later iterations
        rw [List.append_nil] at hcalls
        cases hit : scanIteration s inp with
        | error e => rw [hit] at hrest; simp at hrest
        | ok s' =>
          rw [hit] at hrest
          have := EwmaTrace.run_returns hR inputs s' _ (hs.iteration hit) [] ctx' c post
            (by simpa using hrest.symm)
          simpa [hcalls] using this
      · -- the iteration ends with the evaluation, which faults, so nothing follows it
        simp only [List.singleton_append, List.cons.injEq] at hrest
        obtain ⟨rfl, hrest⟩ := hrest
        obtain ⟨e, hit⟩ := scanIteration_of_evaluate_last hcalls
        rw [hit] at hrest
        simp at hrest
      · -- the evaluation and what it returned lie in this iteration
        simp only [List.cons_append, List.cons.injEq] at hrest
        obtain ⟨rfl, rfl, -⟩ := hrest
        exact hs.iteration_returns hR hcalls

end Trace

/-! ## §4 — from the start of the thread -/

/-- Two 1 MHz channels, at 902.5 and 903.5 MHz. -/
def twoChannelTable : List MorseCmdChannelInfo := [⟨902500, 1, 1⟩, ⟨903500, 1, 3⟩]

/-- **The hysteresis of EWMA.**  Take the scan thread `dcs_create` starts with EWMA and any
settings `ewma_op_init` accepts, and any run of it, with any measurements and any outcome of
`do_channel_switch`.  Whenever `ewma_op_evaluate_channels` returns a channel `c`, `c` is not the
current channel, it is the best channel of that evaluation, and since the last evaluation that
found the current channel best and the last successful switch, at least `rounds_for_csa`
evaluations, this one included, found a channel other than the current one best and above the
current channel's threshold.  That `c` itself beats the threshold in the evaluation that returns
it does not follow (`ewmaRun_returns_under_threshold`). -/
theorem ewmaRun_hysteresis {pct alpha rounds : Int} {ctx : DcsContext} {s : ScanThread}
    (h : dcsStartScan (.ewma pct alpha rounds) ctx = .ok (some s)) (inputs : List ScanInput)
    {pre post : List ScanCall} {ctx' : DcsContext} {c : Nat}
    (ht : scanRunCalls s inputs = pre ++ .evaluateChannels ctx' :: .evaluated (some c) :: post) :
    ctx'.currentChannel ≠ some c ∧ dcsAlgoGetChannelWithHighestScore ctx' = .ok (some c) ∧
      rounds ≤ betterRounds (u8OfInt pct) (pre ++ [.evaluateChannels ctx']) := by
  obtain ⟨-, -, hR, rfl⟩ := dcsStartScan_ewma h
  have hs : EwmaTrace (u8OfInt alpha) (u8OfInt pct) rounds (ScanThread.start
      (dcsAlgoResetAccumulatedScores ctx 100) (.ewma ⟨u8OfInt alpha, u8OfInt pct, rounds, 0⟩)) [] :=
    rfl
  have := EwmaTrace.run_returns hR inputs _ [] hs pre ctx' c post ht
  rwa [List.nil_append] at this

/-- EWMA with a 10 % threshold, smoothing 50 and a switch after one round, on two 1 MHz channels
from the driver, the first current.  In the first round channel 1 scores 150 against 100 and is
returned, and the switch times out; in the second it scores 125 against 120 and is returned
again, one counted evaluation after the last reset. -/
theorem ewmaRun_hysteresis_after_failed_switch :
    ∃ ctx s pre ctx' post,
      initialiseChannelsFromDriver ⟨true⟩ twoChannelTable statusOn902500 = .ok (some ctx) ∧
      dcsStartScan (.ewma 10 50 1) ctx = .ok (some s) ∧
      scanRunCalls s [⟨some 100, 0⟩, ⟨some 200, -110⟩, ⟨some 140, 0⟩, ⟨some 100, -110⟩] =
        pre ++ .evaluateChannels ctx' :: .evaluated (some 1) :: post ∧
      ctx'.currentChannel ≠ some 1 ∧ dcsAlgoGetChannelWithHighestScore ctx' = .ok (some 1) ∧
      (1 : Int) ≤ betterRounds (u8OfInt 10) (pre ++ [.evaluateChannels ctx']) := by
  obtain ⟨ctx, s, pre, ctx', post, hctx, hs, ht⟩ : ∃ ctx s pre ctx' post,
      initialiseChannelsFromDriver ⟨true⟩ twoChannelTable statusOn902500 = .ok (some ctx) ∧
      dcsStartScan (.ewma 10 50 1) ctx = .ok (some s) ∧
      scanRunCalls s [⟨some 100, 0⟩, ⟨some 200, -110⟩, ⟨some 140, 0⟩, ⟨some 100, -110⟩] =
        pre ++ .evaluateChannels ctx' :: .evaluated (some 1) :: post :=
    ⟨_, _, [_, _, _, _, _, _, _], _, [_], rfl, rfl, rfl⟩
  exact ⟨ctx, s, pre, ctx', post, hctx, hs, ht, ewmaRun_hysteresis hs _ ht⟩

/-- **A returned channel need not beat the threshold in the evaluation that returns it.**  The
run above: the second evaluation returns channel 1 with the score 125, under the current
channel's threshold 132, because the failed switch left the counter at `rounds_for_csa`. -/
theorem ewmaRun_returns_under_threshold :
    ∃ s, dcsCreateLive ⟨true⟩ (.ewma 10 50 1) twoChannelTable statusOn902500 = .ok (some s) ∧
      ∃ pre ctx' post, scanRunCalls s [⟨some 100, 0⟩, ⟨some 200, -110⟩, ⟨some 140, 0⟩,
          ⟨some 100, -110⟩] = pre ++ .evaluateChannels ctx' :: .evaluated (some 1) :: post ∧
        ctx'.currentChannel = some 0 ∧
        ¬ dcsAlgoCalculateThreshold (ctx'.channelAt 0).metric.accumulatedScore 10 <
          (ctx'.channelAt 1).metric.accumulatedScore :=
  ⟨_, rfl, [_, _, _, _, _, _, _], _, [_], rfl, rfl, by decide⟩

end SmartManager.Dcs
