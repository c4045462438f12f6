import SilentDisco.Desktop.HostBinding

/-!
# The binding outlives its pumps

A pump that has not exited is owned by the binding it was started for, or by the one call that
starts or joins it; so the binding is detached only when no pump runs. This needs that playback is
not started or stopped while the host is stopped: neither call holds the lock while it owns a
streamer that the binding does not have.

## Main definitions

* `HostControl.KeepsApart`: the calls of the two threads do not overlap
* `HostControl.Owned`: the invariant

## Main results

* `binding_outlives_pumps`: no pump of a detached binding runs, and no call panics
-/

namespace SilentDisco.Desktop

def PumpPhase.isExited : PumpPhase → Bool
  | .exited _ => true
  | _ => false

/-- An event that reports nothing of a binding. -/
def ControlEvent.isPlain : ControlEvent → Bool
  | .silent | .returned _ => true
  | _ => false

variable (active : Option ActiveBinding)

/-- There is a binding, and it has no streamer. -/
def Vacant : Prop := ∃ k, active = some { number := k }

/-- What the command thread knows of the binding between its regions. -/
def CommandPhase.Owned : CommandPhase → Prop
  | .idle => True
  | .announced binding => active = some { number := binding }
  | .starting | .spawned _ | .joining _ => Vacant active
  | .dropping _ => False

/-- What the effect thread knows of the binding between its regions. -/
def EffectPhase.Owned : EffectPhase → Prop
  | .idle => True
  | .joining _ | .detaching _ => Vacant active
  | .releasing binding _ => active = none ∧ binding.playback = none
  | .dropping _ _ _ => False

/-- A call of the command thread is in progress only while a binding has no streamer. -/
theorem CommandPhase.Owned.eq_idle {active : Option ActiveBinding} {phase : CommandPhase}
    (h : phase.Owned active) (hactive : ¬Vacant active) : phase = .idle := by
  cases phase with
  | idle => rfl
  | announced binding => exact absurd ⟨binding, h⟩ hactive
  | starting | spawned | joining => exact absurd h hactive
  | dropping => exact h.elim

/-- The effect thread is idle while a binding has a streamer. -/
theorem EffectPhase.Owned.eq_idle {binding : ActiveBinding} {phase : EffectPhase} {pump : ℕ}
    (h : phase.Owned (some binding)) (hplayback : binding.playback = some pump) :
    phase = .idle := by
  have hvacant : ¬Vacant (some binding) := by
    rintro ⟨k, hk⟩
    cases hk
    cases hplayback
  cases phase with
  | idle => rfl
  | joining | detaching => exact absurd h hvacant
  | releasing => cases h.1
  | dropping => exact h.elim

theorem not_vacant_none : ¬Vacant none := by
  rintro ⟨k, hk⟩
  cases hk

namespace HostControl

variable {h : HostControl} {n k : ℕ}

/-- The pump `n` of the binding `k` has not exited. -/
def Runs (h : HostControl) (n k : ℕ) : Prop :=
  ∃ pump, h.pumps n = some pump ∧ pump.binding = k ∧ pump.phase.isExited = false

/-- The streamer whose pump may run: that of a call, or of the binding. -/
def owner (h : HostControl) : Option ℕ :=
  match h.command, h.effect with
  | .spawned pump, _ | .joining pump, _ | _, .joining pump => some pump
  | _, _ => h.active.bind ActiveBinding.playback

/-- The host is stopped while no call of the command thread is in progress, and no stream is
started until the host is stopped. -/
def KeepsApart (h : HostControl) : ControlStep → Prop
  | .stopHost => h.command = .idle
  | .startPlayback _ => h.effect = .idle
  | _ => True

/-- The invariant of the bindings and their pumps. -/
structure Owned (h : HostControl) : Prop where
  apart : h.command = .idle ∨ h.effect = .idle
  running : ∀ n k, h.Runs n k → h.owner = some n ∧ ∃ b ∈ h.active, b.number = k
  command : h.command.Owned h.active
  effect : h.effect.Owned h.active
  fresh : ∀ n, h.nextPump ≤ n → h.pumps n = none

theorem pumps_modifyPump (h : HostControl) (m n : ℕ) (f : PumpThread → PumpThread) :
    (h.modifyPump m f).pumps n = if n = m then (h.pumps n).map f else h.pumps n := by
  unfold modifyPump
  split_ifs with hm
  · subst hm
    exact Function.update_self _ _ _
  · exact Function.update_of_ne hm _ _

/-- No pump is brought back by a change that keeps its binding and its end. -/
theorem runs_modifyPump {m : ℕ} {f : PumpThread → PumpThread}
    (hruns : (h.modifyPump m f).Runs n k)
    (hf : ∀ pump, (f pump).binding = pump.binding ∧
      (pump.phase.isExited = true → (f pump).phase.isExited = true)) : h.Runs n k := by
  obtain ⟨pump, hpump, hbinding, hphase⟩ := hruns
  rw [pumps_modifyPump] at hpump
  split_ifs at hpump with hm
  · obtain ⟨before, hbefore, rfl⟩ := Option.map_eq_some_iff.mp hpump
    refine ⟨before, hbefore, (hf before).1.symm.trans hbinding, ?_⟩
    by_contra hexited
    rw [(hf before).2 (Bool.of_not_eq_false hexited)] at hphase
    cases hphase
  · exact ⟨pump, hpump, hbinding, hphase⟩

theorem runs_requestStop {m : ℕ} (hruns : (h.requestStop m).Runs n k) : h.Runs n k :=
  runs_modifyPump hruns fun _ => ⟨rfl, id⟩

theorem runs_runPump {m : ℕ} {iteration : PumpIteration}
    (hruns : (h.runPump m iteration).Runs n k) : h.Runs n k := by
  refine runs_modifyPump hruns fun pump => ⟨rfl, fun hexited => ?_⟩
  dsimp only
  unfold nextPhase
  cases hphase : pump.phase with
  | exited => rfl
  | running | ending =>
    rw [hphase] at hexited
    cases hexited

theorem not_runs_of_exited {failed : Bool} (hphase : h.pumpPhase n = some (.exited failed)) :
    ¬h.Runs n k := by
  rintro ⟨pump, hpump, -, hrunning⟩
  rw [pumpPhase, hpump] at hphase
  rw [Option.some.inj hphase] at hrunning
  cases hrunning

theorem fresh_modifyPump {m : ℕ} {f : PumpThread → PumpThread}
    (hfresh : ∀ n, h.nextPump ≤ n → h.pumps n = none) (n : ℕ) (hn : h.nextPump ≤ n) :
    (h.modifyPump m f).pumps n = none := by
  rw [pumps_modifyPump, hfresh n hn, Option.map_none, ite_self]

/-- What a step does to the numbers of the bindings, and what it reports. -/
inductive Moves (h : HostControl) : HostControl → ControlEvent → Prop
  | plain {next : HostControl} {event : ControlEvent} (hnext : next.nextBinding = h.nextBinding)
      (hactive : next.active.map ActiveBinding.number = h.active.map ActiveBinding.number)
      (heffect : ∀ b failed, next.effect = .releasing b failed → h.effect = .releasing b failed)
      (hplain : event.isPlain = true) : Moves h next event
  | bound (hnone : h.active = none) :
      Moves h
        { h with active := some { number := h.nextBinding }, nextBinding := h.nextBinding + 1 }
        (.returned (.ok ()))
  | detached (number : ℕ) (failed : Bool) (hactive : h.active = some { number })
      (howner : h.owner = none) :
      Moves h { h with active := none, effect := .releasing { number } failed } (.detached number)
  | stopped (number : ℕ) (failed : Bool) (result : Except ControlError Unit)
      (hnone : h.active = none) (heffect : h.effect = .releasing { number } failed) :
      Moves h { h with effect := .idle } (.hostStopped number result)

/-- A step keeps the invariant, and reports what it does. -/
def Steps (h : HostControl) (result : HostControl × ControlEvent) : Prop :=
  result.1.Owned ∧ h.Moves result.1 result.2

namespace Owned

variable (ho : h.Owned)
include ho

/-- Without an owner no pump runs. -/
theorem quiet (howner : h.owner = none) {P : ℕ → ℕ → Prop} (n k : ℕ) (hruns : h.Runs n k) :
    P n k := by
  have := (ho.running n k hruns).1
  rw [howner] at this
  cases this

/-- Without a running owner no pump runs. -/
theorem quiet_of_exited {pump : ℕ} {failed : Bool} (howner : h.owner = some pump)
    (hphase : h.pumpPhase pump = some (.exited failed)) {P : ℕ → ℕ → Prop} (n k : ℕ)
    (hruns : h.Runs n k) : P n k := by
  have := (ho.running n k hruns).1
  rw [howner] at this
  obtain rfl := Option.some.inj this
  exact absurd hruns (not_runs_of_exited hphase)

theorem stays {event : ControlEvent} (hplain : event.isPlain = true) : h.Steps (h, event) :=
  ⟨ho, .plain rfl rfl (fun _ _ => id) hplain⟩

theorem startHost (bound : Bool) : h.Steps (h.startHost bound) := by
  unfold HostControl.startHost
  split_ifs with hbusy hsome hbound
  · exact ho.stays rfl
  · exact ho.stays rfl
  · obtain ⟨active, nextBinding, pumps, nextPump, command, effect⟩ := h
    obtain rfl : active = none := Option.not_isSome_iff_eq_none.mp hsome
    obtain rfl : effect = .idle := not_not.mp hbusy
    obtain rfl : command = .idle := ho.command.eq_idle not_vacant_none
    exact ⟨⟨.inl rfl, ho.quiet rfl, trivial, trivial, ho.fresh⟩,
      .bound rfl⟩
  · exact ho.stays rfl

theorem stopHost (hidle : h.command = .idle) : h.Steps h.stopHost := by
  unfold HostControl.stopHost
  split_ifs with hbusy
  · exact ho.stays rfl
  · obtain ⟨active, nextBinding, pumps, nextPump, command, effect⟩ := h
    obtain rfl : command = .idle := hidle
    obtain rfl : effect = .idle := not_not.mp hbusy
    cases active with
    | none => exact ho.stays rfl
    | some binding =>
      obtain ⟨number, playback⟩ := binding
      cases playback with
      | none =>
        exact ⟨⟨.inl rfl, ho.running, trivial, ⟨number, rfl⟩, ho.fresh⟩,
          .plain rfl rfl (fun _ _ => EffectPhase.noConfusion) rfl⟩
      | some =>
        refine ⟨⟨.inl rfl, fun n k hruns => ?_, trivial, ⟨number, rfl⟩, fresh_modifyPump ho.fresh⟩,
          .plain rfl rfl (fun _ _ => EffectPhase.noConfusion) rfl⟩
        obtain ⟨howner, b, hb, hnumber⟩ := ho.running n k (runs_requestStop hruns)
        cases hb
        exact ⟨howner, _, rfl, hnumber⟩

theorem runEffect : h.Steps h.runEffect := by
  obtain ⟨active, nextBinding, pumps, nextPump, command, effect⟩ := h
  cases effect with
  | idle => exact ho.stays rfl
  | joining =>
    obtain rfl : command = .idle := ho.apart.resolve_right EffectPhase.noConfusion
    unfold HostControl.runEffect
    dsimp only
    split
    · next failed hphase =>
      exact ⟨⟨.inl rfl, ho.quiet_of_exited rfl hphase, trivial, ho.effect, ho.fresh⟩,
        .plain rfl rfl (fun _ _ => EffectPhase.noConfusion) rfl⟩
    · exact ho.stays rfl
  | detaching failed =>
    obtain rfl : command = .idle := ho.apart.resolve_right EffectPhase.noConfusion
    obtain ⟨number, rfl⟩ := ho.effect
    exact ⟨⟨.inl rfl, ho.quiet rfl, trivial, ⟨rfl, rfl⟩,
      ho.fresh⟩, .detached number failed rfl rfl⟩
  | releasing binding failed =>
    obtain rfl : command = .idle := ho.apart.resolve_right EffectPhase.noConfusion
    obtain ⟨rfl, hplayback⟩ := ho.effect
    obtain ⟨number, playback⟩ := binding
    obtain rfl : playback = none := hplayback
    exact ⟨⟨.inl rfl, ho.quiet rfl, trivial, trivial, ho.fresh⟩,
      .stopped number failed _ rfl rfl⟩
  | dropping => exact ho.effect.elim

theorem startPlayback (startingReplacementStream : Bool)
    (hidle : h.effect = .idle) : h.Steps (h.startPlayback startingReplacementStream) := by
  unfold HostControl.startPlayback
  split_ifs with hbusy
  · exact ho.stays rfl
  · obtain ⟨active, nextBinding, pumps, nextPump, command, effect⟩ := h
    obtain rfl : effect = .idle := hidle
    obtain rfl : command = .idle := not_not.mp hbusy
    cases active with
    | none => exact ho.stays rfl
    | some binding =>
      obtain ⟨number, playback⟩ := binding
      cases playback with
      | none =>
        exact ⟨⟨.inr rfl, ho.running, ⟨number, rfl⟩, trivial, ho.fresh⟩,
          .plain rfl rfl (fun _ _ => id) rfl⟩
      | some pump =>
        dsimp only
        split
        · next failed hphase =>
          -- The streamer is joined, and its pump has exited.
          split_ifs
          · exact ⟨⟨.inr rfl, ho.quiet_of_exited rfl hphase, trivial, trivial, ho.fresh⟩,
              .plain rfl rfl (fun _ _ => id) rfl⟩
          · exact ⟨⟨.inr rfl, ho.quiet_of_exited rfl hphase, ⟨number, rfl⟩, trivial, ho.fresh⟩,
              .plain rfl rfl (fun _ _ => id) rfl⟩
        · exact ho.stays rfl

theorem stopPlayback : h.Steps h.stopPlayback := by
  unfold HostControl.stopPlayback
  split_ifs with hbusy
  · exact ho.stays rfl
  · obtain ⟨active, nextBinding, pumps, nextPump, command, effect⟩ := h
    obtain rfl : command = .idle := not_not.mp hbusy
    cases active with
    | none => exact ho.stays rfl
    | some binding =>
      obtain ⟨number, playback⟩ := binding
      cases playback with
      | none => exact ho.stays rfl
      | some =>
        obtain rfl : effect = .idle := ho.effect.eq_idle rfl
        refine ⟨⟨.inr rfl, fun n k hruns => ?_, ⟨number, rfl⟩, trivial, fresh_modifyPump ho.fresh⟩,
          .plain rfl rfl (fun _ _ => id) rfl⟩
        obtain ⟨howner, b, hb, hnumber⟩ := ho.running n k (runs_requestStop hruns)
        cases hb
        exact ⟨howner, _, rfl, hnumber⟩

/-- A new pump is the only one that runs. -/
theorem spawnPump {binding : ℕ} (hphase : h.command = .announced binding)
    (succeeds : Bool) : h.Steps (h.spawnPump binding succeeds) := by
  obtain ⟨active, nextBinding, pumps, nextPump, command, effect⟩ := h
  obtain rfl : command = .announced binding := hphase
  obtain rfl : effect = .idle := ho.apart.resolve_left CommandPhase.noConfusion
  obtain rfl : active = some { number := binding } := ho.command
  cases succeeds with
  | false =>
    exact ⟨⟨.inl rfl, ho.quiet rfl, trivial, trivial, ho.fresh⟩,
      .plain rfl rfl (fun _ _ => id) rfl⟩
  | true =>
    refine ⟨⟨.inr rfl, ?_, ⟨binding, rfl⟩, trivial, ?_⟩, .plain rfl rfl (fun _ _ => id) rfl⟩
    · rintro n k ⟨pump, hpump, hbinding, hrunning⟩
      change Function.update pumps nextPump (some { binding }) n = some pump at hpump
      by_cases hn : n = nextPump
      · subst hn
        rw [Function.update_self] at hpump
        cases hpump
        exact ⟨rfl, _, rfl, hbinding⟩
      · rw [Function.update_of_ne hn] at hpump
        exact (ho.quiet rfl (P := fun _ _ => False) n k ⟨pump, hpump, hbinding, hrunning⟩).elim
    · intro n hn
      change nextPump + 1 ≤ n at hn
      change Function.update pumps nextPump (some { binding }) n = none
      rw [Function.update_of_ne (by omega)]
      exact ho.fresh n (by change nextPump ≤ n; omega)

theorem runCommand (succeeds : Bool) : h.Steps (h.runCommand succeeds) := by
  obtain ⟨active, nextBinding, pumps, nextPump, command, effect⟩ := h
  have hidle (hbusy : command ≠ .idle) : effect = .idle := ho.apart.resolve_left hbusy
  cases command with
  | announced => exact ho.spawnPump rfl succeeds
  | idle => exact ho.stays rfl
  | starting =>
    obtain rfl := hidle CommandPhase.noConfusion
    obtain ⟨number, rfl⟩ := ho.command
    cases succeeds with
    | false =>
      exact ⟨⟨.inl rfl, ho.running, trivial, trivial, ho.fresh⟩, .plain rfl rfl (fun _ _ => id) rfl⟩
    | true =>
      exact ⟨⟨.inr rfl, ho.running, rfl, trivial, ho.fresh⟩, .plain rfl rfl (fun _ _ => id) rfl⟩
  | spawned =>
    obtain rfl := hidle CommandPhase.noConfusion
    obtain ⟨number, rfl⟩ := ho.command
    refine ⟨⟨.inl rfl, fun n k hruns => ?_, trivial, trivial, ho.fresh⟩,
      .plain rfl rfl (fun _ _ => id) rfl⟩
    obtain ⟨howner, b, hb, hnumber⟩ := ho.running n k hruns
    cases hb
    exact ⟨howner, _, rfl, hnumber⟩
  | dropping => exact ho.command.elim
  | joining =>
    obtain rfl := hidle CommandPhase.noConfusion
    unfold HostControl.runCommand
    dsimp only
    split
    · next failed hexited =>
      exact ⟨⟨.inl rfl, ho.quiet_of_exited rfl hexited, trivial, trivial, ho.fresh⟩,
        .plain rfl rfl (fun _ _ => id) rfl⟩
    · exact ho.stays rfl

theorem runPump (n : ℕ) (iteration : PumpIteration) : (h.runPump n iteration).Owned :=
  ⟨ho.apart, fun m k hruns => ho.running m k (runs_runPump hruns), ho.command, ho.effect,
    fresh_modifyPump ho.fresh⟩

/-- **One step** of any thread. -/
theorem step (x : ControlStep) (hx : h.KeepsApart x) : h.Steps (h.step x) := by
  cases x with
  | startHost bound => exact ho.startHost bound
  | stopHost => exact ho.stopHost hx
  | effect => exact ho.runEffect
  | startPlayback startingReplacementStream => exact ho.startPlayback startingReplacementStream hx
  | stopPlayback => exact ho.stopPlayback
  | command succeeds => exact ho.runCommand succeeds
  | pump n iteration => exact ⟨ho.runPump n iteration, .plain rfl rfl (fun _ _ => id) rfl⟩

/-- A binding is detached when it has no streamer. -/
theorem detached {x : ControlStep} {k : ℕ} (hx : (h.step x).2 = .detached k) : h.owner = none := by
  have hmoves : ∀ result, h.Steps result → result.2 = .detached k → h.owner = none := by
    rintro ⟨next, event⟩ ⟨-, hmoves⟩ rfl
    cases hmoves with
    | plain _ _ _ hplain => cases hplain
    | detached _ _ _ howner => exact howner
  cases x with
  | startHost bound => exact hmoves _ (ho.startHost bound) hx
  | stopHost =>
    change h.stopHost.2 = _ at hx
    unfold HostControl.stopHost at hx
    split_ifs at hx
    split at hx <;> cases hx
  | effect => exact hmoves _ ho.runEffect hx
  | startPlayback startingReplacementStream =>
    change (h.startPlayback startingReplacementStream).2 = _ at hx
    unfold HostControl.startPlayback at hx
    split_ifs at hx
    split at hx
    · cases hx
    · cases hx
    · split at hx
      · split_ifs at hx
      · cases hx
  | stopPlayback => exact hmoves _ ho.stopPlayback hx
  | command succeeds => exact hmoves _ (ho.runCommand succeeds) hx
  | pump => cases hx

end Owned

/-! ## Every run -/

/-- The invariant of a run and what it has reported. -/
structure Outlives (h : HostControl) (events : List ControlEvent) : Prop where
  owned : h.Owned
  numbered : ∀ b ∈ h.active, b.number < h.nextBinding
  released : ∀ b failed, h.effect = .releasing b failed → b.number < h.nextBinding
  stopped : ∀ k result, .hostStopped k result ∈ events →
    k < h.nextBinding ∧ ∀ b ∈ h.active, b.number ≠ k
  calm : .panicked ∉ events

theorem outlives_new : Outlives {} [] where
  owned :=
    { apart := .inl rfl
      running := fun n k hruns => by
        obtain ⟨pump, hpump, -⟩ := hruns
        cases hpump
      command := trivial
      effect := trivial
      fresh := fun _ _ => rfl }
  numbered _ hb := by cases hb
  released _ _ hreleasing := by cases hreleasing
  stopped _ _ hmem := absurd hmem List.not_mem_nil
  calm := List.not_mem_nil

theorem Outlives.step {events : List ControlEvent} (ho : Outlives h events) (x : ControlStep)
    (hx : h.KeepsApart x) : Outlives (h.step x).1 (events ++ [(h.step x).2]) := by
  obtain ⟨howned, hmoves⟩ := ho.owned.step x hx
  generalize (h.step x).1 = next at howned hmoves ⊢
  generalize (h.step x).2 = event at hmoves ⊢
  cases hmoves with
  | plain hnext hactive heffect hplain =>
    have hnumber : ∀ b' ∈ next.active, ∃ b ∈ h.active, b.number = b'.number := fun b' hb' =>
      Option.map_eq_some_iff.mp (hactive.symm.trans (congrArg (Option.map _) hb'))
    refine ⟨howned, fun b' hb' => ?_, fun b failed hreleasing => ?_, fun k result hmem => ?_,
      fun hmem => ?_⟩
    · obtain ⟨b, hb, hsame⟩ := hnumber b' hb'
      rw [hnext, ← hsame]
      exact ho.numbered b hb
    · rw [hnext]
      exact ho.released b failed (heffect b failed hreleasing)
    · rcases List.mem_append.mp hmem with hbefore | hnow
      · obtain ⟨hk, hother⟩ := ho.stopped k result hbefore
        refine ⟨hnext ▸ hk, fun b' hb' => ?_⟩
        obtain ⟨b, hb, hsame⟩ := hnumber b' hb'
        exact hsame ▸ hother b hb
      · rw [← List.mem_singleton.mp hnow] at hplain
        cases hplain
    · rcases List.mem_append.mp hmem with hbefore | hnow
      · exact ho.calm hbefore
      · rw [← List.mem_singleton.mp hnow] at hplain
        cases hplain
  | bound =>
    refine ⟨howned, fun b' hb' => ?_, fun b failed hreleasing => ?_, fun k result hmem => ?_,
      fun hmem => ho.calm (by simpa using hmem)⟩
    · cases hb'
      exact Nat.lt_succ_self _
    · exact (ho.released b failed hreleasing).trans (Nat.lt_succ_self _)
    · obtain ⟨hk, -⟩ := ho.stopped k result (by simpa using hmem)
      refine ⟨hk.trans (Nat.lt_succ_self _), fun b' hb' => ?_⟩
      cases hb'
      exact hk.ne'
  | detached _ _ hactive =>
    refine ⟨howned, fun b' hb' => ?_, fun b _ hreleasing => ?_, fun k result hmem => ?_,
      fun hmem => ho.calm (by simpa using hmem)⟩
    · cases hb'
    · cases hreleasing
      exact ho.numbered _ hactive
    · refine ⟨(ho.stopped k result (by simpa using hmem)).1, fun b' hb' => ?_⟩
      cases hb'
  | stopped _ failed _ hnone heffect =>
    refine ⟨howned, ho.numbered, fun _ _ => EffectPhase.noConfusion, fun k _ hmem => ?_,
      fun hmem => ho.calm (by simpa using hmem)⟩
    rcases List.mem_append.mp hmem with hbefore | hnow
    · exact ho.stopped k _ hbefore
    · -- The binding was detached before, and no other one is active yet.
      cases List.mem_singleton.mp hnow
      refine ⟨ho.released _ failed heffect, fun b hb => ?_⟩
      rw [hnone] at hb
      cases hb

end HostControl

/-- **The binding outlives its pumps**: it is detached when no pump runs, no call panics, and no
pump of a binding runs once `stop_host_inner` has returned for it. -/
theorem binding_outlives_pumps {h : HostControl} {steps : List ControlStep}
    (hinit : hostControl.init h) (hapart : hostControl.Along HostControl.KeepsApart h steps) :
    (∀ x k, hostControl.out (hostControl.after h steps) x = .detached k →
      ∀ n, ¬(hostControl.after h steps).Runs n k) ∧
    .panicked ∉ hostControl.outputs h steps ∧
    (∀ k result, .hostStopped k result ∈ hostControl.outputs h steps →
      ∀ n, ¬(hostControl.after h steps).Runs n k) := by
  cases hinit
  have hrun := Machine.Along.invariant_outputs (M := hostControl) (I := HostControl.Outlives)
    (fun _ _ x ho => ho.step x) HostControl.outlives_new hapart
  refine ⟨fun x k hx n => ?_, hrun.calm, fun k result hmem n hruns => ?_⟩
  · exact hrun.owned.quiet (hrun.owned.detached hx) (P := fun _ _ => False) n k
  · obtain ⟨-, b, hb, hnumber⟩ := hrun.owned.running n k hruns
    exact (hrun.stopped k result hmem).2 b hb hnumber

/-! ## Stops of the host -/

namespace BindingScenario

/-- A stream is started and the host is stopped, which joins the pump. -/
def stopping : List ControlStep :=
  [.startHost true, .startPlayback false, .command true, .command true, .command true, .stopHost,
    .pump 0 {}, .pump 0 {}, .effect, .effect, .effect]

/-- The host is stopped, and a stream is started before the binding is detached. -/
def overtaking : List ControlStep :=
  [.startHost true, .stopHost, .startPlayback false, .command true, .command true]

/-- The new streamer finds no binding, and is dropped. -/
def dropping : List ControlStep := [.command true, .pump 0 {}, .pump 0 {}, .command true]

end BindingScenario

open BindingScenario in
/-- The host is stopped while its pump runs. -/
theorem binding_outlives_pumps_stopping :
    hostControl.Along HostControl.KeepsApart {} stopping ∧
    .hostStopped 0 (.ok ()) ∈ hostControl.outputs {} stopping ∧
    (∀ x k, hostControl.out (hostControl.after {} stopping) x = .detached k →
      ∀ n, ¬(hostControl.after {} stopping).Runs n k) ∧
    .panicked ∉ hostControl.outputs {} stopping ∧
    (∀ k result, .hostStopped k result ∈ hostControl.outputs {} stopping →
      ∀ n, ¬(hostControl.after {} stopping).Runs n k) := by
  have hapart : hostControl.Along HostControl.KeepsApart {} stopping :=
    ⟨trivial, rfl, trivial, trivial, trivial, rfl, trivial, trivial, trivial, trivial, trivial,
      trivial⟩
  exact ⟨hapart, by decide, binding_outlives_pumps rfl hapart⟩

open BindingScenario in
/-- A stream that is started before the binding is detached: the binding is detached and
`stop_host_inner` returns while the pump runs, and `start_playback` panics. -/
theorem not_binding_outlives_pumps :
    hostControl.out (hostControl.after {} overtaking) .effect = .detached 0 ∧
    (hostControl.after {} overtaking).Runs 0 0 ∧
    hostControl.outputs (hostControl.after {} overtaking) [.effect, .effect] =
      [.detached 0, .hostStopped 0 (.ok ())] ∧
    (hostControl.after {} (overtaking ++ [.effect, .effect])).Runs 0 0 ∧
    .panicked ∈ hostControl.outputs {} (overtaking ++ [.effect, .effect] ++ dropping) :=
  ⟨rfl, ⟨_, rfl, rfl, rfl⟩, rfl, ⟨_, rfl, rfl, rfl⟩, by decide⟩

end SilentDisco.Desktop
