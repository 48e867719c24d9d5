import DisplayHal.Ltdc.Vblank
import DisplayHal.Ltdc.ErrorIrq

/-!
# The driver state follows the spec's machine, with one more edge

The spec gives the driver's state as a machine: `UNINIT→STOP` at init, `STOP→READY` on
start, `READY→ACTIVE` when a reload starts, `ACTIVE→READY` when it completes and
`READY→STOP` on stop (`LtdcState.specEdge`). In the code, a call writes the state in one
order: segments that keep it; then `ltdcStartReloadI`, which checks `READY` and enters
`ACTIVE`, or a segment that sets `READY` or `STOP`; after either, only segments that keep
the state or set `READY` or `STOP` (`Call.StateShaped`, `Api.call_stateShaped`). The
event interrupt sets `READY`, and nothing else writes the state. So a thread's run to
its next wait, wherever it resumes, keeps the state, sets `READY` or `STOP`, or enters
`ACTIVE` from `READY` (`Call.exec_stateShaped`).

Hence in every run from `ltdcInit`, with any number of threads, either setting of
`LTDC_USE_WAIT` and any interleaving with the controller and the interrupts, every step
leaves the state or moves it along an edge of the spec's machine, or along one more
edge, `ACTIVE→STOP` (`ltdc_state_follows_machine`). That edge is taken: `ltdcStop`
makes its reload through `ltdcStartReloadI`, so the driver is `ACTIVE` while the thread
waits for the commit, and the stretch after it sets `STOP` (through `READY`, inside the
stretch, with waits enabled). Seen by the interrupts and the other threads, a stop goes
`READY→ACTIVE→STOP` (`ltdcStop_active_stop`).
-/

namespace Ltdc

/-! ## The spec's machine -/

/-- The spec's machine of the driver state: `UNINIT→STOP` at init, `STOP→READY` on start,
`READY→ACTIVE` when a reload starts, `ACTIVE→READY` when it completes, `READY→STOP` on
stop. -/
def LtdcState.specEdge : LtdcState → LtdcState → Bool
  | .uninit, .stop | .stop, .ready | .ready, .active | .active, .ready | .ready, .stop => true
  | _, _ => false

/-! ## How a stretch writes the state -/

/-- A stretch that keeps the state, or sets it to `READY` or `STOP`. -/
def Settles (d d' : LTDCDriver) : Prop := d'.state = d.state ∨ d'.state = .ready ∨ d'.state = .stop

/-- A stretch that enters `ACTIVE` from `READY`. -/
def Enters (d d' : LTDCDriver) : Prop := d.state = .ready ∧ d'.state = .active

namespace Settles

theorem refl (d : LTDCDriver) : Settles d d := .inl rfl

theorem trans {a b c : LTDCDriver} (h₁ : Settles a b) (h₂ : Settles b c) : Settles a c := by
  rcases h₂ with h | h | h
  · unfold Settles
    rw [h]
    exact h₁
  · exact .inr (.inl h)
  · exact .inr (.inr h)

end Settles

instance : IsTrans LTDCDriver Settles := ⟨fun _ _ _ => Settles.trans⟩

/-- What a thread's run to its next wait does to the state. -/
def StateMove (d d' : LTDCDriver) : Prop := Settles d d' ∨ Enters d d'

namespace StateMove

variable {d d₁ d' : LTDCDriver}

theorem of_state (h : d₁.state = d.state) (hm : StateMove d₁ d') : StateMove d d' := by
  unfold StateMove Settles Enters at *
  rw [h] at hm
  exact hm

theorem of_enters (h₁ : Enters d d₁) (h₂ : Settles d₁ d') : StateMove d d' := by
  rcases h₂ with h | h | h
  · exact .inr ⟨h₁.1, h.trans h₁.2⟩
  · exact .inl (.inr (.inl h))
  · exact .inl (.inr (.inr h))

/-- Out of `UNINIT`, a move is an edge of the spec's machine or `ACTIVE→STOP`. -/
theorem machine (hu : d.state ≠ .uninit) (h : StateMove d d') :
    d'.state = d.state ∨ d.state.specEdge d'.state = true ∨ d.state = .active ∧ d'.state = .stop := by
  have edge : ∀ x y : LtdcState, x ≠ .uninit → (y = .ready ∨ y = .stop) ∨ x = .ready ∧ y = .active →
      y = x ∨ x.specEdge y = true ∨ x = .active ∧ y = .stop := by
    intro x y
    cases x <;> cases y <;> decide
  rcases h with (h | h) | h
  · exact .inl h
  · exact edge _ _ hu (.inl h)
  · exact edge _ _ hu (.inr h)

theorem ne_uninit (hu : d.state ≠ .uninit) (h : StateMove d d') : d'.state ≠ .uninit := by
  rcases h.machine hu with h | h | ⟨-, h⟩
  · exact h ▸ hu
  · intro e
    rw [e] at h
    cases hd : d.state <;> simp_all [LtdcState.specEdge]
  · exact h ▸ nofun

end StateMove

/-- A call whose segments write the state in the order the machine allows: segments that
keep it, then one that enters `ACTIVE` from `READY` or one that settles it, and after it
only segments that settle it. -/
def Call.StateShaped : Call → Prop
  | .ret => True
  | .seg m k => Frame LTDCDriver.state m ∧ k.StateShaped ∨
      (Keeps Enters m ∨ Keeps Settles m) ∧ k.Guarded Settles
  | .poll _ k => k.StateShaped
  | .sleep k => k.StateShaped

namespace Call.StateShaped

variable {m : DriverM Unit} {k : Call}

theorem keep (hm : Frame LTDCDriver.state m) (hk : k.StateShaped) : (Call.seg m k).StateShaped :=
  .inl ⟨hm, hk⟩

theorem enter (hm : Keeps Enters m) (hk : k.Guarded Settles) : (Call.seg m k).StateShaped :=
  .inr ⟨.inl hm, hk⟩

theorem settle (hm : Keeps Settles m) (hk : k.Guarded Settles) : (Call.seg m k).StateShaped :=
  .inr ⟨.inr hm, hk⟩

theorem poll {mask : Nat} (hk : k.StateShaped) : (Call.poll mask k).StateShaped := hk

theorem of_guarded {c : Call} (hc : c.Guarded Settles) : c.StateShaped := by
  induction c with
  | ret => trivial
  | seg m k _ => exact .settle hc.1 hc.2
  | poll _ k ih => exact ih hc
  | sleep k ih => exact ih hc

end Call.StateShaped

/-- A thread's run to its next wait, in a call shaped as the machine allows, keeps the
state, settles it, or enters `ACTIVE` from `READY`, and stops in a shaped rest. -/
theorem Call.exec_stateShaped {t : Nat} {c c' : Call} {d d' : LTDCDriver} (hc : c.StateShaped)
    (h : (c.exec t).run d = .ok (c', d')) : StateMove d d' ∧ c'.StateShaped := by
  induction c generalizing d with
  | ret => cases h; exact ⟨.inl (.inl rfl), trivial⟩
  | seg m k ih =>
    obtain ⟨_, d₁, h₁, h₂⟩ := run_bind_ok h
    rcases hc with ⟨hm, hk⟩ | ⟨hm, hk⟩
    · exact (ih hk h₂).imp_left (StateMove.of_state (hm _ _ _ h₁))
    · obtain ⟨hs, hk'⟩ := Call.exec_guarded Settles.refl Settles.trans hk h₂
      refine ⟨?_, .of_guarded hk'⟩
      rcases hm with hm | hm
      · exact StateMove.of_enters (hm _ _ _ h₁) hs
      · exact .inl ((hm _ _ _ h₁).trans hs)
  | poll mask k ih =>
    by_cases hp : d.hw.SRCR &&& mask = 0
    · rw [Call.exec_poll_clear t mask k hp] at h
      exact ih hc h
    · rw [Call.exec_poll_pending t mask k hp] at h
      cases h
      exact ⟨.inl (.inl rfl), hc⟩
  | sleep k ih =>
    by_cases hw : d.thread = some t
    · rw [Call.exec_sleep_waiting t k hw] at h
      cases h
      exact ⟨.inl (.inl rfl), hc⟩
    · rw [Call.exec_sleep_woken t k hw] at h
      exact ih hc h

/-! ## The calls -/

theorem ltdcStartReloadI_enters (immediately : Bool) : Keeps Enters (ltdcStartReloadI immediately) := by
  intro d b d' h
  by_cases hst : d.state = .ready
  · simp only [ltdcStartReloadI, StateT.run_bind, StateT.run_get, pure_bind, chDbgAssert_run, hst,
      ↓reduceIte, setState_run, ok_bind] at h
    split at h <;> (rw [modifyHw_run] at h; cases h; exact ⟨hst, rfl⟩)
  · rw [ltdcStartReloadI_run_of_ne immediately hst] at h
    cases h

theorem Keeps.settles_setState {st : LtdcState} (h : st = .ready ∨ st = .stop) :
    Keeps Settles (setState st) :=
  Keeps.modify fun _ => .inr h

theorem Keeps.settles_of_frame {β : Type} {m : DriverM β} (hm : Frame LTDCDriver.state m) :
    Keeps Settles m :=
  Keeps.of_frame (fun _ _ h => .inl h) hm

/-- `ltdcReloadS`, with the caller's work before it keeping the state and after it
settling it, enters `ACTIVE` through `ltdcStartReloadI` and then only settles the state. -/
theorem Call.stateShaped_ltdcReloadSCall (W : Bool) (self : Nat) (immediately : Bool)
    {pre post : DriverM Unit} (hpre : Frame LTDCDriver.state pre) (hpost : Keeps Settles post) :
    (ltdcReloadSCall W self immediately pre post).StateShaped := by
  have hn : Keeps Settles assertNoWaiter :=
    Keeps.settles_of_frame (Frame.bind Frame.get fun _ => Frame.chDbgAssert _ _)
  have hr := ltdcStartReloadI_enters immediately
  have hready := Keeps.settles_setState (.inl rfl)
  unfold ltdcReloadSCall
  split
  · split
    · exact .keep hpre <| .enter hr <| .seg hn <| .poll <| .seg hready <| .seg hpost .ret
    · exact .keep hpre <| .enter hr <| .seg hn <|
        .seg (Keeps.settles_of_frame (Frame.modify fun _ => rfl)) <| .seg hpost .ret
  · exact .keep hpre <| .enter hr <| .poll <| .seg hready <| .seg hpost .ret

/-- Every public operation writes the state in the order the machine allows. -/
theorem Api.call_stateShaped (W : Bool) (H : LtdcHeader) (self : Nat) (a : Api) :
    (a.call W H self).StateShaped := by
  have fr : ∀ {g : LTDCDriver → LTDCDriver}, (∀ d, (g d).state = d.state) →
      Frame LTDCDriver.state (modify g : DriverM PUnit) := fun hg => Frame.modify hg
  cases a with
  | start C =>
    have hbegin : Frame LTDCDriver.state (ltdcStartBegin C) :=
      Frame.bind Frame.get fun _ => Frame.bind (Frame.chDbgAssert _ _) fun _ =>
        Frame.bind (fr fun _ => rfl) fun _ => fr fun _ => rfl
    have ht : Frame LTDCDriver.state (ltdcStartTimings H C) :=
      fun d b d' h => congrArg (fun p => p.1) (ltdcStartTimings_frame H C d b d' h)
    exact .keep hbegin <| .keep (fr fun _ => rfl) <| .poll <| .keep ht <| .keep (fr fun _ => rfl) <|
      .keep (fr fun _ => rfl) <| .keep (Frame.layerMethod _ _ fun _ _ => rfl) <|
      .keep (Frame.layerMethod _ _ fun _ _ => rfl) <| .keep (fr fun _ => rfl) <|
      .keep (fr fun _ => rfl) <| .poll <| .keep (fr fun _ => rfl) <| .keep (fr fun _ => rfl) <| .poll <|
      .settle (Keeps.settles_setState (.inl rfl)) .ret
  | stop =>
    have hpre : Frame LTDCDriver.state (do
        chDbgAssert ((← get).state = .ready) (.panic "ltdcStop(), #1")
        modifyHw fun r => { r with GCR := r.GCR &&& compl32 LTDC_GCR_LTDCEN, IER := 0 }) :=
      Frame.bind Frame.get fun _ => Frame.bind (Frame.chDbgAssert _ _) fun _ => fr fun _ => rfl
    show (ltdcStopCall W self).StateShaped
    unfold ltdcStopCall
    split
    · exact Call.stateShaped_ltdcReloadSCall _ _ _ hpre (Keeps.settles_setState (.inr rfl))
    · exact .keep hpre <| .enter (ltdcStartReloadI_enters _) <| .poll <|
        .seg (Keeps.settles_setState (.inr rfl)) .ret
  | startReload immediately => exact .enter (ltdcStartReloadI_enters _) .ret
  | reload immediately =>
    exact Call.stateShaped_ltdcReloadSCall _ _ _ (Frame.pure _) (Keeps.settles_of_frame (Frame.pure _))
  | layer L op =>
    cases L
    · exact .keep (Frame.discard (ltdcBgOp_eq_onLayer H op ▸ Frame.layerMethod _ _ fun _ _ => rfl)) trivial
    · exact .keep (Frame.discard (ltdcFgOp_eq_onLayer H op ▸ Frame.layerMethod _ _ fun _ _ => rfl)) trivial
  | _ => exact .keep (fr fun _ => rfl) trivial

/-- `LTDC_EV_IRQHandler` keeps the state or sets it to `READY`. -/
theorem LTDC_EV_IRQHandler_settles (W : Bool) : Keeps Settles (LTDC_EV_IRQHandler W) :=
  LTDC_EV_IRQHandler_keeps (Keeps.of_frame fun _ _ h => .inl (congrArg (fun p => p.2.1) h))
    (fun _ => .inr (.inl rfl)) (fun _ => .inl rfl) W

/-! ## Runs -/

/-- What holds of the system in every run: the driver is out of `UNINIT`, and what is left
of each thread's call writes the state in the order the machine allows. -/
structure StateInv (s : Sys) : Prop where
  out_of_uninit : s.d.state ≠ .uninit
  shaped : ∀ t a c, s.calls t = some (a, c) → c.StateShaped

/-- A step of the system moves the state as a thread's run may, and keeps the invariant. -/
theorem Step.stateMove {W : Bool} {H : LtdcHeader} {s s' : Sys} (hs : Step W H s s')
    (hi : StateInv s) : StateMove s.d s'.d ∧ StateInv s' := by
  have keep : ∀ {s' : Sys}, s'.d.state = s.d.state → s'.calls = s.calls → StateMove s.d s'.d ∧ StateInv s' :=
    fun h hc => ⟨.inl (.inl h), h ▸ hi.1, hc ▸ hi.2⟩
  cases hs with
  | call t a _ ht =>
    refine ⟨.inl (.inl rfl), hi.1, fun u a' c h => ?_⟩
    rcases Sys.update_calls h with ⟨-, e⟩ | ⟨-, h⟩
    · cases e
      exact Api.call_stateShaped W H _ _
    · exact hi.2 u a' c h
  | run t a c _ ht =>
    cases hr : (c.exec t).run s.d with
    | error e => exact keep rfl rfl
    | ok p =>
      obtain ⟨hm, hc'⟩ := Call.exec_stateShaped (hi.2 t a c ht) hr
      rw [Sys.resume_ok_d]
      refine ⟨hm, ⟨by rw [Sys.resume_ok_d]; exact hm.ne_uninit hi.1, fun u a' c'' h => ?_⟩⟩
      rcases Sys.resume_calls h with ⟨-, e⟩ | ⟨-, h⟩
      · cases e
        exact hc'
      · exact hi.2 u a' c'' h
  | commit => exact keep rfl rfl
  | raise => exact keep rfl rfl
  | ev _ _ _ =>
    cases hr : (LTDC_EV_IRQHandler W).run s.d with
    | error e => exact keep rfl rfl
    | ok p =>
      have hm : Settles s.d p.2 := LTDC_EV_IRQHandler_settles W _ _ _ hr
      exact ⟨.inl hm, (StateMove.ne_uninit hi.1 (.inl hm)), hi.2⟩
  | er _ _ _ =>
    cases hr : LTDC_ER_IRQHandler.run s.d with
    | error e => exact keep rfl rfl
    | ok p => exact keep (LTDC_ER_IRQHandler_frame (f := LTDCDriver.state) (fun _ _ => rfl) _ _ _ hr) rfl

theorem StateInv.run {W : Bool} {H : LtdcHeader} {s s' : Sys} (hr : Reach W H s s') (hi : StateInv s) :
    StateInv s' := by
  induction hr with
  | refl => exact hi
  | tail _ hst ih => exact (hst.stateMove ih).2

/-- In every run from `ltdcInit`, for either setting of `LTDC_USE_WAIT` and every header,
with any number of threads making any calls, valid or not, interleaved with the
controller's commits and flags and both interrupt handlers: every step leaves the driver
state as it was, moves it along an edge of the spec's machine, or moves it from `ACTIVE`
to `STOP`. -/
theorem ltdc_state_follows_machine (W : Bool) (H : LtdcHeader) (reset : Regs) (d₀ : LTDCDriver)
    {s s' : Sys} (hr : Reach W H (Sys.init reset d₀) s) (hs : Step W H s s') :
    s'.d.state = s.d.state ∨ s.d.state.specEdge s'.d.state = true ∨
      s.d.state = .active ∧ s'.d.state = .stop := by
  have hi := StateInv.run hr ⟨nofun, fun _ _ _ h => (by cases h)⟩
  exact (hs.stateMove hi).1.machine hi.1

/-! ## `ltdcStop` takes `ACTIVE→STOP` -/

theorem imr_pending_self (x : Nat) : (x ||| LTDC_SRCR_IMR) &&& LTDC_SRCR_IMR ≠ 0 := by
  rw [lor_and_self]
  decide

/-- The first stretch of `ltdcStop`, from a `READY` driver with no waiter when waits are
enabled: the driver is `ACTIVE` with `IMR` requested, and the thread waits at a poll for
`IMR`; the stretch after the poll sets `STOP`. -/
theorem ltdcStop_exec_first (W : Bool) (t : Nat) {d : LTDCDriver} (hst : d.state = .ready)
    (hw : W = true → d.thread = none) :
    ∃ mask k d', ((ltdcStopCall W t).exec t).run d = .ok (.poll mask k, d') ∧ d'.state = .active ∧
      d'.hw.SRCR = d.hw.SRCR ||| LTDC_SRCR_IMR ∧
      (mask = LTDC_SRCR_IMR ∨ mask = LTDC_SRCR_IMR ||| LTDC_SRCR_VBR) ∧
      ∀ d₁ : LTDCDriver, ∃ d₂, (k.exec t).run d₁ = .ok (.ret, d₂) ∧ d₂.state = .stop := by
  have hthr : W = true → d.thread = none := hw
  cases W <;>
    simp only [ltdcStopCall, ltdcReloadSCall, Bool.false_eq_true, ↓reduceIte, Call.exec,
      ltdcStartReloadI, assertNoWaiter, bind_pure_comp, id_map', bind_assoc, StateT.run_bind,
      StateT.run_get, chDbgAssert_run, modifyHw_run, setState_run, ok_bind, pure_bind, hst,
      forall_const, hthr, imr_pending, imr_pending_self, ne_eq, not_false_eq_true] at hthr ⊢
  exacts [⟨_, _, _, rfl, rfl, rfl, .inr rfl, fun _ => ⟨_, rfl, rfl⟩⟩,
    ⟨_, _, _, rfl, rfl, rfl, .inl rfl, fun _ => ⟨_, rfl, rfl⟩⟩]

/-- A commit of `IMR`, requested alone, leaves nothing pending of `IMR` and `VBR`. -/
theorem Regs.commit_imr_clear {r : Regs} {x mask : Nat} (hr : r.SRCR = x ||| LTDC_SRCR_IMR)
    (hx : x &&& (LTDC_SRCR_IMR ||| LTDC_SRCR_VBR) = 0)
    (hm : mask = LTDC_SRCR_IMR ∨ mask = LTDC_SRCR_IMR ||| LTDC_SRCR_VBR) :
    (r.commit LTDC_SRCR_IMR).SRCR &&& mask = 0 := by
  have himr := Regs.commit_not_pending r LTDC_SRCR_IMR (by decide)
  rcases hm with rfl | rfl
  · exact himr
  · rw [Nat.and_or_distrib_left, himr, Regs.commit_imr_vbr, hr, lor_and_of_and_eq_zero _ (by decide)]
    rw [Nat.and_or_distrib_left, lor_eq_zero_iff] at hx
    rw [hx.2, Nat.zero_or]

/-- From every system where thread `t` is in no call and the driver is `READY` with no
reload pending and, with waits enabled, no waiter: `t`'s `ltdcStop` makes the driver
`ACTIVE`, and, once the controller has committed its request, one more step makes it
`STOP`. -/
theorem ltdcStop_active_stop (W : Bool) (H : LtdcHeader) {s : Sys} {t : Nat} (hs : s.halt = none)
    (ht : s.calls t = none) (hst : s.d.state = .ready) (hw : W = true → s.d.thread = none)
    (hp : s.d.hw.SRCR &&& (LTDC_SRCR_IMR ||| LTDC_SRCR_VBR) = 0) :
    ∃ s₁ s₂, Reach W H s s₁ ∧ s₁.d.state = .active ∧ Step W H s₁ s₂ ∧ s₂.d.state = .stop := by
  obtain ⟨mask, k, d', he, hact, hsrcr, hm, hk⟩ := ltdcStop_exec_first W t hst hw
  let s₀ : Sys := { s with calls := Function.update s.calls t (some (.stop, Api.call W H t .stop)) }
  let s₁ : Sys := s₀.resume t .stop (.ok (.poll mask k, d'))
  have h₁ : Step W H s₀ s₁ := by
    have h : Step W H s₀ _ := Step.run s₀ t .stop (ltdcStopCall W t) hs (Function.update_same _ _ _)
    rwa [show ((ltdcStopCall W t).exec t).run s₀.d = _ from he] at h
  have h₂ : Step W H s₁ _ := Step.commit s₁ LTDC_SRCR_IMR hs (.inl rfl)
    (show d'.hw.SRCR &&& _ ≠ 0 by rw [hsrcr]; exact imr_pending_self _)
  obtain ⟨d₂, hk', hstop⟩ := hk (d'.withHw (d'.hw.commit LTDC_SRCR_IMR))
  have h₃ : Step W H { s₁ with d := s₁.d.withHw (s₁.d.hw.commit LTDC_SRCR_IMR) } _ := Step.run _ t
    .stop (.poll mask k) hs (Function.update_same _ _ _)
  rw [show ((Call.poll mask k).exec t).run
      ({ s₁ with d := s₁.d.withHw (s₁.d.hw.commit LTDC_SRCR_IMR) } : Sys).d = _ from
    (Call.exec_poll_clear _ _ _ (Regs.commit_imr_clear hsrcr hp hm)).trans hk'] at h₃
  exact ⟨_, _, ((Relation.ReflTransGen.single (.call s t .stop hs ht)).tail h₁).tail h₂, hact, h₃, hstop⟩

/-- The scenario panel, started and stopped by thread 0 without waits: the stop's last
step goes from `ACTIVE` to `STOP`, which the machine allows only with its one more edge. -/
theorem scenario_stop_active_to_stop :
    ∃ s s', Reach false fieldHeader (Sys.init zeroRegs LTDCD1) s ∧ Step false fieldHeader s s' ∧
      s.d.state = .active ∧ s'.d.state = .stop ∧
      (s'.d.state = s.d.state ∨ s.d.state.specEdge s'.d.state = true ∨
        s.d.state = .active ∧ s'.d.state = .stop) := by
  obtain ⟨d, hd⟩ : ∃ d, (ltdcStart fieldHeader scenarioConfig).run (ltdcInit zeroRegs LTDCD1) =
      .ok ((), d) := ⟨_, rfl⟩
  obtain ⟨hst, -, hthr, -, -, hp⟩ := ltdcStart_run_ok hd
  have hstart : Reach false fieldHeader (Sys.init zeroRegs LTDCD1) _ :=
    reach_call false (t := 0) (.start scenarioConfig) (ltdcStartCall_plain _ _) rfl rfl hd
  obtain ⟨s₁, s₂, hr, hact, hs, hstop⟩ := ltdcStop_active_stop false fieldHeader
    (s := { Sys.init zeroRegs LTDCD1 with d, lock := none }) (t := 0) rfl rfl hst
    (fun _ => hthr) hp
  exact ⟨s₁, s₂, hstart.trans hr, hs, hact, hstop,
    ltdc_state_follows_machine false fieldHeader zeroRegs LTDCD1 (hstart.trans hr) hs⟩

end Ltdc
