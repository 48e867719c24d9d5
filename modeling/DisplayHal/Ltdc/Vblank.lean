import DisplayHal.Ltdc.Immediate

/-!
# Reloads at the next vertical blank

`ltdcReload(false)` asks the controller to reload the shadow registers at the next vertical
blank (`VBR`). The two settings of `LTDC_USE_WAIT` wait for that commit differently.

Without waits, `ltdcReloadS` polls `SRCR` for `IMR` whatever it asked for, so a request for
`VBR` is never waited for. From every system in which no interrupt is due and no immediate
reload is pending, a thread is outside the driver and the driver is `READY`, the thread's
`ltdcReload(false)` returns with its request still pending and the driver `READY`; when the
controller commits it, the event interrupt finds the driver `READY` and halts at its state
check, in a run the hardware takes (`ltdcReload_vbr_returns_pending`).

With waits, the thread registers as the waiter and sleeps until the event interrupt takes it
out of the slot on `RRIF`. That flag is its own commit's only when nothing else can raise it
meanwhile. While the driver is `ACTIVE`, every other thread's call halts at its first state
check or returns at once without touching the driver's state, the slot, `SRCR` or `ISR`
(`Api.exec_active`), and the interrupt handlers keep the requests and either keep the
driver's state, the slot and `RRIF` or, on a raised `RRIF`, turn the driver `READY` with the
slot empty (`EvKeeps`). So from a quiet driver, with no request pending, `RRIF` clear and no
other thread inside a call, the sleeper stays the waiter of a quiet driver (`Asleep`,
`Step.asleep`) until a step takes it out of the slot, and that step comes after the commit of
its request (`ltdcReload_wakes_after_commit`). A start leaves `RRIF` raised
(`ltdcStart_breaks_reload_invariant`), so no reload made right after a start is made on a
quiet driver.
-/

namespace Ltdc

/-! ## Without waits -/

theorem ltdcReloadSCall_nowait_plain (self : Nat) (immediately : Bool) (pre post : DriverM Unit) :
    (ltdcReloadSCall false self immediately pre post).Plain :=
  ⟨.inl rfl, trivial⟩

theorem ltdcReload_vbr_nowait_run (H : LtdcHeader) (self : Nat) {d : LTDCDriver}
    (hst : d.state = .ready) :
    (((Api.reload false).call false H self).runAlone false).run d = .ok ((), { d with
      hw := (({ d.hw with SRCR := d.hw.SRCR ||| LTDC_SRCR_VBR } : Regs).commit LTDC_SRCR_IMR) }) := by
  simp only [Api.call, ltdcReloadSCall, Bool.false_eq_true, ↓reduceIte, ltdcStartReloadI,
    Call.runAlone_seg, Call.runAlone_poll, Call.runAlone_ret, bind_pure_comp, id_map', bind_assoc,
    StateT.run_bind, StateT.run_get, chDbgAssert_run, modifyHw_run, setState_run, ok_bind, pure_bind, hst]

theorem Regs.commit_imr_vbr (r : Regs) :
    (r.commit LTDC_SRCR_IMR).SRCR &&& LTDC_SRCR_VBR = r.SRCR &&& LTDC_SRCR_VBR := by
  unfold Regs.commit
  split
  · show r.SRCR &&& compl32 LTDC_SRCR_IMR &&& LTDC_SRCR_VBR = _
    rw [Nat.and_assoc]
    rfl
  · rfl

/-- Without waits, in every system where no interrupt is due and no immediate reload is
pending, thread `t` is in no driver call, and the driver is `READY` with `RRIE` enabled and a
configuration whose line interrupt, when enabled, has its callback: in a run the hardware
takes, the thread's `ltdcReload(false)` returns with its `VBR` request pending and the driver
`READY`, the lock free; the controller commits the request, and the event interrupt halts at
its state check. -/
theorem ltdcReload_vbr_returns_pending (H : LtdcHeader) {s : Sys} {t : Nat} {C : LTDCConfig}
    (hs : s.halt = none) (ht : s.calls t = none) (hq : ¬ IrqDue s.d)
    (himr : s.d.hw.SRCR &&& LTDC_SRCR_IMR = 0) (hst : s.d.state = .ready)
    (hc : s.d.config = some C) (hie : s.d.hw.IER &&& LTDC_IER_RRIE ≠ 0)
    (hl : s.d.hw.IER &&& LTDC_IER_LIE ≠ 0 → C.line_isr ≠ none) :
    ∃ s', Relation.ReflTransGen (HwStep false H) s s' ∧ s'.calls t = none ∧ s'.lock = none ∧
      s'.d.state = .ready ∧ s'.d.hw.SRCR &&& LTDC_SRCR_VBR ≠ 0 ∧
      ∃ s'' s''', HwStep false H s' s'' ∧ HwStep false H s'' s''' ∧
        s'''.halt = some (.panic "LTDC_EV_IRQHandler(), #2") := by
  have hv : (s.d.hw.SRCR ||| LTDC_SRCR_VBR) &&& LTDC_SRCR_VBR ≠ 0 := by
    rw [lor_and_self]
    decide
  have hnot : ({ s.d.hw with SRCR := s.d.hw.SRCR ||| LTDC_SRCR_VBR } : Regs).commit LTDC_SRCR_IMR =
      { s.d.hw with SRCR := s.d.hw.SRCR ||| LTDC_SRCR_VBR } :=
    Regs.commit_of_not_pending (by
      show (s.d.hw.SRCR ||| LTDC_SRCR_VBR) &&& LTDC_SRCR_IMR = 0
      rw [Nat.and_distrib_right, himr]
      rfl)
  have hr := ltdcReload_vbr_nowait_run H t hst
  rw [hnot] at hr
  refine ⟨_, hwReach_call false (.reload false) (ltdcReloadSCall_nowait_plain t false _ _) hs ht hq hr,
    ht, rfl, hst, hv, _, _, HwStep.of_quiet (.commit _ LTDC_SRCR_VBR hs (.inr rfl) hv)
      fun _ h => hq (IrqDue.of_flags rfl rfl h),
    HwStep.ev_error hs rfl (.inr ?hp) (LTDC_EV_IRQHandler_not_active false hc ?_ ?hp fun h => hl ?_), rfl⟩
  · exact Pending.commit hv (by simpa using hie)
  · simp [LTDCDriver.withHw, hst]
  · simpa [LTDCDriver.withHw, Regs.commit_IER] using h

/-- Without waits, the scenario panel as its start leaves it but with `RRIF` cleared:
thread 0's `ltdcReload(false)` returns with its request pending, and the commit's
interrupt halts. -/
theorem scenario_nowait_reload_halts :
    ∃ d, (ltdcStart fieldHeader scenarioConfig).run (ltdcInit zeroRegs LTDCD1) = .ok ((), d) ∧
      ∃ s', Relation.ReflTransGen (HwStep false fieldHeader)
          ⟨d.withHw { d.hw with ISR := 0 }, fun _ => none, none, none⟩ s' ∧ s'.calls 0 = none ∧
        s'.lock = none ∧ s'.d.state = .ready ∧ s'.d.hw.SRCR &&& LTDC_SRCR_VBR ≠ 0 ∧
        ∃ s'' s''', HwStep false fieldHeader s' s'' ∧ HwStep false fieldHeader s'' s''' ∧
          s'''.halt = some (.panic "LTDC_EV_IRQHandler(), #2") := by
  obtain ⟨d, hd⟩ : ∃ d, (ltdcStart fieldHeader scenarioConfig).run (ltdcInit zeroRegs LTDCD1) =
    .ok ((), d) := ⟨_, rfl⟩
  obtain ⟨hst, hcfg, -, hier, -, hsrcr⟩ := ltdcStart_run_ok hd
  have himr : d.hw.SRCR &&& LTDC_SRCR_IMR = 0 := by
    rw [Nat.and_or_distrib_left, lor_eq_zero_iff] at hsrcr
    exact hsrcr.1
  exact ⟨d, hd, ltdcReload_vbr_returns_pending fieldHeader
    (s := ⟨d.withHw { d.hw with ISR := 0 }, fun _ => none, none, none⟩) (t := 0) rfl rfl
    (not_irqDue_of_ISR_eq_zero rfl) himr hst hcfg (by rw [LTDCDriver.withHw, hier]; decide)
    fun h => absurd (hier ▸ h) (by decide)⟩

/-! ## With waits: the interrupt handlers -/

/-- What an interrupt handler, with waits enabled, does to what a sleeper relies on: the requests in
`SRCR` are kept; and the driver's state, waiter slot and `RRIF` are kept, or, on a raised
`RRIF`, the driver is `READY` with the slot empty. -/
def EvKeeps (d d' : LTDCDriver) : Prop :=
  d'.hw.SRCR = d.hw.SRCR ∧
    (d'.state = d.state ∧ d'.thread = d.thread ∧ d'.hw.ISR &&& LTDC_ISR_RRIF = d.hw.ISR &&& LTDC_ISR_RRIF ∨
      d.hw.ISR &&& LTDC_ISR_RRIF ≠ 0 ∧ d'.state = .ready ∧ d'.thread = none)

instance : IsTrans LTDCDriver EvKeeps where
  trans _ _ _ := by
    rintro ⟨hs₁, ⟨hst₁, hth₁, hr₁⟩ | ⟨hr₁, hst₁, hth₁⟩⟩ ⟨hs₂, ⟨hst₂, hth₂, hr₂⟩ | ⟨hr₂, hst₂, hth₂⟩⟩
    · exact ⟨hs₂.trans hs₁, .inl ⟨hst₂.trans hst₁, hth₂.trans hth₁, hr₂.trans hr₁⟩⟩
    · exact ⟨hs₂.trans hs₁, .inr ⟨hr₁ ▸ hr₂, hst₂, hth₂⟩⟩
    · exact ⟨hs₂.trans hs₁, .inr ⟨hr₁, hst₂.trans hst₁, hth₂.trans hth₁⟩⟩
    · exact ⟨hs₂.trans hs₁, .inr ⟨hr₁, hst₂, hth₂⟩⟩

theorem Keeps.evKeeps {β : Type} {m : DriverM β}
    (hm : Frame (fun d : LTDCDriver => (d.state, d.thread, d.hw.SRCR, d.hw.ISR)) m) : Keeps EvKeeps m :=
  Keeps.of_frame (fun _ _ h => by
    simp only [Prod.mk.injEq] at h
    exact ⟨h.2.2.1, .inl ⟨h.1, h.2.1, by rw [h.2.2.2]⟩⟩) hm

/-- A flag cleared from `ISR` that is not `RRIF`. -/
theorem Keeps.evKeeps_clear {flag : Nat} (hf : compl32 flag &&& LTDC_ISR_RRIF = LTDC_ISR_RRIF) :
    Keeps EvKeeps (modifyHw fun r => { r with ISR := r.ISR &&& compl32 flag }) :=
  Keeps.modify fun d => ⟨rfl, .inl ⟨rfl, rfl, by
    show d.hw.ISR &&& compl32 flag &&& _ = _
    rw [Nat.and_assoc, hf]⟩⟩

/-- A branch on the driver's state as `get` reads it keeps `R` if each arm keeps it from the
states it is taken in. -/
theorem Keeps.get_ite {σ ε β : Type} {R : σ → σ → Prop} {c : σ → Prop} [DecidablePred c]
    {a b : σ → StateT σ (Except ε) β}
    (ha : ∀ s, c s → ∀ x s', (a s).run s = .ok (x, s') → R s s')
    (hb : ∀ s, ¬ c s → ∀ x s', (b s).run s = .ok (x, s') → R s s') :
    Keeps R (get >>= fun s => if c s then a s else b s) := by
  intro s x s' h
  simp only [StateT.run_bind, StateT.run_get, pure_bind] at h
  split at h
  exacts [ha s ‹_› x s' h, hb s ‹_› x s' h]

theorem LTDC_EV_IRQHandler_evKeeps : Keeps EvKeeps (LTDC_EV_IRQHandler true) := by
  have fr : ∀ {β} {m : DriverM β}, Frame (fun d : LTDCDriver => (d.state, d.thread, d.hw.SRCR, d.hw.ISR)) m →
      Keeps EvKeeps m := Keeps.evKeeps
  unfold LTDC_EV_IRQHandler
  refine Keeps.bind (fr Frame.get) fun _ => ?_
  dsimp only
  refine Keeps.ite (Keeps.bind (fr Frame.ltdcConfig) fun _ => Keeps.bind (fr (Frame.chDbgAssert _ _))
    fun _ => Keeps.bind (Keeps.evKeeps_clear rfl) fun _ => ?_) (Keeps.bind (fr (Frame.pure _)) fun _ => ?_) <;>
  refine Keeps.get_ite (fun d hc x d' h => ?_) fun d _ x d' h => by cases h; exact ⟨rfl, .inl ⟨rfl, rfl, rfl⟩⟩
  -- the reload arm, run from a driver with `RRIF` raised and enabled
  all_goals
    obtain ⟨_, d₁, h₁, h₂⟩ := run_bind_ok h
    obtain rfl := Frame.ltdcConfig (f := id) _ _ _ h₁
    obtain ⟨_, d₂, h₃, h₄⟩ := run_bind_ok h₂
    obtain rfl := Frame.chDbgAssert (f := id) _ _ _ _ _ h₃
    simp only [↓reduceIte, StateT.run_bind, StateT.run_modify, setState_run, modifyHw_run, ok_bind] at h₄
    cases h₄
    exact ⟨rfl, .inr ⟨hc.1, rfl, rfl⟩⟩

theorem LTDC_ER_IRQHandler_evKeeps : Keeps EvKeeps LTDC_ER_IRQHandler := by
  have fr : ∀ {β} {m : DriverM β}, Frame (fun d : LTDCDriver => (d.state, d.thread, d.hw.SRCR, d.hw.ISR)) m →
      Keeps EvKeeps m := Keeps.evKeeps
  unfold LTDC_ER_IRQHandler
  refine Keeps.bind (fr Frame.get) fun _ => ?_
  dsimp only
  refine Keeps.ite (Keeps.bind (fr Frame.ltdcConfig) fun _ => Keeps.bind (fr (Frame.chDbgAssert _ _))
    fun _ => Keeps.bind (Keeps.evKeeps_clear rfl) fun _ => ?_) (Keeps.bind (fr (Frame.pure _)) fun _ => ?_) <;>
  exact Keeps.bind (fr Frame.get) fun _ => Keeps.ite (Keeps.bind (fr Frame.ltdcConfig) fun _ =>
    Keeps.bind (fr (Frame.chDbgAssert _ _)) fun _ => Keeps.evKeeps_clear rfl) (fr (Frame.pure _))

/-! ## With waits: the other threads -/

theorem Call.exec_seg_error {m : DriverM Unit} {k : Call} {u : Nat} {d : LTDCDriver} {e : Fault}
    (hm : m.run d = .error e) : ((Call.seg m k).exec u).run d = .error e := by
  simp only [Call.exec, StateT.run_bind, hm, error_bind]

theorem Call.exec_seg_ret {α : Type} {f : LTDCDriver → α} {m : DriverM Unit} (hm : Frame f m) {u : Nat}
    {c : Call} {d d' : LTDCDriver} (h : ((Call.seg m .ret).exec u).run d = .ok (c, d')) :
    c = .ret ∧ f d' = f d := by
  obtain ⟨_, d₁, h₁, h₂⟩ := run_bind_ok h
  cases h₂
  exact ⟨rfl, hm _ _ _ h₁⟩

theorem ltdcStartReloadI_run_of_ne (immediately : Bool) {d : LTDCDriver} (hst : d.state ≠ .ready) :
    (ltdcStartReloadI immediately).run d = .error (.panic "ltdcStartReloadI(), #1") := by
  simp only [ltdcStartReloadI, StateT.run_bind, StateT.run_get, pure_bind, chDbgAssert_run, hst,
    ↓reduceIte, error_bind]

/-- With waits enabled, a call made while the driver is `ACTIVE` halts at its first state check,
or returns at once having kept the driver's state, the waiter slot, `SRCR` and `ISR`. -/
theorem Api.exec_active (H : LtdcHeader) (u : Nat) (a : Api) {d d' : LTDCDriver} {c : Call}
    (hst : d.state = .active) (h : ((a.call true H u).exec u).run d = .ok (c, d')) :
    c = .ret ∧ (d'.state, d'.thread, d'.hw.SRCR, d'.hw.ISR) = (d.state, d.thread, d.hw.SRCR, d.hw.ISR) := by
  have hready : d.state ≠ .ready := by rw [hst]; decide
  have seg : ∀ {m : DriverM Unit}, Frame (fun d : LTDCDriver => (d.state, d.thread, d.hw.SRCR, d.hw.ISR)) m →
      ((Call.seg m .ret).exec u).run d = .ok (c, d') →
      c = .ret ∧ (d'.state, d'.thread, d'.hw.SRCR, d'.hw.ISR) = (d.state, d.thread, d.hw.SRCR, d.hw.ISR) :=
    fun hm h => Call.exec_seg_ret hm h
  cases a with
  | start C =>
    simp only [Api.call, ltdcStartCall, Call.exec, ltdcStartBegin, StateT.run_bind, StateT.run_get,
      pure_bind, chDbgAssert_run, hst, reduceCtorEq, ↓reduceIte, error_bind] at h
  | stop =>
    simp only [Api.call, ltdcStopCall, ltdcReloadSCall, ↓reduceIte, Call.exec, StateT.run_bind,
      StateT.run_get, pure_bind, chDbgAssert_run, hready, error_bind, reduceCtorEq] at h
  | startReload immediately =>
    cases (Call.exec_seg_error (ltdcStartReloadI_run_of_ne immediately hready)).symm.trans h
  | reload immediately =>
    cases immediately <;>
    cases (Call.exec_seg_error (k := _) (u := u) (ltdcStartReloadI_run_of_ne _ hready)).symm.trans h
  | layer L op =>
    cases L
    · exact seg (Frame.discard (ltdcBgOp_eq_onLayer H op ▸ Frame.layerMethod .bg _ fun _ _ => rfl)) h
    · exact seg (Frame.discard (ltdcFgOp_eq_onLayer H op ▸ Frame.layerMethod .fg _ fun _ _ => rfl)) h
  | _ => exact seg (by exact Frame.modify fun _ => rfl) h

/-! ## With waits: the sleeper of a quiet driver -/

/-- Thread `t` asleep in `ltdcReload(false)` as the waiter of a quiet driver: the driver `ACTIVE`
with no immediate request pending, `RRIF` clear while a request for the vertical blank is, and
every other thread out of the driver or only just called into it. -/
structure Asleep (H : LtdcHeader) (t : Nat) (k : Call) (s : Sys) : Prop where
  call : s.calls t = some (.reload false, .sleep k)
  active : s.d.state = .active
  no_imr : s.d.hw.SRCR &&& LTDC_SRCR_IMR = 0
  flag : s.d.hw.SRCR &&& LTDC_SRCR_VBR ≠ 0 → s.d.hw.ISR &&& LTDC_ISR_RRIF = 0
  others : ∀ u, u ≠ t → s.calls u = none ∨ ∃ a, s.calls u = some (a, a.call true H u)

theorem Asleep.with_d {H : LtdcHeader} {t : Nat} {k : Call} {s : Sys} (h : Asleep H t k s) {d : LTDCDriver}
    (hst : d.state = s.d.state) (hsrcr : d.hw.SRCR = s.d.hw.SRCR)
    (hisr : d.hw.ISR &&& LTDC_ISR_RRIF = s.d.hw.ISR &&& LTDC_ISR_RRIF) : Asleep H t k { s with d } :=
  ⟨h.call, hst.trans h.active, hsrcr ▸ h.no_imr, fun hv => hisr.trans (h.flag (hsrcr ▸ hv)), h.others⟩

/-- An interrupt handler run while `t` sleeps keeps it the waiter of a quiet driver, or takes it out
of the slot only after its request has been committed. -/
theorem Asleep.isr {H : LtdcHeader} {t : Nat} {k : Call} {s : Sys} (h : Asleep H t k s)
    (ht : s.d.thread = some t) {d : LTDCDriver} (hk : EvKeeps s.d d) :
    d.thread = some t ∧ Asleep H t k { s with d } ∨
      d.thread = none ∧ d.state = .ready ∧ d.hw.SRCR &&& LTDC_SRCR_VBR = 0 := by
  obtain ⟨hsrcr, ⟨hst, hth, hisr⟩ | ⟨hr, hst, hth⟩⟩ := hk
  · exact .inl ⟨hth.trans ht, h.with_d hst hsrcr hisr⟩
  · exact .inr ⟨hth, hst, by rw [hsrcr]; exact not_not.mp (mt h.flag hr)⟩

theorem Step.asleep {H : LtdcHeader} {t : Nat} {k : Call} {s s' : Sys} (h : Asleep H t k s)
    (ht : s.d.thread = some t) (hs : Step true H s s') :
    s'.d.thread = some t ∧ Asleep H t k s' ∨
      s'.d.thread = none ∧ s'.d.state = .ready ∧ s'.d.hw.SRCR &&& LTDC_SRCR_VBR = 0 ∧
        s'.calls t = some (.reload false, .sleep k) ∧ s'.halt = none := by
  have halt : ∀ e, Asleep H t k { s with halt := some e } := fun _ => ⟨h.1, h.2, h.3, h.4, h.5⟩
  cases hs with
  | call u a _ hu =>
    have hne : t ≠ u := fun e => by rw [← e, h.call] at hu; cases hu
    refine .inl ⟨ht, ⟨by simp [Function.update_noteq hne, h.call], h.active, h.no_imr, h.flag, fun v hv => ?_⟩⟩
    by_cases e : v = u
    · subst e
      exact .inr ⟨a, Function.update_same _ _ _⟩
    · simpa [Function.update_noteq e] using h.others v hv
  | run u a c _ hu =>
    by_cases e : u = t
    · subst e
      rw [h.call] at hu
      cases hu
      rw [Call.exec_sleep_waiting u k ht]
      exact .inl ⟨ht, Sys.resume_ok_sleep _ _ _ _ _, h.active, h.no_imr, h.flag, fun v hv => by
        rw [Sys.resume_calls_of_ne _ _ _ hv]; exact h.others v hv⟩
    · obtain hn | ⟨a', ha'⟩ := h.others u e
      · rw [hn] at hu; cases hu
      rw [ha'] at hu
      cases hu
      cases he : ((a.call true H u).exec u).run s.d with
      | error e => exact .inl ⟨ht, halt e⟩
      | ok r =>
        obtain ⟨c', d⟩ := r
        obtain ⟨rfl, hv⟩ := Api.exec_active H u a h.active he
        simp only [Prod.mk.injEq] at hv
        have h' := h.with_d hv.1 hv.2.2.1 (by rw [hv.2.2.2])
        refine .inl ⟨hv.2.1.trans ht, (Sys.resume_calls_of_ne _ _ _ (Ne.symm e)).trans h.call,
          h'.active, h'.no_imr, h'.flag, fun v hv' => ?_⟩
        by_cases ev : v = u
        · subst ev
          exact .inl (by simp [Sys.resume])
        · rw [Sys.resume_calls_of_ne _ _ _ ev]
          exact h.others v hv'
  | commit bit _ hb hp =>
    rcases hb with rfl | rfl
    · exact absurd h.no_imr hp
    · refine .inl ⟨ht, h.call, h.active, ?_, fun hv => absurd (Regs.commit_not_pending _ _ (by decide)) hv, h.others⟩
      show (s.d.hw.commit LTDC_SRCR_VBR).SRCR &&& _ = 0
      rw [Regs.commit, if_pos hp]
      show s.d.hw.SRCR &&& compl32 LTDC_SRCR_VBR &&& LTDC_SRCR_IMR = 0
      rw [Nat.and_assoc]
      exact h.no_imr
  | raise flag _ hf =>
    have hr : (s.d.hw.ISR ||| flag) &&& LTDC_ISR_RRIF = s.d.hw.ISR &&& LTDC_ISR_RRIF := by
      rw [Nat.and_distrib_right, show flag &&& LTDC_ISR_RRIF = 0 by rcases hf with rfl | rfl | rfl <;> rfl,
        Nat.or_zero]
    exact .inl ⟨ht, h.with_d rfl rfl hr⟩
  | ev hs _ _ =>
    cases he : (LTDC_EV_IRQHandler true).run s.d with
    | error e => exact .inl ⟨ht, halt e⟩
    | ok r =>
      obtain ⟨⟨⟩, d⟩ := r
      rcases h.isr ht (LTDC_EV_IRQHandler_evKeeps _ _ _ he) with hl | ⟨h1, h2, h3⟩
      · exact .inl hl
      · exact .inr ⟨h1, h2, h3, h.call, hs⟩
  | er hs _ _ =>
    cases he : LTDC_ER_IRQHandler.run s.d with
    | error e => exact .inl ⟨ht, halt e⟩
    | ok r =>
      obtain ⟨⟨⟩, d⟩ := r
      rcases h.isr ht (LTDC_ER_IRQHandler_evKeeps _ _ _ he) with hl | ⟨h1, h2, h3⟩
      · exact .inl hl
      · exact .inr ⟨h1, h2, h3, h.call, hs⟩

/-- Over a run in which `t` stays the waiter until its last step, `t` is still the waiter of a quiet
driver, or that last step has taken it out of the slot after the commit of its request. -/
theorem Asleep.run {H : LtdcHeader} {t : Nat} {k : Call} {s₀ s : Sys} (h₀ : Asleep H t k s₀)
    (ht : s₀.d.thread = some t)
    (hr : Relation.ReflTransGen (fun a b => Step true H a b ∧ a.d.thread = some t) s₀ s) :
    s.d.thread = some t ∧ Asleep H t k s ∨
      s.d.thread = none ∧ s.d.state = .ready ∧ s.d.hw.SRCR &&& LTDC_SRCR_VBR = 0 ∧
        s.calls t = some (.reload false, .sleep k) ∧ s.halt = none := by
  induction hr with
  | refl => exact .inl ⟨ht, h₀⟩
  | tail _ hab ih =>
    rcases ih with ⟨-, hi⟩ | ⟨hn, -⟩
    · exact Step.asleep hi hab.2 hab.1
    · rw [hn] at hab
      cases hab.2

/-- With waits enabled, let thread `t` sleep in `ltdcReload(false)` as the waiter of a quiet
driver: `ACTIVE`, no immediate request pending, `RRIF` clear, and no other thread inside a call.
In every run from there, whatever the other threads call and however their steps, the
controller's commits and flags and the interrupt handlers interleave, the step that takes `t` out
of the waiter slot comes after the controller has committed its request: the driver is then
`READY`, no request for the vertical blank is pending, and `t`'s next step returns from its call. -/
theorem ltdcReload_wakes_after_commit (H : LtdcHeader) {t : Nat} {s₀ s : Sys}
    (hcall : s₀.calls t = some (.reload false, .sleep (.seg (pure ()) .ret)))
    (hthr : s₀.d.thread = some t) (hst : s₀.d.state = .active)
    (himr : s₀.d.hw.SRCR &&& LTDC_SRCR_IMR = 0) (hisr : s₀.d.hw.ISR &&& LTDC_ISR_RRIF = 0)
    (hu : ∀ u, u ≠ t → s₀.calls u = none)
    (hr : Relation.ReflTransGen (fun a b => Step true H a b ∧ a.d.thread = some t) s₀ s)
    (hw : s.d.thread ≠ some t) :
    s.d.state = .ready ∧ s.d.hw.SRCR &&& LTDC_SRCR_VBR = 0 ∧
      ∃ s', Step true H s s' ∧ s'.calls t = none ∧ s'.d = s.d := by
  rcases Asleep.run ⟨hcall, hst, himr, fun _ => hisr, fun u hu' => .inl (hu u hu')⟩ hthr hr with
    ⟨h, -⟩ | ⟨-, hready, hv, hc, hs⟩
  · exact absurd h hw
  · refine ⟨hready, hv, _, Step.run_ok hs hc ((Call.exec_sleep_woken t _ hw).trans rfl), ?_, rfl⟩
    simp [Sys.resume]

/-- Thread 0 asleep in `ltdcReload(false)` on the scenario panel, with its request made, `RRIE`
enabled and nothing else pending: the commit and the interrupt that follows wake it, and it returns. -/
theorem scenario_reload_waits_for_commit :
    ∃ s₀ s : Sys, s₀.calls 0 = some (.reload false, .sleep (.seg (pure ()) .ret)) ∧
      s₀.d.thread = some 0 ∧ s₀.d.state = .active ∧ s₀.d.hw.SRCR &&& LTDC_SRCR_IMR = 0 ∧
      s₀.d.hw.ISR &&& LTDC_ISR_RRIF = 0 ∧ (∀ u, u ≠ 0 → s₀.calls u = none) ∧
      Relation.ReflTransGen (fun a b => Step true fieldHeader a b ∧ a.d.thread = some 0) s₀ s ∧
      s.d.thread ≠ some 0 ∧
      (s.d.state = .ready ∧ s.d.hw.SRCR &&& LTDC_SRCR_VBR = 0 ∧
        ∃ s', Step true fieldHeader s s' ∧ s'.calls 0 = none ∧ s'.d = s.d) := by
  let s₀ : Sys := ⟨{ LTDCD1 with
      state := .active, config := some scenarioConfig, thread := some 0,
      hw := { zeroRegs with SRCR := LTDC_SRCR_VBR, IER := LTDC_IER_RRIE } },
    Function.update (fun _ => none) 0 (some (.reload false, .sleep (.seg (pure ()) .ret))), none, none⟩
  let s₁ : Sys := { s₀ with d := s₀.d.withHw (s₀.d.hw.commit LTDC_SRCR_VBR) }
  have h₁ : Step true fieldHeader s₀ s₁ := .commit s₀ LTDC_SRCR_VBR rfl (.inr rfl) (by decide)
  have h₂ := @Step.ev true fieldHeader s₁ rfl rfl (.inr ⟨by decide, by decide⟩)
  have hr : Relation.ReflTransGen (fun a b => Step true fieldHeader a b ∧ a.d.thread = some 0) s₀ _ :=
    (Relation.ReflTransGen.single ⟨h₁, rfl⟩).tail ⟨h₂, rfl⟩
  have hu : ∀ u, u ≠ 0 → s₀.calls u = none := fun u hu => by simp [s₀, Function.update_noteq hu]
  refine ⟨s₀, _, rfl, rfl, rfl, by decide, by decide, hu, hr, ?hw,
    ltdcReload_wakes_after_commit fieldHeader rfl rfl rfl (by decide) (by decide) hu hr ?hw⟩
  decide

end Ltdc
