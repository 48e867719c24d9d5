import DisplayHal.Ltdc.Waiter

/-!
# Reloads that wait for the commit: `ltdcReload(true)`

An immediate reload, `ltdcReloadS(TRUE)`, does not sleep: it sets `IMR`, polls `SRCR`
until the controller has committed it, and turns the driver `READY` itself. The commit
raises `RRIF` all the same, and nothing in the call clears it. Whenever `RRIE` is
enabled, as every start leaves it, the event interrupt that handles that flag finds the
driver `READY` and halts at its state check. This holds of every immediate reload, not
only of the three a start forces: from any system in which no interrupt is due, a
thread is outside the driver and the driver is `READY` with no waiter, the thread's
`ltdcReload(true)` returns, and the interrupt the hardware then takes halts
(`ltdcReload_immediate_halts`).
-/

namespace Ltdc

/-! ## `ltdcReload(true)` -/

theorem ltdcReloadSCall_plain (W : Bool) (self : Nat) (pre post : DriverM Unit) :
    (ltdcReloadSCall W self true pre post).Plain := by
  unfold ltdcReloadSCall
  cases W <;> exact ⟨.inl rfl, trivial⟩

/-- `ltdcReload(true)` run alone from a `READY` driver with no waiter: the request is made
and committed, and the driver is `READY` again. -/
theorem ltdcReload_immediate_run (W : Bool) (H : LtdcHeader) (self : Nat) {d : LTDCDriver}
    (hst : d.state = .ready) (hw : W = true → d.thread = none) :
    (((Api.reload true).call W H self).runAlone W).run d = .ok ((), { d with
      hw := (({ d.hw with SRCR := d.hw.SRCR ||| LTDC_SRCR_IMR } : Regs).commit LTDC_SRCR_IMR) }) := by
  cases W <;>
    simp only [Api.call, ltdcReloadSCall, Bool.false_eq_true, ↓reduceIte,
      ltdcStartReloadI, assertNoWaiter, Call.runAlone_seg, Call.runAlone_poll, Call.runAlone_ret,
      bind_pure_comp, id_map', bind_assoc, StateT.run_bind, StateT.run_get, chDbgAssert_run,
      modifyHw_run, setState_run, ok_bind, pure_bind, hst, forall_const, hw] at hw ⊢

/-- In every system where no interrupt is due, thread `t` is in no driver call, and the
driver is `READY` with no waiter, `RRIE` enabled and a configuration whose line interrupt,
when enabled, has its callback: in a run the hardware takes, the thread's
`ltdcReload(true)` returns with its reload committed and the driver `READY`, the lock
free; and the event interrupt, on the `RRIF` the commit raised, halts at its state check. -/
theorem ltdcReload_immediate_halts (W : Bool) (H : LtdcHeader) {s : Sys} {t : Nat} {C : LTDCConfig}
    (hs : s.halt = none) (ht : s.calls t = none) (hq : ¬ IrqDue s.d) (hst : s.d.state = .ready)
    (hw : W = true → s.d.thread = none) (hc : s.d.config = some C)
    (hie : s.d.hw.IER &&& LTDC_IER_RRIE ≠ 0)
    (hl : s.d.hw.IER &&& LTDC_IER_LIE ≠ 0 → C.line_isr ≠ none) :
    ∃ s', Relation.ReflTransGen (HwStep W H) s s' ∧ s'.calls t = none ∧ s'.lock = none ∧
      s'.d.state = .ready ∧ s'.d.hw.SRCR &&& LTDC_SRCR_IMR = 0 ∧
      ∃ s'', HwStep W H s' s'' ∧ s''.halt = some (.panic "LTDC_EV_IRQHandler(), #2") := by
  have himr : (s.d.hw.SRCR ||| LTDC_SRCR_IMR) &&& LTDC_SRCR_IMR ≠ 0 := by
    rw [lor_and_self]
    decide
  have hp : Pending { s.d with hw := (({ s.d.hw with SRCR := s.d.hw.SRCR ||| LTDC_SRCR_IMR } : Regs).commit
      LTDC_SRCR_IMR) } LTDC_ISR_RRIF LTDC_IER_RRIE := by
    refine ⟨?_, by simpa using hie⟩
    show (Regs.commit _ _).ISR &&& _ ≠ 0
    rw [Regs.commit_ISR himr, lor_and_self]
    decide
  refine ⟨_, hwReach_call W (.reload true) (ltdcReloadSCall_plain W t _ _) hs ht hq
    (ltdcReload_immediate_run W H t hst hw), ht, rfl, hst, Regs.commit_not_pending _ _ (by decide), _,
    HwStep.ev_error hs rfl (.inr hp) (LTDC_EV_IRQHandler_not_active W hc (by rw [hst]; decide) hp
      fun h => hl (by simpa using h)), rfl⟩

/-- With waits enabled, the scenario panel as its start leaves it but with `RRIF`
cleared: thread 0's `ltdcReload(true)` returns and the event interrupt halts. -/
theorem scenario_immediate_reload_halts :
    ∃ d, (ltdcStart fieldHeader scenarioConfig).run (ltdcInit zeroRegs LTDCD1) = .ok ((), d) ∧
      ∃ s', Relation.ReflTransGen (HwStep true fieldHeader)
          ⟨d.withHw { d.hw with ISR := 0 }, fun _ => none, none, none⟩ s' ∧
        s'.calls 0 = none ∧ s'.lock = none ∧ s'.d.state = .ready ∧ s'.d.hw.SRCR &&& LTDC_SRCR_IMR = 0 ∧
        ∃ s'', HwStep true fieldHeader s' s'' ∧ s''.halt = some (.panic "LTDC_EV_IRQHandler(), #2") := by
  obtain ⟨d, hd⟩ : ∃ d, (ltdcStart fieldHeader scenarioConfig).run (ltdcInit zeroRegs LTDCD1) =
    .ok ((), d) := ⟨_, rfl⟩
  obtain ⟨hst, hcfg, hthr, hier, -, -⟩ := ltdcStart_run_ok hd
  exact ⟨d, hd, ltdcReload_immediate_halts true fieldHeader
    (s := ⟨d.withHw { d.hw with ISR := 0 }, fun _ => none, none, none⟩) (t := 0) rfl rfl
    (not_irqDue_of_ISR_eq_zero rfl) hst (fun _ => hthr) hcfg (by rw [LTDCDriver.withHw, hier]; decide)
    fun h => absurd (hier ▸ h) (by decide)⟩

end Ltdc
