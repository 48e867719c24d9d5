import Mathlib.Logic.Relation
import DisplayHal.Ltdc.Start
import DisplayHal.Ltdc.Symmetry

/-!
# The driver under interleaving

The system is the driver with its controller, the threads that are inside a driver
call, the holder of the scheduler lock and, once a `chDbgPanic` has halted it, the
message. Its steps (`Step`) are:

* a thread that is in no driver call calls a public operation (`Api`);
* a thread runs on inside its call (`Call.exec`) until it must wait: at a poll whose
  requests are pending it keeps the scheduler lock and yields, in a sleep it gives the
  lock up, and at the return it unlocks;
* the controller commits a pending `IMR` or `VBR` request, raising `RRIF`, or raises
  a line, underrun or transfer-error flag;
* an interrupt handler runs, when one of its flags is raised and enabled and no thread
  holds the scheduler lock.

A call runs atomically between its waits, as the source's locked stretches do. `Step`
lets a due interrupt wait while threads and the controller move on; the hardware takes
it as soon as the lock is free (`HwStep`). Every run of the hardware is a run of `Step`,
so what holds over every run of `Step` holds of the hardware's, and a run that shows
what the hardware does is stated over `HwStep`.

The run of a call that nothing interrupts, `Call.runAlone`, is one run of the system
(`reach_of_runAlone_solo`): a thread runs each stretch, and at each poll the controller
commits what the poll waits for. That is what ties `ltdcStart`, and the operations
that do not wait, to this model (`reach_call`, `hwReach_call`).

## The reload protocol

A reload is requested by `ltdcStartReloadI`, which turns the driver `ACTIVE`; the
controller commits it and raises `RRIF`, and `LTDC_EV_IRQHandler` turns the driver back
`READY`, asserting first that it is `ACTIVE`. The protocol's invariant, that in a
settled system the driver is `ACTIVE` exactly while a reload is pending or its
interrupt is still to be handled, and that a waiter is registered only while it is
`ACTIVE` (`ReloadInvariant`), does not hold.

`ltdcStart` forces three immediate reloads with the scheduler locked, and polls each
until it is committed; the last two commit with `RRIE` enabled, and the start turns
`READY` without handling them. Every start that returns therefore leaves `RRIF` raised
and enabled in a `READY` driver (`ltdcStart_run_ok`). With the start run by one thread
this state is reachable, no thread is inside a call, the invariant fails, and the event
interrupt, free to run, halts at its state check (`ltdcStart_breaks_reload_invariant`),
for either setting of `LTDC_USE_WAIT`.

## Interrupt sources and their callbacks

`LTDC_EV_IRQHandler` and `LTDC_ER_IRQHandler` assert, for the line, FIFO-underrun and
transfer-error sources, that a raised and enabled flag has its callback in the running
configuration. `ltdcStart` keeps to that: it enables each of the three sources exactly
when its callback is set (`ltdcStartFlags_bits`). `ltdcEnableLineInterruptI` does not:
it sets `LIE` whatever `line_isr` is. A thread that calls it after a start whose
configuration has no line callback leaves a reachable system with the line source
enabled and no callback, and the controller's next `LIF` halts the event interrupt at
its callback check (`ltdcEnableLineInterruptI_without_callback`).
-/

namespace Ltdc

/-! ## Operations -/

/-- A public operation, with its arguments. The getters of the global registers change
nothing and are left out; `ltdcAcquireBus` and `ltdcReleaseBus` only take and give the
bus mutex, which the model does not keep. -/
inductive Api
  | start (configp : LTDCConfig)
  | stop
  | startReload (immediately : Bool)
  | reload (immediately : Bool)
  | layer (L : LayerId) (op : LayerOp)
  | setEnableFlags (flags : Nat)
  | enableDithering
  | disableDithering
  | setClearColor (c : Nat)
  | setLineInterruptPos (line : Nat)
  | enableLineInterrupt
  | disableLineInterrupt

/-- The call thread `self` makes for an operation. -/
def Api.call (LTDC_USE_WAIT : Bool) (H : LtdcHeader) (self : Nat) : Api → Call
  | .start configp => ltdcStartCall H configp
  | .stop => ltdcStopCall LTDC_USE_WAIT self
  | .startReload immediately => .seg (ltdcStartReloadI immediately) .ret
  | .reload immediately => ltdcReloadSCall LTDC_USE_WAIT self immediately (pure ()) (pure ())
  | .layer .bg op => .seg (Functor.discard (ltdcBgOp H op)) .ret
  | .layer .fg op => .seg (Functor.discard (ltdcFgOp H op)) .ret
  | .setEnableFlags flags => .seg (ltdcSetEnableFlagsI flags) .ret
  | .enableDithering => .seg ltdcEnableDitheringI .ret
  | .disableDithering => .seg ltdcDisableDitheringI .ret
  | .setClearColor c => .seg (ltdcSetClearColorI c) .ret
  | .setLineInterruptPos line => .seg (ltdcSetLineInterruptPosI line) .ret
  | .enableLineInterrupt => .seg ltdcEnableLineInterruptI .ret
  | .disableLineInterrupt => .seg ltdcDisableLineInterruptI .ret

/-- What thread `self` runs of a call before it must wait: it stops at a poll whose
requests are pending, in a sleep while it is still the waiter, or at the return. -/
def Call.exec (self : Nat) : Call → DriverM Call
  | .ret => pure .ret
  | .seg m k => do m; k.exec self
  | .poll mask k => do
      if (← get).hw.SRCR &&& mask ≠ 0 then pure (.poll mask k) else k.exec self
  | .sleep k => do
      if (← get).thread = some self then pure (.sleep k) else k.exec self

theorem Call.exec_poll_pending (self mask : Nat) (k : Call) {d : LTDCDriver}
    (h : d.hw.SRCR &&& mask ≠ 0) : ((Call.poll mask k).exec self).run d = .ok (.poll mask k, d) := by
  simp [Call.exec, StateT.run_bind, h]
  rfl

theorem Call.exec_poll_clear (self mask : Nat) (k : Call) {d : LTDCDriver}
    (h : d.hw.SRCR &&& mask = 0) : ((Call.poll mask k).exec self).run d = (k.exec self).run d := by
  simp [Call.exec, StateT.run_bind, h]

/-! ## The system -/

/-- The driver and its controller, what is left of the call each thread is in, the
thread that holds the scheduler lock while it polls, and the halt message. -/
structure Sys where
  d : LTDCDriver
  calls : Nat → Option (Api × Call)
  lock : Option Nat
  halt : Option Fault

/-- The system after `ltdcInit`. -/
def Sys.init (reset : Regs) (d : LTDCDriver) : Sys := ⟨ltdcInit reset d, fun _ => none, none, none⟩

/-- The system after thread `t`, inside operation `a`, has run to `r`. -/
def Sys.resume (s : Sys) (t : Nat) (a : Api) : Except Fault (Call × LTDCDriver) → Sys
  | .error e => { s with halt := some e }
  | .ok (.ret, d) => { s with d, calls := Function.update s.calls t none, lock := none }
  | .ok (.poll mask k, d) =>
      { s with d, calls := Function.update s.calls t (some (a, .poll mask k)), lock := some t }
  | .ok (c, d) => { s with d, calls := Function.update s.calls t (some (a, c)), lock := none }

/-- The system after an interrupt handler has run to `r`. -/
def Sys.afterIsr (s : Sys) : Except Fault (Unit × LTDCDriver) → Sys
  | .error e => { s with halt := some e }
  | .ok ((), d) => { s with d }

/-- A flag of `ISR` that is raised and enabled in `IER`. -/
def Pending (d : LTDCDriver) (flag enable : Nat) : Prop :=
  d.hw.ISR &&& flag ≠ 0 ∧ d.hw.IER &&& enable ≠ 0

/-- An interrupt handler is due: one of the flags it handles is raised and enabled. -/
def IrqDue (d : LTDCDriver) : Prop :=
  (Pending d LTDC_ISR_LIF LTDC_IER_LIE ∨ Pending d LTDC_ISR_RRIF LTDC_IER_RRIE) ∨
    (Pending d LTDC_ISR_FUIF LTDC_IER_FUIE ∨ Pending d LTDC_ISR_TERRIF LTDC_IER_TERRIE)

/-- The driver with the controller's registers `hw`. -/
def LTDCDriver.withHw (d : LTDCDriver) (hw : Regs) : LTDCDriver := { d with hw }

/-- Whether an interrupt is due depends on `ISR` and `IER` alone. -/
theorem IrqDue.of_flags {d d' : LTDCDriver} (hisr : d'.hw.ISR = d.hw.ISR) (hier : d'.hw.IER = d.hw.IER)
    (h : IrqDue d') : IrqDue d := by
  unfold IrqDue Pending at *
  rwa [hisr, hier] at h

/-- With every flag clear, no interrupt is due. -/
theorem not_irqDue_of_ISR_eq_zero {d : LTDCDriver} (h : d.hw.ISR = 0) : ¬ IrqDue d := by
  simp [IrqDue, Pending, h]

section Steps

variable (LTDC_USE_WAIT : Bool) (H : LtdcHeader)

/-- One step of the system. An interrupt handler may run whenever one of its flags is
raised and enabled and no thread holds the lock, and may also wait meanwhile. -/
inductive Step : Sys → Sys → Prop
  /-- Thread `t`, in no driver call, calls `a`. -/
  | call (s : Sys) (t : Nat) (a : Api) (hs : s.halt = none) (ht : s.calls t = none) :
      Step s { s with calls := Function.update s.calls t (some (a, a.call LTDC_USE_WAIT H t)) }
  /-- Thread `t` runs on inside its call until it must wait. -/
  | run (s : Sys) (t : Nat) (a : Api) (c : Call) (hs : s.halt = none)
      (ht : s.calls t = some (a, c)) :
      Step s (s.resume t a ((c.exec t).run s.d))
  /-- The controller commits a pending reload request and raises `RRIF`. -/
  | commit (s : Sys) (bit : Nat) (hs : s.halt = none)
      (hb : bit = LTDC_SRCR_IMR ∨ bit = LTDC_SRCR_VBR) (hp : s.d.hw.SRCR &&& bit ≠ 0) :
      Step s { s with d := s.d.withHw (s.d.hw.commit bit) }
  /-- The controller raises the line, FIFO-underrun or transfer-error flag. -/
  | raise (s : Sys) (flag : Nat) (hs : s.halt = none)
      (hf : flag = LTDC_ISR_LIF ∨ flag = LTDC_ISR_FUIF ∨ flag = LTDC_ISR_TERRIF) :
      Step s { s with d := s.d.withHw { s.d.hw with ISR := s.d.hw.ISR ||| flag } }
  /-- `LTDC_EV_IRQHandler` runs. -/
  | ev (s : Sys) (hs : s.halt = none) (hl : s.lock = none)
      (hp : Pending s.d LTDC_ISR_LIF LTDC_IER_LIE ∨ Pending s.d LTDC_ISR_RRIF LTDC_IER_RRIE) :
      Step s (s.afterIsr ((LTDC_EV_IRQHandler LTDC_USE_WAIT).run s.d))
  /-- `LTDC_ER_IRQHandler` runs. -/
  | er (s : Sys) (hs : s.halt = none) (hl : s.lock = none)
      (hp : Pending s.d LTDC_ISR_FUIF LTDC_IER_FUIE ∨ Pending s.d LTDC_ISR_TERRIF LTDC_IER_TERRIE) :
      Step s (s.afterIsr (LTDC_ER_IRQHandler.run s.d))

/-- Reachability by any interleaving of steps. -/
def Reach : Sys → Sys → Prop := Relation.ReflTransGen (Step LTDC_USE_WAIT H)

/-- A step the hardware takes: with the lock free and an interrupt due, the interrupt is
taken before any thread or the controller moves. -/
def HwStep (s s' : Sys) : Prop :=
  Step LTDC_USE_WAIT H s s' ∧ (s.lock = none → IrqDue s.d →
    s' = s.afterIsr ((LTDC_EV_IRQHandler LTDC_USE_WAIT).run s.d) ∨
      s' = s.afterIsr (LTDC_ER_IRQHandler.run s.d))

end Steps

/-! ## Runs of a call in the system -/

/-- A call that never sleeps, and whose polls wait for reload requests. -/
def Call.Plain : Call → Prop
  | .ret => True
  | .seg _ k => k.Plain
  | .poll mask k => (mask = LTDC_SRCR_IMR ∨ mask = LTDC_SRCR_IMR ||| LTDC_SRCR_VBR) ∧ k.Plain
  | .sleep _ => False

theorem ltdcStartCall_plain (H : LtdcHeader) (C : LTDCConfig) : (ltdcStartCall H C).Plain :=
  ⟨.inr rfl, .inr rfl, .inr rfl, trivial⟩

/-- The system with thread `t` out of its call, the lock free, and the driver `d`. -/
def Sys.leave (s : Sys) (t : Nat) (d : LTDCDriver) : Sys :=
  { s with d, calls := Function.update s.calls t none, lock := none }

@[simp] theorem Sys.leave_update (s : Sys) (t : Nat) (x : Option (Api × Call)) (l : Option Nat)
    (d d' : LTDCDriver) : Sys.leave { s with d, calls := Function.update s.calls t x, lock := l } t d' =
      s.leave t d' := by
  simp [Sys.leave, Function.update_idem]

/-- Every thread's call but `t`'s is where it was: `t` runs, or the controller steps. -/
theorem Sys.resume_calls_of_ne (s : Sys) {t u : Nat} (a : Api) (r : Except Fault (Call × LTDCDriver))
    (h : u ≠ t) : (s.resume t a r).calls u = s.calls u := by
  unfold Sys.resume
  split <;> simp [Function.update_noteq h]

/-- A step taken while thread `t` is inside a call that leaves every other thread's call as
it was: a step of `t` or of the controller. -/
def Sys.Solo (t : Nat) (s s' : Sys) : Prop := s.calls t ≠ none ∧ ∀ u, u ≠ t → s'.calls u = s.calls u

section Runs

variable {LTDC_USE_WAIT : Bool} {H : LtdcHeader} {R : Sys → Sys → Prop} {t : Nat}

/-- The controller commits reload request `bit`, if it is pending, in any run that allows
the steps of the controller while thread `t` is inside a call and holds the lock. -/
theorem Reach.commit (hR : ∀ a b, Step LTDC_USE_WAIT H a b → Sys.Solo t a b → a.lock = some t → R a b)
    {s : Sys} (hs : s.halt = none) (ht : s.calls t ≠ none) (hl : s.lock = some t) {bit : Nat}
    (hb : bit = LTDC_SRCR_IMR ∨ bit = LTDC_SRCR_VBR) :
    Relation.ReflTransGen R s { s with d := s.d.withHw (s.d.hw.commit bit) } := by
  by_cases hp : s.d.hw.SRCR &&& bit = 0
  · rw [Regs.commit_of_not_pending hp]
    exact .refl
  · exact .single (hR _ _ (.commit s bit hs hb hp) ⟨ht, fun _ _ => rfl⟩ hl)

/-- The controller commits what a poll waits for, one request at a time. -/
theorem Reach.commit_poll (hR : ∀ a b, Step LTDC_USE_WAIT H a b → Sys.Solo t a b → a.lock = some t → R a b)
    {s : Sys} (hs : s.halt = none) (ht : s.calls t ≠ none) (hl : s.lock = some t) {mask : Nat}
    (hm : mask = LTDC_SRCR_IMR ∨ mask = LTDC_SRCR_IMR ||| LTDC_SRCR_VBR) :
    Relation.ReflTransGen R s { s with d := s.d.withHw (s.d.hw.commit mask) } := by
  rcases hm with rfl | rfl
  · exact Reach.commit hR hs ht hl (.inl rfl)
  · rw [Regs.commit_both]
    exact (Reach.commit hR hs ht hl (.inl rfl)).trans
      (Reach.commit hR (s := { s with d := s.d.withHw (s.d.hw.commit LTDC_SRCR_IMR) }) hs ht hl (.inr rfl))

/-- A plain call runs in the system as it runs alone: from a state where thread `t` is
in a call that would run as `c` from `d`, the thread runs each stretch, the controller
commits at each poll, and the thread leaves its call where the lone run ends. Each of
these steps leaves the other threads' calls alone, and is the first or is taken while
`t` holds the lock, so the run is one of any restriction `R` of the steps that allows
those. -/
theorem reach_of_runAlone_solo (W : Bool) (t : Nat) (a : Api) (c : Call) (hc : c.Plain) {s : Sys}
    (hR : ∀ a b, Step LTDC_USE_WAIT H a b → Sys.Solo t a b → (a = s ∨ a.lock = some t) → R a b)
    {c₀ : Call} {d d' : LTDCDriver} (hs : s.halt = none) (ht : s.calls t = some (a, c₀))
    (he : (c₀.exec t).run s.d = (c.exec t).run d) (hr : (c.runAlone W).run d = .ok ((), d')) :
    Relation.ReflTransGen R s (s.leave t d') := by
  have hsolo : ∀ r, Sys.Solo t s (s.resume t a r) :=
    fun r => ⟨by simp [ht], fun _ hu => Sys.resume_calls_of_ne s a r hu⟩
  induction c generalizing s c₀ d with
  | ret =>
    cases hr
    have h : Step LTDC_USE_WAIT H _ _ := .run s t a c₀ hs ht
    have h₀ := hsolo ((c₀.exec t).run s.d)
    rw [he] at h h₀
    exact .single (hR _ _ h h₀ (.inl rfl))
  | seg m k ih =>
    obtain ⟨_, d₁, hm, hr⟩ := run_bind_ok hr
    exact ih hc hR hs ht (he.trans (run_bind_of_ok hm)) hr hsolo
  | poll mask k ih =>
    obtain ⟨hmask, hk⟩ := hc
    obtain ⟨_, _, hm, hr⟩ := run_bind_ok hr
    simp only [modifyHw_run, Except.ok.injEq, Prod.mk.injEq, true_and] at hm
    subst hm
    by_cases hp : d.hw.SRCR &&& mask = 0
    · rw [Regs.commit_of_not_pending hp] at hr
      exact ih hk hR hs ht (he.trans (Call.exec_poll_clear t mask k hp)) hr hsolo
    · let s₁ : Sys := ⟨d, Function.update s.calls t (some (a, .poll mask k)), some t, s.halt⟩
      have hR₁ : ∀ a b, Step LTDC_USE_WAIT H a b → Sys.Solo t a b → a.lock = some t → R a b :=
        fun a b h ho hl => hR a b h ho (.inr hl)
      have h₁ : Step LTDC_USE_WAIT H _ _ := .run s t a c₀ hs ht
      have hs₁ := hsolo ((c₀.exec t).run s.d)
      rw [he, Call.exec_poll_pending t mask k hp] at h₁ hs₁
      have h₂ : s₁.calls t ≠ none := by simp [s₁]
      have h₃ := ih hk (s := { s₁ with d := s₁.d.withHw (s₁.d.hw.commit mask) })
        (fun a b h ho hf => hR₁ a b h ho (by rcases hf with rfl | hl; exacts [rfl, hl])) hs
        (Function.update_same _ _ _) (Call.exec_poll_clear t mask k
          (Regs.commit_not_pending _ _ (by rcases hmask with rfl | rfl <;> decide))) hr
        (fun r => ⟨by simp, fun _ hu => Sys.resume_calls_of_ne _ a r hu⟩)
      rw [Sys.leave_update] at h₃
      exact .head (hR _ _ h₁ hs₁ (.inl rfl))
        ((Reach.commit_poll hR₁ (s := s₁) hs h₂ rfl hmask).trans h₃)
  | sleep k => exact hc.elim

/-- A thread that is in no call calls a plain operation, and it runs as it runs alone, in
any restriction `R` of the steps that allows the call and the steps of the thread and
of the controller that follow it. -/
theorem reach_call_solo (W : Bool) {s : Sys} (a : Api) (hc : (a.call LTDC_USE_WAIT H t).Plain)
    (hR : ∀ b c, Step LTDC_USE_WAIT H b c → Sys.Solo t b c →
      (b = { s with calls := Function.update s.calls t (some (a, a.call LTDC_USE_WAIT H t)) } ∨
        b.lock = some t) → R b c)
    (h₀ : R s { s with calls := Function.update s.calls t (some (a, a.call LTDC_USE_WAIT H t)) })
    (hs : s.halt = none) (ht : s.calls t = none) {d' : LTDCDriver}
    (hr : ((a.call LTDC_USE_WAIT H t).runAlone W).run s.d = .ok ((), d')) :
    Relation.ReflTransGen R s { s with d := d', lock := none } := by
  have h := reach_of_runAlone_solo W t a _ hc hR hs (Function.update_same _ _ _) rfl hr
  have hu : Function.update s.calls t none = s.calls := by rw [← ht, Function.update_eq_self]
  rw [Sys.leave_update, Sys.leave, hu] at h
  exact .head h₀ h

/-- A thread that is in no call calls a plain operation, and it runs as it runs alone. -/
theorem reach_call (W : Bool) {s : Sys} (a : Api) (hc : (a.call LTDC_USE_WAIT H t).Plain)
    (hs : s.halt = none) (ht : s.calls t = none) {d' : LTDCDriver}
    (hr : ((a.call LTDC_USE_WAIT H t).runAlone W).run s.d = .ok ((), d')) :
    Reach LTDC_USE_WAIT H s { s with d := d', lock := none } :=
  reach_call_solo W a hc (fun _ _ h _ _ => h) (.call s t a hs ht) hs ht hr

/-- A run the hardware takes is a run of `Step`, so every invariant of `Reach` holds along
it. -/
theorem HwStep.reach {s s' : Sys} (h : Relation.ReflTransGen (HwStep LTDC_USE_WAIT H) s s') :
    Reach LTDC_USE_WAIT H s s' :=
  h.mono fun _ _ => And.left

/-- A step from a system where the lock is held or no interrupt is due is one the
hardware takes. -/
theorem HwStep.of_quiet {s s' : Sys} (h : Step LTDC_USE_WAIT H s s')
    (hq : s.lock = none → ¬ IrqDue s.d) : HwStep LTDC_USE_WAIT H s s' :=
  ⟨h, fun hl hd => absurd hd (hq hl)⟩

/-- An event interrupt that halts is a step the hardware takes. -/
theorem HwStep.ev_error {s : Sys} {e : Fault} (hs : s.halt = none) (hl : s.lock = none)
    (hp : Pending s.d LTDC_ISR_LIF LTDC_IER_LIE ∨ Pending s.d LTDC_ISR_RRIF LTDC_IER_RRIE)
    (h : (LTDC_EV_IRQHandler LTDC_USE_WAIT).run s.d = .error e) :
    HwStep LTDC_USE_WAIT H s { s with halt := some e } := by
  have hstep := @Step.ev LTDC_USE_WAIT H s hs hl hp
  rw [h] at hstep
  exact ⟨hstep, fun _ _ => .inl (by rw [h]; rfl)⟩

/-- In a system where no interrupt is due, a thread that is in no call calls a plain
operation and runs it as it runs alone, in a run the hardware takes. -/
theorem hwReach_call (W : Bool) {s : Sys} (a : Api) (hc : (a.call LTDC_USE_WAIT H t).Plain)
    (hs : s.halt = none) (ht : s.calls t = none) (hq : ¬ IrqDue s.d) {d' : LTDCDriver}
    (hr : ((a.call LTDC_USE_WAIT H t).runAlone W).run s.d = .ok ((), d')) :
    Relation.ReflTransGen (HwStep LTDC_USE_WAIT H) s { s with d := d', lock := none } :=
  reach_call_solo W a hc (fun _ _ h _ hf => HwStep.of_quiet h fun hl => by
      rcases hf with rfl | hl'
      · exact hq
      · rw [hl] at hl'; cases hl')
    (HwStep.of_quiet (.call s t a hs ht) fun _ => hq) hs ht hr

end Runs

/-! ## The reload protocol -/

/-- The invariant the reload protocol is meant to keep: the driver is `ACTIVE` exactly while
an `IMR` or `VBR` request is pending or a raised `RRIF` with `RRIE` set waits for its
interrupt, and the waiter slot is set only while it is `ACTIVE`. -/
def ReloadInvariant (s : Sys) : Prop :=
  (s.d.state = .active ↔ s.d.hw.SRCR &&& (LTDC_SRCR_IMR ||| LTDC_SRCR_VBR) ≠ 0 ∨
      Pending s.d LTDC_ISR_RRIF LTDC_IER_RRIE) ∧
    (s.d.thread ≠ none → s.d.state = .active)

/-! ## The interrupt sources of a start -/

/-- `ltdcStart` enables `RRIE`, and each other source exactly when it has a callback. -/
theorem ltdcStartFlags_bits (C : LTDCConfig) :
    ltdcStartFlags C &&& LTDC_IER_RRIE ≠ 0 ∧
      (ltdcStartFlags C &&& LTDC_IER_LIE ≠ 0 ↔ C.line_isr ≠ none) ∧
      (ltdcStartFlags C &&& LTDC_IER_FUIE ≠ 0 ↔ C.fuerr_isr ≠ none) ∧
      (ltdcStartFlags C &&& LTDC_IER_TERRIE ≠ 0 ↔ C.terr_isr ≠ none) := by
  unfold ltdcStartFlags
  by_cases h1 : C.line_isr = none <;> by_cases h2 : C.fuerr_isr = none <;>
    by_cases h3 : C.terr_isr = none <;>
    simp [h1, h2, h3, LTDC_IER_RRIE, LTDC_IER_LIE, LTDC_IER_FUIE, LTDC_IER_TERRIE] <;> decide

/-! ## The event interrupt -/

/-- `LTDC_EV_IRQHandler` on a driver that is not `ACTIVE`, with `RRIF` raised and
enabled, halts at its state check, provided a line interrupt it meets on the way has
its callback. -/
theorem LTDC_EV_IRQHandler_not_active (W : Bool) {d : LTDCDriver} {C : LTDCConfig}
    (hc : d.config = some C) (hst : d.state ≠ .active) (hp : Pending d LTDC_ISR_RRIF LTDC_IER_RRIE)
    (hl : d.hw.IER &&& LTDC_IER_LIE ≠ 0 → C.line_isr ≠ none) :
    (LTDC_EV_IRQHandler W).run d = .error (.panic "LTDC_EV_IRQHandler(), #2") := by
  have hrr : ∀ x, x &&& compl32 LTDC_ISR_LIF &&& LTDC_ISR_RRIF = x &&& LTDC_ISR_RRIF := fun x => by
    rw [Nat.and_assoc]
    rfl
  obtain ⟨hp1, hp2⟩ := hp
  by_cases hlif : d.hw.ISR &&& LTDC_ISR_LIF ≠ 0 ∧ d.hw.IER &&& LTDC_IER_LIE ≠ 0
  · simp only [LTDC_EV_IRQHandler, ne_eq, ltdcConfig, pure_bind, bind_assoc, StateT.run_bind,
      StateT.run_get, hlif, not_false_eq_true, and_self, ↓reduceIte, chDbgAssert_run, ite_not,
      modifyHw_run, ok_bind, hrr, hc, StateT.run_pure, hl hlif.2, hp1, hp2, hst, error_bind]
  · simp only [LTDC_EV_IRQHandler, ne_eq, ltdcConfig, pure_bind, bind_assoc, StateT.run_bind,
      StateT.run_get, hlif, ↓reduceIte, hp1, not_false_eq_true, hp2, and_self, chDbgAssert_run, hst,
      error_bind, hc, StateT.run_pure]

/-! ## A start leaves its last reload to the interrupt -/

/-- For either setting of `LTDC_USE_WAIT`, a start that returns from `ltdcInit`, run by
one thread, leaves a reachable system in which no thread is inside a call and the
driver is `READY` with `RRIF` raised and enabled: the reload invariant fails there, and
the event interrupt, which may run since no thread holds the lock, halts at its state
check. -/
theorem ltdcStart_breaks_reload_invariant (W : Bool) (H : LtdcHeader) (C : LTDCConfig)
    (reset : Regs) (d₀ d : LTDCDriver) (h : (ltdcStart H C).run (ltdcInit reset d₀) = .ok ((), d)) :
    Reach W H (Sys.init reset d₀) ⟨d, fun _ => none, none, none⟩ ∧ d.state = .ready ∧
      ¬ ReloadInvariant ⟨d, fun _ => none, none, none⟩ ∧
      ∃ s', Step W H ⟨d, fun _ => none, none, none⟩ s' ∧
        s'.halt = some (.panic "LTDC_EV_IRQHandler(), #2") := by
  obtain ⟨hst, hcfg, -, hier, hrrif, -⟩ := ltdcStart_run_ok h
  obtain ⟨hrrie, hlie, -⟩ := ltdcStartFlags_bits C
  have hp : Pending d LTDC_ISR_RRIF LTDC_IER_RRIE := ⟨hrrif, hier ▸ hrrie⟩
  refine ⟨reach_call false (t := 0) (.start C) (ltdcStartCall_plain H C) rfl rfl h, hst,
    fun hinv => ?_, _, .ev _ rfl rfl (.inr hp), ?_⟩
  · have hact := hinv.1.mpr (.inr hp)
    rw [hst] at hact
    cases hact
  · rw [LTDC_EV_IRQHandler_not_active W hcfg (by rw [hst]; decide) hp
      fun hl => hlie.mp (hier ▸ hl)]
    rfl

/-- The start of the scenario panel returns, and leaves the system, with waits enabled,
where the reload invariant fails and the event interrupt halts. -/
theorem scenario_start_leaves_reload_pending :
    ∃ d, (ltdcStart fieldHeader scenarioConfig).run (ltdcInit zeroRegs LTDCD1) = .ok ((), d) ∧
      Reach true fieldHeader (Sys.init zeroRegs LTDCD1) ⟨d, fun _ => none, none, none⟩ ∧
      d.state = .ready ∧ ¬ ReloadInvariant ⟨d, fun _ => none, none, none⟩ ∧
      ∃ s', Step true fieldHeader ⟨d, fun _ => none, none, none⟩ s' ∧
        s'.halt = some (.panic "LTDC_EV_IRQHandler(), #2") :=
  ⟨_, rfl, ltdcStart_breaks_reload_invariant true fieldHeader scenarioConfig zeroRegs LTDCD1 _ rfl⟩

/-! ## Interrupt sources and their callbacks -/


/-- `LTDC_EV_IRQHandler` with `LIF` raised and enabled, in a configuration without a
line callback, halts at its callback check. -/
theorem LTDC_EV_IRQHandler_no_line_isr (W : Bool) {d : LTDCDriver} {C : LTDCConfig}
    (hc : d.config = some C) (hC : C.line_isr = none) (hp : Pending d LTDC_ISR_LIF LTDC_IER_LIE) :
    (LTDC_EV_IRQHandler W).run d = .error (.panic "LTDC_EV_IRQHandler(), #1") := by
  simp only [LTDC_EV_IRQHandler, ne_eq, ltdcConfig, pure_bind, bind_assoc, StateT.run_bind,
    StateT.run_get, hp.1, not_false_eq_true, hp.2, and_self, ↓reduceIte, chDbgAssert_run, ite_not,
    modifyHw_run, ok_bind, hc, StateT.run_pure, hC, error_bind]

/-- For either setting of `LTDC_USE_WAIT` and every configuration without a line
callback, a start that returns from `ltdcInit` enables each of the line, underrun and
transfer-error sources exactly when it has a callback. Yet a thread that then calls
`ltdcEnableLineInterruptI` leaves a reachable system running the configuration with
the line source enabled; the controller raises `LIF`, and the event interrupt halts at
its callback check. -/
theorem ltdcEnableLineInterruptI_without_callback (W : Bool) (H : LtdcHeader) (C : LTDCConfig)
    (hC : C.line_isr = none) (reset : Regs) (d₀ d : LTDCDriver)
    (h : (ltdcStart H C).run (ltdcInit reset d₀) = .ok ((), d)) :
    (d.hw.IER &&& LTDC_IER_LIE ≠ 0 ↔ C.line_isr ≠ none) ∧
      (d.hw.IER &&& LTDC_IER_FUIE ≠ 0 ↔ C.fuerr_isr ≠ none) ∧
      (d.hw.IER &&& LTDC_IER_TERRIE ≠ 0 ↔ C.terr_isr ≠ none) ∧
      ∃ s, Reach W H (Sys.init reset d₀) s ∧ s.d.config = some C ∧
        s.d.hw.IER &&& LTDC_IER_LIE ≠ 0 ∧
        ∃ s₁ s₂, Step W H s s₁ ∧ Step W H s₁ s₂ ∧
          s₂.halt = some (.panic "LTDC_EV_IRQHandler(), #1") := by
  obtain ⟨-, hcfg, -, hier, -, -⟩ := ltdcStart_run_ok h
  obtain ⟨-, hlie, hfuie, hterrie⟩ := ltdcStartFlags_bits C
  have hlie' : ∀ x, (x ||| LTDC_IER_LIE) &&& LTDC_IER_LIE ≠ 0 := fun x => by
    rw [lor_and_self]
    decide
  have hstart : Reach W H _ _ := reach_call false (s := Sys.init reset d₀) (t := 0) (.start C)
    (ltdcStartCall_plain H C) rfl rfl h
  have henable : Reach W H _ _ := reach_call false (s := ⟨d, fun _ => none, none, none⟩) (t := 0)
    .enableLineInterrupt trivial rfl rfl rfl
  refine ⟨hier ▸ hlie, hier ▸ hfuie, hier ▸ hterrie, _, hstart.trans henable, hcfg, hlie' _,
    _, _, .raise _ LTDC_ISR_LIF rfl (.inl rfl), .ev _ rfl rfl (.inl ⟨hlie' _, hlie' _⟩), ?_⟩
  exact congrArg (fun r => (Sys.afterIsr _ r).halt)
    (LTDC_EV_IRQHandler_no_line_isr W (d := { d with hw := { d.hw with
      IER := d.hw.IER ||| LTDC_IER_LIE, ISR := d.hw.ISR ||| LTDC_ISR_LIF } }) hcfg hC ⟨hlie' _, hlie' _⟩)

/-- After the start of the scenario panel, which has no line callback, enabling the
line interrupt and a raised `LIF` halt the event interrupt. -/
theorem scenario_line_interrupt_without_callback :
    ∃ d, (ltdcStart fieldHeader scenarioConfig).run (ltdcInit zeroRegs LTDCD1) = .ok ((), d) ∧
      (d.hw.IER &&& LTDC_IER_LIE ≠ 0 ↔ scenarioConfig.line_isr ≠ none) ∧
      (d.hw.IER &&& LTDC_IER_FUIE ≠ 0 ↔ scenarioConfig.fuerr_isr ≠ none) ∧
      (d.hw.IER &&& LTDC_IER_TERRIE ≠ 0 ↔ scenarioConfig.terr_isr ≠ none) ∧
      ∃ s, Reach true fieldHeader (Sys.init zeroRegs LTDCD1) s ∧ s.d.config = some scenarioConfig ∧
        s.d.hw.IER &&& LTDC_IER_LIE ≠ 0 ∧
        ∃ s₁ s₂, Step true fieldHeader s s₁ ∧ Step true fieldHeader s₁ s₂ ∧
          s₂.halt = some (.panic "LTDC_EV_IRQHandler(), #1") :=
  ⟨_, rfl, ltdcEnableLineInterruptI_without_callback true fieldHeader scenarioConfig rfl zeroRegs
    LTDCD1 _ rfl⟩

end Ltdc
