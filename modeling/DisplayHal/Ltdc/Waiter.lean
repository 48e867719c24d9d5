import DisplayHal.Ltdc.System

/-!
# The waiter of the reload interrupt

With `LTDC_USE_WAIT`, `ltdcReloadS` of a reload at the next vertical blank registers the
calling thread in `ltdcp->thread` and sleeps; `LTDC_EV_IRQHandler`, on `RRIF`, takes the
thread out of the slot and readies it with `chSchReadyI`, which is only sound for a
thread that is asleep.

Every call in progress keeps the waiter slot except at one point: `ltdcReloadS`'s
registration of its own thread, right after its check that the slot is empty and in the
same locked stretch as the sleep that follows it (`Call.Registers`), and only
`ltdcReload(false)` with waits enabled has a sleep at all (`Api.call_sleeps`). The
interrupt handlers only ever empty the slot. So in every run from `ltdcInit`, with any
number of threads and any interleaving of their calls with the controller and the
interrupts, the slot names a thread only while it is asleep in `ltdcReload(false)`
(`WaiterInv`, `ltdc_waiter_asleep`), and no step puts a thread in the slot in place of
another (`ltdc_waiter_never_replaced`).
-/

namespace Ltdc

/-! ## What a call does to the waiter slot -/

/-- Whether any sleep is left in a call. -/
def Call.sleeps : Call → Bool
  | .ret => false
  | .seg _ k => k.sleeps
  | .poll _ k => k.sleeps
  | .sleep _ => true

/-- Every segment of the call keeps the waiter slot, except a registration of `self`
followed at once by a sleep, which comes right after `assertNoWaiter`'s check that the
slot is empty; `checked` says that the segment before was that check. -/
def Call.Registers (self : Nat) : Bool → Call → Prop
  | _, .ret => True
  | checked, .seg m k => Frame LTDCDriver.thread m ∧ k.Registers self false ∨
      m = assertNoWaiter ∧ k.Registers self true ∨
      checked = true ∧ m = modify (fun d => { d with thread := some self }) ∧
        (∃ k', k = .sleep k') ∧ k.Registers self false
  | _, .poll _ k => k.Registers self false
  | _, .sleep k => k.Registers self false

namespace Call.Registers

variable {self : Nat} {checked : Bool}

theorem ret : Call.ret.Registers self checked := trivial

theorem seg {m : DriverM Unit} {k : Call} (hm : Frame LTDCDriver.thread m) (hk : k.Registers self false) :
    (Call.seg m k).Registers self checked := .inl ⟨hm, hk⟩

theorem check {k : Call} (hk : k.Registers self true) :
    (Call.seg assertNoWaiter k).Registers self checked := .inr (.inl ⟨rfl, hk⟩)

theorem register {k : Call} (hk : k.Registers self false) :
    (Call.seg (modify fun d => { d with thread := some self }) (.sleep k)).Registers self true :=
  .inr (.inr ⟨rfl, rfl, ⟨k, rfl⟩, hk⟩)

theorem poll {mask : Nat} {k : Call} (hk : k.Registers self false) :
    (Call.poll mask k).Registers self checked := hk

end Call.Registers

theorem Frame.thread_modifyHw (g : Regs → Regs) : Frame LTDCDriver.thread (modifyHw g) :=
  Frame.modify fun _ => rfl

theorem Frame.thread_setState (st : LtdcState) : Frame LTDCDriver.thread (setState st) :=
  Frame.modify fun _ => rfl

theorem Frame.thread_onLayer {β : Type} (L : LayerId) (m : LayerCtx → LayerM β) :
    Frame LTDCDriver.thread (onLayer L m) :=
  Frame.layerMethod L m fun _ _ => rfl

theorem Frame.discard {σ ε α β : Type} {f : σ → α} {m : StateT σ (Except ε) β} (hm : Frame f m) :
    Frame f (Functor.discard m) := by
  intro s b s' h
  rw [show Functor.discard m = (fun _ => PUnit.unit) <$> m from rfl, StateT.run_map] at h
  cases hr : m.run s with
  | error e => rw [hr] at h; cases h
  | ok p => rw [hr] at h; cases h; exact hm s p.1 p.2 hr

theorem Frame.thread_ltdcStartReloadI (immediately : Bool) :
    Frame LTDCDriver.thread (ltdcStartReloadI immediately) :=
  Frame.bind Frame.get fun _ => Frame.bind (Frame.chDbgAssert _ _) fun _ =>
    Frame.bind (Frame.thread_setState _) fun _ => Frame.ite (Frame.thread_modifyHw _) (Frame.thread_modifyHw _)

theorem Frame.thread_assertNoWaiter : Frame LTDCDriver.thread assertNoWaiter :=
  Frame.bind Frame.get fun _ => Frame.chDbgAssert _ _

theorem assertNoWaiter_run_ok {d d' : LTDCDriver} {u : Unit} (h : assertNoWaiter.run d = .ok (u, d')) :
    d' = d ∧ d.thread = none := by
  by_cases hn : d.thread = none <;>
    simp only [assertNoWaiter, StateT.run_bind, StateT.run_get, chDbgAssert_run, hn, ↓reduceIte,
      pure_bind, Except.ok.injEq, Prod.mk.injEq, reduceCtorEq] at h
  exact ⟨h.2.symm, hn⟩

theorem Frame.thread_ltdcStartTimings (H : LtdcHeader) (C : LTDCConfig) :
    Frame LTDCDriver.thread (ltdcStartTimings H C) :=
  fun d b d' h => congrArg (fun p => p.2.2.1) (ltdcStartTimings_frame H C d b d' h)

theorem Frame.thread_ltdcStartBegin (C : LTDCConfig) : Frame LTDCDriver.thread (ltdcStartBegin C) :=
  Frame.bind Frame.get fun _ => Frame.bind (Frame.chDbgAssert _ _) fun _ =>
    Frame.bind (Frame.modify fun _ => rfl) fun _ => Frame.thread_modifyHw _

theorem Call.registers_ltdcReloadSCall (W : Bool) (self : Nat) (immediately : Bool)
    {pre post : DriverM Unit} (hpre : Frame LTDCDriver.thread pre) (hpost : Frame LTDCDriver.thread post) :
    (ltdcReloadSCall W self immediately pre post).Registers self false := by
  have hr := Frame.thread_ltdcStartReloadI immediately
  unfold ltdcReloadSCall
  split
  · split
    · exact .seg hpre <| .seg hr <| .seg Frame.thread_assertNoWaiter <| .poll <|
        .seg (Frame.thread_setState _) <| .seg hpost .ret
    · exact .seg hpre <| .seg hr <| .check <| .register <| .seg hpost .ret
  · exact .seg hpre <| .seg hr <| .poll <| .seg (Frame.thread_setState _) <| .seg hpost .ret

/-- Every public operation's call registers at most its own thread, right before it
sleeps. -/
theorem Api.call_registers (W : Bool) (H : LtdcHeader) (self : Nat) (a : Api) :
    (a.call W H self).Registers self false := by
  have hmod := Frame.thread_modifyHw
  cases a with
  | start C =>
    exact .seg (Frame.thread_ltdcStartBegin C) <| .seg (hmod _) <| .poll <|
      .seg (Frame.thread_ltdcStartTimings H C) <| .seg (hmod _) <|
      .seg (hmod _) <| .seg (Frame.thread_onLayer _ _) <| .seg (Frame.thread_onLayer _ _) <|
      .seg (hmod _) <| .seg (hmod _) <| .poll <| .seg (hmod _) <| .seg (hmod _) <| .poll <|
      .seg (Frame.thread_setState _) .ret
  | stop =>
    have hpre : Frame LTDCDriver.thread (do
        chDbgAssert ((← get).state = .ready) (.panic "ltdcStop(), #1")
        modifyHw fun r => { r with GCR := r.GCR &&& compl32 LTDC_GCR_LTDCEN, IER := 0 }) :=
      Frame.bind Frame.get fun _ => Frame.bind (Frame.chDbgAssert _ _) fun _ => hmod _
    show (ltdcStopCall W self).Registers self false
    unfold ltdcStopCall
    split
    · exact Call.registers_ltdcReloadSCall _ _ _ hpre (Frame.thread_setState _)
    · exact .seg hpre <| .seg (Frame.thread_ltdcStartReloadI _) <| .poll <|
        .seg (Frame.thread_setState _) .ret
  | startReload immediately => exact .seg (Frame.thread_ltdcStartReloadI _) .ret
  | reload immediately => exact Call.registers_ltdcReloadSCall _ _ _ (Frame.pure _) (Frame.pure _)
  | layer L op =>
    cases L
    · exact .seg (Frame.discard (ltdcBgOp_eq_onLayer H op ▸ Frame.thread_onLayer _ _)) .ret
    · exact .seg (Frame.discard (ltdcFgOp_eq_onLayer H op ▸ Frame.thread_onLayer _ _)) .ret
  | _ => exact .seg (hmod _) .ret

/-- Only `ltdcReload(false)` with waits enabled sleeps. -/
theorem Api.call_sleeps (W : Bool) (H : LtdcHeader) (self : Nat) (a : Api)
    (h : (a.call W H self).sleeps = true) : W = true ∧ a = .reload false := by
  cases a with
  | stop => cases W <;> cases h
  | reload immediately => cases W <;> cases immediately <;> first | exact ⟨rfl, rfl⟩ | cases h
  | layer L => cases L <;> cases h
  | _ => cases h

/-! ## What the interrupt handlers do to the waiter slot -/

/-- `m` returns only in a state that `R` relates to the one it started in. -/
def Keeps {σ ε β : Type} (R : σ → σ → Prop) (m : StateT σ (Except ε) β) : Prop :=
  ∀ s b s', m.run s = .ok (b, s') → R s s'

namespace Keeps

variable {σ ε α β γ : Type} {R : σ → σ → Prop}

theorem of_frame {f : σ → α} (hR : ∀ s s', f s' = f s → R s s') {m : StateT σ (Except ε) β}
    (hm : Frame f m) : Keeps R m :=
  fun s b s' h => hR s s' (hm s b s' h)

theorem bind [IsTrans σ R] {m : StateT σ (Except ε) β} {k : β → StateT σ (Except ε) γ}
    (hm : Keeps R m) (hk : ∀ b, Keeps R (k b)) : Keeps R (m >>= k) := by
  intro s c s' h
  obtain ⟨b, s₁, h₁, h₂⟩ := run_bind_ok h
  exact IsTrans.trans _ _ _ (hm _ _ _ h₁) (hk b _ _ _ h₂)

theorem ite {c : Prop} [Decidable c] {a b : StateT σ (Except ε) β} (ha : Keeps R a) (hb : Keeps R b) :
    Keeps R (if c then a else b) := by
  split <;> assumption

theorem modify {g : σ → σ} (hg : ∀ s, R s (g s)) : Keeps R (modify g : StateT σ (Except ε) PUnit) := by
  intro s b s' h
  cases h
  exact hg s

end Keeps

/-- The waiter slot is kept or emptied: afterwards it names a thread only if it named
that thread before. -/
def WaiterShrinks (d d' : LTDCDriver) : Prop := ∀ t, d'.thread = some t → d.thread = some t

instance : IsTrans LTDCDriver WaiterShrinks := ⟨fun _ _ _ h₁ h₂ t h => h₁ t (h₂ t h)⟩

theorem Keeps.waiterShrinks {β : Type} {m : DriverM β} (hm : Frame LTDCDriver.thread m) :
    Keeps WaiterShrinks m :=
  Keeps.of_frame (fun _ _ h _ ht => h ▸ ht) hm

theorem Frame.ltdcConfig {α : Type} {f : LTDCDriver → α} : Frame f ltdcConfig :=
  Frame.bind Frame.get fun d => by
    intro s b s' h
    split at h <;> cases h
    rfl

/-- `LTDC_EV_IRQHandler` keeps the waiter slot, or empties it when it handles `RRIF`. -/
theorem LTDC_EV_IRQHandler_waiter (W : Bool) : Keeps WaiterShrinks (LTDC_EV_IRQHandler W) := by
  have fr : ∀ {β} {m : DriverM β}, Frame LTDCDriver.thread m → Keeps WaiterShrinks m :=
    Keeps.waiterShrinks
  have hclear : Keeps WaiterShrinks (modify fun d : LTDCDriver => { d with thread := none } : DriverM PUnit) :=
    Keeps.modify fun _ _ h => by cases h
  have rest := Keeps.bind (fr (Frame.thread_setState .ready)) fun _ => fr (Frame.thread_modifyHw
    fun r => { r with ISR := r.ISR &&& compl32 LTDC_ISR_RRIF })
  unfold LTDC_EV_IRQHandler
  refine Keeps.bind (fr Frame.get) fun _ => ?_
  dsimp only
  refine Keeps.ite (Keeps.bind (fr Frame.ltdcConfig) fun _ => Keeps.bind (fr (Frame.chDbgAssert _ _))
    fun _ => Keeps.bind (fr (Frame.thread_modifyHw _)) fun _ => ?_)
    (Keeps.bind (fr (Frame.pure _)) fun _ => ?_) <;>
  exact Keeps.bind (fr Frame.get) fun _ => Keeps.ite (Keeps.bind (fr Frame.ltdcConfig) fun _ =>
    Keeps.bind (fr (Frame.chDbgAssert _ _)) fun _ => Keeps.ite (Keeps.bind hclear fun _ => rest)
      (Keeps.bind (fr (Frame.pure _)) fun _ => rest)) (fr (Frame.pure _))

/-- `LTDC_ER_IRQHandler` keeps the waiter slot. -/
theorem LTDC_ER_IRQHandler_waiter : Keeps WaiterShrinks LTDC_ER_IRQHandler := by
  have fr : ∀ {β} {m : DriverM β}, Frame LTDCDriver.thread m → Keeps WaiterShrinks m :=
    Keeps.waiterShrinks
  unfold LTDC_ER_IRQHandler
  refine Keeps.bind (fr Frame.get) fun _ => ?_
  dsimp only
  refine Keeps.ite (Keeps.bind (fr Frame.ltdcConfig) fun _ => Keeps.bind (fr (Frame.chDbgAssert _ _))
    fun _ => Keeps.bind (fr (Frame.thread_modifyHw _)) fun _ => ?_)
    (Keeps.bind (fr (Frame.pure _)) fun _ => ?_) <;>
  exact Keeps.bind (fr Frame.get) fun _ => Keeps.ite (Keeps.bind (fr Frame.ltdcConfig) fun _ =>
    Keeps.bind (fr (Frame.chDbgAssert _ _)) fun _ => fr (Frame.thread_modifyHw _)) (fr (Frame.pure _))

/-! ## A thread's run inside its call -/

theorem Call.exec_sleep_waiting (self : Nat) (k : Call) {d : LTDCDriver} (h : d.thread = some self) :
    ((Call.sleep k).exec self).run d = .ok (.sleep k, d) := by
  simp [Call.exec, StateT.run_bind, h]
  rfl

theorem Call.exec_sleep_woken (self : Nat) (k : Call) {d : LTDCDriver} (h : d.thread ≠ some self) :
    ((Call.sleep k).exec self).run d = (k.exec self).run d := by
  simp [Call.exec, StateT.run_bind, h]

/-- A thread stops where its call has a rest: a property of calls that passes to the rest
of each segment, poll and sleep holds of where the thread stops. -/
theorem Call.exec_rest {P : Call → Prop} (hseg : ∀ m k, P (.seg m k) → P k)
    (hpoll : ∀ mask k, P (.poll mask k) → P k) (hsleep : ∀ k, P (.sleep k) → P k) {t : Nat}
    {c c' : Call} {d d' : LTDCDriver} (hc : P c) (h : (c.exec t).run d = .ok (c', d')) : P c' := by
  induction c generalizing d with
  | ret => cases h; exact hc
  | seg m k ih =>
    obtain ⟨_, _, -, h⟩ := run_bind_ok h
    exact ih (hseg _ _ hc) h
  | poll mask k ih =>
    by_cases hp : d.hw.SRCR &&& mask = 0
    · rw [Call.exec_poll_clear t mask k hp] at h
      exact ih (hpoll _ _ hc) h
    · rw [Call.exec_poll_pending t mask k hp] at h
      cases h
      exact hc
  | sleep k ih =>
    by_cases hw : d.thread = some t
    · rw [Call.exec_sleep_waiting t k hw] at h
      cases h
      exact hc
    · rw [Call.exec_sleep_woken t k hw] at h
      exact ih (hsleep _ hc) h

/-- A thread's run inside a call that registers only itself, right after the check that
the slot is empty and right before a sleep, keeps the waiter slot or fills the empty slot
with itself and ends asleep; what is left of the call registers in the same way. -/
theorem Call.exec_thread {t : Nat} {b : Bool} {c c' : Call} {d d' : LTDCDriver} (hc : c.Registers t b)
    (hb : b = true → d.thread = none) (h : (c.exec t).run d = .ok (c', d')) :
    (d'.thread = d.thread ∨ d.thread = none ∧ d'.thread = some t ∧ ∃ k, c' = .sleep k) ∧
      c'.Registers t false := by
  induction c generalizing b d with
  | ret => cases h; exact ⟨.inl rfl, trivial⟩
  | seg m k ih =>
    obtain ⟨_, d₁, h₁, h₂⟩ := run_bind_ok h
    rcases hc with ⟨hm, hk⟩ | ⟨rfl, hk⟩ | ⟨rfl, rfl, ⟨k', rfl⟩, hk⟩
    · rw [← hm _ _ _ h₁]
      exact ih hk nofun h₂
    · obtain ⟨rfl, hn⟩ := assertNoWaiter_run_ok h₁
      exact ih hk (fun _ => hn) h₂
    · simp only [StateT.run_modify] at h₁
      cases h₁
      rw [Call.exec_sleep_waiting t k' rfl] at h₂
      cases h₂
      exact ⟨.inr ⟨hb rfl, rfl, k', rfl⟩, hk⟩
  | poll mask k ih =>
    by_cases hp : d.hw.SRCR &&& mask = 0
    · rw [Call.exec_poll_clear t mask k hp] at h
      exact ih hc nofun h
    · rw [Call.exec_poll_pending t mask k hp] at h
      cases h
      exact ⟨.inl rfl, hc⟩
  | sleep k ih =>
    by_cases hw : d.thread = some t
    · rw [Call.exec_sleep_waiting t k hw] at h
      cases h
      exact ⟨.inl rfl, hc⟩
    · rw [Call.exec_sleep_woken t k hw] at h
      exact ih hc nofun h

/-! ## Runs of the reload protocol -/

/-- A commit of a pending request raises `RRIF`, and leaves `IER` as it was. -/
theorem Pending.commit {d : LTDCDriver} {bits : Nat} (h : d.hw.SRCR &&& bits ≠ 0)
    (hie : d.hw.IER &&& LTDC_IER_RRIE ≠ 0) :
    Pending (d.withHw (d.hw.commit bits)) LTDC_ISR_RRIF LTDC_IER_RRIE := by
  refine ⟨?_, by simpa [LTDCDriver.withHw] using hie⟩
  show (d.hw.commit bits).ISR &&& LTDC_ISR_RRIF ≠ 0
  rw [Regs.commit_ISR h, lor_and_self]
  decide

theorem Step.run_ok {W : Bool} {H : LtdcHeader} {s : Sys} {t : Nat} {a : Api} {c c' : Call}
    {d' : LTDCDriver} (hs : s.halt = none) (ht : s.calls t = some (a, c))
    (h : (c.exec t).run s.d = .ok (c', d')) : Step W H s (s.resume t a (.ok (c', d'))) :=
  h ▸ Step.run s t a c hs ht

/-- `ltdcReload(false)` with waits enabled, from a `READY` driver with no waiter: the
calling thread asks for a reload at the next vertical blank, turns the driver `ACTIVE`,
registers itself and sleeps. -/
theorem ltdcReloadS_vbr_exec (H : LtdcHeader) (self : Nat) {d : LTDCDriver} (hst : d.state = .ready)
    (ht : d.thread = none) :
    (((Api.reload false).call true H self).exec self).run d =
      .ok (.sleep (.seg (pure ()) .ret), { d with
        state := .active, thread := some self, hw := { d.hw with SRCR := d.hw.SRCR ||| LTDC_SRCR_VBR } }) := by
  simp [Api.call, ltdcReloadSCall, Call.exec, StateT.run_bind, ltdcStartReloadI, assertNoWaiter, hst, ht]

/-- After a start that returns from `ltdcInit`, with waits enabled, thread 0 calls
`ltdcReload(false)` and runs until it sleeps, registered, with its `VBR` request made. -/
theorem reload_vbr_asleep (H : LtdcHeader) (C : LTDCConfig) (reset : Regs) (d₀ d : LTDCDriver)
    (h : (ltdcStart H C).run (ltdcInit reset d₀) = .ok ((), d)) :
    Reach true H (Sys.init reset d₀)
        ⟨d, Function.update (fun _ => none) 0 (some (.reload false, (Api.reload false).call true H 0)),
          none, none⟩ ∧
      Step true H
        ⟨d, Function.update (fun _ => none) 0 (some (.reload false, (Api.reload false).call true H 0)),
          none, none⟩
        ⟨{ d with state := .active, thread := some 0, hw := { d.hw with SRCR := d.hw.SRCR ||| LTDC_SRCR_VBR } },
          Function.update (fun _ => none) 0 (some (.reload false, .sleep (.seg (pure ()) .ret))), none, none⟩ := by
  obtain ⟨hst, -, hthr, -⟩ := ltdcStart_run_ok h
  have h₁ : Reach true H _ _ := reach_call false (s := Sys.init reset d₀) (t := 0) (.start C)
    (ltdcStartCall_plain H C) rfl rfl h
  refine ⟨h₁.tail (.call ⟨d, fun _ => none, none, none⟩ 0 (.reload false) rfl rfl), ?_⟩
  have h₃ := @Step.run true H ⟨d, Function.update (fun _ => none) 0
    (some (.reload false, (Api.reload false).call true H 0)), none, none⟩ 0 (.reload false)
    ((Api.reload false).call true H 0) rfl (by simp)
  rw [ltdcReloadS_vbr_exec H 0 hst hthr] at h₃
  convert h₃ using 2
  exact (Function.update_idem _ _ _).symm

/-! ## The waiter invariant -/

theorem Sys.resume_ok_d (s : Sys) (t : Nat) (a : Api) (c : Call) (d : LTDCDriver) :
    (s.resume t a (.ok (c, d))).d = d := by
  cases c <;> rfl

theorem Sys.resume_ok_calls_self {s : Sys} {t : Nat} {a : Api} {c : Call} {d : LTDCDriver}
    {x : Api × Call} (h : (s.resume t a (.ok (c, d))).calls t = some x) : x = (a, c) := by
  cases c <;> simp [Sys.resume] at h <;> exact h.symm

theorem Sys.resume_ok_sleep (s : Sys) (t : Nat) (a : Api) (k : Call) (d : LTDCDriver) :
    (s.resume t a (.ok (.sleep k, d))).calls t = some (a, .sleep k) := by
  simp [Sys.resume]

/-- The call a thread is in after thread `t` has entered `v`: `v`, or the one it was in. -/
theorem Sys.update_calls {s : Sys} {t u : Nat} {v x : Api × Call}
    (h : Function.update s.calls t (some v) u = some x) :
    u = t ∧ x = v ∨ u ≠ t ∧ s.calls u = some x := by
  by_cases e : u = t
  · subst e
    rw [Function.update_same, Option.some.injEq] at h
    exact .inl ⟨rfl, h.symm⟩
  · exact .inr ⟨e, (Function.update_noteq e _ _).symm.trans h⟩

/-- The call a thread is in after thread `t` has run on: what is left of `t`'s, or the
one it was in. -/
theorem Sys.resume_calls {s : Sys} {t u : Nat} {a : Api} {c' : Call} {d' : LTDCDriver}
    {x : Api × Call} (h : (s.resume t a (.ok (c', d'))).calls u = some x) :
    u = t ∧ x = (a, c') ∨ u ≠ t ∧ s.calls u = some x := by
  by_cases e : u = t
  · subst e
    exact .inl ⟨rfl, Sys.resume_ok_calls_self h⟩
  · exact .inr ⟨e, (Sys.resume_calls_of_ne _ _ _ e).symm.trans h⟩

/-- What holds of the system in every run: each call in progress registers at most its
own thread, right after finding the slot empty and right before a sleep; a sleep is left only in `ltdcReload(false)` with waits
enabled; and the waiter slot names a thread asleep in its call. -/
structure WaiterInv (W : Bool) (s : Sys) : Prop where
  registers : ∀ t a c, s.calls t = some (a, c) → c.Registers t false
  sleeps : ∀ t a c, s.calls t = some (a, c) → c.sleeps = true → W = true ∧ a = .reload false
  waiter : ∀ t, s.d.thread = some t → ∃ a k, s.calls t = some (a, .sleep k)

theorem WaiterInv.init (W : Bool) (reset : Regs) (d₀ : LTDCDriver) : WaiterInv W (Sys.init reset d₀) :=
  ⟨fun _ _ _ h => (by cases h), fun _ _ _ h => (by cases h), fun _ h => (by cases h)⟩

/-- A step of a thread, of the controller or of an interrupt keeps the waiter invariant. -/
theorem Step.waiterInv {W : Bool} {H : LtdcHeader} {s s' : Sys} (hs : Step W H s s')
    (hi : WaiterInv W s) : WaiterInv W s' := by
  cases hs with
  | call t a _ ht =>
    refine ⟨fun t' a' c' h => ?_, fun t' a' c' h => ?_, fun t' h => ?_⟩
    · rcases Sys.update_calls h with ⟨rfl, e⟩ | ⟨-, h⟩
      · cases e
        exact Api.call_registers W H t' a
      · exact hi.registers t' a' c' h
    · rcases Sys.update_calls h with ⟨rfl, e⟩ | ⟨-, h⟩
      · cases e
        exact Api.call_sleeps W H t' a
      · exact hi.sleeps t' a' c' h
    · obtain ⟨a', k, hk⟩ := hi.waiter t' h
      have e : t' ≠ t := fun e => by rw [e, ht] at hk; cases hk
      exact ⟨a', k, (Function.update_noteq e _ _).trans hk⟩
  | run t a c _ ht =>
    cases hr : (c.exec t).run s.d with
    | error e => exact ⟨hi.1, hi.2, hi.3⟩
    | ok p =>
      obtain ⟨c', d'⟩ := p
      have hreg := Call.exec_thread (hi.registers t a c ht) nofun hr
      refine ⟨fun t' a' c'' h => ?_, fun t' a' c'' h => ?_, fun t₀ h => ?_⟩
      · rcases Sys.resume_calls h with ⟨rfl, e⟩ | ⟨-, h⟩
        · cases e
          exact hreg.2
        · exact hi.registers t' a' c'' h
      · rcases Sys.resume_calls h with ⟨-, e⟩ | ⟨-, h⟩
        · cases e
          exact Call.exec_rest (P := fun c => c.sleeps = true → W = true ∧ a = .reload false)
            (fun _ _ h => h) (fun _ _ h => h) (fun _ h _ => h rfl) (hi.sleeps t a c ht) hr
        · exact hi.sleeps t' a' c'' h
      · rw [Sys.resume_ok_d] at h
        rcases hreg.1 with hkeep | ⟨-, hself, k, rfl⟩
        · obtain ⟨a₀, k₀, hk₀⟩ := hi.waiter t₀ (hkeep ▸ h)
          by_cases e : t₀ = t
          · subst e
            rw [ht] at hk₀
            cases hk₀
            rw [Call.exec_sleep_waiting _ _ (hkeep ▸ h)] at hr
            cases hr
            exact ⟨a, k₀, Sys.resume_ok_sleep _ _ _ _ _⟩
          · exact ⟨a₀, k₀, (Sys.resume_calls_of_ne _ _ _ e).trans hk₀⟩
        · rw [hself] at h
          cases h
          exact ⟨a, k, Sys.resume_ok_sleep _ _ _ _ _⟩
  | commit => exact ⟨hi.1, hi.2, hi.3⟩
  | raise => exact ⟨hi.1, hi.2, hi.3⟩
  | ev _ _ _ =>
    cases hr : (LTDC_EV_IRQHandler W).run s.d with
    | error e => exact ⟨hi.1, hi.2, hi.3⟩
    | ok p => exact ⟨hi.1, hi.2, fun t h => hi.waiter t (LTDC_EV_IRQHandler_waiter W _ _ _ hr t h)⟩
  | er _ _ _ =>
    cases hr : LTDC_ER_IRQHandler.run s.d with
    | error e => exact ⟨hi.1, hi.2, hi.3⟩
    | ok p => exact ⟨hi.1, hi.2, fun t h => hi.waiter t (LTDC_ER_IRQHandler_waiter _ _ _ hr t h)⟩

theorem Reach.waiterInv {W : Bool} {H : LtdcHeader} {s s' : Sys} (hs : Reach W H s s')
    (hi : WaiterInv W s) : WaiterInv W s' := by
  induction hs with
  | refl => exact hi
  | tail _ hst ih => exact hst.waiterInv ih

/-- In every run from `ltdcInit`, for either setting of `LTDC_USE_WAIT`, with any number
of threads and any interleaving of their calls with the controller's commits and flags
and the interrupt handlers: whenever the waiter slot names a thread, waits are enabled
and that thread is asleep inside `ltdcReload(false)`. The reload interrupt therefore
only ever readies a thread that sleeps. -/
theorem ltdc_waiter_asleep (W : Bool) (H : LtdcHeader) (reset : Regs) (d₀ : LTDCDriver) {s : Sys}
    (hs : Reach W H (Sys.init reset d₀) s) {t : Nat} (ht : s.d.thread = some t) :
    W = true ∧ ∃ k, s.calls t = some (.reload false, .sleep k) := by
  have hi := hs.waiterInv (WaiterInv.init W reset d₀)
  obtain ⟨a, k, hk⟩ := hi.waiter t ht
  obtain ⟨hW, rfl⟩ := hi.sleeps t a _ hk rfl
  exact ⟨hW, k, hk⟩

/-- With waits enabled, once the scenario panel has started, thread 0 asleep in
`ltdcReload(false)` is the one the slot names. -/
theorem scenario_waiter_asleep :
    ∃ s, Reach true fieldHeader (Sys.init zeroRegs LTDCD1) s ∧ s.d.thread = some 0 ∧
      (true = true ∧ ∃ k, s.calls 0 = some (.reload false, .sleep k)) := by
  obtain ⟨h₂, h₃⟩ := reload_vbr_asleep fieldHeader scenarioConfig zeroRegs LTDCD1 _ rfl
  exact ⟨_, h₂.tail h₃, rfl, ltdc_waiter_asleep true fieldHeader zeroRegs LTDCD1 (h₂.tail h₃) rfl⟩

/-! ## The slot is never overwritten -/

theorem WaiterShrinks.kept {d d' : LTDCDriver} (h : WaiterShrinks d d') {t : Nat}
    (ht : d.thread = some t) : d'.thread = some t ∨ d'.thread = none := by
  cases e : d'.thread with
  | none => exact .inr rfl
  | some u => exact .inl ((h u e).symm.trans ht)

/-- Under the waiter invariant no step puts a thread in the slot in place of another: a
thread's run fills only a slot it has just found empty, the controller leaves the slot
alone, and the interrupt handlers only ever empty it. -/
theorem Step.waiter_kept {W : Bool} {H : LtdcHeader} {s s' : Sys} (hs : Step W H s s')
    (hi : WaiterInv W s) {t : Nat} (ht : s.d.thread = some t) :
    s'.d.thread = some t ∨ s'.d.thread = none := by
  cases hs with
  | call => exact .inl ht
  | run t' a c _ hc =>
    cases hr : (c.exec t').run s.d with
    | error e => exact .inl ht
    | ok p =>
      obtain ⟨c', d'⟩ := p
      rw [Sys.resume_ok_d]
      rcases (Call.exec_thread (hi.registers t' a c hc) nofun hr).1 with hkeep | ⟨hn, -⟩
      · exact .inl (hkeep.trans ht)
      · rw [ht] at hn
        cases hn
  | commit => exact .inl ht
  | raise => exact .inl ht
  | ev _ _ _ =>
    cases hr : (LTDC_EV_IRQHandler W).run s.d with
    | error e => exact .inl ht
    | ok p => exact WaiterShrinks.kept (LTDC_EV_IRQHandler_waiter W _ _ _ hr) ht
  | er _ _ _ =>
    cases hr : LTDC_ER_IRQHandler.run s.d with
    | error e => exact .inl ht
    | ok p => exact WaiterShrinks.kept (LTDC_ER_IRQHandler_waiter _ _ _ hr) ht

/-- In every run from `ltdcInit`, for either setting of `LTDC_USE_WAIT`, with any number
of threads and any interleaving of their calls with the controller and the interrupts: no
step puts a thread in the waiter slot in place of another. A thread parked in the slot
stays there until an interrupt handler takes it out, so its wake-up is never lost to a
second wait, which halts instead. -/
theorem ltdc_waiter_never_replaced (W : Bool) (H : LtdcHeader) (reset : Regs) (d₀ : LTDCDriver)
    {s s' : Sys} (hr : Reach W H (Sys.init reset d₀) s) (hs : Step W H s s') {t : Nat}
    (ht : s.d.thread = some t) : s'.d.thread = some t ∨ s'.d.thread = none :=
  hs.waiter_kept (hr.waiterInv (WaiterInv.init W reset d₀)) ht

/-- With waits enabled, once the scenario panel has started and thread 0 is parked in
`ltdcReload(false)`, thread 1's `ltdcReload(false)` halts at its state check and the slot
still names thread 0. -/
theorem scenario_second_wait_halts :
    ∃ s s', Reach true fieldHeader (Sys.init zeroRegs LTDCD1) s ∧ s.d.thread = some 0 ∧
      Step true fieldHeader s s' ∧ s'.halt = some (.panic "ltdcStartReloadI(), #1") ∧
      (s'.d.thread = some 0 ∨ s'.d.thread = none) := by
  obtain ⟨h₂, h₃⟩ := reload_vbr_asleep fieldHeader scenarioConfig zeroRegs LTDCD1 _ rfl
  have h₄ := (h₂.tail h₃).tail (.call _ 1 (.reload false) rfl rfl)
  refine ⟨_, _, h₄, rfl, .run _ 1 (.reload false) _ rfl rfl, rfl, ?_⟩
  exact ltdc_waiter_never_replaced true fieldHeader zeroRegs LTDCD1 h₄
    (.run _ 1 (.reload false) _ rfl rfl) rfl

end Ltdc
