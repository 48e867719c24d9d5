import DisplayHal.Ltdc.Timings

/-!
# The error interrupt returns in every run with serialised starts

`LTDC_ER_IRQHandler` asserts, for the FIFO-underrun and the transfer-error sources, that
a raised and enabled flag has its callback in the running configuration, and it halts
on a `NULL` configuration before that. It returns, whatever flags are raised, as soon as
every enabled error source has its callback (`ErrSafe`, `LTDC_ER_IRQHandler_returns`).

`ErrSafe` is kept along every run in which no thread calls `ltdcStart` while another is
inside it:

* `ltdcInit` leaves the reset's interrupt sources, all off;
* the first stretch of `ltdcStart` sets the configuration and turns every source off
  (`ltdcStartBegin_keeps`); its stretch that programs `IER` enables an error source
  exactly when the configuration has its callback (`ltdcStartFlags_keeps`), and in
  between, nothing changes the configuration (`StartKept`, `ErrPos`);
* every other call keeps the configuration and the two error sources, or turns every
  source off (`ltdcStop`); `ltdcEnableLineInterruptI` and `ltdcDisableLineInterruptI`
  write `LIE` alone (`ErrKept`, `Api.call_errKept`);
* the reloads, the controller's commits and the interrupt handlers keep the setup
  (`LTDCDriver.sources_of_setup`).

So from `ltdcInit`, in every such run, the error interrupt returns whenever it runs
(`ltdc_error_isr_returns`). The line source has no such guarantee: it can be enabled
without its callback (`ltdcEnableLineInterruptI_without_callback`). The starts must be
serialised: a second start passes the state check while the first waits at a poll and
sets its own configuration; the first then enables the sources of its own.
-/

namespace Ltdc

/-! ## The handler returns when the enabled error sources have callbacks -/

/-- Every enabled error source has its callback in the running configuration. -/
def ErrSafe (d : LTDCDriver) : Prop :=
  (d.hw.IER &&& LTDC_IER_FUIE ≠ 0 → ∃ C, d.config = some C ∧ C.fuerr_isr ≠ none) ∧
    (d.hw.IER &&& LTDC_IER_TERRIE ≠ 0 → ∃ C, d.config = some C ∧ C.terr_isr ≠ none)

/-- `ErrSafe` reads the configuration and the `FUIE` and `TERRIE` bits of `IER`. -/
theorem ErrSafe.of_bits {d d' : LTDCDriver} (hc : d'.config = d.config)
    (hb : ∀ m, m = LTDC_IER_FUIE ∨ m = LTDC_IER_TERRIE → d'.hw.IER &&& m = d.hw.IER &&& m)
    (h : ErrSafe d) : ErrSafe d' := by
  unfold ErrSafe
  rw [hc, hb _ (.inl rfl), hb _ (.inr rfl)]
  exact h

theorem ErrSafe.of_IER_eq_zero {d : LTDCDriver} (h : d.hw.IER = 0) : ErrSafe d := by
  unfold ErrSafe
  rw [h, Nat.zero_and, Nat.zero_and]
  exact ⟨fun h => absurd rfl h, fun h => absurd rfl h⟩

/-- The second half of `LTDC_ER_IRQHandler`, from any driver whose configuration and
`IER` are those of a driver whose enabled transfer-error source has its callback. -/
theorem LTDC_ER_IRQHandler_terr_returns {d : LTDCDriver}
    (ht : d.hw.IER &&& LTDC_IER_TERRIE ≠ 0 → ∃ C, d.config = some C ∧ C.terr_isr ≠ none)
    (d₁ : LTDCDriver) (hc : d₁.config = d.config) (hi : d₁.hw.IER = d.hw.IER) :
    ∃ d', StateT.run (if d₁.hw.ISR &&& LTDC_ISR_TERRIF ≠ 0 ∧ d₁.hw.IER &&& LTDC_IER_TERRIE ≠ 0 then do
        let c ← ltdcConfig
        chDbgAssert (c.terr_isr ≠ none) (.panic "LTDC_ER_IRQHandler(), #2")
        modifyHw fun r => { r with ISR := r.ISR &&& compl32 LTDC_ISR_TERRIF }
      else pure PUnit.unit : DriverM Unit) d₁ = .ok ((), d') := by
  split
  · next h₂ =>
    obtain ⟨C, hC, hCt⟩ := ht (hi ▸ h₂.2)
    simp [ltdcConfig, StateT.run_bind, hc, hC, hCt]
  · exact ⟨_, rfl⟩

/-- `LTDC_ER_IRQHandler` returns, whatever flags are raised, when every enabled error
source has its callback. -/
theorem LTDC_ER_IRQHandler_returns {d : LTDCDriver} (h : ErrSafe d) :
    ∃ d', LTDC_ER_IRQHandler.run d = .ok ((), d') := by
  obtain ⟨hf, ht⟩ := h
  unfold LTDC_ER_IRQHandler
  simp only [StateT.run_bind, StateT.run_get, pure_bind]
  split
  · next h₁ =>
    obtain ⟨C, hC, hCf⟩ := hf h₁.2
    simp only [ltdcConfig, StateT.run_bind, StateT.run_get, pure_bind, hC, StateT.run_pure, ok_bind,
      chDbgAssert_run, if_pos hCf, modifyHw_run]
    exact LTDC_ER_IRQHandler_terr_returns ht
      { d with config := some C, hw := { d.hw with ISR := d.hw.ISR &&& compl32 LTDC_ISR_FUIF } }
      hC.symm rfl
  · exact LTDC_ER_IRQHandler_terr_returns ht d rfl rfl

/-! ## Stretches that keep the error sources safe -/

/-- What the callback checks of the interrupt handlers read: the configuration and the
enabled sources. -/
def LTDCDriver.sources (d : LTDCDriver) : Option LTDCConfig × Nat := (d.config, d.hw.IER)

theorem LTDCDriver.sources_of_setup {d d' : LTDCDriver} (h : d'.setup = d.setup) :
    d'.sources = d.sources :=
  congrArg (fun p : Option LTDCConfig × LtdcWindow × Regs => (p.1, p.2.2.IER)) h

/-- A stretch that keeps the configuration and keeps the error sources safe. -/
def ErrKept (d d' : LTDCDriver) : Prop := d'.config = d.config ∧ (ErrSafe d → ErrSafe d')

/-- A stretch of the start of `configp` that, from a driver running `configp`, keeps it
running `configp` and keeps the error sources safe. -/
def StartKept (configp : LTDCConfig) (d d' : LTDCDriver) : Prop :=
  d.config = some configp → d'.config = some configp ∧ (ErrSafe d → ErrSafe d')

namespace ErrKept

theorem refl (d : LTDCDriver) : ErrKept d d := ⟨rfl, id⟩

theorem trans {a b c : LTDCDriver} (h₁ : ErrKept a b) (h₂ : ErrKept b c) : ErrKept a c :=
  ⟨h₂.1.trans h₁.1, h₂.2 ∘ h₁.2⟩

theorem of_sources {d d' : LTDCDriver} (h : d'.sources = d.sources) : ErrKept d d' :=
  have hc : d'.config = d.config := congrArg Prod.fst h
  ⟨hc, ErrSafe.of_bits hc fun m _ => congrArg (· &&& m) (congrArg Prod.snd h)⟩

end ErrKept

instance : IsTrans LTDCDriver ErrKept := ⟨fun _ _ _ => ErrKept.trans⟩

namespace StartKept

variable {C : LTDCConfig}

theorem refl (d : LTDCDriver) : StartKept C d d := fun h => ⟨h, id⟩

theorem trans {a b c : LTDCDriver} (h₁ : StartKept C a b) (h₂ : StartKept C b c) : StartKept C a c :=
  fun h => (h₂ (h₁ h).1).imp_right (· ∘ (h₁ h).2)

theorem of_errKept {d d' : LTDCDriver} (h : ErrKept d d') : StartKept C d d' :=
  fun hc => ⟨h.1.trans hc, h.2⟩

end StartKept

/-- Every public operation but `ltdcStart` keeps the configuration and keeps the error
sources safe: `ltdcStop` turns every source off, the line-interrupt calls write `LIE`
alone, and the others write no source. -/
theorem Api.call_errKept (W : Bool) (H : LtdcHeader) (self : Nat) (a : Api) (ha : ∀ C, a ≠ .start C) :
    (a.call W H self).Guarded ErrKept := by
  have fr : ∀ {β : Type} {m : DriverM β}, Frame LTDCDriver.sources m → Keeps ErrKept m :=
    Keeps.of_frame fun _ _ => ErrKept.of_sources
  have hs : ∀ d d' : LTDCDriver, d'.setup = d.setup → ErrKept d d' :=
    fun _ _ h => ErrKept.of_sources (LTDCDriver.sources_of_setup h)
  have hr : ∀ immediately, Keeps ErrKept (ltdcStartReloadI immediately) :=
    fun _ => Keeps.of_frame hs (Frame.setup_ltdcStartReloadI _)
  have hline : ∀ g : Nat → Nat, (∀ x m, m = LTDC_IER_FUIE ∨ m = LTDC_IER_TERRIE → g x &&& m = x &&& m) →
      Keeps ErrKept (modifyHw fun r => { r with IER := g r.IER }) :=
    fun _ hg => Keeps.modify fun _ => ⟨rfl, ErrSafe.of_bits rfl (hg _)⟩
  cases a with
  | start C => exact absurd rfl (ha C)
  | stop =>
    have hpre : Keeps ErrKept (do
        chDbgAssert ((← get).state = .ready) (.panic "ltdcStop(), #1")
        modifyHw fun r => { r with GCR := r.GCR &&& compl32 LTDC_GCR_LTDCEN, IER := 0 }) :=
      Keeps.bind (fr Frame.get) fun _ => Keeps.bind (fr (Frame.chDbgAssert _ _)) fun _ =>
        Keeps.modify fun _ => ⟨rfl, fun _ => ErrSafe.of_IER_eq_zero rfl⟩
    show (ltdcStopCall W self).Guarded _
    unfold ltdcStopCall
    split
    · exact Call.guarded_ltdcReloadSCall hs _ _ _ hpre (fr (Frame.modify fun _ => rfl))
    · exact .seg hpre <| .seg (hr _) <| .poll <| .seg (fr (Frame.modify fun _ => rfl)) .ret
  | startReload immediately => exact .seg (hr _) .ret
  | reload immediately =>
    exact Call.guarded_ltdcReloadSCall hs _ _ _ (fr (Frame.pure _)) (fr (Frame.pure _))
  | layer L op =>
    cases L
    · exact .seg (fr (Frame.discard (ltdcBgOp_eq_onLayer H op ▸ Frame.layerMethod _ _ fun _ _ => rfl))) .ret
    · exact .seg (fr (Frame.discard (ltdcFgOp_eq_onLayer H op ▸ Frame.layerMethod _ _ fun _ _ => rfl))) .ret
  | enableLineInterrupt =>
    exact .seg (hline _ fun x m hm => lor_and_of_and_eq_zero x (by rcases hm with rfl | rfl <;> decide)) .ret
  | disableLineInterrupt =>
    exact .seg (hline _ fun x m hm => and_and_of_and_eq_right x (by rcases hm with rfl | rfl <;> decide)) .ret
  | _ => exact .seg (fr (Frame.modify fun _ => rfl)) .ret

/-! ## Where a thread stands inside a start -/

/-- The first stretch of `ltdcStart configp` leaves the driver running `configp` with
every source off. -/
theorem ltdcStartBegin_keeps (C : LTDCConfig) :
    Keeps (fun _ d' => d'.config = some C ∧ ErrSafe d') (ltdcStartBegin C) := by
  intro d b d' h
  by_cases hd : d.state = .stop
  · rw [ltdcStartBegin_run hd] at h
    cases h
    exact ⟨rfl, ErrSafe.of_IER_eq_zero rfl⟩
  · simp [ltdcStartBegin, StateT.run_bind, hd] at h

/-- The stretch of `ltdcStart configp` that programs `IER` enables an error source
exactly when `configp` has its callback. -/
theorem ltdcStartFlags_keeps (C : LTDCConfig) :
    Keeps (StartKept C) (modifyHw fun r => { r with IER := ltdcStartFlags C }) := by
  obtain ⟨-, -, hfuie, hterrie⟩ := ltdcStartFlags_bits C
  exact Keeps.modify fun _ hc => ⟨hc, fun _ => ⟨fun h => ⟨C, hc, hfuie.mp h⟩, fun h => ⟨C, hc, hterrie.mp h⟩⟩⟩

/-- `ltdcStart` is its first stretch and a rest that, from a driver running its
configuration, keeps it so and keeps the error sources safe. -/
theorem ltdcStartCall_guarded (H : LtdcHeader) (C : LTDCConfig) :
    ∃ k, ltdcStartCall H C = .seg (ltdcStartBegin C) k ∧ k.Guarded (StartKept C) := by
  have fr : ∀ {m : DriverM Unit}, Frame LTDCDriver.sources m → Keeps (StartKept C) m :=
    Keeps.of_frame fun d d' (h : d'.sources = d.sources) => StartKept.of_errKept (ErrKept.of_sources h)
  have ht : Frame LTDCDriver.sources (ltdcStartTimings H C) :=
    fun d b d' h => congrArg (fun p => (p.2.1, p.2.2.2.2.2.1)) (ltdcStartTimings_frame H C d b d' h)
  exact ⟨_, rfl, .seg (fr (Frame.modify fun _ => rfl)) <| .poll <| .seg (fr ht) <|
    .seg (fr (Frame.modify fun _ => rfl)) <| .seg (fr (Frame.modify fun _ => rfl)) <|
    .seg (fr (Frame.layerMethod _ _ fun _ _ => rfl)) <| .seg (fr (Frame.layerMethod _ _ fun _ _ => rfl)) <|
    .seg (ltdcStartFlags_keeps C) <| .seg (fr (Frame.modify fun _ => rfl)) <| .poll <|
    .seg (fr (Frame.modify fun _ => rfl)) <| .seg (fr (Frame.modify fun _ => rfl)) <| .poll <|
    .seg (fr (Frame.modify fun _ => rfl)) .ret⟩

/-- Where a thread inside `ltdcStart configp` stands for the error sources: before its
first stretch, or past it with the driver running `configp`. -/
def ErrPos (C : LTDCConfig) (d : LTDCDriver) (c : Call) : Prop :=
  (∃ k, c = .seg (ltdcStartBegin C) k ∧ k.Guarded (StartKept C)) ∨
    d.config = some C ∧ c.Guarded (StartKept C)

section ErrPos

variable {C : LTDCConfig} {d d' : LTDCDriver} {c c' : Call}

theorem ErrPos.of_config (h : d'.config = d.config) (hp : ErrPos C d c) : ErrPos C d' c :=
  hp.imp_right fun ⟨hc, hk⟩ => ⟨h.trans hc, hk⟩

/-- A thread inside a start, run to where it must wait, keeps the error sources safe and
stands where `ErrPos` says. -/
theorem ErrPos.exec {t : Nat} (hs : ErrSafe d) (hp : ErrPos C d c) (h : (c.exec t).run d = .ok (c', d')) :
    ErrSafe d' ∧ ErrPos C d' c' := by
  have past : ∀ {d₁ : LTDCDriver} {k : Call}, ErrSafe d₁ → d₁.config = some C → k.Guarded (StartKept C) →
      (k.exec t).run d₁ = .ok (c', d') → ErrSafe d' ∧ ErrPos C d' c' := fun hs₁ hc₁ hk h => by
    obtain ⟨hR, hk'⟩ := Call.exec_guarded StartKept.refl StartKept.trans hk h
    obtain ⟨hc', hs'⟩ := hR hc₁
    exact ⟨hs' hs₁, .inr ⟨hc', hk'⟩⟩
  rcases hp with ⟨k, rfl, hk⟩ | ⟨hc, hk⟩
  · obtain ⟨_, d₁, h₁, h₂⟩ := run_bind_ok h
    obtain ⟨hc₁, hs₁⟩ := ltdcStartBegin_keeps C _ _ _ h₁
    exact past hs₁ hc₁ hk h₂
  · exact past hs hc hk h

end ErrPos

/-! ## Runs with serialised starts -/

/-- What holds of the system in every run with serialised starts: the error sources are
safe, a call other than a start keeps them so, a thread inside a start stands where
`ErrPos` says, and at most one thread is inside a start. -/
structure ErrInv (s : Sys) : Prop where
  safe : ErrSafe s.d
  others : ∀ t a c, s.calls t = some (a, c) → (∀ C, a ≠ .start C) → c.Guarded ErrKept
  starts : ∀ t C c, s.calls t = some (.start C, c) → ErrPos C s.d c
  one_start : OneStart s

namespace ErrInv

variable {s : Sys}

theorem init (reset : Regs) (hreset : reset.IER = 0) (d₀ : LTDCDriver) : ErrInv (Sys.init reset d₀) :=
  ⟨ErrSafe.of_IER_eq_zero hreset, fun _ _ _ h => (by cases h), fun _ _ _ h => (by cases h),
    fun _ _ _ _ _ _ h => (by cases h)⟩

/-- The controller and the interrupt handlers keep the invariant: they keep the sources. -/
theorem with_d (hi : ErrInv s) {d : LTDCDriver} (h : d.sources = s.d.sources) : ErrInv { s with d } :=
  ⟨(ErrKept.of_sources h).2 hi.safe, hi.others,
    fun t C c hc => (hi.starts t C c hc).of_config (congrArg Prod.fst h), hi.one_start⟩

/-- A thread that calls keeps the invariant, when it calls `ltdcStart` only while no
thread is inside it. -/
theorem call (hi : ErrInv s) (W : Bool) (H : LtdcHeader) {t : Nat} (a : Api)
    (hser : (∃ C, a = .start C) → ∀ u C' c', s.calls u ≠ some (.start C', c')) :
    ErrInv { s with calls := Function.update s.calls t (some (a, a.call W H t)) } := by
  refine ⟨hi.safe, fun u a' c h ha => ?_, fun u C c h => ?_, hi.one_start.call hser⟩
  · rcases Sys.update_calls h with ⟨-, e⟩ | ⟨-, h⟩
    · cases e
      exact Api.call_errKept W H _ _ ha
    · exact hi.others u a' c h ha
  · rcases Sys.update_calls h with ⟨-, e⟩ | ⟨-, h⟩
    · cases e
      exact .inl (ltdcStartCall_guarded H C)
    · exact hi.starts u C c h

/-- A thread that runs inside a call other than a start keeps the invariant. -/
theorem resume_other (hi : ErrInv s) {t : Nat} {a : Api} {c c' : Call} {d' : LTDCDriver}
    (ht : s.calls t = some (a, c)) (ha : ∀ C, a ≠ .start C) (hr : (c.exec t).run s.d = .ok (c', d')) :
    ErrInv (s.resume t a (.ok (c', d'))) := by
  obtain ⟨⟨hc, hs⟩, hk⟩ := Call.exec_guarded ErrKept.refl ErrKept.trans (hi.others t a c ht ha) hr
  refine ⟨by rw [Sys.resume_ok_d]; exact hs hi.safe, fun u a' c'' h ha' => ?_, fun u C c'' h => ?_,
    hi.one_start.resume ht⟩
  · rcases Sys.resume_calls h with ⟨-, e⟩ | ⟨-, hu⟩
    · cases e
      exact hk
    · exact hi.others u a' c'' hu ha'
  · rw [Sys.resume_ok_d]
    rcases Sys.resume_calls h with ⟨-, e⟩ | ⟨-, hu⟩
    · cases e
      exact absurd rfl (ha C)
    · exact (hi.starts u C c'' hu).of_config hc

/-- A thread that runs inside a start keeps the invariant. -/
theorem resume_start (hi : ErrInv s) {t : Nat} {C : LTDCConfig} {c c' : Call} {d' : LTDCDriver}
    (ht : s.calls t = some (.start C, c)) (hr : (c.exec t).run s.d = .ok (c', d')) :
    ErrInv (s.resume t (.start C) (.ok (c', d'))) := by
  obtain ⟨hs, hp⟩ := (hi.starts t C c ht).exec hi.safe hr
  refine ⟨by rw [Sys.resume_ok_d]; exact hs, fun u a' c'' h ha' => ?_, fun u C' c'' h => ?_,
    hi.one_start.resume ht⟩
  · rcases Sys.resume_calls h with ⟨-, e⟩ | ⟨-, hu⟩
    · cases e
      exact absurd rfl (ha' C)
    · exact hi.others u a' c'' hu ha'
  · rw [Sys.resume_ok_d]
    rcases Sys.resume_calls h with ⟨-, e⟩ | ⟨e, hu⟩
    · cases e
      exact hp
    · exact absurd (hi.one_start u t C' C c'' c hu ht) e

end ErrInv

/-- A step with serialised starts keeps the invariant. -/
theorem SerialStep.errInv {W : Bool} {H : LtdcHeader} {s s' : Sys} (hs : SerialStep W H s s')
    (hi : ErrInv s) : ErrInv s' := by
  obtain ⟨hs, hser⟩ := hs
  cases hs with
  | call t a _ ht => exact hi.call W H a fun ⟨C, ha⟩ => hser t C (a.call W H t) ht (by subst ha; simp)
  | run t a c _ ht =>
    cases hr : (c.exec t).run s.d with
    | error e => exact ⟨hi.1, hi.2, hi.3, hi.4⟩
    | ok p =>
      by_cases ha : ∃ C, a = .start C
      · obtain ⟨C, rfl⟩ := ha
        exact hi.resume_start ht hr
      · exact hi.resume_other ht (fun C e => ha ⟨C, e⟩) hr
  | commit bit => exact hi.with_d (LTDCDriver.sources_of_setup (LTDCDriver.setup_commit _ _))
  | raise => exact hi.with_d rfl
  | ev _ _ _ =>
    cases hr : (LTDC_EV_IRQHandler W).run s.d with
    | error e => exact ⟨hi.1, hi.2, hi.3, hi.4⟩
    | ok p => exact hi.with_d (LTDCDriver.sources_of_setup (LTDC_EV_IRQHandler_setup W _ _ _ hr))
  | er _ _ _ =>
    cases hr : LTDC_ER_IRQHandler.run s.d with
    | error e => exact ⟨hi.1, hi.2, hi.3, hi.4⟩
    | ok p => exact hi.with_d (LTDCDriver.sources_of_setup (LTDC_ER_IRQHandler_setup _ _ _ hr))

theorem ErrInv.run {W : Bool} {H : LtdcHeader} {s s' : Sys}
    (hr : Relation.ReflTransGen (SerialStep W H) s s') (hi : ErrInv s) : ErrInv s' := by
  induction hr with
  | refl => exact hi
  | tail _ hst ih => exact hst.errInv ih

/-- In every run from `ltdcInit` on registers whose interrupt sources reset off, for
either setting of `LTDC_USE_WAIT` and every header, in which no thread calls
`ltdcStart` while another is inside it, with any number of threads making any other
calls, the line interrupt enabled or not, and the controller's commits and flags and the
event interrupt interleaved: `LTDC_ER_IRQHandler` returns, whatever flags are raised,
in every state of the run. -/
theorem ltdc_error_isr_returns (W : Bool) (H : LtdcHeader) (reset : Regs) (hreset : reset.IER = 0)
    (d₀ : LTDCDriver) {s : Sys} (hr : Relation.ReflTransGen (SerialStep W H) (Sys.init reset d₀) s) :
    ∃ d', LTDC_ER_IRQHandler.run s.d = .ok ((), d') :=
  LTDC_ER_IRQHandler_returns (ErrInv.run hr (ErrInv.init reset hreset d₀)).safe

/-- After thread 0 has started the scenario panel from `ltdcInit`, the error interrupt
returns. -/
theorem scenario_error_isr_returns :
    ∃ s, zeroRegs.IER = 0 ∧
      Relation.ReflTransGen (SerialStep false fieldHeader) (Sys.init zeroRegs LTDCD1) s ∧
      s.d.config = some scenarioConfig ∧ ∃ d', LTDC_ER_IRQHandler.run s.d = .ok ((), d') := by
  obtain ⟨d, hr, hc⟩ := scenario_start_serial
  exact ⟨_, rfl, hr, hc, ltdc_error_isr_returns false fieldHeader zeroRegs rfl LTDCD1 hr⟩

end Ltdc
