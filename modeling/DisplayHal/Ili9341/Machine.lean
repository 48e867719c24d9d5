import DisplayHal.Ili9341.Framing

/-!
# The panel driver as a state machine

What the driver's checks let through depends on its state and, for the bus functions,
on whether the object is `ILI9341D1`. Seen from its state, every call either halts with
the first check it fails, in the order the source makes them, or moves the state as the
spec's machine does (`Op.next`): `Op.refusal` gives that first failed check,
`Op.step` the machine's step, and a call sequence is run on the machine by
`List.foldlM`.

The driver's own run carries more: the configuration, the byte in `value`, the link.
None of it decides whether a call returns. `SelectI`, `UnselectI` and the writes read
`driverp->config` without a check; they are only reached out of `STOP`, and a driver out
of `STOP` has been started with a configuration, which nothing takes away (`Configured`).
So from `ili9341ObjectInit`, on `ILI9341D1` or any other object, over any link and for
every call sequence, valid or not, the driver's run seen through its state is the
machine's run, halting with the same fault where the machine does, and it never reads a
`NULL` configuration (`ili9341_runs_refine_machine`). The bus mutex is the kernel's and
is not part of either run.
-/

namespace Ili9341

/-! ## The machine -/

/-- The state check `assertState want msg` made in state `st`: the fault it halts with,
if any. -/
def requireState (want : Ili9341State) (msg : String) (st : Ili9341State) : Option Fault :=
  if st = want then none else some (.panic msg)

/-- The first check a call fails in state `st`, as the fault it halts with: its pointer
checks (for the bus functions, that the object is `ILI9341D1`, which `isD1` says), then
its state check, in the source's order; `none` when it passes them all. -/
def Op.refusal (isD1 : Bool) (st : Ili9341State) : Op → Option Fault
  | .start none => some (.check "ili9341Start")
  | .start (some cfg) =>
      if cfg.spi = none then some (.check "ili9341Start") else requireState .stop "ili9341Start(), #1" st
  | .stop => requireState .ready "ili9341Start(), #1" st
  | .acquireBus =>
      if isD1 then requireState .ready "ili9341AcquireBusS(), #1" st else some (.check "ili9341AcquireBusS")
  | .releaseBus =>
      if isD1 then requireState .ready "ili9341ReleaseBusS(), #1" st else some (.check "ili9341ReleaseBusS")
  | .select => requireState .ready "ili9341SelectI(), #1" st
  | .unselect => requireState .active "ili9341UnselectI(), #1" st
  | .writeCommand _ => requireState .active "ili9341WriteCommand(), #1" st
  | .writeByte _ => requireState .active "ili9341WriteByte(), #1" st
  | .readByte _ => some (.panic "ili9341ReadByte()")
  | .writeChunk none _ => some (.check "ili9341WriteChunk")
  | .writeChunk (some _) _ => requireState .active "ili9341WriteChunk(), #1" st
  | .readChunk none _ _ => some (.check "ili9341ReadChunk")
  | .readChunk (some _) _ _ => requireState .active "ili9341ReadChunk(), #1" st

/-- One step of the machine: the call's first failed check, or the state it leaves. -/
def Op.step (isD1 : Bool) (st : Ili9341State) (o : Op) : Except Fault Ili9341State :=
  match o.refusal isD1 st with
  | some e => .error e
  | none => .ok (o.next st)

/-- The machine halts only with a fault of a check, never on a `NULL` configuration. -/
theorem Op.refusal_ne_nullConfig (isD1 : Bool) (st : Ili9341State) (o : Op) :
    o.refusal isD1 st ≠ some .nullConfig := by
  unfold Op.refusal requireState
  split <;> (repeat' split) <;> simp

theorem foldlM_step_ne_nullConfig (isD1 : Bool) (ops : List Op) (st : Ili9341State) :
    ops.foldlM (Op.step isD1) st ≠ .error .nullConfig := by
  induction ops generalizing st with
  | nil => exact fun h => by cases h
  | cons o os ih =>
    rw [List.foldlM_cons]
    unfold Op.step
    split
    · next e he => exact fun h => Op.refusal_ne_nullConfig isD1 st o (he.trans (by cases h; rfl))
    · exact ih _

/-! ## The driver refines the machine -/

/-- Out of `STOP` the driver has a configuration. -/
def Configured (p : Panel) : Prop := p.drv.state ≠ .stop → ∃ cfg, p.drv.config = some cfg

@[simp] theorem requireState_eq_none {want st : Ili9341State} {msg : String} :
    requireState want msg st = none ↔ st = want := by
  unfold requireState; split <;> simp_all

@[simp] theorem requireState_eq_some {want st : Ili9341State} {msg : String} {e : Fault} :
    requireState want msg st = some e ↔ st ≠ want ∧ e = .panic msg := by
  unfold requireState; split <;> simp_all [eq_comm]

theorem assertState_bind_run {α : Type} (st : Ili9341State) (msg : String) (k : Unit → PanelM α)
    (p : Panel) : (assertState st msg >>= k).run p =
      if p.drv.state = st then (k ()).run p else .error (.panic msg) := by
  rw [StateT.run_bind, assertState_run]
  split <;> rfl

/-- A call that fails a check halts with that check's fault. -/
theorem Op.exec_of_refusal {isD1 : Bool} {p : Panel} {o : Op} {e : Fault}
    (h : o.refusal isD1 p.drv.state = some e) : (o.exec isD1).run p = .error e := by
  cases o with
  | start configp =>
    rcases configp with _ | cfg
    · cases h; rfl
    by_cases hspi : cfg.spi = none <;>
      simp_all [Op.refusal, Op.exec, ili9341Start, StateT.run_bind, eq_comm]
  | readByte miso => cases h; simp [Op.exec, StateT.run_map, ili9341ReadByte_run]
  | writeChunk chunk length | readChunk chunk length =>
    rcases chunk with _ | _
    · cases h; rfl
    obtain ⟨hst, rfl⟩ := requireState_eq_some.mp h
    simp [Op.exec, ili9341WriteChunk, ili9341ReadChunk, StateT.run_map, assertState_bind_run, hst]
  | acquireBus | releaseBus =>
    cases isD1
    · cases h; rfl
    obtain ⟨hst, rfl⟩ := requireState_eq_some.mp h
    simp [Op.exec, ili9341AcquireBus, ili9341AcquireBusS, ili9341ReleaseBus, ili9341ReleaseBusS,
      StateT.run_bind, hst]
  | _ =>
    obtain ⟨hst, rfl⟩ := requireState_eq_some.mp h
    simp [Op.exec, ili9341Stop, ili9341Select, ili9341SelectI, ili9341Unselect, ili9341UnselectI,
      ili9341WriteCommand, ili9341WriteByte, writeValue, assertState_bind_run, hst]

/-- A call made in a configured driver that passes its checks returns, in the machine's
next state, and leaves the driver configured. -/
theorem Op.exec_of_pass {isD1 : Bool} {p : Panel} (hp : Configured p) {o : Op}
    (h : o.refusal isD1 p.drv.state = none) :
    ∃ p', (o.exec isD1).run p = .ok ((), p') ∧ p'.drv.state = o.next p.drv.state ∧ Configured p' := by
  have hcfg : ∀ {st}, p.drv.state = st → st ≠ .stop → ∃ cfg, p.drv.config = some cfg :=
    fun h hs => hp (h ▸ hs)
  cases o with
  | start configp =>
    rcases configp with _ | cfg
    · cases h
    by_cases hspi : cfg.spi = none
    · simp [Op.refusal, hspi] at h
    · simp only [Op.refusal, hspi, ite_false, requireState_eq_none] at h
      exact ⟨_, ili9341Start_run hspi h, rfl, fun _ => ⟨cfg, rfl⟩⟩
  | stop => exact ⟨_, ili9341Stop_run (requireState_eq_none.mp h), rfl, fun h => absurd rfl h⟩
  | acquireBus | releaseBus =>
    cases isD1
    · cases h
    have hst := requireState_eq_none.mp h
    exact ⟨p, by simp [Op.exec, ili9341AcquireBus, ili9341AcquireBusS, ili9341ReleaseBus,
      ili9341ReleaseBusS, StateT.run_bind, hst], rfl, hp⟩
  | select =>
    have hst := requireState_eq_none.mp h
    obtain ⟨cfg, hc⟩ := hcfg hst (by decide)
    exact ⟨_, ili9341SelectI_run hst hc, rfl, fun _ => ⟨cfg, hc⟩⟩
  | unselect =>
    have hst := requireState_eq_none.mp h
    obtain ⟨cfg, hc⟩ := hcfg hst (by decide)
    exact ⟨_, ili9341UnselectI_run hst hc, rfl, fun _ => ⟨cfg, hc⟩⟩
  | writeCommand v | writeByte v =>
    have hst := requireState_eq_none.mp h
    obtain ⟨cfg, hc⟩ := hcfg hst (by decide)
    exact ⟨_, writeValue_run _ _ v hst hc, rfl, fun _ => ⟨cfg, hc⟩⟩
  | readByte => cases h
  | writeChunk chunk length =>
    rcases chunk with _ | buf
    · cases h
    have hst := requireState_eq_none.mp h
    obtain ⟨cfg, hc⟩ := hcfg hst (by decide)
    exact ⟨_, ili9341WriteChunk_run buf length hst hc, by split <;> rfl,
      fun _ => by split <;> exact ⟨cfg, hc⟩⟩
  | readChunk chunk length miso =>
    rcases chunk with _ | a
    · cases h
    have hst := requireState_eq_none.mp h
    obtain ⟨cfg, hc⟩ := hcfg hst (by decide)
    have hr := ili9341ReadChunk_run a length miso hst hc
    split at hr
    · exact ⟨p, run_map_ok _ hr, rfl, hp⟩
    · exact ⟨_, run_map_ok _ hr, rfl, fun _ => ⟨cfg, hc⟩⟩

theorem runOpsOn_cons (isD1 : Bool) (o : Op) (os : List Op) :
    runOpsOn isD1 (o :: os) = o.exec isD1 >>= fun _ => runOpsOn isD1 os := rfl

/-- From a configured driver, a call sequence run on the driver and seen through its
state is the machine's run. -/
theorem runOps_refines (isD1 : Bool) (ops : List Op) {p : Panel} (hp : Configured p) :
    ((runOpsOn isD1 ops).run p).map (fun r => r.2.drv.state) = ops.foldlM (Op.step isD1) p.drv.state := by
  induction ops generalizing p with
  | nil => rfl
  | cons o os ih =>
    rw [runOpsOn_cons, List.foldlM_cons]
    cases he : o.refusal isD1 p.drv.state with
    | some e => simp [StateT.run_bind, Op.exec_of_refusal he, Op.step, he]; rfl
    | none =>
      obtain ⟨p', hr, hst, hp'⟩ := Op.exec_of_pass hp he
      rw [Ltdc.run_bind_of_ok hr, ih hp', hst]
      simp [Op.step, he]

/-- For every driver object, `ILI9341D1` or not, every link and every call sequence,
valid or not: run from `ili9341ObjectInit` and seen through the driver's state, the
sequence is the machine's run from `STOP`, halting with the fault of the first check that
fails or returning in the state the machine gives; and it never halts on a `NULL`
configuration. -/
theorem ili9341_runs_refine_machine (isD1 : Bool) (driverp : ILI9341Driver) (l : Link)
    (ops : List Op) :
    ((runOpsOn isD1 ops).run ⟨ili9341ObjectInit driverp, l⟩).map (fun r => r.2.drv.state) =
        ops.foldlM (Op.step isD1) .stop ∧
      (runOpsOn isD1 ops).run ⟨ili9341ObjectInit driverp, l⟩ ≠ .error .nullConfig := by
  have h : _ = ops.foldlM (Op.step isD1) .stop :=
    runOps_refines isD1 ops (p := ⟨ili9341ObjectInit driverp, l⟩) (fun h => absurd rfl h)
  refine ⟨h, fun he => foldlM_step_ne_nullConfig isD1 ops .stop ?_⟩
  rw [← h, he]
  rfl

end Ili9341
