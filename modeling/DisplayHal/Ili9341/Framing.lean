import DisplayHal.Ili9341.Driver

/-!
# Framing on the panel link

The spec's state machine of the panel driver says in which state each call may be made
and which state it leaves (`Op.allowed`, `Op.next`), and how each call frames its bytes
on the link (`Op.framing`): a command byte with `D/CX` low, data bytes with `D/CX` high,
all under slave-select, and nothing for a zero-length chunk. A call sequence is `valid`
when, from `STOP`, each call is made in the state its assertion requires with
non-`NULL` arguments, and each configuration names the pad the panel's `D/CX` line is
wired to.

Between calls, slave-select is asserted exactly while the driver is `ACTIVE`, and out of
`STOP` the driver runs a configuration whose `D/CX` pad is the wired one (`Inv`). Each
allowed call returns, keeps `Inv`, moves the state as the spec says and appends its
framing to the trace (`Op.exec_run`). By induction every valid sequence does, from
`ili9341ObjectInit` (`ili9341_link_framing`): the trace is the spec's framing of the
calls, in call order.
-/

namespace Ili9341

/-! ## The spec's state machine -/

/-- Whether a call may be made in state `st`: the state its assertion requires, its
pointers not `NULL`, and a configuration whose `D/CX` pad is `wire`. `ili9341ReadByte`
never may. -/
def Op.allowed (wire : Nat × Nat) (st : Ili9341State) : Op → Bool
  | .start (some cfg) => st == .stop && cfg.spi.isSome && (cfg.dcx_port, cfg.dcx_pad) == wire
  | .start none => false
  | .stop | .acquireBus | .releaseBus | .select => st == .ready
  | .unselect | .writeCommand _ | .writeByte _ => st == .active
  | .readByte _ => false
  | .writeChunk chunk _ | .readChunk chunk _ _ => st == .active && chunk.isSome

/-- The state a call leaves. -/
def Op.next : Op → Ili9341State → Ili9341State
  | .start _, _ => .ready
  | .stop, _ => .stop
  | .select, _ => .active
  | .unselect, _ => .ready
  | _, st => st

/-- Each call of the sequence is allowed in the state the calls before it leave. -/
def valid (wire : Nat × Nat) : Ili9341State → List Op → Bool
  | _, [] => true
  | st, o :: os => o.allowed wire st && valid wire (o.next st) os

/-- The spec's framing of a call on the link: a command byte under slave-select with
`D/CX` low; data bytes, sent or received, under slave-select with `D/CX` high; nothing
for a zero-length chunk or a call that moves no byte. -/
def Op.framing : Op → List Transfer
  | .writeCommand cmd => [⟨true, false, .send [cmd]⟩]
  | .writeByte value => [⟨true, true, .send [value]⟩]
  | .writeChunk chunk length =>
      if length = 0 then [] else
        [⟨true, true, .send ((List.range length).map (chunk.getD fun _ => 0))⟩]
  | .readChunk _ length miso =>
      if length = 0 then [] else [⟨true, true, .receive ((List.range length).map miso)⟩]
  | _ => []

/-- Every transfer the spec frames is under slave-select. -/
theorem Op.framing_ss {o : Op} {t : Transfer} (h : t ∈ o.framing) : t.ss = true := by
  cases o <;> simp only [Op.framing, List.mem_singleton, List.not_mem_nil] at h <;>
    (try split at h) <;> simp_all

/-! ## The invariant -/

/-- What holds of the panel between calls: slave-select is asserted exactly while the
driver is `ACTIVE`, and out of `STOP` the driver runs a configuration whose `D/CX` pad
is the one the panel is wired to. -/
structure Inv (p : Panel) : Prop where
  ss_active : p.link.ss = true ↔ p.drv.state = .active
  wired : p.drv.state ≠ .stop →
    ∃ cfg, p.drv.config = some cfg ∧ (cfg.dcx_port, cfg.dcx_pad) = p.link.dcx_wire

/-- An allowed call returns, keeps the invariant, leaves the state the spec gives, and
appends its framing to the trace. -/
theorem Op.exec_run {o : Op} {p : Panel} (hp : Inv p)
    (ha : o.allowed p.link.dcx_wire p.drv.state = true) :
    ∃ p', (o.exec true).run p = .ok ((), p') ∧ Inv p' ∧ p'.drv.state = o.next p.drv.state ∧
      p'.link.dcx_wire = p.link.dcx_wire ∧ p'.link.trace = p.link.trace ++ o.framing := by
  have hss := hp.ss_active
  cases o with
  | start configp =>
    obtain ⟨cfg, rfl⟩ : ∃ cfg, configp = some cfg := by
      cases configp <;> simp_all [Op.allowed]
    simp only [Op.allowed, Bool.and_eq_true, beq_iff_eq, Option.isSome_iff_ne_none] at ha
    obtain ⟨⟨hst, hspi⟩, hw⟩ := ha
    exact ⟨_, ili9341Start_run hspi hst, ⟨by simp, fun _ => ⟨cfg, rfl, hw⟩⟩, rfl, rfl,
      by simp [Op.framing]⟩
  | stop =>
    simp only [Op.allowed, beq_iff_eq] at ha
    exact ⟨_, ili9341Stop_run ha, ⟨by simp [hss, ha], by simp⟩, rfl, rfl, by simp [Op.framing]⟩
  | acquireBus | releaseBus =>
    simp only [Op.allowed, beq_iff_eq] at ha
    exact ⟨p, by simp [Op.exec, ili9341AcquireBus, ili9341AcquireBusS, ili9341ReleaseBus,
      ili9341ReleaseBusS, ha], hp, rfl, rfl, by simp [Op.framing]⟩
  | select =>
    simp only [Op.allowed, beq_iff_eq] at ha
    obtain ⟨cfg, hc, hw⟩ := hp.wired (by simp [ha])
    exact ⟨_, ili9341SelectI_run ha hc, ⟨by simp, fun _ => ⟨cfg, hc, hw⟩⟩, rfl, rfl,
      by simp [Op.framing]⟩
  | unselect =>
    simp only [Op.allowed, beq_iff_eq] at ha
    obtain ⟨cfg, hc, hw⟩ := hp.wired (by simp [ha])
    exact ⟨_, ili9341UnselectI_run ha hc, ⟨by simp, fun _ => ⟨cfg, hc, hw⟩⟩, rfl, rfl,
      by simp [Op.framing]⟩
  | writeCommand v | writeByte v =>
    simp only [Op.allowed, beq_iff_eq] at ha
    obtain ⟨cfg, hc, hw⟩ := hp.wired (by simp [ha])
    exact ⟨_, writeValue_run _ _ v ha hc, ⟨hss, fun h => ⟨cfg, hc, hw⟩⟩, rfl, rfl,
      by simp [Op.framing, hss.mpr ha, hw]⟩
  | readByte => simp [Op.allowed] at ha
  | writeChunk chunk length =>
    simp only [Op.allowed, Bool.and_eq_true, beq_iff_eq, Option.isSome_iff_exists] at ha
    obtain ⟨ha, buf, rfl⟩ := ha
    obtain ⟨cfg, hc, hw⟩ := hp.wired (by simp [ha])
    have hr := ili9341WriteChunk_run buf length ha hc
    by_cases hl : length = 0
    · rw [if_pos hl] at hr
      exact ⟨p, hr, hp, rfl, rfl, by simp [hl, Op.framing]⟩
    · rw [if_neg hl] at hr
      exact ⟨_, hr, ⟨hss, fun _ => ⟨cfg, hc, hw⟩⟩, rfl, rfl,
        by simp [hl, Op.framing, hss.mpr ha, hw]⟩
  | readChunk chunk length miso =>
    simp only [Op.allowed, Bool.and_eq_true, beq_iff_eq, Option.isSome_iff_exists] at ha
    obtain ⟨ha, a, rfl⟩ := ha
    obtain ⟨cfg, hc, hw⟩ := hp.wired (by simp [ha])
    have hr := ili9341ReadChunk_run a length miso ha hc
    by_cases hl : length = 0
    · rw [if_pos hl] at hr
      exact ⟨p, run_map_ok _ hr, hp, rfl, rfl, by simp [hl, Op.framing]⟩
    · rw [if_neg hl] at hr
      exact ⟨_, run_map_ok _ hr, ⟨hss, fun _ => ⟨cfg, hc, hw⟩⟩,
        rfl, rfl, by simp [hl, Op.framing, hss.mpr ha, hw]⟩

/-- A valid sequence returns, keeps the invariant, and appends the framing of its calls,
in order, to the trace. -/
theorem runOps_run (ops : List Op) {p : Panel} (hp : Inv p)
    (hv : valid p.link.dcx_wire p.drv.state ops = true) :
    ∃ p', (runOps ops).run p = .ok ((), p') ∧ Inv p' ∧
      p'.link.trace = p.link.trace ++ ops.flatMap Op.framing := by
  induction ops generalizing p with
  | nil => exact ⟨p, rfl, hp, by simp⟩
  | cons o os ih =>
    simp only [valid, Bool.and_eq_true] at hv
    obtain ⟨p₁, h₁, hp₁, hst, hw, htr⟩ := Op.exec_run hp hv.1
    obtain ⟨p₂, h₂, hp₂, htr₂⟩ := ih hp₁ (by rw [hst, hw]; exact hv.2)
    refine ⟨p₂, ?_, hp₂, by rw [htr₂, htr, List.flatMap_cons, List.append_assoc]⟩
    exact (Ltdc.run_bind_of_ok h₁).trans h₂

/-! ## Sequences from `ili9341ObjectInit` -/

/-- On a link whose slave-select starts deasserted, every valid call sequence from
`ili9341ObjectInit` returns; afterwards slave-select is asserted exactly while the
driver is `ACTIVE`, every transfer made was under slave-select, and the transfers are
the spec's framing of the calls in call order: each command byte alone with `D/CX` low,
the data bytes of each write, chunk and read with `D/CX` high, none for a zero-length
chunk. -/
theorem ili9341_link_framing (driverp : ILI9341Driver) (l : Link) (hss : l.ss = false)
    (ops : List Op) (hv : valid l.dcx_wire .stop ops = true) :
    ∃ p, (runOps ops).run ⟨ili9341ObjectInit driverp, l⟩ = .ok ((), p) ∧
      (p.link.ss = true ↔ p.drv.state = .active) ∧
      (∀ t ∈ ops.flatMap Op.framing, t.ss = true) ∧
      p.link.trace = l.trace ++ ops.flatMap Op.framing := by
  have hp : Inv ⟨ili9341ObjectInit driverp, l⟩ := ⟨by simp [ili9341ObjectInit, hss], by
    simp [ili9341ObjectInit]⟩
  obtain ⟨p, hrun, hp', htr⟩ := runOps_run ops hp hv
  refine ⟨p, hrun, hp'.ss_active, fun t ht => ?_, htr⟩
  obtain ⟨o, -, ho⟩ := List.mem_flatMap.mp ht
  exact Op.framing_ss ho

/-- The panel at port 6, pad 13 for `D/CX`, on the SPI driver at address 0. -/
def panelConfig : ILI9341Config := ⟨some 0, 6, 13⟩

/-- A session: start, acquire, select, a memory-write command, a two-byte chunk, an
empty chunk, a one-byte read, unselect, release, stop. -/
def panelSession : List Op :=
  [.start (some panelConfig), .acquireBus, .select, .writeCommand 0x2C,
    .writeChunk (some fun i => UInt8.ofNat i) 2, .writeChunk (some fun _ => 0) 0,
    .readChunk (some 0x20000000) 1 (fun _ => 0x5A), .unselect, .releaseBus, .stop]

/-- The session on a link wired as `panelConfig` says frames the command with `D/CX`
low and the chunk and the read with `D/CX` high, under slave-select, and nothing for the
empty chunk. -/
theorem panel_session_framing :
    ∃ p, (runOps panelSession).run
        ⟨ili9341ObjectInit ⟨.stop, none, 0⟩, ⟨false, fun _ _ => false, (6, 13), []⟩⟩ = .ok ((), p) ∧
      (p.link.ss = true ↔ p.drv.state = .active) ∧
      (∀ t ∈ panelSession.flatMap Op.framing, t.ss = true) ∧
      p.link.trace = [] ++ panelSession.flatMap Op.framing :=
  ili9341_link_framing _ ⟨false, fun _ _ => false, (6, 13), []⟩ rfl panelSession (by decide)

end Ili9341
