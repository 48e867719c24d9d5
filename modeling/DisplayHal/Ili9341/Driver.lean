import DisplayHal.Ltdc.Model

/-!
# The ILI9341 panel driver

`ili9341.c` frames command and data bytes for the panel over a 4-wire SPI link: the
slave-select line, the `D/CX` line (low for a command byte, high for data) and the SPI
transfers. The model's state is the driver object and that link (`Panel`); each source
function is a computation in `PanelM`, which halts where an assertion of the source
fails (the build with `ILI9341_USE_CHECKS`).

The HAL calls the driver makes (`spiSelectI`, `spiUnselectI`, `palSetPad`, `palClearPad`,
`spiSend`, `spiReceive`) are not among the sources; each is modelled from the spec as its
effect on the link. A transfer is recorded with the levels of slave-select and of the
pad the panel's `D/CX` line is wired to (`Link.dcx_wire`), as the panel sees them.

`ili9341AcquireBusS` and `ili9341ReleaseBusS` alone check which object they are given:
it must be `ILI9341D1`. A call sequence runs on one driver object (`runOpsOn`), which is
`ILI9341D1` or not; `runOps` runs it on `ILI9341D1`. The bus mutex those two functions
lock and unlock is the kernel's: the model runs the calls of one caller, keeps both
functions' checks, and leaves out the mutex, so a caller that acquires the bus twice
goes on where the kernel would block it.
-/

namespace Ili9341

open Ltdc (chDbgAssert)

/-! ## State -/

/-- Modelled from the spec: `ili9341state_t`, the states the sources use. -/
inductive Ili9341State
  | stop
  | ready
  | active
  deriving DecidableEq, Repr

/-- `ILI9341Config`: the SPI driver the panel is on (its address, `none` for `NULL`), and
the port and pad of its `D/CX` line. -/
structure ILI9341Config where
  spi : Option Nat
  dcx_port : Nat
  dcx_pad : Nat
  deriving DecidableEq, Repr

/-- `ILI9341Driver`: the state, the configuration (`none` for `NULL`), and the byte that
single-byte transfers go through. -/
structure ILI9341Driver where
  state : Ili9341State
  config : Option ILI9341Config
  value : UInt8

/-- What a transfer moves: bytes sent on MOSI, or bytes the panel drives on MISO. -/
inductive Xfer
  | send (bytes : List UInt8)
  | receive (bytes : List UInt8)
  deriving DecidableEq, Repr

/-- A transfer on the bus, with the slave-select and `D/CX` lines as they were during it. -/
structure Transfer where
  ss : Bool
  dcx : Bool
  xfer : Xfer
  deriving DecidableEq, Repr

/-- The link to the panel: the slave-select line (`true` while asserted), the output
level of every GPIO pad by port and pad, the pad the panel's `D/CX` line is wired to,
and the transfers made on the bus, oldest first. -/
structure Link where
  ss : Bool
  pads : Nat → Nat → Bool
  dcx_wire : Nat × Nat
  trace : List Transfer

/-- The level of the panel's `D/CX` line. -/
def Link.dcx (l : Link) : Bool := l.pads l.dcx_wire.1 l.dcx_wire.2

/-- The pad `port`, `pad` driven to `bit`. -/
def Link.writePad (l : Link) (port pad : Nat) (bit : Bool) : Link :=
  { l with pads := fun po pa => if po = port ∧ pa = pad then bit else l.pads po pa }

/-- Driving the pad the panel's `D/CX` is wired to sets the line. -/
@[simp] theorem Link.dcx_writePad (l : Link) {port pad : Nat} (h : (port, pad) = l.dcx_wire)
    (bit : Bool) : (l.writePad port pad bit).dcx = bit := by
  simp [Link.dcx, Link.writePad, ← h]

/-- The driver and its link. -/
structure Panel where
  drv : ILI9341Driver
  link : Link

/-- How the driver halts: a failed `chDbgCheck` in a function, a failed `chDbgAssert`
with its message, or a read through a `NULL` configuration. -/
inductive Fault
  | check (func : String)
  | panic (msg : String)
  | nullConfig
  deriving DecidableEq, Repr

/-- A computation on the panel that may halt. -/
abbrev PanelM := StateT Panel (Except Fault)

/-! ## The HAL calls, modelled from the spec -/

/-- Modelled from the spec: `spiSelectI` asserts slave-select. -/
def spiSelectI : PanelM Unit := modify fun p => { p with link := { p.link with ss := true } }

/-- Modelled from the spec: `spiUnselectI` deasserts slave-select. -/
def spiUnselectI : PanelM Unit := modify fun p => { p with link := { p.link with ss := false } }

/-- Modelled from the spec: `palWritePad`, one pad driven to `bit`. -/
def palWritePad (port pad : Nat) (bit : Bool) : PanelM Unit :=
  modify fun p => { p with link := p.link.writePad port pad bit }

/-- Modelled from the spec: `palSetPad`. -/
def palSetPad (port pad : Nat) : PanelM Unit := palWritePad port pad true

/-- Modelled from the spec: `palClearPad`. -/
def palClearPad (port pad : Nat) : PanelM Unit := palWritePad port pad false

/-- The link with a transfer recorded, under the lines as they are. -/
def Link.transfer (l : Link) (x : Xfer) : Link := { l with trace := l.trace ++ [⟨l.ss, l.dcx, x⟩] }

/-- Modelled from the spec: `spiSend` of the bytes `txbuf` on MOSI. -/
def spiSend (txbuf : List UInt8) : PanelM Unit :=
  modify fun p => { p with link := p.link.transfer (.send txbuf) }

/-- Modelled from the spec: `spiReceive` of the bytes the panel drives on MISO. -/
def spiReceive (rxbuf : List UInt8) : PanelM (List UInt8) := do
  modify fun p => { p with link := p.link.transfer (.receive rxbuf) }
  return rxbuf

/-! ## The driver -/

/-- The state check the driver's functions make:
`chDbgAssert(driverp->state == st, msg, ...)`. -/
def assertState (st : Ili9341State) (msg : String) : PanelM Unit := do
  chDbgAssert ((← get).drv.state = st) (.panic msg)

/-- `driverp->config`, read through; halts on `NULL`. -/
def ili9341Config : PanelM ILI9341Config := do
  match (← get).drv.config with
  | some c => pure c
  | none => throw .nullConfig

/-- `ili9341ObjectInit`: the driver `STOP` with no configuration. -/
def ili9341ObjectInit (driverp : ILI9341Driver) : ILI9341Driver :=
  { driverp with state := .stop, config := none }

/-- `ili9341Start`: a pulse of slave-select, then the configuration kept and the driver
`READY`. -/
def ili9341Start (configp : Option ILI9341Config) : PanelM Unit := do
  let some cfg := configp | throw (.check "ili9341Start")
  chDbgAssert (cfg.spi ≠ none) (.check "ili9341Start")
  assertState .stop "ili9341Start(), #1"
  spiSelectI
  spiUnselectI
  modify fun p => { p with drv := { p.drv with config := some cfg, state := .ready } }

/-- `ili9341Stop`. Its assertion carries the message of `ili9341Start`'s, as the source
has it. -/
def ili9341Stop : PanelM Unit := do
  assertState .ready "ili9341Start(), #1"
  modify fun p => { p with drv := { p.drv with state := .stop } }

/-- `ili9341AcquireBusS` on a driver object that is `ILI9341D1` when `isD1`: the object
check, then the state check; the mutex it then locks is the kernel's. -/
def ili9341AcquireBusS (isD1 : Bool) : PanelM Unit := do
  chDbgAssert (isD1 = true) (.check "ili9341AcquireBusS")
  assertState .ready "ili9341AcquireBusS(), #1"

/-- `ili9341AcquireBus`: `ili9341AcquireBusS` with the kernel locked. -/
def ili9341AcquireBus (isD1 : Bool) : PanelM Unit := ili9341AcquireBusS isD1

/-- `ili9341ReleaseBusS` on a driver object that is `ILI9341D1` when `isD1`: the object
check, then the state check; the mutex it then unlocks is the kernel's. -/
def ili9341ReleaseBusS (isD1 : Bool) : PanelM Unit := do
  chDbgAssert (isD1 = true) (.check "ili9341ReleaseBusS")
  assertState .ready "ili9341ReleaseBusS(), #1"

/-- `ili9341ReleaseBus`: `ili9341ReleaseBusS` with the kernel locked. -/
def ili9341ReleaseBus (isD1 : Bool) : PanelM Unit := ili9341ReleaseBusS isD1

/-- `ili9341SelectI`: the driver `ACTIVE`, then slave-select asserted. -/
def ili9341SelectI : PanelM Unit := do
  assertState .ready "ili9341SelectI(), #1"
  modify fun p => { p with drv := { p.drv with state := .active } }
  let _ ← ili9341Config
  spiSelectI

/-- `ili9341Select`: `ili9341SelectI` with the kernel locked. -/
def ili9341Select : PanelM Unit := ili9341SelectI

/-- `ili9341UnselectI`: slave-select deasserted, then the driver `READY`. -/
def ili9341UnselectI : PanelM Unit := do
  assertState .active "ili9341UnselectI(), #1"
  let _ ← ili9341Config
  spiUnselectI
  modify fun p => { p with drv := { p.drv with state := .ready } }

/-- `ili9341Unselect`: `ili9341UnselectI` with the kernel locked. -/
def ili9341Unselect : PanelM Unit := ili9341UnselectI

/-- The single-byte write of `ili9341WriteCommand` and `ili9341WriteByte`: the state
check, the byte kept in `value`, the `D/CX` pad driven to `bit`, and `value` sent. -/
def writeValue (msg : String) (bit : Bool) (v : UInt8) : PanelM Unit := do
  assertState .active msg
  modify fun p => { p with drv := { p.drv with value := v } }
  let cfg ← ili9341Config
  palWritePad cfg.dcx_port cfg.dcx_pad bit
  spiSend [(← get).drv.value]

/-- `ili9341WriteCommand`: the byte sent with `D/CX` low (`palClearPad`). -/
def ili9341WriteCommand (cmd : UInt8) : PanelM Unit :=
  writeValue "ili9341WriteCommand(), #1" false cmd

/-- `ili9341WriteByte`: the byte sent with `D/CX` high (`palSetPad`). -/
def ili9341WriteByte (value : UInt8) : PanelM Unit :=
  writeValue "ili9341WriteByte(), #1" true value

/-- `ili9341ReadByte`, reading `miso` from the panel. Its first assertion is `FALSE`
("should not be used"), so it always halts. -/
def ili9341ReadByte (miso : UInt8) : PanelM UInt8 := do
  chDbgAssert False (.panic "ili9341ReadByte()")
  assertState .active "ili9341ReadByte(), #1"
  let cfg ← ili9341Config
  palSetPad cfg.dcx_port cfg.dcx_pad
  let rx ← spiReceive [miso]
  modify fun p => { p with drv := { p.drv with value := rx.headD 0 } }
  return (← get).drv.value

/-- `ili9341WriteChunk` of the first `length` bytes of `chunk` (`none` for `NULL`). -/
def ili9341WriteChunk (chunk : Option (Nat → UInt8)) (length : Nat) : PanelM Unit := do
  let some buf := chunk | throw (.check "ili9341WriteChunk")
  assertState .active "ili9341WriteChunk(), #1"
  if length = 0 then return
  let cfg ← ili9341Config
  palSetPad cfg.dcx_port cfg.dcx_pad
  spiSend ((List.range length).map buf)

/-- `ili9341ReadChunk` of `length` bytes into `chunk` (its address, `none` for `NULL`),
reading `miso` from the panel; it returns what it writes into `chunk`. -/
def ili9341ReadChunk (chunk : Option Nat) (length : Nat) (miso : Nat → UInt8) :
    PanelM (List UInt8) := do
  let some _ := chunk | throw (.check "ili9341ReadChunk")
  assertState .active "ili9341ReadChunk(), #1"
  if length = 0 then return []
  let cfg ← ili9341Config
  palSetPad cfg.dcx_port cfg.dcx_pad
  spiReceive ((List.range length).map miso)

/-! ## Call sequences -/

/-- A call of the driver's API, with its arguments, and what the panel drives on MISO
for a read. -/
inductive Op
  | start (configp : Option ILI9341Config)
  | stop
  | acquireBus
  | releaseBus
  | select
  | unselect
  | writeCommand (cmd : UInt8)
  | writeByte (value : UInt8)
  | readByte (miso : UInt8)
  | writeChunk (chunk : Option (Nat → UInt8)) (length : Nat)
  | readChunk (chunk : Option Nat) (length : Nat) (miso : Nat → UInt8)

/-- The function a call on the driver object runs; `isD1` says whether the object is
`ILI9341D1`, which only the bus functions check. -/
def Op.exec (isD1 : Bool) : Op → PanelM Unit
  | .start configp => ili9341Start configp
  | .stop => ili9341Stop
  | .acquireBus => ili9341AcquireBus isD1
  | .releaseBus => ili9341ReleaseBus isD1
  | .select => ili9341Select
  | .unselect => ili9341Unselect
  | .writeCommand cmd => ili9341WriteCommand cmd
  | .writeByte value => ili9341WriteByte value
  | .readByte miso => (fun _ => ()) <$> ili9341ReadByte miso
  | .writeChunk chunk length => ili9341WriteChunk chunk length
  | .readChunk chunk length miso => (fun _ => ()) <$> ili9341ReadChunk chunk length miso

/-- A sequence of calls on the driver object, in order. -/
def runOpsOn (isD1 : Bool) (ops : List Op) : PanelM Unit := ops.forM (Op.exec isD1)

/-- A sequence of calls on `ILI9341D1`, in order. -/
def runOps (ops : List Op) : PanelM Unit := runOpsOn true ops

/-! ## What each call does -/

section Runs

variable {p : Panel}

@[simp] theorem Link.writePad_ss (l : Link) (port pad : Nat) (bit : Bool) :
    (l.writePad port pad bit).ss = l.ss := rfl

@[simp] theorem Link.writePad_dcx_wire (l : Link) (port pad : Nat) (bit : Bool) :
    (l.writePad port pad bit).dcx_wire = l.dcx_wire := rfl

@[simp] theorem Link.writePad_trace (l : Link) (port pad : Nat) (bit : Bool) :
    (l.writePad port pad bit).trace = l.trace := rfl

@[simp] theorem Link.transfer_ss (l : Link) (x : Xfer) : (l.transfer x).ss = l.ss := rfl

@[simp] theorem Link.transfer_dcx_wire (l : Link) (x : Xfer) :
    (l.transfer x).dcx_wire = l.dcx_wire := rfl

@[simp] theorem Link.transfer_trace (l : Link) (x : Xfer) :
    (l.transfer x).trace = l.trace ++ [⟨l.ss, l.dcx, x⟩] := rfl

theorem run_map_ok {α β : Type} {m : PanelM α} (f : α → β) {a : α} {p' : Panel}
    (h : m.run p = .ok (a, p')) : (f <$> m).run p = .ok (f a, p') := by
  simp [StateT.run_map, h]

@[simp] theorem assertState_run (st : Ili9341State) (msg : String) (p : Panel) :
    (assertState st msg).run p = if p.drv.state = st then .ok ((), p) else .error (.panic msg) := by
  simp [assertState, StateT.run_bind]

@[simp] theorem ili9341Config_run (p : Panel) :
    ili9341Config.run p = match p.drv.config with
      | some c => .ok (c, p)
      | none => .error .nullConfig := by
  rcases p with ⟨⟨_, _ | _, _⟩, _⟩ <;> rfl

theorem ili9341Start_run {cfg : ILI9341Config} (hspi : cfg.spi ≠ none) (hst : p.drv.state = .stop) :
    (ili9341Start (some cfg)).run p =
      .ok ((), ⟨{ p.drv with config := some cfg, state := .ready }, { p.link with ss := false }⟩) := by
  simp [ili9341Start, StateT.run_bind, hspi, hst, spiSelectI, spiUnselectI]

theorem ili9341Stop_run (hst : p.drv.state = .ready) :
    ili9341Stop.run p = .ok ((), { p with drv := { p.drv with state := .stop } }) := by
  simp [ili9341Stop, StateT.run_bind, hst]

theorem ili9341SelectI_run {cfg : ILI9341Config} (hst : p.drv.state = .ready)
    (hc : p.drv.config = some cfg) :
    ili9341SelectI.run p = .ok ((), ⟨{ p.drv with state := .active }, { p.link with ss := true }⟩) := by
  simp [ili9341SelectI, StateT.run_bind, hst, hc, spiSelectI]

theorem ili9341UnselectI_run {cfg : ILI9341Config} (hst : p.drv.state = .active)
    (hc : p.drv.config = some cfg) :
    ili9341UnselectI.run p = .ok ((), ⟨{ p.drv with state := .ready }, { p.link with ss := false }⟩) := by
  simp [ili9341UnselectI, StateT.run_bind, hst, hc, spiUnselectI]

theorem writeValue_run {cfg : ILI9341Config} (msg : String) (bit : Bool) (v : UInt8)
    (hst : p.drv.state = .active) (hc : p.drv.config = some cfg) :
    (writeValue msg bit v).run p = .ok ((), ⟨{ p.drv with value := v },
      (p.link.writePad cfg.dcx_port cfg.dcx_pad bit).transfer (.send [v])⟩) := by
  simp only [writeValue, palWritePad, spiSend, StateT.run_bind, assertState_run, hst, ↓reduceIte,
    StateT.run_modify, ili9341Config_run, StateT.run_get, bind_pure_comp, map_pure, pure_bind,
    Ltdc.ok_bind, hc, Except.map_ok]

theorem ili9341WriteChunk_run {cfg : ILI9341Config} (buf : Nat → UInt8) (length : Nat)
    (hst : p.drv.state = .active) (hc : p.drv.config = some cfg) :
    (ili9341WriteChunk (some buf) length).run p = .ok ((), if length = 0 then p else
      ⟨p.drv, (p.link.writePad cfg.dcx_port cfg.dcx_pad true).transfer
        (.send ((List.range length).map buf))⟩) := by
  by_cases hl : length = 0 <;>
    simp only [ili9341WriteChunk, hl, ↓reduceIte, bind_pure_comp, id_map', palSetPad, palWritePad,
      spiSend, pure_bind, StateT.run_bind, assertState_run, hst, ili9341Config_run, StateT.run_modify,
      map_pure, Ltdc.ok_bind, hc, Except.map_ok]

theorem ili9341ReadChunk_run {cfg : ILI9341Config} (a length : Nat) (miso : Nat → UInt8)
    (hst : p.drv.state = .active) (hc : p.drv.config = some cfg) :
    (ili9341ReadChunk (some a) length miso).run p = if length = 0 then .ok ([], p) else
      .ok ((List.range length).map miso, ⟨p.drv, (p.link.writePad cfg.dcx_port cfg.dcx_pad true).transfer
        (.receive ((List.range length).map miso))⟩) := by
  by_cases hl : length = 0 <;>
    simp only [ili9341ReadChunk, hl, ↓reduceIte, palSetPad, palWritePad, spiReceive, bind_pure_comp,
      pure_bind, StateT.run_bind, assertState_run, hst, ili9341Config_run, StateT.run_modify,
      StateT.run_map, map_pure, Ltdc.ok_bind, hc, Except.map_ok]

/-- `ili9341ReadByte` halts, whatever the state. -/
theorem ili9341ReadByte_run (miso : UInt8) (p : Panel) :
    (ili9341ReadByte miso).run p = .error (.panic "ili9341ReadByte()") := by
  simp only [ili9341ReadByte, bind_pure_comp, StateT.run_bind, Ltdc.chDbgAssert_run, ↓reduceIte,
    Ltdc.error_bind]

end Runs

end Ili9341
