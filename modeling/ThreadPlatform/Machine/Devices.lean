import ThreadPlatform.Machine.Basic

/-!
# Working the devices

Operations on the machine's devices, by id, and on the descriptor table. The
wire-side operations (`receive`, `takeTx`, `setFault`, `interrupt`, `activate`)
wake a `select` that watches the device, as the device would signal its waiter.

A write to a UART also lets every running drain of that UART take what is now
queued: a drain sleeps on the FIFO and is woken by each write.
-/

namespace ThreadPlatform

/-- What a read hands back: the count it reports and the bytes it put in the buffer. -/
structure ReadOut where
  count : Nat
  bytes : List UInt8
  deriving DecidableEq, Repr

namespace Machine

/-- The UART with id `id`, if that device is a UART. -/
def uart? (id : DeviceId) : MachineM (Option Uart) := do
  match ← device? id with
  | some (.uart u) => return some u
  | _ => return none

/-- The event device with id `id`, if that device is one. -/
def eventLine? (id : DeviceId) : MachineM (Option EventLine) := do
  match ← device? id with
  | some (.event e) => return some e
  | _ => return none

/-- Changes the UART with id `id`; other devices stay as they are. -/
def updateUart (id : DeviceId) (f : Uart → Uart) : MachineM Unit := do
  if let some u ← uart? id then setDevice id (.uart (f u))

/-- Wire side: bytes arrive on a UART; returns how many fit. -/
def receive (id : DeviceId) (data : List UInt8) : MachineM Nat := do
  match ← uart? id with
  | some u =>
    let (n, u') := u.receive data
    setDevice id (.uart u')
    if u.installed && n < data.length then
      log .warn s!"UART{u.port} RX overflow, dropped {data.length - n} bytes"
    if 0 < n then wake u'.watched
    return n
  | none => return 0

/-- Wire side: everything queued for sending on a UART. -/
def takeTx (id : DeviceId) : MachineM (List UInt8) := do
  match ← uart? id with
  | some u =>
    let (data, u') := u.takeTx
    setDevice id (.uart u')
    if !data.isEmpty then wake u'.watched
    return data
  | none => return []

/-- Wire side: raises or clears a UART's line fault. -/
def setFault (id : DeviceId) (on : Bool) : MachineM Unit := do
  if let some u ← uart? id then
    setDevice id (.uart (u.setFault on))
    wake u.watched

/-- Wire side: interrupts the next operation on a UART. -/
def interrupt (id : DeviceId) : MachineM Unit := do
  if let some u ← uart? id then
    setDevice id (.uart u.interrupt)
    wake u.watched

/-- Installs a UART's driver. -/
def install (id : DeviceId) (p : UartParams) (rxSize txSize : Nat) :
    MachineM (Except DeviceError Unit) := do
  match ← uart? id with
  | some u =>
    match u.install p rxSize txSize with
    | .ok u' => setDevice id (.uart u'); return .ok ()
    | .error e => return .error e
  | none => return .ok ()

/-- Removes a UART's driver. -/
def uninstall (id : DeviceId) : MachineM Unit := updateUart id Uart.uninstall

/-- Sets how a UART sends `\n`. -/
def setLineEndings (id : DeviceId) (le : LineEndings) : MachineM Unit :=
  updateUart id fun u => { u with lineEndings := le }

/-- Opens an event device. -/
def openEvent (id : DeviceId) : MachineM (Except DeviceError Unit) := do
  match ← eventLine? id with
  | some e =>
    match e.openDevice with
    | .ok e' => setDevice id (.event e'); return .ok ()
    | .error err => return .error err
  | none => return .ok ()

/-- Signals an event device, waking a `select` that watches it. -/
def signalEvent (id : DeviceId) : MachineM (Except DeviceError Unit) := do
  match ← eventLine? id with
  | some e =>
    match e.signal with
    | .ok e' => setDevice id (.event e'); wake e.watched; return .ok ()
    | .error err => return .error err
  | none => return .ok ()

/-- Breaks the mainloop's wait; a closed event device ignores it, with a note. -/
def activate (id : DeviceId) : MachineM Unit := do
  match ← signalEvent id with
  | .ok () => pure ()
  | .error e => log .debug s!"mainloop break ignored: {e.message}"

/-- Lets a running drain of the UART take what is queued. -/
def feedThread (id : DeviceId) (th : WireThread) : MachineM WireThread :=
  match th.phase, th.action with
  | .draining got stop, .drain want =>
    if th.device = id then do
      let got := got ++ (← takeTx id)
      return { th with phase := if want ≤ got.length then .finished (.data got) else .draining got stop }
    else return th
  | _, _ => return th

/-- Lets every running drain of the UART take what is queued. -/
def feedDrains (id : DeviceId) : MachineM Unit := do
  let threads ← (← get).threads.mapM (feedThread id)
  modify fun m => { m with threads := threads }

/-- Reads through the device: up to `len` bytes of a UART, the pending count of an event device. -/
def deviceRead (id : DeviceId) (len : Nat) : MachineM (Except (IoFailure DeviceError) ReadOut) := do
  match ← device? id with
  | some (.uart u) =>
    let (r, u') := u.read len
    setDevice id (.uart u')
    return r.map fun bs => ⟨bs.length, bs⟩
  | some (.event e) =>
    let (r, e') := e.read
    setDevice id (.event e')
    return r.map fun n => ⟨n, []⟩
  | none => return .error .wouldBlock

/-- Writes through the device: queues on a UART, signals an event device. -/
def deviceWrite (id : DeviceId) (data : List UInt8) : MachineM (Except (IoFailure DeviceError) Nat) := do
  match ← device? id with
  | some (.uart u) =>
    let (r, u') := u.write data
    setDevice id (.uart u')
    if r matches .ok _ then feedDrains id
    return r
  | some (.event _) =>
    match ← signalEvent id with
    | .ok () => return .ok data.length
    | .error e => return .error (.error e)
  | none => return .error .wouldBlock

/-- What a device does once its descriptor is gone: an event device closes. -/
def deviceClose (id : DeviceId) : MachineM Unit := do
  if let some e ← eventLine? id then setDevice id (.event e.closeDevice)

/-- What the device could do right now. -/
def readiness (id : DeviceId) : MachineM Readiness := do
  return ((← device? id).map Device.readiness).getD ⟨false, false, false⟩

/-- Consumes a pending interruption of the device. -/
def takeInterrupt (id : DeviceId) : MachineM Bool := do
  match ← uart? id with
  | some u =>
    let (hit, u') := u.takeInterrupt
    setDevice id (.uart u')
    return hit
  | none => return false

/-- Registers a `select` with the device; a pending event wakes it at once. -/
def startWatch (id : DeviceId) : MachineM Unit := do
  match ← device? id with
  | some d =>
    setDevice id (d.setWatched true)
    if let .event e := d then wake e.pending
  | none => pure ()

/-- Forgets the `select` registered with the device. -/
def stopWatch (id : DeviceId) : MachineM Unit := do
  if let some d ← device? id then setDevice id (d.setWatched false)

/-- Puts a device at the lowest free dynamic descriptor. -/
def openFd (id : DeviceId) : MachineM (Except TableError Fd) :=
  modifyGet fun m =>
    match m.table.place id with
    | .ok (fd, t) => (.ok fd, { m with table := t })
    | .error e => (.error e, m)

/-- Puts a device at a reserved descriptor. -/
def openReserved (fd : Fd) (id : DeviceId) : MachineM (Except TableError Fd) :=
  modifyGet fun m =>
    match m.table.placeReserved fd id with
    | .ok t => (.ok fd, { m with table := t })
    | .error e => (.error e, m)

/-- Frees a descriptor and lets its device know. -/
def closeFd (fd : Fd) : MachineM (Except TableError Unit) := do
  match (← get).table.remove fd with
  | .ok (id, t) =>
    modify fun m => { m with table := t }
    deviceClose id
    return .ok ()
  | .error e => return .error e

/-- Whether a descriptor names a device. -/
def isOpen (fd : Fd) : MachineM Bool := return (← get).table.isOpen fd

/-- Reads through a descriptor. -/
def readFd (fd : Fd) (len : Nat) : MachineM (Except (IoFailure TableError) ReadOut) := do
  match (← get).table.lookup fd with
  | .ok id => return (← deviceRead id len).mapError (IoFailure.map .device)
  | .error e => return .error (.error e)

/-- Writes through a descriptor. -/
def writeFd (fd : Fd) (data : List UInt8) : MachineM (Except (IoFailure TableError) Nat) := do
  match (← get).table.lookup fd with
  | .ok id => return (← deviceWrite id data).mapError (IoFailure.map .device)
  | .error e => return .error (.error e)

end Machine

end ThreadPlatform
