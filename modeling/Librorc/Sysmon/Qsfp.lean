import Librorc.Sysmon.I2cCore

/-!
# The QSFP modules

A module has 256 addresses. The lower half is there on every page; the upper half
is that of the page in byte 127. Identification is on page 0, which six of the
readouts select before they read. Three others read byte 129 without that, and
see the page that is selected.
-/

namespace Librorc

open Librorc.Lib

/-! ## The modules -/

structure QsfpModule where
  lower : Word8 → Word8
  upper : Word8 → Word8 → Word8
  page : Word8

namespace QsfpModule

def byte (m : QsfpModule) (addr : Word8) : Word8 :=
  if addr = 127 then m.page else if addr < 127 then m.lower addr else m.upper m.page addr

def setByte (m : QsfpModule) (addr value : Word8) : QsfpModule :=
  if addr = 127 then { m with page := value }
  else if addr < 127 then { m with lower := Function.update m.lower addr value }
  else
    let upper := Function.update (m.upper m.page) addr value
    { m with upper := Function.update m.upper m.page upper }

/-- The module with another page selected. -/
def onPage (m : QsfpModule) (page : Word8) : QsfpModule := { m with page := page }

instance : RegDevice Word8 Word8 QsfpModule where
  read m addr := (m.byte addr, m)
  write := setByte

end QsfpModule

/-! ## The driver -/

/-- `LIBRORC_MAX_QSFP` -/
def librorcMaxQsfp : Word8 := 3

/-- `LIBRORC_SYSMON_QSFP_*_RATE_SELECTION` -/
def qsfpNoRateSelection : Word8 := 0
def qsfpExtRateSelection : Word8 := 1
def qsfpAptRateSelection : Word8 := 2

namespace QsfpModule

/-- The module of a cage. -/
def slave (index : Word8) : I2cSlave := ⟨index, qsfpI2cSlvaddr⟩

section Driver

variable (index : Word8)

def i2cReadMem (memaddr : Word8) : I2cClient Word8 := .read (slave index) memaddr .done

def i2cWriteMem (memaddr data : Word8) : I2cClient Unit :=
  .write (slave index) memaddr data none (.done ())

def qsfpSelectPage0 : I2cClient Unit := do
  let dataR ← i2cReadMem index 127
  if dataR ≠ 0 then i2cWriteMem index 127 0 else pure ()

/-- The loop, for an end below 255. -/
def qsfpI2cStringReadout (start stop : Word8) : I2cClient (List Word8) :=
  (inclusiveRange start stop).foldlM (fun readout i => do
    let dataR ← i2cReadMem index i
    pure (readout ++ [dataR])) []

def qsfpVendorName : I2cClient (List Word8) := do
  qsfpSelectPage0 index
  qsfpI2cStringReadout index 148 163

def qsfpPartNumber : I2cClient (List Word8) := do
  qsfpSelectPage0 index
  qsfpI2cStringReadout index 168 183

def qsfpSerialNumber : I2cClient (List Word8) := do
  qsfpSelectPage0 index
  qsfpI2cStringReadout index 196 211

def qsfpRevisionNumber : I2cClient (List Word8) := do
  qsfpSelectPage0 index
  qsfpI2cStringReadout index 184 185

/-- `(high << 8) | low`, to 16 bits. -/
def word (high low : Word8) : Word16 := (high.setWidth 16 <<< 8) ||| low.setWidth 16

/-- A value of two bytes, as it is read before it is scaled. -/
def readWord (high low : Word8) : I2cClient Word16 := do
  let high ← i2cReadMem index high
  let low ← i2cReadMem index low
  pure (word high low)

def qsfpWavelength : I2cClient Word16 := do
  qsfpSelectPage0 index
  readWord index 186 187

/-- The low byte is read first. -/
def qsfpTemperature : I2cClient Word16 := do
  let low ← i2cReadMem index 23
  let high ← i2cReadMem index 22
  pure (low.setWidth 16 + (high.setWidth 16 <<< 8))

def qsfpVoltage : I2cClient Word16 := readWord index 26 27

def qsfpTxBias (channel : Word8) : I2cClient Word16 :=
  readWord index (42 + 2 * channel) (43 + 2 * channel)

def qsfpRxPower (channel : Word8) : I2cClient Word16 :=
  readWord index (34 + 2 * channel) (35 + 2 * channel)

def qsfpTxFaultMap : I2cClient Word8 := do
  let value ← i2cReadMem index 4
  pure (value &&& 0x0f)

/-- What the three bytes say. -/
def rateSelection (options enhOptions extRateSel : Word8) : Word8 :=
  if enhOptions &&& 0x0c = 0x00 ∧ options &&& 0x20 = 0x00 then qsfpNoRateSelection
  else if enhOptions &&& 0x0c = 0x08 ∧ extRateSel &&& 0x01 = 0x01 then qsfpExtRateSelection
  else if enhOptions &&& 0x0c = 0x04 then qsfpAptRateSelection
  else qsfpNoRateSelection

def qsfpGetRateSelectionSupport : I2cClient Word8 := do
  qsfpSelectPage0 index
  let options ← i2cReadMem index 195
  let enhOptions ← i2cReadMem index 221
  let extRateSel ← i2cReadMem index 141
  pure (rateSelection options enhOptions extRateSel)

def qsfpPowerClass : I2cClient Word8 := do
  let value ← i2cReadMem index 129
  pure ((value >>> 6) + 1)

def qsfpHasTXCDR : I2cClient Bool := do
  let value ← i2cReadMem index 129
  pure (value &&& (1 <<< 3) != 0)

def qsfpHasRXCDR : I2cClient Bool := do
  let value ← i2cReadMem index 129
  pure (value &&& (1 <<< 2) != 0)

end Driver

end QsfpModule

inductive QsfpCall
  | vendorName
  | partNumber
  | serialNumber
  | revisionNumber
  | wavelength
  | rateSelectionSupport
  | powerClass
  | hasTXCDR
  | hasRXCDR
  | temperature
  | voltage
  | txBias (channel : Word8)
  | rxPower (channel : Word8)
  | txFaultMap

inductive QsfpResult
  | text (bytes : List Word8)
  | word (value : Word16)
  | byte (value : Word8)
  | flag (value : Bool)

namespace QsfpCall

open QsfpModule

def client (index : Word8) : QsfpCall → I2cClient QsfpResult
  | vendorName => .text <$> qsfpVendorName index
  | partNumber => .text <$> qsfpPartNumber index
  | serialNumber => .text <$> qsfpSerialNumber index
  | revisionNumber => .text <$> qsfpRevisionNumber index
  | wavelength => .word <$> qsfpWavelength index
  | rateSelectionSupport => .byte <$> qsfpGetRateSelectionSupport index
  | powerClass => .byte <$> qsfpPowerClass index
  | hasTXCDR => .flag <$> qsfpHasTXCDR index
  | hasRXCDR => .flag <$> qsfpHasRXCDR index
  | temperature => .word <$> qsfpTemperature index
  | voltage => .word <$> qsfpVoltage index
  | txBias channel => .word <$> qsfpTxBias index channel
  | rxPower channel => .word <$> qsfpRxPower index channel
  | txFaultMap => .byte <$> qsfpTxFaultMap index

/-! ## What the calls return -/

/-- The readouts that select page 0. -/
def selectsPage0 : QsfpCall → Bool
  | vendorName | partNumber | serialNumber | revisionNumber | wavelength
  | rateSelectionSupport => true
  | _ => false

/-- What a call says of the bytes it finds. -/
def value (bytes : Word8 → Word8) : QsfpCall → QsfpResult
  | vendorName => .text ((inclusiveRange 148 163).map bytes)
  | partNumber => .text ((inclusiveRange 168 183).map bytes)
  | serialNumber => .text ((inclusiveRange 196 211).map bytes)
  | revisionNumber => .text ((inclusiveRange 184 185).map bytes)
  | wavelength => .word (word (bytes 186) (bytes 187))
  | rateSelectionSupport => .byte (rateSelection (bytes 195) (bytes 221) (bytes 141))
  | powerClass => .byte ((bytes 129 >>> 6) + 1)
  | hasTXCDR => .flag (bytes 129 &&& (1 <<< 3) != 0)
  | hasRXCDR => .flag (bytes 129 &&& (1 <<< 2) != 0)
  | temperature => .word ((bytes 23).setWidth 16 + ((bytes 22).setWidth 16 <<< 8))
  | voltage => .word (word (bytes 26) (bytes 27))
  | txBias channel => .word (word (bytes (42 + 2 * channel)) (bytes (43 + 2 * channel)))
  | rxPower channel => .word (word (bytes (34 + 2 * channel)) (bytes (35 + 2 * channel)))
  | txFaultMap => .byte (bytes 4 &&& 0x0f)

/-- The page a call leaves selected when it returns. -/
def pageAfter (call : QsfpCall) (page : Word8) : Word8 := if call.selectsPage0 then 0 else page

end QsfpCall

/-! ## Readouts -/

namespace QsfpModule

variable {α β : Type} {index : Word8} {selects : Bool}

/-- A client that reads one module. It returns `value` of the bytes it finds, on
page 0 if it `selects` that, and writes nothing but the page. -/
structure Readout (index : Word8) (selects : Bool) (client : I2cClient α)
    (value : (Word8 → Word8) → α) : Prop where
  addresses : client.Addresses (· = slave index)
  writes : client.Writes fun addr page second =>
    selects = true ∧ addr = 127 ∧ page = 0 ∧ second = none
  exec : ∀ m : QsfpModule, client.exec m =
    (value (m.onPage (if selects then 0 else m.page)).byte,
      m.onPage (if selects then 0 else m.page))

theorem exec_selectPage0 (m : QsfpModule) : (qsfpSelectPage0 index).exec m = ((), m.onPage 0) := by
  have reads : (qsfpSelectPage0 index).exec m =
      ((if m.page ≠ 0 then i2cWriteMem index 127 0 else pure ()).exec m) := rfl
  rw [reads]
  split_ifs with other
  · rfl
  · rw [not_not] at other
    show ((), m) = _
    rw [onPage, ← other]

namespace Readout

theorem read (addr : Word8) :
    Readout index false (i2cReadMem index addr) fun bytes => bytes addr where
  addresses := ⟨rfl, fun _ => trivial⟩
  writes _ := trivial
  exec _ := rfl

theorem pure (a : α) : Readout index false (Pure.pure a) fun _ => a where
  addresses := trivial
  writes := trivial
  exec _ := rfl

theorem bind {client : I2cClient α} {value : (Word8 → Word8) → α} {f : α → I2cClient β}
    {next : α → (Word8 → Word8) → β} (first : Readout index false client value)
    (rest : ∀ a, Readout index false (f a) (next a)) :
    Readout index false (client >>= f) fun bytes => next (value bytes) bytes where
  addresses := BusClient.addresses_bind first.addresses fun a => (rest a).addresses
  writes := BusClient.writes_bind first.writes fun a => (rest a).writes
  exec m := by
    rw [BusClient.exec_bind, first.exec]
    exact (rest _).exec m

theorem map {client : I2cClient α} {value : (Word8 → Word8) → α} (f : α → β)
    (readout : Readout index selects client value) :
    Readout index selects (f <$> client) fun bytes => f (value bytes) where
  addresses := BusClient.addresses_bind readout.addresses fun _ => trivial
  writes := BusClient.writes_bind readout.writes fun _ => trivial
  exec m := (BusClient.exec_bind client _ m).trans (by rw [readout.exec]; rfl)

/-- What reads on any page reads on page 0 when that is selected first. -/
theorem select {client : I2cClient α} {value : (Word8 → Word8) → α}
    (readout : Readout index false client value) :
    Readout index true (qsfpSelectPage0 index >>= fun _ => client) value where
  addresses := by
    refine BusClient.addresses_bind ⟨rfl, fun page => ?_⟩ fun _ => readout.addresses
    show (if page ≠ 0 then i2cWriteMem index 127 0 else Pure.pure ()).Addresses _
    split_ifs
    · exact ⟨rfl, trivial⟩
    · trivial
  writes := by
    have none : client.Writes fun addr page second =>
        true = true ∧ addr = 127 ∧ page = 0 ∧ second = Option.none :=
      readout.writes.mono fun _ _ _ impossible => absurd impossible.1 Bool.false_ne_true
    refine BusClient.writes_bind (fun page => ?_) fun _ => none
    show (if page ≠ 0 then i2cWriteMem index 127 0 else Pure.pure ()).Writes _
    split_ifs
    · exact ⟨⟨rfl, rfl, rfl, rfl⟩, trivial⟩
    · trivial
  exec m := by
    rw [BusClient.exec_bind, exec_selectPage0]
    exact readout.exec (m.onPage 0)

theorem readWord (high low : Word8) :
    Readout index false (readWord index high low) fun bytes => word (bytes high) (bytes low) :=
  (read high).bind fun _ => (read low).bind fun _ => pure _

theorem stringReadout (start stop : Word8) :
    Readout index false (qsfpI2cStringReadout index start stop)
      fun bytes => (inclusiveRange start stop).map bytes := by
  have loop (addrs : List Word8) (done : List Word8) :
      Readout index false (addrs.foldlM (fun readout i => do
        let dataR ← i2cReadMem index i
        Pure.pure (readout ++ [dataR])) done) fun bytes => done ++ addrs.map bytes := by
    induction addrs generalizing done with
    | nil =>
        rw [List.foldlM_nil]
        exact ⟨trivial, trivial, fun _ => by rw [List.map_nil, List.append_nil]; rfl⟩
    | cons addr addrs ih =>
        have turn := ((read addr).bind fun dataR => pure (done ++ [dataR])).bind ih
        have same : (fun bytes : Word8 → Word8 => done ++ [bytes addr] ++ addrs.map bytes) =
            fun bytes => done ++ (addr :: addrs).map bytes := by
          funext bytes
          rw [List.append_assoc, List.map_cons, List.singleton_append]
        rw [List.foldlM_cons, ← same]
        exact turn
  exact loop (inclusiveRange start stop) []

/-- One rule for each call. -/
theorem client (index : Word8) (call : QsfpCall) :
    Readout index call.selectsPage0 (call.client index) call.value := by
  cases call with
  | vendorName => exact (stringReadout 148 163).select.map QsfpResult.text
  | partNumber => exact (stringReadout 168 183).select.map QsfpResult.text
  | serialNumber => exact (stringReadout 196 211).select.map QsfpResult.text
  | revisionNumber => exact (stringReadout 184 185).select.map QsfpResult.text
  | wavelength => exact (readWord 186 187).select.map QsfpResult.word
  | rateSelectionSupport =>
      exact ((read 195).bind fun _ => (read 221).bind fun _ => (read 141).bind fun _ =>
        pure _).select.map QsfpResult.byte
  | powerClass => exact ((read 129).bind fun _ => pure _).map QsfpResult.byte
  | hasTXCDR => exact ((read 129).bind fun _ => pure _).map QsfpResult.flag
  | hasRXCDR => exact ((read 129).bind fun _ => pure _).map QsfpResult.flag
  | temperature =>
      exact ((read 23).bind fun _ => (read 22).bind fun _ => pure _).map QsfpResult.word
  | voltage => exact (readWord 26 27).map QsfpResult.word
  | txBias channel => exact (readWord _ _).map QsfpResult.word
  | rxPower channel => exact (readWord _ _).map QsfpResult.word
  | txFaultMap => exact ((read 4).bind fun _ => pure _).map QsfpResult.byte

end Readout

/-! ## On the board -/

/-- A call of one of the modules, or a client that addresses none. -/
inductive Use
  | readout (index : Word8) (call : QsfpCall) (valid : index < librorcMaxQsfp)
  | other (client : I2cClient QsfpResult)
      (apart : ∀ index < librorcMaxQsfp, client.Addresses (· ≠ slave index))

def Use.client : Use → I2cClient QsfpResult
  | .readout index call _ => call.client index
  | .other client _ => client

structure Session where
  sysmon : Sysmon
  answers : I2cAnswers
  use : Use

def Session.run {δ : Type} [RegDevice Word8 Word8 δ] (session : Session) (core : I2cCore δ) :
    Except SysmonError QsfpResult × I2cCore δ :=
  (⟨session.sysmon, session.answers, session.use.client⟩ : I2cSession QsfpResult).run core

/-- What a use does with a module, which has the content of `m`, and the page it
has selected. -/
def PageStep (m : QsfpModule) (index page : Word8) : Use → Except SysmonError QsfpResult →
    Word8 → Prop
  | .readout index' call _, result, page' =>
      if index' = index then
        (∀ value, result = .ok value →
          value = call.value (m.onPage (call.pageAfter page)).byte ∧ page' = call.pageAfter page) ∧
        (page' = page ∨ page' = call.pageAfter page)
      else page' = page
  | .other _ _, _, page' => page' = page

theorem pageStep_self {m : QsfpModule} {page page' : Word8} {call : QsfpCall}
    {valid : index < librorcMaxQsfp} {result : Except SysmonError QsfpResult} :
    PageStep m index page (.readout index call valid) result page' ↔
      (∀ value, result = .ok value →
        value = call.value (m.onPage (call.pageAfter page)).byte ∧ page' = call.pageAfter page) ∧
      (page' = page ∨ page' = call.pageAfter page) :=
  iff_of_eq (if_pos rfl)

inductive PageSteps (m : QsfpModule) (index : Word8) :
    Word8 → List (Use × Except SysmonError QsfpResult) → Word8 → Prop
  | nil (page) : PageSteps m index page [] page
  | cons {page page' page'' use result rest} :
      PageStep m index page use result page' → PageSteps m index page' rest page'' →
      PageSteps m index page ((use, result) :: rest) page''

section Step

variable {m : QsfpModule} {page : Word8}

/-- However a readout ends, it has left the page alone or selected page 0. -/
theorem Readout.runOn {client : I2cClient α} {value : (Word8 → Word8) → α}
    (readout : Readout index selects client value) (throwing : ℕ → Bool) (e : SysmonError) (n : ℕ) :
    let ended := (client.runOn throwing e).run.run ⟨m.onPage page, n⟩
    let after := if selects then 0 else page
    (∃ a s', ended = (.ok a, s') ∧ a = value (m.onPage after).byte ∧ s'.device = m.onPage after) ∨
      ∃ e' s', ended = (.error e', s') ∧
        (s'.device = m.onPage page ∨ s'.device = m.onPage after) := by
  intro ended after
  -- the only write of a readout is the one that selects page 0
  have kept : ended.2.device = m.onPage page ∨ ended.2.device = m.onPage after := by
    refine BusClient.runOn_keeps (fun d => d = m.onPage page ∨ d = m.onPage after)
      (fun d addr held => held) ?_ readout.writes (.inl rfl)
    rintro d addr written second ⟨selected, rfl, rfl, rfl⟩ held
    have zero : after = 0 := if_pos selected
    have selectsZero : RegDevice.writeBoth d 127 0 none = d.onPage 0 := rfl
    rw [selectsZero, zero]
    rcases held with rfl | rfl
    · exact .inr rfl
    · exact .inr rfl
  cases run : ended with
  | mk result s' =>
      rw [run] at kept
      cases result with
      | error e' => exact .inr ⟨e', s', rfl, kept⟩
      | ok a =>
          have exec := BusClient.exec_of_runOn run
          rw [readout.exec] at exec
          obtain ⟨value, device⟩ := Prod.mk.inj exec
          exact .inl ⟨a, s', rfl, value.symm, device.symm⟩

end Step

variable {δ : Type} [RegDevice Word8 Word8 δ] {m : QsfpModule} {page : Word8}
  {core : I2cCore (QsfpModule ⊕ δ)}

theorem slave_valid (valid : index < librorcMaxQsfp) : ¬5 < (slave index).chain := by
  have three : librorcMaxQsfp = 3 := rfl
  have chain : (slave index).chain = index := rfl
  rw [three] at valid
  rw [chain]
  bv_omega

theorem Session.run_step (session : Session) (valid : index < librorcMaxQsfp)
    (found : core.devices (slave index).select = .inl (m.onPage page)) :
    ∃ page', (session.run core).2.devices (slave index).select = .inl (m.onPage page') ∧
      PageStep m index page session.use (session.run core).1 page' := by
  obtain ⟨sysmon, answers, use⟩ := session
  cases use with
  | other client apart =>
      refine ⟨page, ?_, rfl⟩
      exact (I2cSession.run_device_of_addresses ⟨sysmon, answers, client⟩ (apart index valid)
        (slave_valid valid) (not_not_intro rfl) core).trans found
  | readout index' call valid' =>
      have readout := Readout.client index' call
      obtain ⟨result, device, others⟩ := I2cSession.run_of_addresses
        ⟨sysmon, answers, call.client index'⟩ (slave_valid valid') readout.addresses core
      -- every cage has a chain of its own
      by_cases same : index' = index
      · subst same
        rw [found, BusClient.runOn_inl] at result device
        rcases readout.runOn (answers.throwing (slave index')) (slave index').error 0 with
          ⟨a, s', run, value, after⟩ | ⟨e, s', run, page'⟩
        · rw [run] at result device
          refine ⟨call.pageAfter page, device.trans (congrArg Sum.inl after), pageStep_self.mpr ?_⟩
          refine ⟨fun value' returned => ⟨?_, rfl⟩, .inr rfl⟩
          cases result.symm.trans returned
          exact value
        · rw [run] at result device
          have step {page'' : Word8} (page' : page'' = page ∨ page'' = call.pageAfter page) :
              PageStep m index' page (.readout index' call valid')
                (Session.run ⟨sysmon, answers, .readout index' call valid'⟩ core).1 page'' := by
            refine pageStep_self.mpr ⟨fun value returned => ?_, page'⟩
            cases result.symm.trans returned
          rcases page' with kept | selected
          · exact ⟨page, device.trans (congrArg Sum.inl kept), step (.inl rfl)⟩
          · exact ⟨_, device.trans (congrArg Sum.inl selected), step (.inr rfl)⟩
      · have differ : slave index ≠ slave index' := fun h => same (I2cSlave.mk.inj h).1.symm
        exact ⟨page, (others _ (slave_valid valid) differ).trans found, (if_neg same).mpr rfl⟩

theorem run_steps (sessions : List Session) (valid : index < librorcMaxQsfp)
    (found : core.devices (slave index).select = .inl (m.onPage page)) :
    let ended := callAll Session.run sessions core
    ∃ page', ended.2.devices (slave index).select = .inl (m.onPage page') ∧
      PageSteps m index page ((sessions.map (·.use)).zip ended.1) page' := by
  induction sessions generalizing core page with
  | nil => exact ⟨page, found, .nil page⟩
  | cons session rest ih =>
      obtain ⟨between, found', step⟩ := session.run_step valid found
      obtain ⟨page', last, steps⟩ := ih found'
      exact ⟨page', last, .cons step steps⟩

/-- Identification is that of page 0, whatever page was selected. -/
theorem PageSteps.page0 {page' : Word8} {uses : List (Use × Except SysmonError QsfpResult)}
    (steps : PageSteps m index page uses page') {call : QsfpCall}
    (selects : call.selectsPage0 = true) {value : QsfpResult} {valid : index < librorcMaxQsfp}
    (returned : (.readout index call valid, .ok value) ∈ uses) :
    value = call.value (m.onPage 0).byte := by
  induction steps with
  | nil => cases returned
  | cons step rest ih =>
      rcases List.mem_cons.mp returned with this | later
      · cases this
        have zero (page : Word8) : call.pageAfter page = 0 := if_pos selects
        have read := ((pageStep_self.mp step).1 value rfl).1
        rwa [zero] at read
      · exact ih later

end QsfpModule

open QsfpModule in
/-- **QSFP readouts.** In any sequence of readouts and of clients of other devices,
whatever is not acknowledged, the content of a module stays as it is; a readout
that returns returns the bytes of page 0 if it selects that page, and otherwise
those of the page that is selected, which is the first one until such a readout
has selected page 0. -/
theorem qsfp_readouts {δ : Type} [RegDevice Word8 Word8 δ] {core : I2cCore (QsfpModule ⊕ δ)}
    {m : QsfpModule} {index : Word8} (valid : index < librorcMaxQsfp)
    (found : core.devices (slave index).select = .inl m) (sessions : List Session) :
    let ended := callAll Session.run sessions core
    let uses := (sessions.map (·.use)).zip ended.1
    (∃ page', ended.2.devices (slave index).select = .inl (m.onPage page') ∧
      PageSteps m index m.page uses page') ∧
    ∀ call value, QsfpCall.selectsPage0 call = true →
      (.readout index call valid, .ok value) ∈ uses → value = call.value (m.onPage 0).byte := by
  intro ended uses
  obtain ⟨page', last, steps⟩ := run_steps sessions valid found
  exact ⟨⟨page', last, steps⟩, fun call value selects returned => steps.page0 selects returned⟩

open QsfpModule in
/-- A module that was left on page 3, read before and after page 0 is selected, and
one in a cage whose first access fails. -/
theorem qsfp_readouts_page3 :
    let m : QsfpModule := ⟨fun a => a, fun page a => page + a, 3⟩
    let core : I2cCore (QsfpModule ⊕ (Word8 → Word8)) := ⟨fun _ => .inl m, 0, 0, 0, 0⟩
    let sysmon : Sysmon := ⟨0, by decide⟩
    let sessions : List Session :=
      [⟨sysmon, firstChainSilent, .readout 1 .powerClass (by decide)⟩,
        ⟨sysmon, firstChainSilent, .readout 1 .vendorName (by decide)⟩,
        ⟨sysmon, firstChainSilent, .readout 0 .partNumber (by decide)⟩,
        ⟨sysmon, firstChainSilent, .readout 1 .powerClass (by decide)⟩]
    let ended := callAll Session.run sessions core
    let uses := (sessions.map (·.use)).zip ended.1
    (∃ page', ended.2.devices (slave 1).select = .inl (m.onPage page') ∧
      PageSteps m 1 m.page uses page') ∧
    ∀ call value, QsfpCall.selectsPage0 call = true →
      (.readout 1 call (by decide), .ok value) ∈ uses → value = call.value (m.onPage 0).byte :=
  qsfp_readouts (by decide) rfl _

end Librorc
