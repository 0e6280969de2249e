import Mathlib.Data.BitVec
import Mathlib.Data.List.GetD
import SensorIoT.Lib.Frame

/-!
# The commands to the GPS

`libs/GPS/gps.c` configures the receiver with binary messages.  Four functions lay out one message
each in a buffer on the stack, with a payload, its length and its checksum, and hand the buffer to
`writeUART`.  That is not told how long the message is and writes 255 bytes, so that what is behind
the buffer goes out as well.

The messages themselves are right: what is sent starts with the frame of the payload
(`Command.sent_run`).  It is never that frame alone (`sendsFrame_iff`).
-/

set_option autoImplicit false

namespace SensorIoT

/-! ## The messages -/

/-- `checkSum`: the value of `cs` when `n` is `pl`. -/
def checkSum : ℕ → List (BitVec 8) → BitVec 8
  | 0, _ => 0x00
  | n + 1, payload => checkSum n payload ^^^ payload.getD n 0x00

/-- The layout that the four functions have in common; `PL` is the length that they give. -/
def message (PL : ℕ) (payload : List (BitVec 8)) : List (BitVec 8) :=
  [0xA0, 0xA1, 0x00, BitVec.ofNat 8 PL] ++ payload ++ [checkSum PL payload, 0x0D, 0x0A]

/-! ## The device -/

/-- What a command finds: the results of the calls of the system, and the memory behind the buffer
of the message. -/
structure UartEnv where
  write : ℤ
  close : ℤ
  opened : ℤ
  behind : ℕ → BitVec 8

/-- The constants `BAUDRATE0` to `BAUDRATE3`. -/
inductive Baudrate
  | b4800
  | b9600
  | b38400
  | b115200
  deriving DecidableEq

/-- A call of the system. -/
inductive UartCall
  | write (bytes : List (BitVec 8))
  | close
  | openDevice
  | tcsetattr (baud : Baudrate)
  deriving DecidableEq

/-- Byte `i` of the memory from the buffer on. -/
def memoryFrom (buffer : List (BitVec 8)) (behind : ℕ → BitVec 8) (i : ℕ) : BitVec 8 :=
  if h : i < buffer.length then buffer[i] else behind (i - buffer.length)

/-- `writeUART`, with the calls that it makes. -/
def writeUART (env : UartEnv) (buffer : List (BitVec 8)) : ℤ × List UartCall :=
  (if env.write < 0 then -1 else 1, [.write ((List.range 255).map (memoryFrom buffer env.behind))])

/-- `closeUART`. -/
def closeUART (env : UartEnv) : ℤ × List UartCall :=
  (if env.close = -1 then -1 else 1, [.close])

/-- `openUART`. -/
def openUART (env : UartEnv) (baudRate : ℤ) : ℤ × List UartCall :=
  if env.opened < 0 then (-1, [.openDevice])
  else
    let baud : Baudrate :=
      if baudRate = 0 then .b4800
      else if baudRate = 1 then .b9600
      else if baudRate = 2 then .b38400
      else if baudRate = 3 then .b115200
      else .b9600
    (1, [.openDevice, .tcsetattr baud])

/-! ## The commands -/

/-- `setFactoryDefaults`. -/
def setFactoryDefaults (env : UartEnv) : ℤ × List UartCall :=
  writeUART env (message 2 [0x04, 0x01])

/-- `options` of `configureSerialPort`. -/
def serialOptions : List (BitVec 8) := [0x00, 0x01, 0x03, 0x05]

/-- `configureSerialPort`. -/
def configureSerialPort (env : UartEnv) (bauds : ℤ) : ℤ × List UartCall :=
  if bauds > -1 ∧ bauds < 4 then
    let sent := writeUART env (message 4 [0x05, 0x00, serialOptions.getD bauds.toNat 0x00, 0x00])
    if sent.1 = 1 then
      let closed := closeUART env
      if closed.1 = 1 then
        let reopened := openUART env bauds
        (reopened.1, sent.2 ++ closed.2 ++ reopened.2)
      else (-1, sent.2 ++ closed.2)
    else (-1, sent.2)
  else (-1, [])

/-- `configureMessageType`. -/
def configureMessageType (env : UartEnv) (type : ℤ) : ℤ × List UartCall :=
  writeUART env (message 2 [0x09, if type = 2 then 0x02 else if type = 0 then 0x00 else 0x01])

/-- `configureNMEA_Messages`. -/
def configureNMEA_Messages (env : UartEnv) (GGA GSA GSV GLL RMC VTG ZDA : ℤ) :
    ℤ × List UartCall :=
  if GGA > 1 ∨ GGA < 0 ∨ GSA > 1 ∨ GSA < 0 ∨ GSV > 1 ∨ GSV < 0 ∨ GLL > 1 ∨ GLL < 0 ∨
      RMC > 1 ∨ RMC < 0 ∨ VTG > 1 ∨ VTG < 0 ∨ ZDA > 1 ∨ ZDA < 0 then
    (-1, [])
  else
    writeUART env (message 9 [0x08, BitVec.ofInt 8 GGA, BitVec.ofInt 8 GSA, BitVec.ofInt 8 GSV,
      BitVec.ofInt 8 GLL, BitVec.ofInt 8 RMC, BitVec.ofInt 8 VTG, BitVec.ofInt 8 ZDA, 0x01])

/-- The four commands with their arguments. -/
inductive Command
  | setFactoryDefaults
  | configureSerialPort (bauds : ℤ)
  | configureMessageType (type : ℤ)
  | configureNMEA_Messages (GGA GSA GSV GLL RMC VTG ZDA : ℤ)

/-- What a command returns, and the calls that it makes. -/
def Command.run (env : UartEnv) : Command → ℤ × List UartCall
  | .setFactoryDefaults => SensorIoT.setFactoryDefaults env
  | .configureSerialPort bauds => SensorIoT.configureSerialPort env bauds
  | .configureMessageType type => SensorIoT.configureMessageType env type
  | .configureNMEA_Messages GGA GSA GSV GLL RMC VTG ZDA =>
    SensorIoT.configureNMEA_Messages env GGA GSA GSV GLL RMC VTG ZDA

/-- The byte strings that are handed to `write`. -/
def sentBytes (calls : List UartCall) : List (List (BitVec 8)) :=
  calls.filterMap fun
    | .write bytes => some bytes
    | _ => none

/-! ## The frames -/

/-- The frames of the receiver, as `gps.h` gives them: `<0xA0,0xA1><PL><payload><CS><0x0D,0x0A>`,
with a length of two bytes of which the first is zero. -/
def venus : Frame.Format (BitVec 8) where
  start := [0xA0, 0xA1, 0x00]
  bound := 2 ^ 8
  size := (BitVec.equivFin (m := 8)).symm.toEquiv
  check := List.foldl (· ^^^ ·) 0
  stop := [0x0D, 0x0A]

/-- Whatever the command sends is one frame and nothing behind it. -/
def SendsFrame (env : UartEnv) (c : Command) : Prop :=
  ∀ bytes ∈ sentBytes (c.run env).2,
    ∃ p : venus.Payload, bytes = venus.encode p ∧ venus.decode bytes = some [p]

/-- The arguments are refused. -/
def Command.Refused : Command → Prop
  | .configureSerialPort bauds => ¬ (0 ≤ bauds ∧ bauds ≤ 3)
  | .configureNMEA_Messages GGA GSA GSV GLL RMC VTG ZDA =>
    ¬ ∀ flag ∈ [GGA, GSA, GSV, GLL, RMC, VTG, ZDA], flag = 0 ∨ flag = 1
  | _ => False

/-- The payload of a command. -/
def Command.payload : Command → List (BitVec 8)
  | .setFactoryDefaults => [0x04, 0x01]
  | .configureSerialPort bauds => [0x05, 0x00, serialOptions.getD bauds.toNat 0x00, 0x00]
  | .configureMessageType type =>
    [0x09, if type = 2 then 0x02 else if type = 0 then 0x00 else 0x01]
  | .configureNMEA_Messages GGA GSA GSV GLL RMC VTG ZDA =>
    0x08 :: [GGA, GSA, GSV, GLL, RMC, VTG, ZDA].map (BitVec.ofInt 8) ++ [0x01]

section Message

variable {payload buffer : List (BitVec 8)}

theorem checkSum_eq_foldl_take {n : ℕ} (hn : n ≤ payload.length) :
    checkSum n payload = (payload.take n).foldl (· ^^^ ·) 0 := by
  induction n with
  | zero => rfl
  | succ n ih =>
    have hget : payload.getD n 0x00 = payload[n] := List.getD_eq_getElem payload 0x00 hn
    rw [checkSum, ih (Nat.le_of_succ_le hn), hget, ← List.take_concat_get' payload n hn,
      List.foldl_append]
    rfl

/-- The checksum of a whole payload is that of the format. -/
theorem checkSum_length (payload : List (BitVec 8)) :
    checkSum payload.length payload = venus.check payload := by
  rw [checkSum_eq_foldl_take le_rfl, List.take_length]
  rfl

/-- A message with the right length is the frame of its payload. -/
theorem message_length (h : payload.length < 2 ^ 8) :
    message payload.length payload = venus.encode ⟨payload, h⟩ := by
  have hsize : BitVec.ofNat 8 payload.length = venus.size ⟨payload.length, h⟩ :=
    BitVec.eq_of_toNat_eq (Nat.mod_eq_of_lt h)
  rw [message, checkSum_length, hsize, List.append_assoc]
  rfl

/-- What is written is the buffer and what is behind it. -/
theorem map_memoryFrom (hlen : buffer.length ≤ 255) (behind : ℕ → BitVec 8) :
    (List.range 255).map (memoryFrom buffer behind)
      = buffer ++ (List.range (255 - buffer.length)).map behind := by
  obtain ⟨n, hn⟩ := Nat.exists_eq_add_of_le hlen
  have hbuffer : (List.range buffer.length).map (memoryFrom buffer behind) = buffer := by
    refine List.ext_getElem (by simp) fun i _ hi => ?_
    simp [memoryFrom, hi]
  have hbehind : ((List.range n).map (buffer.length + ·)).map (memoryFrom buffer behind)
      = (List.range n).map behind := by
    rw [List.map_map]
    exact List.map_congr_left fun i _ => by simp [memoryFrom]
  rw [hn, List.range_add, List.map_append, hbuffer, hbehind, Nat.add_sub_cancel_left]

end Message

/-! ## What is sent -/

/-- The bytes behind the buffer of the message that go out with it. -/
def UartEnv.leaked (env : UartEnv) (payload : List (BitVec 8)) : List (BitVec 8) :=
  (List.range (248 - payload.length)).map env.behind

theorem sentBytes_append (calls calls' : List UartCall) :
    sentBytes (calls ++ calls') = sentBytes calls ++ sentBytes calls' :=
  List.filterMap_append

theorem sentBytes_closeUART (env : UartEnv) : sentBytes (closeUART env).2 = [] := rfl

theorem sentBytes_openUART (env : UartEnv) (baudRate : ℤ) :
    sentBytes (openUART env baudRate).2 = [] := by
  rw [openUART]
  split <;> rfl

theorem sentBytes_writeUART (env : UartEnv) {payload : List (BitVec 8)}
    (h : payload.length < 248) :
    sentBytes (writeUART env (message payload.length payload)).2
      = [venus.encode ⟨payload, h.trans (by decide)⟩ ++ env.leaked payload] := by
  have hlen : (message payload.length payload).length = payload.length + 7 := by
    simp [message]
  have hbehind : 255 - (message payload.length payload).length = 248 - payload.length := by
    rw [hlen, Nat.add_comm, ← Nat.sub_sub]
  rw [writeUART, map_memoryFrom (by omega), hbehind, message_length, UartEnv.leaked]
  rfl

namespace Command

variable {c : Command}

theorem length_payload_le (c : Command) : c.payload.length ≤ 9 := by
  cases c <;> simp [payload]

/-- The payload of a command, with its length. -/
def framed (c : Command) : venus.Payload :=
  ⟨c.payload, c.length_payload_le.trans_lt (by decide)⟩

/-- A command whose arguments are refused makes no call. -/
theorem run_of_refused (h : c.Refused) (env : UartEnv) : c.run env = (-1, []) := by
  cases c with
  | setFactoryDefaults => exact h.elim
  | configureMessageType type => exact h.elim
  | configureSerialPort bauds =>
    exact if_neg fun hb => h ⟨by omega, by omega⟩
  | configureNMEA_Messages GGA GSA GSV GLL RMC VTG ZDA =>
    refine if_pos ?_
    by_contra hflags
    refine h fun flag hmem => ?_
    simp only [List.mem_cons, List.not_mem_nil, or_false] at hmem
    omega

/-- Else it sends its message, whatever comes of it. -/
theorem sent_eq_writeUART (h : ¬ c.Refused) (env : UartEnv) :
    sentBytes (c.run env).2
      = sentBytes (writeUART env (message c.payload.length c.payload)).2 := by
  cases c with
  | setFactoryDefaults => rfl
  | configureMessageType type => rfl
  | configureSerialPort bauds =>
    obtain ⟨hlow, hhigh⟩ := not_not.mp h
    have hbauds : bauds > -1 ∧ bauds < 4 := ⟨by omega, by omega⟩
    simp only [run, SensorIoT.configureSerialPort, if_pos hbauds]
    split
    · split <;>
        simp only [sentBytes_append, sentBytes_closeUART, sentBytes_openUART, List.append_nil] <;>
        rfl
    · rfl
  | configureNMEA_Messages GGA GSA GSV GLL RMC VTG ZDA =>
    have hflags := not_not.mp h
    simp only [List.forall_mem_cons] at hflags
    have hin : ¬ (GGA > 1 ∨ GGA < 0 ∨ GSA > 1 ∨ GSA < 0 ∨ GSV > 1 ∨ GSV < 0 ∨ GLL > 1 ∨ GLL < 0 ∨
      RMC > 1 ∨ RMC < 0 ∨ VTG > 1 ∨ VTG < 0 ∨ ZDA > 1 ∨ ZDA < 0) := by omega
    rw [run, SensorIoT.configureNMEA_Messages, if_neg hin]
    rfl

/-- **What a command sends is the frame of its payload and 239 bytes or more from behind the
buffer.** -/
theorem sent_run (h : ¬ c.Refused) (env : UartEnv) :
    sentBytes (c.run env).2 = [venus.encode c.framed ++ env.leaked c.payload] := by
  rw [sent_eq_writeUART h, sentBytes_writeUART env (c.length_payload_le.trans_lt (by decide))]
  rfl

/-- Cut off where the message ends, it would be that frame alone. -/
theorem decode_take_sent (h : ¬ c.Refused) (env : UartEnv) {bytes : List (BitVec 8)}
    (hbytes : bytes ∈ sentBytes (c.run env).2) :
    venus.decode (bytes.take (c.payload.length + 7)) = some [c.framed] := by
  have hlen : (venus.encode c.framed).length = c.payload.length + 7 := by
    rw [Frame.Format.length_encode, Nat.add_comm venus.start.length]
    rfl
  rw [c.sent_run h env] at hbytes
  rw [List.mem_singleton.mp hbytes, List.take_left' hlen]
  exact Frame.Format.decode_encode c.framed

end Command

theorem leaked_ne_nil (c : Command) (env : UartEnv) : env.leaked c.payload ≠ [] := by
  have hlen := c.length_payload_le
  refine List.ne_nil_of_length_pos ?_
  rw [UartEnv.leaked, List.length_map, List.length_range]
  omega

/-- **A command sends a frame and nothing behind it only if it sends nothing at all.** -/
theorem sendsFrame_iff (env : UartEnv) (c : Command) : SendsFrame env c ↔ c.Refused := by
  refine ⟨fun h => ?_, fun h bytes hbytes => ?_⟩
  · by_contra hsends
    have hmem : venus.encode c.framed ++ env.leaked c.payload ∈ sentBytes (c.run env).2 := by
      rw [c.sent_run hsends env]
      exact List.mem_singleton_self _
    obtain ⟨p, hp, -⟩ := h _ hmem
    exact Frame.Format.encode_append_ne (leaked_ne_nil c env) hp
  · rw [c.run_of_refused h env] at hbytes
    cases hbytes

/-- A device on which every call succeeds, with zeros behind the message. -/
def zerosBehind : UartEnv := { write := 255, close := 0, opened := 3, behind := fun _ => 0x00 }

/-- The nine bytes of the reset to the factory defaults are followed by 246 zeros, and these are not
a frame. -/
theorem not_sendsFrame_defaults :
    sentBytes (Command.setFactoryDefaults.run zerosBehind).2
        = [[0xA0, 0xA1, 0x00, 0x02, 0x04, 0x01, 0x05, 0x0D, 0x0A] ++ List.replicate 246 0x00] ∧
      ¬ SendsFrame zerosBehind .setFactoryDefaults := by
  have hsent : sentBytes (Command.setFactoryDefaults.run zerosBehind).2
      = [[0xA0, 0xA1, 0x00, 0x02, 0x04, 0x01, 0x05, 0x0D, 0x0A] ++ List.replicate 246 0x00] := by
    decide +kernel
  refine ⟨hsent, fun h => ?_⟩
  obtain ⟨p, -, hdecode⟩ := h _ (hsent ▸ List.mem_singleton_self _)
  have hnone : venus.decode ([0xA0, 0xA1, 0x00, 0x02, 0x04, 0x01, 0x05, 0x0D, 0x0A]
      ++ List.replicate 246 0x00) = none := Option.isNone_iff_eq_none.mp (by decide +kernel)
  rw [hnone] at hdecode
  cases hdecode

end SensorIoT
