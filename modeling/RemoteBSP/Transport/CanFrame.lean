import RemoteBSP.Protocol.Wire

/-!
# CAN frames

`transport/src/can_frame_codec.cpp`: the conversion between a `CanMessage` and the `can_frame` and
`canfd_frame` of the operating system, with the constants of `linux/can.h`. A Classical frame
carries the data as it is. A CAN-FD frame has one of a few lengths, and the data is padded with
zeros to the next one (`canonicalFdLength`).

`classical_round_trip` and `fd_round_trip` say what a message becomes on its way through a frame.
-/

namespace RemoteBSP

/-- `CAN_EFF_FLAG`: the identifier has 29 bits. -/
def CAN_EFF_FLAG : UInt32 := 0x80000000

/-- `CAN_RTR_FLAG`: a remote transmission request, which is refused. -/
def CAN_RTR_FLAG : UInt32 := 0x40000000

/-- `CAN_ERR_FLAG`: an error frame, which is refused. -/
def CAN_ERR_FLAG : UInt32 := 0x20000000

/-- `CAN_SFF_MASK`: the bits of a standard identifier. -/
def CAN_SFF_MASK : UInt32 := 0x7FF

/-- `CAN_EFF_MASK`: the bits of an extended identifier. -/
def CAN_EFF_MASK : UInt32 := 0x1FFFFFFF

/-- `CAN_MAX_DLEN`, the most bytes of data in a classical frame. -/
def CAN_MAX_DLEN : ℕ := 8

/-- `CANFD_MAX_DLEN`, the most bytes of data in an FD frame. -/
def CANFD_MAX_DLEN : ℕ := 64

/-- `CANFD_BRS`: the bit rate is switched for the data. -/
def CANFD_BRS : UInt8 := 0x01

/-- `CanMode`, the kind of frames that a transport sends. -/
inductive CanMode
  | classical
  | flexibleDataRate
deriving DecidableEq, Repr

/-- `CanMessage`, a frame as the transport hands it on. -/
structure CanMessage where
  /-- The identifier, of 11 or 29 bits. -/
  identifier : UInt32
  /-- Whether the identifier has 29 bits. -/
  extendedIdentifier : Bool
  /-- The bytes of data, as many as the frame carries. -/
  data : List UInt8
  /-- Whether the bit rate is switched for the data. -/
  bitRateSwitch : Bool
deriving DecidableEq, Repr

/-- `CanFrameError`, the reasons for which a frame is refused. -/
inductive CanFrameError
  | payloadTooLarge
  | invalidIdentifier
  | invalidLength
  | invalidFlags
  | remoteTransmissionRequest
  | errorFrame
deriving DecidableEq, Repr

/-- `CanFrameException`, a reason with its text. -/
structure CanFrameException where
  /-- Which rule the message or the frame breaks. -/
  code : CanFrameError
  /-- The text of `what`, which says what is wrong with the frame. -/
  message : String
deriving DecidableEq, Repr

/-- `can_frame` of `linux/can.h`, a classical frame. -/
structure ClassicalFrame where
  /-- The identifier and the three flags above it. -/
  canId : UInt32
  /-- The number of the bytes of data. -/
  canDlc : UInt8
  /-- The buffer, of which the data are the beginning. -/
  data : List UInt8
  /-- The buffer has eight bytes, whatever the length of the data. -/
  length_data : data.length = CAN_MAX_DLEN

/-- `canfd_frame` of `linux/can.h`, an FD frame. -/
structure FdFrame where
  /-- The identifier and the three flags above it. -/
  canId : UInt32
  /-- The number of the bytes of data. -/
  len : UInt8
  /-- The flags of CAN FD, of which one asks for the fast data phase. -/
  flags : UInt8
  /-- The buffer, of which the data are the beginning. -/
  data : List UInt8
  /-- The buffer has 64 bytes, whatever the length of the data. -/
  length_data : data.length = CANFD_MAX_DLEN

/-- `canonical_fd_length`: the next length that a CAN-FD frame can have. -/
def canonicalFdLength (length : ℕ) : ℕ :=
  if length ≤ 8 then length
  else ([12, 16, 20, 24, 32, 48, 64].find? fun candidate => length ≤ candidate).getD CANFD_MAX_DLEN

/-- `encode_identifier`, which refuses an identifier that its format has no room for. -/
def encodeIdentifier (message : CanMessage) : Except CanFrameException UInt32 :=
  let maximum := if message.extendedIdentifier then CAN_EFF_MASK else CAN_SFF_MASK
  if message.identifier > maximum then
    .error ⟨.invalidIdentifier, "CAN 标识符超出范围"⟩
  else if message.extendedIdentifier then .ok (message.identifier ||| CAN_EFF_FLAG)
  else .ok message.identifier

/-- `decode_identifier`: a message without data, unless it is an error frame or a remote request. -/
def decodeIdentifier (identifier : UInt32) : Except CanFrameException CanMessage := do
  if identifier &&& CAN_ERR_FLAG != 0 then
    throw ⟨.errorFrame, "不接受 CAN 错误帧"⟩
  if identifier &&& CAN_RTR_FLAG != 0 then
    throw ⟨.remoteTransmissionRequest, "不接受 CAN 远程请求帧"⟩
  let extendedIdentifier := identifier &&& CAN_EFF_FLAG != 0
  return {
    identifier := identifier &&& (if extendedIdentifier then CAN_EFF_MASK else CAN_SFF_MASK)
    extendedIdentifier := extendedIdentifier
    data := []
    bitRateSwitch := false }

/-- A zeroed buffer of `size` bytes into which `data` has been copied. -/
def zeroBuffer (size : ℕ) (data : List UInt8) : List UInt8 :=
  (data ++ List.replicate size 0).take size

/-- A buffer has its size, whatever is put into it. -/
theorem length_zeroBuffer (size : ℕ) (data : List UInt8) :
    (zeroBuffer size data).length = size := by
  simp [zeroBuffer]

/-- `encode_classical_frame`, which refuses what only an FD frame can carry. -/
def encodeClassicalFrame (message : CanMessage) : Except CanFrameException ClassicalFrame := do
  if message.bitRateSwitch then
    throw ⟨.invalidFlags, "Classical CAN 不支持数据段速率切换"⟩
  if message.data.length > CAN_MAX_DLEN then
    throw ⟨.payloadTooLarge, "Classical CAN 数据超过 8 字节"⟩
  let canId ← encodeIdentifier message
  return {
    canId := canId
    canDlc := UInt8.ofNat message.data.length
    data := zeroBuffer CAN_MAX_DLEN message.data
    length_data := length_zeroBuffer _ _ }

/-- `decode_classical_frame`, which refuses a length that the buffer has not. -/
def decodeClassicalFrame (frame : ClassicalFrame) : Except CanFrameException CanMessage := do
  if frame.canDlc.toNat > CAN_MAX_DLEN then
    throw ⟨.invalidLength, "Classical CAN 帧长度无效"⟩
  let message ← decodeIdentifier frame.canId
  return { message with data := frame.data.take frame.canDlc.toNat }

/-- `encode_fd_frame`, which refuses more data than the buffer has room for. -/
def encodeFdFrame (message : CanMessage) : Except CanFrameException FdFrame := do
  if message.data.length > CANFD_MAX_DLEN then
    throw ⟨.payloadTooLarge, "CAN-FD 数据超过 64 字节"⟩
  let canId ← encodeIdentifier message
  return {
    canId := canId
    len := UInt8.ofNat (canonicalFdLength message.data.length)
    flags := if message.bitRateSwitch then CANFD_BRS else 0
    data := zeroBuffer CANFD_MAX_DLEN message.data
    length_data := length_zeroBuffer _ _ }

/-- `decode_fd_frame`, which refuses a length that the buffer has not. -/
def decodeFdFrame (frame : FdFrame) : Except CanFrameException CanMessage := do
  if frame.len.toNat > CANFD_MAX_DLEN then
    throw ⟨.invalidLength, "CAN-FD 帧长度无效"⟩
  let message ← decodeIdentifier frame.canId
  return {
    message with
    data := frame.data.take frame.len.toNat
    bitRateSwitch := frame.flags &&& CANFD_BRS != 0 }

/-- `mtu` of a transport, the most bytes of data in one of its frames. -/
def CanMode.mtu : CanMode → ℕ
  | .classical => CAN_MAX_DLEN
  | .flexibleDataRate => CANFD_MAX_DLEN

/-- A message's way over the bus: encoded by the sender, decoded by the receiver. -/
def CanMode.transmit (mode : CanMode) (message : CanMessage) :
    Except CanFrameException CanMessage :=
  match mode with
  | .classical => encodeClassicalFrame message >>= decodeClassicalFrame
  | .flexibleDataRate => encodeFdFrame message >>= decodeFdFrame

/-! ## Round trips -/

/-- A canonical length holds the data and is no longer than a frame. -/
theorem canonicalFdLength_spec {length : ℕ} (h : length ≤ CANFD_MAX_DLEN) :
    length ≤ canonicalFdLength length ∧ canonicalFdLength length ≤ CANFD_MAX_DLEN := by
  have hall : ∀ n : Fin 65, n.val ≤ canonicalFdLength n ∧ canonicalFdLength n ≤ CANFD_MAX_DLEN := by
    decide
  exact hall ⟨length, Nat.lt_succ_of_le h⟩

/-- A part of a buffer that holds the data is the data, padded with zeros. -/
theorem take_zeroBuffer {size n : ℕ} {data : List UInt8} (hdata : data.length ≤ n) (hn : n ≤ size) :
    (zeroBuffer size data).take n = data ++ List.replicate (n - data.length) 0 := by
  rw [zeroBuffer, List.take_take, min_eq_left hn, List.take_append, List.take_of_length_le hdata,
    List.take_replicate, min_eq_left (by omega)]

/-- A standard identifier is its own encoding. -/
theorem encodeIdentifier_standard {message : CanMessage}
    (hstandard : message.extendedIdentifier = false) (hid : message.identifier ≤ CAN_SFF_MASK) :
    encodeIdentifier message = .ok message.identifier := by
  unfold encodeIdentifier
  simp [hstandard, UInt32.not_lt.2 hid]

/-- A standard identifier is its own decoding. -/
theorem decodeIdentifier_standard {identifier : UInt32} (hid : identifier ≤ CAN_SFF_MASK) :
    decodeIdentifier identifier = .ok ⟨identifier, false, [], false⟩ := by
  have hall : ∀ i : Fin 2048, UInt32.ofNat i &&& CAN_ERR_FLAG = 0 ∧
      UInt32.ofNat i &&& CAN_RTR_FLAG = 0 ∧ UInt32.ofNat i &&& CAN_EFF_FLAG = 0 ∧
      UInt32.ofNat i &&& CAN_SFF_MASK = UInt32.ofNat i := by
    decide +kernel
  obtain ⟨herr, hrtr, heff, hsff⟩ :=
    hall ⟨identifier.toNat, Nat.lt_succ_of_le (UInt32.le_iff_toNat_le.1 hid)⟩
  simp only [UInt32.ofNat_toNat] at herr hrtr heff hsff
  unfold decodeIdentifier
  simp [herr, hrtr, heff, hsff, pure, Except.pure]

/-- A message of up to eight bytes comes through a Classical frame as it is. -/
theorem classical_round_trip {identifier : UInt32} (hid : identifier ≤ CAN_SFF_MASK)
    {data : List UInt8} (hdata : data.length ≤ CAN_MAX_DLEN) :
    CanMode.classical.transmit ⟨identifier, false, data, false⟩ =
      .ok ⟨identifier, false, data, false⟩ := by
  have hlen : (UInt8.ofNat data.length).toNat = data.length :=
    UInt8.toNat_ofNat_of_lt' (show data.length < 2^8 by unfold CAN_MAX_DLEN at hdata; omega)
  have htake := take_zeroBuffer (le_refl data.length) hdata
  rw [Nat.sub_self, List.replicate_zero, List.append_nil] at htake
  have henc : encodeIdentifier ⟨identifier, false, data, false⟩ = .ok identifier :=
    encodeIdentifier_standard rfl hid
  unfold CanMode.transmit encodeClassicalFrame decodeClassicalFrame
  simp [henc, decodeIdentifier_standard hid, hlen, htake, Nat.not_lt.2 hdata, bind, Except.bind,
    pure, Except.pure]

/-- A message of up to 64 bytes comes through a CAN-FD frame padded to a canonical length. -/
theorem fd_round_trip {identifier : UInt32} (hid : identifier ≤ CAN_SFF_MASK)
    {data : List UInt8} (hdata : data.length ≤ CANFD_MAX_DLEN) (bitRateSwitch : Bool) :
    CanMode.flexibleDataRate.transmit ⟨identifier, false, data, bitRateSwitch⟩ =
      .ok ⟨identifier, false,
        data ++ List.replicate (canonicalFdLength data.length - data.length) 0, bitRateSwitch⟩ := by
  obtain ⟨hle, hmax⟩ := canonicalFdLength_spec hdata
  have hlen : (UInt8.ofNat (canonicalFdLength data.length)).toNat = canonicalFdLength data.length :=
    UInt8.toNat_ofNat_of_lt' (show _ < 2^8 by unfold CANFD_MAX_DLEN at hmax; omega)
  have htake := take_zeroBuffer hle hmax
  have henc : encodeIdentifier ⟨identifier, false, data, bitRateSwitch⟩ = .ok identifier :=
    encodeIdentifier_standard rfl hid
  have hbrs : ((if bitRateSwitch then CANFD_BRS else 0) &&& CANFD_BRS != 0) = bitRateSwitch := by
    cases bitRateSwitch <;> decide
  unfold CanMode.transmit encodeFdFrame decodeFdFrame
  simp [henc, decodeIdentifier_standard hid, hlen, htake, hbrs, Nat.not_lt.2 hdata,
    Nat.not_lt.2 hmax, bind, Except.bind, pure, Except.pure]

end RemoteBSP
