import RemoteBSP.Protocol.Fragmentation

/-!
# Packets

`protocol/src/packet.cpp` and `protocol/src/crc32.cpp`: a packet is a header of 24 bytes, of which
the last four are a checksum of the other twenty and of the payload, and the payload.
-/

namespace RemoteBSP

/-- `kProtocolVersion`, the only version that `decode` accepts. -/
def kProtocolVersion : UInt8 := 1

/-- `kPacketHeaderSize`, the bytes of a packet before its payload. -/
def kPacketHeaderSize : ℕ := 24

/-- `kMaximumPayloadSize`, what is left of the largest packet behind the header. -/
def kMaximumPayloadSize : ℕ := kMaximumPacketSize - kPacketHeaderSize

/-- `kErrorResponseFlag`, set in every response whose status is not OK. -/
def kErrorResponseFlag : UInt16 := 0x0001

/-- `MessageType`, the direction of a packet. -/
inductive MessageType
  | request
  | response
  | event
deriving DecidableEq, Repr

/-- The number of a message type. -/
def MessageType.value : MessageType → UInt8
  | .request => 1
  | .response => 2
  | .event => 3

/-- The message type of a number, if `valid_message_type`. -/
def MessageType.ofValue (value : UInt8) : Option MessageType :=
  if value = 1 then some .request
  else if value = 2 then some .response
  else if value = 3 then some .event
  else none

/-! ## `Command` -/

namespace Command

/-- `Command::DiscoveryRequest`, which every node answers. -/
def discoveryRequest : UInt16 := 0x0001

/-- `Command::DiscoveryResponse`, in which a node reports its UUID and its version. -/
def discoveryResponse : UInt16 := 0x0002

/-- `Command::NodeAssign`, which gives the node of a UUID its node ID. -/
def nodeAssign : UInt16 := 0x0003

/-- `Command::Heartbeat`, which a node sends from time to time. -/
def heartbeat : UInt16 := 0x0004

/-- `Command::GetInfo`, which asks a node for its UUID and its version. -/
def getInfo : UInt16 := 0x0010

/-- `Command::GetCapability`, which asks a node for its capabilities. -/
def getCapability : UInt16 := 0x0011

/-- `Command::Ping`, whose payload the node sends back. -/
def ping : UInt16 := 0x0012

/-- `Command::BootloaderEnter`, which resets the node into its bootloader on CAN. -/
def bootloaderEnter : UInt16 := 0x0013

/-- `Command::BootloaderEnterUsb`, which resets the node into its bootloader on USB. -/
def bootloaderEnterUsb : UInt16 := 0x0014

/-- `Command::ResourceEnum`, which asks for the catalog. -/
def resourceEnum : UInt16 := 0x0030

/-- `Command::ResourceDescribe`, which asks for one entry of the catalog. -/
def resourceDescribe : UInt16 := 0x0031

/-- `Command::ResourceStatus`, which asks for the state of a resource. -/
def resourceStatus : UInt16 := 0x0032

/-- `Command::ResourceReset`, which brings a resource back to its initial state. -/
def resourceReset : UInt16 := 0x0033

/-- `Command::ResourceContract`, which asks for the contract of a resource. -/
def resourceContract : UInt16 := 0x0034

/-- `Command::ResourceAcquire`, which asks for a lease. -/
def resourceAcquire : UInt16 := 0x0035

/-- `Command::ResourceRenew`, which prolongs a lease. -/
def resourceRenew : UInt16 := 0x0036

/-- `Command::ResourceRelease`, which gives a lease back. -/
def resourceRelease : UInt16 := 0x0037

/-- `Command::ResourceLeaseStatus`, which asks for the leases on a resource. -/
def resourceLeaseStatus : UInt16 := 0x0038

/-- `Command::GpioCreate`, which opens an object on a pin. -/
def gpioCreate : UInt16 := 0x0100

/-- `Command::GpioRead`, which reads a pin through its object. -/
def gpioRead : UInt16 := 0x0101

/-- `Command::GpioWrite`, which drives a pin through its object. -/
def gpioWrite : UInt16 := 0x0102

/-- `Command::UartCreate`, which opens an object on a port. -/
def uartCreate : UInt16 := 0x0200

/-- `Command::UartRead`, which takes received bytes through an object. -/
def uartRead : UInt16 := 0x0201

/-- `Command::UartWrite`, which sends bytes through an object. -/
def uartWrite : UInt16 := 0x0202

/-- `Command::UartRxEvent`, in which a node reports received bytes. -/
def uartRxEvent : UInt16 := 0x0280

/-- `Command::MotionEnqueue`, which puts a segment into the motion queue. -/
def motionEnqueue : UInt16 := 0x0900

/-- `Command::MotionStatus`, which asks how the motion queue stands. -/
def motionStatus : UInt16 := 0x0901

/-- `Command::MotionAbort`, which stops the motion. -/
def motionAbort : UInt16 := 0x0902

/-- `Command::MotionClearFault`, which lets the motion queue take segments again. -/
def motionClearFault : UInt16 := 0x0903

/-- The response to the command carries the ID of a new object. -/
def createsObject (command : UInt16) : Bool := command = gpioCreate ∨ command = uartCreate

end Command

/-- `PacketHeader`, the fields of the 24 bytes in their order. -/
structure PacketHeader where
  /-- The version of the protocol. -/
  version : UInt8 := kProtocolVersion
  /-- Whether the packet asks, answers or reports. -/
  messageType : MessageType := .request
  /-- What it asks for, answers to or reports. -/
  command : UInt16 := 0
  /-- The session that it belongs to, zero for the control of nodes. -/
  sessionId : UInt32 := 0
  /-- The number of the request in its session. -/
  requestId : UInt32 := 0
  /-- The object that it names, zero for the node itself. -/
  objectId : UInt32 := 0
  /-- The bytes behind the header. -/
  payloadLength : UInt16 := 0
  /-- Flags, of which only the one of an error response has a meaning. -/
  flags : UInt16 := 0
  /-- The CRC-32 of the other twenty bytes of the header and of the payload. -/
  crc : UInt32 := 0
deriving DecidableEq, Repr

/-- `Packet`, a header and what stands behind it. -/
structure Packet where
  /-- The fields of the header. -/
  header : PacketHeader
  /-- The bytes behind the header. -/
  payload : List UInt8
deriving DecidableEq, Repr

/-- `PacketError`, the reasons for which the codec throws. -/
inductive PacketError
  | tooShort
  | tooLarge
  | unsupportedVersion
  | invalidMessageType
  | lengthMismatch
  | crcMismatch
deriving DecidableEq, Repr

/-- `DecodeError`, a reason with its text. -/
structure DecodeError where
  /-- Which rule the packet or the bytes break. -/
  code : PacketError
  /-- The text of `what`, which says what is wrong with the bytes. -/
  message : String
deriving DecidableEq, Repr

/-- The iteration of the checksum for one bit, by the reversed polynomial. -/
def crcBit (crc : UInt32) : UInt32 :=
  let mask := 0 - (crc &&& 1)
  (crc >>> 1) ^^^ (0xEDB88320 &&& mask)

/-- The iteration of the checksum for one byte. -/
def crcByte (crc : UInt32) (byte : UInt8) : UInt32 := crcBit^[8] (crc ^^^ byte.toUInt32)

/-- `crc32`, with all bits set at the beginning and inverted at the end. -/
def crc32 (data : List UInt8) : UInt32 := ~~~(data.foldl crcByte 0xFFFFFFFF)

/-- `write_header_without_crc`: the first twenty bytes of a packet. -/
def headerWithoutCrc (header : PacketHeader) : List UInt8 :=
  [header.version, header.messageType.value] ++ putU16 header.command ++
    putU32 header.sessionId ++ putU32 header.requestId ++ putU32 header.objectId ++
    putU16 header.payloadLength ++ putU16 header.flags

/-- `encode`. The message type is one of the three, so that error is not possible. -/
def encode (packet : Packet) : Except DecodeError (List UInt8) := do
  if packet.header.version ≠ kProtocolVersion then
    throw ⟨.unsupportedVersion, "unsupported protocol version"⟩
  if packet.payload.length > kMaximumPayloadSize ∨ packet.payload.length > 65535 then
    throw ⟨.tooLarge, "packet exceeds maximum size"⟩
  let header :=
    headerWithoutCrc { packet.header with payloadLength := UInt16.ofNat packet.payload.length }
  return header ++ putU32 (crc32 (header ++ packet.payload)) ++ packet.payload

/-- What `encode` writes is a header, the CRC of header and payload, and the payload. -/
theorem encode_eq_ok {packet : Packet} {bytes : List UInt8} (h : encode packet = .ok bytes) :
    ∃ header : PacketHeader, header.command = packet.header.command ∧
      bytes = headerWithoutCrc header ++
        putU32 (crc32 (headerWithoutCrc header ++ packet.payload)) ++ packet.payload := by
  unfold encode at h
  simp only [bind, Except.bind, throw, throwThe, MonadExceptOf.throw, pure, Except.pure] at h
  split_ifs at h
  exact ⟨{ packet.header with payloadLength := UInt16.ofNat packet.payload.length }, rfl,
    (Except.ok.inj h).symm⟩

/-- The command of an encoded packet. -/
theorem getU16_encode {packet : Packet} {bytes : List UInt8} (h : encode packet = .ok bytes) :
    getU16 bytes 2 = packet.header.command := by
  obtain ⟨header, hcommand, rfl⟩ := encode_eq_ok h
  rw [← hcommand]
  exact getU16_eq_of_bytes rfl rfl

/-- `decode`: a packet of the right size, version, type, length and CRC. -/
def decode (data : List UInt8) : Except DecodeError Packet := do
  if data.length < kPacketHeaderSize then
    throw ⟨.tooShort, "packet is shorter than header"⟩
  if data.length > kMaximumPacketSize then
    throw ⟨.tooLarge, "packet exceeds maximum size"⟩
  if byteAt data 0 ≠ kProtocolVersion then
    throw ⟨.unsupportedVersion, "unsupported protocol version"⟩
  match MessageType.ofValue (byteAt data 1) with
  | none => throw ⟨.invalidMessageType, "invalid message type"⟩
  | some messageType =>
    let payloadLength := getU16 data 16
    if data.length ≠ kPacketHeaderSize + payloadLength.toNat then
      throw ⟨.lengthMismatch, "payload length does not match packet size"⟩
    let payload := data.drop kPacketHeaderSize
    let receivedCrc := getU32 data 20
    if crc32 (data.take 20 ++ payload) ≠ receivedCrc then
      throw ⟨.crcMismatch, "packet CRC mismatch"⟩
    return {
      header := {
        version := byteAt data 0
        messageType := messageType
        command := getU16 data 2
        sessionId := getU32 data 4
        requestId := getU32 data 8
        objectId := getU32 data 12
        payloadLength := payloadLength
        flags := getU16 data 18
        crc := receivedCrc }
      payload := payload }

end RemoteBSP
