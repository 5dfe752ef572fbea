import RemoteBSP.Firmware.Motion
import RemoteBSP.Lib.Chunks
import RemoteBSP.Lib.RingCache
import RemoteBSP.Protocol.Discovery
import RemoteBSP.Protocol.Packet
import RemoteBSP.Transport.CanFrame

/-!
# The remote core of the firmware

The state of `firmware/src/core.c`, its own codec of the packets, and the sending of a packet in
fragments. The build configuration is a record whose fields carry the ranges of its options. The
callbacks of `rbsp_hal_t` act on a world of an arbitrary type; one that may be missing is an option.

The arrays of `rbsp_core_t` are functions of the index, and an entry whose `used`, `active` or
`valid` is false is `none`, since it is zeroed before it is used again. `tx_packet` is not part of
the state: every packet is encoded there from the start, so here it is a value.
-/

namespace RemoteBSP.Firmware

/-- `RBSP_PROTOCOL_VERSION`, the only version that `decode_request` accepts. -/
def RBSP_PROTOCOL_VERSION : UInt8 := 1

/-- `RBSP_HEADER_SIZE`, the bytes of a packet before its payload. -/
def RBSP_HEADER_SIZE : ℕ := 24

/-- `RBSP_FRAGMENT_HEADER_SIZE`, the bytes of a frame before its piece of the packet. -/
def RBSP_FRAGMENT_HEADER_SIZE : ℕ := 5

/-- `RBSP_CAN_ID_DISCOVERY`, under which the host looks for nodes and assigns their IDs. -/
def RBSP_CAN_ID_DISCOVERY : UInt32 := 0x700

/-- `RBSP_CAN_ID_REQUEST_BASE`, plus the node ID of the node that is asked. -/
def RBSP_CAN_ID_REQUEST_BASE : UInt32 := 0x600

/-- `RBSP_CAN_ID_RESPONSE_BASE`, plus the node ID of the node that answers. -/
def RBSP_CAN_ID_RESPONSE_BASE : UInt32 := 0x580

/-- `RBSP_CAN_ID_EVENT_BASE`, plus the node ID of the node that reports. -/
def RBSP_CAN_ID_EVENT_BASE : UInt32 := 0x500

/-- `RBSP_CAN_ID_PROVISIONAL_BASE`, plus the provisional ID of a node that has no node ID yet. -/
def RBSP_CAN_ID_PROVISIONAL_BASE : UInt32 := 0x480

/-- `RBSP_RESPONSE_ERROR_FLAG`, set in every response whose status is not OK. -/
def RBSP_RESPONSE_ERROR_FLAG : UInt16 := 0x0001

/-- `RBSP_FRAGMENT_FIRST`, set in the frame that opens a transfer. -/
def RBSP_FRAGMENT_FIRST : UInt8 := 0x01

/-- `RBSP_FRAGMENT_LAST`, set in the frame that completes it. -/
def RBSP_FRAGMENT_LAST : UInt8 := 0x02

/-- `RBSP_FRAGMENT_FLAG_MASK`, the bits of the flag byte that are not the length. -/
def RBSP_FRAGMENT_FLAG_MASK : UInt8 := 0x03

/-- `RBSP_FRAGMENT_LENGTH_SHIFT`: the length of the piece stands above the two flags. -/
def RBSP_FRAGMENT_LENGTH_SHIFT : UInt8 := 2

/-- `RBSP_BOOTLOADER_RESET_DELAY_MS`, between the response to the request and the reset. -/
def RBSP_BOOTLOADER_RESET_DELAY_MS : UInt32 := 100

/-- The status bytes `RBSP_STATUS_*` that the payload of a response begins with. -/
inductive Status
  | ok
  | unknownCommand
  | invalidPayload
  | objectNotFound
  | accessDenied
  | resourceExhausted
  | unsupportedCapability
  | resourceFailed
  | resourceBusy
deriving DecidableEq, Repr

/-- The byte by which a status is sent. -/
def Status.value : Status → UInt8
  | .ok => 0
  | .unknownCommand => 1
  | .invalidPayload => 2
  | .objectNotFound => 3
  | .accessDenied => 4
  | .resourceExhausted => 5
  | .unsupportedCapability => 6
  | .resourceFailed => 7
  | .resourceBusy => 8

/-- `rbsp_bootloader_mode_t`: the bus over which the bootloader is to be reached. -/
inductive BootloaderMode
  | can
  | usb
deriving DecidableEq, Repr

/-- `rbsp_gpio_direction_t`, as GPIO_CREATE chooses it for a pin. -/
inductive GpioDirection
  | input
  | output
deriving DecidableEq, Repr

/-- The options of the build that `core.c` reads, within the ranges of `Kconfig`. -/
structure CoreConfig where
  /-- `CONFIG_REMOTE_MAX_PACKET_SIZE`, the room of a reassembly slot in bytes. -/
  maxPacketSize : ℕ
  /-- `CONFIG_REMOTE_REQUEST_CACHE_ENTRIES`, the requests that are remembered with their responses.
  -/
  cacheEntries : ℕ
  /-- `CONFIG_REMOTE_CACHE_RESPONSE_SIZE`, above which a response is not remembered. -/
  cacheResponseSize : ℕ
  /-- `CONFIG_REMOTE_REASSEMBLY_SLOTS`, the packets that can be under way at once. -/
  reassemblySlots : ℕ
  /-- `CONFIG_REMOTE_REASSEMBLY_TIMEOUT_MS`, after which an unfinished packet is dropped. -/
  reassemblyTimeoutMs : UInt32
  /-- `CONFIG_HEARTBEAT_INTERVAL_MS`, between two heartbeats of the main loop. -/
  heartbeatIntervalMs : UInt32
  /-- `CONFIG_NODE_PROVISIONAL_ID`, under which a node answers before it has a node ID. -/
  provisionalId : UInt32
  /-- `CONFIG_GPIO_RESOURCE_COUNT`, the number of objects on pins that there is room for. -/
  gpioResourceCount : ℕ
  /-- `CONFIG_UART_RESOURCE_COUNT`, the number of objects on ports that there is room for. -/
  uartResourceCount : ℕ
  /-- `CONFIG_UART_EVENT_CHUNK_SIZE`, the received bytes that make an event at once. -/
  uartEventChunkSize : ℕ
  /-- `CONFIG_UART_EVENT_FLUSH_MS`, after which fewer of them make one. -/
  uartEventFlushMs : UInt32
  /-- `CONFIG_REMOTEBSP_MOTION`, and the options of the motion queue. -/
  motion : Option MotionConfig
  /-- The room for a packet is 256 bytes at least and 2048 at most. -/
  maxPacketSize_range : 256 ≤ maxPacketSize ∧ maxPacketSize ≤ 2048
  /-- At least two requests are remembered. -/
  cacheEntries_range : 2 ≤ cacheEntries ∧ cacheEntries ≤ 32
  /-- A response with a header and some data can be remembered. -/
  cacheResponseSize_range : 64 ≤ cacheResponseSize ∧ cacheResponseSize ≤ 512
  /-- At least one packet can be under way. -/
  reassemblySlots_range : 1 ≤ reassemblySlots ∧ reassemblySlots ≤ 4
  /-- An unfinished packet waits for at least 50 ms. -/
  reassemblyTimeoutMs_range : 50 ≤ reassemblyTimeoutMs ∧ reassemblyTimeoutMs ≤ 5000
  /-- The heartbeat is neither faster than 10 Hz nor slower than one in two seconds. -/
  heartbeatIntervalMs_range : 100 ≤ heartbeatIntervalMs ∧ heartbeatIntervalMs ≤ 2000
  /-- The provisional ID fits behind its CAN ID base, and is not zero. -/
  provisionalId_range : 1 ≤ provisionalId ∧ provisionalId ≤ 127
  /-- There is at least one pin. -/
  gpioResourceCount_range : 1 ≤ gpioResourceCount ∧ gpioResourceCount ≤ 32
  /-- A board need not have a port. -/
  uartResourceCount_le : uartResourceCount ≤ 8
  /-- The chunk of an event is eight bytes at least and 256 at most. -/
  uartEventChunkSize_range : 8 ≤ uartEventChunkSize ∧ uartEventChunkSize ≤ 256

/-- There is a place in the cache. -/
instance (config : CoreConfig) : NeZero config.cacheEntries :=
  ⟨by have := config.cacheEntries_range; omega⟩

/-- `rbsp_can_frame_t`: the data are those of its length. -/
structure CanFrame where
  /-- The 11-bit identifier, a base plus a node ID. -/
  identifier : UInt32
  /-- The data bytes, padding included. -/
  data : List UInt8
deriving DecidableEq, Repr

/-- `rbsp_node_info_t`, what a board reports in answer to DISCOVERY_REQUEST and GET_INFO. -/
structure NodeInfo where
  /-- The UUID by which the host recognises the board and assigns it a node ID. -/
  uuid : NodeUuid
  /-- The major version of the firmware. -/
  firmwareMajor : UInt16
  /-- The minor version of the firmware. -/
  firmwareMinor : UInt16
  /-- The patch level of the firmware. -/
  firmwarePatch : UInt16
  /-- The number of the kind of board. -/
  boardType : UInt32

/-- `rbsp_hal_t`. A callback may change the world. What `uart_read` puts into its buffer is the
list returned, whose length is the count returned. -/
structure Hal (W : Type) where
  /-- Hands a frame to the bus driver, which may refuse it. -/
  canSend : W → CanFrame → Bool × W
  /-- The milliseconds since the start, which wrap around. -/
  milliseconds : W → UInt32 × W
  /-- Makes a pin an input, or an output with an initial level. -/
  gpioConfigure : Option (W → UInt16 → GpioDirection → Bool → Bool × W)
  /-- Drives an output. -/
  gpioWrite : Option (W → UInt16 → Bool → Bool × W)
  /-- Reads a pin: whether it succeeds, and the level. -/
  gpioRead : Option (W → UInt16 → (Bool × Bool) × W)
  /-- Configures a port: baud rate, data bits, stop bits and parity. -/
  uartConfigure : Option (W → UInt8 → UInt32 → UInt8 → UInt8 → UInt8 → Bool × W)
  /-- Reads from a port, with the capacity of the buffer. -/
  uartRead : Option (W → UInt8 → ℕ → List UInt8 × W)
  /-- Hands bytes to the port, which says whether it has taken them. -/
  uartWrite : Option (W → UInt8 → List UInt8 → Bool × W)
  /-- The nanoseconds by which the motion queue is timed. -/
  nanoseconds : Option (W → UInt64 × W)
  /-- How many axes the callbacks below drive. -/
  motionAxisCount : UInt8
  /-- Enables or disables the driver of an axis. -/
  motionSetEnable : Option (W → ℕ → Bool → Bool × W)
  /-- Sets the direction output of an axis. -/
  motionSetDirection : Option (W → ℕ → Bool → Bool × W)
  /-- Raises or lowers the step output of an axis. -/
  motionSetStep : Option (W → ℕ → Bool → Bool × W)
  /-- Reads a limit switch: whether it succeeds, and the switch. -/
  motionLimitActive : Option (W → ℕ → (Bool × Bool) × W)
  /-- Resets the chip into the bootloader. The model goes on if the callback returns. -/
  enterBootloader : Option (W → BootloaderMode → W)

/-- `rbsp_reassembly_slot_t`, a packet of which some fragments have arrived. -/
structure ReassemblySlot where
  /-- The CAN identifier under which its fragments come. -/
  streamId : UInt32
  /-- The transfer ID that they carry. -/
  transferId : UInt16
  /-- The sequence of the next fragment. -/
  nextSequence : UInt16
  /-- When a fragment was last received. -/
  lastUpdateMs : UInt32
  /-- The bytes of the packet received so far. -/
  packet : List UInt8
deriving DecidableEq, Repr

/-- `rbsp_request_cache_entry_t`, a request that was executed, with its response. -/
structure CacheEntry where
  /-- The session that asked. -/
  sessionId : UInt32
  /-- The number of the request in its session. -/
  requestId : UInt32
  /-- The command that was executed. -/
  command : UInt16
  /-- The object that the request named. -/
  objectId : UInt32
  /-- The flags of the request. -/
  flags : UInt16
  /-- The CRC of the request, which stands for its payload. -/
  requestCrc : UInt32
  /-- The encoded response, which a repetition of the request is answered with. -/
  response : List UInt8
deriving DecidableEq, Repr

/-- `rbsp_gpio_object_t`, the object that GPIO_CREATE opens on a pin. -/
structure GpioObject where
  /-- The ID by which requests name the object. -/
  objectId : UInt32
  /-- The pin that it drives or reads. -/
  pin : UInt16
  /-- Whether it drives the pin or reads it. -/
  direction : GpioDirection
deriving DecidableEq, Repr

/-- `rbsp_uart_object_t`, the object that UART_CREATE opens on a port. -/
structure UartObject where
  /-- The ID by which requests name the object. -/
  objectId : UInt32
  /-- The port that it is open on. -/
  port : UInt8
  /-- Whether received bytes are sent as events, or wait for UART_READ. -/
  streaming : Bool
  /-- The bytes received that the next event will carry. -/
  pending : List UInt8
  /-- When the first of them was received. -/
  firstByteMs : UInt32
  /-- The number of the last event sent, zero before the first. -/
  eventSequence : UInt32
deriving DecidableEq, Repr

/-- The part of `rbsp_core_t` that `rbsp_core_init` sets once. -/
structure Board (W : Type) where
  /-- The callbacks to the hardware. -/
  hal : Hal W
  /-- Whether frames are classical or FD. -/
  canMode : CanMode
  /-- What the node says of itself. -/
  info : NodeInfo

/-- The part of `rbsp_core_t` that changes, and the world. -/
structure Core (config : CoreConfig) (W : Type) where
  /-- The node ID, zero if the node has none. -/
  nodeId : UInt32
  /-- The ID that the next object will be given. -/
  nextObjectId : UInt32
  /-- The transfer ID that the next packet will be sent under. -/
  nextTransferId : UInt16
  /-- The requests executed last, with their responses, in a ring. -/
  cache : RingCache CacheEntry config.cacheEntries
  /-- When the last heartbeat was sent. -/
  lastHeartbeatMs : UInt32
  /-- When a bootloader was requested, and which. -/
  bootloaderRequest : Option (UInt32 × BootloaderMode)
  /-- The packets under way, by slot. -/
  reassembly : Fin config.reassemblySlots → Option ReassemblySlot
  /-- The objects open on pins, by slot. -/
  gpioObjects : Fin config.gpioResourceCount → Option GpioObject
  /-- The objects open on ports, by slot. -/
  uartObjects : Fin config.uartResourceCount → Option UartObject
  /-- The queue of motion segments, which stays as it is in a build without motion. -/
  motion : MotionQueue
  /-- What lies behind the callbacks. -/
  world : W

/-- `rbsp_request_t`, a packet that `decode_request` has accepted. -/
structure Request where
  /-- The command to be executed. -/
  command : UInt16
  /-- The session that the request belongs to, zero for the control of a node. -/
  sessionId : UInt32
  /-- Its number in the session. -/
  requestId : UInt32
  /-- The object that it names, zero for the node itself. -/
  objectId : UInt32
  /-- The flags of the header, which no handler reads but the cache compares. -/
  flags : UInt16
  /-- The CRC of the header. -/
  crc : UInt32
  /-- The bytes behind the header. -/
  payload : List UInt8
deriving DecidableEq, Repr

/-! ## Packets -/

/-- `packet_crc`: the CRC-32 of the header up to its CRC field and of the payload. -/
def packetCrc (packet : List UInt8) : UInt32 :=
  ~~~((packet.drop RBSP_HEADER_SIZE).foldl crcByte ((packet.take 20).foldl crcByte 0xFFFFFFFF))

/-- `decode_request`: a packet of the right version, type, length and CRC is a request. -/
def decodeRequest (packet : List UInt8) : Option Request :=
  if packet.length < RBSP_HEADER_SIZE ∨ byteAt packet 0 ≠ RBSP_PROTOCOL_VERSION ∨
      byteAt packet 1 ≠ MessageType.request.value then none
  else
    let payloadLength := getU16 packet 16
    if RBSP_HEADER_SIZE + payloadLength.toNat ≠ packet.length ∨
        packetCrc packet ≠ getU32 packet 20 then none
    else some {
      command := getU16 packet 2
      sessionId := getU32 packet 4
      requestId := getU32 packet 8
      objectId := getU32 packet 12
      flags := getU16 packet 18
      crc := getU32 packet 20
      payload := packet.drop RBSP_HEADER_SIZE }

/-- The command of a request stands behind the version and the type. -/
theorem command_decodeRequest {packet : List UInt8} {request : Request}
    (h : decodeRequest packet = some request) : request.command = getU16 packet 2 := by
  unfold decodeRequest at h
  dsimp only at h
  split_ifs at h
  obtain rfl := Option.some.inj h
  rfl

/-- `encode_packet`, with the length of the payload and the CRC filled in. -/
def encodePacket (messageType : MessageType) (command : UInt16)
    (sessionId requestId objectId : UInt32) (flags : UInt16) (payload : List UInt8) : List UInt8 :=
  let header := [RBSP_PROTOCOL_VERSION, messageType.value] ++ putU16 command ++ putU32 sessionId ++
    putU32 requestId ++ putU32 objectId ++ putU16 (UInt16.ofNat payload.length) ++ putU16 flags
  header ++ putU32 (packetCrc (header ++ putU32 0 ++ payload)) ++ payload

/-- `make_status_response`: the status, then the data, under the header of the request. -/
def makeStatusResponse (request : Request) (status : Status) (objectId : UInt32)
    (data : List UInt8) : List UInt8 :=
  encodePacket .response request.command request.sessionId request.requestId objectId
    (if status = .ok then 0 else RBSP_RESPONSE_ERROR_FLAG) (status.value :: data)

/-- A packet is its header and its payload. -/
theorem length_encodePacket (messageType : MessageType) (command : UInt16)
    (sessionId requestId objectId : UInt32) (flags : UInt16) (payload : List UInt8) :
    (encodePacket messageType command sessionId requestId objectId flags payload).length =
      RBSP_HEADER_SIZE + payload.length := by
  simp only [encodePacket, List.length_append, List.length_cons, List.length_nil, length_putU16,
    length_putU32, RBSP_HEADER_SIZE]

/-- A status response is a header, the status and the data. -/
theorem length_makeStatusResponse (request : Request) (status : Status) (objectId : UInt32)
    (data : List UInt8) :
    (makeStatusResponse request status objectId data).length = 25 + data.length := by
  rw [makeStatusResponse, length_encodePacket, List.length_cons, RBSP_HEADER_SIZE]
  omega

/-! ## Fragments -/

/-- `canonical_fd_length`, the least length of an FD frame with room for as many bytes. -/
def canonicalFdLength (length : ℕ) : ℕ :=
  ([0, 1, 2, 3, 4, 5, 6, 7, 8, 12, 16, 20, 24, 32, 48, 64].find? fun l => length ≤ l).getD 64

/-- The bytes of a packet that fit into one frame. -/
def fragmentCapacity (mode : CanMode) : ℕ := mode.mtu - RBSP_FRAGMENT_HEADER_SIZE

/-- Frame `index` of the `count` frames that `send_packet` sends of a packet. -/
def fragmentFrame (mode : CanMode) (canId : UInt32) (transferId : UInt16) (packet : List UInt8)
    (count index : ℕ) : CanFrame :=
  let payload := packet.chunk (fragmentCapacity mode) index
  let flags := (UInt8.ofNat payload.length <<< RBSP_FRAGMENT_LENGTH_SHIFT) |||
    (if index = 0 then RBSP_FRAGMENT_FIRST else 0) |||
    (if index + 1 = count then RBSP_FRAGMENT_LAST else 0)
  let data := putU16 transferId ++ putU16 (UInt16.ofNat index) ++ [flags] ++ payload
  ⟨canId,
    match mode with
    | .flexibleDataRate => data ++ List.replicate (canonicalFdLength data.length - data.length) 0
    | .classical => data⟩

/-- The frames that `send_packet` sends of a packet. -/
def packetFrames (mode : CanMode) (packet : List UInt8) (transferId : UInt16) (canId : UInt32) :
    List CanFrame :=
  let count := List.chunkCount (fragmentCapacity mode) packet.length
  (List.range count).map (fragmentFrame mode canId transferId packet count)

/-- The loop of `send_packet`: it ends with the first frame that cannot be sent. -/
def sendFrames {W : Type} (hal : Hal W) (world : W) : List CanFrame → Bool × W
  | [] => (true, world)
  | frame :: frames =>
    let (sent, world) := hal.canSend world frame
    if sent then sendFrames hal world frames else (false, world)

namespace Core

variable {config : CoreConfig} {W : Type} (board : Board W) (core : Core config W)

/-- `allocate_transfer_id`, as the ID after the one allocated. -/
def transferIdAfter (transferId : UInt16) : UInt16 :=
  if transferId + 1 = 0 then 1 else transferId + 1

/-- `send_packet`, under a transfer ID that it allocates. -/
def sendPacket (packet : List UInt8) (canId : UInt32) : Bool × Core config W :=
  let (sent, world) := sendFrames board.hal core.world
    (packetFrames board.canMode packet core.nextTransferId canId)
  (sent, { core with nextTransferId := transferIdAfter core.nextTransferId, world := world })

/-- `response_can_id`: the provisional one as long as the node has no node ID. -/
def responseCanId : UInt32 :=
  if core.nodeId = 0 then RBSP_CAN_ID_PROVISIONAL_BASE + config.provisionalId
  else RBSP_CAN_ID_RESPONSE_BASE + core.nodeId

/-! ## The cache -/

/-- `find_cache`, by the session and the number of the request. -/
def findCache (request : Request) : Option CacheEntry :=
  core.cache.find? fun entry =>
    entry.sessionId = request.sessionId ∧ entry.requestId = request.requestId

/-- `same_cached_request`: the remembered fields and the CRC agree. -/
def sameCachedRequest (entry : CacheEntry) (request : Request) : Bool :=
  entry.command = request.command ∧ entry.objectId = request.objectId ∧
    entry.flags = request.flags ∧ entry.requestCrc = request.crc

/-- The entry that `insert_cache` makes of a request and its response. -/
def cacheEntry (request : Request) (response : List UInt8) : CacheEntry where
  sessionId := request.sessionId
  requestId := request.requestId
  command := request.command
  objectId := request.objectId
  flags := request.flags
  requestCrc := request.crc
  response := response

/-- `insert_cache`: the oldest entry gives way, unless the response is too long to be remembered. -/
def insertCache (request : Request) (response : List UInt8) : Core config W :=
  if config.cacheResponseSize < response.length then core
  else { core with cache := core.cache.insert (cacheEntry request response) }

end Core

end RemoteBSP.Firmware
