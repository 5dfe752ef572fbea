import RemoteBSP.Firmware.Runs
import RemoteBSP.Firmware.Codec
import RemoteBSP.MockMcu.MockNode

/-!
# The content of cached requests

The cache of `process_request` is asked by session and request ID. Of the request that an entry is
owed to, the entry keeps the command, the object and the flags, but of the payload only the checksum
that the packet carries. The machine `attributed` runs the firmware along with a record of the
requests that the places of the cache are owed to, so that a later request can be compared with the
request itself (`Request.SameContent`).

A request with the content of the one before has its checksum, so it is answered out of the cache.
A request with other content is refused, unless its payload has the checksum of the other one
(`answersExactly_iff`): this is the one condition under which the cache is exact
(`request_cache_exact_iff`). The mock node compares the payloads themselves, and its cache is exact
without any condition (`mock_answers_exactly`).
-/

namespace RemoteBSP.Firmware

variable {config : CoreConfig} {W : Type}

/-! ## The checksum of a request -/

namespace Request

/-- The two requests go by the same name. -/
def SameKey (request request' : Request) : Prop :=
  request.sessionId = request'.sessionId ∧ request.requestId = request'.requestId

/-- The two requests ask for the same. -/
structure SameContent (request request' : Request) : Prop where
  /-- The commands are the same. -/
  command : request.command = request'.command
  /-- The objects that are named are the same. -/
  objectId : request.objectId = request'.objectId
  /-- The flags are the same. -/
  flags : request.flags = request'.flags
  /-- The payloads are the same, and so are their lengths. -/
  payload : request.payload = request'.payload

/-- The header of the packet of a request, without the checksum. -/
def headerBytes (request : Request) : List UInt8 :=
  headerWithoutCrc {
    version := RBSP_PROTOCOL_VERSION
    messageType := .request
    command := request.command
    sessionId := request.sessionId
    requestId := request.requestId
    objectId := request.objectId
    payloadLength := UInt16.ofNat request.payload.length
    flags := request.flags }

/-- The request carries the checksum of its content. -/
def Checked (request : Request) : Prop :=
  request.crc = crc32 (request.headerBytes ++ request.payload)

/-- Two requests that ask for the same under the same name have the same checksum. -/
theorem SameContent.crc_eq {request request' : Request} (h : request.SameContent request')
    (hkey : request.SameKey request') (hchecked : request.Checked) (hchecked' : request'.Checked) :
    request.crc = request'.crc := by
  rw [hchecked, hchecked']
  unfold headerBytes
  rw [h.command, h.objectId, h.flags, h.payload, hkey.1, hkey.2]

end Request

/-- The checksum of a request that `decode_request` accepts. -/
theorem checked_decodeRequest {packet : List UInt8} {request : Request}
    (h : decodeRequest packet = some request) : request.Checked := by
  unfold decodeRequest at h
  dsimp only at h
  split_ifs at h with hheader hrest
  obtain ⟨hlength, hversion, htype⟩ : ¬packet.length < RBSP_HEADER_SIZE ∧
      byteAt packet 0 = RBSP_PROTOCOL_VERSION ∧ byteAt packet 1 = MessageType.request.value := by
    simpa only [not_or, not_not] using hheader
  obtain ⟨hpayload, hcrc⟩ : RBSP_HEADER_SIZE + (getU16 packet 16).toNat = packet.length ∧
      packetCrc packet = getU32 packet 20 := by
    simpa only [not_or, not_not] using hrest
  obtain rfl := Option.some.inj h
  have hfields : headerWithoutCrc (readHeader .request packet) = packet.take 20 :=
    headerWithoutCrc_readHeader htype.symm (le_trans (by decide) (not_lt.1 hlength))
  have hsize : UInt16.ofNat (packet.drop RBSP_HEADER_SIZE).length = getU16 packet 16 := by
    rw [List.length_drop, ← hpayload, Nat.add_sub_cancel_left, UInt16.ofNat_toNat]
  -- The header does not depend on the checksum that it carries.
  have hheader' : headerWithoutCrc {
      version := RBSP_PROTOCOL_VERSION
      messageType := .request
      command := getU16 packet 2
      sessionId := getU32 packet 4
      requestId := getU32 packet 8
      objectId := getU32 packet 12
      payloadLength := UInt16.ofNat (packet.drop RBSP_HEADER_SIZE).length
      flags := getU16 packet 18 } = headerWithoutCrc (readHeader .request packet) := by
    unfold headerWithoutCrc readHeader
    rw [hsize, hversion]
  unfold Request.Checked Request.headerBytes
  rw [hheader', hfields, ← hcrc, packetCrc_eq]

/-! ## Places of the cache -/

/-- A core, and the requests that the places of its cache are owed to. -/
structure Attributed (config : CoreConfig) (W : Type) where
  /-- The firmware as it runs. -/
  core : Core config W
  /-- The request whose execution each entry of the cache has come from. -/
  producer : Fin config.cacheEntries → Option Request

namespace Core

variable (board : Board W) (core : Core config W)

/-- The request whose response an operation puts into the cache. -/
def remembered : CoreOp W → Option Request
  | .acceptCan frame =>
    match core.processing board frame with
    | none => none
    | some (request, ready) => (ready.insertedEntry board request).map fun _ => request
  | .poll | .motionTick | .elapse _ => none

end Core

/-- An operation, with the record of what the cache is owed to. -/
def Attributed.step (board : Board W) (m : Attributed config W) (op : CoreOp W) :
    Attributed config W where
  core := m.core.step board op
  producer :=
    match m.core.remembered board op with
    | some request => Function.update m.producer m.core.cache.cursor (some request)
    | none => m.producer

/-- The firmware with the record of where its entries have come from. -/
def attributed (config : CoreConfig) (board : Board W) :
    Machine (Attributed config W) (CoreOp W) Unit where
  step m op := (m.step board op, ())

/-- A place of the cache is empty, or it holds the response to the request that it is owed to. -/
def Owed (entry : Option CacheEntry) (producer : Option Request) : Prop :=
  entry = none ∧ producer = none ∨
    ∃ request response, entry = some (Core.cacheEntry request response) ∧
      producer = some request ∧ request.Checked

/-- The record is right, and no two entries have the same name. -/
structure Attributed.Sound (m : Attributed config W) : Prop where
  /-- Each entry has come from the request that is recorded for it. -/
  owed : ∀ place, Owed (m.core.cache.entries place) (m.producer place)
  /-- No two entries remember requests with the same session and ID. -/
  unique : ∀ place place' entry entry', m.core.cache.entries place = some entry →
    m.core.cache.entries place' = some entry' → entry.sessionId = entry'.sessionId →
    entry.requestId = entry'.requestId → place = place'

variable {board : Board W} {m : Attributed config W} {request : Request} {ready : Core config W}

/-- The request that a frame completes has been decoded, and the cache is as it was. -/
theorem Core.processing_spec {core : Core config W} {frame : CanFrame}
    (h : core.processing board frame = some (request, ready)) :
    request.Checked ∧ ready.cache = core.cache := by
  have hspec := core.acceptCan_processing board frame
  rw [h] at hspec
  refine ⟨?_, by rw [hspec.1.eq]⟩
  unfold processing at h
  split_ifs at h
  split at h
  · cases h
  split at h
  · cases h
  split_ifs at h
  obtain ⟨decoded, hdecode, hpair⟩ := Option.map_eq_some_iff.1 h
  obtain ⟨rfl, -⟩ := Prod.mk.inj hpair
  exact checked_decodeRequest hdecode

/-- What is added to the cache is the response to a request whose name is not in it. -/
theorem Core.insertedEntry_spec {core : Core config W} {entry : CacheEntry}
    (h : core.insertedEntry board request = some entry) :
    core.findCache request = none ∧ ∃ response, entry = cacheEntry request response := by
  unfold insertedEntry at h
  split at h
  · next executed hfind hexecute =>
    split_ifs at h
    exact ⟨hfind, executed.response, (Option.some.inj h).symm⟩
  · cases h

/-- An operation leaves the cache as it is, or inserts the response to a request that is executed.
-/
theorem Core.cache_step (board : Board W) (core : Core config W) (op : CoreOp W) :
    (core.step board op).cache = core.cache ∧ core.remembered board op = none ∨
      ∃ request response, core.remembered board op = some request ∧ request.Checked ∧
        core.findCache request = none ∧
        (core.step board op).cache = core.cache.insert (cacheEntry request response) := by
  cases op with
  | acceptCan frame =>
    -- A frame is processed if it completes a request to this node.
    have hspec := core.acceptCan_processing board frame
    change (core.acceptCan board frame).cache = _ ∧ _ ∨ ∃ request response, _ ∧ _ ∧ _ ∧
      (core.acceptCan board frame).cache = _
    cases hprocessing : core.processing board frame with
    | none =>
      rw [hprocessing] at hspec
      refine .inl ⟨by rw [hspec.eq], ?_⟩
      unfold remembered
      dsimp only
      rw [hprocessing]
    | some found =>
      obtain ⟨request, ready⟩ := found
      obtain ⟨hchecked, hcache⟩ := processing_spec hprocessing
      rw [hprocessing] at hspec
      obtain ⟨-, place, haccept⟩ := hspec
      have hbehind : (core.acceptCan board frame).cache =
          (ready.processRequest board request).2.cache := by rw [haccept]; rfl
      have hremembered : core.remembered board (.acceptCan frame) =
          (ready.insertedEntry board request).map fun _ => request := by
        unfold remembered
        dsimp only
        rw [hprocessing]
      rw [hbehind, cache_processRequest, hcache, hremembered]
      -- What is inserted is the response to a request that has not been found.
      cases hinserted : ready.insertedEntry board request with
      | none => exact .inl ⟨rfl, rfl⟩
      | some entry =>
        obtain ⟨hfind, response, rfl⟩ := insertedEntry_spec hinserted
        have hfind' : core.findCache request = none := by
          unfold findCache at hfind ⊢
          rwa [hcache] at hfind
        exact .inr ⟨request, response, rfl, hchecked, hfind', rfl⟩
  | poll => exact .inl ⟨cache_poll board core, rfl⟩
  | motionTick =>
    refine .inl ⟨?_, rfl⟩
    unfold step
    dsimp only
    split
    · rfl
    · unfold motionTick
      split <;> rfl
  | elapse world => exact .inl ⟨rfl, rfl⟩

/-- An entry with a name lets the search for it succeed. -/
theorem Core.findCache_none {core : Core config W} (h : core.findCache request = none)
    {place : Fin config.cacheEntries} {entry : CacheEntry}
    (hentry : core.cache.entries place = some entry)
    (hsession : entry.sessionId = request.sessionId) :
    entry.requestId ≠ request.requestId := by
  intro hrequest
  have hfound := RingCache.find?_isSome (p := fun entry : CacheEntry =>
    decide (entry.sessionId = request.sessionId ∧ entry.requestId = request.requestId)) hentry
    (decide_eq_true ⟨hsession, hrequest⟩)
  unfold findCache at h
  rw [h] at hfound
  cases hfound

/-- Behind `rbsp_core_init` nothing is remembered, and nothing is recorded. -/
theorem sound_init {world : W} {start : Core config W}
    (h : Core.init config board world = some start) : (⟨start, fun _ => none⟩ :
      Attributed config W).Sound := by
  have hempty : start.cache = .empty := Core.cache_init h
  refine ⟨fun place => .inl ⟨by rw [hempty]; rfl, rfl⟩, fun place _ entry _ hentry => ?_⟩
  rw [hempty] at hentry
  cases hentry

/-- An operation keeps the record right. -/
theorem Attributed.Sound.step (h : m.Sound) (op : CoreOp W) : (m.step board op).Sound := by
  rcases m.core.cache_step board op with ⟨hcache, hremembered⟩ |
    ⟨request, response, hremembered, hchecked, hfind, hcache⟩
  -- Nothing has been inserted.
  · have hstep : m.step board op = ⟨m.core.step board op, m.producer⟩ := by
      unfold Attributed.step
      rw [hremembered]
    rw [hstep]
    exact ⟨fun place => hcache ▸ h.owed place, fun place place' entry entry' => by
      rw [hcache]
      exact h.unique place place' entry entry'⟩
  · have hstep : m.step board op = ⟨m.core.step board op,
        Function.update m.producer m.core.cache.cursor (some request)⟩ := by
      unfold Attributed.step
      rw [hremembered]
    -- The cursor is where the entry is put, and the other places are left alone.
    have hat : (m.core.step board op).cache.entries = Function.update m.core.cache.entries
        m.core.cache.cursor (some (Core.cacheEntry request response)) := by rw [hcache]; rfl
    have hother : ∀ place entry, m.core.cache.entries place = some entry →
        entry.sessionId = request.sessionId → entry.requestId ≠ request.requestId :=
      fun place entry hentry => Core.findCache_none hfind hentry
    rw [hstep]
    -- Every entry is owed to the request that is noted at its place.
    refine ⟨fun place => ?_, fun place place' entry entry' hentry hentry' hsession hrequest => ?_⟩
    · change Owed ((m.core.step board op).cache.entries place)
        (Function.update m.producer m.core.cache.cursor (some request) place)
      rw [hat]
      by_cases hplace : place = m.core.cache.cursor
      · rw [hplace, Function.update_self, Function.update_self]
        exact .inr ⟨request, response, rfl, rfl, hchecked⟩
      · rw [Function.update_of_ne hplace, Function.update_of_ne hplace]
        -- The new entry has a key of its own, since it has not been found before.
        exact h.owed place
    · change (m.core.step board op).cache.entries place = some entry at hentry
      change (m.core.step board op).cache.entries place' = some entry' at hentry'
      rw [hat] at hentry hentry'
      by_cases hplace : place = m.core.cache.cursor
      · by_cases hplace' : place' = m.core.cache.cursor
        · rw [hplace, hplace']
        · rw [hplace, Function.update_self] at hentry
          rw [Function.update_of_ne hplace'] at hentry'
          obtain rfl := Option.some.inj hentry
          exact absurd hrequest.symm (hother place' entry' hentry' hsession.symm)
      · by_cases hplace' : place' = m.core.cache.cursor
        · rw [Function.update_of_ne hplace] at hentry
          rw [hplace', Function.update_self] at hentry'
          obtain rfl := Option.some.inj hentry'
          exact absurd hrequest (hother place entry hentry hsession)
        · rw [Function.update_of_ne hplace] at hentry
          rw [Function.update_of_ne hplace'] at hentry'
          exact h.unique place place' entry entry' hentry hentry' hsession hrequest

/-! ## Exactness -/

/-- A request whose name is in the cache is answered out of it if it asks for the same as the one
before, without being executed. Otherwise it is neither executed nor answered, and nothing
changes. -/
def AnswersExactly (board : Board W) (m : Attributed config W) : CoreOp W → Prop
  | .acceptCan frame => ∀ request ready, m.core.processing board frame = some (request, ready) →
    ∀ place producer, m.producer place = some producer → producer.SameKey request →
      (producer.SameContent request → ∃ entry, m.core.cache.entries place = some entry ∧
        ready.reply board request = some entry.response ∧ ready.processRequest board request =
          ready.sendPacket board entry.response ready.responseCanId) ∧
      (¬producer.SameContent request → ready.reply board request = none ∧
        ready.processRequest board request = (false, ready))
  | .poll | .motionTick | .elapse _ => True

/-- No request has the name, the command, the object, the flags and the checksum of a request that
the cache remembers, but another payload. -/
def Distinct (board : Board W) (m : Attributed config W) : CoreOp W → Prop
  | .acceptCan frame => ∀ request ready, m.core.processing board frame = some (request, ready) →
    ∀ place producer, m.producer place = some producer → producer.SameKey request →
      producer.command = request.command → producer.objectId = request.objectId →
      producer.flags = request.flags → producer.crc = request.crc →
        producer.payload = request.payload
  | .poll | .motionTick | .elapse _ => True

/-- What is done with a request whose name is in the cache. -/
theorem processRequest_remembered (h : m.Sound) {frame : CanFrame}
    (hprocessing : m.core.processing board frame = some (request, ready))
    {place : Fin config.cacheEntries} {producer : Request}
    (hproducer : m.producer place = some producer) (hkey : producer.SameKey request) :
    ∃ response, m.core.cache.entries place = some (Core.cacheEntry producer response) ∧
      producer.Checked ∧
      if Core.sameCachedRequest (Core.cacheEntry producer response) request then
        ready.reply board request = some response ∧ ready.processRequest board request =
          ready.sendPacket board response ready.responseCanId
      else ready.reply board request = none ∧
        ready.processRequest board request = (false, ready) := by
  obtain ⟨-, hcache⟩ := Core.processing_spec hprocessing
  rcases h.owed place with ⟨-, hnone⟩ | ⟨producer', response, hentry, hsome, hchecked⟩
  · rw [hproducer] at hnone
    cases hnone
  rw [hproducer] at hsome
  obtain rfl := Option.some.inj hsome
  refine ⟨response, hentry, hchecked, ?_⟩
  -- The search finds this entry, since there is no other one with the name.
  have hfind : ready.findCache request = some (Core.cacheEntry producer response) := by
    unfold Core.findCache
    rw [hcache]
    have hfound := RingCache.find?_isSome (p := fun entry : CacheEntry =>
      decide (entry.sessionId = request.sessionId ∧ entry.requestId = request.requestId)) hentry
      (decide_eq_true hkey)
    obtain ⟨found, hfound⟩ := Option.isSome_iff_exists.1 hfound
    obtain ⟨hname, place', hentry'⟩ := RingCache.find?_spec hfound
    obtain ⟨hsession, hrequest⟩ := of_decide_eq_true hname
    have hplace := h.unique place' place found _ hentry' hentry (hsession.trans hkey.1.symm)
      (hrequest.trans hkey.2.symm)
    rw [hplace, hentry] at hentry'
    rw [hfound, Option.some.inj hentry']
  unfold Core.reply Core.processRequest
  rw [hfind]
  dsimp only
  cases Core.sameCachedRequest (Core.cacheEntry producer response) request with
  | true => exact ⟨rfl, rfl⟩
  | false => exact ⟨rfl, rfl⟩

/-- The cache answers exactly, as far as the checksums tell the payloads apart. -/
theorem answersExactly_iff (h : m.Sound) (op : CoreOp W) :
    AnswersExactly board m op ↔ Distinct board m op := by
  cases op with
  | acceptCan frame =>
    constructor
    -- A request that collides with the cached one would be answered with its response.
    · intro hexact request ready hprocessing place producer hproducer hkey hcommand hobject hflags
        hcrc
      obtain ⟨response, -, -, hspec⟩ := processRequest_remembered h hprocessing hproducer hkey
      have hsame : Core.sameCachedRequest (Core.cacheEntry producer response) request = true :=
        decide_eq_true ⟨hcommand, hobject, hflags, hcrc⟩
      rw [if_pos hsame] at hspec
      by_contra hpayload
      have hrefused := ((hexact request ready hprocessing place producer hproducer hkey).2
        fun hcontent => hpayload hcontent.payload).1
      rw [hspec.1] at hrefused
      cases hrefused
    · intro hdistinct request ready hprocessing place producer hproducer hkey
      have hrequest := (Core.processing_spec hprocessing).1
      obtain ⟨response, hentry, hchecked, hspec⟩ :=
        processRequest_remembered h hprocessing hproducer hkey
      -- The same request finds the response, since its checksum is the same.
      refine ⟨fun hcontent => ?_, fun hcontent => ?_⟩
      · have hsame : Core.sameCachedRequest (Core.cacheEntry producer response) request = true :=
          decide_eq_true ⟨hcontent.command, hcontent.objectId, hcontent.flags,
            hcontent.crc_eq hkey hchecked hrequest⟩
        rw [if_pos hsame] at hspec
        exact ⟨_, hentry, hspec⟩
      · -- The checksum gives the other payload away.
        have hother :
            ¬Core.sameCachedRequest (Core.cacheEntry producer response) request = true := by
          intro hsame
          obtain ⟨hcommand, hobject, hflags, hcrc⟩ := of_decide_eq_true hsame
          have hpayload := hdistinct request ready hprocessing place producer hproducer hkey
            hcommand hobject hflags hcrc
          exact hcontent ⟨hcommand, hobject, hflags, hpayload⟩
        rw [if_neg hother] at hspec
        exact hspec
  | poll | motionTick | elapse => exact Iff.rfl

/-- In every run of the firmware the cache holds at most one response for a name, and it answers
exactly if and only if no request comes with the checksum, but not the payload, of the one with its
name that the cache remembers. -/
theorem request_cache_exact_iff (config : CoreConfig) (board : Board W) (world : W)
    (start : Core config W) (hinit : Core.init config board world = some start)
    (ops : List (CoreOp W)) :
    ((attributed config board).run ⟨start, fun _ => none⟩ ops).Sound ∧
      ((attributed config board).Along (AnswersExactly board) ⟨start, fun _ => none⟩ ops ↔
        (attributed config board).Along (Distinct board) ⟨start, fun _ => none⟩ ops) :=
  ⟨(attributed config board).run_induction (P := Attributed.Sound) (fun _ op h => h.step op)
      (sound_init hinit) ops,
    (attributed config board).along_congr (P := Attributed.Sound) (fun _ op h => h.step op)
      (fun _ op h => answersExactly_iff h op) (sound_init hinit) ops⟩

/-! ## The mock node -/

/-- What both nodes have received of a request: the mock node the packet, and the firmware what
`decode_request` makes of it. -/
structure Receives (bytes : List UInt8) (packet : Packet) (request : Request) : Prop where
  /-- The mock node decodes the packet. -/
  packet : decode bytes = .ok packet
  /-- The firmware decodes the bytes as the request. -/
  request : decodeRequest bytes = some request

/-- The firmware keeps the fields of the packet, whose version and type it has checked. -/
theorem Receives.spec {bytes : List UInt8} {packet : Packet} {request : Request}
    (h : Receives bytes packet request) : packet.header.version = kProtocolVersion ∧
      packet.header.messageType = .request ∧ request = .ofPacket packet := by
  obtain ⟨type, -, -, hsize, hversion, -, -, hpacket⟩ := decode_eq_ok_iff_read.1 h.packet
  obtain ⟨packet', hdecode, htype, hrequest⟩ := (decodeRequest_eq_some_iff hsize).1 h.request
  obtain rfl := Except.ok.inj (hdecode.symm.trans h.packet)
  refine ⟨?_, htype, hrequest⟩
  rw [hpacket]
  exact hversion

/-- The mock node takes two requests with one name for the same if they have the same content. -/
theorem sameRequest_iff {bytes bytes' : List UInt8} {packet packet' : Packet}
    {request request' : Request} (h : Receives bytes packet request)
    (h' : Receives bytes' packet' request') (hkey : request.SameKey request') :
    MockMcu.sameRequest packet packet' = true ↔ request.SameContent request' := by
  obtain ⟨hversion, htype, rfl⟩ := h.spec
  obtain ⟨hversion', htype', rfl⟩ := h'.spec
  unfold MockMcu.sameRequest
  rw [decide_eq_true_iff]
  constructor
  · rintro ⟨-, -, hcommand, -, -, hobject, hflags, hpayload⟩
    exact ⟨hcommand, hobject, hflags, hpayload⟩
  · rintro ⟨hcommand, hobject, hflags, hpayload⟩
    exact ⟨hversion.trans hversion'.symm, htype.trans htype'.symm, hcommand, hkey.1, hkey.2,
      hobject, hflags, hpayload⟩

/-- `MockNode::process_request` answers exactly: whatever request it has cached under a name, the
same request is answered with the response that is kept, and another one is neither executed nor
answered, and changes nothing. -/
theorem mock_answers_exactly (config : MockMcu.NodeConfig) (node : MockMcu.MockNode)
    {found : MockMcu.CachedRequest} {bytes bytes' : List UInt8} {packet : Packet}
    {producer request : Request} (hproducer : Receives bytes found.request producer)
    (hrequest : Receives bytes' packet request) (hkey : producer.SameKey request)
    (hlookup : node.cache.lookup (MockMcu.keyOf packet) = some found) (now : ℤ) :
    (producer.SameContent request → node.processRequest config packet now =
      let counted := { node with cachedResponseCount := node.cachedResponseCount + 1 }
      ((counted.reply config found.encodedResponse).1.map some,
        (counted.reply config found.encodedResponse).2)) ∧
    (¬producer.SameContent request → node.processRequest config packet now =
      (.error (.node ⟨.conflictingDuplicateRequest,
        "相同会话 ID 和请求 ID 对应了不同请求内容"⟩), node)) := by
  unfold MockMcu.MockNode.processRequest
  rw [hlookup, ← sameRequest_iff hproducer hrequest hkey]
  dsimp only
  unfold MockMcu.MockNode.replay
  constructor
  · intro hsame
    rw [if_neg (not_not.2 hsame)]
  · intro hother
    rw [if_pos hother]

/-! ## Two payloads with one checksum -/

/-- The frame of a PING of a host, under a transfer ID. -/
def pingFrame (transferId : UInt16) (payload : List UInt8) : CanFrame :=
  fragmentFrame .flexibleDataRate RBSP_CAN_ID_DISCOVERY transferId
    (encodePacket .request Command.ping 1 1 0 0 payload) 1 0

/-- A board that is asked for nothing but its presence. -/
def pingBoard : Board Bench := benchBoard ⟨List.replicate 16 0, NodeUuid.length_zeros⟩

/-- Such a board, with nothing in the cache. -/
def pingStart : Attributed benchConfig Bench := ⟨benchCore, fun _ => none⟩

/-- Five zero bytes, the payload of the first PING. -/
def zeros : List UInt8 := [0, 0, 0, 0, 0]

/-- Five other bytes, apart from the first ones by the polynomial of the checksum. -/
def polynomial : List UInt8 := [0x41, 0x06, 0x71, 0xDB, 0x01]

/-- The board behind the PING with the zeros. -/
def pinged : Attributed benchConfig Bench :=
  pingStart.step pingBoard (.acceptCan (pingFrame 1 zeros))

/-- The PING with the zeros is the one that the cache remembers. -/
theorem producer_pinged :
    ∀ place, ∀ producer ∈ pinged.producer place, producer.payload = zeros := by
  decide +kernel

/-- A PING with the same payload is answered out of the cache, as the theorem says of any run. -/
theorem request_cache_exact_iff_repeated :
    (attributed benchConfig pingBoard).Along (AnswersExactly pingBoard) pingStart
      [.acceptCan (pingFrame 1 zeros), .acceptCan (pingFrame 2 zeros)] := by
  have hrequest : ∀ found ∈ pinged.core.processing pingBoard (pingFrame 2 zeros),
      found.1.payload = zeros := by decide +kernel
  have hfirst : Distinct pingBoard pingStart (.acceptCan (pingFrame 1 zeros)) :=
    fun _ _ _ _ _ h => (nomatch h)
  have hsecond : Distinct pingBoard pinged (.acceptCan (pingFrame 2 zeros)) :=
    fun request ready hprocessing place producer hproducer _ _ _ _ _ =>
      (producer_pinged place producer hproducer).trans (hrequest (request, ready) hprocessing).symm
  have halong : (attributed benchConfig pingBoard).Along (Distinct pingBoard) pingStart
      [.acceptCan (pingFrame 1 zeros), .acceptCan (pingFrame 2 zeros)] :=
    ⟨hfirst, hsecond, trivial⟩
  exact (request_cache_exact_iff benchConfig pingBoard ⟨0, [], []⟩ benchCore rfl _).2.2 halong

/-- A PING under a name that is taken, with other content but the same checksum, gets the response
to the one before. -/
theorem ping_answered_with_other_payload :
    ¬(attributed benchConfig pingBoard).Along (AnswersExactly pingBoard) pingStart
      [.acceptCan (pingFrame 1 zeros), .acceptCan (pingFrame 2 polynomial)] := by
  rintro ⟨-, hexact, -⟩
  have h : AnswersExactly pingBoard pinged (.acceptCan (pingFrame 2 polynomial)) := hexact
  have hanswered : ∃ found ∈ pinged.core.processing pingBoard (pingFrame 2 polynomial),
      (found.1.sessionId = 1 ∧ found.1.requestId = 1 ∧ found.1.payload = polynomial) ∧
        found.2.reply pingBoard found.1 ≠ none := by decide +kernel
  have hremembered : ∃ producer ∈ pinged.producer 0,
      producer.sessionId = 1 ∧ producer.requestId = 1 ∧ producer.payload = zeros := by
    decide +kernel
  obtain ⟨⟨request, ready⟩, hprocessing, ⟨hsession, hrequest, hpayload⟩, hreply⟩ := hanswered
  obtain ⟨producer, hproducer, hsession', hrequest', hpayload'⟩ := hremembered
  have hother : ¬producer.SameContent request := fun hcontent => by
    have hsame := hcontent.payload
    rw [hpayload', hpayload] at hsame
    exact absurd hsame (by decide)
  exact hreply ((h request ready hprocessing 0 producer hproducer
    ⟨hsession'.trans hsession.symm, hrequest'.trans hrequest.symm⟩).2 hother).1

end RemoteBSP.Firmware
