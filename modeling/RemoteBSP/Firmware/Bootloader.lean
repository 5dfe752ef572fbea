import RemoteBSP.Firmware.Runs

/-!
# The way into the bootloader

A core that is asked to enter the bootloader says so first, and enters it a little later, out of its
main loop. It takes note of the request when the response has been sent, but has put the response
into its cache before. A response that could not be sent the first time is sent again out of the
cache, and nothing follows (`granted_in_vain`). `bootloader_honoured` says when the host can rely on
what it is told.
-/

namespace RemoteBSP.Firmware

variable {config : CoreConfig} {W : Type}

/-- The command asks for a bootloader. -/
def asksForBootloader (command : UInt16) : Bool :=
  command = Command.bootloaderEnter ∨ command = Command.bootloaderEnterUsb

/-- The bootloader that it asks for. -/
def askedMode (command : UInt16) : BootloaderMode :=
  if command = Command.bootloaderEnterUsb then .usb else .can

/-- A response grants a request if its status is OK. -/
def grants (response : List UInt8) : Bool := byteAt response RBSP_HEADER_SIZE = Status.ok.value

/-- What the host and the outside see of a core. -/
inductive Deed
  /-- A response has been sent, to its last fragment. -/
  | answered (request : Request) (response : List UInt8)
  /-- `enter_bootloader` has been called with this mode. -/
  | entered (mode : BootloaderMode)
deriving DecidableEq

namespace Core

variable (board : Board W) (core : Core config W)

/-- What is seen of an operation. -/
def deeds : CoreOp W → List Deed
  | .acceptCan frame =>
    match core.processing board frame with
    | none => []
    | some (request, ready) =>
      match ready.reply board request with
      | none => []
      | some response =>
        if (ready.processRequest board request).1 then [.answered request response] else []
  | .poll => (core.entering board).toList.map .entered
  | .motionTick => []
  | .elapse _ => []

/-- The bootloader is requested, or has been entered. -/
def Honoured (history : List (List Deed)) (core : Core config W) (mode : BootloaderMode) : Prop :=
  (∃ since, core.bootloaderRequest = some (since, mode)) ∨
    ∃ seen ∈ history, Deed.entered mode ∈ seen

/-- The request asks for a bootloader in the right way, and there is one. -/
def grantable (board : Board W) (request : Request) : Bool :=
  asksForBootloader request.command ∧ request.objectId = 0 ∧
    request.payload = bootloaderConfirmation ∧ board.hal.enterBootloader.isSome = true

/-- A request for a bootloader that is not answered out of the cache is told to the host at once,
since the driver takes every fragment of the response, and none for the other bootloader is
pending. -/
def KeepsWord : CoreOp W → Prop
  | .acceptCan frame =>
    ∀ found ∈ core.processing board frame, found.2.findCache found.1 = none →
      grantable board found.1 = true →
        (sendFrames board.hal found.2.world (packetFrames board.canMode
          (makeStatusResponse found.1 .ok 0 []) found.2.nextTransferId
          found.2.responseCanId)).1 = true ∧
        ∀ pending ∈ core.bootloaderRequest, pending.2 = askedMode found.1.command
  | _ => True

/-- Whether a core keeps its word can be checked. -/
instance : (op : CoreOp W) → Decidable (core.KeepsWord board op)
  | .acceptCan frame => inferInstanceAs (Decidable (∀ found ∈ core.processing board frame,
      found.2.findCache found.1 = none → grantable board found.1 = true →
        (sendFrames board.hal found.2.world (packetFrames board.canMode
          (makeStatusResponse found.1 .ok 0 []) found.2.nextTransferId
          found.2.responseCanId)).1 = true ∧
        ∀ pending ∈ core.bootloaderRequest, pending.2 = askedMode found.1.command))
  | .poll => .isTrue trivial
  | .motionTick => .isTrue trivial
  | .elapse _ => .isTrue trivial

variable {board : Board W} {core : Core config W} {request : Request}

/-! ## What a request does -/

/-- A request for a bootloader that is granted. -/
theorem execute_grantable (h : grantable board request = true) : core.execute board request =
    some ⟨makeStatusResponse request .ok 0 [], some (askedMode request.command), core⟩ := by
  obtain ⟨hasks, hobject, hpayload, hpresent⟩ := of_decide_eq_true h
  have hcommand : request.command = Command.bootloaderEnter ∨
      request.command = Command.bootloaderEnterUsb := of_decide_eq_true hasks
  have hother : ∀ command, asksForBootloader command = false → request.command ≠ command :=
    fun command hfalse heq => by rw [heq, hfalse] at hasks; exact Bool.false_ne_true hasks
  have hsome : ¬board.hal.enterBootloader.isNone = true := by
    rw [Option.isNone_iff_eq_none]
    intro hnone
    rw [hnone] at hpresent
    exact Bool.false_ne_true hpresent
  unfold execute
  rw [if_neg (hother _ (by decide)), if_neg (hother _ (by decide))]
  unfold executeStatus
  rw [if_neg (hother _ (by decide)), if_neg (hother _ (by decide)), if_neg (hother _ (by decide)),
    if_pos hcommand]
  unfold handleBootloaderEnter
  rw [if_neg (not_or.2 ⟨not_not.2 hobject, not_not.2 hpayload⟩), if_neg hsome]
  rfl

/-- A request that is not granted asks for nothing, and a refusal says so. -/
theorem execute_not_grantable {executed : Executed config W}
    (h : core.execute board request = some executed) (hnot : ¬grantable board request = true) :
    executed.bootloader = none ∧
      (asksForBootloader request.command = true → grants executed.response = false) := by
  unfold execute at h
  split_ifs at h with hdiscovery hassign
  · obtain ⟨response, -, rfl⟩ := Option.map_eq_some_iff.1 h
    exact ⟨rfl, fun hasks => absurd hasks (by rw [hdiscovery]; decide)⟩
  · obtain ⟨result, -, rfl⟩ := Option.map_eq_some_iff.1 h
    exact ⟨rfl, fun hasks => absurd hasks (by rw [hassign]; decide)⟩
  obtain rfl := Option.some.inj h
  unfold executeStatus
  dsimp only
  split_ifs with hinfo hcapability hping hboot hcreate hread hwrite
  · exact ⟨rfl, fun hasks => absurd hasks (by rw [hinfo]; decide)⟩
  · exact ⟨rfl, fun hasks => absurd hasks (by rw [hcapability]; decide)⟩
  · exact ⟨rfl, fun hasks => absurd hasks (by rw [hping]; decide)⟩
  · unfold handleBootloaderEnter
    split
    · exact ⟨rfl, fun _ => rfl⟩
    next hinvalid =>
    split
    · exact ⟨rfl, fun _ => rfl⟩
    next hmissing =>
    rw [not_or, not_not, not_not] at hinvalid
    refine absurd (decide_eq_true ⟨decide_eq_true hboot, hinvalid.1, hinvalid.2, ?_⟩) hnot
    exact Option.isSome_iff_ne_none.2 fun hnone => hmissing (Option.isNone_iff_eq_none.2 hnone)
  · exact ⟨rfl, fun hasks => absurd hasks (by rw [hcreate]; decide)⟩
  · exact ⟨rfl, fun hasks => absurd hasks (by rw [hread]; decide)⟩
  · exact ⟨rfl, fun hasks => absurd hasks (by rw [hwrite]; decide)⟩
  · exact ⟨rfl, fun hasks => absurd (of_decide_eq_true hasks) hboot⟩

/-- Nothing that a request does but the grant of a bootloader makes one pending. -/
theorem Change.bootloaderRequest {core' : Core config W} (h : Change board core core') :
    core'.bootloaderRequest = core.bootloaderRequest := by
  cases h with
  | aborted motion hmotion =>
    unfold motionTick
    split <;> rfl
  | _ => rfl

/-- The response to a request that is executed is put into the cache, if it fits. -/
theorem entries_respond {executed : Executed config W} {place : Fin config.cacheEntries}
    {entry : CacheEntry}
    (h : (respond board request executed).2.cache.entries place = some entry) :
    entry = cacheEntry request executed.response ∨
      executed.core.cache.entries place = some entry := by
  obtain ⟨-, world, pending, hcore, -⟩ := respond_spec board request executed
  rw [hcore] at h
  change (executed.core.insertCache request executed.response).cache.entries place = _ at h
  unfold insertCache at h
  split at h
  · exact .inr h
  · exact RingCache.entries_insert h

/-! ## Runs -/

/-- Every host that has been told that it will get a bootloader gets it, and so will those that are
told so out of the cache. -/
structure Faithful (history : List (List Deed)) (core : Core config W) : Prop where
  /-- Every grant that has been told is either pending or has been carried out. -/
  told : ∀ seen ∈ history, ∀ request response, Deed.answered request response ∈ seen →
    asksForBootloader request.command = true → grants response = true →
    Honoured history core (askedMode request.command)
  /-- What will be told out of the cache. -/
  cached : ∀ place entry, core.cache.entries place = some entry →
    asksForBootloader entry.command = true → grants entry.response = true →
    Honoured history core (askedMode entry.command)

variable {history : List (List Deed)}

/-- A mode that is pending stays honoured as long as the request for it stays. -/
theorem Honoured.of_eq {mode : BootloaderMode} (h : Honoured history core mode)
    (seen : List Deed) {core' : Core config W}
    (heq : core'.bootloaderRequest = core.bootloaderRequest) :
    Honoured (history ++ [seen]) core' mode := by
  rcases h with hpending | ⟨entered, hentered, hmem⟩
  · left
    rw [heq]
    exact hpending
  · exact .inr ⟨entered, List.mem_append_left _ hentered, hmem⟩

/-- Nothing is told, nothing is added to the cache, and what is pending stays so. -/
theorem Faithful.quiet (h : Faithful history core) {core' : Core config W}
    (hcache : core'.cache = core.cache)
    (heq : core'.bootloaderRequest = core.bootloaderRequest) :
    Faithful (history ++ [[]]) core' where
  told seen hseen request response hdeed hasks hgrants := by
    rcases List.mem_append.1 hseen with hold | hnew
    · exact (h.told seen hold request response hdeed hasks hgrants).of_eq [] heq
    · rw [List.mem_singleton.1 hnew] at hdeed
      exact absurd hdeed List.not_mem_nil
  cached place entry hentry hasks hgrants := by
    rw [hcache] at hentry
    exact (h.cached place entry hentry hasks hgrants).of_eq [] heq

/-- The main loop enters what is pending. -/
theorem Faithful.poll (h : Faithful history core) :
    Faithful (history ++ [core.deeds board .poll]) (core.poll board) := by
  rcases poll_cases board core with ⟨since, mode, world, hpending, hentering, -⟩ |
    ⟨hnone, hpoll⟩
  -- Nothing is entered: what has been told and what is cached is honoured as before.
  case inr =>
    have heq : (core.poll board).bootloaderRequest = core.bootloaderRequest := by
      rw [hpoll, polled_pollCore board { core with world := _ } _]
      rfl
    have hdeeds : core.deeds board .poll = [] := by
      show (core.entering board).toList.map Deed.entered = []
      rw [hnone]
      rfl
    rw [hdeeds]
    exact h.quiet (core.cache_poll board) heq
  -- The pending mode is entered, which is what honours it from now on.
  case inl =>
    have hdeeds : core.deeds board .poll = [.entered mode] := by
      show (core.entering board).toList.map Deed.entered = _
      rw [hentering]
      rfl
    have hhonoured : ∀ mode', Honoured history core mode' →
        Honoured (history ++ [[.entered mode]]) (core.poll board) mode' := by
      rintro mode' (⟨since', hpending'⟩ | ⟨seen, hseen, hmem⟩)
      · obtain rfl : mode = mode' := congrArg Prod.snd
          (Option.some.inj (hpending.symm.trans hpending'))
        exact .inr ⟨_, List.mem_append_right _ (List.mem_singleton_self _),
          List.mem_singleton_self _⟩
      · exact .inr ⟨seen, List.mem_append_left _ hseen, hmem⟩
    rw [hdeeds]
    constructor
    · intro seen hseen request response hdeed hasks hgrants
      rcases List.mem_append.1 hseen with hold | hnew
      · exact hhonoured _ (h.told seen hold request response hdeed hasks hgrants)
      · rw [List.mem_singleton.1 hnew] at hdeed
        cases List.mem_singleton.1 hdeed
    · intro place entry hentry hasks hgrants
      rw [cache_poll] at hentry
      exact hhonoured _ (h.cached place entry hentry hasks hgrants)

/-- A response is sent, and nothing changes but what it leaves pending and adds to the cache. -/
theorem Faithful.answered (h : Faithful history core) {core' : Core config W} {seen : List Deed}
    (hhonoured : ∀ mode, Honoured history core mode → Honoured (history ++ [seen]) core' mode)
    (htold : ∀ request response, Deed.answered request response ∈ seen →
      asksForBootloader request.command = true → grants response = true →
      Honoured (history ++ [seen]) core' (askedMode request.command))
    (hcached : ∀ place entry, core'.cache.entries place = some entry →
      core.cache.entries place = some entry ∨
        (asksForBootloader entry.command = true → grants entry.response = true →
          Honoured (history ++ [seen]) core' (askedMode entry.command))) :
    Faithful (history ++ [seen]) core' where
  told seen' hseen' request response hdeed hasks hgrants := by
    rcases List.mem_append.1 hseen' with hold | hnew
    · exact hhonoured _ (h.told seen' hold request response hdeed hasks hgrants)
    · rw [List.mem_singleton.1 hnew] at hdeed
      exact htold request response hdeed hasks hgrants
  cached place entry hentry hasks hgrants := by
    rcases hcached place entry hentry with hold | hnew
    · exact hhonoured _ (h.cached place entry hold hasks hgrants)
    · exact hnew hasks hgrants

/-- The host is told again what the cache remembers, and nothing else changes. -/
theorem Faithful.retold (h : Faithful history core) {core' : Core config W}
    (hcache : core'.cache = core.cache)
    (heq : core'.bootloaderRequest = core.bootloaderRequest) {place : Fin config.cacheEntries}
    {cached : CacheEntry} (hplace : core.cache.entries place = some cached)
    (hcommand : cached.command = request.command) (sent : Bool) :
    Faithful (history ++ [if sent then [.answered request cached.response] else []]) core' := by
  refine h.answered (fun mode hmode => hmode.of_eq _ heq)
    (fun request' response hdeed hasks hgrants => ?_)
    (fun place' entry hentry => .inl (hcache ▸ hentry))
  split at hdeed
  · obtain ⟨rfl, rfl⟩ := Deed.answered.inj (List.mem_singleton.1 hdeed)
    rw [← hcommand] at hasks ⊢
    exact (h.cached place cached hplace hasks hgrants).of_eq _ heq
  · exact absurd hdeed List.not_mem_nil

/-- A bootloader is granted: the host is told, the response goes into the cache, and the bootloader
becomes pending in place of whatever was pending before, which was the same. -/
theorem Faithful.granted (h : Faithful history core) {core' : Core config W}
    {response : List UInt8} {since : UInt32}
    (hpending : core'.bootloaderRequest = some (since, askedMode request.command))
    (hothers : ∀ pending ∈ core.bootloaderRequest, pending.2 = askedMode request.command)
    (hentries : ∀ place entry, core'.cache.entries place = some entry →
      entry = cacheEntry request response ∨ core.cache.entries place = some entry) :
    Faithful (history ++ [[.answered request response]]) core' := by
  have hmine : ∀ history' : List (List Deed),
      Honoured history' core' (askedMode request.command) := fun _ => .inl ⟨since, hpending⟩
  refine h.answered ?_ (fun request' response' hdeed _ _ => ?_) (fun place entry hentry => ?_)
  · rintro mode (⟨since', hmode⟩ | ⟨seen, hseen, hmem⟩)
    · obtain rfl : mode = askedMode request.command := hothers _ hmode
      exact hmine _
    · exact .inr ⟨seen, List.mem_append_left _ hseen, hmem⟩
  · obtain ⟨rfl, rfl⟩ := Deed.answered.inj (List.mem_singleton.1 hdeed)
    exact hmine _
  · rcases hentries place entry hentry with rfl | hold
    · exact .inr fun _ _ => hmine _
    · exact .inl hold

/-- Another request is executed: its response goes into the cache and may reach the host, but
grants nothing. -/
theorem Faithful.denied (h : Faithful history core) {core' : Core config W}
    {response : List UInt8} (heq : core'.bootloaderRequest = core.bootloaderRequest)
    (hrefuses : asksForBootloader request.command = true → grants response = false)
    (hentries : ∀ place entry, core'.cache.entries place = some entry →
      entry = cacheEntry request response ∨ core.cache.entries place = some entry) (sent : Bool) :
    Faithful (history ++ [if sent then [.answered request response] else []]) core' := by
  have hnever : asksForBootloader request.command = true → grants response ≠ true := by
    intro hasks
    rw [hrefuses hasks]
    exact Bool.false_ne_true
  refine h.answered (fun mode hmode => hmode.of_eq _ heq)
    (fun request' response' hdeed hasks hgrants => ?_) (fun place entry hentry => ?_)
  · split at hdeed
    · obtain ⟨rfl, rfl⟩ := Deed.answered.inj (List.mem_singleton.1 hdeed)
      exact absurd hgrants (hnever hasks)
    · exact absurd hdeed List.not_mem_nil
  · rcases hentries place entry hentry with rfl | hold
    · exact .inr fun hasks hgrants => absurd hgrants (hnever hasks)
    · exact .inl hold

/-- A request is executed, in a core with the cache and the pending bootloader of `core`. -/
theorem Faithful.executed (h : Faithful history core) {ready : Core config W}
    (hcache : ready.cache = core.cache)
    (hpending : ready.bootloaderRequest = core.bootloaderRequest) {executed : Executed config W}
    (hexecute : ready.execute board request = some executed) (slot : Fin config.reassemblySlots)
    (hstep : grantable board request = true →
      (sendFrames board.hal ready.world (packetFrames board.canMode
        (makeStatusResponse request .ok 0 []) ready.nextTransferId ready.responseCanId)).1 = true ∧
      ∀ pending ∈ core.bootloaderRequest, pending.2 = askedMode request.command) :
    Faithful (history ++ [if (respond board request executed).1 then
        [.answered request executed.response] else []])
      ((respond board request executed).2.storeSlot slot none) := by
  -- Of the cache, an execution changes the entry of its own response.
  have hentries : ∀ place entry,
      ((respond board request executed).2.storeSlot slot none).cache.entries place = some entry →
        entry = cacheEntry request executed.response ∨ core.cache.entries place = some entry := by
    intro place entry hentry
    have hkeeps : executed.core.cache = ready.cache := (keepsReception_execute hexecute).cache
    rw [← hcache, ← hkeeps]
    exact entries_respond hentry
  obtain ⟨hsent, world, pending, hrespond, hafter⟩ := respond_spec board request executed
  have hlater : ((respond board request executed).2.storeSlot slot none).bootloaderRequest =
      pending := by
    show (respond board request executed).2.bootloaderRequest = pending
    rw [hrespond]
  unfold Pends at hafter
  by_cases hgrantable : grantable board request = true
  · -- The request is granted, and the driver takes the whole response.
    obtain ⟨htaken, hothers⟩ := hstep hgrantable
    have hgranted := Option.some.inj ((execute_grantable hgrantable).symm.trans hexecute)
    have hmode : executed.bootloader = some (askedMode request.command) := by rw [← hgranted]
    have htold : (respond board request executed).1 = true := by
      rw [hsent, ← hgranted]
      exact htaken
    rw [hmode] at hafter
    dsimp only at hafter
    rw [if_pos htold] at hafter
    obtain ⟨since, rfl⟩ := hafter
    rw [if_pos htold]
    exact h.granted hlater hothers hentries
  · -- Nothing is granted, and what is pending stays so.
    obtain ⟨hnone, hrefuses⟩ := execute_not_grantable hexecute hgrantable
    rw [hnone] at hafter
    dsimp only at hafter
    rw [hafter, (change_execute hexecute).bootloaderRequest, hpending] at hlater
    exact h.denied hlater hrefuses hentries _

/-- Frame by frame the node stays faithful: it tells a grant only with the reset that it plans. -/
theorem Faithful.acceptCan (h : Faithful history core) {frame : CanFrame}
    (hword : core.KeepsWord board (.acceptCan frame)) :
    Faithful (history ++ [core.deeds board (.acceptCan frame)]) (core.acceptCan board frame) := by
  have hspec := core.acceptCan_processing board frame
  cases hprocessing : core.processing board frame with
  | none =>
    -- No request is complete.
    rw [hprocessing] at hspec
    have hdeeds : core.deeds board (.acceptCan frame) = [] := by
      unfold deeds
      dsimp only
      rw [hprocessing]
    rw [hdeeds]
    exact h.quiet (by rw [hspec.eq]) (by rw [hspec.eq])
  | some found =>
    obtain ⟨request, ready⟩ := found
    rw [hprocessing] at hspec
    obtain ⟨hidle, slot, haccept⟩ := hspec
    have hcache : ready.cache = core.cache := by rw [hidle.eq]
    have hpending : ready.bootloaderRequest = core.bootloaderRequest := by rw [hidle.eq]
    have hdeeds : core.deeds board (.acceptCan frame) = match ready.reply board request with
        | none => []
        | some response =>
          if (ready.processRequest board request).1 then [.answered request response] else [] := by
      unfold deeds
      dsimp only
      rw [hprocessing]
    have hstep := hword _ hprocessing
    rw [hdeeds, haccept]
    rcases processRequest_cases board ready request with ⟨hreply, hprocess⟩ |
      ⟨cached, hfind, hsame, hreply, hprocess⟩ | ⟨executed, hfind, hexecute, hreply, hprocess⟩
    · -- The request is dropped without an answer.
      rw [hreply, hprocess]
      exact h.quiet hcache hpending
    · -- The response comes out of the cache.
      obtain ⟨-, place, hplace⟩ := RingCache.find?_spec hfind
      obtain ⟨hcommand, -⟩ := of_decide_eq_true hsame
      rw [hcache] at hplace
      rw [hreply, hprocess]
      have hcache' : ((ready.sendPacket board cached.response ready.responseCanId).2.storeSlot slot
          none).cache = core.cache := hcache
      exact h.retold hcache' hpending hplace hcommand _
    · -- The request is executed.
      rw [hreply, hprocess]
      exact h.executed hcache hpending hexecute slot (hstep hfind)

/-- One operation that keeps the core's word. -/
theorem Faithful.step (h : Faithful history core) {op : CoreOp W}
    (hword : core.KeepsWord board op) :
    Faithful (history ++ [core.deeds board op]) (core.step board op) := by
  cases op with
  | acceptCan frame => exact h.acceptCan hword
  | poll => exact h.poll
  | motionTick =>
    refine h.quiet ?_ ?_
    · unfold Core.step
      dsimp only
      split
      · rfl
      · unfold motionTick
        split <;> rfl
    · unfold Core.step
      dsimp only
      split
      · rfl
      · unfold motionTick
        split <;> rfl
  | elapse world => exact h.quiet rfl rfl

end Core

/-- In every run of the firmware in which the core keeps its word, a host that has been told that
the node enters a bootloader, by a response that is freshly made or out of the cache, can rely on
it: that bootloader is pending, or it has been entered. -/
theorem bootloader_honoured (board : Board W) (world : W) (start : Core config W)
    (hinit : Core.init config board world = some start) (ops : List (CoreOp W))
    (hword : (firmware config board (Core.deeds board)).Along (fun core op =>
      core.KeepsWord board op) start ops) :
    let history := (firmware config board (Core.deeds board)).outcomes start ops
    let core := (firmware config board (Core.deeds board)).run start ops
    ∀ seen ∈ history, ∀ request response, Deed.answered request response ∈ seen →
      asksForBootloader request.command = true → grants response = true →
      core.Honoured history (askedMode request.command) := by
  have hstart : Core.Faithful [] start := by
    refine ⟨fun seen hseen => absurd hseen List.not_mem_nil, fun place entry hentry => ?_⟩
    rw [Core.cache_init hinit] at hentry
    exact absurd hentry nofun
  have h := (firmware config board (Core.deeds board)).history_induction_of (P := Core.Faithful)
    (fun history core op h hword => h.step hword) hstart hword
  exact h.told

/-! ## A bus that is full for a moment -/

/-- The driver of a board with a bootloader. Its world is whether the next frames are taken; those
behind them are. -/
def flakyHal : Hal (List Bool) where
  canSend
    | [], _ => (true, [])
    | taken :: rest, _ => (taken, rest)
  milliseconds world := (0, world)
  gpioConfigure := none
  gpioWrite := none
  gpioRead := none
  uartConfigure := none
  uartRead := none
  uartWrite := none
  nanoseconds := none
  motionAxisCount := 0
  motionSetEnable := none
  motionSetDirection := none
  motionSetStep := none
  motionLimitActive := none
  enterBootloader := some fun world _ => world

/-- A board whose CAN driver refuses frames as a list of answers says. -/
def flakyBoard : Board (List Bool) where
  hal := flakyHal
  canMode := .flexibleDataRate
  info := ⟨⟨List.replicate 16 0, NodeUuid.length_zeros⟩, 1, 0, 0, 7⟩

/-- The core of such a board after `rbsp_core_init`. -/
def flakyCore (world : List Bool) : Core benchConfig (List Bool) where
  nodeId := 0
  nextObjectId := 1
  nextTransferId := 1
  cache := .empty
  lastHeartbeatMs := 0
  bootloaderRequest := none
  reassembly _ := none
  gpioObjects _ := none
  uartObjects _ := none
  motion := .zero
  world := world

/-- A request for the bootloader, in one frame. -/
def askFrames : List (CoreOp (List Bool)) :=
  (packetFrames .flexibleDataRate (encodePacket .request Command.bootloaderEnter 1 1 0 0
    bootloaderConfirmation) 1 RBSP_CAN_ID_DISCOVERY).map .acceptCan

/-- The request that `decode_request` reads in the frame. -/
def askedRequest : Request where
  command := Command.bootloaderEnter
  sessionId := 1
  requestId := 1
  objectId := 0
  flags := 0
  crc := 1923135167
  payload := bootloaderConfirmation

/-- The response by which the core grants it. -/
def grantingResponse : List UInt8 := makeStatusResponse askedRequest .ok 0 []

/-- A request for the bootloader on a free bus. -/
theorem bootloader_honoured_once :
    Core.Honoured ((firmware benchConfig flakyBoard (Core.deeds flakyBoard)).outcomes
        (flakyCore []) askFrames)
      ((firmware benchConfig flakyBoard (Core.deeds flakyBoard)).run (flakyCore []) askFrames)
      .can := by
  have hdeeds : (firmware benchConfig flakyBoard (Core.deeds flakyBoard)).outcomes
      (flakyCore []) askFrames = [[.answered askedRequest grantingResponse]] := by decide +kernel
  exact bootloader_honoured flakyBoard [] (flakyCore []) rfl askFrames (by decide +kernel)
    [.answered askedRequest grantingResponse] (by rw [hdeeds]; exact List.mem_singleton_self _)
    askedRequest grantingResponse (List.mem_singleton_self _) (by decide) (by decide +kernel)

/-- The response to a request for the bootloader is not taken by the bus. The request is repeated,
and granted out of the cache, but nothing is pending. -/
theorem granted_in_vain :
    Core.init benchConfig flakyBoard [false] = some (flakyCore [false]) ∧
      ¬ ∀ seen ∈ (firmware benchConfig flakyBoard (Core.deeds flakyBoard)).outcomes
          (flakyCore [false]) (askFrames ++ askFrames),
        ∀ request response, Deed.answered request response ∈ seen →
          asksForBootloader request.command = true → grants response = true →
          Core.Honoured ((firmware benchConfig flakyBoard (Core.deeds flakyBoard)).outcomes
              (flakyCore [false]) (askFrames ++ askFrames))
            ((firmware benchConfig flakyBoard (Core.deeds flakyBoard)).run (flakyCore [false])
              (askFrames ++ askFrames)) (askedMode request.command) := by
  refine ⟨rfl, fun h => ?_⟩
  have hdeeds : (firmware benchConfig flakyBoard (Core.deeds flakyBoard)).outcomes
      (flakyCore [false]) (askFrames ++ askFrames) =
        [[], [.answered askedRequest grantingResponse]] := by decide +kernel
  have hpending : ((firmware benchConfig flakyBoard (Core.deeds flakyBoard)).run
      (flakyCore [false]) (askFrames ++ askFrames)).bootloaderRequest = none := by decide +kernel
  rw [hdeeds] at h
  have htold := h [.answered askedRequest grantingResponse]
    (List.mem_cons_of_mem _ (List.mem_singleton_self _)) askedRequest grantingResponse
    (List.mem_singleton_self _) (by decide) (by decide +kernel)
  rcases htold with ⟨since, hsince⟩ | ⟨seen, hseen, hentered⟩
  · rw [hpending] at hsince
    cases hsince
  · rcases List.mem_cons.1 hseen with rfl | hseen
    · exact absurd hentered List.not_mem_nil
    · rw [List.mem_singleton.1 hseen] at hentered
      cases List.mem_singleton.1 hentered

end RemoteBSP.Firmware
