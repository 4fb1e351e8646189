import ServiceHost.Call.Client
import ServiceHost.Proofs.Binding.ReadableMessage
import ServiceHost.Proofs.Call.StatusOnWire
import ServiceHost.Proofs.Octets

/-!
# A call over a connection

A call that the client makes over a direct connection is the call that the registry answers: the
handler sees the message as it is read from its own text, with the metadata that may go with a call
(`CallServer.serve_of_isCall`), and the caller gets the reply or the status (`CallClient.replyOf_success`,
`CallClient.replyOf_failure`).  What `CallServer.Carries` asks of a message is what the connection
asks of it: bounds for its text and its depth, and doubles that are read back.
-/

namespace ServiceHost

/-! ## Frames -/

namespace Framing

variable {limit : Nat} {message : Octets}

theorem front_frame (hlimit : message.length ≤ limit) (hwidth : message.length < 256 ^ 4) :
    front limit (frame message) = .message message [] := by
  have hheader : (0 :: Octets.ofNat 4 message.length).length = 5 := by
    rw [List.length_cons, Octets.length_ofNat]
  have hsplit : Octets.splitExactly 5 (frame message) =
      some (0 :: Octets.ofNat 4 message.length, message) :=
    Octets.splitExactly_append hheader
  have hall : Octets.splitExactly message.length (message ++ []) = some (message, []) :=
    Octets.splitExactly_append rfl
  have hlength : Octets.toNat (Octets.ofNat 4 message.length) = message.length :=
    Octets.toNat_ofNat hwidth
  rw [front, hsplit]
  rw [List.append_nil] at hall
  simp [hlength, hall, Nat.not_lt.mpr hlimit]

/-- A framed message is the only message of its body. -/
theorem messages_frame (hlimit : message.length ≤ limit) (hwidth : message.length < 256 ^ 4) :
    messages limit (frame message) = ([message], none) := by
  have hend : messages limit [] = ([], none) := by
    rw [messages]
    rfl
  rw [messages]
  split
  · rename_i hfront
    rw [front_frame hlimit hwidth] at hfront
    exact absurd hfront (by simp)
  · rename_i fault hfront
    rw [front_frame hlimit hwidth] at hfront
    exact absurd hfront (by simp)
  · rename_i first rest hfront
    rw [front_frame hlimit hwidth] at hfront
    obtain ⟨rfl, rfl⟩ := Front.message.inj hfront
    rw [hend]

end Framing

namespace CallServer

variable {limit : Nat} {message received : Json}

/-- The bounds of a connection for a message. -/
structure WithinLimits (limit : Nat) (message : Json) : Prop where
  /-- The reader goes no deeper. -/
  shallow : message.depth ≤ 127
  /-- The text is not longer than the longest message. -/
  short : (writeMessage message).length ≤ limit
  /-- The length of the text fits in front of it. -/
  fits : (writeMessage message).length < 256 ^ 4

/-- What a connection asks of a message: it is within the bounds, and every double is read back from
its own text. -/
structure Carries (limit : Nat) (message : Json) : Prop extends WithinLimits limit message where
  doubles : ∀ d, Number.double d ∈ message.numbers → (Number.double d).ReadsBack

/-- **A message that the connection carries arrives as it is.** -/
theorem Carries.read (h : Carries limit message) (hwell : message.WellFormed Number.Fits) :
    readMessage? (writeMessage message) = some message := by
  have hreads : message.WellFormed Number.ReadsBack := by
    refine hwell.imp fun n hn hfits => ?_
    cases n with
    | int n => exact Json.readsBack_int hfits
    | double d => exact h.doubles d hn
  rw [Message.readMessage?_writeMessage hreads, if_pos h.shallow]

theorem wellFormed_readMessage? {octets : Octets} (h : readMessage? octets = some received) :
    received.WellFormed Number.Fits := by
  unfold readMessage? at h
  split at h
  · obtain rfl := Option.some.inj h
    exact Json.wellFormed_empty
  · exact Json.wellFormed_read? h

theorem messageOf_frame {octets : Octets} (hread : readMessage? octets = some received)
    (hlimit : octets.length ≤ limit) (hwidth : octets.length < 256 ^ 4) :
    messageOf limit (Framing.frame octets) = .ok received := by
  simp [messageOf, Framing.messages_frame hlimit hwidth, hread]

/-! ## The server -/

/-- The headers that a handler sees of a call with metadata. -/
def seenHeaders (metadata : Headers) : Headers :=
  .ofList (CallClient.carried metadata ++ CallClient.ownHeaders)

/-- Nothing says that the messages of the client are compressed. -/
theorem checkEncoding_seenHeaders (metadata : Headers) :
    checkEncoding (seenHeaders metadata) = .ok () := by
  have hnone : (seenHeaders metadata).first? encodingHeader = none := by
    rw [Headers.first?_eq_head?, seenHeaders, Headers.valuesOf_ofList, Headers.valuesOf_concat,
      CallClient.carried, Headers.valuesOf_without, if_pos (by decide)]
    decide
  rw [checkEncoding, hnone]

/-- Whether a request calls with this message, which is not compressed. -/
structure IsCall (request : HttpRequest) (message : Json) : Prop where
  method : request.method = "POST"
  encoding : checkEncoding request.headers = .ok ()
  body : request.body = Framing.frame (writeMessage message)

theorem isCall_requestOf (target : Target) (metadata : Headers) (message : Json) :
    IsCall (CallClient.requestOf target metadata message) message :=
  ⟨rfl, checkEncoding_seenHeaders metadata, rfl⟩

variable (server : CallServer) (path : String) (metadata : Headers)

/-- What a handler is called with. -/
def seen (received : Json) : Request where
  metadata := seenHeaders metadata
  message := received
  ready := server.ready

/-- What a call with a message and the metadata of a request is made with. -/
def calledWith (request : HttpRequest) (message : Json) : Request where
  metadata := request.headers
  message := message
  ready := server.ready

variable {request : HttpRequest}

theorem requestOf_of_isCall (hcall : IsCall request message)
    (hread : readMessage? (writeMessage message) = some received)
    (hlimit : (writeMessage message).length ≤ server.maxMessageBytes)
    (hwidth : (writeMessage message).length < 256 ^ 4) :
    server.requestOf request = .ok (server.calledWith request received) := by
  have hbody : messageOf server.maxMessageBytes request.body = .ok received := by
    rw [hcall.body]
    exact messageOf_frame hread hlimit hwidth
  rw [requestOf, hcall.encoding, hbody]
  rfl

/-- The response to what a call comes to. -/
def respond (limit : Nat) : Except Status (Json × Headers) → Response
  | .ok (message, metadata) => success limit message metadata
  | .error status => failure status

theorem route?_eq : server.route? path = if server.registry.has path then some path else none := by
  have hroute : server.route? path =
      (server.registry.handlers.find? (·.1 == path)).map (·.1) := by
    rw [route?, Registry.paths, List.find?_map]
    rfl
  rw [hroute, Registry.has, Registry.find?]
  cases hfind : server.registry.handlers.find? (·.1 == path) with
  | none => rfl
  | some entry => simpa using List.find?_some hfind

theorem call_fst {called : Request} (hrequest : server.requestOf request = .ok called) :
    (server.call path request).1 =
      respond server.maxMessageBytes (server.registry.dispatch path called).1 := by
  rw [call, hrequest]
  simp only
  cases server.registry.dispatch path called with
  | mk result reports => cases result <;> rfl

/-- **The server answers a call as the registry does.**  Paths that are not known are no exception:
they fail with the same status. -/
theorem serve_of_isCall (hcall : IsCall request message)
    (hread : readMessage? (writeMessage message) = some received)
    (hlimit : (writeMessage message).length ≤ server.maxMessageBytes)
    (hwidth : (writeMessage message).length < 256 ^ 4) :
    (server.serve request).1 =
      respond server.maxMessageBytes
        (server.registry.dispatch request.target.path (server.calledWith request received)).1 := by
  have hrequest := requestOf_of_isCall server hcall hread hlimit hwidth
  rw [serve, route?_eq]
  cases hfind : server.registry.find? request.target.path with
  | none =>
      have hhas : server.registry.has request.target.path = false := by simp [Registry.has, hfind]
      simp [hhas, Registry.dispatch, hfind, respond]
  | some handler =>
      have hhas : server.registry.has request.target.path = true := by simp [Registry.has, hfind]
      rw [if_pos hhas]
      simp only
      rw [if_pos hcall.method, call_fst server _ hrequest]

end CallServer

/-! ## The client -/

namespace CallClient

open CallServer

variable {limit : Nat} {reply received : Json} {metadata : Headers}

/-- The headers that the caller sees of a reply with metadata. -/
def seenWithReply (metadata : Headers) : Headers :=
  (metadata.without Status.transportHeaders ++ [typeHeader]).replace
    ({ code := .ok, message := "" : Status }).toHeaders

/-- The values that the transport itself gives a name in the headers of a reply. -/
def transportValues (name : String) : List Octets :=
  if name = typeHeader.name then [mediaType]
  else if name = Status.codeHeader then [Status.decimal Code.ok.toNat]
  else []

/-- **What the caller sees with a reply**: the metadata of the reply, and under the names of the
transport what this has written. -/
theorem valuesOf_seenWithReply (metadata : Headers) (name : String) :
    (seenWithReply metadata).valuesOf name =
      if Status.transportHeaders.contains name then transportValues name
      else metadata.valuesOf name := by
  have htrailers : Headers.valuesOf name ({ code := .ok, message := "" : Status }).toHeaders =
      if name = Status.codeHeader then [Status.decimal Code.ok.toNat] else [] := by
    show Headers.valuesOf name [⟨Status.codeHeader, Status.decimal Code.ok.toNat⟩] = _
    rw [Headers.valuesOf_cons, Headers.valuesOf_nil]
    simp only [eq_comm]
  have hheaders : Headers.valuesOf name (metadata.without Status.transportHeaders ++ [typeHeader]) =
      if Status.transportHeaders.contains name then
        if name = typeHeader.name then [mediaType] else []
      else metadata.valuesOf name := by
    rw [Headers.valuesOf_concat, Headers.valuesOf_without, Headers.valuesOf_cons,
      Headers.valuesOf_nil]
    by_cases htransport : Status.transportHeaders.contains name = true
    · simp only [htransport, if_true, List.nil_append, eq_comm]
      rfl
    · have htype : typeHeader.name ≠ name := fun h => htransport (h ▸ by decide)
      rw [if_neg htransport, if_neg htransport, if_neg htype, List.append_nil]
  rw [seenWithReply, Headers.valuesOf_replace, htrailers, hheaders, transportValues]
  by_cases hcode : name = Status.codeHeader
  · have htype : name ≠ typeHeader.name := by rw [hcode]; decide
    have htransport : Status.transportHeaders.contains name = true := by rw [hcode]; decide
    rw [if_pos hcode, if_neg (List.cons_ne_nil _ _), if_pos htransport, if_neg htype]
  · rw [if_neg hcode, if_pos rfl]

/-- **A reply gets to the caller.** -/
theorem replyOf_success (hread : readMessage? (writeMessage reply) = some received)
    (hlimit : (writeMessage reply).length ≤ limit) (hwidth : (writeMessage reply).length < 256 ^ 4) :
    replyOf limit (success limit reply metadata) = .ok (received, seenWithReply metadata) := by
  have hsuccess : success limit reply metadata =
      { status := 200, headers := metadata.without Status.transportHeaders ++ [typeHeader]
        body := Framing.frame (writeMessage reply)
        trailers := ({ code := .ok, message := "" : Status }).toHeaders } := by
    rw [success, if_neg (Nat.not_lt.mpr hlimit)]
  have hstatus : (statusOf (success limit reply metadata)).map (·.code) = some .ok := by
    rw [hsuccess, statusOf, Status.ofHeaders?_toHeaders (fun _ => rfl) fun _ _ => rfl]
    rfl
  obtain ⟨status, hsome, hcode⟩ := Option.map_eq_some_iff.mp hstatus
  rw [replyOf, hsome]
  simp only [hcode, if_pos]
  rw [hsuccess, messageOf_frame hread hlimit hwidth]
  rfl

/-- **A failure gets to the caller**, with its code, its message, its details and the code that its
metadata attach. -/
theorem exists_replyOf_failure {status : Status} (hfailed : status.code ≠ .ok)
    (htravels : status.TravelsWhole) :
    ∃ received, replyOf limit (failure status) = .error received ∧
      received.code = status.code ∧ received.message = status.message ∧
      received.details = status.details ∧
      received.metadata.valuesOf Status.appCodeName = status.metadata.valuesOf Status.appCodeName := by
  have hother : ∀ name, name ≠ typeHeader.name →
      (failure status).headers.valuesOf name = status.toHeaders.valuesOf name := by
    intro name hname
    show Headers.valuesOf name (.ofList (typeHeader :: status.toHeaders)) = _
    rw [Headers.valuesOf_ofList, Headers.valuesOf_cons, if_neg (Ne.symm hname)]
  have hread := @Status.ofHeaders?_toHeaders status htravels (failure status).headers
    fun name hname => hother name fun hsame => absurd (hsame ▸ hname) (by decide)
  have hstatus : statusOf (failure status) = Status.ofHeaders? (failure status).headers := rfl
  have hreply : replyOf limit (failure status) =
      .error { code := status.code, message := status.message, details := status.details
               metadata := (failure status).headers.without
                 [Status.codeHeader, Status.messageHeader, Status.detailsHeader] } := by
    rw [replyOf, hstatus, hread]
    exact if_neg hfailed
  refine ⟨_, hreply, rfl, rfl, rfl, ?_⟩
  rw [Headers.valuesOf_without, if_neg (by decide), hother _ (by decide),
    Status.valuesOf_toHeaders_metadata status (by decide)]

/-- What an envelope shows of a failure gets to the caller. -/
theorem replyOf_failure {status : Status} (hfailed : status.code ≠ .ok)
    (htravels : status.TravelsWhole) :
    ∃ received, replyOf limit (failure status) = .error received ∧
      Envelope.failure received = Envelope.failure status := by
  obtain ⟨received, hreply, hcode, hmessage, hdetails, hattached⟩ :=
    @exists_replyOf_failure limit _ hfailed htravels
  exact ⟨received, hreply, Envelope.failure_congr hcode hmessage hdetails hattached⟩

/-- **A call over a connection** is the call that the registry answers, for every path that is a
target. -/
theorem call_direct (server : CallServer) {path : String} {message : Json}
    (hpath : Target.ofPath? none none (Utf8.ofString path) = some { path })
    (hread : readMessage? (writeMessage message) = some received)
    (hlimit : (writeMessage message).length ≤ server.maxMessageBytes)
    (hwidth : (writeMessage message).length < 256 ^ 4) (metadata : Headers) :
    (call (direct server) limit path metadata message).1 =
      replyOf limit (respond server.maxMessageBytes
        (server.registry.dispatch path (server.seen metadata received)).1) := by
  have hserved := serve_of_isCall server (isCall_requestOf { path } metadata message) hread hlimit hwidth
  rw [call, hpath]
  exact congrArg (replyOf limit) hserved

end CallClient

end ServiceHost
