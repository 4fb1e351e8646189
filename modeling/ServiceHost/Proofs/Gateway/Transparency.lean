import ServiceHost.Proofs.Binding.Lookup
import ServiceHost.Proofs.Call.Exchange
import ServiceHost.Proofs.Host.Registration
import ServiceHost.Proofs.Http.MethodPaths

/-!
# The gateway adds nothing of its own

The gateway makes its calls over a connection to its own host, and answers as the call answers that
is made in the same process: with the data of the reply and its permitted metadata, or with the
envelope of its status (`HostContext.gateway_adds_nothing`).  That is so for every request and all
services with plain names, as far as the connection carries the message and the reply.  It does not
carry every double: there are messages that the gateway answers with another number than the method
replied (`HostContext.gateway_changes_number`).
-/

namespace ServiceHost

/-! ## The answer to a reply -/

/-- The values under a name in the answer to a reply with metadata: a permitted name has those of the
metadata, or of the transport where the name belongs to it, and the media type of the body stands
where no other is permitted. -/
def Forwarding.replyValues (forwarding : Forwarding) (metadata : Headers) (name : String) :
    List Octets :=
  if forwarding.outgoing.contains name then
    if Status.transportHeaders.contains name then CallClient.transportValues name
    else metadata.valuesOf name
  else if name = CallServer.typeHeader.name then [Response.jsonType]
  else []

/-- Whether a response is the envelope of a status, with this HTTP status and this code. -/
def Response.IsFailure (response : Response) (status : Status) (http : Nat) (code : Int32) : Prop :=
  response = Envelope.failure status ∧ response.status = http ∧ status.rawCode = code

/-- Whether a response has the data of a reply and its permitted metadata. -/
structure Response.IsReply (response : Response) (forwarding : Forwarding) (reply : Json)
    (metadata : Headers) : Prop where
  status : response.status = 200
  body : response.body = Utf8.encode (Envelope.successText reply)
  headers : ∀ name, response.headers.valuesOf name = forwarding.replyValues metadata name

namespace Gateway

variable (gateway : Gateway) {call : Caller} {request : HttpRequest}

/-- **A reply is answered with its data and its permitted metadata.** -/
theorem isReply_replyResponse (reply : Json) (metadata : Headers) :
    (gateway.replyResponse reply (CallClient.seenWithReply metadata)).IsReply gateway.forwarding reply
      metadata where
  status := rfl
  body := rfl
  headers name := by
    have hown : Headers.valuesOf name (Envelope.success reply).headers =
        if name = CallServer.typeHeader.name then [Response.jsonType] else [] := by
      show Headers.valuesOf name [⟨CallServer.typeHeader.name, Response.jsonType⟩] = _
      rw [Headers.valuesOf_cons, Headers.valuesOf_nil]
      simp only [eq_comm]
    have hcross : Headers.valuesOf name
        (gateway.forwarding.responseHeaders (CallClient.seenWithReply metadata)) =
          if gateway.forwarding.outgoing.contains name then
            (CallClient.seenWithReply metadata).valuesOf name
          else [] :=
      Headers.valuesOf_filter name _ fun n => gateway.forwarding.outgoing.contains n
    show Headers.valuesOf name ((Envelope.success reply).headers.replace
      (gateway.forwarding.responseHeaders (CallClient.seenWithReply metadata))) = _
    rw [Headers.valuesOf_replace, hcross, hown, Forwarding.replyValues,
      CallClient.valuesOf_seenWithReply]
    -- a name without values on the way is not the one of the media type, which always has one
    have hcrossing : (if Status.transportHeaders.contains name then CallClient.transportValues name
        else metadata.valuesOf name) = [] → name ≠ CallServer.typeHeader.name := by
      rintro hnone rfl
      rw [if_pos (by decide)] at hnone
      exact absurd hnone (by decide)
    generalize (if Status.transportHeaders.contains name then CallClient.transportValues name
      else metadata.valuesOf name) = crossing at hcrossing
    by_cases hpermitted : gateway.forwarding.outgoing.contains name = true
    · rw [if_pos hpermitted, if_pos hpermitted]
      by_cases hnone : crossing = []
      · rw [if_pos hnone, if_neg (hcrossing hnone), hnone]
      · rw [if_neg hnone]
    · rw [if_neg hpermitted, if_neg hpermitted, if_pos rfl]

/-- A request that does not ask for the health of the host is answered by the rules. -/
theorem serve_of_not_health (hhealth : gateway.asksForHealth request = false) :
    (gateway.serve call request).1 = (gateway.route call request).1 := by
  rw [serve, hhealth]
  rfl

/-- How a request with a message is answered. -/
theorem forward_of_message {route : Route} {params : List (String × String)} {message : Json}
    (hbody : request.body.length ≤ gateway.maxBodyBytes)
    (hmessage : Message.build route.body request.body params request.target.query = .ok message) :
    (gateway.forward call route params request).1 =
      match (call route.target (gateway.forwarding.metadata request.headers) message).1 with
      | .ok (reply, metadata) => gateway.replyResponse reply metadata
      | .error status => Envelope.failure status := by
  rw [forward, if_neg (Nat.not_lt.mpr hbody), hmessage]
  simp only
  cases call route.target (gateway.forwarding.metadata request.headers) message with
  | mk result reports => cases result <;> rfl

end Gateway

namespace HostContext

/-- A host with these services, as it runs. -/
def running (settings : Settings) (services : List Service) (ready : Bool) : HostContext :=
  { withServices settings services with ready }

/-- The answer of the gateway of a host, whose calls go to the host itself. -/
def answer (context : HostContext) (gateway : Gateway) (request : HttpRequest) : Response :=
  (gateway.serve (CallClient.call (CallClient.direct context.callServer) context.maxMessageBytes)
    request).1

/-- What becomes of a message when the method of a route is called in the same process, with the
metadata of a request. -/
def callInProcess (context : HostContext) (gateway : Gateway) (request : HttpRequest) (route : Route)
    (message : Json) : Except Status (Json × Headers) :=
  (context.registry.dispatch route.target
    (context.callServer.seen (gateway.forwarding.metadata request.headers) message)).1

variable {settings : Settings} {services : List Service} {ready : Bool} {gateway : Gateway}

/-- Every route of a host with plain services leads to a path that is a target. -/
theorem target_of_route (hplain : ∀ service ∈ services, service.IsPlain)
    (hgateway : (running settings services ready).gateway = some gateway) {route : Route}
    (hroute : route ∈ gateway.table.routes) :
    Target.ofPath? none none (Utf8.ofString route.target) = some { path := route.target } := by
  obtain ⟨hsome, hnoRoutes, -⟩ := ofSettings_spec settings
  obtain ⟨-, hroutes, -⟩ := registerAll_spec _ hsome services
  have hbound : route ∈ services.flatMap Service.routes := by
    have hroutes' : (withServices settings services).routes = services.flatMap Service.routes := by
      rw [withServices, hroutes, hnoRoutes, List.nil_append]
    have hsame : (withServices settings services).gateway = some gateway := hgateway
    rw [← hroutes', HostContext.routes, hsame]
    exact hroute
  obtain ⟨service, hservice, hmem⟩ := List.mem_flatMap.mp hbound
  obtain ⟨method, hmethod, hpath⟩ := service.hasPath_target hmem
  obtain ⟨hname, hmethods⟩ := hplain service hservice
  obtain ⟨hmethodName, hmethodPath⟩ := hmethods method hmethod
  rw [← hpath, hmethodPath]
  exact Target.ofPath?_pathOf hname hmethodName

/-- A message that the connection carries is answered as the call in the same process is. -/
theorem answer_of_message (hplain : ∀ service ∈ services, service.IsPlain)
    (hgateway : (running settings services ready).gateway = some gateway) {request : HttpRequest}
    (hhealth : gateway.asksForHealth request = false)
    (hbody : request.body.length ≤ gateway.maxBodyBytes) {route : Route}
    {params : List (String × String)} {message received : Json}
    (hfound : gateway.table.lookup request.method request.target.path = .found route params)
    (hmessage : Message.build route.body request.body params request.target.query = .ok message)
    (hread : CallServer.readMessage? (CallServer.writeMessage message) = some received)
    (hlimit : (CallServer.writeMessage message).length ≤
      (running settings services ready).maxMessageBytes)
    (hwidth : (CallServer.writeMessage message).length < 256 ^ 4) :
    (running settings services ready).answer gateway request =
      match CallClient.replyOf (running settings services ready).maxMessageBytes
        (CallServer.respond (running settings services ready).maxMessageBytes
          ((running settings services ready).callInProcess gateway request route received)) with
      | .ok (reply, metadata) => gateway.replyResponse reply metadata
      | .error status => Envelope.failure status := by
  have htarget := target_of_route hplain hgateway (RoutingTable.mem_of_lookup hfound)
  rw [answer, gateway.serve_of_not_health hhealth, Gateway.route, hfound]
  simp only
  rw [gateway.forward_of_message hbody hmessage]
  rw [CallClient.call_direct (running settings services ready).callServer htarget hread hlimit hwidth]
  rfl

/-- **The gateway adds nothing of its own.**  Whatever services with plain names were registered and
however the gateway is configured, a request that does not ask for the health of the host and whose
body is not too long is answered so: with the failure of an unknown path, of an unknown method or of
a message that cannot be built, or else as the call of the route's method with that message in the
same process is answered: with its reply and the permitted metadata of this, or with its status.  The
message and the reply are ones that the connection carries, and the status is a failure that does. -/
theorem gateway_adds_nothing (settings : Settings) (services : List Service)
    (hplain : ∀ service ∈ services, service.IsPlain) (ready : Bool) (gateway : Gateway)
    (hgateway : (running settings services ready).gateway = some gateway) (request : HttpRequest)
    (hhealth : gateway.asksForHealth request = false)
    (hbody : request.body.length ≤ gateway.maxBodyBytes) :
    (gateway.table.lookup request.method request.target.path = .notFound →
      ((running settings services ready).answer gateway request).IsFailure
        Gateway.notFound 404 5) ∧
    (gateway.table.lookup request.method request.target.path = .methodNotAllowed →
      ((running settings services ready).answer gateway request).IsFailure
        Gateway.methodNotAllowed 501 12) ∧
    ∀ route params,
      gateway.table.lookup request.method request.target.path = .found route params →
      (∀ refusal,
        Message.build route.body request.body params request.target.query = .error refusal →
        ((running settings services ready).answer gateway request).IsFailure
          refusal.status 400 3) ∧
      ∀ message,
        Message.build route.body request.body params request.target.query = .ok message →
        CallServer.Carries (running settings services ready).maxMessageBytes message →
        (∀ reply metadata,
          (running settings services ready).callInProcess gateway request route message =
            .ok (reply, metadata) →
          reply.WellFormed Number.Fits →
          CallServer.Carries (running settings services ready).maxMessageBytes reply →
          ((running settings services ready).answer gateway request).IsReply gateway.forwarding
            reply metadata) ∧
        ∀ status,
          (running settings services ready).callInProcess gateway request route message =
            .error status →
          status.code ≠ .ok → status.TravelsWhole →
          (running settings services ready).answer gateway request = Envelope.failure status := by
  have hroute : (running settings services ready).answer gateway request =
      (gateway.route (CallClient.call
        (CallClient.direct (running settings services ready).callServer)
        (running settings services ready).maxMessageBytes) request).1 :=
    gateway.serve_of_not_health hhealth
  refine ⟨fun hfound => ?_, fun hfound => ?_, fun route params hfound => ⟨?_, ?_⟩⟩
  · rw [hroute, Gateway.route, hfound]
    exact ⟨rfl, rfl, rfl⟩
  · rw [hroute, Gateway.route, hfound]
    exact ⟨rfl, rfl, rfl⟩
  · intro refusal hrefusal
    rw [hroute, Gateway.route, hfound]
    simp only
    rw [Gateway.forward, if_neg (Nat.not_lt.mpr hbody), hrefusal]
    cases refusal <;> exact ⟨rfl, rfl, rfl⟩
  · intro message hmessage hcarries
    have hread := hcarries.read (Message.wellFormed_build hmessage)
    have hanswer := answer_of_message hplain hgateway hhealth hbody hfound hmessage hread
      hcarries.short hcarries.fits
    refine ⟨fun reply metadata hreply hwell hcarried => ?_, fun status hstatus hfailed htravels => ?_⟩
    · rw [hanswer, hreply, CallServer.respond,
        CallClient.replyOf_success (hcarried.read hwell) hcarried.short hcarried.fits]
      exact gateway.isReply_replyResponse reply metadata
    · obtain ⟨received, hreceived, hsame⟩ := CallClient.replyOf_failure hfailed htravels
      rw [hanswer, hstatus, CallServer.respond, hreceived]
      exact hsame

/-- A service whose method replies with its request. -/
def echo : Service where
  name := "s"
  methods :=
    [{ name := "m", path := "/s/m"
       handler := fun request => .reply request.message [⟨"x-request-id", Octets.ascii "7"⟩]
       rules := [{ method := "POST", template := "/e", body := .all }] }]

/-- The route of its method. -/
def echoRoute : Route :=
  { method := "POST", template := { text := "/e", segments := [.literal "e"] }
    target := "/s/m", body := .all }

theorem isPlain_echo : ∀ service ∈ [echo], service.IsPlain := by
  intro service hservice
  rw [List.mem_singleton.mp hservice]
  refine ⟨by decide, fun method hmethod => ?_⟩
  rw [List.mem_singleton.mp hmethod]
  exact ⟨by decide, rfl⟩

/-- The gateway of a host with that service finds its route for every body. -/
theorem exists_gateway_echo :
    ∃ gateway, (running {} [echo] true).gateway = some gateway ∧
      gateway.asksForHealth { method := "POST", target := { path := "/e" } } = false ∧
      gateway.maxBodyBytes = 2097152 ∧ gateway.forwarding.outgoing = ["x-request-id"] ∧
      gateway.table.lookup "POST" "/e" = .found echoRoute [] := by
  refine ⟨_, rfl, ?_, ?_, ?_, ?_⟩
  · decide
  · decide
  · decide
  · decide

theorem callInProcess_echo (gateway : Gateway) (request : HttpRequest) (message : Json) :
    (running {} [echo] true).callInProcess gateway request echoRoute message =
      .ok (message, [⟨"x-request-id", Octets.ascii "7"⟩]) := rfl

/-- A request for the route of that service. -/
def echoRequest (body : Octets) : HttpRequest where
  method := "POST"
  target := { path := "/e" }
  body := body

/-- A request with one integer is answered with the message and the permitted metadata. -/
theorem gateway_adds_nothing_echo :
    ∃ gateway message, (running {} [echo] true).gateway = some gateway ∧
      Message.build .all (Octets.ascii "\x7b\"n\":7\x7d") [] none = .ok message ∧
      ((running {} [echo] true).answer gateway
        (echoRequest (Octets.ascii "\x7b\"n\":7\x7d"))).IsReply gateway.forwarding message
          [⟨"x-request-id", Octets.ascii "7"⟩] := by
  let body := Octets.ascii "\x7b\"n\":7\x7d"
  obtain ⟨gateway, hgateway, hhealth, hlimit, -, hlookup⟩ := exists_gateway_echo
  have hbuild : (Message.build .all body [] none).toOption.map
      (fun m => (m.numbers, m.depth, (CallServer.writeMessage m).length)) =
        some ([.int 7], 1, 7) := by decide +kernel
  cases hmessage : Message.build .all body [] none with
  | error refusal => simp [hmessage, Except.toOption] at hbuild
  | ok message =>
      rw [hmessage] at hbuild
      obtain ⟨hnumbers, hrest⟩ := Prod.mk.inj (Option.some.inj hbuild)
      obtain ⟨hdepth, hlength⟩ := Prod.mk.inj hrest
      have hcarries : CallServer.Carries (running {} [echo] true).maxMessageBytes message :=
        { shallow := by rw [hdepth]; decide
          short := by rw [hlength]; decide
          fits := by rw [hlength]; decide
          doubles := fun d hd => by rw [hnumbers] at hd; simp at hd }
      obtain ⟨-, -, hfound⟩ := gateway_adds_nothing {} [echo] isPlain_echo true gateway hgateway
        (echoRequest body) hhealth (by rw [hlimit]; decide)
      have hreply := ((hfound echoRoute [] hlookup).2 message hmessage hcarries).1 message _
        (callInProcess_echo gateway (echoRequest body) message) (Message.wellFormed_build hmessage)
        hcarries
      exact ⟨gateway, message, hgateway, rfl, hreply⟩

/-- **The gateway can change a number.**  Bounds for the message and the reply are not enough: with
this double in the message, the gateway answers with another number than the method replies. -/
theorem gateway_changes_number :
    ¬ ∀ (settings : Settings) (services : List Service) (ready : Bool) (gateway : Gateway)
      (request : HttpRequest) (route : Route) (params : List (String × String)) (message reply : Json)
      (metadata : Headers),
      (∀ service ∈ services, service.IsPlain) →
      (running settings services ready).gateway = some gateway →
      gateway.asksForHealth request = false → request.body.length ≤ gateway.maxBodyBytes →
      gateway.table.lookup request.method request.target.path = .found route params →
      Message.build route.body request.body params request.target.query = .ok message →
      CallServer.WithinLimits (running settings services ready).maxMessageBytes message →
      (running settings services ready).callInProcess gateway request route message =
        .ok (reply, metadata) →
      reply.WellFormed Number.Fits →
      CallServer.WithinLimits (running settings services ready).maxMessageBytes reply →
      ((running settings services ready).answer gateway request).IsReply gateway.forwarding reply
        metadata := by
  intro h
  let body := Octets.ascii "\x7b\"a\":7205759403792796e0\x7d"
  obtain ⟨gateway, hgateway, hhealth, hlimit, -, hlookup⟩ := exists_gateway_echo
  have hbuild : (Message.build .all body [] none).toOption.map
      (fun m => (m.depth, (CallServer.writeMessage m).length)) = some (1, 24) := by decide +kernel
  have hreread : ((Message.build .all body [] none).toOption.bind fun m =>
      (CallServer.readMessage? (CallServer.writeMessage m)).map fun r =>
        (r.depth, (CallServer.writeMessage r).length, r.numbers,
          Utf8.encode (Envelope.successText r) == Utf8.encode (Envelope.successText m))) =
            some (1, 24, [.double ⟨false, ⟨7205759403792797, 0⟩⟩], false) := by decide +kernel
  cases hmessage : Message.build .all body [] none with
  | error refusal => simp [hmessage, Except.toOption] at hbuild
  | ok message =>
      rw [hmessage] at hbuild hreread
      obtain ⟨hdepth, hlength⟩ := Prod.mk.inj (Option.some.inj hbuild)
      obtain ⟨received, hread, hreceived⟩ := Option.map_eq_some_iff.mp hreread
      obtain ⟨hdepth', hrest⟩ := Prod.mk.inj hreceived
      obtain ⟨hlength', hrest⟩ := Prod.mk.inj hrest
      obtain ⟨hnumbers, hbodies⟩ := Prod.mk.inj hrest
      have hwithin : CallServer.WithinLimits (running {} [echo] true).maxMessageBytes message :=
        { shallow := by rw [hdepth]; decide
          short := by rw [hlength]; decide
          fits := by rw [hlength]; decide }
      have hcarries : CallServer.Carries (running {} [echo] true).maxMessageBytes received :=
        { shallow := by rw [hdepth']; decide
          short := by rw [hlength']; decide
          fits := by rw [hlength']; decide
          doubles := fun d hd => by
            rw [hnumbers, List.mem_singleton] at hd
            rw [hd]
            decide +kernel }
      have hbody : (echoRequest body).body.length ≤ gateway.maxBodyBytes := by
        rw [hlimit]
        decide
      have hhealth' : gateway.asksForHealth (echoRequest body) = false := hhealth
      -- the answer holds what the handler received, and the claimed one what it was sent
      have hanswer := answer_of_message isPlain_echo hgateway hhealth' hbody hlookup hmessage hread
        hwithin.short hwithin.fits
      rw [callInProcess_echo, CallServer.respond, CallClient.replyOf_success
        (hcarries.read (CallServer.wellFormed_readMessage? hread)) hcarries.short hcarries.fits] at hanswer
      have hclaimed := (h {} [echo] true gateway (echoRequest body) echoRoute [] message message _
        isPlain_echo hgateway hhealth hbody hlookup hmessage hwithin
        (callInProcess_echo gateway (echoRequest body) message) (Message.wellFormed_build hmessage)
        hwithin).body
      rw [hanswer] at hclaimed
      have hsame : Utf8.encode (Envelope.successText received) =
          Utf8.encode (Envelope.successText message) := hclaimed
      simp [hsame] at hbodies

end HostContext

end ServiceHost
