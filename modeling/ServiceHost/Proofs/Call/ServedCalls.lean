import ServiceHost.Proofs.Call.Exchange
import ServiceHost.Proofs.Call.Registry

/-!
# Served calls and calls in the same process

A method is called in two ways: by a request, whose path the server looks up among its routes, and in
the same process, where the registry looks it up among its handlers.  Both come to the same
(`CallServer.served_as_dispatched`): the method that was registered last under the path answers, or
the path is unknown, whatever services were registered before and however often one path among them
occurs.

A request carries text.  So the two agree on what the text carries, and there are a number, a failure
and a request header with which they do not (`CallServer.served_otherwise`).
-/

namespace ServiceHost

/-- What the caller learns of a failed call. -/
structure Failure where
  code : Code
  rawCode : Int32
  message : String
  details : Octets := []
  deriving DecidableEq, Repr

/-- What the caller learns of a status. -/
def Status.failure (status : Status) : Failure where
  code := status.code
  rawCode := status.rawCode
  message := status.message
  details := status.details

/-- The reply of a call, or how it failed. -/
def CallResult.ending : CallResult → Except Failure Json
  | .ok (reply, _) => .ok reply
  | .error status => .error status.failure

theorem Handler.typed_of_error {α : Type} {read : Json → Except Mismatch α} {mismatch : Mismatch}
    {request : Request} (run : Request → α → Decision)
    (hmismatch : read request.message = .error mismatch) :
    Handler.typed read run request = .failed (Handler.misfit mismatch) := by
  rw [Handler.typed, hmismatch]

namespace CallServer

/-- What a request comes to, as its caller reads the answer. -/
def served (server : CallServer) (request : HttpRequest) : Except Failure Json :=
  CallResult.ending (CallClient.replyOf server.maxMessageBytes (server.serve request).1)

/-- What the call with a message and the metadata of a request comes to in the same process. -/
def dispatched (server : CallServer) (request : HttpRequest) (message : Json) : CallResult :=
  (server.registry.dispatch request.target.path (server.calledWith request message)).1

/-- Whether both ways of a call come to the same, and to this. -/
structure BothEnd (server : CallServer) (request : HttpRequest) (message : Json)
    (ending : Except Failure Json) : Prop where
  served : server.served request = ending
  dispatched : CallResult.ending (server.dispatched request message) = ending

variable {server : CallServer} {request : HttpRequest} {message received reply : Json}
  {metadata : Headers} {status : Status}

/-- **A request comes to what the call of its message does**, as far as the answer can be read. -/
theorem served_eq (hcall : IsCall request message)
    (hread : readMessage? (writeMessage message) = some received)
    (hlimits : WithinLimits server.maxMessageBytes message) :
    server.served request =
      CallResult.ending (CallClient.replyOf server.maxMessageBytes
        (respond server.maxMessageBytes (server.dispatched request received))) := by
  rw [served, serve_of_isCall server hcall hread hlimits.short hlimits.fits]
  rfl

variable (hcall : IsCall request message) (hwell : message.WellFormed Number.Fits)
  (hcarries : Carries server.maxMessageBytes message)
include hcall hwell hcarries

theorem bothEnd_of_reply (hresult : server.dispatched request message = .ok (reply, metadata))
    (hreply : reply.WellFormed Number.Fits) (hcarried : Carries server.maxMessageBytes reply) :
    server.BothEnd request message (.ok reply) where
  served := by
    rw [served_eq hcall (hcarries.read hwell) hcarries.toWithinLimits, hresult, respond,
      CallClient.replyOf_success (hcarried.read hreply) hcarried.short hcarried.fits]
    rfl
  dispatched := by rw [hresult]; rfl

theorem bothEnd_of_failure (hresult : server.dispatched request message = .error status)
    (hfailed : status.code ≠ .ok) (htravels : status.TravelsWhole) :
    server.BothEnd request message (.error status.failure) where
  served := by
    obtain ⟨received, hreceived, hcode, hmessage, hdetails, hattached⟩ :=
      @CallClient.exists_replyOf_failure server.maxMessageBytes status hfailed htravels
    have hsame : received.failure = status.failure := by
      rw [Status.failure, hcode, hmessage, hdetails, Status.rawCode_congr hcode hattached]
      rfl
    rw [served_eq hcall (hcarries.read hwell) hcarries.toWithinLimits, hresult, respond, hreceived,
      CallResult.ending, hsame]
  dispatched := by rw [hresult]; rfl

omit hcall hwell hcarries

theorem dispatched_of_none {services : List Service}
    (hserver : server.registry = .ofServices services)
    (hnone : Registry.lastMethod? services request.target.path = none) :
    server.dispatched request message = .error (Registry.unknownMethod request.target.path) := by
  rw [dispatched, Registry.dispatch_fst, hserver, Registry.find?_ofServices, hnone]
  rfl

theorem dispatched_of_some {services : List Service} {method : Method} {outcome : Outcome}
    (hserver : server.registry = .ofServices services)
    (hlast : Registry.lastMethod? services request.target.path = some method)
    (houtcome : method.handler (server.calledWith request message) = outcome) :
    server.dispatched request message = Registry.resultOf outcome := by
  rw [dispatched, Registry.dispatch_fst, hserver, Registry.find?_ofServices, hlast, ← houtcome]
  rfl

/-- **Served calls and calls in the same process agree.**  Whatever services were registered, and in
whatever order, the server has the paths of their methods, each once.  A request that calls with a
message that the connection carries comes to what the call in the same process with the same metadata
comes to, and that is

* the failure of an unknown path, if the path was not registered;
* else what the method that was registered last under the path makes of it: its reply, where the
  connection carries that, its failure, or the failure of a method that breaks down or that cannot
  read its request. -/
theorem served_as_dispatched (server : CallServer) (services : List Service)
    (hserver : server.registry = .ofServices services) (request : HttpRequest) (message : Json)
    (hcall : IsCall request message) (hwell : message.WellFormed Number.Fits)
    (hcarries : Carries server.maxMessageBytes message) :
    (∀ path, server.registry.has path = true ↔ ∃ service ∈ services, service.HasPath path) ∧
    server.registry.size = ((services.flatMap (·.methods)).map (·.path)).toFinset.card ∧
    (server.registry.has request.target.path = false →
      server.BothEnd request message
        (.error { code := .unimplemented, rawCode := 12
                  message := "unknown method " ++ request.target.path })) ∧
    (server.registry.has request.target.path = true →
      ∃ method, Registry.lastMethod? services request.target.path = some method ∧
        (∀ reply metadata,
          method.handler (server.calledWith request message) = .reply reply metadata →
          reply.WellFormed Number.Fits → Carries server.maxMessageBytes reply →
          server.BothEnd request message (.ok reply)) ∧
        (∀ status,
          method.handler (server.calledWith request message) = .failed status →
          status.code ≠ .ok → status.TravelsWhole →
          server.BothEnd request message (.error status.failure)) ∧
        (∀ reason,
          method.handler (server.calledWith request message) = .broken reason →
          server.BothEnd request message
            (.error { code := .internal, rawCode := 13, message := "internal error" })) ∧
        ∀ (α : Type) (read : Json → Except Mismatch α) (run : Request → α → Decision) mismatch,
          method.handler = Handler.typed read run → read message = .error mismatch →
          server.BothEnd request message
            (.error { code := .invalidArgument, rawCode := 3
                      message := "invalid request message: " ++ mismatch.message })) := by
  have hhas : server.registry.has request.target.path =
      (Registry.lastMethod? services request.target.path).isSome := by
    rw [hserver, Registry.has, Registry.find?_ofServices, Option.isSome_map]
  rw [hhas]
  refine ⟨fun path => ?_, ?_, fun hunknown => ?_, fun hknown => ?_⟩
  · rw [hserver]
    exact Registry.has_ofServices path services
  · rw [hserver]
    exact Registry.size_ofServices services
  · have hnone : Registry.lastMethod? services request.target.path = none := by
      simpa using hunknown
    exact bothEnd_of_failure hcall hwell hcarries (dispatched_of_none hserver hnone)
      (by decide : Code.unimplemented ≠ .ok) (Status.travelsWhole_of_metadata_nil rfl)
  · obtain ⟨method, hlast⟩ := Option.isSome_iff_exists.mp hknown
    refine ⟨method, hlast, ?_, ?_, ?_, ?_⟩
    · intro reply metadata hreply hfits hcarried
      exact bothEnd_of_reply hcall hwell hcarries (dispatched_of_some hserver hlast hreply) hfits
        hcarried
    · intro status hstatus hfailed htravels
      exact bothEnd_of_failure hcall hwell hcarries (dispatched_of_some hserver hlast hstatus)
        hfailed htravels
    · intro reason hbroken
      exact bothEnd_of_failure hcall hwell hcarries (dispatched_of_some hserver hlast hbroken)
        (by decide : Code.internal ≠ .ok) (Status.travelsWhole_of_metadata_nil rfl)
    · intro α read run mismatch htyped hmismatch
      have hrefused : method.handler (server.calledWith request message) =
          .failed (Handler.misfit mismatch) := by
        rw [htyped]
        exact Handler.typed_of_error run hmismatch
      exact bothEnd_of_failure hcall hwell hcarries (dispatched_of_some hserver hlast hrefused)
        (by decide : Code.invalidArgument ≠ .ok) (Status.travelsWhole_of_metadata_nil rfl)

/-- A service with one method, by its handler. -/
def oneMethod (handler : Handler) : Service where
  name := "s"
  methods := [{ name := "m", path := "/s/m", handler }]

/-- The server that one method was registered with several times. -/
def withHandlers (handlers : List Handler) : CallServer where
  registry := .ofServices (handlers.map oneMethod)
  maxMessageBytes := 4096

/-- A handler that replies with its request. -/
def echo : Handler := fun request => .reply request.message []

/-- A call of that method. -/
def callOf (message : Json) (headers : Headers) : HttpRequest where
  method := "POST"
  target := { path := "/s/m" }
  headers := headers
  body := Framing.frame (writeMessage message)

theorem isCall_callOf (message : Json) : IsCall (callOf message []) message :=
  ⟨rfl, rfl, rfl⟩

def seven : Json := .number (.int 7)

theorem carries_seven : Carries 4096 seven where
  shallow := by decide
  short := by decide
  fits := by decide
  doubles d hd := by simp [seven, Json.numbers] at hd

theorem wellFormed_seven : seven.WellFormed Number.Fits :=
  .number ⟨by decide, by decide⟩

theorem served_as_dispatched_replaced :
    (withHandlers [fun _ => .broken "out of order", echo]).registry.size = 1 ∧
      (withHandlers [fun _ => .broken "out of order", echo]).BothEnd
        (callOf seven []) seven (.ok seven) := by
  obtain ⟨-, hsize, -, hknown⟩ :=
    served_as_dispatched (withHandlers [fun _ => .broken "out of order", echo])
      [oneMethod fun _ => .broken "out of order", oneMethod echo] rfl
      (callOf seven []) seven (isCall_callOf _) wellFormed_seven carries_seven
  obtain ⟨method, hlast, hreply, -⟩ := hknown (by decide)
  obtain rfl := Option.some.inj hlast
  exact ⟨hsize.trans (by decide), hreply _ _ rfl wellFormed_seven carries_seven⟩

/-- An object with a double that is not read back from its text. -/
def unsteady : Json :=
  .object [("a", .number (.double ⟨false, ⟨7205759403792796, 0⟩⟩))]

theorem wellFormed_unsteady : unsteady.WellFormed Number.Fits := by
  refine .object (List.pairwise_singleton _ _) fun member hmember => ?_
  rw [List.mem_singleton.mp hmember]
  exact .number trivial

theorem withinLimits_unsteady : WithinLimits 4096 unsteady where
  shallow := by decide
  short := by decide
  fits := by decide

/-- What is read of its text is another object, which the connection carries. -/
theorem exists_read_unsteady :
    ∃ received, readMessage? (writeMessage unsteady) = some received ∧ received ≠ unsteady ∧
      Carries 4096 received := by
  have hreread : (readMessage? (writeMessage unsteady)).map
      (fun r => (r.numbers, r.depth, (writeMessage r).length)) =
        some ([.double ⟨false, ⟨7205759403792797, 0⟩⟩], 1, 24) := by decide +kernel
  obtain ⟨received, hread, hreceived⟩ := Option.map_eq_some_iff.mp hreread
  obtain ⟨hnumbers, hrest⟩ := Prod.mk.inj hreceived
  obtain ⟨hdepth, hlength⟩ := Prod.mk.inj hrest
  refine ⟨received, hread, ?_, ?_⟩
  · rintro rfl
    exact absurd hnumbers (by decide)
  · exact
      { shallow := by rw [hdepth]; decide
        short := by rw [hlength]; decide
        fits := by rw [hlength]; decide
        doubles := fun d hd => by
          rw [hnumbers, List.mem_singleton] at hd
          rw [hd]
          decide +kernel }

theorem served_unsteady :
    (withHandlers [echo]).served (callOf unsteady []) ≠ .ok unsteady := by
  obtain ⟨received, hread, hother, hcarries⟩ := exists_read_unsteady
  have hreply : (withHandlers [echo]).dispatched (callOf unsteady []) received =
      .ok (received, []) := rfl
  have hanswer := @CallClient.replyOf_success 4096 received received []
    (hcarries.read (wellFormed_readMessage? hread)) hcarries.short hcarries.fits
  have hlimit : (withHandlers [echo]).maxMessageBytes = 4096 := rfl
  rw [served_eq (isCall_callOf unsteady) hread withinLimits_unsteady, hreply, respond, hlimit,
    hanswer]
  exact fun h => hother (Except.ok.inj h)

/-- A failure whose metadata stand where its details would. -/
def spoiled : Status where
  code := .notFound
  message := "gone"
  metadata := [⟨Status.detailsHeader, Octets.ascii "W10="⟩]

theorem served_spoiled :
    (withHandlers [fun _ => .failed spoiled]).served (callOf seven []) ≠
      .error spoiled.failure := by
  have hfailure : (withHandlers [fun _ => .failed spoiled]).dispatched
      (callOf seven []) seven = .error spoiled := rfl
  have hdetails : (statusOf (failure spoiled)).map (fun s => (s.code, s.details)) =
      some (.notFound, Octets.ascii "[]") := by decide +kernel
  obtain ⟨received, hstatus, hreceived⟩ := Option.map_eq_some_iff.mp hdetails
  obtain ⟨hcode, hdetails⟩ := Prod.mk.inj hreceived
  have hanswer : ∀ limit, CallClient.replyOf limit (failure spoiled) = .error received := by
    intro limit
    rw [CallClient.replyOf, hstatus]
    exact if_neg (by rw [hcode]; decide)
  rw [served_eq (isCall_callOf _) (carries_seven.read wellFormed_seven) carries_seven.toWithinLimits,
    hfailure, respond, hanswer]
  intro h
  have hnone : received.details = [] := congrArg Failure.details (Except.error.inj h)
  rw [hnone] at hdetails
  exact absurd hdetails (by decide)

/-- The header of a compressed message. -/
def compressed : Headers := [⟨encodingHeader, Octets.ascii "gzip"⟩]

theorem served_compressed :
    (withHandlers [echo]).served (callOf seven compressed) ≠ .ok seven := by
  have hrefused : ((withHandlers [echo]).serve (callOf seven compressed)).1 =
      failure (unknownEncoding (Octets.ascii "gzip")) := rfl
  obtain ⟨received, hanswer, -⟩ := @CallClient.exists_replyOf_failure 4096
    (unknownEncoding (Octets.ascii "gzip")) (by decide) fun _ => rfl
  have hlimit : (withHandlers [echo]).maxMessageBytes = 4096 := rfl
  rw [served, hrefused, hlimit, hanswer]
  exact fun h => nomatch h

/-- **Served calls differ in a number, in the details of a failure, and where a request says that its
message is compressed.**  The bounds for message and reply are kept, and no method fails with
success. -/
theorem served_otherwise :
    (IsCall (callOf unsteady []) unsteady ∧ unsteady.WellFormed Number.Fits ∧
      WithinLimits (withHandlers [echo]).maxMessageBytes unsteady ∧
      (withHandlers [echo]).dispatched (callOf unsteady []) unsteady = .ok (unsteady, []) ∧
      (withHandlers [echo]).served (callOf unsteady []) ≠ .ok unsteady) ∧
    (spoiled.code ≠ .ok ∧
      (withHandlers [fun _ => .failed spoiled]).dispatched (callOf seven [])
        seven = .error spoiled ∧
      (withHandlers [fun _ => .failed spoiled]).served (callOf seven []) ≠
        .error spoiled.failure) ∧
    (withHandlers [echo]).dispatched (callOf seven compressed) seven =
        .ok (.number (.int 7), []) ∧
      (withHandlers [echo]).served (callOf seven compressed) ≠ .ok seven :=
  ⟨⟨isCall_callOf unsteady, wellFormed_unsteady, withinLimits_unsteady, rfl, served_unsteady⟩,
    ⟨by decide, rfl, served_spoiled⟩, rfl, served_compressed⟩

end CallServer

end ServiceHost
