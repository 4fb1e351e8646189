import ServiceHost.Http.Headers

/-!
# Responses

An HTTP response with its whole body.
-/

namespace ServiceHost

/-- A response. -/
structure Response where
  status : Nat
  headers : Headers := []
  body : Octets := []
  /-- Headers behind the body. -/
  trailers : Headers := []
  deriving DecidableEq, Repr

namespace Response

/-- The media type of JSON. -/
def jsonType : Octets := Octets.ascii "application/json"

/-- A response whose body is JSON. -/
def json (status : Nat) (body : Octets) : Response :=
  { status, headers := [⟨"content-type", jsonType⟩], body }

end Response

end ServiceHost
