import ServiceHost.Gateway.Serve

/-!
# Pages

Modules put pages under paths of their own, the host adds its health page, and the gateway answers
everything below its own path.  A page comes before the gateway.  Pages are for reading: other
methods are refused, and nothing is found elsewhere.
-/

namespace ServiceHost

/-- What pages see of the host. -/
structure HostView where
  ready : Bool
  settings : Settings
  deriving Repr

/-- A page. -/
structure Page where
  path : String
  answer : HostView → Response

namespace Page

/-- A page that shows a text. -/
def text (path content : String) : Page where
  path := path
  answer _ :=
    { status := 200
      headers := [⟨"content-type", Octets.ascii "text/plain; charset=utf-8"⟩]
      body := Utf8.ofString content }

/-- The page of the host's health. -/
def health : Page where
  path := "/healthz"
  answer view := Health.page view.ready

/-- The answer to a method that does not read. -/
def readOnly : Response :=
  { status := 405, headers := [⟨"allow", Octets.ascii "GET,HEAD"⟩] }

/-- Answer a request for a page. -/
def respond (page : Page) (view : HostView) (method : String) : Response :=
  if method = "GET" then page.answer view
  else if method = "HEAD" then { page.answer view with body := [] }
  else readOnly

end Page

/-! ## Paths -/

/-- Where a reader of a path stands. -/
inductive BraceScan where
  | outside
  /-- Behind an opening brace, with the length of the name so far. -/
  | inside (length : Nat)
  /-- Behind a closing brace: the segment must end. -/
  | behind
  deriving DecidableEq, Repr

/-- Whether the braces of a path are in order.  A pair of equal braces stands for itself; a name
between braces is not empty, ends its segment, and starts with an asterisk only at the end of the
path. -/
def bracesMatch : BraceScan → List Char → Bool
  | .outside, '\x7b' :: '\x7b' :: rest => bracesMatch .outside rest
  | .outside, '\x7d' :: '\x7d' :: rest => bracesMatch .outside rest
  | .outside, '\x7b' :: '*' :: rest =>
    rest.getLast? == some '\x7d' && 1 < rest.length &&
      rest.dropLast.all fun c => c != '/' && c != '*' && c != '\x7d'
  | .outside, '\x7b' :: rest => bracesMatch (.inside 0) rest
  | .outside, '\x7d' :: _ => false
  | .outside, _ :: rest => bracesMatch .outside rest
  | .outside, [] => true
  | .inside length, '\x7d' :: rest => 0 < length && bracesMatch .behind rest
  | .inside length, c :: rest => c != '/' && c != '*' && bracesMatch (.inside (length + 1)) rest
  | .inside _, [] => false
  | .behind, '/' :: rest => bracesMatch .outside rest
  | .behind, [] => true
  | .behind, _ => false

/-- Whether something can stand under a path: it starts with a slash, no segment starts with a
colon or an asterisk, and its braces are in order.  Anything else breaks the host down. -/
def isRoutable (path : String) : Bool :=
  path.toList.head? == some '/' &&
    (splitText '/' path).all (fun segment =>
      segment.toList.head? != some ':' && segment.toList.head? != some '*') &&
    bracesMatch .outside path.toList

/-- Why a page cannot be added. -/
inductive PageError where
  | notRoutable (path : String)
  | taken (path : String)
  deriving DecidableEq, Repr

/-- The reason in words. -/
def PageError.message : PageError → String
  | .notRoutable path => "nothing can stand under '" ++ path ++ "'"
  | .taken path => "there is a page under '" ++ path ++ "' already"

/-- The pages of a host. -/
structure Pages where
  pages : List Page := []

namespace Pages

/-- The page of a path. -/
def find? (pages : Pages) (path : String) : Option Page :=
  pages.pages.find? (·.path == path)

/-- Add a page under a path that is free. -/
def add (pages : Pages) (page : Page) : Except PageError Pages :=
  if !isRoutable page.path then .error (.notRoutable page.path)
  else if (pages.find? page.path).isSome then .error (.taken page.path)
  else .ok { pages := pages.pages ++ [page] }

end Pages

/-! ## The gateway among pages -/

/-- A gateway below a path. -/
structure Mount where
  path : String
  gateway : Gateway

namespace Mount

/-- A path without slashes at its end. -/
def trimmedPath (path : String) : String :=
  String.ofList (path.toList.reverse.dropWhile (· == '/')).reverse

/-- What the paths that a gateway answers look like. -/
def pattern (path : String) : String :=
  trimmedPath path ++ "/\x7b*path\x7d"

/-- Put a gateway below a path, if it can stand there. -/
def make? (path : String) (gateway : Gateway) : Option Mount :=
  if isRoutable (pattern path) then some { path := trimmedPath path, gateway } else none

/-- Whether a path has something below the path of the gateway. -/
def covers (mount : Mount) (path : String) : Bool :=
  (dropLeading? (mount.path ++ "/") path).any (!·.isEmpty)

/-- Answer a request by the gateway, which sees the target relative to its path. -/
def answer (mount : Mount) (call : Gateway.Caller) (request : HttpRequest) :
    Response × List Report :=
  match request.target.below? mount.path with
  | some target => mount.gateway.serve call { request with target }
  | none => (Envelope.failure Gateway.notFound, [])

end Mount

/-! ## The whole site -/

/-- Everything that is served over HTTP/1. -/
structure Site where
  pages : Pages := {}
  mount : Option Mount := none

namespace Site

/-- The answer where nothing is. -/
def nothingHere : Response := { status := 404 }

/-- Find the answer to a request. -/
def route (site : Site) (call : Gateway.Caller) (view : HostView) (request : HttpRequest) :
    Response × List Report :=
  match site.pages.find? request.target.path, site.mount with
  | some page, _ => (page.respond view request.method, [])
  | none, some mount =>
    if mount.covers request.target.path then mount.answer call request else (nothingHere, [])
  | none, none => (nothingHere, [])

/-- Answer a request, and count it. -/
def answer (site : Site) (call : Gateway.Caller) (view : HostView) (request : HttpRequest) :
    Response × List Report :=
  let (response, reports) := site.route call view request
  (response, reports ++ [.sample (.httpRequest request.method response.status)])

end Site

end ServiceHost
