import HttpProxy.Http.Uri

/-!
Requests, responses and I/O errors, with the parts of them that `proxy.rs` reads. The
bodies are streams the code only passes along, and are left out of a request; a response
keeps the text of the bodies the code builds itself.
-/

namespace HttpProxy

/-- `http::Method`. -/
inductive Method where
  | options | get | post | put | delete | head | trace | connect | patch
  | extension (name : String)
  deriving DecidableEq, Repr

/-- `http::Version`. -/
inductive Version where
  | http09 | http10 | http11 | http2 | http3
  deriving DecidableEq, Repr

/-- An `http::Request` without its body. -/
structure Request where
  method : Method
  uri : Uri
  version : Version
  headers : HeaderMap
  deriving DecidableEq

/-- An `http::Response` with a body of text. -/
structure Response where
  status : ℕ
  headers : HeaderMap
  body : String
  deriving DecidableEq, Inhabited

/-- `Response::new(body)`: status 200 and no headers. -/
def Response.new (body : String) : Response := ⟨200, ⟨[]⟩, body⟩

/-- The kinds of `io::ErrorKind` the code raises. -/
inductive ErrorKind where
  | invalidData | permissionDenied
  deriving DecidableEq, Repr

/-- An `io::Error`: its kind and its text. -/
structure IoError where
  kind : ErrorKind
  message : String
  deriving DecidableEq

end HttpProxy
