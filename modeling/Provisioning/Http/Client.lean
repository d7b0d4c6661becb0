import Provisioning.Failure
import Provisioning.Http
import Provisioning.Http.Query
import Provisioning.Text.Case

/-!
# Requests over a connection

What is sent for a request, and what is made of what a connection brings back. No
response is a failure that names the request and the reason, or else the kind of
the loss. A location that is no location at all is a fault of the caller.
-/

namespace Provisioning.Http

/-- What a connection brings back. -/
inductive Delivery where
  | response (response : Response)
  /-- No response, of some kind and with a text that may be empty. -/
  | lost (kind text : String)
  | malformed

/-- The location that a request is sent to. -/
def Request.target (request : Request) : String :=
  Query.extend request.url request.params

/-- Binds a header; values of one name are joined. -/
def bindHeader (headers : List (String × String)) (header : String × String) :
    List (String × String) :=
  let name := Text.lower header.1
  match headers with
  | [] => [(name, header.2)]
  | (known, value) :: rest =>
    if known = name then (known, value ++ ", " ++ header.2) :: rest
    else (known, value) :: bindHeader rest header
termination_by headers.length

/-- The headers under names in lower case, with the length of a body that is not
empty. -/
def Response.received (response : Response) : Response :=
  let headers := response.headers.foldl bindHeader []
  let size := ("content-length", Numeral.intText response.body.length)
  let sized := response.body.isEmpty || headers.any fun header => header.1 == size.1
  { response with headers := if sized then headers else headers ++ [size] }

/-- The response to a request, or the failure to get one. -/
def Delivery.outcome (delivery : Delivery) (request : Request) : Except Failure Response :=
  match delivery with
  | .response reply => .ok reply.received
  | .lost kind text =>
    .error (.transport request.method request.url (if text = "" then kind else text) (some kind))
  | .malformed => .error (.fault .url)

end Provisioning.Http
