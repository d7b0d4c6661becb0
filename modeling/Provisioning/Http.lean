import Provisioning.Json.Reader
import Provisioning.Json.Writer

/-!
# Requests and responses

A request names a method, a location and what goes with them; a response is a
status with a body of bytes. A body that is blank holds no document. The shown
text of a body replaces what is not UTF-8.
-/

namespace Provisioning.Http

structure Request where
  method : String
  url : String
  params : List (String × String)
  headers : List (String × String)
  body : Bytes
deriving BEq

structure Response where
  status : Int
  body : Bytes
  headers : List (String × String)

namespace Response

/-- A response with a status and the bytes of a text. -/
def ofText (status : Int) (text : String) : Response :=
  ⟨status, Utf8.encode text, []⟩

/-- A response that holds a document. -/
def ofJson (status : Int) (document : Json) : Response :=
  ⟨status, document.plainBytes, [("content-type", "application/json")]⟩

/-- Whether the status reports success. -/
def ok (response : Response) : Bool :=
  200 ≤ response.status && response.status < 300

def text (response : Response) : String :=
  Utf8.decodeLossy response.body

/-- The document in the body; nothing if the body is blank. -/
def document (response : Response) : Except Json.DocumentError Json :=
  if response.body.all Bytes.isBlank then .ok .null
  else Json.readBytes response.body

/-- The text of the body, or the status if there is none. -/
def textOrStatus (response : Response) : String :=
  let text := response.text
  if text = "" then "HTTP " ++ Numeral.intText response.status else text

end Response

end Provisioning.Http
