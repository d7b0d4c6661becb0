import Provisioning.Bytes.Base64
import Provisioning.Text.Parts
import Provisioning.Text.Utf8

/-!
# Credentials of a hub

Pairs of a user and a password, separated by commas; a part without exactly one
colon is no pair. A repeated user keeps the first place and takes the last
password. The first pair makes the header of basic authorization.
-/

namespace Provisioning.Credentials

/-- The user and the password in a part with exactly one colon. -/
def pair? (part : List Char) : Option (String × String) :=
  match Text.splitAt ':' part with
  | [user, password] => some (String.ofList user, String.ofList password)
  | _ => none

/-- Sets the password of a user. -/
def put (user password : String) : List (String × String) → List (String × String)
  | [] => [(user, password)]
  | (u, p) :: rest => if u = user then (u, password) :: rest else (u, p) :: put user password rest

/-- The pairs in a text, by user. -/
def parse (text : String) : List (String × String) :=
  if text = "" then []
  else
    ((Text.splitAt ',' text.toList).filterMap pair?).foldl
      (fun users (user, password) => put user password users) []

/-- The header of basic authorization. -/
def basicHeader (user password : String) : String :=
  "Basic " ++ Base64.encode (Utf8.encode (user ++ ":" ++ password))

/-- The header that the first pair makes, if there is one. -/
def header? (text : Option String) : Option String :=
  match text.map parse with
  | some ((user, password) :: _) => some (basicHeader user password)
  | _ => none

end Provisioning.Credentials
