import Provisioning.Http
import Provisioning.Http.Authority
import Provisioning.Text.Case

/-!
# The path of a location

A location is a scheme, an authority behind two slashes, a path, a query behind a
question mark and a fragment behind a number sign; each part but the path may be
missing. An authority that names no host is refused.
-/

namespace Provisioning.Http.Location

def isLetter (c : Char) : Bool :=
  let n := c.toNat
  (97 ≤ n && n ≤ 122) || (65 ≤ n && n ≤ 90)

/-- What a scheme may hold behind its first letter. -/
def isSchemeChar (c : Char) : Bool :=
  isLetter c || Numeral.isDigit c || c == '+' || c == '-' || c == '.'

/-- Blanks and control characters before a location do not count, nor do tabs and
line ends inside it. -/
def clean (url : List Char) : List Char :=
  (url.dropWhile fun c => c.toNat ≤ 0x20).filter fun c =>
    c != '\t' && c != '\n' && c != '\r'

/-- The location behind its scheme, if it has one. -/
def dropScheme (url : List Char) : List Char :=
  let scheme := url.takeWhile (· != ':')
  match url.dropWhile (· != ':') with
  | [] => url
  | _ :: rest => if (scheme.head?.any isLetter) && scheme.all isSchemeChar then rest else url

def endsAuthority (c : Char) : Bool :=
  c == '/' || c == '?' || c == '#'

/-- The authority, if there is one, and what follows it. -/
def splitAuthority (url : List Char) : List Char × List Char :=
  match url with
  | '/' :: '/' :: rest =>
    (rest.takeWhile fun c => !endsAuthority c, rest.dropWhile fun c => !endsAuthority c)
  | _ => ([], url)

/-- The path of a location. -/
def path (url : String) : Except Fault String :=
  let (authority, rest) := splitAuthority (dropScheme (clean url.toList))
  match Authority.fault? authority with
  | some fault => .error (.authority fault)
  | none => .ok (String.ofList ((rest.takeWhile (· != '#')).takeWhile (· != '?')))

/-- A base that paths can be appended to: slashes at the end are dropped. -/
def base (url : String) : String :=
  String.ofList (Text.stripRight (· == '/') url.toList)

end Provisioning.Http.Location
