/-
ProxyClient/Address/Url.lean

What a URL tells of where to connect: scheme, user information, host, port
and query.  A reader of URLs finds these parts in a text.  It leaves user
information percent-encoded, and decodes the names and values of the query.

How texts are read is not a matter of connecting, and so the reader is a
parameter of what follows (`Url.Reader`).
-/
import ProxyClient.Error

namespace ProxyClient

/-- The parts of a URL. -/
structure Url where
  /-- What stands in front of the first colon, in small letters. -/
  scheme : String
  /-- The user, percent-encoded; empty if none is given. -/
  username : String := ""
  /-- The password, percent-encoded, if one is given. -/
  password : Option String := none
  /-- The host, if there is one. -/
  host : Option String := none
  /-- The port, if one is given. -/
  port : Option UInt16 := none
  /-- The names and values of the query, in order. -/
  query : List (String × String) := []
  deriving DecidableEq, Repr

namespace Url

/-- Finds the parts of the URL that a text is. -/
abbrev Reader := String → Except UrlFault Url

/-- The URL with a user and a password, of which the password may be empty
and then is not given. -/
def withUserInfo (url : Url) (user password : String) : Url :=
  { url with username := user, password := if password.isEmpty then none else some password }

end Url

end ProxyClient
