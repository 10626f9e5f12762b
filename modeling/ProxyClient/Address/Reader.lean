/-
ProxyClient/Address/Reader.lean

A reader of URLs.  A URL of a scheme that the web knows must have a host that
the web allows; of any other scheme the host may be missing, and is any text
without delimiters.
-/
import ProxyClient.Address.Ipv6
import ProxyClient.Address.Url
import ProxyClient.Domain.Basic
import ProxyClient.Text.Percent

namespace ProxyClient

namespace Url

/-! ### Schemes -/

/-- How URLs of a scheme are read. -/
inductive SchemeClass where
  /-- A scheme of the web, with a host. -/
  | web
  /-- Files, of which the host is optional. -/
  | file
  /-- Every other scheme. -/
  | other
  deriving DecidableEq, Repr

/-- The class of a scheme. -/
def classOf (scheme : String) : SchemeClass :=
  if scheme ∈ ["http", "https", "ws", "wss", "ftp"] then .web
  else if scheme = "file" then .file
  else .other

/-- Blanks and control characters around a URL do not belong to it. -/
def isOuterBlank (c : Char) : Bool := c.toNat ≤ 0x20

/-- Tabs and line ends inside a URL do not belong to it either. -/
def isLineBlank (c : Char) : Bool := c = '\t' ∨ c = '\n' ∨ c = '\r'

/-- The characters that belong to a URL. -/
def significant (text : String) : List Char :=
  let inner := ((text.toList.dropWhile isOuterBlank).reverse.dropWhile isOuterBlank).reverse
  inner.filter (!isLineBlank ·)

/-- The scheme and what follows its colon. -/
def scheme? (chars : List Char) : Option (String × List Char) := do
  let (scheme, rest) ← Text.splitFirst ':' chars
  let first ← scheme.head?
  if first.isAlpha ∧ scheme.all fun c => c.isAlphanum ∨ c = '+' ∨ c = '-' ∨ c = '.' then
    some (String.ofList (scheme.map Char.toLower), rest)
  else none

/-! ### User information -/

/-- The authority ends at one of these. -/
def endsAuthority (web : Bool) (c : Char) : Bool :=
  c = '/' ∨ c = '?' ∨ c = '#' ∨ (web ∧ c = '\\')

/-- The characters that stand for themselves in user information. -/
def keptInUserInfo (c : Char) : Bool :=
  0x20 < c.toNat ∧ c.toNat < 0x7F ∧
    c ∉ ['"', '#', '<', '>', '?', '`', '{', '}', '/', ':', ';', '=', '@', '[', '\\', ']', '^', '|']

/-- User information as it is kept. -/
def userInfoText (chars : List Char) : String :=
  String.ofList (Text.percentEncode keptInUserInfo chars)

/-- A URL with the user information that was found. -/
def withInfo (url : Url) : Option (String × String) → Url
  | none => url
  | some (user, password) => url.withUserInfo user password

/-- User, password and what follows the last `@` of the authority.  An `@`
without a host after it is a fault. -/
def userInfo (web : Bool) (chars : List Char) :
    Except UrlFault (Option (String × String) × List Char) :=
  let authority := chars.takeWhile (!endsAuthority web ·)
  let tail := chars.dropWhile (!endsAuthority web ·)
  match Text.splitLast '@' authority with
  | none => .ok (none, chars)
  | some ([], host) =>
    if host.isEmpty ∧ !tail.isEmpty then .error .emptyHost else .ok (none, host ++ tail)
  | some (info, host) =>
    let (user, password) := (Text.splitFirst ':' info).getD (info, [])
    let given := if user.isEmpty ∧ password.isEmpty then none
      else some (userInfoText user, userInfoText password)
    .ok (given, host ++ tail)

/-! ### Hosts -/

/-- The host ends at a colon outside of brackets, or where the authority ends. -/
def hostChars (web : Bool) : Bool → List Char → List Char
  | _, [] => []
  | inBrackets, c :: rest =>
    if (c = ':' ∧ !inBrackets) ∨ endsAuthority web c then []
    else
      let inside := if c = '[' then true else if c = ']' then false else inBrackets
      c :: hostChars web inside rest

/-- No host holds one of these. -/
def forbiddenInHost (c : Char) : Bool :=
  c ∈ [Char.ofNat 0, '\t', '\n', '\r', ' ', '#', '/', ':', '<', '>', '?', '@', '[', '\\', ']',
    '^', '|']

/-- The characters that stand for themselves in a host. -/
def keptInHost (c : Char) : Bool := 0x1F < c.toNat ∧ c.toNat < 0x7F

/-- An address in brackets. -/
def bracketed (chars : List Char) : Except UrlFault String :=
  if chars.getLast? = some ']' then
    match Ipv6.parse? chars.dropLast with
    | some pieces => .ok ("[" ++ Ipv6.toText pieces ++ "]")
    | none => .error .ipv6Address
  else .error .ipv6Address

/-- The host of a URL of a scheme that the web does not know. -/
def plainHost : List Char → Except UrlFault String
  | '[' :: rest => bracketed rest
  | chars =>
    if chars.any forbiddenInHost then .error .domainCharacter
    else .ok (String.ofList (Text.percentEncode keptInHost chars))

/-- A number in one of the notations of address parts; nothing for other texts. -/
def addressNumber? (chars : List Char) : Option Nat :=
  let (base, digits) := match chars with
    | '0' :: 'x' :: rest => (16, rest)
    | '0' :: 'X' :: rest => (16, rest)
    | '0' :: c :: rest => (8, c :: rest)
    | _ => (10, chars)
  let values := digits.map Text.hexDigit?
  if chars.isEmpty ∨ values.any (fun v => v.all (base ≤ ·)) then none
  else some (values.foldl (fun n v => base * n + v.getD 0) 0)

/-- A domain that ends in a number is an address of four numbers, some of
which may be drawn together into the last. -/
def isAddress (parts : List (List Char)) : Bool :=
  let numbers := parts.map addressNumber?
  match numbers.reverse with
  | some last :: others =>
    numbers.length ≤ 4 ∧ others.all (fun n => n.any (· < 256)) ∧ last < 256 ^ (5 - numbers.length)
  | _ => false

/-- The host of a URL of a scheme that the web knows: an address in brackets, or a domain
name, which may be percent-encoded. -/
def webHost : List Char → Except UrlFault String
  | '[' :: rest => bracketed rest
  | chars =>
    let text := (Text.percentDecode (Bytes.ofText (String.ofList chars))).toText?
    match text.bind fun name => Domain.labels? name.toList with
    | none => .error .internationalName
    | some labels =>
      let parts := if labels.length > 1 ∧ labels.getLast? = some [] then labels.dropLast else labels
      let last := parts.getLastD []
      let isNumber := (last.all Char.isDigit ∧ !last.isEmpty) ∨ (addressNumber? last).isSome
      if labels = [[]] then .error .emptyHost
      else if isNumber ∧ !isAddress parts then .error .ipv4Address
      else .ok (String.intercalate "." (labels.map String.ofList))

/-! ### Ports and queries -/

/-- The port after a colon, if any digit is given. -/
def portNumber (chars : List Char) : Except UrlFault (Option UInt16) :=
  let digits := chars.takeWhile Char.isDigit
  match chars.dropWhile Char.isDigit with
  | c :: _ => if endsAuthority true c then value digits else .error .port
  | [] => value digits
where
  /-- The number that digits make. -/
  value (digits : List Char) : Except UrlFault (Option UInt16) :=
    match Text.digits? digits with
    | none => .ok none
    | some n => if n < 65536 then .ok (some (UInt16.ofNat n)) else .error .port

/-- The names and values of the query of a URL. -/
def queryPairs (chars : List Char) : List (String × String) :=
  match Text.splitFirst '?' (chars.takeWhile (· ≠ '#')) with
  | some (_, query) => Text.formPairs query
  | none => []

/-! ### URLs -/

/-- Reads what follows the two slashes. -/
def authority (scheme : String) (web : Bool) (chars : List Char) : Except UrlFault Url := do
  let (info, rest) ← userInfo web chars
  let host := hostChars web false rest
  let afterHost := rest.drop host.length
  if web ∧ host.isEmpty then throw .emptyHost
  let hostText ← if web then webHost host else plainHost host
  let hasPort := afterHost.head? = some ':'
  if host.isEmpty ∧ hasPort then throw .emptyHost
  let port ← if hasPort then portNumber (afterHost.drop 1) else pure none
  if host.isEmpty ∧ info.isSome then throw .emptyHost
  let url : Url := {
    scheme, port
    host := if host.isEmpty then none else some hostText
    query := queryPairs afterHost }
  return url.withInfo info

/-- Reads what follows the scheme of a file. -/
def fileUrl (chars : List Char) : Except UrlFault Url := do
  let isSlash c := c = '/' ∨ c = '\\'
  let url : Url := { scheme := "file", query := queryPairs chars }
  match chars with
  | a :: b :: rest =>
    if isSlash a ∧ isSlash b then
      let host := rest.takeWhile (!endsAuthority true ·)
      let drive := host.length = 2 ∧ (host.headD ' ').isAlpha ∧ host.getLastD ' ' ∈ [':', '|']
      if host.isEmpty ∨ drive then return url
      return { url with host := some (← webHost host) }
    return url
  | _ => return url

/-- The parts of the URL that a text is. -/
def parse : Reader := fun text =>
  match scheme? (significant text) with
  | none => .error .noScheme
  | some (scheme, rest) =>
    match classOf scheme with
    | .file => fileUrl rest
    | .web => authority scheme true (rest.dropWhile fun c => c = '/' ∨ c = '\\')
    | .other =>
      match rest with
      | '/' :: '/' :: rest => authority scheme false rest
      | _ => .ok { scheme, query := queryPairs rest }

end Url

end ProxyClient
