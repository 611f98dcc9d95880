import ClusterRpc.Url.Host
import ClusterRpc.Url.Path

/-! # URLs

Of a URL the library keeps the scheme and where it leads: host, port and path. User names,
passwords, queries and fragments are read over. -/

namespace ClusterRpc.Url

/-- How the text behind a scheme is read. -/
inductive Family where
  /-- Hosts are domains, a backslash is a slash, and the default port is not written. -/
  | web (defaultPort : Nat)
  | file
  | other
deriving DecidableEq, Repr

def Family.ofScheme (scheme : Text) : Family :=
  match String.ofList scheme with
  | "http" | "ws" => .web 80
  | "https" | "wss" => .web 443
  | "ftp" => .web 21
  | "file" => .file
  | _ => .other

def Family.isWeb : Family → Bool
  | .web _ => true
  | _ => false

/-- Whether a character separates the segments of a path. -/
def Family.isSlash (f : Family) (c : Char) : Bool := c == '/' || (f.isWeb && c == '\\')

/-- Whether a character ends the part of a URL that names the host. -/
def Family.endsAuthority (f : Family) (c : Char) : Bool := f.isSlash c || c == '?' || c == '#'

/-- Where a URL leads. -/
structure Location where
  host : Host
  /-- The port, unless it is missing or the scheme's default. -/
  port : Option Nat
  path : Text
deriving DecidableEq, Repr

/-- Reads over the user and password before a host, and tells whether there were any. -/
def dropUser (f : Family) (s : Text) : Except Fault (Bool × Text) :=
  let authority := s.takeWhile (!f.endsAuthority ·)
  let behind := s.drop authority.length
  let host := (authority.reverse.takeWhile (· != '@')).reverse
  let user := authority.take (authority.length - host.length - 1)
  if host.length = authority.length then .ok (false, s)
  else if user.isEmpty ∧ host.isEmpty ∧ behind ≠ [] then .error .emptyHost
  else .ok (user ≠ [] ∧ user ≠ [':'], host ++ behind)

/-- How many characters of `s` make up the host. A colon between brackets does not end it. -/
def hostLength (f : Family) : Bool → Text → Nat
  | _, [] => 0
  | inside, c :: rest =>
      if f.endsAuthority c || (c == ':' && !inside) then 0
      else hostLength f (if c = '[' then true else if c = ']' then false else inside) rest + 1

/-- Reads the port behind a colon, and gives what follows it. -/
def readPort (f : Family) (s : Text) : Except Fault (Option Nat × Text) :=
  let digits := s.takeWhile Char.isDigit
  let rest := s.drop digits.length
  if rest.head?.any (!"/\\?#".toList.contains ·) then .error .port
  else if digits.isEmpty then .ok (none, rest)
  else match Text.numeral? 65535 digits with
    | none => .error .port
    | some port => .ok (if f = .web port then none else some port, rest)

/-- Reads the path. In the web family there always is one. -/
def readPath (f : Family) (s : Text) : Text :=
  let path := s.takeWhile fun c => c != '?' && c != '#'
  match path with
  | [] => if f.isWeb then ['/'] else []
  | c :: rest => Path.resolve f.isSlash (if f.isSlash c then rest else path)

/-- Reads what follows the two slashes. A missing host is no location, unless something else claims
that there is a host: the family, a port or a user. -/
def readAuthority (f : Family) (s : Text) : Except Fault (Option Location) := do
  let (hasUser, s) ← dropUser f s
  let host := s.take (hostLength f false s)
  let rest := s.drop host.length
  if f.isWeb ∧ host.isEmpty then throw .emptyHost
  let host ← if f.isWeb then Host.ofDomain host else Host.ofOpaque host
  if host = .name [] ∧ rest.head? = some ':' then throw .emptyHost
  let (port, rest) ← match rest with
    | ':' :: behind => readPort f behind
    | _ => pure (none, rest)
  if host = .name [] then
    if hasUser then throw .emptyHost else return none
  return some { host, port, path := readPath f rest }

/-- Files are not reached over a connection, but a host named for one still has to be a host. -/
def checkFileHost (s : Text) : Except Fault Unit :=
  let isEnd (c : Char) : Bool := "/\\?#".toList.contains c
  let host := s.takeWhile (!isEnd ·)
  if host.isEmpty || Path.isDrive host then .ok ()
  else do
    let _ ← Host.ofDomain host

/-- Reads what follows the colon of the scheme. -/
def readLocation (f : Family) (s : Text) : Except Fault (Option Location) :=
  match f, s with
  | .web _, s => readAuthority f (s.dropWhile f.isSlash)
  | .file, c :: d :: rest =>
      if (c = '/' ∨ c = '\\') ∧ (d = '/' ∨ d = '\\') then (checkFileHost rest).map fun _ => none
      else .ok none
  | .other, '/' :: '/' :: rest => readAuthority f rest
  | _, _ => .ok none

/-- The text without control characters and spaces around it, and without tabs and line breaks. -/
def clean (s : Text) : Text :=
  let outer (c : Char) : Bool := c ≤ ' '
  let trimmed := ((s.dropWhile outer).reverse.dropWhile outer).reverse
  trimmed.filter fun c => c != '\t' && c != '\n' && c != '\r'

def isSchemeChar (c : Char) : Bool := c.isAlphanum || c == '+' || c == '-' || c == '.'

/-- The scheme in lower case, and what follows its colon. -/
def readScheme (s : Text) : Except Fault (Text × Text) :=
  let scheme := s.takeWhile isSchemeChar
  if scheme.head?.any Char.isAlpha then
    match s.drop scheme.length with
    | ':' :: rest => .ok (scheme.map Char.toLower, rest)
    | _ => .error .noScheme
  else .error .noScheme

/-- The scheme of a URL and, if it names a host, where it leads. -/
def parse (s : Text) : Except Fault (Text × Option Location) := do
  let (scheme, rest) ← readScheme (clean s)
  return (scheme, ← readLocation (.ofScheme scheme) rest)

end ClusterRpc.Url
