import NetReconcile.Web.Host

/-!
# URLs

A URL is read the way web browsers read one, without a base URL: surrounding controls
and spaces are trimmed and tabs and line breaks removed; the scheme is lowercased;
`http`, `https`, `ws`, `wss`, `ftp` and `file` are special: their authority may follow
any number of slashes or backslashes, their host must not be empty, their default port
is dropped and their path always starts with `/`. A scheme without special meaning has
an authority only after `//`, whose host may be empty; otherwise its path is opaque text.

Paths are cut into segments; `.` segments are dropped and `..` segments remove the
segment before them. Characters a component may not hold as they are are
percent-encoded, and so is every character beyond ASCII. A file URL has no host for
`localhost`, and leading empty segments of its path are removed.

Writing a URL gives the scheme, `//` and the authority when there is a host (an empty
one included), the path, and the query and fragment when present; a path of a URL without
a host that would start with `//` is written after `/.` so that it is not read back as an
authority.
-/

namespace NetReconcile.Web

/-- The path of a URL: segments, or one whole text that is not cut into segments. -/
inductive UrlPath where
  | segments (parts : List String)
  | whole (text : String)
  deriving DecidableEq, Repr

/-- A URL. -/
structure Url where
  scheme : String
  username : String
  password : String
  host : Option Host
  port : Option Nat
  path : UrlPath
  query : Option String
  fragment : Option String
  deriving DecidableEq, Repr

/-- The default port of a special scheme. -/
def defaultPort : String → Option Nat
  | "http" | "ws" => some 80
  | "https" | "wss" => some 443
  | "ftp" => some 21
  | _ => none

/-- Whether a scheme is special. -/
def isSpecialScheme (s : String) : Bool := s = "file" || (defaultPort s).isSome

/-- Characters encoded in a fragment: controls, space, `"`, `<`, `>` and the backtick. -/
def fragmentSet (c : Char) : Bool := controlSet c || " \"<>\x60".toList.contains c

/-- Characters encoded in a query. -/
def querySet (c : Char) : Bool := controlSet c || " \"#<>".toList.contains c

/-- Characters encoded in a query of a special URL: also the apostrophe. -/
def specialQuerySet (c : Char) : Bool := querySet c || c = '\x27'

/-- Characters encoded in a path segment. -/
def pathSet (c : Char) : Bool := fragmentSet c || "#?\x7b\x7d".toList.contains c

/-- Characters encoded in a user name or password. -/
def userinfoSet (c : Char) : Bool := pathSet c || "/:;=@[\\]^|".toList.contains c

/-- Trim controls and spaces from both ends, and remove tabs and line breaks. -/
def preprocess (input : String) : List Char :=
  let trimmed := ((input.toList.dropWhile (·.toNat ≤ 0x20)).reverse.dropWhile (·.toNat ≤ 0x20)).reverse
  trimmed.filter fun c => c != '\t' && c != '\n' && c != '\r'

/-- The rest of a scheme after its first letter, up to the colon. -/
def schemeRest (acc : List Char) : List Char → Option (String × List Char)
  | [] => none
  | ':' :: rest => some (String.ofList acc.reverse, rest)
  | c :: rest =>
    if c.isAlphanum || c = '+' || c = '-' || c = '.' then schemeRest (c.toLower :: acc) rest
    else none

/-- The scheme of a URL and what follows its colon, when it has one. -/
def splitScheme : List Char → Option (String × List Char)
  | c :: rest => if c.isAlpha then schemeRest [c.toLower] rest else none
  | [] => none

/-- Whether a character ends a path segment. -/
def isSeparator (special : Bool) (c : Char) : Bool := c = '/' || (special && c = '\\')

/-- Whether a segment is `.`, also written `%2e`. -/
def isSingleDot (s : String) : Bool := s = "." || s.toLower = "%2e"

/-- Whether a segment is `..`, with either dot also written `%2e`. -/
def isDoubleDot (s : String) : Bool :=
  let l := s.toLower
  l = ".." || l = ".%2e" || l = "%2e." || l = "%2e%2e"

/-- Whether a segment is a drive letter: a letter and `:` or `|`. -/
def isDriveLetter (s : String) : Bool :=
  match s.toList with
  | [a, b] => a.isAlpha && (b = ':' || b = '|')
  | _ => false

/-- Whether a segment is a drive letter written with `:`. -/
def isNormalizedDriveLetter (s : String) : Bool :=
  match s.toList with
  | [a, b] => a.isAlpha && b = ':'
  | _ => false

/-- Remove the last segment, except a file path's lone drive letter. -/
def shorten (file : Bool) (path : List String) : List String :=
  match path with
  | [d] => if file && isNormalizedDriveLetter d then path else []
  | _ => path.dropLast

/-- Finish a segment at a separator (`more`) or at the end of the path. -/
def finishSegment (file more : Bool) (path : List String) (buffer : String) : List String :=
  if isDoubleDot buffer then
    let path := shorten file path
    if more then path else path ++ [""]
  else if isSingleDot buffer then
    if more then path else path ++ [""]
  else if file && path.isEmpty && isDriveLetter buffer then
    path ++ [String.ofList (buffer.toList.take 1 ++ [':'])]
  else path ++ [buffer]

/-- Read path segments up to a `?`, a `#` or the end, adding to `path`. -/
def readSegments (special file : Bool) (path : List String) (buffer : List Char) :
    List Char → List String × List Char
  | [] => (finishSegment file false path (percentEncode pathSet buffer.reverse), [])
  | c :: rest =>
    if c = '?' || c = '#' then
      (finishSegment file false path (percentEncode pathSet buffer.reverse), c :: rest)
    else if isSeparator special c then
      readSegments special file (finishSegment file true path (percentEncode pathSet buffer.reverse))
        [] rest
    else readSegments special file path (c :: buffer) rest

/-- Drop leading empty segments of a file path while more than one remains. -/
def dropLeadingEmpty : List String → List String
  | "" :: s :: rest => dropLeadingEmpty (s :: rest)
  | path => path

/-- The query and fragment after a path. -/
def readQueryFragment (special : Bool) : List Char → Option String × Option String
  | '?' :: rest =>
    let q := rest.takeWhile (· != '#')
    let afterQ := rest.dropWhile (· != '#')
    let set := if special then specialQuerySet else querySet
    (some (percentEncode set q), match afterQ with
      | '#' :: f => some (percentEncode fragmentSet f)
      | _ => none)
  | '#' :: f => (none, some (percentEncode fragmentSet f))
  | _ => (none, none)

/-- A port after its colon, and what follows its digits: none when it has no digits or
is the scheme's default. The digits end at a slash, a backslash, `?`, `#` or the end,
whatever the scheme. -/
def readPort (scheme : String) (cs : List Char) : Except UrlError (Option Nat × List Char) := do
  let digits := cs.takeWhile Char.isDigit
  let rest := cs.drop digits.length
  match rest with
  | c :: _ => if !(c = '/' || c = '\\' || c = '?' || c = '#') then throw .invalidPort
  | [] => pure ()
  let n : Nat := digits.foldl (fun acc c => acc * 10 + (c.toNat - 48)) 0
  if n > 65535 then throw .invalidPort
  if digits.isEmpty || defaultPort scheme == some n then return (none, rest)
  return (some n, rest)

/-- Split at the last `@`: what stands before it and after it. -/
def splitLastAt (cs : List Char) : Option (List Char × List Char) :=
  match (cs.reverse.span (· != '@')) with
  | (_, []) => none
  | (revAfter, _ :: revBefore) => some (revBefore.reverse, revAfter.reverse)

/-- Split a host from its port at the first colon outside brackets. -/
def splitHostPort (cs : List Char) : List Char × Option (List Char) :=
  let step (acc : Option (List Char × List Char) × Bool × List Char) (c : Char) :=
    let (found, inside, host) := acc
    match found with
    | some (h, p) => (some (h, p ++ [c]), inside, host)
    | none =>
      if c = ':' && !inside then (some (host, []), inside, host)
      else (none, if c = '[' then true else if c = ']' then false else inside, host ++ [c])
  match cs.foldl step (none, false, []) with
  | (some (h, p), _, _) => (h, some p)
  | (none, _, h) => (h, none)

/-- The user name and password of userinfo, percent-encoded. -/
def readUserinfo (cs : List Char) : String × String :=
  let user := cs.takeWhile (· != ':')
  match cs.drop user.length with
  | ':' :: pass => (percentEncode userinfoSet user, percentEncode userinfoSet pass)
  | _ => (percentEncode userinfoSet user, "")

/-- A URL of a scheme other than `file`, from what follows its authority's slashes. -/
def readAuthority (scheme : String) (special : Bool) (input : List Char) : Except UrlError Url := do
  let ends (c : Char) : Bool := c = '/' || c = '?' || c = '#' || (special && c = '\\')
  let authority := input.takeWhile (!ends ·)
  let rest := input.drop authority.length
  let (user, pass, hostPort) ← match splitLastAt authority with
    | none => pure ("", "", authority)
    | some ([], after) =>
      match (after ++ rest).head? with
      | some c => if ends c then throw .emptyHost else pure ("", "", after)
      | none => pure ("", "", after)
    | some (before, after) =>
      let (u, p) := readUserinfo before
      pure (u, p, after)
  let (hostText, portText) := splitHostPort hostPort
  if special && hostText.isEmpty then throw .emptyHost
  let host ← if special then parseHost hostText else parseOpaqueHost hostText
  let emptyHost := host == .domain ""
  if emptyHost && portText.isSome then throw .emptyHost
  let (port, rest) ← match portText with
    | some p => readPort scheme (p ++ rest)
    | none => pure (none, rest)
  if emptyHost && (!user.isEmpty || !pass.isEmpty) then throw .emptyHost
  let (path, rest) :=
    if special then
      let rest := match rest with
        | c :: r => if c = '/' || c = '\\' then r else rest
        | [] => rest
      readSegments true false [] [] rest
    else match rest with
      | [] => ([], [])
      | '?' :: _ | '#' :: _ => ([], rest)
      | '/' :: r => readSegments false false [] [] r
      | _ => readSegments false false [] [] rest
  let (query, fragment) := readQueryFragment special rest
  return ⟨scheme, user, pass, some host, port, .segments path, query, fragment⟩

/-- Whether a character ends a file host. -/
def endsFileHost (c : Char) : Bool := c = '/' || c = '\\' || c = '?' || c = '#'

/-- A file URL from what follows `file:`. -/
def readFile (input : List Char) : Except UrlError Url := do
  let finish (host : Option Host) (path : List String) (rest : List Char) : Url :=
    let (query, fragment) := readQueryFragment true rest
    ⟨"file", "", "", host, none, .segments (dropLeadingEmpty path), query, fragment⟩
  match input with
  | c :: afterFirst =>
    if c = '/' || c = '\\' then
      match afterFirst with
      | d :: afterSecond =>
        if d = '/' || d = '\\' then
          let hostText := afterSecond.takeWhile (!endsFileHost ·)
          if isDriveLetter (String.ofList hostText) then
            let (path, rest) := readSegments true true [] [] afterSecond
            return finish none path rest
          let rest := afterSecond.drop hostText.length
          if hostText.isEmpty then
            let (path, rest) := readSegments true true [""] [] rest
            return finish none path rest
          let host ← parseHost hostText
          if host == .domain "localhost" then
            let (path, rest) := readSegments true true [""] [] rest
            return finish none path rest
          let rest := match rest with
            | e :: r => if e = '/' || e = '\\' then r else rest
            | [] => rest
          let (path, rest) := readSegments true true [] [] rest
          let host := match path.head? with
            | some seg => if isNormalizedDriveLetter seg then none else some host
            | none => some host
          return finish host path rest
        else
          let (path, rest) := readSegments true true [""] [] afterFirst
          return finish none path rest
      | [] =>
        let (path, rest) := readSegments true true [""] [] afterFirst
        return finish none path rest
    else
      let (path, rest) := readSegments true true [] [] input
      return finish none path rest
  | [] =>
    let (path, rest) := readSegments true true [] [] []
    return finish none path rest

/-- Read a URL. -/
def Url.parse (input : String) : Except UrlError Url := do
  let cs := preprocess input
  let some (scheme, rest) := splitScheme cs | throw .relativeWithoutBase
  if scheme = "file" then readFile rest
  else if isSpecialScheme scheme then
    readAuthority scheme true (rest.dropWhile fun c => c = '/' || c = '\\')
  else match rest with
    | '/' :: '/' :: r => readAuthority scheme false r
    | '/' :: r =>
      let (path, rest) := readSegments false false [] [] r
      let (query, fragment) := readQueryFragment false rest
      return ⟨scheme, "", "", none, none, .segments path, query, fragment⟩
    | _ =>
      let text := rest.takeWhile fun c => c != '?' && c != '#'
      let (query, fragment) := readQueryFragment false (rest.drop text.length)
      return ⟨scheme, "", "", none, none, .whole (percentEncode controlSet text), query, fragment⟩

/-- The text of a URL. -/
def Url.write (u : Url) : String :=
  let authority := match u.host with
    | some h =>
      let creds := if u.username.isEmpty && u.password.isEmpty then ""
        else u.username ++ (if u.password.isEmpty then "" else ":" ++ u.password) ++ "@"
      let port := match u.port with
        | some p => ":" ++ toString p
        | none => ""
      "//" ++ creds ++ h.text ++ port
    | none => if u.scheme = "file" then "//" else ""
  let path := match u.path with
    | .whole t => t
    | .segments ps =>
      let lead := if u.host.isNone && u.scheme != "file" && ps.length > 1 && ps.head? == some ""
        then "/." else ""
      lead ++ String.join (ps.map ("/" ++ ·))
  let query := match u.query with
    | some q => "?" ++ q
    | none => ""
  let fragment := match u.fragment with
    | some f => "#" ++ f
    | none => ""
  u.scheme ++ ":" ++ authority ++ path ++ query ++ fragment

end NetReconcile.Web
