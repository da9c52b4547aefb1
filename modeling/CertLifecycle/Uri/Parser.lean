import CertLifecycle.Text.Blank
import CertLifecycle.Uri.Segments

/-!
Reading a URI. The schemes of the web and of files are special: they need no slashes to have an
authority, take backslashes for slashes, and spell their hosts in one way. Every other scheme has an
authority only after two slashes, and a path without a leading slash is kept as one text.
-/

namespace CertLifecycle.Uri

/-- What a scheme means for the rest. -/
inductive SchemeKind where
  | web (port : Nat)
  | file
  | other

/-- The kind of a lower-case scheme. -/
def SchemeKind.of (scheme : List Char) : SchemeKind :=
  match String.ofList scheme with
  | "http" | "ws" => .web 80
  | "https" | "wss" => .web 443
  | "ftp" => .web 21
  | "file" => .file
  | _ => .other

/-- A text without the control characters and spaces around it. -/
def trimControls (cs : List Char) : List Char :=
  let outer (c : Char) : Bool := c.toNat ≤ 0x20
  Text.dropTrailing outer (cs.dropWhile outer)

/-- The scheme in lower case, and what follows its colon. -/
def scheme? (cs : List Char) : Option (List Char × List Char) :=
  let belongs (c : Char) : Bool := c.isAlphanum || c == '+' || c == '-' || c == '.'
  match cs.takeWhile belongs, cs.dropWhile belongs with
  | first :: more, ':' :: rest =>
    if first.isAlpha then some ((first :: more).map Char.toLower, rest) else none
  | _, _ => none

/-- Whether a character separates segments. -/
def isSlash (special : Bool) (c : Char) : Bool :=
  c == '/' || (special && c == '\\')

/-- Whether a character begins the query or the fragment. -/
def endsPath (c : Char) : Bool :=
  c == '?' || c == '#'

/-- The query and the fragment that a text begins with. -/
def tail (web : Bool) (cs : List Char) : Option (List Char) × Option (List Char) :=
  let fragment (rest : List Char) : Option (List Char) :=
    match rest with
    | '#' :: text => some (escape escapesInFragment text)
    | _ => none
  match cs with
  | '?' :: rest =>
    (some (escape (escapesInQuery web) (rest.takeWhile (· != '#'))),
      fragment (rest.dropWhile (· != '#')))
  | rest => (none, fragment rest)

/-- Writes user name and password; a password that is empty leaves no colon. -/
def userInfoText (raw : List Char) : Option (List Char) :=
  let name := escape escapesInUserInfo (raw.takeWhile (· != ':'))
  let password := escape escapesInUserInfo ((raw.dropWhile (· != ':')).drop 1)
  let text := if password.isEmpty then name else name ++ [':'] ++ password
  if text.isEmpty then none else some text

/-- Cuts an authority after its last at sign: what stands before it, if there is one, and what
stands after it. -/
def cutUserInfo (cs : List Char) : Option (List Char) × List Char :=
  if cs.contains '@' then
    let after := (cs.reverse.takeWhile (· != '@')).reverse
    (some (cs.take (cs.length - after.length - 1)), after)
  else (none, cs)

/-- Cuts host and port apart at the first colon outside brackets; the part after the cut keeps its
colon. -/
def cutPort (inBrackets : Bool) : List Char → List Char × List Char
  | [] => ([], [])
  | c :: rest =>
    if c = ':' ∧ !inBrackets then ([], c :: rest)
    else
      let (host, port) := cutPort (if c = '[' then true else if c = ']' then false else inBrackets)
        rest
      (c :: host, port)

/-- The port after its colon, and what ends it: nothing or a backslash. A port that the scheme
implies is left out. -/
def port? (implied : Option Nat) : List Char → Option (Option Nat × List Char)
  | ':' :: rest => do
    let digits := rest.takeWhile Char.isDigit
    let after := rest.dropWhile Char.isDigit
    -- Only a backslash can follow the digits; every other end was cut off before.
    if !after.head?.all (· == '\\') then none
    else if digits.isEmpty then some (none, after)
    else
      let port ← Text.nat? 10 digits
      if port < 0x10000 then some (if implied = some port then none else some port, after) else none
  | rest => some (none, rest)

variable [Idna]

/-- Reads an authority, given what follows it. Also gives what belongs to the path already. -/
def authority? (kind : SchemeKind) (cs after : List Char) : Option (Authority × List Char) := do
  let special := match kind with
    | .other => false
    | _ => true
  let implied := match kind with
    | .web port => some port
    | _ => none
  let (rawInfo, location) := cutUserInfo cs
  -- A lone at sign must not be followed by anything.
  if rawInfo = some [] ∧ location.isEmpty ∧ !after.isEmpty then none
  else
    let (rawHost, rawPort) := cutPort false location
    let host ← if special then Host.ofDomain? rawHost else Host.ofName? rawHost
    let userInfo := rawInfo.bind userInfoText
    -- Without a host there is nothing that a user name or a port could belong to.
    if host = .name [] ∧ (userInfo.isSome ∨ !rawPort.isEmpty) then none
    else
      let (port, rest) ← port? implied rawPort
      some (⟨userInfo, host, port⟩, rest)

/-- Reads what follows the two slashes of a scheme that is not for files. -/
def afterSlashes? (scheme : List Char) (kind : SchemeKind) (special : Bool) (cs : List Char) :
    Option Uri := do
  let ends (c : Char) : Bool := isSlash special c || endsPath c
  let (authority, early) ← authority? kind (cs.takeWhile (!ends ·)) (cs.dropWhile (!ends ·))
  let rest := early ++ cs.dropWhile (!ends ·)
  let rawPath := rest.takeWhile (!endsPath ·)
  let (query, fragment) := tail special (rest.dropWhile (!endsPath ·))
  let path :=
    match rawPath with
    -- The path of a special scheme is never empty.
    | [] => if special then [[]] else []
    | first :: more =>
      (walkPath special false (if isSlash special first then more else first :: more)).1
  some ⟨scheme, some authority, .segments path, query, fragment⟩

/-- The host of a file: none is the same as the local one. -/
def fileHost? (cs : List Char) : Option Host := do
  if cs.isEmpty then some (.name [])
  else
    let host ← Host.ofDomain? cs
    some (if host = .name "localhost".toList then .name [] else host)

/-- A file URI with this host; path, query and fragment are read from a raw text. A drive letter
that opens the path takes the place of the host. -/
def fileUri (host : Host) (rest : List Char) : Uri :=
  let (segments, keepsHost) := walkPath true true (rest.takeWhile (!endsPath ·))
  let (query, fragment) := tail true (unbroken (rest.dropWhile (!endsPath ·)))
  let authority : Authority := ⟨none, if keepsHost then host else .name [], none⟩
  ⟨"file".toList, some authority, .segments segments, query, fragment⟩

/-- What follows the slash or backslash that a raw text begins with. -/
def afterSlash? (cs : List Char) : Option (List Char) :=
  match cs.dropWhile isBreak with
  | c :: rest => if isSlash true c then some rest else none
  | [] => none

/-- Reads what follows the two slashes of a file scheme. -/
def fileAfterSlashes? (cs : List Char) : Option Uri := do
  let ends (c : Char) : Bool := isSlash true c || endsPath c
  let rawHost := unbroken (cs.takeWhile (!ends ·))
  -- A drive letter where a host would be begins the path.
  if isDriveLetter rawHost then some (fileUri (.name []) cs)
  else
    let host ← fileHost? rawHost
    let path := cs.dropWhile (!ends ·)
    -- Without a host the slash before the path stands for an empty segment, so a drive letter
    -- after it does not open the path.
    if host = .name [] then some (fileUri host path)
    else some (fileUri host ((afterSlash? path).getD path))

/-- Reads what follows the colon of a file scheme, with its tabs and line ends. -/
def file? (cs : List Char) : Option Uri :=
  match afterSlash? cs with
  | none => some (fileUri (.name []) cs)
  | some rest =>
    match afterSlash? rest with
    | none => some (fileUri (.name []) rest)
    | some rest => fileAfterSlashes? rest

/-- Reads what follows the colon of a scheme that is neither of the web nor of files. -/
def other? (scheme cs : List Char) : Option Uri :=
  match cs with
  | '/' :: '/' :: rest => afterSlashes? scheme .other false rest
  | _ =>
    let rawPath := cs.takeWhile (!endsPath ·)
    let (query, fragment) := tail false (cs.dropWhile (!endsPath ·))
    let path :=
      match rawPath with
      | '/' :: rest => Path.segments (walkPath false false rest).1
      | text => Path.flat (escape escapesControls text)
    some ⟨scheme, none, path, query, fragment⟩

def parse? (s : String) : Option Uri := do
  let raw := trimControls s.toList
  let (scheme, rest) ← scheme? (unbroken raw)
  match SchemeKind.of scheme with
  | .web port => afterSlashes? scheme (.web port) true (rest.dropWhile (isSlash true))
  | .file => file? ((raw.dropWhile (· != ':')).drop 1)
  | .other => other? scheme rest

/-- A text in normal form if it is a URI, and as it stands otherwise. -/
def normalize (s : String) : String :=
  ((parse? s).map text).getD s

end CertLifecycle.Uri
